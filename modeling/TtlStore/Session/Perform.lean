import TtlStore.Session.Reply

/-!
# Carrying out commands

Each command is one step of a session.  A write that the owner of the entry
refuses, and a write whose deadline is not representable, leave the session as
it was.
-/

namespace TtlStore

namespace Session

variable {V : Type}

/-- The session with another store. -/
def withStore (session : Session V) (store : Store V) : Session V :=
  { session with store := store }

/-- Store what a request asks for. -/
def set (session : Session V) (write : Write V) :
    Session V × Reply V :=
  match write.item session.clock with
  | .error error => (session, .failed error)
  | .ok item =>
      if session.store.refuses item.key item.token then
        (session, .refused .set item.key)
      else
        (session.withStore (session.store.set item), .done)

/-- Replace what is stored under the key of a request. -/
def update (session : Session V) (write : Write V) :
    Session V × Reply V :=
  match write.item session.clock with
  | .error error => (session, .failed error)
  | .ok item =>
      if session.store.refuses item.key item.token then
        (session, .refused .update item.key)
      else
        let (store, previous) := session.store.update item
        (session.withStore store, .replaced previous)

/-- Delete what is stored under a key. -/
def delete (session : Session V) (key : Key) (token : Token) :
    Session V × Reply V :=
  if session.store.refuses key token then
    (session, .refused .delete key)
  else
    let (store, previous) := session.store.delete key token
    (session.withStore store, .deleted previous)

/--
Store what a list of requests asks for, one after another, up to the first
whose deadline is not representable.  The keys whose owner refused come first
in the result, then the error.
-/
def setAll (session : Session V) :
    List (Write V) → Session V × List Key × Option TimeError
  | [] => (session, [], none)
  | write :: rest =>
      match session.set write with
      | (_, .failed error) => (session, [], some error)
      | (next, .refused _ key) =>
          let (last, refused, failure) := next.setAll rest
          (last, key :: refused, failure)
      | (next, _) => next.setAll rest

/-- Carry out one command. -/
def perform (session : Session V) :
    Command V → Session V × Reply V
  | .set write => session.set write
  | .setAll writes =>
      let (next, refused, failure) := session.setAll writes
      (next, .stored refused failure)
  | .update write => session.update write
  | .get key token =>
      (session, .value (session.store.get key token session.clock))
  | .delete key token => session.delete key token
  | .deadline key => (session, .deadline (session.store.deadline? key))
  | .advance span =>
      ({ session with clock := session.clock.shift span }, .done)
  | .setClock instant => ({ session with clock := instant }, .done)
  | .relist listing => ({ session with listing := listing }, .done)
  | .evict candidate now =>
      let (store, item) := session.store.evict candidate now
      (session.withStore store, .evicted item)
  | .indexAdd key token deadline =>
      (session.withStore
        (session.store.withIndex
          (session.store.index.add key token deadline)),
        .done)
  | .indexMove key token old new =>
      (session.withStore
        (session.store.withIndex
          (session.store.index.move key token old new)),
        .done)
  | .indexRemove key deadline =>
      (session.withStore
        (session.store.withIndex
          (session.store.index.remove key deadline)),
        .done)
  | .ask query => (session, .answer (session.store.answer query))

end Session

end TtlStore
