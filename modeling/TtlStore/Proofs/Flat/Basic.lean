import Mathlib.Data.Multiset.MapFold
import TtlStore.Proofs.Session.Settled

/-!
# A flat reference store

The reference is one map from keys to entries: it has no shards and no index,
and a sweep of it looks at every entry.  Its calendar serves only to tell which
buckets are closed.  In what order tables list their keys makes no difference to
it.

Both stores are asked the same operations and give the same kind of answers.
What a sweep or a clearing hands out is compared as a multiset of items, since
the two stores come upon them in different orders.
-/

namespace TtlStore

/-- One map of entries, with a clock and the calendar by which it is swept. -/
structure Flat (V : Type) where
  calendar : Calendar
  clock : Instant
  entries : Std.ExtTreeMap Key (Entry V)

/-- What can be asked of a store. -/
inductive Operation (V R : Type) where
  | set (write : Write V)
  | update (write : Write V)
  | delete (key : Key) (token : Token)
  | get (key : Key) (token : Token)
  | deadline (key : Key)
  | size
  | isEmpty
  | cleanup (hooks : SweepHooks V R)
  | clear (hook : Option (ClearHook V R))
  | advance (span : Duration)
  | setClock (instant : Instant)
  | relist (listing : Listing)

/-- What a store answers. -/
inductive Outcome (V : Type) where
  | reply (reply : Reply V)
  | size (count : Nat)
  | isEmpty (verdict : Bool)
  | swept (items : Multiset (Item V)) (evicted : Nat)
  | cleared (items : Multiset (Item V))

/-- The collaborators of an operation, if it has any, change no session. -/
def Operation.Quiet {V R : Type} : Operation V R → Prop
  | .cleanup hooks => hooks.Quiet
  | .clear hook => ClearHook.Quiet hook
  | _ => True

/-- The answers to operations that are carried out one after another. -/
def outcomes
    {State V R : Type}
    (operate : State → Operation V R → State × Outcome V)
    (state : State) :
    List (Operation V R) → List (Outcome V)
  | [] => []
  | operation :: rest =>
      (operate state operation).2 ::
        outcomes operate (operate state operation).1 rest

namespace Session

variable {V R : Type}

/-- Carry out an operation on a session. -/
def operate (session : Session V) :
    Operation V R → Session V × Outcome V
  | .set write =>
      ((session.perform (.set write)).1,
        .reply (session.perform (.set write)).2)
  | .update write =>
      ((session.perform (.update write)).1,
        .reply (session.perform (.update write)).2)
  | .delete key token =>
      ((session.perform (.delete key token)).1,
        .reply (session.perform (.delete key token)).2)
  | .get key token => (session, .reply (session.perform (.get key token)).2)
  | .deadline key => (session, .reply (session.perform (.deadline key)).2)
  | .size => (session, .size session.store.size)
  | .isEmpty => (session, .isEmpty session.store.isEmpty)
  | .cleanup hooks =>
      ((session.sweep hooks).1,
        .swept ((session.sweep hooks).2.notices.map (·.item))
          (session.sweep hooks).2.count.evicted)
  | .clear hook =>
      ((session.clear hook).1,
        .cleared ((session.clear hook).2.map (·.item)))
  | .advance span =>
      ((session.perform (.advance span)).1,
        .reply (session.perform (.advance span)).2)
  | .setClock instant =>
      ((session.perform (.setClock instant)).1,
        .reply (session.perform (.setClock instant)).2)
  | .relist listing =>
      ((session.perform (.relist listing)).1,
        .reply (session.perform (.relist listing)).2)

end Session

namespace Flat

variable {V R : Type}

/-- The store without entries. -/
def empty (calendar : Calendar) (clock : Instant) : Flat V where
  calendar := calendar
  clock := clock
  entries := ∅

/-- A write is accepted if the key is free or its entry's token accepts it. -/
def accepts (flat : Flat V) (key : Key) (token : Token) : Bool :=
  match flat.entries[key]? with
  | none => true
  | some entry => Token.acceptsWrite entry.token token

/-- The value under a key, if the token reads it and it has not expired. -/
def get (flat : Flat V) (key : Key) (token : Token) : Option V :=
  match flat.entries[key]? with
  | none => none
  | some entry =>
      if Token.answersRead entry.token token ∧
          ¬ deadlinePassed entry.deadline flat.clock then
        some entry.value
      else
        none

/-- Store an item under its key. -/
def put (flat : Flat V) (item : Item V) : Flat V :=
  { flat with entries := flat.entries.insert item.key item.entry }

/-- Carry out an operation on the reference store. -/
def operate (flat : Flat V) : Operation V R → Flat V × Outcome V
  | .set write =>
      match write.item flat.clock with
      | .error error => (flat, .reply (.failed error))
      | .ok item =>
          if flat.accepts item.key item.token then
            (flat.put item, .reply .done)
          else
            (flat, .reply (.refused .set item.key))
  | .update write =>
      match write.item flat.clock with
      | .error error => (flat, .reply (.failed error))
      | .ok item =>
          match flat.entries[item.key]? with
          | none => (flat, .reply (.replaced none))
          | some existing =>
              if flat.accepts item.key item.token then
                (flat.put item, .reply (.replaced (some existing.value)))
              else
                (flat, .reply (.refused .update item.key))
  | .delete key token =>
      match flat.entries[key]? with
      | none => (flat, .reply (.deleted none))
      | some existing =>
          if flat.accepts key token then
            ({ flat with entries := flat.entries.erase key },
              .reply (.deleted (some (existing.token, existing.value))))
          else
            (flat, .reply (.refused .delete key))
  | .get key token => (flat, .reply (.value (flat.get key token)))
  | .deadline key =>
      (flat, .reply (.deadline ((flat.entries[key]?).bind (·.deadline))))
  | .size => (flat, .size flat.entries.size)
  | .isEmpty => (flat, .isEmpty flat.entries.isEmpty)
  | .cleanup _ =>
      let due :=
        flat.entries.filter fun _ entry =>
          entry.isDue flat.calendar flat.clock
      let left :=
        flat.entries.filter fun _ entry =>
          !entry.isDue flat.calendar flat.clock
      ({ flat with entries := left }, .swept (Store.itemsOf due) due.size)
  | .clear hook =>
      ({ flat with entries := ∅ },
        .cleared (if hook.isSome then Store.itemsOf flat.entries else 0))
  | .advance span =>
      ({ flat with clock := flat.clock.shift span }, .reply .done)
  | .setClock instant => ({ flat with clock := instant }, .reply .done)
  | .relist _ => (flat, .reply .done)

end Flat

end TtlStore
