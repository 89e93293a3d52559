import TtlStore.Session.Perform

/-!
# Clearing

Clearing drains the shards in order.  A shard is emptied at once; only then is
the callback, if there is one, handed its items, in the order in which the shard
listed its keys.  What the callback writes into a shard that is still to be
drained is therefore drained as well, and what it writes into one already
drained stays.  The index is left alone.
-/

namespace TtlStore

/-- What the callback does to a session when it is handed its numbered items. -/
abbrev ClearHook (V R : Type) :=
  Nat → Item V → Session V → Session V × List R

namespace Session

variable {V R : Type}

/-- Hand over items in order, numbered from the given number on. -/
def bidFarewell
    (hook : ClearHook V R)
    (number : Nat)
    (session : Session V) :
    List (Item V) → Session V × List (Farewell V R)
  | [] => (session, [])
  | item :: rest =>
      let (next, replies) := hook number item session
      let (last, farewells) := bidFarewell hook (number + 1) next rest
      (last, { item := item, replies := replies } :: farewells)

/-- Drain shards in order and hand over their items. -/
def drainAll
    (hook : Option (ClearHook V R))
    (number : Nat)
    (session : Session V) :
    List Nat → Session V × List (Farewell V R)
  | [] => (session, [])
  | shard :: rest =>
      let emptied := session.withStore (session.store.emptyShard shard)
      match hook with
      | none => drainAll none number emptied rest
      | some handOver =>
          let (next, farewells) :=
            bidFarewell handOver number emptied
              (session.store.shardItems session.listing shard)
          let (last, later) :=
            drainAll (some handOver) (number + farewells.length) next rest
          (last, farewells ++ later)

/-- Drain every shard. -/
def clear
    (session : Session V)
    (hook : Option (ClearHook V R)) :
    Session V × List (Farewell V R) :=
  drainAll hook 0 session (List.range session.store.shardCount)

end Session

end TtlStore
