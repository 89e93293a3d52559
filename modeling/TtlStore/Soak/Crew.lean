import TtlStore.Soak.Launch

/-!
# A crew at work

In a soak run the workers of a crew take turns on one store while its sweeper
runs in the background.  A turn is taken at one reading of the clock, and the
sweeper's ticks are let pass between the turns.  At the end the crew reports
what its workers did and what the sweeper removed.
-/

namespace TtlStore.Soak

/-- A worker with its random state and its counts. -/
structure Member where
  worker : Worker
  random : UInt64
  tally : Tally

/-- A crew, the store with its sweeper, and what the sweeper has removed. -/
structure Crew where
  members : List Member
  background : Background String
  sweptKeys : Nat
  sweptBytes : Nat

/-- The workers that take a turn one after another, from a store to a store. -/
def turnAll
    (now : Instant)
    (store : Store String) :
    List Member → Except TimeError (Store String × List Member)
  | [] => .ok (store, [])
  | member :: rest =>
      match member.worker.turn
          { store := store
            clock := { reading := now, step := ⟨0⟩, readsLeft := 1 }
            random := member.random
            tally := member.tally } with
      | .error error => .error error
      | .ok progress =>
          (turnAll now progress.store rest).map fun (last, members) =>
            (last,
              { member with
                random := progress.random
                tally := progress.tally } :: members)

namespace Crew

/-- The crew that options describe, before its first turn. -/
def gather (options : Options) (background : Background String) : Crew where
  members :=
    (List.range options.workers.toNat).map fun id =>
      let worker := options.worker (UInt64.ofNat id)
      { worker := worker
        random := worker.seed
        tally := Tally.zero }
  background := background
  sweptKeys := 0
  sweptBytes := 0

/-- Every worker takes a turn. -/
def turn (crew : Crew) (now : Instant) : Except TimeError Crew :=
  (turnAll now crew.background.session.store crew.members).map
    fun (store, members) =>
      { crew with
        members := members
        background :=
          { crew.background with
            session := crew.background.session.withStore store } }

/-- Milliseconds pass for the sweeper. -/
def elapse (crew : Crew) (milliseconds : Nat) : Crew :=
  let (background, wakes) := crew.background.run milliseconds
  let items :=
    wakes.flatMap fun wake => wake.sweep.notices.map (·.item)
  { crew with
    background := background
    sweptKeys := crew.sweptKeys + items.length
    sweptBytes :=
      crew.sweptBytes + items.foldl (fun total item => total + item.value.utf8ByteSize) 0 }

/-- What all workers have counted together. -/
def tally (crew : Crew) : Tally :=
  crew.members.foldl (fun total member => total.add member.tally) Tally.zero

end Crew

end TtlStore.Soak

namespace TtlStore.Event

open TtlStore.Soak

/-- The workers have stopped after the given time. -/
def workloadFinished (tally : Tally) (elapsed : Duration) : Event where
  level := .info
  message := "Workload finished"
  fields :=
    [("elapsed_ms", millisecondsText elapsed),
      ("ops", toString tally.total),
      ("ops_per_sec",
        toString (tally.total * 1000000000 / max elapsed.nanoseconds 1)),
      ("hits", toString tally.hits),
      ("misses", toString tally.misses),
      ("sets", toString tally.sets),
      ("updates", toString tally.updates),
      ("deletes", toString tally.deletes)]

/-- What the sweeper removed, and what is left. -/
def sweeperTotals (crew : Crew) : Event where
  level := .info
  message := "Sweeper totals"
  fields :=
    [("swept_keys", toString crew.sweptKeys),
      ("swept_bytes", toString crew.sweptBytes),
      ("remaining", toString crew.background.session.store.size),
      ("indexed", toString crew.background.session.store.index.size)]

/-- An event as one line of text. -/
def line (event : Event) : String :=
  event.level.name ++ " " ++ event.message ++
    String.join
      (event.fields.map fun (name, value) => " " ++ name ++ "=" ++ value)

end TtlStore.Event
