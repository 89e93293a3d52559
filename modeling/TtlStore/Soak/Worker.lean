import TtlStore.Soak.Generator
import TtlStore.Soak.Progress

/-!
# Soak workers

A worker cycles through keys of its own and, as its random numbers decide,
reads, stores, updates or deletes them, always with the token that belongs to
the key.  Every write lives for the worker's span of time.  The worker stops
before its next turn once its clock cannot be read any more.
-/

namespace TtlStore.Soak

/-- Whose keys a worker uses, how many there are, and how long its writes live. -/
structure Worker where
  id : UInt64
  keys : UInt64
  ttl : Duration

/-- What a worker may do in one turn. -/
inductive Operation where
  | read
  | store
  | update
  | delete
deriving DecidableEq

/-- Of ten numbers five read, three store, one updates and one deletes. -/
def Operation.ofNumber (number : UInt64) : Operation :=
  let choice := (number % 10).toNat
  if choice < 5 then .read
  else if choice < 8 then .store
  else if choice < 9 then .update
  else .delete

/-- Why a worker did not finish. -/
inductive Interruption where
  | time (error : TimeError)
  | outOfTurns
deriving DecidableEq

namespace Worker

/-- The random state with which a worker begins. -/
def seed (worker : Worker) : UInt64 :=
  0x9e3779b97f4a7c15 ^^^ (worker.id + 1)

/-- The key of a worker at one of its places. -/
def key (worker : Worker) (place : UInt64) : Key :=
  (worker.id <<< 40) ||| place

/-- What a worker stores. -/
def value (worker : Worker) : String :=
  "worker-" ++ toString worker.id.toNat

/-- The item that a worker stores at a reading of the clock. -/
def item
    (worker : Worker)
    (key : Key)
    (token : Token)
    (now : Instant) :
    Except TimeError (Item String) :=
  (Item.lasting key token worker.value).expiringAfter now worker.ttl

end Worker

/-- The token that belongs to a key: its word rotated by seventeen places and made odd. -/
def tokenOf (key : Key) : Token :=
  ((key <<< 17) ||| (key >>> 47)) ||| 1

/-- A worker that is about to begin. -/
def Progress.begin
    (worker : Worker)
    (store : Store String)
    (clock : MeteredClock) :
    Progress where
  store := store
  clock := clock
  random := worker.seed
  tally := Tally.zero

namespace Worker

/-- One turn: draw a place and an operation, and carry the operation out there. -/
def turn (worker : Worker) (progress : Progress) :
    Except TimeError Progress :=
  let first := draw progress.random
  let second := draw first
  let key := worker.key (first % worker.keys)
  let token := tokenOf key
  let drawn := { progress with random := second }
  match Operation.ofNumber second with
  | .read => .ok (drawn.read key token)
  | .store =>
      (worker.item key token drawn.clock.reading).map drawn.set
  | .update =>
      (worker.item key token drawn.clock.reading).map drawn.update
  | .delete => .ok (drawn.delete key token)

/-- Take turns until the clock stops the worker, but no more than a number of turns. -/
def work (worker : Worker) : Nat → Progress → Except Interruption Progress
  | turns, progress =>
      if progress.clock.readsLeft = 0 then
        .ok progress
      else
        match turns with
        | 0 => .error .outOfTurns
        | turns + 1 =>
            match worker.turn progress with
            | .error error => .error (.time error)
            | .ok next => worker.work turns next

/--
Enough turns for so many readings of the clock, if they happen at all.  Unless
its random state is zero, a worker stores something at least once in
two to the sixty-fourth turns; if it is zero, the worker repeats one read.
-/
def turnLimit (reads : Nat) : Nat :=
  (reads + 1) * UInt64.size

/-- Let a worker work on a store until the clock stops it. -/
def runOn
    (worker : Worker)
    (store : Store String)
    (clock : MeteredClock) :
    Except Interruption Progress :=
  worker.work (turnLimit clock.readsLeft)
    (Progress.begin worker store clock)

end Worker

/-- A worker, with the step of its clock and how often it may read it. -/
structure Assignment where
  worker : Worker
  step : Duration
  reads : Nat

/-- Let workers work on one store, one after another, each from the clock where the last stopped. -/
def runInTurn
    (store : Store String)
    (now : Instant) :
    List Assignment → Except Interruption (List Progress)
  | [] => .ok []
  | assignment :: rest =>
      match assignment.worker.runOn store
          { reading := now
            step := assignment.step
            readsLeft := assignment.reads } with
      | .error interruption => .error interruption
      | .ok progress =>
          (runInTurn progress.store progress.clock.reading rest).map
            (progress :: ·)

/-- The store that workers leave, given the store they began with and how each stood at its end. -/
def finalStore (store : Store String) (progresses : List Progress) :
    Store String :=
  (progresses.getLast?.map (·.store)).getD store

end TtlStore.Soak
