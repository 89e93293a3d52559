import TtlStore.Session.Basic

/-!
# The progress of a soak worker

A worker at work has a store, a clock, a random state and counts of what it has
done.  The clock is metered: it moves on by a fixed step each time it is read,
and it can be read only so many times.

Storing and updating read the clock once, for the deadline.  Reading an item
reads it only when an entry with the right token has been found, and deleting
does not read it.
-/

namespace TtlStore.Soak

/-- What a worker has counted. -/
structure Tally where
  hits : Nat
  misses : Nat
  sets : Nat
  updates : Nat
  deletes : Nat
deriving DecidableEq

namespace Tally

/-- Nothing has been counted. -/
def zero : Tally where
  hits := 0
  misses := 0
  sets := 0
  updates := 0
  deletes := 0

/-- The counts of two workers together. -/
def add (left right : Tally) : Tally where
  hits := left.hits + right.hits
  misses := left.misses + right.misses
  sets := left.sets + right.sets
  updates := left.updates + right.updates
  deletes := left.deletes + right.deletes

/-- The number of operations counted. -/
def total (tally : Tally) : Nat :=
  tally.hits + tally.misses + tally.sets + tally.updates + tally.deletes

end Tally

/-- A clock that moves on when it is read and can be read so many more times. -/
structure MeteredClock where
  reading : Instant
  step : Duration
  readsLeft : Nat
deriving DecidableEq

/-- The clock after it has been read. -/
def MeteredClock.advance (clock : MeteredClock) : MeteredClock where
  reading := clock.reading.shift clock.step
  step := clock.step
  readsLeft := clock.readsLeft - 1

/-- The store, the clock, the random state and the counts of a worker at work. -/
structure Progress where
  store : Store String
  clock : MeteredClock
  random : UInt64
  tally : Tally

namespace Progress

/-- Read a key, and the clock if an entry with the token is found. -/
def read (progress : Progress) (key : Key) (token : Token) : Progress :=
  let clock :=
    if (progress.store.recognised? key token).isSome then
      progress.clock.advance
    else
      progress.clock
  let tally :=
    match progress.store.get key token progress.clock.reading with
    | some _ => { progress.tally with hits := progress.tally.hits + 1 }
    | none => { progress.tally with misses := progress.tally.misses + 1 }
  { progress with clock := clock, tally := tally }

/-- Store an item made at the current reading of the clock. -/
def set (progress : Progress) (item : Item String) : Progress :=
  { progress with
    store := progress.store.set item
    clock := progress.clock.advance
    tally := { progress.tally with sets := progress.tally.sets + 1 } }

/-- Update to an item made at the current reading of the clock, and count what was replaced. -/
def update (progress : Progress) (item : Item String) : Progress :=
  let (store, previous) := progress.store.update item
  { progress with
    store := store
    clock := progress.clock.advance
    tally :=
      match previous with
      | some _ => { progress.tally with updates := progress.tally.updates + 1 }
      | none => progress.tally }

/-- Delete a key, and count what was deleted. -/
def delete (progress : Progress) (key : Key) (token : Token) : Progress :=
  let (store, previous) := progress.store.delete key token
  { progress with
    store := store
    tally :=
      match previous with
      | some _ => { progress.tally with deletes := progress.tally.deletes + 1 }
      | none => progress.tally }

end Progress

end TtlStore.Soak
