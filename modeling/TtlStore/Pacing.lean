import TtlStore.Settings

/-!
# Pacing

After a sweep the sweeper compares the share of the items that were evicted
with its two thresholds.  A share above the first halves the interval, though
not below the shortest.  If nothing was evicted and the share, zero, is below
the second, the interval is doubled, though not above the longest.  Doubling
comes before the comparison with the longest interval and may leave the range
of durations.

The share is a quotient of floating-point numbers, and a comparison with a
threshold that is not a number never holds.
-/

namespace TtlStore

/-- What becomes of an interval. -/
inductive Pace where
  | kept
  | halved
  | doubled
deriving DecidableEq

namespace PacingSettings

/-- The share of the items present before a sweep that it evicted. -/
def share (present evicted : Nat) : Float :=
  Float.ofNat evicted / Float.ofNat present

/-- What becomes of the interval after a sweep of a store with that many items. -/
def pace (settings : PacingSettings) (present evicted : Nat) : Pace :=
  if present = 0 then
    .kept
  else if settings.speedup.toFloat < share present evicted then
    .halved
  else if share present evicted < settings.slowdown.toFloat ∧
      evicted = 0 then
    .doubled
  else
    .kept

/-- The interval that a pace makes of the current one. -/
def adjust
    (settings : PacingSettings)
    (current : Duration) :
    Pace → Except TimeError Duration
  | .kept => .ok current
  | .halved => .ok (max current.half settings.shortest)
  | .doubled => current.double.map (min · settings.longest)

/-- The interval after a sweep that found and evicted so many items. -/
def nextInterval
    (settings : PacingSettings)
    (current : Duration)
    (present evicted : Nat) :
    Except TimeError Duration :=
  settings.adjust current (settings.pace present evicted)

/-- The intervals after a series of sweeps; one that fails leaves the interval as it was. -/
def intervals
    (settings : PacingSettings)
    (current : Duration) :
    List (Nat × Nat) → List (Except TimeError Duration)
  | [] => []
  | (present, evicted) :: rest =>
      match settings.nextInterval current present evicted with
      | .ok next => .ok next :: settings.intervals next rest
      | .error error => .error error :: settings.intervals current rest

end PacingSettings

end TtlStore
