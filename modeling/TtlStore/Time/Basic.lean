/-!
# Instants and durations

Time is counted in whole nanoseconds.  An instant is a signed count on some
clock, a duration an unsigned one.  Both are kept as unbounded numbers, and the
two operations that can leave the representable range say so: moving an
instant forward, whose whole seconds must fit a signed 64-bit number, and
doubling a duration, whose whole seconds must fit an unsigned one.
-/

namespace TtlStore

/-- A length of time. -/
@[ext]
structure Duration where
  nanoseconds : Nat
deriving DecidableEq, Inhabited

/-- A point on a clock, counted from an arbitrary origin. -/
@[ext]
structure Instant where
  nanoseconds : Int
deriving DecidableEq, Inhabited

/-- The ways in which time arithmetic leaves its range. -/
inductive TimeError where
  | instantOverflow
  | durationOverflow
deriving DecidableEq

/-- The wording of an error of time arithmetic. -/
def TimeError.message : TimeError → String
  | .instantOverflow => "overflow when adding duration to instant"
  | .durationOverflow => "overflow when multiplying duration by scalar"

namespace Duration

instance : LE Duration where
  le left right := left.nanoseconds ≤ right.nanoseconds

instance : LT Duration where
  lt left right := left.nanoseconds < right.nanoseconds

instance (left right : Duration) : Decidable (left ≤ right) :=
  inferInstanceAs (Decidable (left.nanoseconds ≤ right.nanoseconds))

instance (left right : Duration) : Decidable (left < right) :=
  inferInstanceAs (Decidable (left.nanoseconds < right.nanoseconds))

instance : Max Duration where
  max left right := ⟨max left.nanoseconds right.nanoseconds⟩

instance : Min Duration where
  min left right := ⟨min left.nanoseconds right.nanoseconds⟩

theorem le_def {left right : Duration} :
    left ≤ right ↔ left.nanoseconds ≤ right.nanoseconds :=
  Iff.rfl

theorem lt_def {left right : Duration} :
    left < right ↔ left.nanoseconds < right.nanoseconds :=
  Iff.rfl

@[simp]
theorem nanoseconds_max (left right : Duration) :
    (max left right).nanoseconds =
      max left.nanoseconds right.nanoseconds :=
  rfl

@[simp]
theorem nanoseconds_min (left right : Duration) :
    (min left right).nanoseconds =
      min left.nanoseconds right.nanoseconds :=
  rfl

/-- The given number of milliseconds. -/
def ofMilliseconds (count : Nat) : Duration :=
  ⟨count * 1000000⟩

/-- The given number of seconds. -/
def ofSeconds (count : Nat) : Duration :=
  ⟨count * 1000000000⟩

/-- The completed milliseconds of a duration. -/
def wholeMilliseconds (duration : Duration) : Nat :=
  duration.nanoseconds / 1000000

/-- The milliseconds of a duration, a started one counted in full. -/
def ceilMilliseconds (duration : Duration) : Nat :=
  (duration.nanoseconds + 999999) / 1000000

/-- Half of a duration, rounded down to whole nanoseconds. -/
def half (duration : Duration) : Duration :=
  ⟨duration.nanoseconds / 2⟩

/-- A quarter of a duration, rounded down to whole nanoseconds. -/
def quarter (duration : Duration) : Duration :=
  ⟨duration.nanoseconds / 4⟩

/-- Four times a duration. -/
def fourfold (duration : Duration) : Duration :=
  ⟨4 * duration.nanoseconds⟩

/-- The first duration whose whole seconds need more than 64 bits. -/
def limit : Duration :=
  ofSeconds UInt64.size

/-- Twice a duration, unless that reaches the limit. -/
def double (duration : Duration) : Except TimeError Duration :=
  if 2 * duration.nanoseconds < limit.nanoseconds then
    .ok ⟨2 * duration.nanoseconds⟩
  else
    .error .durationOverflow

end Duration

namespace Instant

instance : LE Instant where
  le left right := left.nanoseconds ≤ right.nanoseconds

instance : LT Instant where
  lt left right := left.nanoseconds < right.nanoseconds

instance (left right : Instant) : Decidable (left ≤ right) :=
  inferInstanceAs (Decidable (left.nanoseconds ≤ right.nanoseconds))

instance (left right : Instant) : Decidable (left < right) :=
  inferInstanceAs (Decidable (left.nanoseconds < right.nanoseconds))

theorem le_def {left right : Instant} :
    left ≤ right ↔ left.nanoseconds ≤ right.nanoseconds :=
  Iff.rfl

theorem lt_def {left right : Instant} :
    left < right ↔ left.nanoseconds < right.nanoseconds :=
  Iff.rfl

/-- The first instant whose whole seconds exceed a signed 64-bit number. -/
def limit : Instant :=
  ⟨9223372036854775808 * 1000000000⟩

/-- The instant that lies a duration later, on an unbounded clock. -/
def shift (start : Instant) (span : Duration) : Instant :=
  ⟨start.nanoseconds + span.nanoseconds⟩

/-- The instant that lies a duration later, unless that reaches the limit. -/
def later (start : Instant) (span : Duration) : Except TimeError Instant :=
  if start.shift span < limit then
    .ok (start.shift span)
  else
    .error .instantOverflow

/-- The time from one instant to another, or nothing if the other is earlier. -/
def elapsedSince (instant start : Instant) : Duration :=
  ⟨(instant.nanoseconds - start.nanoseconds).toNat⟩

end Instant

end TtlStore
