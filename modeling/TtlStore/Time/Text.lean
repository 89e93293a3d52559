import TtlStore.Time.Basic

/-!
# The text of a duration

A duration is written exactly, in the largest of four units that it reaches:
seconds, milliseconds, microseconds or nanoseconds.  The part below one unit
follows a point as a decimal fraction without trailing zeros, and is left out
together with the point when there is none.
-/

namespace TtlStore

/-- A unit, its nanoseconds being a power of ten, and its symbol. -/
structure DurationUnit where
  nanoseconds : Nat
  places : Nat
  symbol : String

/-- The largest unit that a duration reaches. -/
def Duration.unit (duration : Duration) : DurationUnit :=
  if 1000000000 ≤ duration.nanoseconds then ⟨1000000000, 9, "s"⟩
  else if 1000000 ≤ duration.nanoseconds then ⟨1000000, 6, "ms"⟩
  else if 1000 ≤ duration.nanoseconds then ⟨1000, 3, "µs"⟩
  else ⟨1, 0, "ns"⟩

/--
The digits of a fraction of a power of ten: padded with zeros on the
left to the places of that power, and without zeros on the right.
-/
def fractionDigits (places numerator : Nat) : List Char :=
  let digits := Nat.toDigits 10 numerator
  let padded := List.replicate (places - digits.length) '0' ++ digits
  (padded.reverse.dropWhile (· = '0')).reverse

/-- The exact text of a duration. -/
def Duration.text (duration : Duration) : String :=
  let unit := duration.unit
  let whole := Nat.repr (duration.nanoseconds / unit.nanoseconds)
  let rest := duration.nanoseconds % unit.nanoseconds
  match fractionDigits unit.places rest with
  | [] => whole ++ unit.symbol
  | digits => whole ++ "." ++ String.ofList digits ++ unit.symbol

end TtlStore
