/-!
# The workers' random numbers

A worker draws its numbers from a 64-bit word that three shifts stir: left by
thirteen, right by seven, left by seventeen places.  The stirred word is both
the number drawn and the next state.
-/

namespace TtlStore.Soak

/-- The number that a state draws, which is the next state. -/
def draw (state : UInt64) : UInt64 :=
  let left := state ^^^ (state <<< 13)
  let right := left ^^^ (left >>> 7)
  right ^^^ (right <<< 17)

/-- The next numbers that a state draws. -/
def draws (state : UInt64) : Nat → List UInt64
  | 0 => []
  | count + 1 => draw state :: draws (draw state) count

end TtlStore.Soak
