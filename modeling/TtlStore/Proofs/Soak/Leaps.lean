import Mathlib.Logic.Function.Iterate
import TtlStore.Soak.Generator

/-!
# Leaping ahead in the workers' random numbers

A draw distributes over exclusive or, so polynomials in the draw, with
coefficients in the field of two elements, act on the states.  Where the state
one stands after very many draws is then found by squaring, as in every ring of
polynomials, with one relation that keeps the degrees below sixty-four.

A polynomial is kept as a natural number, whose binary digits are its
coefficients.
-/

namespace TtlStore.Soak

/-! ## Draws and exclusive or -/

/-- What is stirred by a shift that distributes over exclusive or does so too. -/
theorem stir_xor
    (shift : UInt64 → UInt64)
    (spreads :
      ∀ left right, shift (left ^^^ right) = shift left ^^^ shift right)
    (left right : UInt64) :
    left ^^^ right ^^^ shift (left ^^^ right) =
      left ^^^ shift left ^^^ (right ^^^ shift right) := by
  rw [spreads]
  ac_rfl

theorem draw_xor (left right : UInt64) :
    draw (left ^^^ right) = draw left ^^^ draw right := by
  have leftwards (places left right : UInt64) :=
    stir_xor (· <<< places) (fun _ _ => UInt64.shiftLeft_xor) left right
  have rightwards (places left right : UInt64) :=
    stir_xor (· >>> places) (fun _ _ => UInt64.shiftRight_xor) left right
  simp only [draw]
  rw [leftwards 13 left right, rightwards 7, leftwards 17]

@[simp]
theorem draw_zero : draw 0 = 0 := by
  decide

/-- A state, if the last digit of a number selects it, and zero if not. -/
def select (number : Nat) (state : UInt64) : UInt64 :=
  if number % 2 = 1 then state else 0

@[simp]
theorem select_zero (state : UInt64) : select 0 state = 0 :=
  rfl

theorem select_double (number : Nat) (state : UInt64) :
    select (2 * number) state = 0 := by
  rw [select, Nat.mul_mod_right, if_neg Nat.zero_ne_one]

theorem select_xor (left right : Nat) (state : UInt64) :
    select (left ^^^ right) state =
      select left state ^^^ select right state := by
  simp only [select, Nat.xor_mod_two_eq_one]
  by_cases inLeft : left % 2 = 1 <;>
    by_cases inRight : right % 2 = 1 <;>
      simp [inLeft, inRight]

theorem select_draw (number : Nat) (state : UInt64) :
    select number (draw state) = draw (select number state) := by
  rw [select, select]
  split
  · rfl
  · exact draw_zero.symm

/-! ## Polynomials in the draw -/

/--
The exclusive or of those states that a polynomial selects among so many, of
which each is drawn from the one before it.
-/
def combine : Nat → Nat → UInt64 → UInt64
  | 0, _, _ => 0
  | places + 1, polynomial, state =>
      select polynomial state ^^^
        combine places (polynomial / 2) (draw state)

@[simp]
theorem combine_zero (places : Nat) (state : UInt64) :
    combine places 0 state = 0 := by
  induction places generalizing state with
  | zero => rfl
  | succ places induction =>
      rw [combine, select_zero, Nat.zero_div, induction, UInt64.xor_zero]

theorem combine_one (places : Nat) (state : UInt64) :
    combine (places + 1) 1 state = state := by
  rw [combine, show 1 / 2 = 0 from rfl, combine_zero]
  exact UInt64.xor_zero

theorem combine_xor
    (places left right : Nat)
    (state : UInt64) :
    combine places (left ^^^ right) state =
      combine places left state ^^^ combine places right state := by
  induction places generalizing left right state with
  | zero => exact UInt64.xor_self.symm
  | succ places induction =>
      rw [combine, combine, combine, select_xor, Nat.xor_div_two, induction]
      ac_rfl

/-- To draw first and to combine then is to combine first and to draw then. -/
theorem combine_draw
    (places polynomial : Nat)
    (state : UInt64) :
    combine places polynomial (draw state) =
      draw (combine places polynomial state) := by
  induction places generalizing polynomial state with
  | zero => exact draw_zero.symm
  | succ places induction =>
      rw [combine, combine, select_draw, induction, draw_xor]

theorem combine_iterate
    (places polynomial count : Nat)
    (state : UInt64) :
    combine places polynomial (draw^[count] state) =
      draw^[count] (combine places polynomial state) := by
  have commute : Function.Commute (combine places polynomial) draw :=
    combine_draw places polynomial
  exact commute.iterate_right count state

theorem combine_double
    (places polynomial : Nat)
    (state : UInt64) :
    combine (places + 1) (2 * polynomial) state =
      combine places polynomial (draw state) := by
  rw [combine, select_double, UInt64.zero_xor,
    Nat.mul_div_cancel_left polynomial Nat.two_pos]

/-- The last place is that of the highest power. -/
theorem combine_succ
    (places polynomial : Nat)
    (state : UInt64) :
    combine (places + 1) polynomial state =
      combine places polynomial state ^^^
        select (polynomial >>> places) (draw^[places] state) := by
  induction places generalizing polynomial state with
  | zero =>
      rw [combine, combine, combine, UInt64.xor_zero, UInt64.zero_xor,
        Nat.shiftRight_zero, Function.iterate_zero_apply]
  | succ places induction =>
      rw [combine, induction, combine, Nat.shiftRight_succ_inside,
        Function.iterate_succ_apply]
      ac_rfl

/-- Only the coefficients that have a place matter. -/
theorem combine_mod
    (places polynomial : Nat)
    (state : UInt64) :
    combine places (polynomial % 1 <<< places) state =
      combine places polynomial state := by
  induction places generalizing polynomial state with
  | zero => rfl
  | succ places induction =>
      have double : 1 <<< (places + 1) = 2 * 1 <<< places :=
        Nat.shiftLeft_succ 1 places
      have lowest : polynomial % 1 <<< (places + 1) % 2 = polynomial % 2 :=
        Nat.mod_mod_of_dvd polynomial ⟨1 <<< places, double⟩
      have others :
          polynomial % 1 <<< (places + 1) / 2 =
            polynomial / 2 % 1 <<< places := by
        rw [double, Nat.mod_mul_right_div_self]
      rw [combine, combine, select, select, lowest, others, induction]

/-! ## Powers of the draw on the state one -/

/-- The state that a polynomial of a degree below sixty-four makes of the state one. -/
def valueOf (polynomial : Nat) : UInt64 :=
  combine 64 polynomial 1

/-- A polynomial of a degree below sixty-four that stands for the sixty-fourth power. -/
def relation : Nat :=
  89742840624656897

/-- The product of the draw with a polynomial, with the sixty-fourth power replaced. -/
def timesDraw (polynomial : Nat) : Nat :=
  2 * polynomial % 1 <<< 64 ^^^ polynomial >>> 63 % 2 * relation

/-- The product of a polynomial of a degree below a bound with another polynomial. -/
def product : Nat → Nat → Nat → Nat
  | 0, _, _ => 0
  | bound + 1, left, right =>
      left % 2 * right ^^^ product bound (left / 2) (timesDraw right)

/-- The power of the draw whose exponent has so many binary digits. -/
def power : Nat → Nat → Nat
  | 0, _ => 1
  | digits + 1, exponent =>
      let half := power digits (exponent / 2)
      let square := product 64 half half
      if exponent % 2 = 1 then timesDraw square else square

theorem valueOf_relation : valueOf relation = draw^[64] 1 := by
  decide +kernel

theorem valueOf_xor (left right : Nat) :
    valueOf (left ^^^ right) = valueOf left ^^^ valueOf right :=
  combine_xor 64 left right 1

theorem valueOf_select (number polynomial : Nat) :
    valueOf (number % 2 * polynomial) =
      select number (valueOf polynomial) := by
  rw [select]
  rcases Nat.mod_two_eq_zero_or_one number with even | odd
  · rw [even, Nat.zero_mul, if_neg Nat.zero_ne_one]
    exact combine_zero 64 1
  · rw [odd, Nat.one_mul, if_pos rfl]

theorem valueOf_timesDraw (polynomial : Nat) :
    valueOf (timesDraw polynomial) = draw (valueOf polynomial) := by
  have lowered :
      valueOf (2 * polynomial % 1 <<< 64) =
        combine 63 polynomial (draw 1) := by
    rw [valueOf, combine_mod, combine_double]
  have raised :
      draw (valueOf polynomial) =
        combine 63 polynomial (draw 1) ^^^
          select (polynomial >>> 63) (draw^[64] 1) := by
    rw [valueOf, ← combine_draw, combine_succ, ← Function.iterate_succ_apply]
  rw [timesDraw, valueOf_xor, lowered, valueOf_select, valueOf_relation,
    raised]

/-- A product does what its factors do one after the other. -/
theorem valueOf_product (bound left right : Nat) :
    valueOf (product bound left right) =
      combine bound left (valueOf right) := by
  induction bound generalizing left right with
  | zero => exact combine_zero 64 1
  | succ bound induction =>
      rw [product, valueOf_xor, valueOf_select, induction, valueOf_timesDraw,
        combine]

/-- The square of so many draws is twice as many. -/
theorem valueOf_square
    {polynomial count : Nat}
    (drawn : valueOf polynomial = draw^[count] 1) :
    valueOf (product 64 polynomial polynomial) = draw^[2 * count] 1 := by
  calc
    valueOf (product 64 polynomial polynomial)
    _ = combine 64 polynomial (draw^[count] 1) := by
        rw [valueOf_product, drawn]
    _ = draw^[count] (draw^[count] 1) := by
        rw [combine_iterate, ← valueOf, drawn]
    _ = draw^[2 * count] 1 := by
        rw [← Function.iterate_add_apply, Nat.two_mul]

/-- The powers of the draw are its iterates. -/
theorem valueOf_power
    {digits exponent : Nat}
    (bounded : exponent < 1 <<< digits) :
    valueOf (power digits exponent) = draw^[exponent] 1 := by
  induction digits generalizing exponent with
  | zero =>
      rw [Nat.lt_one_iff.mp bounded]
      exact combine_one 63 1
  | succ digits induction =>
      have half :
          valueOf (power digits (exponent / 2)) = draw^[exponent / 2] 1 :=
        induction (Nat.div_lt_of_lt_mul (Nat.shiftLeft_succ 1 digits ▸ bounded))
      have digit := Nat.div_add_mod exponent 2
      rw [power]
      split
      · rename_i odd
        rw [valueOf_timesDraw, valueOf_square half,
          ← Function.iterate_succ_apply' draw, Nat.succ_eq_add_one, ← odd,
          digit]
      · rename_i even
        rw [Nat.mod_two_ne_one.mp even, Nat.add_zero] at digit
        rw [valueOf_square half, digit]

end TtlStore.Soak
