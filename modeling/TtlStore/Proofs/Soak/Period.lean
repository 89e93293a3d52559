import Mathlib.Data.List.Prime
import Mathlib.Data.Nat.Count
import Mathlib.Dynamics.PeriodicPts.Lemmas
import Mathlib.Tactic.NormNum.Prime
import TtlStore.Proofs.Soak.Leaps

/-!
# The period of the workers' random numbers

All states but zero lie on one cycle of the draws.  It is enough that the state
one comes back after as many draws as there are such states, and not after a
number of draws that is less by a prime factor; then its cycle has room for no
state more, and every other state lies on it.
-/

namespace TtlStore.Soak

open Function

/-! ## The cycle of the state one -/

/--
A point that returns after a number of steps, but after none that is less by a
prime factor, does not return before.
-/
theorem minimalPeriod_eq_of_not_isPeriodicPt_div
    {Point : Type*}
    {step : Point → Point}
    {point : Point}
    {period : Nat}
    (returns : IsPeriodicPt step period point)
    (notBefore :
      ∀ prime, prime.Prime → prime ∣ period →
        ¬ IsPeriodicPt step (period / prime) point) :
    minimalPeriod step point = period := by
  obtain ⟨rest, factored⟩ := returns.minimalPeriod_dvd
  by_contra shorter
  have more : rest ≠ 1 := by
    rintro rfl
    exact shorter (by rw [factored, Nat.mul_one])
  obtain ⟨others, split⟩ := rest.minFac_dvd
  have prime := Nat.minFac_prime more
  refine notBefore rest.minFac prime ?_ ?_
  · rw [factored]
    exact Dvd.dvd.mul_left rest.minFac_dvd _
  · have divided :
        period / rest.minFac = minimalPeriod step point * others := by
      apply Nat.div_eq_of_eq_mul_right prime.pos
      calc
        period
        _ = minimalPeriod step point * rest := factored
        _ = minimalPeriod step point * (rest.minFac * others) := by
            rw [← split]
        _ = rest.minFac * (minimalPeriod step point * others) :=
            Nat.mul_left_comm _ _ _
    rw [divided]
    exact (isPeriodicPt_minimalPeriod step point).mul_const others

/-- How many states there are except zero. -/
def cycleLength : Nat :=
  UInt64.size - 1

/-- The prime factors of the length of the cycle. -/
def cyclePrimes : List Nat :=
  [3, 5, 17, 257, 641, 65537, 6700417]

theorem cycleLength_pos : 0 < cycleLength := by
  decide

theorem prime_of_mem_cyclePrimes :
    ∀ prime ∈ cyclePrimes, Prime prime := by
  simp only [cyclePrimes, List.forall_mem_cons, ← Nat.prime_iff]
  norm_num

theorem mem_cyclePrimes
    {prime : Nat}
    (isPrime : prime.Prime)
    (divides : prime ∣ cycleLength) :
    prime ∈ cyclePrimes := by
  have product : cycleLength = cyclePrimes.prod := by decide
  rw [product] at divides
  exact mem_list_primes_of_dvd_prod isPrime.prime prime_of_mem_cyclePrimes
    divides

theorem iterate_draw_one {count : Nat} (bounded : count ≤ cycleLength) :
    draw^[count] 1 = valueOf (power 64 count) :=
  (valueOf_power (Nat.lt_of_le_of_lt bounded (by decide))).symm

theorem isPeriodicPt_one : IsPeriodicPt draw cycleLength 1 := by
  have returned : valueOf (power 64 cycleLength) = 1 := by decide +kernel
  exact (iterate_draw_one (Nat.le_refl cycleLength)).trans returned

theorem not_isPeriodicPt_one
    {prime : Nat}
    (member : prime ∈ cyclePrimes) :
    ¬ IsPeriodicPt draw (cycleLength / prime) 1 := by
  have away :
      ∀ prime ∈ cyclePrimes, valueOf (power 64 (cycleLength / prime)) ≠ 1 := by
    decide +kernel
  intro returned
  exact away prime member
    ((iterate_draw_one (Nat.div_le_self cycleLength prime)).symm.trans returned)

theorem minimalPeriod_one : minimalPeriod draw 1 = cycleLength :=
  minimalPeriod_eq_of_not_isPeriodicPt_div isPeriodicPt_one
    fun _ isPrime divides =>
      not_isPeriodicPt_one (mem_cyclePrimes isPrime divides)

/-! ## Steps whose cycle takes in all states but zero -/

/-- A step that keeps zero and takes some state round as many states as there are others. -/
structure Tours (step : UInt64 → UInt64) (state : UInt64) : Prop where
  zero : step 0 = 0
  period : minimalPeriod step state = cycleLength

namespace Tours

variable {step : UInt64 → UInt64} {state : UInt64}

theorem mem_periodicPts (tours : Tours step state) :
    state ∈ periodicPts step :=
  minimalPeriod_pos_iff_mem_periodicPts.mp
    (tours.period ▸ cycleLength_pos)

theorem period_iterate (tours : Tours step state) (count : Nat) :
    minimalPeriod step (step^[count] state) = cycleLength :=
  (minimalPeriod_apply_iterate tours.mem_periodicPts count).trans
    tours.period

theorem iterate_ne_zero (tours : Tours step state) (count : Nat) :
    step^[count] state ≠ 0 := by
  intro vanished
  have long := tours.period_iterate count
  rw [vanished, minimalPeriod_eq_one_iff_isFixedPt.mpr tours.zero] at long
  exact absurd long (by decide)

theorem iterate_cycleLength (tours : Tours step state) :
    step^[cycleLength] state = state :=
  tours.period ▸ iterate_minimalPeriod

theorem iterate_ne
    (tours : Tours step state)
    {count : Nat}
    (positive : 0 < count)
    (early : count < cycleLength) :
    step^[count] state ≠ state :=
  not_isPeriodicPt_of_pos_of_lt_minimalPeriod positive.ne'
    (tours.period.symm ▸ early)

/-- No two states before the return are the same. -/
theorem injOn (tours : Tours step state) :
    Set.InjOn (fun count => (step^[count] state).toNat)
      (Finset.range cycleLength) := by
  have distinct := iterate_injOn_Iio_minimalPeriod (f := step) (x := state)
  rw [tours.period] at distinct
  intro one oneEarly other otherEarly same
  exact distinct (Finset.mem_range.mp oneEarly)
    (Finset.mem_range.mp otherEarly) (UInt64.toNat_inj.mp same)

/-- The states before the return are as many as there are states except zero, so they are all of these. -/
theorem image_iterate (tours : Tours step state) :
    (Finset.range cycleLength).image
        (fun count => (step^[count] state).toNat) =
      (Finset.range UInt64.size).erase 0 := by
  apply Finset.eq_of_subset_of_card_le
  · intro number member
    obtain ⟨count, -, rfl⟩ := Finset.mem_image.mp member
    refine Finset.mem_erase.mpr ⟨?_, ?_⟩
    · intro vanished
      exact tours.iterate_ne_zero count (UInt64.toNat_inj.mp vanished)
    · exact Finset.mem_range.mpr (UInt64.toNat_lt_size _)
  · rw [Finset.card_image_of_injOn tours.injOn, Finset.card_range,
      Finset.card_erase_of_mem (Finset.mem_range.mpr (by decide)),
      Finset.card_range, cycleLength]

theorem exists_iterate
    (tours : Tours step state)
    {other : UInt64}
    (nonzero : other ≠ 0) :
    ∃ count < cycleLength, step^[count] state = other := by
  have member : other.toNat ∈ (Finset.range UInt64.size).erase 0 :=
    Finset.mem_erase.mpr
      ⟨fun vanished => nonzero (UInt64.toNat_inj.mp vanished),
        Finset.mem_range.mpr other.toNat_lt_size⟩
  rw [← tours.image_iterate] at member
  obtain ⟨count, early, reached⟩ := Finset.mem_image.mp member
  exact ⟨count, Finset.mem_range.mp early, UInt64.toNat_inj.mp reached⟩

/-- If a step tours from one state, it does from all states but zero. -/
theorem of_ne_zero
    (tours : Tours step state)
    {other : UInt64}
    (nonzero : other ≠ 0) :
    Tours step other := by
  obtain ⟨count, -, rfl⟩ := tours.exists_iterate nonzero
  exact ⟨tours.zero, tours.period_iterate count⟩

/-- Two steps at once tour as well, since the cycle is odd. -/
theorem twice (tours : Tours step state) : Tours step^[2] state where
  zero := by
    rw [iterate_succ_apply, iterate_succ_apply, iterate_zero_apply,
      tours.zero, tours.zero]
  period := by
    rw [minimalPeriod_iterate_eq_div_gcd two_ne_zero, tours.period]
    decide

/-- What numbers a tour comes by is counted without the tour. -/
theorem count_iterate
    (tours : Tours step state)
    (holds : Nat → Prop)
    [DecidablePred holds]
    (notZero : ¬ holds 0) :
    Nat.count (fun count => holds (step^[count] state).toNat) cycleLength =
      Nat.count holds UInt64.size := by
  rw [Nat.count_eq_card_filter_range, Nat.count_eq_card_filter_range]
  have images :
      ((Finset.range cycleLength).filter
          fun count => holds (step^[count] state).toNat).image
          (fun count => (step^[count] state).toNat) =
        (Finset.range UInt64.size).filter holds := by
    rw [← Finset.filter_image, tours.image_iterate, Finset.filter_erase,
      Finset.erase_eq_of_notMem]
    exact fun member => notZero (Finset.mem_filter.mp member).2
  rw [← images, Finset.card_image_of_injOn]
  exact tours.injOn.mono (Finset.coe_subset.mpr (Finset.filter_subset _ _))

end Tours

theorem tours_draw {state : UInt64} (nonzero : state ≠ 0) :
    Tours draw state :=
  have tours : Tours draw 1 := ⟨draw_zero, minimalPeriod_one⟩
  tours.of_ne_zero nonzero

theorem draw_iterate_cycleLength (state : UInt64) :
    draw^[cycleLength] state = state := by
  by_cases zero : state = 0
  · rw [zero]
    exact iterate_fixed draw_zero cycleLength
  · exact (tours_draw zero).iterate_cycleLength

/-- A draw is taken back by the draws that are missing from the whole cycle. -/
theorem draw_bijective : Bijective draw := by
  have whole : (cycleLength - 1).succ = cycleLength := by decide
  apply bijective_iff_has_inverse.mpr
  refine ⟨draw^[cycleLength - 1], ?_, ?_⟩
  · intro state
    rw [← iterate_succ_apply, whole]
    exact draw_iterate_cycleLength state
  · intro state
    rw [← iterate_succ_apply' draw, whole]
    exact draw_iterate_cycleLength state

end TtlStore.Soak
