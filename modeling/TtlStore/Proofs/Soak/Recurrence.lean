import Mathlib.Data.Int.CardIntervalMod
import Mathlib.Data.Nat.Periodic
import TtlStore.Proofs.Soak.Period
import TtlStore.Proofs.Soak.Turns

/-!
# The cycle of a worker's operations

A worker draws twice in a turn.  As the cycle of the draws is odd, the states
with which its turns begin are all states of the cycle too, unless it begins
with zero.  So it comes by every operation again and again.

As the number of states that decide for an update has no factor in common with
the length of the cycle, the operations have no shorter cycle than the states.
-/

namespace TtlStore.Soak

open Function

/-! ## Sequences that repeat -/

/-- What repeats with a period repeats with a span too, if it does for the length of a period. -/
theorem periodic_of_window
    {Value : Type*}
    {sequence : Nat → Value}
    {period start span : Nat}
    (positive : 0 < period)
    (periodic : Periodic sequence period)
    (repeats :
      ∀ place, start ≤ place → place < start + period →
        sequence (place + span) = sequence place) :
    Periodic sequence span := by
  intro place
  let later := start + (place + period * start - start) % period
  have enough : start ≤ place + period * start :=
    (Nat.le_mul_of_pos_left start positive).trans (Nat.le_add_left _ place)
  have same : later % period = place % period := by
    rw [Nat.add_mod_mod, Nat.add_sub_cancel' enough,
      Nat.add_mul_mod_self_left]
  have shifted : (later + span) % period = (place + span) % period :=
    Nat.ModEq.add_right span same
  calc
    sequence (place + span)
    _ = sequence (later + span) := by
        rw [← periodic.map_mod_nat (place + span), ← shifted,
          periodic.map_mod_nat]
    _ = sequence later :=
        repeats later (Nat.le_add_right _ _)
          (Nat.add_lt_add_left (Nat.mod_lt _ positive) start)
    _ = sequence place := by
        rw [← periodic.map_mod_nat later, same, periodic.map_mod_nat]

/-- In every period as much holds as in the first. -/
theorem count_mul_of_periodic
    {holds : Nat → Prop}
    [DecidablePred holds]
    {period : Nat}
    (periodic : Periodic holds period)
    (times : Nat) :
    Nat.count holds (times * period) =
      times * Nat.count holds period := by
  induction times with
  | zero => rw [Nat.zero_mul, Nat.zero_mul, Nat.count_zero]
  | succ times induction =>
      have again (place : Nat) :
          holds (times * period + place) = holds place := by
        rw [Nat.add_comm]
        exact periodic.nat_mul times place
      simp only [Nat.succ_mul, Nat.count_add, induction, again]

/--
A span that repeats what also a period repeats is a multiple of the period, if
how often something holds in a period has no factor in common with it.
-/
theorem dvd_of_periodic
    {holds : Nat → Prop}
    [DecidablePred holds]
    {period span : Nat}
    (periodic : Periodic holds period)
    (repeats : Periodic holds span)
    (coprime : period.Coprime (Nat.count holds period)) :
    period ∣ span := by
  have both :
      period * Nat.count holds span = span * Nat.count holds period := by
    rw [← count_mul_of_periodic repeats, ← count_mul_of_periodic periodic,
      Nat.mul_comm]
  exact coprime.dvd_of_dvd_mul_right ⟨_, both.symm⟩

/-! ## What the states decide -/

theorem ofNumber_eq_update_iff (number : UInt64) :
    Operation.ofNumber number = .update ↔ number.toNat ≡ 8 [MOD 10] := by
  have remainder : (number % 10).toNat = number.toNat % 10 :=
    UInt64.toNat_mod number 10
  rw [Operation.ofNumber, remainder, Nat.ModEq]
  grind

/-- The second number of a turn is the first state of the next. -/
theorem operationAt_iterate (state : UInt64) (place : Nat) :
    operationAt ((draw^[2])^[place] state) =
      Operation.ofNumber ((draw^[2])^[place] (draw^[2] state)) := by
  rw [← iterate_succ_apply, iterate_succ_apply']
  rfl

section Decisions

variable {state : UInt64} (nonzero : state ≠ 0)

include nonzero

/-- The numbers that decide for the operations tour as the states do. -/
theorem tours_decisions : Tours draw^[2] (draw^[2] state) :=
  (tours_draw nonzero).twice.of_ne_zero
    ((tours_draw nonzero).iterate_ne_zero 2)

/-- In every cycle as many turns are updates as there are states that decide for one. -/
theorem count_updates :
    Nat.count (fun place => operationAt ((draw^[2])^[place] state) = .update)
        cycleLength =
      1844674407370955161 := by
  simp only [operationAt_iterate, ofNumber_eq_update_iff]
  rw [(tours_decisions nonzero).count_iterate (· ≡ 8 [MOD 10]) (by decide),
    Nat.count_modEq_card _ (by decide)]
  decide

end Decisions

namespace Worker

variable {worker : Worker}

theorem seed_ne_zero (apart : worker.id + 1 ≠ 0x9e3779b97f4a7c15) :
    worker.seed ≠ 0 := by
  intro vanished
  exact apart (UInt64.xor_eq_zero_iff.mp vanished).symm

/-! ## What a turn does to the random state and the clock -/

section Turns

variable {progress next : Progress}

/-- No operation touches the random state or winds up the clock. -/
theorem steady_of_carryOut
    {operation : Operation}
    {key : Key}
    (carried : worker.carryOut operation key progress = .ok next) :
    next.random = progress.random ∧
      next.clock.readsLeft ≤ progress.clock.readsLeft := by
  cases operation with
  | read =>
      cases carried
      refine ⟨rfl, ?_⟩
      rw [Progress.read]
      split
      · exact Nat.sub_le _ 1
      · exact Nat.le_refl _
  | store =>
      rw [← eq_of_map_item_eq_ok carried]
      exact ⟨rfl, Nat.sub_le _ 1⟩
  | update =>
      rw [← eq_of_map_item_eq_ok carried]
      exact ⟨rfl, Nat.sub_le _ 1⟩
  | delete =>
      cases carried
      exact ⟨rfl, Nat.le_refl _⟩

/-- Whatever a turn does, it moves the random state on by its two draws. -/
theorem random_of_turn (taken : worker.turn progress = .ok next) :
    next.random = draw^[2] progress.random :=
  (steady_of_carryOut ((worker.turn_eq progress).symm.trans taken)).1

end Turns

/-! ## The cycle of the operations -/

/-- The random state with which a worker begins a turn, if the turns are counted from zero. -/
def stateAt (worker : Worker) (place : Nat) : UInt64 :=
  (draw^[2])^[place] worker.seed

theorem found_of_mem_turns
    {limit place : Nat}
    {progress : Progress}
    {turn : Turn}
    (taken : (worker.turns limit progress)[place]? = some turn) :
    turn.worker = worker ∧
      turn.found.random = (draw^[2])^[place] progress.random := by
  induction limit generalizing progress place with
  | zero =>
      rw [turns] at taken
      split at taken <;> cases taken
  | succ limit induction =>
      rw [turns] at taken
      split at taken
      · cases taken
      · split at taken
        · cases taken
        · rename_i next went
          cases place with
          | zero =>
              cases taken
              exact ⟨rfl, rfl⟩
          | succ place =>
              rw [List.getElem?_cons_succ] at taken
              rw [iterate_succ_apply, ← random_of_turn went]
              exact induction taken

/-- The key and the operation of a turn come from its place alone. -/
theorem drawn_of_turnsOn
    {store : Store String}
    {clock : MeteredClock}
    {place : Nat}
    {turn : Turn}
    (taken : (worker.turnsOn store clock)[place]? = some turn) :
    turn.key = worker.keyAt (worker.stateAt place) ∧
      turn.operation = operationAt (worker.stateAt place) := by
  obtain ⟨same, random⟩ := found_of_mem_turns taken
  rw [Turn.key, Turn.operation, same, random]
  exact ⟨rfl, rfl⟩

section Cycle

variable (nonzero : worker.seed ≠ 0)

include nonzero

theorem stateAt_periodic : Periodic worker.stateAt cycleLength := by
  intro place
  rw [stateAt, iterate_add_apply,
    (tours_draw nonzero).twice.iterate_cycleLength]
  rfl

/-- Turns whose operations repeat for a cycle are a multiple of the cycle apart. -/
theorem dvd_of_operations_repeat
    {start span : Nat}
    (repeats :
      ∀ place, start ≤ place → place < start + cycleLength →
        operationAt (worker.stateAt (place + span)) =
          operationAt (worker.stateAt place)) :
    cycleLength ∣ span := by
  have operations :
      Periodic (fun place => operationAt (worker.stateAt place)) cycleLength :=
    fun place => congrArg operationAt (stateAt_periodic nonzero place)
  have updates {length : Nat}
      (periodic :
        Periodic (fun place => operationAt (worker.stateAt place)) length) :
      Periodic (fun place => operationAt (worker.stateAt place) = .update)
        length :=
    fun place => congrArg (· = Operation.update) (periodic place)
  have counted :
      Nat.count (fun place => operationAt (worker.stateAt place) = .update)
          cycleLength =
        1844674407370955161 :=
    count_updates nonzero
  apply dvd_of_periodic (updates operations)
    (updates (periodic_of_window cycleLength_pos operations repeats))
  rw [counted]
  decide

end Cycle

end Worker

/-! ## The generator as a whole -/

/--
From every state but zero the draws come through all other such states before
they return, and they never come to zero; every state is drawn from one state
and no other.  So in a worker that does not begin with zero, wherever in its run,
the operations of its turns repeat only as the states do that draw them.
-/
theorem draws_have_full_period :
    (∀ state, state ≠ 0 →
      (∀ count, 0 < count → count < cycleLength →
          draw^[count] state ≠ state) ∧
        draw^[cycleLength] state = state ∧
          (∀ other, other ≠ 0 →
              ∃ count < cycleLength, draw^[count] state = other) ∧
            ∀ count, draw^[count] state ≠ 0) ∧
      Bijective draw ∧
        ∀ worker : Worker, worker.id + 1 ≠ 0x9e3779b97f4a7c15 →
          worker.seed ≠ 0 ∧
            (∀ store clock place turn,
              (worker.turnsOn store clock)[place]? = some turn →
                turn.key = worker.keyAt (worker.stateAt place) ∧
                  turn.operation = operationAt (worker.stateAt place)) ∧
              ∀ start span,
                (∀ place, start ≤ place → place < start + cycleLength →
                  operationAt (worker.stateAt (place + span)) =
                    operationAt (worker.stateAt place)) ↔
                  cycleLength ∣ span := by
  refine ⟨?states, draw_bijective, ?workers⟩
  case states =>
    intro state nonzero
    have tours := tours_draw nonzero
    exact
      ⟨fun _ positive early => tours.iterate_ne positive early,
        tours.iterate_cycleLength,
        fun _ otherNonzero => tours.exists_iterate otherNonzero,
        tours.iterate_ne_zero⟩
  case workers =>
    intro worker apart
    have nonzero : worker.seed ≠ 0 := Worker.seed_ne_zero apart
    refine
      ⟨nonzero, fun _ _ _ _ taken => Worker.drawn_of_turnsOn taken, ?_⟩
    intro start span
    constructor
    · exact Worker.dvd_of_operations_repeat nonzero
    · rintro ⟨times, rfl⟩ place - -
      have repeats := (Worker.stateAt_periodic nonzero).nat_mul times place
      rw [Nat.mul_comm]
      exact congrArg operationAt repeats

/--
From the state two the draws come to the first worker's seed, and the worker
never repeats one operation for ever.
-/
theorem draws_have_full_period_firstWorker :
    let worker : Worker :=
      { id := 0, keys := 10000, ttl := Duration.ofMilliseconds 250 }
    (2 : UInt64) ≠ 0 ∧
      worker.id + 1 ≠ 0x9e3779b97f4a7c15 ∧
      draw^[cycleLength] 2 = 2 ∧
      (∃ count < cycleLength, draw^[count] 2 = worker.seed) ∧
      ∀ start, ∃ place,
        start ≤ place ∧ place < start + cycleLength ∧
          operationAt (worker.stateAt (place + 1)) ≠
            operationAt (worker.stateAt place) := by
  intro worker
  obtain ⟨states, -, workers⟩ := draws_have_full_period
  have nonzero : (2 : UInt64) ≠ 0 := by decide
  have apart : worker.id + 1 ≠ 0x9e3779b97f4a7c15 := by decide
  obtain ⟨-, returns, reaches, -⟩ := states 2 nonzero
  obtain ⟨seed, -, repeats⟩ := workers worker apart
  refine ⟨nonzero, apart, returns, reaches worker.seed seed, ?_⟩
  intro start
  by_contra! same
  have divides : cycleLength ∣ 1 := (repeats start 1).mp same
  exact absurd divides (by decide)

end TtlStore.Soak
