import TtlStore.Proofs.Soak.Recurrence

/-!
# Soak workers finish

A worker runs until its clock stops it, but takes no more turns than a limit
allows.  If it does not begin with zero, it comes by an update within every
cycle of its draws, and an update reads the clock.  So as many cycles as there are
readings are turns enough, and the limit allows for more.  What ends a worker
before its clock does is then a deadline that cannot be represented.
-/

namespace TtlStore.Soak

open Function

/-- From whatever state but zero, an update is drawn within a cycle. -/
theorem exists_update {state : UInt64} (nonzero : state ≠ 0) :
    ∃ place < cycleLength,
      operationAt ((draw^[2])^[place] state) = .update := by
  have eight : (8 : UInt64) ≠ 0 := by decide
  obtain ⟨place, early, reached⟩ :=
    (tours_decisions nonzero).exists_iterate eight
  refine ⟨place, early, ?_⟩
  rw [operationAt_iterate, reached]
  rfl

namespace Worker

variable {worker : Worker}

/-! ## The clock of a worker -/

section Clock

variable {progress next : Progress}

theorem readsLeft_of_turn (taken : worker.turn progress = .ok next) :
    next.clock.readsLeft ≤ progress.clock.readsLeft :=
  (steady_of_carryOut ((worker.turn_eq progress).symm.trans taken)).2

/-- An update reads the clock, whether it finds its key or not. -/
theorem readsLeft_of_update
    (decided : operationAt progress.random = .update)
    (taken : worker.turn progress = .ok next) :
    next.clock.readsLeft = progress.clock.readsLeft - 1 := by
  rw [turn_eq, decided] at taken
  rw [← eq_of_map_item_eq_ok taken]
  rfl

end Clock

/-! ## The limit of turns -/

/-- Within a limit the clock stops a worker, or the time fails it. -/
def EndsWithin (worker : Worker) (limit : Nat) (progress : Progress) : Prop :=
  worker.work limit progress ≠ .error .outOfTurns

theorem endsWithin_of_noReads
    {limit : Nat}
    {progress : Progress}
    (noReads : progress.clock.readsLeft = 0) :
    worker.EndsWithin limit progress := by
  have stopped : worker.work limit progress = .ok progress := by
    cases limit <;> exact if_pos noReads
  rw [EndsWithin, stopped]
  intro same
  cases same

theorem endsWithin_succ
    {limit : Nat}
    {progress : Progress}
    (later :
      ∀ next, worker.turn progress = .ok next →
        worker.EndsWithin limit next) :
    worker.EndsWithin (limit + 1) progress := by
  rw [EndsWithin, work]
  split
  · intro same
    cases same
  · split
    · intro same
      cases same
    · rename_i next taken
      exact later next taken

/-- A worker ends if it does from where its next update leaves it. -/
theorem endsWithin_of_update
    {reads limit place : Nat}
    {progress : Progress}
    (later :
      ∀ next : Progress, next.random ≠ 0 → next.clock.readsLeft ≤ reads →
        worker.EndsWithin limit next)
    (nonzero : progress.random ≠ 0)
    (bounded : progress.clock.readsLeft ≤ reads + 1)
    (decided :
      operationAt ((draw^[2])^[place] progress.random) = .update) :
    worker.EndsWithin (limit + place + 1) progress := by
  induction place generalizing progress with
  | zero =>
      apply endsWithin_succ
      intro next taken
      apply later next
      · rw [random_of_turn taken]
        exact (tours_draw nonzero).iterate_ne_zero 2
      · rw [readsLeft_of_update decided taken]
        exact Nat.sub_le_of_le_add bounded
  | succ place induction =>
      apply endsWithin_succ
      intro next taken
      have moved := random_of_turn taken
      apply induction
      · rw [moved]
        exact (tours_draw nonzero).iterate_ne_zero 2
      · exact (readsLeft_of_turn taken).trans bounded
      · rw [moved, ← iterate_succ_apply]
        exact decided

/-- A cycle of turns for every reading of the clock is enough. -/
theorem endsWithin_of_le
    {reads limit : Nat}
    {progress : Progress}
    (nonzero : progress.random ≠ 0)
    (bounded : progress.clock.readsLeft ≤ reads)
    (enough : reads * cycleLength ≤ limit) :
    worker.EndsWithin limit progress := by
  induction reads generalizing limit progress with
  | zero => exact endsWithin_of_noReads (Nat.le_zero.mp bounded)
  | succ reads induction =>
      obtain ⟨place, early, decided⟩ := exists_update nonzero
      obtain ⟨rest, remaining, split⟩ :
          ∃ rest, reads * cycleLength ≤ rest ∧ limit = rest + place + 1 := by
        rw [Nat.succ_mul] at enough
        exact ⟨limit - place - 1, by omega, by omega⟩
      rw [split]
      exact
        endsWithin_of_update
          (fun _ nextNonzero nextBounded =>
            induction nextNonzero nextBounded remaining)
          nonzero bounded decided

/-- A worker that does not begin with zero never needs more turns than it may take. -/
theorem runOn_ne_outOfTurns
    (nonzero : worker.seed ≠ 0)
    (store : Store String)
    (clock : MeteredClock) :
    worker.runOn store clock ≠ .error .outOfTurns := by
  have enough :
      clock.readsLeft * cycleLength ≤ turnLimit clock.readsLeft :=
    Nat.mul_le_mul (Nat.le_succ _) (Nat.sub_le _ 1)
  exact endsWithin_of_le nonzero (Nat.le_refl clock.readsLeft) enough

end Worker

/-! ## Workers in turn -/

/-- Workers that run one after another finish, or a deadline cannot be represented. -/
def FinishOrOverflow
    (store : Store String)
    (now : Instant)
    (assignments : List Assignment) :
    Prop :=
  (∃ progresses, runInTurn store now assignments = .ok progresses) ∨
    ∃ error, runInTurn store now assignments = .error (.time error)

/-- Whoever does not begin with zero finishes, on whatever store and at whatever time. -/
theorem finishOrOverflow
    {assignments : List Assignment}
    (nonzero : ∀ assignment ∈ assignments, assignment.worker.seed ≠ 0)
    (store : Store String)
    (now : Instant) :
    FinishOrOverflow store now assignments := by
  induction assignments generalizing store now with
  | nil => exact Or.inl ⟨[], runInTurn_nil store now⟩
  | cons assignment rest induction =>
      obtain ⟨first, others⟩ := List.forall_mem_cons.mp nonzero
      cases worked :
          assignment.worker.runOn store (assignment.clockFrom now) with
      | error interruption =>
          cases interruption with
          | outOfTurns =>
              exact absurd worked (Worker.runOn_ne_outOfTurns first _ _)
          | time error => exact Or.inr ⟨error, runInTurn_of_error worked rest⟩
      | ok progress =>
          rw [FinishOrOverflow, runInTurn_of_ok worked rest]
          obtain ⟨progresses, finished⟩ | ⟨error, overflowed⟩ :=
            induction others progress.store progress.clock.reading
          · rw [finished]
            exact Or.inl ⟨progress :: progresses, rfl⟩
          · rw [overflowed]
            exact Or.inr ⟨error, rfl⟩

theorem FinishOrOverflow.exists_progresses
    {store : Store String}
    {now : Instant}
    {assignments : List Assignment}
    (outcome : FinishOrOverflow store now assignments)
    (finite :
      ∀ error, runInTurn store now assignments ≠ .error (.time error)) :
    ∃ progresses, runInTurn store now assignments = .ok progresses :=
  outcome.resolve_right fun ⟨error, overflowed⟩ => finite error overflowed

end TtlStore.Soak
