import Mathlib.Data.List.Perm.Basic
import Mathlib.Data.Nat.Bitwise
import TtlStore.Proofs.Soak.Finishing
import TtlStore.Proofs.Soak.Shifted

/-!
# Soak workers do not influence each other

A worker's number makes up the high bits of all its keys, so workers with
different numbers have no key in common, and none of them touches what is stored
under the keys of another.  What a worker does depends on its own draws, on what
is stored under its own keys, and on how far its deadlines are from its clock.  So
it does the same whoever has been at work before it, on whatever store and at
whatever time, unless a deadline cannot be represented; and unless one cannot, it
finishes, since a worker with so small a number does not begin with zero.
-/

namespace TtlStore.Soak

/-! ## Keys of different workers -/

namespace Worker

/-- A worker may draw a key. -/
def Owns (worker : Worker) (key : Key) : Prop :=
  ∃ place < worker.keys, worker.key place = key

/-- A worker whose number and number of keys leave all its keys to itself. -/
structure Bounded (worker : Worker) : Prop where
  id_lt : worker.id.toNat < 2 ^ 24
  keys_pos : 1 ≤ worker.keys.toNat
  keys_le : worker.keys.toNat ≤ 2 ^ 40

variable {worker other : Worker}

theorem owns_keyAt (bounded : worker.Bounded) (random : UInt64) :
    worker.Owns (worker.keyAt random) := by
  refine ⟨draw random % worker.keys, ?_, rfl⟩
  apply UInt64.mod_lt
  exact UInt64.lt_iff_toNat_lt.mpr bounded.keys_pos

/-- A worker that has its keys to itself does not begin with zero. -/
theorem Bounded.seed_ne_zero (bounded : worker.Bounded) : worker.seed ≠ 0 := by
  apply Worker.seed_ne_zero
  intro same
  have sameNumber := congrArg UInt64.toNat same
  have below := bounded.id_lt
  rw [UInt64.toNat_add] at sameNumber
  change (worker.id.toNat + 1) % 2 ^ 64 = 0x9e3779b97f4a7c15 at sameNumber
  omega

/-- The number of a worker and the place are the two parts of a key. -/
theorem toNat_key
    (bounded : worker.Bounded)
    {place : UInt64}
    (inRange : place < worker.keys) :
    (worker.key place).toNat = worker.id.toNat * 2 ^ 40 + place.toNat := by
  have idBound := bounded.id_lt
  have placeBound : place.toNat < 2 ^ 40 :=
    Nat.lt_of_lt_of_le (UInt64.lt_iff_toNat_lt.mp inRange) bounded.keys_le
  have highPart : (worker.id <<< 40).toNat = worker.id.toNat <<< 40 := by
    rw [UInt64.toNat_shiftLeft]
    apply Nat.mod_eq_of_lt
    show worker.id.toNat <<< 40 < _
    rw [Nat.shiftLeft_eq]
    omega
  rw [key, UInt64.toNat_or, highPart,
    ← Nat.shiftLeft_add_eq_or_of_lt placeBound, Nat.shiftLeft_eq]

/-- Workers with different numbers have no key in common. -/
theorem not_owns_of_ne
    (bounded : worker.Bounded)
    (otherBounded : other.Bounded)
    (different : worker.id ≠ other.id)
    {key : Key}
    (own : worker.Owns key) :
    ¬ other.Owns key := by
  rintro ⟨otherPlace, otherInRange, sameKey⟩
  rcases own with ⟨place, inRange, rfl⟩
  have parts := toNat_key bounded inRange
  have otherParts := toNat_key otherBounded otherInRange
  rw [sameKey, parts] at otherParts
  have placeBound : place.toNat < 2 ^ 40 :=
    Nat.lt_of_lt_of_le (UInt64.lt_iff_toNat_lt.mp inRange) bounded.keys_le
  have otherPlaceBound : otherPlace.toNat < 2 ^ 40 :=
    Nat.lt_of_lt_of_le (UInt64.lt_iff_toNat_lt.mp otherInRange)
      otherBounded.keys_le
  apply different
  apply UInt64.toNat_inj.mp
  omega

/-! ## What other workers leave alone -/

/-- A turn changes nothing under keys that are not the worker's. -/
theorem lookup_turn
    (bounded : worker.Bounded)
    {key : Key}
    (foreign : ¬ worker.Owns key)
    {progress next : Progress}
    (taken : worker.turn progress = .ok next) :
    next.store.lookup key = progress.store.lookup key := by
  have different : worker.keyAt progress.random ≠ key := by
    intro same
    exact foreign (same ▸ owns_keyAt bounded progress.random)
  let found := progress.drawn
  have carried :
      worker.carryOut (operationAt progress.random)
        (worker.keyAt progress.random) found = .ok next :=
    taken
  cases drew : operationAt progress.random with
  | read =>
      rw [drew] at carried
      rw [← Except.ok.inj carried]
      rfl
  | store =>
      rw [drew] at carried
      rw [← eq_of_map_item_eq_ok carried]
      exact found.store.lookup_set_of_ne different
  | update =>
      rw [drew] at carried
      rw [← eq_of_map_item_eq_ok carried]
      exact found.store.lookup_update_of_ne different
  | delete =>
      rw [drew] at carried
      rw [← Except.ok.inj carried]
      exact found.store.lookup_delete_of_ne different _

/-- A run changes nothing under keys that are not the worker's. -/
theorem lookup_runOn
    (bounded : worker.Bounded)
    {key : Key}
    (foreign : ¬ worker.Owns key)
    {store : Store String}
    {clock : MeteredClock}
    {last : Progress}
    (ran : worker.runOn store clock = .ok last) :
    last.store.lookup key = store.lookup key := by
  let Same (progress : Progress) : Prop :=
    progress.store.lookup key = store.lookup key
  have same : Same last :=
    (works_of_runOn ran).keeps Same
      (fun taken same => (lookup_turn bounded foreign taken).trans same) rfl
  exact same

/-! ## The same run at another time -/

/-- What a worker does beside one store it does beside the other, unless a deadline overflows. -/
theorem shifted_turn
    (bounded : worker.Bounded)
    {span : Int}
    {left right leftNext : Progress}
    (shifted : Progress.Shifted worker.Owns span left right)
    (taken : worker.turn left = .ok leftNext) :
    (∃ error, worker.turn right = .error error) ∨
      ∃ rightNext,
        worker.turn right = .ok rightNext ∧
          Progress.Shifted worker.Owns span leftNext rightNext := by
  let key := worker.keyAt right.random
  have own : worker.Owns key := owns_keyAt bounded right.random
  have drawn := shifted.drawn
  have sameReading :
      left.drawn.clock.reading = right.drawn.clock.reading.moved span :=
    congrArg MeteredClock.reading drawn.clock_eq
  have carried :
      worker.carryOut (operationAt right.random) key left.drawn =
        .ok leftNext := by
    rw [turn_eq, shifted.random_eq] at taken
    exact taken
  rw [turn_eq]
  cases drew : operationAt right.random with
  | read =>
      rw [drew] at carried
      rw [← Except.ok.inj carried]
      exact Or.inr ⟨_, rfl, drawn.read own (tokenOf key)⟩
  | store =>
      rw [drew] at carried
      have sameNext := eq_of_map_item_eq_ok carried
      rw [sameReading, written_moved] at sameNext
      rw [← sameNext]
      exact
        (carryOut_store worker key right.drawn).imp_right fun written =>
          ⟨_, written, drawn.set own⟩
  | update =>
      rw [drew] at carried
      have sameNext := eq_of_map_item_eq_ok carried
      rw [sameReading, written_moved] at sameNext
      rw [← sameNext]
      exact
        (carryOut_update worker key right.drawn).imp_right fun written =>
          ⟨_, written, drawn.update own⟩
  | delete =>
      rw [drew] at carried
      rw [← Except.ok.inj carried]
      exact Or.inr ⟨_, rfl, drawn.delete own (tokenOf key)⟩

/-- A run that ends beside one store ends likewise beside the other, unless a deadline overflows. -/
theorem shifted_work
    (bounded : worker.Bounded)
    {span : Int}
    {limit : Nat}
    {left right leftLast : Progress}
    (shifted : Progress.Shifted worker.Owns span left right)
    (worked : worker.work limit left = .ok leftLast) :
    (∃ error, worker.work limit right = .error (.time error)) ∨
      ∃ rightLast,
        worker.work limit right = .ok rightLast ∧
          Progress.Shifted worker.Owns span leftLast rightLast := by
  induction limit generalizing left right with
  | zero =>
      rw [work, shifted.readsLeft_eq] at worked
      rw [work]
      by_cases noReads : right.clock.readsLeft = 0
      · rw [if_pos noReads] at worked ⊢
        cases worked
        exact Or.inr ⟨right, rfl, shifted⟩
      · rw [if_neg noReads] at worked
        cases worked
  | succ limit induction =>
      rw [work, shifted.readsLeft_eq] at worked
      rw [work]
      by_cases noReads : right.clock.readsLeft = 0
      · rw [if_pos noReads] at worked ⊢
        cases worked
        exact Or.inr ⟨right, rfl, shifted⟩
      · rw [if_neg noReads] at worked ⊢
        cases taken : worker.turn left with
        | error error =>
            rw [taken] at worked
            cases worked
        | ok leftNext =>
            rw [taken] at worked
            rcases shifted_turn bounded shifted taken with
              ⟨error, overflows⟩ | ⟨rightNext, takenToo, shiftedNext⟩
            · rw [overflows]
              exact Or.inl ⟨error, rfl⟩
            · rw [takenToo]
              exact induction shiftedNext worked

end Worker

/-- On stores that hold nothing under its keys a worker does the same at any two times. -/
theorem Assignment.shifted_runOn
    {assignment : Assignment}
    (bounded : assignment.worker.Bounded)
    {left right : Store String}
    (leftVacant :
      ∀ key, assignment.worker.Owns key → left.lookup key = none)
    (rightVacant :
      ∀ key, assignment.worker.Owns key → right.lookup key = none)
    {leftStart : Instant}
    (rightStart : Instant)
    {leftLast : Progress}
    (ran :
      assignment.worker.runOn left (assignment.clockFrom leftStart) =
        .ok leftLast) :
    (∃ error,
        assignment.worker.runOn right (assignment.clockFrom rightStart) =
          .error (.time error)) ∨
      ∃ rightLast,
        assignment.worker.runOn right (assignment.clockFrom rightStart) =
            .ok rightLast ∧
          ∃ span,
            Progress.Shifted assignment.worker.Owns span leftLast
              rightLast := by
  let span := leftStart.nanoseconds - rightStart.nanoseconds
  have begun :
      Progress.Shifted assignment.worker.Owns span
        (Progress.begin assignment.worker left
          (assignment.clockFrom leftStart))
        (Progress.begin assignment.worker right
          (assignment.clockFrom rightStart)) := by
    constructor
    · intro key own
      show left.lookup key = (right.lookup key).map _
      rw [leftVacant key own, rightVacant key own]
      rfl
    · have sameStart : leftStart = rightStart.moved span := by
        simp only [Instant.ext_iff, Instant.moved, span]
        omega
      rw [sameStart]
      rfl
    · rfl
    · rfl
  rw [Worker.runOn] at ran
  rw [Worker.runOn]
  rcases Worker.shifted_work bounded begun ran with
    refused | ⟨rightLast, finished, shifted⟩
  · exact Or.inl refused
  · exact Or.inr ⟨rightLast, finished, span, shifted⟩

/-! ## Workers one after another -/

/-- The token and the value of an entry, without its deadline. -/
def content (entry : Entry String) : Token × String :=
  (entry.token, entry.value)

/-- A worker has counted the same, and the same is stored under its keys. -/
structure Worker.SameResult
    (worker : Worker)
    (tally : Tally)
    (store : Store String)
    (otherTally : Tally)
    (otherStore : Store String) :
    Prop where
  tally_eq : tally = otherTally
  contents_eq :
    ∀ key, worker.Owns key →
      (store.lookup key).map content = (otherStore.lookup key).map content

theorem Progress.Shifted.sameResult
    {worker : Worker}
    {span : Int}
    {left right : Progress}
    (shifted : Shifted worker.Owns span left right) :
    worker.SameResult left.tally left.store right.tally right.store where
  tally_eq := shifted.tally_eq
  contents_eq key own := by
    rw [shifted.entries key own, Option.map_map]
    rfl

/-- Workers whose numbers are distinct, and which have all their keys to themselves. -/
structure Apart (assignments : List Assignment) : Prop where
  distinct :
    assignments.Pairwise fun left right => left.worker.id ≠ right.worker.id
  bounded : ∀ assignment ∈ assignments, assignment.worker.Bounded

theorem Apart.tail
    {assignment : Assignment}
    {rest : List Assignment}
    (apart : Apart (assignment :: rest)) :
    Apart rest where
  distinct := (List.pairwise_cons.mp apart.distinct).2
  bounded := (List.forall_mem_cons.mp apart.bounded).2

/-- Workers change nothing under keys that are none of theirs. -/
theorem lookup_finalStore
    {store : Store String}
    {now : Instant}
    {assignments : List Assignment}
    {progresses : List Progress}
    (ran : runInTurn store now assignments = .ok progresses)
    (bounded : ∀ assignment ∈ assignments, assignment.worker.Bounded)
    {key : Key}
    (foreign :
      ∀ assignment ∈ assignments, ¬ assignment.worker.Owns key) :
    (finalStore store progresses).lookup key = store.lookup key := by
  induction assignments generalizing store now progresses with
  | nil =>
      rw [runInTurn_nil] at ran
      cases ran
      rfl
  | cons assignment rest induction =>
      rcases exists_of_runInTurn_cons ran with
        ⟨progress, others, worked, later, rfl⟩
      rcases List.forall_mem_cons.mp bounded with ⟨first, boundedRest⟩
      rcases List.forall_mem_cons.mp foreign with
        ⟨foreignFirst, foreignRest⟩
      rw [finalStore_cons, induction later boundedRest foreignRest]
      exact Worker.lookup_runOn first foreignFirst worked

/--
Every one of the workers begins at some time on a store that holds under its keys
what the first store does, and what it leaves there stays.
-/
theorem exists_runOn
    {store : Store String}
    {now : Instant}
    {assignments : List Assignment}
    {progresses : List Progress}
    (ran : runInTurn store now assignments = .ok progresses)
    (apart : Apart assignments)
    {assignment : Assignment}
    {progress : Progress}
    (member : (assignment, progress) ∈ assignments.zip progresses) :
    ∃ begun start,
      assignment.worker.runOn begun (assignment.clockFrom start) =
          .ok progress ∧
        ∀ key, assignment.worker.Owns key →
          begun.lookup key = store.lookup key ∧
            (finalStore store progresses).lookup key =
              progress.store.lookup key := by
  induction assignments generalizing store now progresses with
  | nil => cases member
  | cons first rest induction =>
      rcases exists_of_runInTurn_cons ran with
        ⟨firstProgress, others, worked, later, rfl⟩
      rcases List.pairwise_cons.mp apart.distinct with ⟨firstDistinct, _⟩
      rcases List.forall_mem_cons.mp apart.bounded with
        ⟨firstBounded, boundedRest⟩
      rw [List.zip_cons_cons] at member
      rw [finalStore_cons]
      rcases List.mem_cons.mp member with isFirst | isLater
      · cases isFirst
        refine ⟨store, now, worked, ?_⟩
        intro key own
        refine ⟨rfl, lookup_finalStore later boundedRest ?_⟩
        intro other isOther
        exact
          Worker.not_owns_of_ne firstBounded (boundedRest other isOther)
            (firstDistinct other isOther) own
      · rcases induction later apart.tail isLater with
          ⟨begun, start, ranLater, untouched⟩
        refine ⟨begun, start, ranLater, ?_⟩
        intro key own
        rcases untouched key own with ⟨sameBegun, sameFinal⟩
        have isAssignment : assignment ∈ rest :=
          (List.of_mem_zip isLater).1
        have foreign : ¬ first.worker.Owns key :=
          Worker.not_owns_of_ne (boundedRest assignment isAssignment)
            firstBounded (firstDistinct assignment isAssignment).symm own
        exact
          ⟨sameBegun.trans
              (Worker.lookup_runOn firstBounded foreign worked),
            sameFinal⟩

theorem length_of_runInTurn
    {store : Store String}
    {now : Instant}
    {assignments : List Assignment}
    {progresses : List Progress}
    (ran : runInTurn store now assignments = .ok progresses) :
    progresses.length = assignments.length := by
  induction assignments generalizing store now progresses with
  | nil =>
      rw [runInTurn_nil] at ran
      cases ran
      rfl
  | cons assignment rest induction =>
      rcases exists_of_runInTurn_cons ran with
        ⟨progress, others, _, later, rfl⟩
      exact congrArg (· + 1) (induction later)

theorem Apart.perm
    {assignments permuted : List Assignment}
    (apart : Apart assignments)
    (perm : permuted.Perm assignments) :
    Apart permuted where
  distinct :=
    (perm.pairwise_iff fun different => Ne.symm different).mpr apart.distinct
  bounded := fun assignment member =>
    apart.bounded assignment (perm.mem_iff.mp member)

theorem Apart.singleton
    {assignments : List Assignment}
    (apart : Apart assignments)
    {assignment : Assignment}
    (member : assignment ∈ assignments) :
    Apart [assignment] where
  distinct := List.pairwise_singleton _ assignment
  bounded := List.forall_mem_singleton.mpr (apart.bounded assignment member)

/-- A worker comes to the same among any workers that finish on a vacant store. -/
theorem sameResult_of_runInTurn
    {store otherStore : Store String}
    (vacant : ∀ key, store.lookup key = none)
    (otherVacant : ∀ key, otherStore.lookup key = none)
    {now otherNow : Instant}
    {assignments others : List Assignment}
    {progresses otherProgresses : List Progress}
    (ran : runInTurn store now assignments = .ok progresses)
    (otherRan : runInTurn otherStore otherNow others = .ok otherProgresses)
    (apart : Apart assignments)
    (otherApart : Apart others)
    {assignment : Assignment}
    {progress other : Progress}
    (member : (assignment, progress) ∈ assignments.zip progresses)
    (otherMember : (assignment, other) ∈ others.zip otherProgresses) :
    assignment.worker.SameResult progress.tally
      (finalStore store progresses) other.tally
      (finalStore otherStore otherProgresses) := by
  have bounded := apart.bounded assignment (List.of_mem_zip member).1
  rcases exists_runOn ran apart member with
    ⟨begun, start, worked, untouched⟩
  rcases exists_runOn otherRan otherApart otherMember with
    ⟨otherBegun, otherStart, otherWorked, otherUntouched⟩
  have begunVacant :
      ∀ key, assignment.worker.Owns key → begun.lookup key = none :=
    fun key own => (untouched key own).1.trans (vacant key)
  have otherBegunVacant :
      ∀ key, assignment.worker.Owns key → otherBegun.lookup key = none :=
    fun key own => (otherUntouched key own).1.trans (otherVacant key)
  rcases Assignment.shifted_runOn bounded begunVacant otherBegunVacant
      otherStart worked with
    ⟨error, overflows⟩ | ⟨last, finished, span, shifted⟩
  · rw [otherWorked] at overflows
    cases overflows
  · have sameLast : other = last :=
      Except.ok.inj (otherWorked.symm.trans finished)
    subst sameLast
    have same := shifted.sameResult
    refine ⟨same.tally_eq, ?_⟩
    intro key own
    rw [(untouched key own).2, (otherUntouched key own).2]
    exact same.contents_eq key own

/-- Workers with keys of their own finish, unless a deadline overflows. -/
theorem Apart.finishOrOverflow
    {assignments : List Assignment}
    (apart : Apart assignments)
    (store : Store String)
    (now : Instant) :
    FinishOrOverflow store now assignments :=
  Soak.finishOrOverflow
    (fun assignment member => (apart.bounded assignment member).seed_ne_zero)
    store now

/-- So does one of them alone. -/
theorem Apart.exists_alone
    {assignment : Assignment}
    (apart : Apart [assignment])
    {store : Store String}
    {now : Instant}
    (finite :
      ∀ error, runInTurn store now [assignment] ≠ .error (.time error)) :
    ∃ alone, runInTurn store now [assignment] = .ok [alone] := by
  rcases (apart.finishOrOverflow store now).exists_progresses finite with
    ⟨progresses, finished⟩
  rcases exists_of_runInTurn_cons finished with ⟨alone, others, _, later, rfl⟩
  rw [runInTurn_nil] at later
  cases later
  exact ⟨alone, finished⟩

/--
Soak workers do not influence each other.  Workers with distinct numbers, each
with all its keys to itself, finish one after another on a fresh store unless a
deadline overflows.  If they do, every one of them, alone on a fresh store of any
other kind and at any other time, finishes as well unless a deadline overflows
there, counts the same, and leaves the same keys, tokens and values.  So their
order does not matter either.
-/
theorem workers_independent
    (settings otherSettings : StoreSettings)
    (valid : settings.validate = .ok ())
    (otherValid : otherSettings.validate = .ok ())
    (clock otherClock : Instant)
    (assignments : List Assignment)
    (apart : Apart assignments) :
    ∃ store otherStore : Store String,
      Store.ofSettings settings clock = .ok store ∧
        Store.ofSettings otherSettings otherClock = .ok otherStore ∧
          FinishOrOverflow store clock assignments ∧
          ∀ progresses, runInTurn store clock assignments = .ok progresses →
            progresses.length = assignments.length ∧
              (∀ assignment progress,
                (assignment, progress) ∈ assignments.zip progresses →
                  (∀ error,
                    runInTurn otherStore otherClock [assignment] ≠
                      .error (.time error)) →
                    ∃ alone,
                      runInTurn otherStore otherClock [assignment] =
                          .ok [alone] ∧
                        assignment.worker.SameResult progress.tally
                          (finalStore store progresses) alone.tally
                          alone.store) ∧
              ∀ permuted, permuted.Perm assignments →
                FinishOrOverflow otherStore otherClock permuted ∧
                ∀ others,
                  runInTurn otherStore otherClock permuted = .ok others →
                    ∀ assignment progress other,
                      (assignment, progress) ∈ assignments.zip progresses →
                        (assignment, other) ∈ permuted.zip others →
                          assignment.worker.SameResult progress.tally
                            (finalStore store progresses) other.tally
                            (finalStore otherStore others) := by
  refine
    ⟨_, _, Store.ofSettings_of_valid valid clock,
      Store.ofSettings_of_valid otherValid otherClock,
      apart.finishOrOverflow _ clock, ?_⟩
  intro progresses ran
  have vacant :=
    fun key =>
      Store.lookup_empty (V := String) settings.shards
        (Calendar.ofWidth clock settings.bucketWidth)
        (settings.validate_eq_ok_iff.mp valid).1 key
  have otherVacant :=
    fun key =>
      Store.lookup_empty (V := String) otherSettings.shards
        (Calendar.ofWidth otherClock otherSettings.bucketWidth)
        (otherSettings.validate_eq_ok_iff.mp otherValid).1 key
  refine ⟨length_of_runInTurn ran, ?_, ?_⟩
  · intro assignment progress member finite
    have apartAlone := apart.singleton (List.of_mem_zip member).1
    rcases apartAlone.exists_alone finite with ⟨alone, finished⟩
    refine ⟨alone, finished, ?_⟩
    exact
      sameResult_of_runInTurn vacant otherVacant ran finished apart apartAlone
        member List.mem_cons_self
  · intro permuted perm
    refine ⟨(apart.perm perm).finishOrOverflow _ otherClock, ?_⟩
    intro others otherRan assignment progress other member otherMember
    exact
      sameResult_of_runInTurn vacant otherVacant ran otherRan apart
        (apart.perm perm) member otherMember

/-- A worker with two keys. -/
def firstWorker : Assignment where
  worker := { id := 3, keys := 2, ttl := ⟨8⟩ }
  step := ⟨4⟩
  reads := 5

/-- A worker with three keys of its own, whose reads find most of what it stores. -/
def secondWorker : Assignment where
  worker := { id := 8, keys := 3, ttl := ⟨20⟩ }
  step := ⟨2⟩
  reads := 9

theorem apart_twoWorkers : Apart [firstWorker, secondWorker] := by
  constructor
  · simp only [List.pairwise_cons]
    decide
  · simp only [List.forall_mem_cons]
    exact
      ⟨⟨by decide, by decide, by decide⟩, ⟨by decide, by decide, by decide⟩,
        by simp⟩

theorem workers_independent_twoWorkers :
    (StoreSettings.mk 2 ⟨10⟩).validate = .ok () ∧
      (StoreSettings.mk 1 ⟨7⟩).validate = .ok () ∧
      Apart [firstWorker, secondWorker] ∧
      ∃ (store otherStore : Store String) (first second alone : Progress),
        Store.ofSettings ⟨2, ⟨10⟩⟩ ⟨0⟩ = .ok store ∧
          Store.ofSettings ⟨1, ⟨7⟩⟩ ⟨-50⟩ = .ok otherStore ∧
          runInTurn store ⟨0⟩ [firstWorker, secondWorker] =
            .ok [first, second] ∧
          runInTurn otherStore ⟨-50⟩ [secondWorker] = .ok [alone] ∧
          second.tally = ⟨6, 1, 3, 0, 0⟩ ∧
          secondWorker.worker.SameResult second.tally second.store
            alone.tally alone.store := by
  have valid : (StoreSettings.mk 2 ⟨10⟩).validate = .ok () := by decide
  have otherValid : (StoreSettings.mk 1 ⟨7⟩).validate = .ok () := by decide
  rcases workers_independent ⟨2, ⟨10⟩⟩ ⟨1, ⟨7⟩⟩ valid otherValid ⟨0⟩ ⟨-50⟩
      [firstWorker, secondWorker] apart_twoWorkers with
    ⟨store, otherStore, made, otherMade, _, independent⟩
  have opened :
      store = Store.empty 2 (Calendar.ofWidth ⟨0⟩ ⟨10⟩) (by decide) :=
    Store.eq_empty_of_ofSettings valid made
  have otherOpened :
      otherStore = Store.empty 1 (Calendar.ofWidth ⟨-50⟩ ⟨7⟩) (by decide) :=
    Store.eq_empty_of_ofSettings otherValid otherMade
  have together :
      (runInTurn store ⟨0⟩ [firstWorker, secondWorker]).toOption.map
          (fun progresses => progresses.map (·.tally)) =
        some [⟨1, 6, 3, 0, 1⟩, ⟨6, 1, 3, 0, 0⟩] := by
    rw [opened]
    decide +kernel
  have aloneFinishes :
      (runInTurn otherStore ⟨-50⟩ [secondWorker]).toOption.isSome = true := by
    rw [otherOpened]
    decide +kernel
  have finite :
      ∀ error,
        runInTurn otherStore ⟨-50⟩ [secondWorker] ≠ .error (.time error) := by
    intro error failed
    rw [failed] at aloneFinishes
    cases aloneFinishes
  cases ran : runInTurn store ⟨0⟩ [firstWorker, secondWorker] with
  | error interruption =>
      rw [ran] at together
      cases together
  | ok progresses =>
      rcases independent progresses ran with ⟨sameLength, sameAlone, _⟩
      rcases progresses with _ | ⟨first, _ | ⟨second, _ | ⟨third, others⟩⟩⟩
      · cases sameLength
      · cases sameLength
      · have member :
            (secondWorker, second) ∈
              [firstWorker, secondWorker].zip [first, second] :=
          List.mem_cons_of_mem _ List.mem_cons_self
        rcases sameAlone secondWorker second member finite with
          ⟨alone, ranAlone, same⟩
        rw [ran] at together
        have sameTallies := Option.some.inj together
        rcases List.cons.inj sameTallies with ⟨_, sameRest⟩
        rcases List.cons.inj sameRest with ⟨secondTally, _⟩
        exact
          ⟨valid, otherValid, apart_twoWorkers, store, otherStore, first,
            second, alone, made, otherMade, ran, ranAlone, secondTally, same⟩
      · cases sameLength

end TtlStore.Soak
