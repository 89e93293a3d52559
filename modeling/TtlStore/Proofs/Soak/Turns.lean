import TtlStore.Proofs.Store.Writing
import TtlStore.Soak.Worker

/-!
# The turns of soak workers

What a worker draws in a turn depends on its random state alone; only how the
drawn operation ends depends on the store and the clock.  A run is the list of
its turns, each with the worker's standing before and after it.
-/

namespace TtlStore.Soak

/-! ## How operations end -/

namespace Progress

variable {progress : Progress}

theorem update_of_none
    {item : Item String}
    (free : progress.store.lookup item.key = none) :
    progress.update item =
      { progress with clock := progress.clock.advance } := by
  rw [update, Store.update_of_none free]

theorem update_of_some
    {item : Item String}
    {existing : Entry String}
    (stored : progress.store.lookup item.key = some existing)
    (accepted : progress.store.refuses item.key item.token = false) :
    progress.update item =
      { progress with
        store := progress.store.set item
        clock := progress.clock.advance
        tally :=
          { progress.tally with updates := progress.tally.updates + 1 } } := by
  rw [update, Store.update_of_some stored accepted]

theorem delete_of_none
    {key : Key}
    (free : progress.store.lookup key = none)
    (token : Token) :
    progress.delete key token = progress := by
  rw [delete, Store.delete_of_none free]

theorem delete_of_some
    {key : Key}
    {token : Token}
    {existing : Entry String}
    (stored : progress.store.lookup key = some existing)
    (accepted : progress.store.refuses key token = false) :
    progress.delete key token =
      { progress with
        store :=
          (progress.store.drop key).withIndex
            (progress.store.index.remove key existing.deadline)
        tally :=
          { progress.tally with deletes := progress.tally.deletes + 1 } } := by
  rw [delete, Store.delete_of_some stored accepted]

end Progress

/-! ## What a turn draws -/

/-- The operation that a random state draws. -/
def operationAt (random : UInt64) : Operation :=
  Operation.ofNumber (draw (draw random))

/-- The standing of a worker that has drawn its two numbers. -/
def Progress.drawn (progress : Progress) : Progress :=
  { progress with random := draw (draw progress.random) }

namespace Worker

variable (worker : Worker)

/-- The key that a worker draws in some random state. -/
def keyAt (random : UInt64) : Key :=
  worker.key (draw random % worker.keys)

/-- Carry out an operation on a key, with the token that belongs to it. -/
def carryOut
    (operation : Operation)
    (key : Key)
    (progress : Progress) :
    Except TimeError Progress :=
  match operation with
  | .read => .ok (progress.read key (tokenOf key))
  | .store =>
      (worker.item key (tokenOf key) progress.clock.reading).map
        progress.set
  | .update =>
      (worker.item key (tokenOf key) progress.clock.reading).map
        progress.update
  | .delete => .ok (progress.delete key (tokenOf key))

/-- A turn carries out the drawn operation on the drawn key. -/
theorem turn_eq (progress : Progress) :
    worker.turn progress =
      worker.carryOut (operationAt progress.random)
        (worker.keyAt progress.random) progress.drawn :=
  rfl

variable {worker}

/-- The item that a worker writes under a key at a reading of the clock. -/
def written (worker : Worker) (key : Key) (now : Instant) : Item String where
  key := key
  token := tokenOf key
  value := worker.value
  deadline := some (now.shift worker.ttl)

/-- A write that does not fail for its deadline is a write of the worker's item. -/
theorem eq_of_map_item_eq_ok
    {key : Key}
    {now : Instant}
    {change : Item String → Progress}
    {left : Progress}
    (carried :
      (worker.item key (tokenOf key) now).map change = .ok left) :
    change (worker.written key now) = left := by
  rw [Worker.item, Item.expiringAfter, Instant.later] at carried
  split at carried
  · exact Except.ok.inj carried
  · cases carried

/-- A store writes the worker's item, or its deadline overflows. -/
theorem carryOut_store
    (worker : Worker)
    (key : Key)
    (progress : Progress) :
    (∃ error, worker.carryOut .store key progress = .error error) ∨
      worker.carryOut .store key progress =
        .ok (progress.set (worker.written key progress.clock.reading)) := by
  rw [carryOut, Worker.item, Item.expiringAfter, Instant.later]
  split
  · exact Or.inr rfl
  · exact Or.inl ⟨_, rfl⟩

/-- An update writes the worker's item, or its deadline overflows. -/
theorem carryOut_update
    (worker : Worker)
    (key : Key)
    (progress : Progress) :
    (∃ error, worker.carryOut .update key progress = .error error) ∨
      worker.carryOut .update key progress =
        .ok (progress.update (worker.written key progress.clock.reading)) := by
  rw [carryOut, Worker.item, Item.expiringAfter, Instant.later]
  split
  · exact Or.inr rfl
  · exact Or.inl ⟨_, rfl⟩

end Worker

/-! ## Runs as lists of turns -/

/-- A turn of a worker, with its standing before and after. -/
structure Turn where
  worker : Worker
  found : Progress
  left : Progress

namespace Turn

/-- The key that is drawn. -/
def key (turn : Turn) : Key :=
  turn.worker.keyAt turn.found.random

/-- The operation that is drawn. -/
def operation (turn : Turn) : Operation :=
  operationAt turn.found.random

end Turn

/-- The turns that a worker takes until its clock stops it, but no more than a number of turns. -/
def Worker.turns (worker : Worker) : Nat → Progress → List Turn
  | limit, progress =>
      if progress.clock.readsLeft = 0 then
        []
      else
        match limit with
        | 0 => []
        | limit + 1 =>
            match worker.turn progress with
            | .error _ => []
            | .ok next =>
                { worker := worker, found := progress, left := next } ::
                  worker.turns limit next

/-- The turns that a worker takes on a store until the clock stops it. -/
def Worker.turnsOn
    (worker : Worker)
    (store : Store String)
    (clock : MeteredClock) :
    List Turn :=
  worker.turns (turnLimit clock.readsLeft)
    (Progress.begin worker store clock)

/-- The clock of an assignment that begins at some instant. -/
def Assignment.clockFrom
    (assignment : Assignment)
    (now : Instant) :
    MeteredClock where
  reading := now
  step := assignment.step
  readsLeft := assignment.reads

/-- Let workers run one after another, whatever a run is. -/
def runEach
    (run :
      Worker → Store String → MeteredClock → Except Interruption Progress)
    (store : Store String)
    (now : Instant) :
    List Assignment → Except Interruption (List Progress)
  | [] => .ok []
  | assignment :: rest =>
      match run assignment.worker store
          { reading := now
            step := assignment.step
            readsLeft := assignment.reads } with
      | .error interruption => .error interruption
      | .ok progress =>
          (runEach run progress.store progress.clock.reading rest).map
            (progress :: ·)

/-- The runs proper have too large a limit of turns for Lean to open their definition. -/
theorem runInTurn_eq_runEach : runInTurn = runEach Worker.runOn := by
  delta runInTurn runEach
  rfl

/-- If the first worker finishes, the rest goes on from where it stopped. -/
theorem runInTurn_of_ok
    {store : Store String}
    {now : Instant}
    {assignment : Assignment}
    {progress : Progress}
    (worked :
      assignment.worker.runOn store (assignment.clockFrom now) =
        .ok progress)
    (rest : List Assignment) :
    runInTurn store now (assignment :: rest) =
      (runInTurn progress.store progress.clock.reading rest).map
        (progress :: ·) := by
  rw [runInTurn_eq_runEach, runEach, ← Assignment.clockFrom, worked]

/-- If the first worker does not finish, nothing more is done. -/
theorem runInTurn_of_error
    {store : Store String}
    {now : Instant}
    {assignment : Assignment}
    {interruption : Interruption}
    (stopped :
      assignment.worker.runOn store (assignment.clockFrom now) =
        .error interruption)
    (rest : List Assignment) :
    runInTurn store now (assignment :: rest) = .error interruption := by
  rw [runInTurn_eq_runEach, runEach, ← Assignment.clockFrom, stopped]

/-- When workers have finished, the first of them has finished, and then the rest. -/
theorem exists_of_runInTurn_cons
    {store : Store String}
    {now : Instant}
    {assignment : Assignment}
    {rest : List Assignment}
    {progresses : List Progress}
    (ran : runInTurn store now (assignment :: rest) = .ok progresses) :
    ∃ progress others,
      assignment.worker.runOn store (assignment.clockFrom now) =
          .ok progress ∧
        runInTurn progress.store progress.clock.reading rest =
            .ok others ∧
          progresses = progress :: others := by
  cases worked :
      assignment.worker.runOn store (assignment.clockFrom now) with
  | error interruption =>
      rw [runInTurn_of_error worked] at ran
      cases ran
  | ok progress =>
      rw [runInTurn_of_ok worked] at ran
      cases later :
          runInTurn progress.store progress.clock.reading rest with
      | error interruption =>
          rw [later] at ran
          cases ran
      | ok others =>
          rw [later] at ran
          cases ran
          exact ⟨progress, others, rfl, later, rfl⟩

theorem runInTurn_nil (store : Store String) (now : Instant) :
    runInTurn store now [] = .ok [] := by
  rw [runInTurn_eq_runEach, runEach]

/-- The store that workers leave is the one that the others leave after the first. -/
theorem finalStore_cons
    (store : Store String)
    (progress : Progress)
    (rest : List Progress) :
    finalStore store (progress :: rest) =
      finalStore progress.store rest := by
  cases rest with
  | nil => rfl
  | cons next others =>
      rw [finalStore, finalStore, List.getLast?_cons_cons,
        List.getLast?_eq_some_getLast (List.cons_ne_nil next others)]
      rfl

/-- The turns lead a worker from one standing to another, where its clock stops it. -/
inductive Worker.Works (worker : Worker) :
    Progress → List Turn → Progress → Prop where
  | stopped
      (progress : Progress)
      (noReads : progress.clock.readsLeft = 0) :
      Works worker progress [] progress
  | turn
      {progress next last : Progress}
      {turns : List Turn}
      (taken : worker.turn progress = .ok next)
      (later : Works worker next turns last) :
      Works worker progress
        ({ worker := worker, found := progress, left := next } :: turns) last

/-- A worker that finishes has got there by its turns. -/
theorem Worker.works_of_work
    {worker : Worker}
    {limit : Nat}
    {progress last : Progress}
    (worked : worker.work limit progress = .ok last) :
    worker.Works progress (worker.turns limit progress) last := by
  induction limit generalizing progress with
  | zero =>
      rw [work] at worked
      split at worked
      · rename_i noReads
        cases worked
        rw [turns, if_pos noReads]
        exact .stopped _ noReads
      · cases worked
  | succ limit induction =>
      rw [work] at worked
      rw [turns]
      split at worked
      · rename_i noReads
        cases worked
        rw [if_pos noReads]
        exact .stopped _ noReads
      · rename_i reads
        rw [if_neg reads]
        cases taken : worker.turn progress with
        | error error =>
            rw [taken] at worked
            cases worked
        | ok next =>
            rw [taken] at worked
            exact .turn taken (induction worked)

theorem Worker.works_of_runOn
    {worker : Worker}
    {store : Store String}
    {clock : MeteredClock}
    {last : Progress}
    (ran : worker.runOn store clock = .ok last) :
    worker.Works (Progress.begin worker store clock)
      (worker.turnsOn store clock) last := by
  rw [runOn] at ran
  exact works_of_work ran

/-- What every turn keeps holds after all of them. -/
theorem Worker.Works.keeps
    {worker : Worker}
    {progress last : Progress}
    {turns : List Turn}
    (works : worker.Works progress turns last)
    (Holds : Progress → Prop)
    (kept :
      ∀ {progress next : Progress},
        worker.turn progress = .ok next → Holds progress → Holds next)
    (holds : Holds progress) :
    Holds last := by
  induction works with
  | stopped progress noReads => exact holds
  | turn taken later induction => exact induction (kept taken holds)

end TtlStore.Soak
