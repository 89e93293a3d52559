import TtlStore.Proofs.Session.Step
import TtlStore.Proofs.Store.Coverage

/-!
# Ordinary actions

The commands that act on the index directly, and the one that evicts a single
candidate, bypass what keeps the index in step with the store.  All other
commands are ordinary: they store, replace, delete and read under keys, move the
clock, and ask.  An action is ordinary if neither it nor any action of its
collaborators, at whatever depth, is of the former kind.

An ordinary command changes a store only by changes of single keys, and a run
of ordinary actions never comes to carry out anything else.
-/

namespace TtlStore

variable {V : Type}

/-- The command does not act on the index, nor evict, by itself. -/
def Command.ordinary : Command V → Bool
  | .evict _ _ => false
  | .indexAdd _ _ _ => false
  | .indexMove _ _ _ _ => false
  | .indexRemove _ _ => false
  | _ => true

/-- Neither the action nor those of its collaborators act on the index by themselves. -/
inductive Action.Ordinary : Action V → Prop where
  | perform
      (command : Command V)
      (ordinary : command.ordinary = true) :
      Ordinary (.perform command)
  | cleanup
      (policy : Nat → Key → List (Action V))
      (callback : Option (Nat → Item V → List (Action V)))
      (policyOrdinary :
        ∀ number key, ∀ action ∈ policy number key, Ordinary action)
      (callbackOrdinary :
        ∀ react, callback = some react →
          ∀ number item, ∀ action ∈ react number item, Ordinary action) :
      Ordinary (.cleanup policy callback)
  | clear
      (callback : Option (Nat → Item V → List (Action V)))
      (callbackOrdinary :
        ∀ react, callback = some react →
          ∀ number item, ∀ action ∈ react number item, Ordinary action) :
      Ordinary (.clear callback)

/-! ## Ordinary commands change single keys -/

namespace Session

theorem change_set (session : Session V) (write : Write V) :
    session.store.Change (session.set write).1.store := by
  rw [set]
  split
  · exact Store.Change.unchanged
  · split
    · exact Store.Change.unchanged
    · exact session.store.change_set _

theorem change_update (session : Session V) (write : Write V) :
    session.store.Change (session.update write).1.store := by
  rw [update]
  split
  · exact Store.Change.unchanged
  · split
    · exact Store.Change.unchanged
    · exact session.store.change_update _

theorem change_delete (session : Session V) (key : Key) (token : Token) :
    session.store.Change (session.delete key token).1.store := by
  rw [delete]
  split
  · exact Store.Change.unchanged
  · exact session.store.change_delete key token

variable {Holds : Store V → Prop}

/-- What single sets keep, a list of them keeps. -/
theorem setAll_keeps
    (kept : ∀ (session : Session V) (write : Write V),
      Holds session.store → Holds (session.set write).1.store)
    (writes : List (Write V))
    {session : Session V}
    (holds : Holds session.store) :
    Holds (session.setAll writes).1.store := by
  induction writes generalizing session with
  | nil => exact holds
  | cons write rest induction =>
      have holdsNext := kept session write holds
      rw [setAll]
      split
      · exact holds
      · rename_i refused
        rw [refused] at holdsNext
        exact induction holdsNext
      · rename_i stored
        rw [stored] at holdsNext
        exact induction holdsNext

/-- What changes of single keys keep, ordinary commands keep. -/
theorem perform_keeps
    (kept : ∀ {store changed : Store V},
      store.Change changed → Holds store → Holds changed)
    {command : Command V}
    (ordinary : command.ordinary = true)
    {session : Session V}
    (holds : Holds session.store) :
    Holds (session.perform command).1.store := by
  cases command with
  | set write => exact kept (session.change_set write) holds
  | setAll writes =>
      exact
        setAll_keeps (fun session write => kept (session.change_set write))
          writes holds
  | update write => exact kept (session.change_update write) holds
  | get key token => exact holds
  | delete key token => exact kept (session.change_delete key token) holds
  | deadline key => exact holds
  | advance span => exact holds
  | setClock instant => exact holds
  | relist listing => exact holds
  | evict candidate now => cases ordinary
  | indexAdd key token deadline => cases ordinary
  | indexMove key token old new => cases ordinary
  | indexRemove key deadline => cases ordinary
  | ask query => exact holds

end Session

/-! ## Runs of ordinary actions -/

/-- The collaborators of a sweep only do what is ordinary. -/
structure OpenSweep.Ordinary (sweep : OpenSweep V) : Prop where
  policy :
    ∀ number key, ∀ action ∈ sweep.policy number key, action.Ordinary
  callback :
    ∀ react, sweep.callback = some react →
      ∀ number item, ∀ action ∈ react number item, action.Ordinary

/-- The callback of a clearing only does what is ordinary. -/
def OpenClearing.Ordinary (clearing : OpenClearing V) : Prop :=
  ∀ react, clearing.callback = some react →
    ∀ number item, ∀ action ∈ react number item, action.Ordinary

def Task.Ordinary : Task V → Prop
  | .idle => True
  | .sweeping current => current.Ordinary
  | .clearing current => current.Ordinary

def Wait.Ordinary : Wait V → Prop
  | .policy sweep _ _ => sweep.Ordinary
  | .callback sweep _ _ _ => sweep.Ordinary
  | .farewell clearing _ => clearing.Ordinary

structure Suspended.Ordinary (suspended : Suspended V) : Prop where
  todo : ∀ action ∈ suspended.todo, action.Ordinary
  wait : suspended.wait.Ordinary

/-- All that is still to be done at a moment is ordinary. -/
structure Moment.Ordinary (moment : Moment V) : Prop where
  todo : ∀ action ∈ moment.todo, action.Ordinary
  task : moment.task.Ordinary
  outer : ∀ suspended ∈ moment.outer, suspended.Ordinary

namespace Moment

theorem ordinary_start
    {actions : List (Action V)}
    (ordinary : ∀ action ∈ actions, action.Ordinary)
    (session : Session V) :
    (start actions session).Ordinary where
  todo := ordinary
  task := trivial
  outer := by simp [start]

theorem Step.ordinary
    {moment next : Moment V}
    (step : moment.Step next)
    (ordinary : moment.Ordinary) :
    next.Ordinary := by
  rcases ordinary with ⟨todoOrdinary, taskOrdinary, outerOrdinary⟩
  cases step with
  | finished => exact ⟨todoOrdinary, taskOrdinary, outerOrdinary⟩
  | perform session command rest replies outer =>
      exact ⟨(List.forall_mem_cons.mp todoOrdinary).2, trivial, outerOrdinary⟩
  | sweepBegun session policy callback rest replies outer =>
      rcases List.forall_mem_cons.mp todoOrdinary with ⟨first, others⟩
      cases first with
      | cleanup _ _ policyOrdinary callbackOrdinary =>
          exact ⟨others, ⟨policyOrdinary, callbackOrdinary⟩, outerOrdinary⟩
  | stale => exact ⟨todoOrdinary, ⟨taskOrdinary.1, taskOrdinary.2⟩, outerOrdinary⟩
  | evicted session todo replies sweep outer candidate =>
      refine ⟨taskOrdinary.policy _ candidate.key, trivial, ?_⟩
      exact List.forall_mem_cons.mpr
        ⟨⟨todoOrdinary, ⟨taskOrdinary.1, taskOrdinary.2⟩⟩, outerOrdinary⟩
  | policyDone =>
      rcases List.forall_mem_cons.mp outerOrdinary with ⟨first, others⟩
      exact ⟨first.todo, ⟨first.wait.1, first.wait.2⟩, others⟩
  | callbackBegun session replies todo earlier sweep candidate item outer
      react callback =>
      rcases List.forall_mem_cons.mp outerOrdinary with ⟨first, others⟩
      refine ⟨first.wait.callback react callback _ item, trivial, ?_⟩
      exact List.forall_mem_cons.mpr ⟨⟨first.todo, first.wait⟩, others⟩
  | callbackDone =>
      rcases List.forall_mem_cons.mp outerOrdinary with ⟨first, others⟩
      exact ⟨first.todo, ⟨first.wait.1, first.wait.2⟩, others⟩
  | sweepDone => exact ⟨todoOrdinary, trivial, outerOrdinary⟩
  | clearingBegun session callback rest replies outer =>
      rcases List.forall_mem_cons.mp todoOrdinary with ⟨first, others⟩
      cases first with
      | clear _ callbackOrdinary =>
          exact ⟨others, callbackOrdinary, outerOrdinary⟩
  | drained => exact ⟨todoOrdinary, taskOrdinary, outerOrdinary⟩
  | released => exact ⟨todoOrdinary, taskOrdinary, outerOrdinary⟩
  | farewellBegun session todo replies clearing outer item items react left
      callback =>
      refine ⟨taskOrdinary react callback _ item, trivial, ?_⟩
      exact List.forall_mem_cons.mpr
        ⟨⟨todoOrdinary, taskOrdinary⟩, outerOrdinary⟩
  | farewellDone =>
      rcases List.forall_mem_cons.mp outerOrdinary with ⟨first, others⟩
      exact ⟨first.todo, first.wait, others⟩
  | clearingDone => exact ⟨todoOrdinary, trivial, outerOrdinary⟩

end Moment

end TtlStore
