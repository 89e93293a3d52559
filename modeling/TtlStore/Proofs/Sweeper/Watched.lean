import TtlStore.Proofs.Session.Ordinary
import TtlStore.Proofs.Session.Settled
import TtlStore.Proofs.Session.Writing
import TtlStore.Sweeper.Basic

/-!
# When entries were written

Beside a session with its sweeper we keep, for each key, the reading of the
clock at the last accepted write under it.  The steps that are watched leave
the clock to the passing of time, and their collaborators are quiet, so an
entry is either one that was there before the step or one that the step wrote.
-/

namespace TtlStore

variable {V : Type}

/-- Commands that neither move the clock nor reach below the store's interface. -/
def Command.isPlain : Command V → Bool
  | .set _ => true
  | .update _ => true
  | .delete _ _ => true
  | .get _ _ => true
  | .deadline _ => true
  | .ask _ => true
  | .relist _ => true
  | _ => false

namespace Background

/-- Only the passing of time moves the clock, and collaborators change nothing. -/
def Step.Plain : Step V → Prop
  | .act (.perform command) => command.isPlain = true
  | .act (.cleanup policy callback) => (Action.hooks policy callback).Quiet
  | .act (.clear callback) =>
      ClearHook.Quiet
        (callback.map fun react number item inner =>
          Action.runAll (react number item) inner)
  | .run _ => True
  | .stop => True

/-- A step with its reply was an accepted write under a key. -/
def Step.wrote (key : Key) : Step V → StepReply V → Bool
  | .act (.perform (.set write)), .acted .done => write.key == key
  | .act (.perform (.update write)), .acted (.replaced (some _)) =>
      write.key == key
  | _, _ => false

/-- When keys were last written after a step, given when they were before it. -/
def Step.dates
    (step : Step V)
    (background : Background V)
    (written : Key → Option Instant)
    (key : Key) :
    Option Instant :=
  if step.wrote key (background.step step).2 then
    some background.session.clock
  else
    written key

/-- A session with its sweeper, and the reading of the clock at the last write of each key. -/
structure Watched (V : Type) where
  background : Background V
  written : Key → Option Instant

namespace Watched

/-- Nothing was written yet. -/
def fresh (background : Background V) : Watched V where
  background := background
  written _ := none

/-- Carry out a step, and take down what it wrote. -/
def step (watched : Watched V) (step : Step V) : Watched V where
  background := (watched.background.step step).1
  written := step.dates watched.background watched.written

/-- Carry out steps one after another. -/
def steps (watched : Watched V) (steps : List (Step V)) : Watched V :=
  steps.foldl step watched

end Watched

end Background

namespace Session

/-- The clock stands still, and entries that were not there before are under written keys. -/
structure Tended
    (before after : Session V)
    (calendar : Calendar)
    (wrote : Key → Bool) :
    Prop where
  clock_eq : after.clock = before.clock
  settled : after.store.Settled calendar
  kept :
    ∀ key entry,
      after.store.lookup key = some entry →
        before.store.lookup key = some entry ∨ wrote key = true

variable {session : Session V} {calendar : Calendar}

theorem tended_self
    (settled : session.store.Settled calendar)
    (wrote : Key → Bool) :
    session.Tended session calendar wrote where
  clock_eq := rfl
  settled := settled
  kept _ _ stored := Or.inl stored

/-- Storing an accepted item writes its key. -/
theorem tended_store
    (settled : session.store.Settled calendar)
    {item : Item V}
    (accepted : session.store.refuses item.key item.token = false)
    {wrote : Key → Bool}
    (written : wrote item.key = true) :
    session.Tended (session.withStore (session.store.set item)) calendar
      wrote where
  clock_eq := rfl
  settled := settled.change (session.store.change_set item)
  kept := by
    intro key entry stored
    rw [withStore, Store.lookup_set accepted] at stored
    split at stored
    · rename_i same
      rw [← same]
      exact Or.inr written
    · exact Or.inl stored

theorem tended_set
    (settled : session.store.Settled calendar)
    (write : Write V) :
    session.Tended (session.set write).1 calendar fun key =>
      (Background.Step.act (.perform (.set write))).wrote key
        (.acted (session.set write).2) := by
  cases session.set_ends write with
  | failed error failed ended =>
      rw [ended]
      exact tended_self settled _
  | refused item made refused ended =>
      rw [ended]
      exact tended_self settled _
  | accepted item made accepted ended =>
      rw [ended]
      apply tended_store settled accepted
      simp [Background.Step.wrote, Write.key_item made]

theorem tended_update
    (settled : session.store.Settled calendar)
    (write : Write V) :
    session.Tended (session.update write).1 calendar fun key =>
      (Background.Step.act (.perform (.update write))).wrote key
        (.acted (session.update write).2) := by
  cases session.update_ends write with
  | failed error failed ended =>
      rw [ended]
      exact tended_self settled _
  | refused item existing made taken refused ended =>
      rw [ended]
      exact tended_self settled _
  | idle item made free ended =>
      rw [ended]
      exact tended_self settled _
  | accepted item existing made taken accepted ended =>
      rw [ended]
      apply tended_store settled accepted
      simp [Background.Step.wrote, Write.key_item made]

/-- Deleting only removes entries. -/
theorem tended_delete
    (settled : session.store.Settled calendar)
    (key : Key)
    (token : Token)
    (wrote : Key → Bool) :
    session.Tended (session.delete key token).1 calendar wrote := by
  have change := session.change_delete key token
  cases session.delete_ends key token with
  | refused existing taken refused ended =>
      rw [ended]
      exact tended_self settled wrote
  | idle free ended =>
      rw [ended]
      exact tended_self settled wrote
  | accepted existing taken accepted ended =>
      rw [ended] at change ⊢
      refine ⟨rfl, settled.change change, ?_⟩
      intro other entry kept
      rw [withStore, Store.lookup_withIndex, Store.lookup_drop] at kept
      split at kept
      · cases kept
      · exact Or.inl kept

theorem tended_perform
    (settled : session.store.Settled calendar)
    {command : Command V}
    (plain : command.isPlain = true) :
    session.Tended (session.perform command).1 calendar fun key =>
      (Background.Step.act (.perform command)).wrote key
        (.acted (session.perform command).2) := by
  cases command with
  | set write => exact tended_set settled write
  | update write => exact tended_update settled write
  | delete key token => exact tended_delete settled key token _
  | get key token => exact tended_self settled _
  | deadline key => exact tended_self settled _
  | ask query => exact tended_self settled _
  | relist listing =>
      exact ⟨rfl, settled, fun _ _ stored => Or.inl stored⟩
  | setAll writes => cases plain
  | advance span => cases plain
  | setClock instant => cases plain
  | evict candidate now => cases plain
  | indexAdd key token deadline => cases plain
  | indexMove key token old new => cases plain
  | indexRemove key deadline => cases plain

/-- Quiet sweeps only remove entries. -/
theorem tended_sweep
    (settled : session.store.Settled calendar)
    {R : Type}
    {hooks : SweepHooks V R}
    (quiet : hooks.Quiet)
    (wrote : Key → Bool) :
    session.Tended (session.sweep hooks).1 calendar wrote where
  clock_eq := session.clock_sweep quiet
  settled := settled_sweep settled quiet
  kept key entry stored :=
    Or.inl ((lookup_sweep settled quiet key entry).mp stored).1

/-- Quiet clearings leave no entry. -/
theorem tended_clear
    (settled : session.store.Settled calendar)
    {R : Type}
    {hook : Option (ClearHook V R)}
    (quiet : ClearHook.Quiet hook)
    (wrote : Key → Bool) :
    session.Tended (session.clear hook).1 calendar wrote where
  clock_eq := session.clock_clear quiet
  settled := settled_clear settled quiet
  kept key entry stored := by
    rw [lookup_clear session quiet key] at stored
    cases stored

/-- A plain action keeps a store settled, and new entries are under the keys it wrote. -/
theorem tended_run
    (settled : session.store.Settled calendar)
    {action : Action V}
    (plain : (Background.Step.act action).Plain) :
    session.Tended (action.run session).1 calendar fun key =>
      (Background.Step.act action).wrote key
        (.acted (action.run session).2) := by
  cases action with
  | perform command =>
      rw [Action.run]
      exact tended_perform settled plain
  | cleanup policy callback =>
      rw [Action.run_cleanup]
      exact tended_sweep settled plain _
  | clear callback =>
      rw [Action.run_clear]
      exact tended_clear settled plain _

end Session

end TtlStore
