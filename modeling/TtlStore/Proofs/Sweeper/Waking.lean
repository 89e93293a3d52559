import TtlStore.Sweeper.Basic

/-!
# One tick of a sweeper

A tick only lets time pass if the sweeper has ended or is to sleep on.  In the
last tick of its sleep the sweeper wakes: it sweeps the session that it finds,
keeps its settings and its collaborators, and its next phase goes by the
interval that it chose.
-/

namespace TtlStore

variable {V : Type}

/-- The session a millisecond later. -/
def Session.millisecondLater (session : Session V) : Session V :=
  { session with clock := session.clock.shift (Duration.ofMilliseconds 1) }

namespace Background

/-! ## Starting -/

theorem start_of_valid
    {pacing : PacingSettings}
    (valid : pacing.validate = .ok ())
    (session : Session V)
    (policy : Nat → Key → List (Action V))
    (callback : Option (Nat → Item V → List (Action V))) :
    start session pacing policy callback =
      .ok
        { session := session
          sweeper :=
            { settings := pacing
              policy := policy
              callback := callback
              interval := pacing.first
              phase := .asleep pacing.first.ceilMilliseconds } } := by
  rw [start, valid]

/-! ## Waking -/

/-- The interval that a sweeper chooses on waking. -/
def chosen (background : Background V) : Except TimeError Duration :=
  background.sweeper.settings.nextInterval background.sweeper.interval
    background.session.store.size
    (background.session.sweep
      (Action.hooks background.sweeper.policy
        background.sweeper.callback)).2.count.evicted

theorem session_wake (background : Background V) :
    background.wake.1.session =
      (background.session.sweep
        (Action.hooks background.sweeper.policy
          background.sweeper.callback)).1 :=
  rfl

theorem sweeper_wake (background : Background V) :
    background.wake.1.sweeper =
      { background.sweeper with
        interval := background.chosen.toOption.getD background.sweeper.interval
        phase := phaseAfter background.chosen } :=
  rfl

/-! ## Ticks -/

/-- The session of a sweeper a millisecond later. -/
def passed (background : Background V) : Background V :=
  { background with session := background.session.millisecondLater }

theorem tick_of_ended
    {background : Background V}
    (ended : background.sweeper.phase = .ended) :
    background.tick = (background.passed, none) := by
  rw [tick, ended]
  rfl

theorem tick_of_asleep
    {background : Background V}
    {ticksLeft : Nat}
    (asleep : background.sweeper.phase = .asleep (ticksLeft + 2)) :
    background.tick =
      ({ session := background.session.millisecondLater
         sweeper :=
          { background.sweeper with phase := .asleep (ticksLeft + 1) } },
        none) := by
  rw [tick, asleep]
  rfl

theorem tick_of_waking
    {background : Background V}
    (waking : background.sweeper.phase = .asleep 1) :
    background.tick =
      (background.passed.wake.1, some background.passed.wake.2) := by
  rw [tick, waking]
  rfl

/-- Once a sweeper has ended, the passing of time changes nothing but the clock. -/
theorem run_of_ended
    {background : Background V}
    (ended : background.sweeper.phase = .ended)
    (ticks : Nat) :
    (background.run ticks).2 = [] ∧
      (background.run ticks).1.session.store = background.session.store ∧
        (background.run ticks).1.sweeper = background.sweeper := by
  induction ticks generalizing background with
  | zero => exact ⟨rfl, rfl, rfl⟩
  | succ ticks induction =>
      rw [run, tick_of_ended ended]
      exact induction ended

end Background

end TtlStore
