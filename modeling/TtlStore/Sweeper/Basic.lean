import TtlStore.Pacing
import TtlStore.Session.Action

/-!
# The background sweeper

A sweeper sweeps a session at adaptive intervals on its own.  Its time passes
in ticks of one millisecond, which move the clock of the session too.  It
sleeps for its interval, rounded up to whole ticks; on waking it counts the
items, sweeps, chooses the next interval and falls asleep again.

Two things end a sweeper for good: being stopped, and an interval that leaves
the range of durations.
-/

namespace TtlStore

/-- A sweeper is asleep for some more ticks, or has ended. -/
inductive Phase where
  | asleep (ticksLeft : Nat)
  | ended
deriving DecidableEq

/-- The settings, the collaborators and the state of a sweeper. -/
structure Sweeper (V : Type) where
  settings : PacingSettings
  policy : Nat → Key → List (Action V)
  callback : Option (Nat → Item V → List (Action V))
  interval : Duration
  phase : Phase

/-- What a sweeper saw and did when it woke. -/
structure Wake (V : Type) where
  instant : Instant
  present : Nat
  sweep : Sweep V (Reply V)
  remaining : Nat
  indexed : Nat
  pace : Pace
  interval : Except TimeError Duration

/-- A session with its sweeper. -/
structure Background (V : Type) where
  session : Session V
  sweeper : Sweeper V

namespace Background

variable {V : Type}

/-- Put a new sweeper to sleep beside a session, if its settings are valid. -/
def start
    (session : Session V)
    (settings : PacingSettings)
    (policy : Nat → Key → List (Action V))
    (callback : Option (Nat → Item V → List (Action V))) :
    Except SettingsError (Background V) :=
  match settings.validate with
  | .error error => .error error
  | .ok () =>
      .ok
        { session := session
          sweeper :=
            { settings := settings
              policy := policy
              callback := callback
              interval := settings.first
              phase := .asleep settings.first.ceilMilliseconds } }

/-- The phase after the interval has been chosen. -/
def phaseAfter : Except TimeError Duration → Phase
  | .ok interval => .asleep interval.ceilMilliseconds
  | .error _ => .ended

/-- Let the sweeper sweep, choose its next interval and fall asleep. -/
def wake (background : Background V) : Background V × Wake V :=
  let sweeper := background.sweeper
  let present := background.session.store.size
  let (session, sweep) :=
    background.session.sweep (Action.hooks sweeper.policy sweeper.callback)
  let interval :=
    sweeper.settings.nextInterval sweeper.interval present
      sweep.count.evicted
  ({ session := session
     sweeper :=
      { sweeper with
        interval := interval.toOption.getD sweeper.interval
        phase := phaseAfter interval } },
    { instant := background.session.clock
      present := present
      sweep := sweep
      remaining := session.store.size
      indexed := session.store.index.size
      pace := sweeper.settings.pace present sweep.count.evicted
      interval := interval })

/-- Let a millisecond pass, and wake the sweeper if its sleep is over. -/
def tick (background : Background V) : Background V × Option (Wake V) :=
  let session :=
    { background.session with
      clock := background.session.clock.shift (Duration.ofMilliseconds 1) }
  match background.sweeper.phase with
  | .ended => ({ background with session := session }, none)
  | .asleep (ticksLeft + 2) =>
      ({ session := session
         sweeper :=
          { background.sweeper with phase := .asleep (ticksLeft + 1) } },
        none)
  | .asleep _ =>
      let (next, wake) := { background with session := session }.wake
      (next, some wake)

/-- Let milliseconds pass one by one. -/
def run (background : Background V) : Nat → Background V × List (Wake V)
  | 0 => (background, [])
  | ticks + 1 =>
      match background.tick with
      | (next, none) => next.run ticks
      | (next, some wake) =>
          let (last, wakes) := next.run ticks
          (last, wake :: wakes)

/-- The sweeper has not ended. -/
def isRunning (background : Background V) : Bool :=
  match background.sweeper.phase with
  | .asleep _ => true
  | .ended => false

/-- End the sweeper. -/
def stop (background : Background V) : Background V :=
  { background with
    sweeper := { background.sweeper with phase := .ended } }

/-- Something done to a session that has a sweeper. -/
inductive Step (V : Type) where
  | act (action : Action V)
  | run (ticks : Nat)
  | stop

/-- The reply to a step; stopping tells whether the sweeper had been running. -/
inductive StepReply (V : Type) where
  | acted (reply : Reply V)
  | ran (wakes : List (Wake V))
  | stopped (wasRunning : Bool)

/-- Carry out a step. -/
def step (background : Background V) :
    Step V → Background V × StepReply V
  | .act action =>
      let (session, reply) := action.run background.session
      ({ background with session := session }, .acted reply)
  | .run ticks =>
      let (next, wakes) := background.run ticks
      (next, .ran wakes)
  | .stop => (background.stop, .stopped background.isRunning)

end Background

end TtlStore
