import Mathlib.Data.List.Chain
import Mathlib.Data.List.TakeWhile
import TtlStore.Proofs.Pacing
import TtlStore.Proofs.Sweeper.Waking

/-!
# When a sweeper sweeps

Beside a session with its sweeper we keep the number of ticks since the start,
and at which of them the sweeper woke, what it then found, and what it did.
Whatever is done to the session in between, each sleep lasts as long as the
interval before it, rounded up to whole ticks, and each interval is what the
pacing makes of the one before and of what the last sweep found and evicted.

A sweeper that was stopped never wakes again, whatever is done afterwards.
-/

namespace TtlStore.Background

variable {V : Type}

/-! ## Runs of steps -/

/-- Carry out steps one after another. -/
def carryOut (background : Background V) :
    List (Step V) → Background V × List (StepReply V)
  | [] => (background, [])
  | step :: rest =>
      (((background.step step).1.carryOut rest).1,
        (background.step step).2 :: ((background.step step).1.carryOut rest).2)

/-- The wakings that the reply to a step tells of. -/
def StepReply.wakes : StepReply V → List (Wake V)
  | .acted _ => []
  | .ran wakes => wakes
  | .stopped _ => []

/-- The step stops the sweeper. -/
def Step.isStop : Step V → Bool
  | .act _ => false
  | .run _ => false
  | .stop => true

/-- The steps before the first that stops the sweeper. -/
def beforeStop (steps : List (Step V)) : List (Step V) :=
  steps.takeWhile fun step => !step.isStop

/-- A waking: in which tick since the start it was, the session found, and what was done. -/
structure Waking (V : Type) where
  tick : Nat
  found : Session V
  wake : Wake V

/-- A session with its sweeper, the ticks since the start, and the wakings in order. -/
structure Timed (V : Type) where
  background : Background V
  elapsed : Nat
  wakings : List (Waking V)

namespace Timed

/-- No tick has passed. -/
def fresh (background : Background V) : Timed V where
  background := background
  elapsed := 0
  wakings := []

/-- Let a tick pass, and take down whether the sweeper woke in it. -/
def tick (timed : Timed V) : Timed V where
  background := timed.background.tick.1
  elapsed := timed.elapsed + 1
  wakings :=
    timed.wakings ++
      (timed.background.tick.2.map fun wake =>
        { tick := timed.elapsed + 1
          found := timed.background.passed.session
          wake := wake }).toList

/-- Let ticks pass one by one. -/
def run (timed : Timed V) : Nat → Timed V
  | 0 => timed
  | ticks + 1 => timed.tick.run ticks

/-- Carry out a step; ticks pass in runs only. -/
def step (timed : Timed V) : Step V → Timed V
  | .run ticks => timed.run ticks
  | .act action =>
      { timed with background := (timed.background.step (.act action)).1 }
  | .stop => { timed with background := timed.background.stop }

/-- Carry out steps one after another. -/
def steps (timed : Timed V) (steps : List (Step V)) : Timed V :=
  steps.foldl step timed

/-! ## Keeping the time changes nothing -/

theorem run_eq (timed : Timed V) (ticks : Nat) :
    (timed.run ticks).background = (timed.background.run ticks).1 ∧
      (timed.run ticks).wakings.map (·.wake) =
        timed.wakings.map (·.wake) ++ (timed.background.run ticks).2 := by
  induction ticks generalizing timed with
  | zero => exact ⟨rfl, (List.append_nil _).symm⟩
  | succ ticks induction =>
      rcases induction timed.tick with ⟨sameBackground, sameWakes⟩
      rw [run, Background.run, sameBackground, sameWakes]
      rcases ticked : timed.background.tick with ⟨next, _ | wake⟩
      · simp [tick, ticked]
      · simp [tick, ticked]

theorem step_eq (timed : Timed V) (step : Step V) :
    (timed.step step).background = (timed.background.step step).1 ∧
      (timed.step step).wakings.map (·.wake) =
        timed.wakings.map (·.wake) ++
          (timed.background.step step).2.wakes := by
  cases step with
  | act action => exact ⟨rfl, (List.append_nil _).symm⟩
  | run ticks => exact timed.run_eq ticks
  | stop => exact ⟨rfl, (List.append_nil _).symm⟩

/-- What is kept beside the steps are the wakings of which their replies tell. -/
theorem steps_eq (timed : Timed V) (steps : List (Step V)) :
    (timed.steps steps).background = (timed.background.carryOut steps).1 ∧
      (timed.steps steps).wakings.map (·.wake) =
        timed.wakings.map (·.wake) ++
          (timed.background.carryOut steps).2.flatMap (·.wakes) := by
  induction steps generalizing timed with
  | nil => exact ⟨rfl, (List.append_nil _).symm⟩
  | cons step rest induction =>
      rcases timed.step_eq step with ⟨sameNext, sameWakes⟩
      rcases induction (timed.step step) with ⟨sameLast, sameLater⟩
      rw [sameNext] at sameLast sameLater
      rw [sameWakes, List.append_assoc] at sameLater
      exact ⟨sameLast, sameLater⟩

end Timed

/-! ## The timeline -/

/--
The waking ends a sleep that began in a tick and was for an interval: it was in
the last tick of that sleep, and went by what it found.
-/
structure Waking.Ends
    (waking : Waking V)
    (settings : PacingSettings)
    (hooks : SweepHooks V (Reply V))
    (interval : Duration)
    (since : Nat) :
    Prop where
  tick_eq : waking.tick = since + interval.ceilMilliseconds
  sweep_eq : waking.wake.sweep = (waking.found.sweep hooks).2
  returned :
    waking.wake.interval =
      settings.nextInterval interval waking.found.store.size
        waking.wake.sweep.count.evicted

/--
The wakings of a sweeper that has been asleep since a tick and for an interval:
each ended the sleep before it, and chose the interval of the one after it.
-/
inductive Timeline
    (settings : PacingSettings)
    (hooks : SweepHooks V (Reply V)) :
    List (Waking V) → Duration → Nat → Prop where
  | started :
      Timeline settings hooks [] settings.first 0
  | woken
      {earlier : List (Waking V)}
      {interval : Duration}
      {since : Nat}
      (timeline : Timeline settings hooks earlier interval since)
      (waking : Waking V)
      (ends : waking.Ends settings hooks interval since)
      (next : Duration)
      (chosen : waking.wake.interval = .ok next) :
      Timeline settings hooks (earlier ++ [waking]) next waking.tick

/--
One waking follows another after the interval that the earlier one chose, and
that lies between the shortest and the longest one.
-/
structure Waking.Follows
    (settings : PacingSettings)
    (interval : Duration)
    (earlier later : Waking V) :
    Prop where
  chosen : earlier.wake.interval = .ok interval
  tick_eq : later.tick = earlier.tick + interval.ceilMilliseconds
  shortest_le :
    settings.shortest.ceilMilliseconds ≤ interval.ceilMilliseconds
  le_longest :
    interval.ceilMilliseconds ≤ settings.longest.ceilMilliseconds

/-- The first waking comes after the first interval, and all others follow one another. -/
structure Spaced
    (settings : PacingSettings)
    (wakings : List (Waking V)) :
    Prop where
  first :
    ∀ waking ∈ wakings.head?,
      waking.tick = settings.first.ceilMilliseconds
  following :
    wakings.IsChain fun earlier later =>
      ∃ interval, Waking.Follows settings interval earlier later

section Timelines

variable
    {settings : PacingSettings}
    {hooks : SweepHooks V (Reply V)}
    {wakings : List (Waking V)}
    {interval : Duration}
    {since : Nat}

/-- However long a timeline gets, the interval stays between the shortest and the longest. -/
theorem Timeline.interval_mem
    (valid : settings.validate = .ok ())
    (timeline : Timeline settings hooks wakings interval since) :
    settings.shortest ≤ interval ∧ interval ≤ settings.longest := by
  induction timeline with
  | started =>
      rcases settings.validate_eq_ok_iff.mp valid with
        ⟨_, shortest_le, le_longest⟩
      exact ⟨shortest_le, le_longest⟩
  | woken _ waking ends next chosen induction =>
      rw [ends.returned] at chosen
      exact
        PacingSettings.nextInterval_mem valid induction.1 induction.2 chosen

theorem Timeline.ceilMilliseconds_mem
    (valid : settings.validate = .ok ())
    (timeline : Timeline settings hooks wakings interval since) :
    0 < interval.ceilMilliseconds ∧
      settings.shortest.ceilMilliseconds ≤ interval.ceilMilliseconds ∧
        interval.ceilMilliseconds ≤ settings.longest.ceilMilliseconds := by
  have positive := (settings.validate_eq_ok_iff.mp valid).1
  have bounds := timeline.interval_mem valid
  simp only [Duration.le_def, Duration.ceilMilliseconds] at *
  omega

/-- The sleep at the end of a timeline is the first, or was chosen by the last waking. -/
theorem Timeline.latest
    (timeline : Timeline settings hooks wakings interval since) :
    (wakings = [] ∧ interval = settings.first ∧ since = 0) ∨
      ∃ last,
        wakings.getLast? = some last ∧
          last.wake.interval = .ok interval ∧ last.tick = since := by
  cases timeline with
  | started => exact Or.inl ⟨rfl, rfl, rfl⟩
  | woken _ waking ends next chosen =>
      exact Or.inr ⟨waking, List.getLast?_concat, chosen, rfl⟩

/-- The waking that ends the sleep at the end of a timeline is spaced like those before. -/
theorem Timeline.spaced_append
    (valid : settings.validate = .ok ())
    (timeline : Timeline settings hooks wakings interval since)
    (spaced : Spaced settings wakings)
    {waking : Waking V}
    (ends : waking.Ends settings hooks interval since) :
    Spaced settings (wakings ++ [waking]) := by
  rcases timeline.ceilMilliseconds_mem valid with
    ⟨_, shortest_le, le_longest⟩
  rcases timeline.latest with
    ⟨rfl, rfl, rfl⟩ | ⟨last, isLast, chosen, rfl⟩
  · refine ⟨?_, List.isChain_singleton waking⟩
    intro first isFirst
    cases isFirst
    rw [ends.tick_eq, Nat.zero_add]
  · constructor
    · intro first isFirst
      have nonempty : wakings ≠ [] := by
        rintro rfl
        cases isLast
      rw [List.head?_append_of_ne_nil wakings nonempty] at isFirst
      exact spaced.first first isFirst
    · refine
        List.isChain_append.mpr
          ⟨spaced.following, List.isChain_singleton waking, ?_⟩
      intro earlier isEarlier later isLater
      rw [isLast] at isEarlier
      cases isEarlier
      cases isLater
      exact
        ⟨interval,
          { chosen := chosen
            tick_eq := ends.tick_eq
            shortest_le := shortest_le
            le_longest := le_longest }⟩

theorem Timeline.spaced
    (valid : settings.validate = .ok ())
    (timeline : Timeline settings hooks wakings interval since) :
    Spaced settings wakings := by
  induction timeline with
  | started => exact ⟨by simp, List.isChain_nil⟩
  | woken timeline waking ends next chosen induction =>
      exact timeline.spaced_append valid induction ends

end Timelines

/-! ## Sweepers that were not stopped -/

namespace Timed

/--
A sweeper that was not stopped is asleep and will wake when its sleep is over,
or it has ended because its last waking could not choose an interval.
-/
inductive Paced
    (settings : PacingSettings)
    (hooks : SweepHooks V (Reply V))
    (timed : Timed V) :
    Prop where
  | asleep
      (since ticksLeft : Nat)
      (settings_eq : timed.background.sweeper.settings = settings)
      (hooks_eq :
        Action.hooks timed.background.sweeper.policy
            timed.background.sweeper.callback =
          hooks)
      (timeline :
        Timeline settings hooks timed.wakings
          timed.background.sweeper.interval since)
      (phase_eq : timed.background.sweeper.phase = .asleep (ticksLeft + 1))
      (wakes_at :
        timed.elapsed + (ticksLeft + 1) =
          since + timed.background.sweeper.interval.ceilMilliseconds)
  | overflown
      (earlier : List (Waking V))
      (last : Waking V)
      (interval : Duration)
      (since : Nat)
      (error : TimeError)
      (wakings_eq : timed.wakings = earlier ++ [last])
      (timeline : Timeline settings hooks earlier interval since)
      (ends : last.Ends settings hooks interval since)
      (failed : last.wake.interval = .error error)
      (phase_eq : timed.background.sweeper.phase = .ended)

/-! ### Ticks -/

variable {timed : Timed V}

theorem tick_of_ended
    (ended : timed.background.sweeper.phase = .ended) :
    timed.tick =
      { timed with
        background := timed.background.passed
        elapsed := timed.elapsed + 1 } := by
  rw [tick, Background.tick_of_ended ended]
  simp

theorem tick_of_asleep
    {ticksLeft : Nat}
    (asleep : timed.background.sweeper.phase = .asleep (ticksLeft + 2)) :
    timed.tick =
      { timed with
        background :=
          { session := timed.background.session.millisecondLater
            sweeper :=
              { timed.background.sweeper with
                phase := .asleep (ticksLeft + 1) } }
        elapsed := timed.elapsed + 1 } := by
  rw [tick, Background.tick_of_asleep asleep]
  simp

/-- The waking in the next tick, if the sleep ends in it. -/
def nextWaking (timed : Timed V) : Waking V where
  tick := timed.elapsed + 1
  found := timed.background.passed.session
  wake := timed.background.passed.wake.2

theorem tick_of_waking
    (waking : timed.background.sweeper.phase = .asleep 1) :
    timed.tick =
      { background := timed.background.passed.wake.1
        elapsed := timed.elapsed + 1
        wakings := timed.wakings ++ [timed.nextWaking] } := by
  rw [tick, Background.tick_of_waking waking]
  rfl

variable
    {settings : PacingSettings}
    {hooks : SweepHooks V (Reply V)}

/-- A tick is paced: it shortens the sleep, or ends it and begins the next one. -/
theorem Paced.tick
    (valid : settings.validate = .ok ())
    (paced : timed.Paced settings hooks) :
    timed.tick.Paced settings hooks := by
  cases paced with
  | overflown earlier last interval since error wakings_eq timeline ends
      failed ended =>
      rw [tick_of_ended ended]
      exact
        .overflown earlier last interval since error wakings_eq timeline ends
          failed ended
  | asleep since ticksLeft settings_eq hooks_eq timeline phase_eq wakes_at =>
      cases ticksLeft with
      | succ ticksLeft =>
          rw [tick_of_asleep phase_eq]
          refine
            .asleep since ticksLeft settings_eq hooks_eq timeline rfl ?_
          show timed.elapsed + 1 + (ticksLeft + 1) =
            since + timed.background.sweeper.interval.ceilMilliseconds
          omega
      | zero =>
          -- The sleep is over, and the next one is as long as this waking chooses.
          have ends :
              timed.nextWaking.Ends settings hooks
                timed.background.sweeper.interval since := by
            subst settings_eq hooks_eq
            exact ⟨wakes_at, rfl, rfl⟩
          have interval_eq :
              timed.nextWaking.wake.interval =
                timed.background.passed.chosen :=
            rfl
          rw [tick_of_waking phase_eq]
          cases chosen : timed.background.passed.chosen with
          | error error =>
              refine
                .overflown timed.wakings timed.nextWaking _ since error rfl
                  timeline ends (interval_eq.trans chosen) ?_
              rw [sweeper_wake, chosen]
              rfl
          | ok next =>
              have timelineNext :=
                timeline.woken timed.nextWaking ends next
                  (interval_eq.trans chosen)
              rcases timelineNext.ceilMilliseconds_mem valid with
                ⟨positive, _⟩
              refine
                .asleep timed.nextWaking.tick (next.ceilMilliseconds - 1)
                  settings_eq hooks_eq ?_ ?_ ?_
              · rw [sweeper_wake, chosen]
                exact timelineNext
              · rw [sweeper_wake, chosen, Nat.sub_add_cancel positive]
                rfl
              · rw [sweeper_wake, chosen, Nat.sub_add_cancel positive]
                rfl

theorem Paced.run
    (valid : settings.validate = .ok ())
    (paced : timed.Paced settings hooks)
    (ticks : Nat) :
    (timed.run ticks).Paced settings hooks := by
  induction ticks generalizing timed with
  | zero => exact paced
  | succ ticks induction => exact induction (paced.tick valid)

/-! ### Steps -/

theorem Paced.step
    (valid : settings.validate = .ok ())
    (paced : timed.Paced settings hooks)
    {step : Step V}
    (goesOn : step.isStop = false) :
    (timed.step step).Paced settings hooks := by
  cases step with
  | run ticks => exact paced.run valid ticks
  | stop => cases goesOn
  | act action =>
      cases paced with
      | asleep since ticksLeft settings_eq hooks_eq timeline phase_eq
          wakes_at =>
          exact
            .asleep since ticksLeft settings_eq hooks_eq timeline phase_eq
              wakes_at
      | overflown earlier last interval since error wakings_eq timeline ends
          failed ended =>
          exact
            .overflown earlier last interval since error wakings_eq timeline
              ends failed ended

theorem Paced.steps
    (valid : settings.validate = .ok ())
    (paced : timed.Paced settings hooks)
    {steps : List (Step V)}
    (goOn : ∀ step ∈ steps, step.isStop = false) :
    (timed.steps steps).Paced settings hooks := by
  induction steps generalizing timed with
  | nil => exact paced
  | cons step rest induction =>
      rcases List.forall_mem_cons.mp goOn with ⟨first, others⟩
      exact induction (paced.step valid first) others

theorem Paced.spaced
    (valid : settings.validate = .ok ())
    (paced : timed.Paced settings hooks) :
    Spaced settings timed.wakings := by
  cases paced with
  | asleep since ticksLeft settings_eq hooks_eq timeline phase_eq wakes_at =>
      exact timeline.spaced valid
  | overflown earlier last interval since error wakings_eq timeline ends
      failed ended =>
      rw [wakings_eq]
      exact timeline.spaced_append valid (timeline.spaced valid) ends

/-! ## Sweepers that were stopped -/

/-- A sweeper that has ended stays so, and does not wake. -/
theorem run_of_ended
    (ended : timed.background.sweeper.phase = .ended)
    (ticks : Nat) :
    (timed.run ticks).background.sweeper.phase = .ended ∧
      (timed.run ticks).wakings = timed.wakings := by
  induction ticks generalizing timed with
  | zero => exact ⟨ended, rfl⟩
  | succ ticks induction =>
      rw [run, tick_of_ended ended]
      exact induction ended

theorem steps_of_ended
    (ended : timed.background.sweeper.phase = .ended)
    (steps : List (Step V)) :
    (timed.steps steps).background.sweeper.phase = .ended ∧
      (timed.steps steps).wakings = timed.wakings := by
  induction steps generalizing timed with
  | nil => exact ⟨ended, rfl⟩
  | cons step rest induction =>
      cases step with
      | act action => exact induction ended
      | stop => exact induction rfl
      | run ticks =>
          rcases run_of_ended ended ticks with ⟨stillEnded, sameWakings⟩
          rcases induction stillEnded with ⟨lastEnded, lastWakings⟩
          exact ⟨lastEnded, lastWakings.trans sameWakings⟩

/-- Whatever follows, a sweeper that was stopped has ended. -/
theorem phase_steps_of_stop
    (timed : Timed V)
    {steps : List (Step V)}
    (stopped : ∃ step ∈ steps, step.isStop = true) :
    (timed.steps steps).background.sweeper.phase = .ended := by
  induction steps generalizing timed with
  | nil =>
      rcases stopped with ⟨step, member, _⟩
      cases member
  | cons step rest induction =>
      cases step with
      | act action => exact induction _ (by simpa [Step.isStop] using stopped)
      | run ticks => exact induction _ (by simpa [Step.isStop] using stopped)
      | stop =>
          have ended :
              (timed.step .stop).background.sweeper.phase = .ended :=
            rfl
          exact (steps_of_ended ended rest).1

/-- What comes after the first stop adds no waking. -/
theorem wakings_steps_eq (timed : Timed V) (steps : List (Step V)) :
    (timed.steps steps).wakings =
      (timed.steps (beforeStop steps)).wakings := by
  induction steps generalizing timed with
  | nil => rfl
  | cons step rest induction =>
      cases step with
      | act action => exact induction _
      | run ticks => exact induction _
      | stop =>
          have ended :
              (timed.step .stop).background.sweeper.phase = .ended :=
            rfl
          exact (steps_of_ended ended rest).2

theorem paced_fresh
    (session : Session V)
    (settings : PacingSettings)
    (valid : settings.validate = .ok ())
    (policy : Nat → Key → List (Action V))
    (callback : Option (Nat → Item V → List (Action V)))
    {background : Background V}
    (started :
      start session settings policy callback = .ok background) :
    (fresh background).Paced settings (Action.hooks policy callback) := by
  rw [start_of_valid valid] at started
  cases started
  have timeline :
      Timeline settings (Action.hooks policy callback) [] settings.first 0 :=
    .started
  rcases timeline.ceilMilliseconds_mem valid with ⟨positive, _⟩
  refine
    .asleep 0 (settings.first.ceilMilliseconds - 1) rfl rfl timeline ?_ ?_
  · rw [Nat.sub_add_cancel positive]
    rfl
  · rw [Nat.sub_add_cancel positive]
    rfl

end Timed

end TtlStore.Background

namespace TtlStore

variable {V : Type}

/--
Pacing and shutdown.  Valid settings put a sweeper to sleep beside any session,
and whatever steps are carried out, their replies tell of the wakings of a
timeline.  Up to the first stop every sleep is over after its interval, rounded
up to whole ticks, unless the sweeper ended because it could not choose one; the
first waking comes after the first interval, and each later one after the
interval that the one before it chose, which lies between the shortest and the
longest.  After a stop there are no more wakings, and time takes nothing out of
the store.
-/
theorem sweeps_paced
    (settings : PacingSettings)
    (valid : settings.validate = .ok ())
    (session : Session V)
    (policy : Nat → Key → List (Action V))
    (callback : Option (Nat → Item V → List (Action V)))
    (steps : List (Background.Step V)) :
    ∃ background : Background V,
      Background.start session settings policy callback = .ok background ∧
        let last := background.carryOut steps
        let timed := (Background.Timed.fresh background).steps steps
        let awake :=
          (Background.Timed.fresh background).steps
            (Background.beforeStop steps)
        timed.background = last.1 ∧
          timed.wakings.map (·.wake) = last.2.flatMap (·.wakes) ∧
          awake.Paced settings (Action.hooks policy callback) ∧
          timed.wakings = awake.wakings ∧
          Background.Spaced settings timed.wakings ∧
          ((∃ step ∈ steps, step.isStop = true) →
            ∀ ticks,
              (last.1.run ticks).2 = [] ∧
                (last.1.run ticks).1.session.store =
                  last.1.session.store) := by
  have started :=
    Background.start_of_valid valid session policy callback
  refine ⟨_, started, ?_⟩
  intro last timed awake
  have fresh :=
    Background.Timed.paced_fresh session settings valid policy callback
      started
  have goOn :
      ∀ step ∈ Background.beforeStop steps, step.isStop = false := by
    intro step member
    have goesOn := List.mem_takeWhile_imp member
    rw [Bool.not_eq_true'] at goesOn
    exact goesOn
  have paced : awake.Paced settings (Action.hooks policy callback) :=
    fresh.steps valid goOn
  have sameWakings : timed.wakings = awake.wakings :=
    Background.Timed.wakings_steps_eq _ steps
  rcases Background.Timed.steps_eq (Background.Timed.fresh _) steps with
    ⟨sameBackground, sameWakes⟩
  refine
    ⟨sameBackground, sameWakes, paced, sameWakings,
      sameWakings ▸ paced.spaced valid, ?_⟩
  intro stopped ticks
  have ended : timed.background.sweeper.phase = .ended :=
    Background.Timed.phase_steps_of_stop _ stopped
  rw [sameBackground] at ended
  rcases Background.run_of_ended ended ticks with ⟨silent, sameStore, _⟩
  exact ⟨silent, sameStore⟩

/-- Intervals of broken milliseconds, with thresholds that are infinite and not a number. -/
def oddPacing : PacingSettings where
  first := ⟨2500000⟩
  shortest := ⟨1⟩
  longest := ⟨4000000⟩
  speedup := ⟨0x7FF8000000000000⟩
  slowdown := ⟨0x7FF0000000000000⟩

/-- An entry expires while its sweeper is stopped twice. -/
def stoppedRun : List (Background.Step Nat) :=
  [.run 7,
    .act (.perform (.set ⟨1, 7, 10, .ending ⟨9000000⟩⟩)),
    .stop,
    .run 20,
    .stop]

theorem sweeps_paced_stoppedRun :
    oddPacing.validate = .ok () ∧
      ∃ background : Background Nat,
        Background.start
            ⟨Store.empty 2 (Calendar.ofWidth ⟨0⟩ ⟨1000000⟩) (by decide), ⟨0⟩,
              .ascending⟩
            oddPacing (fun _ _ => []) none =
          .ok background ∧
        let last := background.carryOut stoppedRun
        let timed := (Background.Timed.fresh background).steps stoppedRun
        timed.wakings.map (·.tick) = [3, 6] ∧
          timed.wakings.map (·.wake) = last.2.flatMap (·.wakes) ∧
          Background.Spaced oddPacing timed.wakings ∧
          (∃ step ∈ stoppedRun, step.isStop = true) ∧
          last.1.session.store.lookup 1 =
            some ⟨7, 10, some ⟨9000000⟩⟩ ∧
          ∀ ticks,
            (last.1.run ticks).2 = [] ∧
              (last.1.run ticks).1.session.store =
                last.1.session.store := by
  have valid : oddPacing.validate = .ok () := by decide
  let session : Session Nat :=
    ⟨Store.empty 2 (Calendar.ofWidth ⟨0⟩ ⟨1000000⟩) (by decide), ⟨0⟩,
      .ascending⟩
  have stopped : ∃ step ∈ stoppedRun, step.isStop = true :=
    ⟨.stop, by simp [stoppedRun], rfl⟩
  rcases sweeps_paced oddPacing valid session (fun _ _ => []) none
      stoppedRun with
    ⟨background, started, _, sameWakes, _, _, spaced, idle⟩
  refine
    ⟨valid, background, started, ?_, sameWakes, spaced, stopped, ?_,
      idle stopped⟩
  all_goals
    rw [Background.start_of_valid valid] at started
    cases started
    decide +kernel

end TtlStore
