import TtlStore.Proofs.Pacing
import TtlStore.Proofs.Sweeper.Waking
import TtlStore.Proofs.Sweeper.Watched

/-!
# How late a sweeper can be

A sweeper that has not ended sleeps no longer than the longest interval, rounded
up to whole ticks, after it last woke.  An entry that survived the last sweep
was not yet due then, and one written since was written after it.  So no entry
stays longer than one bucket width and one longest interval past its deadline,
or one longest interval past its writing if it was written too late for that.

Only entries in the last bucket, which never closes, are left out.
-/

namespace TtlStore.Background

variable {V : Type}

/-- When the bucket of a deadline is closed, or the entry is written if that comes later. -/
def exposure
    (calendar : Calendar)
    (deadline written : Instant) :
    Instant :=
  ⟨max
    (max deadline.nanoseconds calendar.epoch.nanoseconds +
      calendar.width.nanoseconds)
    written.nanoseconds⟩

/-- A sweeper with given settings beside a settled store whose entries are dated. -/
structure Regular
    (background : Background V)
    (calendar : Calendar)
    (pacing : PacingSettings)
    (written : Key → Option Instant) :
    Prop where
  settings_eq : background.sweeper.settings = pacing
  quiet :
    (Action.hooks background.sweeper.policy
      background.sweeper.callback).Quiet
  shortest_le : pacing.shortest ≤ background.sweeper.interval
  le_longest : background.sweeper.interval ≤ pacing.longest
  settled : background.session.store.Settled calendar
  dated :
    ∀ key entry,
      background.session.store.lookup key = some entry →
        ∃ instant,
          written key = some instant ∧ instant ≤ background.session.clock

/--
A regular sweeper will wake in time, and no entry was exposed before it last
woke.
-/
structure Punctual
    (background : Background V)
    (calendar : Calendar)
    (pacing : PacingSettings)
    (written : Key → Option Instant)
    (lastWake : Instant) :
    Prop extends background.Regular calendar pacing written where
  woken : lastWake ≤ background.session.clock
  asleep :
    ∃ ticksLeft,
      background.sweeper.phase = .asleep ticksLeft ∧
        0 < ticksLeft ∧
          background.session.clock.shift (Duration.ofMilliseconds ticksLeft) ≤
            lastWake.shift
              (Duration.ofMilliseconds pacing.longest.ceilMilliseconds)
  exposed :
    ∀ key entry deadline instant,
      background.session.store.lookup key = some entry →
        entry.deadline = some deadline →
          calendar.bucketOf deadline < Calendar.lastBucket →
            written key = some instant →
              lastWake ≤ exposure calendar deadline instant

variable
    {background : Background V}
    {calendar : Calendar}
    {pacing : PacingSettings}
    {written : Key → Option Instant}

/-- Entries are gone one longest interval after they were exposed. -/
theorem Punctual.clock_lt
    {lastWake : Instant}
    (punctual : background.Punctual calendar pacing written lastWake)
    {key : Key}
    {entry : Entry V}
    {deadline instant : Instant}
    (stored : background.session.store.lookup key = some entry)
    (expires : entry.deadline = some deadline)
    (early : calendar.bucketOf deadline < Calendar.lastBucket)
    (dated : written key = some instant) :
    background.session.clock <
      (exposure calendar deadline instant).shift
        (Duration.ofMilliseconds pacing.longest.ceilMilliseconds) := by
  have exposed :=
    punctual.exposed key entry deadline instant stored expires early dated
  rcases punctual.asleep with ⟨ticksLeft, _, positive, inTime⟩
  simp only [Instant.le_def, Instant.lt_def, Instant.shift,
    Duration.ofMilliseconds] at *
  omega

/-! ## Waking -/

/-- An entry that a sweep leaves behind is not yet exposed. -/
theorem le_exposure_of_not_due
    {entry : Entry V}
    {deadline now : Instant}
    (notDue : entry.isDue calendar now = false)
    (expires : entry.deadline = some deadline)
    (early : calendar.bucketOf deadline < Calendar.lastBucket)
    (instant : Instant) :
    now ≤ exposure calendar deadline instant := by
  by_contra late
  rw [Entry.isDue, expires] at notDue
  refine of_decide_eq_false notDue (calendar.bucketOf_le_lastClosed early ?_)
  rw [Instant.le_def, exposure] at late
  simp only at late
  omega

theorem Regular.chosen_mem
    (valid : pacing.validate = .ok ())
    (regular : background.Regular calendar pacing written)
    {next : Duration}
    (chosen : background.chosen = .ok next) :
    pacing.shortest ≤ next ∧ next ≤ pacing.longest := by
  rw [Background.chosen, regular.settings_eq] at chosen
  exact
    PacingSettings.nextInterval_mem valid regular.shortest_le
      regular.le_longest chosen

theorem Regular.wake
    (valid : pacing.validate = .ok ())
    (regular : background.Regular calendar pacing written) :
    background.wake.1.Regular calendar pacing written := by
  have nextInterval :
      pacing.shortest ≤ background.wake.1.sweeper.interval ∧
        background.wake.1.sweeper.interval ≤ pacing.longest := by
    rw [sweeper_wake]
    cases chosen : background.chosen with
    | error error => exact ⟨regular.shortest_le, regular.le_longest⟩
    | ok next => exact regular.chosen_mem valid chosen
  refine
    { settings_eq := regular.settings_eq
      quiet := regular.quiet
      shortest_le := nextInterval.1
      le_longest := nextInterval.2
      settled := Session.settled_sweep regular.settled regular.quiet
      dated := ?_ }
  intro key entry stored
  rw [session_wake, Session.lookup_sweep regular.settled regular.quiet] at stored
  rw [session_wake, Session.clock_sweep _ regular.quiet]
  exact regular.dated key entry stored.1

/-- A sweeper that wakes and does not end is punctual again. -/
theorem Regular.punctual_wake
    (valid : pacing.validate = .ok ())
    (regular : background.Regular calendar pacing written)
    (running : background.wake.1.isRunning = true) :
    background.wake.1.Punctual calendar pacing written
      background.session.clock where
  toRegular := regular.wake valid
  woken := by
    rw [session_wake, Session.clock_sweep _ regular.quiet]
    exact Int.le_refl _
  asleep := by
    rw [isRunning, sweeper_wake] at running
    cases chosen : background.chosen with
    | error error =>
        rw [chosen] at running
        cases running
    | ok next =>
        have positive := (pacing.validate_eq_ok_iff.mp valid).1
        rcases regular.chosen_mem valid chosen with ⟨shortest_le, le_longest⟩
        refine ⟨next.ceilMilliseconds, ?_, ?_, ?_⟩
        · rw [sweeper_wake, chosen]
          rfl
        · rw [Duration.le_def] at shortest_le
          rw [Duration.ceilMilliseconds]
          omega
        · rw [session_wake, Session.clock_sweep _ regular.quiet]
          rw [Duration.le_def] at le_longest
          simp only [Instant.le_def, Instant.shift, Duration.ofMilliseconds,
            Duration.ceilMilliseconds]
          omega
  exposed := by
    intro key entry deadline instant stored expires early _
    rw [session_wake, Session.lookup_sweep regular.settled regular.quiet]
      at stored
    exact le_exposure_of_not_due stored.2 expires early instant

/-! ## The passing of time -/

theorem Regular.pass
    (regular : background.Regular calendar pacing written)
    {clock : Instant}
    (later : background.session.clock ≤ clock)
    (phase : Phase) :
    ({ session := { background.session with clock := clock }
       sweeper := { background.sweeper with phase := phase } } :
      Background V).Regular calendar pacing written where
  settings_eq := regular.settings_eq
  quiet := regular.quiet
  shortest_le := regular.shortest_le
  le_longest := regular.le_longest
  settled := regular.settled
  dated := by
    intro key entry stored
    rcases regular.dated key entry stored with ⟨instant, dated, past⟩
    exact ⟨instant, dated, Int.le_trans past later⟩

/-- As long as the sweeper runs, it is punctual with regard to some last waking. -/
def OnTime
    (background : Background V)
    (calendar : Calendar)
    (pacing : PacingSettings)
    (written : Key → Option Instant) :
    Prop :=
  background.isRunning = true →
    ∃ lastWake, background.Punctual calendar pacing written lastWake

theorem OnTime.of_ended
    (ended : background.sweeper.phase = .ended) :
    background.OnTime calendar pacing written := by
  intro running
  rw [isRunning, ended] at running
  cases running

theorem OnTime.tick
    (valid : pacing.validate = .ok ())
    (onTime : background.OnTime calendar pacing written) :
    background.tick.1.OnTime calendar pacing written := by
  cases phase : background.sweeper.phase with
  | ended =>
      apply OnTime.of_ended
      rw [Background.tick, phase]
      exact phase
  | asleep ticks =>
      rcases onTime (by rw [isRunning, phase]) with ⟨lastWake, punctual⟩
      have later :
          background.session.clock ≤
            background.session.clock.shift (Duration.ofMilliseconds 1) := by
        simp only [Instant.le_def, Instant.shift]
        omega
      have regular := punctual.toRegular.pass later
      rcases punctual.asleep with ⟨ticksLeft, asleep, positive, inTime⟩
      intro running
      rcases ticksLeft with _ | _ | ticksLeft
      · cases positive
      · rw [Background.tick, asleep] at running ⊢
        exact ⟨_, (regular background.sweeper.phase).punctual_wake valid running⟩
      · rw [Background.tick, asleep]
        refine ⟨lastWake, ?_⟩
        exact
          { toRegular := regular (.asleep (ticksLeft + 1))
            woken := Int.le_trans punctual.woken later
            asleep := by
              refine ⟨ticksLeft + 1, rfl, Nat.succ_pos ticksLeft, ?_⟩
              simp only [Instant.le_def, Instant.shift,
                Duration.ofMilliseconds] at *
              omega
            exposed := punctual.exposed }

theorem OnTime.run
    (valid : pacing.validate = .ok ())
    (onTime : background.OnTime calendar pacing written)
    (ticks : Nat) :
    (background.run ticks).1.OnTime calendar pacing written := by
  induction ticks generalizing background with
  | zero => exact onTime
  | succ ticks induction =>
      have later := induction (onTime.tick valid)
      rw [Background.run]
      split
      · rename_i next ticked
        rw [ticked] at later
        exact later
      · rename_i next wake ticked
        rw [ticked] at later
        exact later

/-! ## Steps -/

theorem Punctual.act
    {lastWake : Instant}
    (punctual : background.Punctual calendar pacing written lastWake)
    {action : Action V}
    (plain : (Step.act action).Plain) :
    (background.step (.act action)).1.Punctual calendar pacing
      ((Step.act action).dates background written) lastWake := by
  have tended := Session.tended_run punctual.settled plain
  have sameClock :
      (background.step (.act action)).1.session.clock =
        background.session.clock :=
    tended.clock_eq
  -- An entry under a key that was not written was there before the action.
  have kept :
      ∀ key entry,
        (background.step (.act action)).1.session.store.lookup key =
            some entry →
          (Step.act action).wrote key (background.step (.act action)).2 =
              false →
            background.session.store.lookup key = some entry := by
    intro key entry stored notWritten
    rcases tended.kept key entry stored with before | wrote
    · exact before
    · rw [← Bool.not_eq_true] at notWritten
      exact absurd wrote notWritten
  constructor
  · refine
      { settings_eq := punctual.settings_eq
        quiet := punctual.quiet
        shortest_le := punctual.shortest_le
        le_longest := punctual.le_longest
        settled := tended.settled
        dated := ?_ }
    intro key entry stored
    rw [sameClock, Step.dates]
    cases wrote :
        (Step.act action).wrote key (background.step (.act action)).2 with
    | true => exact ⟨_, rfl, Int.le_refl _⟩
    | false => exact punctual.dated key entry (kept key entry stored wrote)
  · rw [sameClock]
    exact punctual.woken
  · rw [sameClock]
    exact punctual.asleep
  · intro key entry deadline instant stored expires early dated
    rw [Step.dates] at dated
    cases wrote :
        (Step.act action).wrote key (background.step (.act action)).2 with
    | true =>
        rw [wrote] at dated
        cases dated
        exact Int.le_trans punctual.woken (Int.le_max_right _ _)
    | false =>
        rw [wrote] at dated
        exact
          punctual.exposed key entry deadline instant
            (kept key entry stored wrote) expires early dated

theorem OnTime.step
    (valid : pacing.validate = .ok ())
    (onTime : background.OnTime calendar pacing written)
    {step : Step V}
    (plain : step.Plain) :
    (background.step step).1.OnTime calendar pacing
      (step.dates background written) := by
  cases step with
  | act action =>
      intro running
      rcases onTime running with ⟨lastWake, punctual⟩
      exact ⟨lastWake, punctual.act plain⟩
  | run ticks => exact onTime.run valid ticks
  | stop => exact OnTime.of_ended rfl

theorem OnTime.steps
    (valid : pacing.validate = .ok ())
    {watched : Watched V}
    (onTime :
      watched.background.OnTime calendar pacing watched.written)
    {steps : List (Step V)}
    (plain : ∀ step ∈ steps, step.Plain) :
    (watched.steps steps).background.OnTime calendar pacing
      (watched.steps steps).written := by
  induction steps generalizing watched with
  | nil => exact onTime
  | cons step rest induction =>
      refine induction ?_ fun later member =>
        plain later (List.mem_cons_of_mem step member)
      exact onTime.step valid (plain step List.mem_cons_self)

/-! ## Starting -/

/-- A sweeper that starts beside a store without entries is punctual from then on. -/
theorem punctual_start
    (valid : pacing.validate = .ok ())
    {session : Session V}
    (settled : session.store.Settled calendar)
    (vacant : ∀ key, session.store.lookup key = none)
    {policy : Nat → Key → List (Action V)}
    {callback : Option (Nat → Item V → List (Action V))}
    (quiet : (Action.hooks policy callback).Quiet)
    (started : start session pacing policy callback = .ok background) :
    background.Punctual calendar pacing (fun _ => none)
      session.clock := by
  rcases pacing.validate_eq_ok_iff.mp valid with
    ⟨positive, shortest_le, le_longest⟩
  rw [start_of_valid valid] at started
  cases started
  exact
    { settings_eq := rfl
      quiet := quiet
      shortest_le := shortest_le
      le_longest := le_longest
      settled := settled
      dated := by
        intro key entry stored
        rw [vacant key] at stored
        cases stored
      woken := Int.le_refl _
      asleep := by
        refine ⟨pacing.first.ceilMilliseconds, rfl, ?_, ?_⟩
        · rw [Duration.le_def] at shortest_le
          rw [Duration.ceilMilliseconds]
          omega
        · rw [Duration.le_def] at le_longest
          simp only [Instant.le_def, Instant.shift, Duration.ofMilliseconds,
            Duration.ceilMilliseconds]
          omega
      exposed := by
        intro key entry deadline instant stored
        rw [vacant key] at stored
        cases stored }

end TtlStore.Background

namespace TtlStore

variable {V : Type}

/--
Bounded lateness.  Valid settings make a store and put a sweeper to sleep beside
it.  As long as it has not ended, no plain step leaves an entry stored for more
than one longest interval after its bucket was closed, or after it was written
if that was later, in whatever order tables list their keys.
-/
theorem entries_timely
    (settings : StoreSettings)
    (valid : settings.validate = .ok ())
    (pacing : PacingSettings)
    (pacingValid : pacing.validate = .ok ())
    (policy : Nat → Key → List (Action V))
    (callback : Option (Nat → Item V → List (Action V)))
    (quiet : (Action.hooks policy callback).Quiet)
    (clock : Instant)
    (listing : Listing)
    (steps : List (Background.Step V))
    (plain : ∀ step ∈ steps, step.Plain) :
    ∃ (store : Store V) (background : Background V),
      Store.ofSettings settings clock = .ok store ∧
        Background.start ⟨store, clock, listing⟩ pacing policy callback =
            .ok background ∧
          let last := (Background.Watched.fresh background).steps steps
          last.background.isRunning = true →
            ∀ shard key entry deadline,
              last.background.session.store.HeldIn shard key entry →
                entry.deadline = some deadline →
                  ((Calendar.ofWidth clock settings.bucketWidth).bucketOf
                          deadline).toNat <
                      2 ^ 64 - 1 →
                    ∃ written,
                      last.written key = some written ∧
                        last.background.session.clock.nanoseconds <
                          max
                              (max deadline.nanoseconds clock.nanoseconds +
                                settings.bucketWidth.nanoseconds)
                              written.nanoseconds +
                            pacing.longest.ceilMilliseconds * 1000000 := by
  have made := Store.ofSettings_of_valid (V := V) valid clock
  have positive := (settings.validate_eq_ok_iff.mp valid).1
  have settled :=
    Store.settled_empty (V := V) settings.shards
      (Calendar.ofWidth clock settings.bucketWidth) positive
  have started :=
    Background.start_of_valid pacingValid
      { store := Store.empty settings.shards
          (Calendar.ofWidth clock settings.bucketWidth) positive
        clock := clock
        listing := listing }
      policy callback
  refine ⟨_, _, made, started, ?_⟩
  intro last running shard key entry deadline held expires early
  have onTime :
      last.background.OnTime
        (Calendar.ofWidth clock settings.bucketWidth) pacing last.written :=
    Background.OnTime.steps pacingValid
      (fun _ =>
        ⟨clock,
          Background.punctual_start pacingValid settled
            (Store.lookup_empty _ _ positive) quiet started⟩)
      plain
  rcases onTime running with ⟨lastWake, punctual⟩
  rcases (punctual.settled.placed.heldIn_iff shard key entry).mp held with
    ⟨_, stored⟩
  rcases punctual.dated key entry stored with ⟨written, dated, _⟩
  have bound :=
    punctual.clock_lt stored expires (UInt64.lt_iff_toNat_lt.mpr early) dated
  refine ⟨written, dated, ?_⟩
  have sameWidth :
      (Calendar.ofWidth clock settings.bucketWidth).width.nanoseconds =
        settings.bucketWidth.nanoseconds :=
    Nat.max_eq_left (settings.validate_eq_ok_iff.mp valid).2
  rw [Instant.lt_def, Background.exposure, sameWidth] at bound
  exact bound

/-- A sweeper that first sleeps for three ticks and never for more than four. -/
def briskPacing : PacingSettings where
  first := Duration.ofMilliseconds 3
  shortest := Duration.ofMilliseconds 1
  longest := Duration.ofMilliseconds 4
  speedup := PacingSettings.standard.speedup
  slowdown := PacingSettings.standard.slowdown

/-- An entry is written into a bucket that the sweeper, now asleep, has found closed. -/
def lateWrite : List (Background.Step Nat) :=
  [.run 3,
    .act (.perform (.set ⟨1, 7, 10, .ending ⟨2000000⟩⟩)),
    .run 2]

/-- The state after the late write, beside a store with buckets of a millisecond. -/
def lateWriteEnd : Background.Watched Nat :=
  (Background.Watched.fresh
    { session :=
        { store := Store.empty 2 (Calendar.ofWidth ⟨0⟩ ⟨1000000⟩) (by decide)
          clock := ⟨0⟩ }
      sweeper :=
        { settings := briskPacing
          policy := fun _ _ => []
          callback := some fun _ _ => []
          interval := briskPacing.first
          phase := .asleep briskPacing.first.ceilMilliseconds } }).steps
    lateWrite

theorem entries_timely_lateWrite :
    (StoreSettings.mk 2 ⟨1000000⟩).validate = .ok () ∧
      briskPacing.validate = .ok () ∧
        (Action.hooks (fun _ _ => []) (some fun _ (_ : Item Nat) => [])).Quiet ∧
          (∀ step ∈ lateWrite, step.Plain) ∧
            lateWriteEnd.background.isRunning = true ∧
              lateWriteEnd.background.session.store.HeldIn 1 1
                ⟨7, 10, some ⟨2000000⟩⟩ ∧
              ∃ written,
                lateWriteEnd.written 1 = some written ∧
                  lateWriteEnd.background.session.clock.nanoseconds <
                    max (max 2000000 0 + 1000000) written.nanoseconds +
                      4 * 1000000 := by
  have valid : (StoreSettings.mk 2 ⟨1000000⟩).validate = .ok () := by decide
  have pacingValid : briskPacing.validate = .ok () := by decide
  have quiet :
      (Action.hooks (fun _ _ => []) (some fun _ (_ : Item Nat) => [])).Quiet := by
    refine ⟨fun _ _ _ => rfl, ?_⟩
    rintro callback same number item session
    cases same
    rfl
  have plain : ∀ step ∈ lateWrite, step.Plain := by
    simp only [lateWrite, List.forall_mem_cons]
    exact ⟨trivial, rfl, trivial, by simp⟩
  have running : lateWriteEnd.background.isRunning = true := by
    decide +kernel
  have held :
      lateWriteEnd.background.session.store.HeldIn 1 1
        ⟨7, 10, some ⟨2000000⟩⟩ :=
    Option.bind_eq_some_iff.mp (by decide +kernel)
  have early :
      ((Calendar.ofWidth ⟨0⟩ ⟨1000000⟩).bucketOf ⟨2000000⟩).toNat <
        2 ^ 64 - 1 := by
    decide +kernel
  rcases entries_timely ⟨2, ⟨1000000⟩⟩ valid briskPacing pacingValid
      (fun _ _ => []) (some fun _ _ => []) quiet ⟨0⟩ .ascending lateWrite
      plain with
    ⟨store, background, made, started, timely⟩
  have sameEnd :
      (Background.Watched.fresh background).steps lateWrite = lateWriteEnd := by
    rw [Store.ofSettings_of_valid valid] at made
    cases made
    rw [Background.start_of_valid pacingValid] at started
    cases started
    rfl
  rw [sameEnd] at timely
  rcases timely running 1 1 ⟨7, 10, some ⟨2000000⟩⟩ ⟨2000000⟩ held rfl
      early with
    ⟨written, dated, bound⟩
  exact
    ⟨valid, pacingValid, quiet, plain, running, held, written, dated, bound⟩

end TtlStore
