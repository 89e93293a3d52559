import TtlStore.Proofs.Intervals
import TtlStore.Proofs.Soak.Turns
import TtlStore.Proofs.Sweeper.Waking
import TtlStore.Soak.Crew

/-!
# Options that can be soaked

The intervals of a sweeper are derived from the bucket width that the command
line asks for, which is taken to be a millisecond if it is zero.  Whatever 64-bit
number of milliseconds that is, the intervals are in order and none of them is
below a millisecond; four times the width is a duration still, and so is twice
that, which is why no sweep ever comes to an interval that cannot be doubled.

What is left to go wrong after the command line has been read are the settings of
the store, which need a shard and a millisecond, and a clock so late that the
deadline of an item lies beyond its range.
-/

namespace TtlStore

/-- A number of times a duration, unless that reaches the limit. -/
def Duration.times
    (duration : Duration)
    (count : Nat) :
    Except TimeError Duration :=
  if count * duration.nanoseconds < limit.nanoseconds then
    .ok ⟨count * duration.nanoseconds⟩
  else
    .error .durationOverflow

/-- The duration's whole seconds fit an unsigned 64-bit number. -/
def Duration.Representable (duration : Duration) : Prop :=
  duration < limit

/-- Every 64-bit number of milliseconds after the instant lies within the range of the clock. -/
def Instant.Early (instant : Instant) : Prop :=
  instant.shift (Duration.ofMilliseconds UInt64.size) ≤ limit

theorem Instant.Early.later
    {now : Instant}
    (early : now.Early)
    (milliseconds : UInt64) :
    now.later (Duration.ofMilliseconds milliseconds.toNat) =
      .ok (now.shift (Duration.ofMilliseconds milliseconds.toNat)) := by
  have fits := milliseconds.toNat_lt_size
  rw [Instant.later, if_pos]
  simp only [Early, Instant.le_def, Instant.lt_def, Instant.shift,
    Duration.ofMilliseconds] at early ⊢
  omega

/-! ## A sweeper that cannot fail -/

namespace Background

variable {V : Type} {settings : PacingSettings} {background : Background V}

/-- The sweeper goes by the settings, its interval is between their bounds, and it is asleep. -/
structure Healthy
    (settings : PacingSettings)
    (background : Background V) :
    Prop where
  settings_eq : background.sweeper.settings = settings
  shortest_le : settings.shortest ≤ background.sweeper.interval
  le_longest : background.sweeper.interval ≤ settings.longest
  asleep : ∃ ticksLeft, background.sweeper.phase = .asleep ticksLeft

namespace Healthy

theorem isRunning (healthy : Healthy settings background) :
    background.isRunning = true := by
  rcases healthy.asleep with ⟨ticksLeft, asleep⟩
  rw [Background.isRunning, asleep]

theorem start
    (valid : settings.validate = .ok ())
    {session : Session V}
    {policy : Nat → Key → List (Action V)}
    {callback : Option (Nat → Item V → List (Action V))} :
    Healthy settings
      { session := session
        sweeper :=
          { settings := settings
            policy := policy
            callback := callback
            interval := settings.first
            phase := .asleep settings.first.ceilMilliseconds } } := by
  rcases settings.validate_eq_ok_iff.mp valid with
    ⟨_, shortest_le_first, first_le_longest⟩
  exact ⟨rfl, shortest_le_first, first_le_longest, _, rfl⟩

/-- The sweeper does not depend on the session beside it. -/
theorem of_sweeper_eq
    {other : Background V}
    (healthy : Healthy settings background)
    (same : other.sweeper = background.sweeper) :
    Healthy settings other := by
  cases other
  cases same
  exact
    ⟨healthy.settings_eq, healthy.shortest_le, healthy.le_longest,
      healthy.asleep⟩

/-- If the longest interval can be doubled, a sweeper that wakes chooses an interval. -/
theorem wake
    (healthy : Healthy settings background)
    (valid : settings.validate = .ok ())
    (short : 2 * settings.longest.nanoseconds < Duration.limit.nanoseconds) :
    Healthy settings background.wake.1 := by
  obtain ⟨next, chosen, shortest_le, le_longest⟩ :
      ∃ next,
        background.chosen = .ok next ∧
          settings.shortest ≤ next ∧ next ≤ settings.longest := by
    rw [Background.chosen, healthy.settings_eq]
    exact
      PacingSettings.exists_nextInterval valid short healthy.shortest_le
        healthy.le_longest _ _
  have sweeper := sweeper_wake background
  rw [chosen] at sweeper
  constructor
  · rw [sweeper]
    exact healthy.settings_eq
  · rw [sweeper]
    exact shortest_le
  · rw [sweeper]
    exact le_longest
  · rw [sweeper]
    exact ⟨_, rfl⟩

theorem tick
    (healthy : Healthy settings background)
    (valid : settings.validate = .ok ())
    (short : 2 * settings.longest.nanoseconds < Duration.limit.nanoseconds) :
    Healthy settings background.tick.1 := by
  have passed : Healthy settings background.passed :=
    healthy.of_sweeper_eq rfl
  rcases healthy.asleep with ⟨_ | _ | ticksLeft, asleep⟩
  · have waking : background.tick.1 = background.passed.wake.1 := by
      rw [Background.tick, asleep]
      rfl
    rw [waking]
    exact passed.wake valid short
  · rw [tick_of_waking asleep]
    exact passed.wake valid short
  · rw [tick_of_asleep asleep]
    exact
      ⟨healthy.settings_eq, healthy.shortest_le, healthy.le_longest,
        _, rfl⟩

theorem run
    (healthy : Healthy settings background)
    (valid : settings.validate = .ok ())
    (short : 2 * settings.longest.nanoseconds < Duration.limit.nanoseconds)
    (ticks : Nat) :
    Healthy settings (background.run ticks).1 := by
  induction ticks generalizing background with
  | zero => exact healthy
  | succ ticks induction =>
      have next := induction (healthy.tick valid short)
      rw [Background.run]
      rcases ticked : background.tick with ⟨later, _ | wake⟩
      · rw [ticked] at next
        exact next
      · rw [ticked] at next
        exact next

end Healthy

end Background

namespace Soak

/-! ## Settings derived from options -/

namespace Options

variable (options : Options)

/-- The bucket width that the intervals of the sweeper are derived from. -/
def pacingWidth : Duration :=
  Duration.ofMilliseconds (max options.bucketMilliseconds.toNat 1)

theorem one_millisecond_le_pacingWidth :
    Duration.ofMilliseconds 1 ≤ options.pacingWidth := by
  simp only [Duration.le_def, pacingWidth, Duration.ofMilliseconds]
  omega

/-- Eight times the width is a duration still: the longest interval is four times it, and is doubled. -/
theorem eightfold_pacingWidth_lt_limit :
    8 * options.pacingWidth.nanoseconds < Duration.limit.nanoseconds := by
  have fits := options.bucketMilliseconds.toNat_lt_size
  simp only [pacingWidth, Duration.ofMilliseconds, Duration.limit,
    Duration.ofSeconds, UInt64.size] at fits ⊢
  omega

theorem one_millisecond_le_shortest :
    Duration.ofMilliseconds 1 ≤ options.pacingSettings.shortest := by
  show _ ≤ max options.pacingWidth.quarter _
  simp only [Duration.le_def, Duration.nanoseconds_max]
  omega

theorem validate_pacingSettings :
    options.pacingSettings.validate = .ok () := by
  have wide := options.one_millisecond_le_pacingWidth
  have positive := options.one_millisecond_le_shortest
  apply (PacingSettings.validate_eq_ok_iff _).mpr
  refine ⟨Nat.lt_of_lt_of_le Nat.one_pos ?_, ?_, ?_⟩
  · exact Nat.le_trans (by decide) positive
  · show max options.pacingWidth.quarter _ ≤ options.pacingWidth
    simp only [Duration.le_def, Duration.nanoseconds_max,
      Duration.quarter] at wide ⊢
    omega
  · show options.pacingWidth ≤ options.pacingWidth.fourfold
    simp only [Duration.le_def, Duration.fourfold]
    omega

theorem twice_longest_lt_limit :
    2 * options.pacingSettings.longest.nanoseconds <
      Duration.limit.nanoseconds := by
  have fits := options.eightfold_pacingWidth_lt_limit
  show 2 * (4 * options.pacingWidth.nanoseconds) < _
  omega

theorem validate_storeSettings_iff :
    options.storeSettings.validate = .ok () ↔
      1 ≤ options.shards ∧ 1 ≤ options.bucketMilliseconds := by
  rw [StoreSettings.validate_eq_ok_iff, UInt64.le_iff_toNat_le,
    UInt64.le_iff_toNat_le]
  show 0 < options.shards.toNat ∧
      0 < options.bucketMilliseconds.toNat * 1000000 ↔
    1 ≤ options.shards.toNat ∧ 1 ≤ options.bucketMilliseconds.toNat
  omega

variable {options}

/-- Every sweep of any series chooses an interval of at least a millisecond. -/
theorem exists_of_mem_intervals
    {sweeps : List (Nat × Nat)}
    {result : Except TimeError Duration}
    (member :
      result ∈
        options.pacingSettings.intervals options.pacingSettings.first
          sweeps) :
    ∃ next,
      result = .ok next ∧
        Duration.ofMilliseconds 1 ≤ next ∧ next.Representable := by
  have valid := options.validate_pacingSettings
  rcases PacingSettings.exists_of_mem_intervals member with
    ⟨earlier, sweep, later, _, chosen⟩
  rcases PacingSettings.intervalAfter_first_mem valid earlier with
    ⟨shortest_le, le_longest⟩
  rcases
      PacingSettings.exists_nextInterval valid options.twice_longest_lt_limit
        shortest_le le_longest sweep.1 sweep.2 with
    ⟨next, follows, shortest_le_next, next_le_longest⟩
  refine ⟨next, chosen.trans follows, ?_, ?_⟩
  · exact Nat.le_trans options.one_millisecond_le_shortest shortest_le_next
  · have short := options.twice_longest_lt_limit
    show next.nanoseconds < Duration.limit.nanoseconds
    rw [Duration.le_def] at next_le_longest
    omega

end Options

/-! ## The launch -/

section

variable {arguments : List String} {options : Options}

/-- The program is over at once if the settings of the store are refused. -/
theorem launch_of_refused
    (asked : Request.read arguments = .ok (.soak options))
    {error : SettingsError}
    (refused : options.storeSettings.validate = .error error)
    (now : Instant) :
    launch arguments now =
      .over
        (Exit.failure "" "invalid store configuration"
          (some error.message)) := by
  have notMade :
      (Store.ofSettings options.storeSettings now :
          Except SettingsError (Store String)) =
        .error error := by
    rw [Store.ofSettings]
    split
    · rename_i other refusedToo
      rw [refused] at refusedToo
      cases refusedToo
      rfl
    · rename_i valid
      rw [refused] at valid
      cases valid
  rw [launch, asked]
  simp only [notMade]
  rfl

/-- Otherwise it soaks an empty store, beside a sweeper that is asleep. -/
theorem launch_of_valid
    (asked : Request.read arguments = .ok (.soak options))
    (valid : options.storeSettings.validate = .ok ())
    (now : Instant) :
    ∃ background,
      launch arguments now = .soaking options background ∧
        background.Healthy options.pacingSettings := by
  have pacingValid := options.validate_pacingSettings
  rw [launch, asked]
  -- From the inside out: the two ways to fail are slow to tell apart by their wordings.
  simp only [Background.start_of_valid pacingValid]
  simp only [Store.ofSettings_of_valid valid now]
  exact ⟨_, rfl, .start pacingValid⟩

end

/-! ## The crew at work -/

/-- The crews to which a crew comes by letting time pass and taking turns. -/
inductive Crew.ComesTo (crew : Crew) : Crew → Prop where
  | self : ComesTo crew crew
  | elapse
      {later : Crew}
      (before : ComesTo crew later)
      (milliseconds : Nat) :
      ComesTo crew (later.elapse milliseconds)
  | turn
      {later next : Crew}
      (before : ComesTo crew later)
      {now : Instant}
      (taken : later.turn now = .ok next) :
      ComesTo crew next

/-- A worker with the options' span of time can take a turn at every early reading of the clock. -/
theorem exists_turn_of_early
    {options : Options}
    {worker : Worker}
    (span :
      worker.ttl =
        Duration.ofMilliseconds options.ttlMilliseconds.toNat)
    (progress : Progress)
    (early : progress.clock.reading.Early) :
    ∃ next, worker.turn progress = .ok next := by
  have made :
      ∀ key token,
        ∃ item,
          worker.item key token progress.clock.reading = .ok item := by
    intro key token
    rw [Worker.item, Item.expiringAfter, span,
      early.later options.ttlMilliseconds]
    exact ⟨_, rfl⟩
  rw [Worker.turn_eq]
  cases operationAt progress.random with
  | read => exact ⟨_, rfl⟩
  | store =>
      rcases made (worker.keyAt progress.random)
          (tokenOf (worker.keyAt progress.random)) with
        ⟨item, made⟩
      exact ⟨progress.drawn.set item, congrArg (Except.map _) made⟩
  | update =>
      rcases made (worker.keyAt progress.random)
          (tokenOf (worker.keyAt progress.random)) with
        ⟨item, made⟩
      exact ⟨progress.drawn.update item, congrArg (Except.map _) made⟩
  | delete => exact ⟨_, rfl⟩

/-- The members' writes live for the options' span of time. -/
def Serve (options : Options) (members : List Member) : Prop :=
  ∀ member ∈ members,
    member.worker.ttl =
      Duration.ofMilliseconds options.ttlMilliseconds.toNat

/-- All members take their turns at an early reading of the clock. -/
theorem exists_turnAll_of_early
    {options : Options}
    {members : List Member}
    (serve : Serve options members)
    {now : Instant}
    (early : now.Early)
    (store : Store String) :
    ∃ last, turnAll now store members = .ok last := by
  induction members generalizing store with
  | nil => exact ⟨_, rfl⟩
  | cons member rest induction =>
      let found : Progress :=
        { store := store
          clock := { reading := now, step := ⟨0⟩, readsLeft := 1 }
          random := member.random
          tally := member.tally }
      rcases
          exists_turn_of_early (serve member List.mem_cons_self) found
            early with
        ⟨progress, taken⟩
      rcases induction
          (fun other member => serve other (List.mem_cons_of_mem _ member))
          progress.store with
        ⟨last, others⟩
      rw [turnAll, taken]
      simp only [others]
      exact ⟨_, rfl⟩

/-- After their turns the members are the same workers. -/
theorem workers_turnAll
    {now : Instant}
    {store last : Store String}
    {members others : List Member}
    (taken : turnAll now store members = .ok (last, others)) :
    others.map (·.worker) = members.map (·.worker) := by
  induction members generalizing store others with
  | nil =>
      cases taken
      rfl
  | cons member rest induction =>
      rw [turnAll] at taken
      split at taken
      · cases taken
      · rename_i progress _
        cases later : turnAll now progress.store rest with
        | error error =>
            rw [later] at taken
            cases taken
        | ok lasts =>
            rw [later] at taken
            cases taken
            exact congrArg (member.worker :: ·) (induction later)

/-- What a crew needs in order to go on: its writes live as long as asked, its sweeper is healthy. -/
structure Crew.Ready (options : Options) (crew : Crew) : Prop where
  serve : Serve options crew.members
  healthy : crew.background.Healthy options.pacingSettings

namespace Crew

variable {options : Options}

theorem ready_gather
    {background : Background String}
    (healthy : background.Healthy options.pacingSettings) :
    Ready options (gather options background) where
  serve := by
    intro member present
    rcases List.mem_map.mp present with ⟨id, _, rfl⟩
    rfl
  healthy := healthy

variable {crew next : Crew}

theorem Ready.elapse (ready : Ready options crew) (milliseconds : Nat) :
    Ready options (crew.elapse milliseconds) where
  serve := ready.serve
  healthy :=
    ready.healthy.run options.validate_pacingSettings
      options.twice_longest_lt_limit milliseconds

theorem Ready.turn
    (ready : Ready options crew)
    {now : Instant}
    (taken : crew.turn now = .ok next) :
    Ready options next := by
  rw [Crew.turn] at taken
  cases all : turnAll now crew.background.session.store crew.members with
  | error error =>
      rw [all] at taken
      cases taken
  | ok last =>
      rw [all] at taken
      cases taken
      constructor
      · intro member present
        have sameWorkers := workers_turnAll all
        have worker : member.worker ∈ last.2.map (·.worker) :=
          List.mem_map_of_mem present
        rw [sameWorkers] at worker
        rcases List.mem_map.mp worker with ⟨before, formerly, same⟩
        rw [← same]
        exact ready.serve before formerly
      · exact ready.healthy.of_sweeper_eq rfl

/-- Whatever a ready crew does, it is ready to go on. -/
theorem ComesTo.ready
    (comes : crew.ComesTo next)
    (ready : Ready options crew) :
    Ready options next := by
  induction comes with
  | self => exact ready
  | elapse before milliseconds induction =>
      exact induction.elapse milliseconds
  | turn before taken induction => exact induction.turn taken

theorem Ready.exists_turn
    (ready : Ready options crew)
    {now : Instant}
    (early : now.Early) :
    ∃ next, crew.turn now = .ok next := by
  rcases exists_turnAll_of_early ready.serve early
      crew.background.session.store with
    ⟨last, all⟩
  rw [Crew.turn, all]
  exact ⟨_, rfl⟩

end Crew

/--
The options of a command line are always usable.  Whatever bucket width they ask
for, the settings derived from it for the sweeper are valid; the width, a quarter
of it and four times it are durations; and the first interval is at least a
millisecond, as is the interval that every sweep of any series chooses.  The
settings for the store are valid if and only if there is a shard and the width is
positive.

So a program whose command line was read fails at its launch exactly if the
settings of the store are refused, and says so.  If it is launched, whatever time
passes and whatever turns its workers take, its sweeper goes on, and no turn of
its workers fails as long as the clock is not near the end of its range.
-/
theorem options_usable
    (arguments : List String)
    (options : Options)
    (asked : Request.read arguments = .ok (.soak options)) :
    let width := options.pacingWidth
    let settings := options.pacingSettings
    settings.validate = .ok () ∧
      width.Representable ∧
      Duration.ofMilliseconds 1 ≤ width ∧
      settings.first = width ∧
      settings.shortest =
        max width.quarter (Duration.ofMilliseconds 1) ∧
      width.quarter.Representable ∧
      width.times 4 = .ok settings.longest ∧
      (∀ sweeps, ∀ result ∈ settings.intervals settings.first sweeps,
        ∃ next,
          result = .ok next ∧
            Duration.ofMilliseconds 1 ≤ next ∧ next.Representable) ∧
      (options.storeSettings.validate = .ok () ↔
        1 ≤ options.shards ∧ 1 ≤ options.bucketMilliseconds) ∧
      ∀ now,
        (∀ error, options.storeSettings.validate = .error error →
          launch arguments now =
            .over
              (Exit.failure "" "invalid store configuration"
                (some error.message))) ∧
        (options.storeSettings.validate = .ok () →
          ∃ background,
            launch arguments now = .soaking options background ∧
              ∀ crew, (Crew.gather options background).ComesTo crew →
                crew.background.isRunning = true ∧
                  ∀ reading : Instant, reading.Early →
                    ∃ next, crew.turn reading = .ok next) := by
  have eightfold := options.eightfold_pacingWidth_lt_limit
  refine
    ⟨options.validate_pacingSettings, ?_,
      options.one_millisecond_le_pacingWidth, rfl, rfl, ?_, ?_, ?_,
      options.validate_storeSettings_iff, ?_⟩
  · show options.pacingWidth.nanoseconds < Duration.limit.nanoseconds
    omega
  · show options.pacingWidth.nanoseconds / 4 < Duration.limit.nanoseconds
    omega
  · apply if_pos
    omega
  · intro sweeps result member
    exact Options.exists_of_mem_intervals member
  · intro now
    constructor
    · intro error refused
      exact launch_of_refused asked refused now
    · intro valid
      rcases launch_of_valid asked valid now with
        ⟨background, launched, healthy⟩
      refine ⟨background, launched, ?_⟩
      intro crew comes
      have ready := comes.ready (Crew.ready_gather healthy)
      exact ⟨ready.healthy.isRunning, fun _ early => ready.exists_turn early⟩

theorem options_usable_widestBuckets :
    let arguments :=
      ["--bucket-ms", "18446744073709551615", "-t", "2", "--shards", "3"]
    let options : Options :=
      { Options.standard with
        shards := 3
        bucketMilliseconds := 18446744073709551615
        workers := 2 }
    Request.read arguments = .ok (.soak options) ∧
      options.storeSettings.validate = .ok () ∧
      options.pacingSettings.longest =
        Duration.ofMilliseconds 73786976294838206460 ∧
      ∃ background,
        launch arguments ⟨0⟩ = .soaking options background ∧
          ∀ crew, (Crew.gather options background).ComesTo crew →
            crew.background.isRunning = true ∧
              ∀ reading : Instant, reading.Early →
                ∃ next, crew.turn reading = .ok next := by
  intro arguments options
  have asked : Request.read arguments = .ok (.soak options) := by
    decide +kernel
  rcases options_usable arguments options asked with
    ⟨_, _, _, _, _, _, _, _, validIff, launches⟩
  have valid : options.storeSettings.validate = .ok () :=
    validIff.mpr (by decide)
  exact ⟨asked, valid, by decide, (launches ⟨0⟩).2 valid⟩

end Soak

end TtlStore
