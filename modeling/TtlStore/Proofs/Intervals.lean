import TtlStore.Proofs.Pacing

/-!
# Series of intervals

A sweeper starts with the first interval of its settings and goes on with what
each sweep makes of it, an interval that cannot be doubled being kept.  Whatever
the sweeps find and whatever the thresholds are, all intervals of such a series
lie between the shortest and the longest one.

Doubling comes before the comparison with the longest interval, so that an
interval within its bounds may still be too long to be doubled.  A series can
come to such an interval exactly if twice the longest interval leaves the range
of durations and the thresholds let the interval be doubled at all.
-/

namespace TtlStore.PacingSettings

/-- The interval after a sweep that found and evicted so many items; a failure keeps the old one. -/
def resume
    (settings : PacingSettings)
    (current : Duration)
    (sweep : Nat × Nat) :
    Duration :=
  (settings.nextInterval current sweep.1 sweep.2).toOption.getD current

/-- The interval after a series of sweeps. -/
def intervalAfter
    (settings : PacingSettings)
    (current : Duration)
    (sweeps : List (Nat × Nat)) :
    Duration :=
  sweeps.foldl settings.resume current

section

variable {settings : PacingSettings} {current : Duration}

theorem intervals_cons
    (settings : PacingSettings)
    (current : Duration)
    (sweep : Nat × Nat)
    (rest : List (Nat × Nat)) :
    settings.intervals current (sweep :: rest) =
      settings.nextInterval current sweep.1 sweep.2 ::
        settings.intervals (settings.resume current sweep) rest := by
  rw [intervals, resume]
  cases settings.nextInterval current sweep.1 sweep.2 <;> rfl

theorem intervals_append
    (settings : PacingSettings)
    (current : Duration)
    (earlier later : List (Nat × Nat)) :
    settings.intervals current (earlier ++ later) =
      settings.intervals current earlier ++
        settings.intervals (settings.intervalAfter current earlier) later := by
  induction earlier generalizing current with
  | nil => rfl
  | cons sweep rest induction =>
      rw [List.cons_append, intervals_cons, intervals_cons, induction,
        List.cons_append]
      rfl

/-- Every sweep chooses an interval, or fails to. -/
theorem length_intervals
    (settings : PacingSettings)
    (current : Duration)
    (sweeps : List (Nat × Nat)) :
    (settings.intervals current sweeps).length = sweeps.length := by
  induction sweeps generalizing current with
  | nil => rfl
  | cons sweep rest induction =>
      rw [intervals_cons, List.length_cons, List.length_cons, induction]

/-- Each sweep chooses from the interval that the sweeps before it left. -/
theorem getElem?_intervals
    (settings : PacingSettings)
    (current : Duration)
    (earlier : List (Nat × Nat))
    (sweep : Nat × Nat)
    (later : List (Nat × Nat)) :
    (settings.intervals current (earlier ++ sweep :: later))[earlier.length]? =
      some
        (settings.nextInterval (settings.intervalAfter current earlier)
          sweep.1 sweep.2) := by
  have place := settings.length_intervals current earlier
  rw [intervals_append, intervals_cons, ← place,
    List.getElem?_append_right (Nat.le_refl _), Nat.sub_self]
  rfl

/-- What a series chooses is chosen after some sweep, from the interval at that time. -/
theorem exists_of_mem_intervals
    {sweeps : List (Nat × Nat)}
    {result : Except TimeError Duration}
    (member : result ∈ settings.intervals current sweeps) :
    ∃ earlier sweep later,
      sweeps = earlier ++ sweep :: later ∧
        result =
          settings.nextInterval (settings.intervalAfter current earlier)
            sweep.1 sweep.2 := by
  induction sweeps generalizing current with
  | nil => cases member
  | cons sweep rest induction =>
      rw [intervals_cons] at member
      rcases List.mem_cons.mp member with first | others
      · exact ⟨[], sweep, rest, rfl, first⟩
      · rcases induction others with ⟨earlier, other, later, rfl, chosen⟩
        exact ⟨sweep :: earlier, other, later, rfl, chosen⟩

/-! ## Bounds -/

/-- One sweep keeps the interval between the shortest and the longest one. -/
theorem resume_mem
    (valid : settings.validate = .ok ())
    (shortest_le : settings.shortest ≤ current)
    (le_longest : current ≤ settings.longest)
    (sweep : Nat × Nat) :
    settings.shortest ≤ settings.resume current sweep ∧
      settings.resume current sweep ≤ settings.longest := by
  rw [resume]
  cases chosen : settings.nextInterval current sweep.1 sweep.2 with
  | error error => exact ⟨shortest_le, le_longest⟩
  | ok next => exact nextInterval_mem valid shortest_le le_longest chosen

/-- Any series of sweeps keeps the interval between the shortest and the longest one. -/
theorem intervalAfter_mem
    (valid : settings.validate = .ok ())
    (shortest_le : settings.shortest ≤ current)
    (le_longest : current ≤ settings.longest)
    (sweeps : List (Nat × Nat)) :
    settings.shortest ≤ settings.intervalAfter current sweeps ∧
      settings.intervalAfter current sweeps ≤ settings.longest := by
  induction sweeps generalizing current with
  | nil => exact ⟨shortest_le, le_longest⟩
  | cons sweep rest induction =>
      rcases resume_mem valid shortest_le le_longest sweep with
        ⟨shortest_le_next, next_le_longest⟩
      exact induction shortest_le_next next_le_longest

/-- The intervals of a sweeper lie between the shortest and the longest one. -/
theorem intervalAfter_first_mem
    (valid : settings.validate = .ok ())
    (sweeps : List (Nat × Nat)) :
    settings.shortest ≤ settings.intervalAfter settings.first sweeps ∧
      settings.intervalAfter settings.first sweeps ≤ settings.longest := by
  rcases settings.validate_eq_ok_iff.mp valid with
    ⟨_, shortest_le_first, first_le_longest⟩
  exact intervalAfter_mem valid shortest_le_first first_le_longest sweeps

end

/--
The adaptive interval stays in bounds for ever.  Valid settings, whatever their
thresholds, start a sweeper on a series of intervals each of which is chosen from
the one before and lies, like it, between the shortest and the longest one: the
old interval, half of it but not below the shortest, or twice of it but not above
the longest.  It becomes longer only after a sweep that found something and
evicted nothing, and stays what it was after one that found nothing.
-/
theorem intervals_bounded
    (settings : PacingSettings)
    (valid : settings.validate = .ok ())
    (sweeps : List (Nat × Nat)) :
    (settings.intervals settings.first sweeps).length = sweeps.length ∧
      (∀ next, .ok next ∈ settings.intervals settings.first sweeps →
        settings.shortest ≤ next ∧ next ≤ settings.longest) ∧
      ∀ earlier present evicted later,
        sweeps = earlier ++ (present, evicted) :: later →
          let current := settings.intervalAfter settings.first earlier
          let chosen := settings.nextInterval current present evicted
          (settings.intervals settings.first sweeps)[earlier.length]? =
              some chosen ∧
            settings.shortest ≤ current ∧ current ≤ settings.longest ∧
            (present = 0 → chosen = .ok current) ∧
            ∀ next, chosen = .ok next →
              (next = current ∨
                next = max current.half settings.shortest ∨
                  next = min ⟨2 * current.nanoseconds⟩ settings.longest) ∧
                (current < next → evicted = 0 ∧ 0 < present) := by
  refine
    ⟨settings.length_intervals settings.first sweeps, ?_, ?_⟩
  · intro next member
    rcases exists_of_mem_intervals member with
      ⟨earlier, sweep, later, _, chosen⟩
    rcases intervalAfter_first_mem valid earlier with
      ⟨shortest_le, le_longest⟩
    exact nextInterval_mem valid shortest_le le_longest chosen.symm
  · intro earlier present evicted later split current chosen
    subst split
    rcases intervalAfter_first_mem valid earlier with
      ⟨shortest_le, le_longest⟩
    refine
      ⟨settings.getElem?_intervals settings.first earlier _ later,
        shortest_le, le_longest, ?_, ?_⟩
    · intro empty
      subst empty
      exact settings.nextInterval_of_empty current evicted
    · intro next chosenNext
      constructor
      · cases moves_of_nextInterval chosenNext with
        | kept => exact Or.inl rfl
        | halved => exact Or.inr (Or.inl rfl)
        | doubled => exact Or.inr (Or.inr rfl)
      · intro longer
        exact (found_and_idle_of_lt shortest_le chosenNext longer).symm

theorem intervals_bounded_unevenSeries :
    let settings : PacingSettings :=
      { first := ⟨10⟩
        shortest := ⟨3⟩
        longest := ⟨25⟩
        speedup := PacingSettings.standard.speedup
        slowdown := ⟨9218868437227405312⟩ }
    let sweeps := [(4, 2), (4, 2), (4, 0), (0, 0), (4, 0), (4, 0), (4, 0)]
    settings.validate = .ok () ∧
      (settings.intervals settings.first sweeps).map Except.toOption =
        [some ⟨5⟩, some ⟨3⟩, some ⟨6⟩, some ⟨6⟩, some ⟨12⟩, some ⟨24⟩,
          some ⟨25⟩] ∧
      ∀ next, .ok next ∈ settings.intervals settings.first sweeps →
        settings.shortest ≤ next ∧ next ≤ settings.longest := by
  intro settings sweeps
  have valid : settings.validate = .ok () :=
    settings.validate_eq_ok_iff.mpr (by decide)
  exact
    ⟨valid, by decide +kernel,
      (intervals_bounded settings valid sweeps).2.1⟩

/-! ## Intervals that are too long to be doubled -/

/--
Sweeps that find something and evict nothing lead from any interval to one that
cannot be doubled, if the longest interval cannot be.
-/
theorem exists_failure
    {settings : PacingSettings}
    {present : Nat}
    (doubles : settings.pace present 0 = .doubled)
    (long : Duration.limit.nanoseconds ≤ 2 * settings.longest.nanoseconds)
    {current : Duration}
    (positive : 0 < current.nanoseconds)
    (le_longest : current ≤ settings.longest) :
    ∃ count,
      .error .durationOverflow ∈
        settings.intervals current (List.replicate count (present, 0)) := by
  -- Each doubling that succeeds brings the interval nearer to the longest one.
  induction distance_eq : settings.longest.nanoseconds - current.nanoseconds
    using Nat.strongRecOn generalizing current with
  | ind distance induction =>
      by_cases short : 2 * current.nanoseconds < Duration.limit.nanoseconds
      · let next : Duration := min ⟨2 * current.nanoseconds⟩ settings.longest
        have chosen :
            settings.nextInterval current present 0 = .ok next :=
          nextInterval_of_doubled doubles short
        have goesOn : settings.resume current (present, 0) = next := by
          rw [resume, chosen]
          rfl
        have next_eq :
            next.nanoseconds =
              min (2 * current.nanoseconds) settings.longest.nanoseconds :=
          rfl
        rw [Duration.le_def] at le_longest
        have next_positive : 0 < next.nanoseconds := by omega
        have next_le_longest : next ≤ settings.longest :=
          Nat.min_le_right _ _
        have closer :
            settings.longest.nanoseconds - next.nanoseconds < distance := by
          omega
        rcases induction _ closer next_positive next_le_longest rfl with
          ⟨count, fails⟩
        refine ⟨count + 1, ?_⟩
        rw [List.replicate_succ, intervals_cons, goesOn]
        exact List.mem_cons_of_mem _ fails
      · refine ⟨1, ?_⟩
        rw [List.replicate_succ, intervals_cons,
          nextInterval_of_doubled_too_long doubles (Nat.not_lt.mp short)]
        exact List.mem_cons_self

/--
When a sweeper cannot fail.  With valid settings no sweep of any series, in which
no sweep finds more than a given number of items, fails to choose an interval, if
and only if twice the longest interval stays within the range of durations, or
the thresholds never let a sweep double the interval that found so few items and
evicted none.
-/
theorem never_fails_iff
    (settings : PacingSettings)
    (valid : settings.validate = .ok ())
    (most : Nat) :
    (∀ sweeps : List (Nat × Nat), (∀ sweep ∈ sweeps, sweep.1 ≤ most) →
        ∀ result ∈ settings.intervals settings.first sweeps,
          ∃ next, result = .ok next) ↔
      2 * settings.longest.nanoseconds < Duration.limit.nanoseconds ∨
        ∀ present ≤ most, settings.pace present 0 ≠ .doubled := by
  constructor
  · intro neverFails
    by_cases short :
        2 * settings.longest.nanoseconds < Duration.limit.nanoseconds
    · exact Or.inl short
    · apply Or.inr
      intro present few doubles
      rcases settings.validate_eq_ok_iff.mp valid with
        ⟨positive, shortest_le_first, first_le_longest⟩
      rcases exists_failure doubles (Nat.not_lt.mp short)
          (Nat.lt_of_lt_of_le positive shortest_le_first)
          first_le_longest with
        ⟨count, fails⟩
      have fewEach :
          ∀ sweep ∈ List.replicate count (present, 0), sweep.1 ≤ most := by
        intro sweep member
        rw [List.eq_of_mem_replicate member]
        exact few
      rcases neverFails _ fewEach _ fails with ⟨next, same⟩
      cases same
  · intro safe sweeps few result member
    cases result with
    | ok next => exact ⟨next, rfl⟩
    | error error =>
        exfalso
        rcases exists_of_mem_intervals member with
          ⟨earlier, ⟨present, evicted⟩, later, split, failed⟩
        rcases too_long_of_nextInterval_error failed.symm with
          ⟨doubles, long⟩
        have le_longest := (intervalAfter_first_mem valid earlier).2
        rw [Duration.le_def] at le_longest
        have idle : evicted = 0 := (found_and_idle_of_doubled doubles).2
        rw [idle] at doubles
        have atMost : present ≤ most := by
          apply few (present, evicted)
          rw [split]
          exact List.mem_append_right _ List.mem_cons_self
        rcases safe with short | neverDoubled
        · omega
        · exact neverDoubled present atMost doubles

theorem never_fails_standard :
    let settings := PacingSettings.standard
    settings.validate = .ok () ∧
      ∀ sweeps : List (Nat × Nat),
        (∀ sweep ∈ sweeps, sweep.1 ≤ 18446744073709551615) →
          ∀ result ∈ settings.intervals settings.first sweeps,
            ∃ next, result = .ok next := by
  intro settings
  have valid : settings.validate = .ok () :=
    settings.validate_eq_ok_iff.mpr (by decide)
  exact ⟨valid, (never_fails_iff settings valid _).mpr (Or.inl (by decide))⟩

/-- Settings whose first interval, which is also the longest, is half the limit of durations. -/
def farSettings : PacingSettings :=
  { PacingSettings.standard with
    first := Duration.ofSeconds 9223372036854775808
    longest := Duration.ofSeconds 9223372036854775808 }

/-- A sweep that finds one item and evicts none ends a sweeper with these valid settings. -/
theorem fails_farSettings :
    farSettings.validate = .ok () ∧
      farSettings.nextInterval farSettings.first 1 0 =
        .error .durationOverflow ∧
      ¬ ∀ sweeps : List (Nat × Nat),
        ∀ result ∈ farSettings.intervals farSettings.first sweeps,
          ∃ next, result = .ok next := by
  have valid : farSettings.validate = .ok () :=
    farSettings.validate_eq_ok_iff.mpr (by decide)
  have doubles : farSettings.pace 1 0 = .doubled := by
    decide +kernel
  have failed :
      farSettings.nextInterval farSettings.first 1 0 =
        .error .durationOverflow :=
    nextInterval_of_doubled_too_long doubles (by decide)
  refine ⟨valid, failed, ?_⟩
  intro neverFails
  have member :
      .error .durationOverflow ∈
        farSettings.intervals farSettings.first [(1, 0)] := by
    rw [intervals_cons, failed]
    exact List.mem_cons_self
  rcases neverFails [(1, 0)] _ member with ⟨next, same⟩
  cases same

end TtlStore.PacingSettings
