import TtlStore.Pacing

/-!
# How the interval of a sweeper moves

A sweep keeps the interval, halves it or doubles it, and doubles it only if it
found something and evicted nothing.

Whatever a sweep finds, the interval chosen after it lies again between the
shortest and the longest one.  The halved interval is raised to the shortest,
and that is no longer than the longest; the doubled one is cut to the longest,
and it has not become shorter.
-/

namespace TtlStore.PacingSettings

/-- Valid settings order the shortest before the longest interval. -/
theorem shortest_le_longest
    {settings : PacingSettings}
    (valid : settings.validate = .ok ()) :
    settings.shortest ≤ settings.longest := by
  rcases settings.validate_eq_ok_iff.mp valid with
    ⟨_, shortest_le_first, first_le_longest⟩
  exact Nat.le_trans shortest_le_first first_le_longest

/-- What becomes of an interval after a sweep that found and evicted so many items. -/
inductive Moves
    (settings : PacingSettings)
    (current : Duration)
    (present evicted : Nat) :
    Duration → Prop where
  | kept :
      Moves settings current present evicted current
  | halved :
      Moves settings current present evicted
        (max current.half settings.shortest)
  | doubled
      (found : 0 < present)
      (idle : evicted = 0) :
      Moves settings current present evicted
        (min ⟨2 * current.nanoseconds⟩ settings.longest)

section

variable {settings : PacingSettings} {current next : Duration}
variable {present evicted : Nat}

/-- Only a sweep that found something and evicted nothing doubles the interval. -/
theorem found_and_idle_of_doubled
    (doubled : settings.pace present evicted = .doubled) :
    0 < present ∧ evicted = 0 := by
  rw [pace] at doubled
  split at doubled
  · cases doubled
  · rename_i found
    split at doubled
    · cases doubled
    · split at doubled
      · rename_i idle
        exact ⟨Nat.pos_of_ne_zero found, idle.2⟩
      · cases doubled

/-- A sweep that found nothing keeps the interval. -/
theorem nextInterval_of_empty
    (settings : PacingSettings)
    (current : Duration)
    (evicted : Nat) :
    settings.nextInterval current 0 evicted = .ok current := by
  simp only [nextInterval, pace, if_true, adjust]

/-- The doubled interval is twice the current one, cut to the longest. -/
theorem nextInterval_of_doubled
    (doubled : settings.pace present evicted = .doubled)
    (short : 2 * current.nanoseconds < Duration.limit.nanoseconds) :
    settings.nextInterval current present evicted =
      .ok (min ⟨2 * current.nanoseconds⟩ settings.longest) := by
  rw [nextInterval, doubled, adjust, Duration.double, if_pos short]
  rfl

/-- An interval half as long as the limit of durations or longer cannot be doubled. -/
theorem nextInterval_of_doubled_too_long
    (doubled : settings.pace present evicted = .doubled)
    (long : Duration.limit.nanoseconds ≤ 2 * current.nanoseconds) :
    settings.nextInterval current present evicted =
      .error .durationOverflow := by
  rw [nextInterval, doubled, adjust, Duration.double,
    if_neg (Nat.not_lt.mpr long)]
  rfl

/-- What was chosen is what some pace makes of the current interval. -/
theorem moves_of_nextInterval
    (chosen : settings.nextInterval current present evicted = .ok next) :
    settings.Moves current present evicted next := by
  cases pace : settings.pace present evicted with
  | kept =>
      rw [nextInterval, pace] at chosen
      cases chosen
      exact .kept
  | halved =>
      rw [nextInterval, pace] at chosen
      cases chosen
      exact .halved
  | doubled =>
      rcases found_and_idle_of_doubled pace with ⟨found, idle⟩
      by_cases short : 2 * current.nanoseconds < Duration.limit.nanoseconds
      · rw [nextInterval_of_doubled pace short] at chosen
        cases chosen
        exact .doubled found idle
      · rw [nextInterval_of_doubled_too_long pace (Nat.not_lt.mp short)]
          at chosen
        cases chosen

/-- An interval between the shortest and the longest one is followed by another. -/
theorem nextInterval_mem
    (valid : settings.validate = .ok ())
    (shortest_le : settings.shortest ≤ current)
    (le_longest : current ≤ settings.longest)
    (chosen : settings.nextInterval current present evicted = .ok next) :
    settings.shortest ≤ next ∧ next ≤ settings.longest := by
  have ordered := shortest_le_longest valid
  simp only [Duration.le_def] at *
  cases moves_of_nextInterval chosen with
  | kept => exact ⟨shortest_le, le_longest⟩
  | halved =>
      simp only [Duration.nanoseconds_max, Duration.half]
      omega
  | doubled =>
      simp only [Duration.nanoseconds_min]
      omega

/-- An interval that is not below the shortest becomes longer only when it is doubled. -/
theorem found_and_idle_of_lt
    (shortest_le : settings.shortest ≤ current)
    (chosen : settings.nextInterval current present evicted = .ok next)
    (longer : current < next) :
    0 < present ∧ evicted = 0 := by
  simp only [Duration.le_def, Duration.lt_def] at *
  cases moves_of_nextInterval chosen with
  | kept => exact absurd longer (Nat.lt_irrefl _)
  | halved =>
      simp only [Duration.nanoseconds_max, Duration.half] at longer
      omega
  | doubled found idle => exact ⟨found, idle⟩

/-- Choosing an interval fails only where one that is too long would be doubled. -/
theorem too_long_of_nextInterval_error
    {error : TimeError}
    (failed : settings.nextInterval current present evicted = .error error) :
    settings.pace present evicted = .doubled ∧
      Duration.limit.nanoseconds ≤ 2 * current.nanoseconds := by
  cases pace : settings.pace present evicted with
  | kept =>
      rw [nextInterval, pace] at failed
      cases failed
  | halved =>
      rw [nextInterval, pace] at failed
      cases failed
  | doubled =>
      refine ⟨rfl, Nat.not_lt.mp ?_⟩
      intro short
      rw [nextInterval_of_doubled pace short] at failed
      cases failed

/-- If the longest interval can be doubled, every interval within the bounds is followed by another. -/
theorem exists_nextInterval
    (valid : settings.validate = .ok ())
    (short : 2 * settings.longest.nanoseconds < Duration.limit.nanoseconds)
    (shortest_le : settings.shortest ≤ current)
    (le_longest : current ≤ settings.longest)
    (present evicted : Nat) :
    ∃ next,
      settings.nextInterval current present evicted = .ok next ∧
        settings.shortest ≤ next ∧ next ≤ settings.longest := by
  cases chosen : settings.nextInterval current present evicted with
  | error error =>
      have long := (too_long_of_nextInterval_error chosen).2
      rw [Duration.le_def] at le_longest
      omega
  | ok next =>
      exact
        ⟨next, rfl, nextInterval_mem valid shortest_le le_longest chosen⟩

end

end TtlStore.PacingSettings
