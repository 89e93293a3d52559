import TtlStore.Proofs.Session.Sparing

/-!
# Buckets and the clock

Bucket `n` ends `n` widths after the epoch.  The bucket of an instant is found
by a subtraction that stops at zero, a division that drops the remainder and an
addition that stops at the last 64-bit number.  Between the first bucket, which
also takes in what precedes the epoch, and the last, which also takes in what
is too late for its own, this rounding is exact: an instant lies between the
end of the bucket before its own and the end of its own.

A bucket other than the last is therefore closed once the clock has reached its
end and not a moment earlier, and the last one never is.  Wherever an instant
is rounded to, its bucket is not closed before it has passed.
-/

namespace TtlStore

/-- The whole seconds of the instant fit a signed 64-bit number. -/
def Instant.Representable (instant : Instant) : Prop :=
  -Instant.limit.nanoseconds ≤ instant.nanoseconds ∧ instant < Instant.limit

/-- The time between representable instants is a representable duration. -/
theorem Instant.elapsedSince_lt_limit
    {start instant : Instant}
    (startRepresentable : start.Representable)
    (representable : instant.Representable) :
    instant.elapsedSince start < Duration.limit := by
  have lower := startRepresentable.1
  have upper := representable.2
  simp only [Instant.lt_def, Instant.limit] at lower upper
  simp only [Duration.lt_def, elapsedSince, Duration.limit, Duration.ofSeconds,
    UInt64.size]
  omega

namespace Calendar

variable (calendar : Calendar)

/-- The instant that lies a number of whole widths after the epoch. -/
def widthsAfterEpoch (count : Nat) : Instant :=
  calendar.epoch.shift ⟨count * calendar.width.nanoseconds⟩

/-- Fewer widths than a positive number are complete before that many have passed. -/
theorem completeWidths_lt_iff
    (instant : Instant)
    {count : Nat}
    (positive : 0 < count) :
    calendar.completeWidths instant < count ↔
      instant < calendar.widthsAfterEpoch count := by
  have span_pos : 0 < count * calendar.width.nanoseconds :=
    Nat.mul_pos positive calendar.width_pos
  rw [completeWidths, Nat.div_lt_iff_lt_mul calendar.width_pos, Instant.lt_def,
    widthsAfterEpoch, Instant.shift, Instant.elapsedSince]
  generalize count * calendar.width.nanoseconds = span at span_pos
  show (instant.nanoseconds - calendar.epoch.nanoseconds).toNat < span ↔
    instant.nanoseconds < calendar.epoch.nanoseconds + (span : Int)
  omega

/-- The complete widths are cut to 64 bits before the addition, which stops there too. -/
theorem toNat_bucketOf_eq_min_min (instant : Instant) :
    (calendar.bucketOf instant).toNat =
      min (min (calendar.completeWidths instant) (UInt64.size - 1) + 1)
        (UInt64.size - 1) := by
  rw [toNat_bucketOf]
  omega

/-- The number of a bucket other than the last was not cut. -/
theorem toNat_bucketOf_of_lt_lastBucket
    {instant : Instant}
    (early : calendar.bucketOf instant < lastBucket) :
    (calendar.bucketOf instant).toNat = calendar.completeWidths instant + 1 := by
  rw [bucketOf_lt_lastBucket_iff] at early
  rw [toNat_bucketOf]
  omega

/-- An instant precedes the end of its bucket, unless that is the last. -/
theorem lt_end_of_bucketOf
    {instant : Instant}
    (early : calendar.bucketOf instant < lastBucket) :
    instant < calendar.widthsAfterEpoch (calendar.bucketOf instant).toNat := by
  rw [calendar.toNat_bucketOf_of_lt_lastBucket early,
    ← calendar.completeWidths_lt_iff instant (Nat.succ_pos _)]
  exact Nat.lt_succ_self _

/-- An instant does not precede the beginning of its bucket, unless that is the first. -/
theorem start_le_of_bucketOf
    {instant : Instant}
    (later : 1 < calendar.bucketOf instant) :
    calendar.widthsAfterEpoch ((calendar.bucketOf instant).toNat - 1) ≤
      instant := by
  have second : 1 < (calendar.bucketOf instant).toNat :=
    UInt64.lt_iff_toNat_lt.mp later
  have complete :
      (calendar.bucketOf instant).toNat - 1 ≤ calendar.completeWidths instant := by
    rw [toNat_bucketOf]
    omega
  have notBefore := Nat.not_lt.mpr complete
  rw [calendar.completeWidths_lt_iff instant (Nat.sub_pos_of_lt second),
    Instant.lt_def] at notBefore
  rw [Instant.le_def]
  exact Int.not_lt.mp notBefore

/-- A bucket other than the last is closed as soon as the clock has reached its end. -/
theorem closed_iff_end_le
    {deadline : Instant}
    (early : calendar.bucketOf deadline < lastBucket)
    (now : Instant) :
    calendar.bucketOf deadline ≤ calendar.lastClosed now ↔
      calendar.widthsAfterEpoch (calendar.bucketOf deadline).toNat ≤ now := by
  have notCut := calendar.toNat_bucketOf_of_lt_lastBucket early
  have notLast := (calendar.bucketOf_lt_lastBucket_iff deadline).mp early
  have moreWidths :
      calendar.bucketOf deadline ≤ calendar.lastClosed now ↔
        ¬ calendar.completeWidths now < (calendar.bucketOf deadline).toNat := by
    rw [bucketOf_le_lastClosed_iff, calendar.toNat_bucketOf now]
    omega
  rw [moreWidths,
    calendar.completeWidths_lt_iff now (calendar.bucketOf_pos deadline),
    Instant.lt_def, Instant.le_def, Int.not_lt]

/-- The last bucket never closes. -/
theorem lastClosed_lt_lastBucket (now : Instant) :
    calendar.lastClosed now < lastBucket := by
  rw [UInt64.lt_iff_toNat_lt, toNat_lastClosed, toNat_bucketOf,
    toNat_lastBucket]
  simp only [UInt64.size]
  omega

/-- The bucket after the newest closed one is the current one. -/
theorem toNat_lastClosed_succ (now : Instant) :
    (calendar.lastClosed now).toNat + 1 = (calendar.bucketOf now).toNat := by
  rw [toNat_lastClosed]
  exact Nat.sub_add_cancel (calendar.bucketOf_pos now)

/-- The newest closed bucket is followed by another, without wrapping. -/
theorem toNat_lastClosed_add_one (now : Instant) :
    (calendar.lastClosed now + 1).toNat =
      (calendar.lastClosed now).toNat + 1 := by
  have notLast := calendar.lastClosed_lt_lastBucket now
  rw [UInt64.lt_iff_toNat_lt, toNat_lastBucket] at notLast
  rw [UInt64.toNat_add]
  apply Nat.mod_eq_of_lt
  show (calendar.lastClosed now).toNat + 1 < UInt64.size
  omega

/-- The closed buckets are those before the one after the newest closed one. -/
theorem le_lastClosed_iff_lt_add_one (bucket : Bucket) (now : Instant) :
    bucket ≤ calendar.lastClosed now ↔ bucket < calendar.lastClosed now + 1 := by
  rw [UInt64.le_iff_toNat_le, UInt64.lt_iff_toNat_lt,
    toNat_lastClosed_add_one, Nat.lt_succ_iff]

end Calendar

/--
Buckets close exactly.  Whatever the width, of which zero is raised to a
nanosecond, and whatever the epoch, later instants fall into later buckets or
the same; an instant lies between the beginning and the end of its bucket, but
for the two that also take in what has no bucket of its own; and neither the
number of the newest closed bucket nor the next one wraps.  A bucket is closed
only after the instants in it have passed and, unless it is the last, as soon as
the clock has reached its end, which is within a width of each of them.  What
answers a candidate of a closed bucket is therefore decided without the clock.
-/
theorem buckets_close_exactly
    {V : Type}
    (epoch : Instant)
    (width : Duration)
    (deadline now : Instant)
    (entry : Entry V)
    (candidate : Candidate) :
    let calendar := Calendar.ofWidth epoch width
    let bucket := calendar.bucketOf deadline
    let lastClosed := calendar.lastClosed now
    calendar.width = max width ⟨1⟩ ∧
      (epoch.Representable → deadline.Representable →
        deadline.elapsedSince epoch < Duration.limit) ∧
      bucket.toNat =
        min (min (calendar.completeWidths deadline) (UInt64.size - 1) + 1)
          (UInt64.size - 1) ∧
      (deadline ≤ now → bucket ≤ calendar.bucketOf now) ∧
      1 ≤ bucket ∧
      (1 < bucket →
        calendar.widthsAfterEpoch (bucket.toNat - 1) ≤ deadline) ∧
      (bucket < Calendar.lastBucket →
        deadline < calendar.widthsAfterEpoch bucket.toNat) ∧
      lastClosed.toNat + 1 = (calendar.bucketOf now).toNat ∧
      (lastClosed + 1).toNat = lastClosed.toNat + 1 ∧
      (candidate.bucket ≤ lastClosed ↔ candidate.bucket < lastClosed + 1) ∧
      lastClosed < Calendar.lastBucket ∧
      (bucket ≤ lastClosed → deadline < now) ∧
      (bucket < Calendar.lastBucket →
        (bucket ≤ lastClosed ↔
          calendar.widthsAfterEpoch bucket.toNat ≤ now)) ∧
      (bucket < Calendar.lastBucket → ¬ bucket ≤ lastClosed →
        now.nanoseconds <
          max deadline.nanoseconds epoch.nanoseconds +
            calendar.width.nanoseconds) ∧
      (candidate.bucket ≤ lastClosed →
        (entry.answers calendar candidate now = true ↔
          entry.deadline.map
              (calendar.candidate candidate.key entry.token) =
            some candidate)) := by
  intro calendar bucket lastClosed
  refine
    ⟨rfl, Instant.elapsedSince_lt_limit,
      calendar.toNat_bucketOf_eq_min_min deadline, calendar.bucketOf_mono,
      UInt64.le_iff_toNat_le.mpr (calendar.bucketOf_pos deadline),
      calendar.start_le_of_bucketOf, calendar.lt_end_of_bucketOf,
      calendar.toNat_lastClosed_succ now, calendar.toNat_lastClosed_add_one now,
      calendar.le_lastClosed_iff_lt_add_one candidate.bucket now,
      calendar.lastClosed_lt_lastBucket now,
      calendar.lt_of_bucketOf_le_lastClosed, ?_, ?_,
      entry.answers_iff_of_closed⟩
  · intro early
    exact calendar.closed_iff_end_le early now
  · intro early notClosed
    apply Int.not_le.mp
    intro passed
    exact notClosed (calendar.bucketOf_le_lastClosed early passed)

/-- Instants reach the last bucket by their own number, by the addition, or by the division. -/
example :
    let calendar := Calendar.ofWidth ⟨0⟩ ⟨0⟩
    calendar.bucketOf ⟨18446744073709551613⟩ < Calendar.lastBucket ∧
      calendar.bucketOf ⟨18446744073709551614⟩ = Calendar.lastBucket ∧
      calendar.bucketOf ⟨18446744073709551615⟩ = Calendar.lastBucket ∧
      calendar.bucketOf ⟨18446744073709551616⟩ = Calendar.lastBucket := by
  decide

end TtlStore
