import Mathlib.Algebra.Order.Ring.Nat
import TtlStore.Calendar

/-!
# When buckets close

A deadline whose bucket is closed lies strictly in the past.  Conversely, the
bucket of a deadline is closed as soon as a whole width has passed since the
deadline, or since the epoch for a deadline before it, unless the deadline is
so late that it falls into the last bucket, which never closes.  What is closed
once is closed at every later instant.
-/

namespace TtlStore.Calendar

variable (calendar : Calendar)

/-- The bucket into which everything falls that is too late for a smaller number. -/
def lastBucket : Bucket :=
  UInt64.ofNat (UInt64.size - 1)

theorem toNat_lastBucket : lastBucket.toNat = UInt64.size - 1 :=
  rfl

/-- An instant falls into the last bucket unless its number fits below. -/
theorem bucketOf_lt_lastBucket_iff (instant : Instant) :
    calendar.bucketOf instant < lastBucket ↔
      calendar.completeWidths instant + 1 < UInt64.size - 1 := by
  rw [UInt64.lt_iff_toNat_lt, toNat_bucketOf, toNat_lastBucket]
  omega

theorem bucketOf_le_lastClosed_iff (deadline now : Instant) :
    calendar.bucketOf deadline ≤ calendar.lastClosed now ↔
      (calendar.bucketOf deadline).toNat < (calendar.bucketOf now).toNat := by
  have positive := calendar.bucketOf_pos now
  rw [UInt64.le_iff_toNat_le, toNat_lastClosed]
  omega

/-- A deadline in a closed bucket has passed. -/
theorem lt_of_bucketOf_le_lastClosed
    {deadline now : Instant}
    (closed : calendar.bucketOf deadline ≤ calendar.lastClosed now) :
    deadline < now := by
  rw [bucketOf_le_lastClosed_iff, toNat_bucketOf, toNat_bucketOf] at closed
  have fewerWidths :
      calendar.completeWidths deadline < calendar.completeWidths now := by
    omega
  have shorter := Nat.lt_of_div_lt_div fewerWidths
  simp only [Instant.elapsedSince] at shorter
  rw [Instant.lt_def]
  omega

/-- A bucket other than the last is closed one width after each deadline in it. -/
theorem bucketOf_le_lastClosed
    {deadline now : Instant}
    (early : calendar.bucketOf deadline < lastBucket)
    (passed :
      max deadline.nanoseconds calendar.epoch.nanoseconds +
          calendar.width.nanoseconds ≤
        now.nanoseconds) :
    calendar.bucketOf deadline ≤ calendar.lastClosed now := by
  have positive := calendar.width_pos
  have longer :
      (deadline.elapsedSince calendar.epoch).nanoseconds +
          calendar.width.nanoseconds ≤
        (now.elapsedSince calendar.epoch).nanoseconds := by
    simp only [Instant.elapsedSince]
    omega
  have moreWidths :
      calendar.completeWidths deadline + 1 ≤ calendar.completeWidths now := by
    rw [completeWidths, completeWidths, ← Nat.add_div_right _ positive]
    exact Nat.div_le_div_right longer
  have notLast := (calendar.bucketOf_lt_lastBucket_iff deadline).mp early
  rw [bucketOf_le_lastClosed_iff, toNat_bucketOf, toNat_bucketOf]
  omega

/-- Later instants fall into later buckets or the same. -/
theorem bucketOf_mono
    {early late : Instant}
    (ordered : early ≤ late) :
    calendar.bucketOf early ≤ calendar.bucketOf late := by
  have longer :
      (early.elapsedSince calendar.epoch).nanoseconds ≤
        (late.elapsedSince calendar.epoch).nanoseconds := by
    rw [Instant.le_def] at ordered
    simp only [Instant.elapsedSince]
    omega
  have moreWidths :
      calendar.completeWidths early ≤ calendar.completeWidths late :=
    Nat.div_le_div_right longer
  rw [UInt64.le_iff_toNat_le, toNat_bucketOf, toNat_bucketOf]
  omega

/-- What is closed stays closed as time goes on. -/
theorem lastClosed_mono
    {early late : Instant}
    (ordered : early ≤ late) :
    calendar.lastClosed early ≤ calendar.lastClosed late := by
  have later := calendar.bucketOf_mono ordered
  rw [UInt64.le_iff_toNat_le] at later ⊢
  rw [toNat_lastClosed, toNat_lastClosed]
  exact Nat.sub_le_sub_right later 1

end TtlStore.Calendar
