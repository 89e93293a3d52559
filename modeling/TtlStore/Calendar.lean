import TtlStore.Time.Basic

/-!
# Calendars of expiry buckets

A calendar divides the time after its epoch into buckets of equal width,
numbered from one: bucket `n` covers the instants from `n - 1` to `n` widths
after the epoch, its end excluded.  Earlier instants fall into bucket one, and
all instants too late for a smaller number share the last 64-bit number.

A bucket is closed at an instant once the whole of it lies in the past, that
is, once the instant falls into a later bucket.
-/

namespace TtlStore

/-- The number of a bucket. -/
abbrev Bucket := UInt64

/-- An epoch and a positive bucket width. -/
structure Calendar where
  epoch : Instant
  width : Duration
  width_pos : 0 < width.nanoseconds

namespace Calendar

/-- The calendar of a given width, which is raised to a nanosecond if it is zero. -/
def ofWidth (epoch : Instant) (width : Duration) : Calendar where
  epoch := epoch
  width := max width ⟨1⟩
  width_pos := by
    simp only [Duration.nanoseconds_max]
    omega

/-- The complete bucket widths between the epoch and an instant. -/
def completeWidths (calendar : Calendar) (instant : Instant) : Nat :=
  (instant.elapsedSince calendar.epoch).nanoseconds /
    calendar.width.nanoseconds

/-- The bucket into which an instant falls. -/
def bucketOf (calendar : Calendar) (instant : Instant) : Bucket :=
  UInt64.ofNat (min (calendar.completeWidths instant + 1) (UInt64.size - 1))

/-- The newest bucket that is closed at an instant, or zero if none is. -/
def lastClosed (calendar : Calendar) (now : Instant) : Bucket :=
  calendar.bucketOf now - 1

theorem toNat_bucketOf (calendar : Calendar) (instant : Instant) :
    (calendar.bucketOf instant).toNat =
      min (calendar.completeWidths instant + 1) (UInt64.size - 1) := by
  apply UInt64.toNat_ofNat_of_lt'
  change min _ (UInt64.size - 1) < UInt64.size
  simp only [UInt64.size]
  omega

theorem bucketOf_pos (calendar : Calendar) (instant : Instant) :
    0 < (calendar.bucketOf instant).toNat := by
  rw [toNat_bucketOf]
  simp only [UInt64.size]
  omega

/-- The newest closed bucket precedes the current one, without wrapping. -/
theorem toNat_lastClosed (calendar : Calendar) (now : Instant) :
    (calendar.lastClosed now).toNat =
      (calendar.bucketOf now).toNat - 1 := by
  have positive := calendar.bucketOf_pos now
  unfold lastClosed
  rw [UInt64.toNat_sub_of_le]
  · rfl
  · rw [UInt64.le_iff_toNat_le]
    exact positive

end Calendar

end TtlStore
