import TtlStore.Index.Basic

/-!
# The index as a map of buckets and keys

An index is seen through the token it notes for a key under a bucket.  Each
operation is described by what it does to that view: placing and withdrawing
concern one key under one bucket, and taking the due buckets parts the view in
two.
-/

namespace TtlStore.ExpiryIndex

@[simp]
theorem calendar_place
    (index : ExpiryIndex)
    (bucket : Bucket)
    (key : Key)
    (token : Token) :
    (index.place bucket key token).calendar = index.calendar :=
  rfl

@[simp]
theorem calendar_withdraw
    (index : ExpiryIndex)
    (bucket : Bucket)
    (key : Key) :
    (index.withdraw bucket key).calendar = index.calendar :=
  rfl

@[simp]
theorem calendar_pending (index : ExpiryIndex) (now : Instant) :
    (index.pending now).calendar = index.calendar :=
  rfl

@[simp]
theorem calendar_due (index : ExpiryIndex) (now : Instant) :
    (index.due now).calendar = index.calendar :=
  rfl

@[simp]
theorem token?_empty
    (calendar : Calendar)
    (bucket : Bucket)
    (key : Key) :
    (empty calendar).token? bucket key = none := by
  simp [empty, token?]

/-- Placing a key notes its token under its bucket and nothing else. -/
theorem token?_place
    (index : ExpiryIndex)
    (bucket otherBucket : Bucket)
    (key otherKey : Key)
    (token : Token) :
    (index.place bucket key token).token? otherBucket otherKey =
      if bucket = otherBucket ∧ key = otherKey then
        some token
      else
        index.token? otherBucket otherKey := by
  unfold token? place
  by_cases sameBucket : bucket = otherBucket
  · subst sameBucket
    by_cases sameKey : key = otherKey
    · subst sameKey
      simp
    · cases noted : index.buckets[bucket]? <;>
        simp [noted, sameKey, Std.ExtTreeMap.getElem?_insert]
  · simp [sameBucket, Std.ExtTreeMap.getElem?_alter]

/-- Withdrawing a key strikes it under its bucket and nothing else. -/
theorem token?_withdraw
    (index : ExpiryIndex)
    (bucket otherBucket : Bucket)
    (key otherKey : Key) :
    (index.withdraw bucket key).token? otherBucket otherKey =
      if bucket = otherBucket ∧ key = otherKey then
        none
      else
        index.token? otherBucket otherKey := by
  unfold token? withdraw
  by_cases sameBucket : bucket = otherBucket
  · subst sameBucket
    cases noted : index.buckets[bucket]? with
    | none => simp [noted]
    | some keys =>
        have remaining :
            (keys.erase key)[otherKey]? =
              if key = otherKey then none else keys[otherKey]? := by
          simp [Std.ExtTreeMap.getElem?_erase]
        simp only [Std.ExtTreeMap.getElem?_alter_self, noted, true_and]
        by_cases emptied : (keys.erase key).isEmpty
        · rw [if_pos emptied, Option.bind_some, ← remaining,
            Std.ExtTreeMap.isEmpty_iff.mp emptied,
            Std.ExtTreeMap.getElem?_empty]
          rfl
        · rw [if_neg emptied, Option.bind_some, Option.bind_some, remaining]
  · simp [sameBucket, Std.ExtTreeMap.getElem?_alter]

/-- The due part notes what the index notes under closed buckets. -/
theorem token?_due
    (index : ExpiryIndex)
    (now : Instant)
    (bucket : Bucket)
    (key : Key) :
    (index.due now).token? bucket key =
      if bucket ≤ index.calendar.lastClosed now then
        index.token? bucket key
      else
        none := by
  unfold token? due
  by_cases closed : bucket ≤ index.calendar.lastClosed now <;>
    cases noted : index.buckets[bucket]? <;>
      simp [Std.ExtTreeMap.getElem?_filter, Option.filter, noted, closed]

/-- The pending part notes what the index notes under the other buckets. -/
theorem token?_pending
    (index : ExpiryIndex)
    (now : Instant)
    (bucket : Bucket)
    (key : Key) :
    (index.pending now).token? bucket key =
      if bucket ≤ index.calendar.lastClosed now then
        none
      else
        index.token? bucket key := by
  unfold token? pending
  by_cases closed : bucket ≤ index.calendar.lastClosed now
  · have notLater : ¬ index.calendar.lastClosed now < bucket :=
      UInt64.not_lt.mpr closed
    cases noted : index.buckets[bucket]? <;>
      simp [Std.ExtTreeMap.getElem?_filter, Option.filter, noted, closed,
        notLater]
  · have later : index.calendar.lastClosed now < bucket :=
      UInt64.not_le.mp closed
    cases noted : index.buckets[bucket]? <;>
      simp [Std.ExtTreeMap.getElem?_filter, Option.filter, noted, closed,
        later]

end TtlStore.ExpiryIndex
