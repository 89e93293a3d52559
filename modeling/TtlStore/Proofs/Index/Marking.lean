import TtlStore.Index.Lemmas

/-!
# Marking a key under a bucket

To place a note and to withdraw one is the same kind of thing: a key is marked
under a bucket with a token, or with none.  Of two marks of one key under one
bucket the later counts, and marks of different keys do not interfere, although
their bucket comes with its first note and goes with its last.

It follows that moving the note of a key is striking it and noting the key anew,
in every case, and that notes of different keys are made in any order.
-/

namespace TtlStore

/-! ## Finite maps -/

/-- Changes of a map in different places do not interfere. -/
theorem alter_comm
    {Value : Type}
    (map : Std.ExtTreeMap UInt64 Value)
    {place other : UInt64}
    (different : place ≠ other)
    (first second : Option Value → Option Value) :
    (map.alter place first).alter other second =
      (map.alter other second).alter place first := by
  apply Std.ExtTreeMap.ext_getElem?
  intro sought
  simp only [Std.ExtTreeMap.getElem?_alter, Std.LawfulEqCmp.compare_eq_iff_eq,
    different, Ne.symm different, if_false]
  by_cases here : place = sought
  · subst here
    simp [Ne.symm different]
  · simp [here]

/-- Changing a place of a map twice is changing it once. -/
theorem alter_alter
    {Value : Type}
    (map : Std.ExtTreeMap UInt64 Value)
    (place : UInt64)
    (first second : Option Value → Option Value) :
    (map.alter place first).alter place second =
      map.alter place fun value => second (first value) := by
  apply Std.ExtTreeMap.ext_getElem?
  intro sought
  simp only [Std.ExtTreeMap.getElem?_alter, Std.LawfulEqCmp.compare_eq_iff_eq]
  by_cases here : place = sought
  · subst here
    simp
  · simp [here]

theorem insert_eq_alter
    {Value : Type}
    (map : Std.ExtTreeMap UInt64 Value)
    (place : UInt64)
    (value : Value) :
    map.insert place value = map.alter place fun _ => some value := by
  apply Std.ExtTreeMap.ext_getElem?
  intro sought
  rw [Std.ExtTreeMap.getElem?_insert, Std.ExtTreeMap.getElem?_alter]

theorem erase_eq_alter
    {Value : Type}
    (map : Std.ExtTreeMap UInt64 Value)
    (place : UInt64) :
    map.erase place = map.alter place fun _ => none := by
  apply Std.ExtTreeMap.ext_getElem?
  intro sought
  rw [Std.ExtTreeMap.getElem?_erase, Std.ExtTreeMap.getElem?_alter]

/-! ## Notes -/

/-- The keys of a bucket, which is dropped if there are none. -/
def BucketKeys.kept (keys : BucketKeys) : Option BucketKeys :=
  if keys.isEmpty then none else some keys

/-- A bucket without keys is as good as none. -/
theorem BucketKeys.getD_kept (keys : BucketKeys) :
    keys.kept.getD ∅ = keys := by
  rw [kept]
  split
  · rename_i vacant
    rw [Option.getD_none, Std.ExtTreeMap.isEmpty_iff.mp vacant]
  · rfl

theorem BucketKeys.kept_insert
    (keys : BucketKeys)
    (key : Key)
    (token : Token) :
    BucketKeys.kept (keys.insert key token) =
      some (keys.insert key token) := by
  rw [kept, if_neg]
  intro vacant
  have held : (keys.insert key token)[key]? = some token := by simp
  rw [Std.ExtTreeMap.isEmpty_iff.mp vacant] at held
  simp at held

namespace ExpiryIndex

/-- Note a key under a bucket with a given token, or not at all. -/
def mark
    (index : ExpiryIndex)
    (bucket : Bucket)
    (key : Key)
    (token : Option Token) :
    ExpiryIndex :=
  { index with
    buckets := index.buckets.alter bucket fun keys =>
      BucketKeys.kept ((keys.getD ∅).alter key fun _ => token) }

theorem place_eq_mark
    (index : ExpiryIndex)
    (bucket : Bucket)
    (key : Key)
    (token : Token) :
    index.place bucket key token = index.mark bucket key (some token) := by
  simp only [place, mark, ← insert_eq_alter, BucketKeys.kept_insert]

theorem withdraw_eq_mark
    (index : ExpiryIndex)
    (bucket : Bucket)
    (key : Key) :
    index.withdraw bucket key = index.mark bucket key none := by
  rw [withdraw, mark]
  congr 2
  funext keys
  cases keys with
  | none =>
      have vacant : (∅ : BucketKeys).erase key = ∅ := by simp
      simp only [Option.getD_none, ← erase_eq_alter, vacant]
      rfl
  | some keys =>
      simp only [Option.getD_some, ← erase_eq_alter]
      rfl

/-- Of two notes of a key under one bucket the later one counts. -/
theorem mark_mark
    (index : ExpiryIndex)
    (bucket : Bucket)
    (key : Key)
    (first second : Option Token) :
    (index.mark bucket key first).mark bucket key second =
      index.mark bucket key second := by
  simp only [mark, alter_alter, BucketKeys.getD_kept]

/-- Notes of different keys do not interfere, under one bucket or two. -/
theorem mark_comm
    (index : ExpiryIndex)
    {key other : Key}
    (different : key ≠ other)
    (bucket otherBucket : Bucket)
    (token otherToken : Option Token) :
    (index.mark bucket key token).mark otherBucket other otherToken =
      (index.mark otherBucket other otherToken).mark bucket key token := by
  by_cases sameBucket : bucket = otherBucket
  · subst sameBucket
    simp only [mark, alter_alter, BucketKeys.getD_kept,
      alter_comm _ different]
  · simp only [mark, alter_comm _ sameBucket]

/-- Note a key under the bucket of a deadline, if there is one, with a given token or not at all. -/
def markAt
    (index : ExpiryIndex)
    (key : Key)
    (deadline : Option Instant)
    (token : Option Token) :
    ExpiryIndex :=
  match deadline with
  | none => index
  | some deadline =>
      index.mark (index.calendar.bucketOf deadline) key token

theorem add_eq_markAt
    (index : ExpiryIndex)
    (key : Key)
    (token : Token)
    (deadline : Option Instant) :
    index.add key token deadline = index.markAt key deadline (some token) := by
  cases deadline with
  | none => rfl
  | some deadline => exact index.place_eq_mark _ key token

theorem remove_eq_markAt
    (index : ExpiryIndex)
    (key : Key)
    (deadline : Option Instant) :
    index.remove key deadline = index.markAt key deadline none := by
  cases deadline with
  | none => rfl
  | some deadline => exact index.withdraw_eq_mark _ key

theorem markAt_comm
    (index : ExpiryIndex)
    {key other : Key}
    (different : key ≠ other)
    (deadline otherDeadline : Option Instant)
    (token otherToken : Option Token) :
    (index.markAt key deadline token).markAt other otherDeadline otherToken =
      (index.markAt other otherDeadline otherToken).markAt key deadline
        token := by
  cases deadline with
  | none => rfl
  | some deadline =>
      cases otherDeadline with
      | none => rfl
      | some otherDeadline =>
          exact index.mark_comm different _ _ token otherToken

/-- Moving the note of a key is striking it and then noting the key anew. -/
theorem move_eq_add_remove
    (index : ExpiryIndex)
    (key : Key)
    (token : Token)
    (old new : Option Instant) :
    index.move key token old new = (index.remove key old).add key token new := by
  cases old with
  | none => cases new <;> rfl
  | some old =>
      cases new with
      | none => rfl
      | some new =>
          simp only [move, remove, add, calendar_withdraw]
          split
          · -- Under one bucket, striking the key first makes no difference.
            rename_i sameBucket
            rw [sameBucket, place_eq_mark, place_eq_mark, withdraw_eq_mark,
              mark_mark]
          · rfl

end ExpiryIndex

end TtlStore
