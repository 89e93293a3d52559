import TtlStore.Proofs.Closing
import TtlStore.Proofs.Index

/-!
# An index without empty buckets

A bucket of an index comes with its first note and goes with its last one, so an
index that has come about by additions, moves, removals and the taking of due
buckets holds no bucket without keys.  Its number of notes is then zero exactly
if it has no bucket, and two such indexes that note the same are the same.

So an index is a finite map from buckets and keys to tokens.  Adding and removing
change it in one place, moving is removing and adding, and taking the due buckets
cuts it in two.
-/

namespace TtlStore

theorem BucketKeys.isEmpty_of_kept
    {keys remaining : BucketKeys}
    (kept : keys.kept = some remaining) :
    remaining.isEmpty = false := by
  rw [BucketKeys.kept] at kept
  split at kept
  · cases kept
  · rename_i held
    cases kept
    exact Bool.not_eq_true _ ▸ held

namespace ExpiryIndex

/-- Every bucket of the index holds a key. -/
def NoEmptyBucket (index : ExpiryIndex) : Prop :=
  ∀ (bucket : Bucket) (keys : BucketKeys),
    index.buckets[bucket]? = some keys → keys.isEmpty = false

/-- The keys noted under a bucket, of which there are none if the index has no such bucket. -/
def keysUnder (index : ExpiryIndex) (bucket : Bucket) : BucketKeys :=
  index.buckets[bucket]?.getD ∅

theorem getElem?_keysUnder
    (index : ExpiryIndex)
    (bucket : Bucket)
    (key : Key) :
    (index.keysUnder bucket)[key]? = index.token? bucket key := by
  rw [keysUnder, token?]
  cases index.buckets[bucket]? <;> simp

/-! ## Indexes without empty buckets -/

section

variable {index other : ExpiryIndex}

/-- The index has a bucket exactly if there are keys to be kept under it. -/
theorem NoEmptyBucket.getElem?_buckets
    (full : index.NoEmptyBucket)
    (bucket : Bucket) :
    index.buckets[bucket]? = (index.keysUnder bucket).kept := by
  rw [keysUnder]
  cases held : index.buckets[bucket]? with
  | none => rfl
  | some keys =>
      rw [Option.getD_some, BucketKeys.kept, if_neg]
      rw [full bucket keys held]
      exact Bool.false_ne_true

/-- Such indexes of one calendar are the same if they note the same. -/
theorem NoEmptyBucket.eq
    (full : index.NoEmptyBucket)
    (otherFull : other.NoEmptyBucket)
    (sameCalendar : index.calendar = other.calendar)
    (sameNotes :
      ∀ bucket key, index.token? bucket key = other.token? bucket key) :
    index = other := by
  have sameKeys (bucket : Bucket) :
      index.keysUnder bucket = other.keysUnder bucket := by
    apply Std.ExtTreeMap.ext_getElem?
    intro key
    rw [getElem?_keysUnder, getElem?_keysUnder, sameNotes]
  have sameBuckets : index.buckets = other.buckets := by
    apply Std.ExtTreeMap.ext_getElem?
    intro bucket
    rw [full.getElem?_buckets, otherFull.getElem?_buckets, sameKeys]
  cases index
  cases other
  cases sameCalendar
  cases sameBuckets
  rfl

theorem noEmptyBucket_empty (calendar : Calendar) :
    (empty calendar).NoEmptyBucket := by
  intro bucket keys held
  simp [empty] at held

/-- Such an index without notes is the empty one. -/
theorem NoEmptyBucket.eq_empty_of_size
    (full : index.NoEmptyBucket)
    (none : index.size = 0) :
    index = empty index.calendar := by
  apply full.eq (noEmptyBucket_empty _) rfl
  intro bucket key
  rw [size_eq_length_candidates _ .ascending, List.length_eq_zero_iff] at none
  rw [token?_empty, Option.eq_none_iff_forall_ne_some]
  intro token noted
  have listed :=
    (index.mem_candidates .ascending ⟨bucket, key, token⟩).mpr noted
  rw [none] at listed
  cases listed

theorem NoEmptyBucket.isEmpty_iff (full : index.NoEmptyBucket) :
    index.isEmpty = true ↔ index.size = 0 := by
  constructor
  · intro vacant
    have noBuckets : index.buckets = ∅ := Std.ExtTreeMap.isEmpty_iff.mp vacant
    rw [size, bucketSizes, noBuckets]
    rfl
  · intro none
    rw [full.eq_empty_of_size none]
    rfl

theorem isEmpty_iff_bucketCount (index : ExpiryIndex) :
    index.isEmpty = true ↔ index.bucketCount = 0 := by
  rw [isEmpty, bucketCount, Std.ExtTreeMap.isEmpty_eq_size_beq_zero,
    beq_iff_eq]

/-! ## What leaves no empty bucket -/

theorem NoEmptyBucket.mark
    (full : index.NoEmptyBucket)
    (bucket : Bucket)
    (key : Key)
    (token : Option Token) :
    (index.mark bucket key token).NoEmptyBucket := by
  intro place keys held
  rw [ExpiryIndex.mark, Std.ExtTreeMap.getElem?_alter] at held
  split at held
  · exact BucketKeys.isEmpty_of_kept held
  · exact full place keys held

theorem NoEmptyBucket.markAt
    (full : index.NoEmptyBucket)
    (key : Key)
    (deadline : Option Instant)
    (token : Option Token) :
    (index.markAt key deadline token).NoEmptyBucket := by
  cases deadline with
  | none => exact full
  | some deadline => exact full.mark _ key token

theorem NoEmptyBucket.add
    (full : index.NoEmptyBucket)
    (key : Key)
    (token : Token)
    (deadline : Option Instant) :
    (index.add key token deadline).NoEmptyBucket := by
  rw [add_eq_markAt]
  exact full.markAt key deadline _

theorem NoEmptyBucket.remove
    (full : index.NoEmptyBucket)
    (key : Key)
    (deadline : Option Instant) :
    (index.remove key deadline).NoEmptyBucket := by
  rw [remove_eq_markAt]
  exact full.markAt key deadline _

theorem NoEmptyBucket.move
    (full : index.NoEmptyBucket)
    (key : Key)
    (token : Token)
    (old new : Option Instant) :
    (index.move key token old new).NoEmptyBucket := by
  rw [move_eq_add_remove]
  exact (full.remove key old).add key token new

theorem NoEmptyBucket.filter
    (full : index.NoEmptyBucket)
    (chosen : Bucket → BucketKeys → Bool) :
    NoEmptyBucket { index with buckets := index.buckets.filter chosen } := by
  intro bucket keys held
  rw [Std.ExtTreeMap.getElem?_filter] at held
  exact full bucket keys (Option.eq_some_of_pfilter_eq_some held)

end

/-! ## Runs -/

/-- What changes an index: notes of keys, and the taking of due buckets. -/
inductive Change where
  | add (key : Key) (token : Token) (deadline : Option Instant)
  | move (key : Key) (token : Token) (old new : Option Instant)
  | remove (key : Key) (deadline : Option Instant)
  | takeDue (now : Instant)

/-- What remains of an index after a change. -/
def change (index : ExpiryIndex) : Change → ExpiryIndex
  | .add key token deadline => index.add key token deadline
  | .move key token old new => index.move key token old new
  | .remove key deadline => index.remove key deadline
  | .takeDue now => (index.takeDue now).2

/-- What remains of an index after changes one after another. -/
def changeAll (index : ExpiryIndex) (changes : List Change) : ExpiryIndex :=
  changes.foldl change index

theorem NoEmptyBucket.change
    {index : ExpiryIndex}
    (full : index.NoEmptyBucket)
    (change : Change) :
    (index.change change).NoEmptyBucket := by
  cases change with
  | add key token deadline => exact full.add key token deadline
  | move key token old new => exact full.move key token old new
  | remove key deadline => exact full.remove key deadline
  | takeDue now => exact full.filter _

theorem NoEmptyBucket.changeAll
    {index : ExpiryIndex}
    (full : index.NoEmptyBucket)
    (changes : List Change) :
    (index.changeAll changes).NoEmptyBucket := by
  induction changes generalizing index with
  | nil => exact full
  | cons change rest induction => exact induction (full.change change)

theorem calendar_changeAll (index : ExpiryIndex) (changes : List Change) :
    (index.changeAll changes).calendar = index.calendar := by
  induction changes generalizing index with
  | nil => rfl
  | cons change rest induction =>
      have step : (index.change change).calendar = index.calendar := by
        cases change with
        | add key token deadline => exact calendar_add index key token deadline
        | move key token old new => exact calendar_move index key token old new
        | remove key deadline => exact calendar_remove index key deadline
        | takeDue now => exact calendar_pending index now
      exact (induction (index.change change)).trans step

/-! ## One key under one bucket -/

/-- To remove a key again changes nothing. -/
theorem remove_remove
    (index : ExpiryIndex)
    (key : Key)
    (deadline : Option Instant) :
    (index.remove key deadline).remove key deadline =
      index.remove key deadline := by
  cases deadline with
  | none => rfl
  | some deadline =>
      let bucket := index.calendar.bucketOf deadline
      show (index.withdraw bucket key).withdraw bucket key =
        index.withdraw bucket key
      rw [withdraw_eq_mark, withdraw_eq_mark, mark_mark]

/-! ## Cutting an index in two -/

/-- The buckets before a bucket, and the others. -/
def cutAt (index : ExpiryIndex) (bucket : Bucket) :
    ExpiryIndex × ExpiryIndex :=
  ({ index with
      buckets := index.buckets.filter fun place _ => decide (place < bucket) },
    { index with
      buckets := index.buckets.filter fun place _ => decide (bucket ≤ place) })

/-- The due buckets are cut off before the bucket after the newest closed one. -/
theorem takeDue_eq_cutAt (index : ExpiryIndex) (now : Instant) :
    index.takeDue now = index.cutAt (index.calendar.lastClosed now + 1) := by
  have before (place : Bucket) :
      place ≤ index.calendar.lastClosed now ↔
        place < index.calendar.lastClosed now + 1 :=
    index.calendar.le_lastClosed_iff_lt_add_one place now
  have after (place : Bucket) :
      index.calendar.lastClosed now < place ↔
        index.calendar.lastClosed now + 1 ≤ place := by
    rw [← UInt64.not_le, before, UInt64.not_lt]
  simp only [takeDue, due, pending, cutAt, before, after]

/-- The notes of an index are those under its due buckets, and then the others. -/
theorem candidates_eq_append
    (index : ExpiryIndex)
    (listing : Listing)
    (now : Instant) :
    index.candidates listing =
      (index.due now).candidates listing ++
        (index.pending now).candidates listing := by
  have within (bucket : Bucket) : bucket ≤ Calendar.lastBucket := by
    have fits := bucket.toNat_lt_size
    rw [UInt64.le_iff_toNat_le, Calendar.toNat_lastBucket]
    omega
  have all (entries : List (Bucket × BucketKeys)) :
      entries.filter (fun entry => decide (entry.1 ≤ Calendar.lastBucket)) =
        entries :=
    List.filter_eq_self.mpr fun entry _ => decide_eq_true (within entry.1)
  have split :=
    filter_le_eq_append index.sorted_buckets
      (within (index.calendar.lastClosed now))
  rw [all, all] at split
  rw [candidates, candidates, candidates, toList_due, toList_pending,
    ← List.flatMap_append, ← split]

theorem size_eq_due_add_pending (index : ExpiryIndex) (now : Instant) :
    index.size = (index.due now).size + (index.pending now).size := by
  simp only [size_eq_length_candidates _ .ascending]
  rw [index.candidates_eq_append .ascending now, List.length_append]

end ExpiryIndex

/--
An index is a finite map from buckets and keys to tokens.  After any changes of an
index that was empty at first, no bucket of it is without keys, so that it has no
bucket exactly if it has no note; and it is the only such index that notes what it
notes.

Adding a key puts its token in the place of the key under the bucket of its
deadline, removing it clears that place, once and for all, and no other place is
touched; moving a key is removing and then adding it, in every case.  Taking the
due buckets cuts the index in two after the newest closed bucket: what was taken
and what remains list the notes of the index in their order, each in one of the two
and as it was.
-/
theorem index_faithful
    (epoch : Instant)
    (width : Duration)
    (changes : List ExpiryIndex.Change) :
    let calendar := Calendar.ofWidth epoch width
    let index := (ExpiryIndex.empty calendar).changeAll changes
    index.calendar = calendar ∧
      index.NoEmptyBucket ∧
      (index.isEmpty = true ↔ index.size = 0) ∧
      (index.size = 0 ↔ index.bucketCount = 0) ∧
      (∀ other : ExpiryIndex,
        other.calendar = calendar →
          other.NoEmptyBucket →
            (∀ bucket key,
              other.token? bucket key = index.token? bucket key) →
              other = index) ∧
      (∀ key token deadline bucket otherKey,
        (index.add key token deadline).token? bucket otherKey =
          if deadline.map calendar.bucketOf = some bucket ∧
              key = otherKey then
            some token
          else
            index.token? bucket otherKey) ∧
      (∀ key deadline bucket otherKey,
        (index.remove key deadline).token? bucket otherKey =
          if deadline.map calendar.bucketOf = some bucket ∧
              key = otherKey then
            none
          else
            index.token? bucket otherKey) ∧
      (∀ key deadline,
        (index.remove key deadline).remove key deadline =
          index.remove key deadline) ∧
      (∀ key token old new,
        index.move key token old new =
          (index.remove key old).add key token new) ∧
      ∀ now,
        let taken := (index.takeDue now).1
        let remaining := (index.takeDue now).2
        index.takeDue now =
            index.cutAt (calendar.lastClosed now + 1) ∧
          taken.NoEmptyBucket ∧
          remaining.NoEmptyBucket ∧
          (∀ bucket key,
            taken.token? bucket key =
              if bucket ≤ calendar.lastClosed now then
                index.token? bucket key
              else
                none) ∧
          (∀ bucket key,
            remaining.token? bucket key =
              if bucket ≤ calendar.lastClosed now then
                none
              else
                index.token? bucket key) ∧
          (∀ listing,
            index.candidates listing =
              taken.candidates listing ++ remaining.candidates listing) ∧
          index.size = taken.size + remaining.size := by
  intro calendar index
  have sameCalendar : index.calendar = calendar :=
    ExpiryIndex.calendar_changeAll _ changes
  have full : index.NoEmptyBucket :=
    (ExpiryIndex.noEmptyBucket_empty calendar).changeAll changes
  rw [← sameCalendar]
  refine
    ⟨rfl, full, full.isEmpty_iff,
      full.isEmpty_iff.symm.trans index.isEmpty_iff_bucketCount, ?_,
      fun key token deadline bucket otherKey =>
        index.token?_add key otherKey token deadline bucket,
      fun key deadline bucket otherKey =>
        index.token?_remove key otherKey deadline bucket,
      index.remove_remove, index.move_eq_add_remove, ?_⟩
  · intro other otherCalendar otherFull sameNotes
    exact otherFull.eq full otherCalendar sameNotes
  · intro now
    exact
      ⟨index.takeDue_eq_cutAt now, full.filter _, full.filter _,
        index.token?_due now, index.token?_pending now,
        fun listing => index.candidates_eq_append listing now,
        index.size_eq_due_add_pending now⟩

/-- When the earlier of two notes is taken, the index is the one that the later makes alone. -/
theorem index_faithful_takenNote :
    let calendar := Calendar.ofWidth ⟨0⟩ ⟨10⟩
    let index :=
      (ExpiryIndex.empty calendar).changeAll
        [.add 1 7 (some ⟨12⟩), .add 2 8 (some ⟨25⟩), .takeDue ⟨21⟩]
    let alone := (ExpiryIndex.empty calendar).add 2 8 (some ⟨25⟩)
    alone.NoEmptyBucket ∧
      alone = index ∧
      index.size = 1 ∧
      index.bucketCount ≠ 0 := by
  intro calendar index alone
  obtain ⟨-, -, -, vacantIff, unique, -⟩ :=
    index_faithful ⟨0⟩ ⟨10⟩
      [.add 1 7 (some ⟨12⟩), .add 2 8 (some ⟨25⟩), .takeDue ⟨21⟩]
  have full : alone.NoEmptyBucket :=
    (ExpiryIndex.noEmptyBucket_empty calendar).add 2 8 (some ⟨25⟩)
  have one : index.size = 1 := by decide +kernel
  refine ⟨full, unique alone rfl full ?_, one, ?_⟩
  · intro bucket key
    have early : calendar.bucketOf ⟨12⟩ = 2 := by decide
    have late : calendar.bucketOf ⟨25⟩ = 3 := by decide
    have closed : calendar.lastClosed ⟨21⟩ = 2 := by decide
    show alone.token? bucket key =
      (ExpiryIndex.pending _ ⟨21⟩).token? bucket key
    rw [ExpiryIndex.token?_pending]
    simp only [alone, ExpiryIndex.change, ExpiryIndex.calendar_add,
      ExpiryIndex.token?_add, ExpiryIndex.token?_empty]
    show
      (if some (calendar.bucketOf ⟨25⟩) = some bucket ∧ 2 = key then
          some 8
        else
          none) =
        if bucket ≤ calendar.lastClosed ⟨21⟩ then
          none
        else if some (calendar.bucketOf ⟨25⟩) = some bucket ∧ 2 = key then
          some 8
        else if some (calendar.bucketOf ⟨12⟩) = some bucket ∧ 1 = key then
          some 7
        else
          none
    rw [early, late, closed]
    grind
  · intro noBucket
    have none : index.size = 0 := vacantIff.mpr noBucket
    rw [one] at none
    cases none

end TtlStore
