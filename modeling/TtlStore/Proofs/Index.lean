import Mathlib.Data.List.Nodup
import TtlStore.Proofs.Calendar
import TtlStore.Proofs.Index.Marking

/-!
# What an index notes

An index notes a candidate if it notes the candidate's token for its key under
its bucket.  Adding, removing and moving a key concern that key alone: adding
notes it, removing strikes it, and moving does both, so that a key is noted
under the bucket of its new deadline whatever was noted before.

Taking the due buckets parts an index.  Taking them at one instant and then at a
later one takes the same notes, in the same order, as taking them at the later
one alone, and leaves nothing to be taken at the earlier one.  All of this holds
whatever the order is in which the keys of a bucket are listed.
-/

namespace TtlStore

/-- The candidate as which a key is noted under the bucket of its deadline. -/
def Calendar.candidate
    (calendar : Calendar)
    (key : Key)
    (token : Token)
    (deadline : Instant) :
    Candidate where
  bucket := calendar.bucketOf deadline
  key := key
  token := token

/-- The order of candidates by bucket and, within a bucket, by key. -/
def Candidate.Precedes (left right : Candidate) : Prop :=
  left.bucket < right.bucket ∨
    left.bucket = right.bucket ∧ left.key < right.key

namespace ExpiryIndex

/-- The index notes a candidate. -/
def Notes (index : ExpiryIndex) (candidate : Candidate) : Prop :=
  index.token? candidate.bucket candidate.key = some candidate.token

@[simp]
theorem calendar_add
    (index : ExpiryIndex)
    (key : Key)
    (token : Token)
    (deadline : Option Instant) :
    (index.add key token deadline).calendar = index.calendar := by
  cases deadline <;> rfl

@[simp]
theorem calendar_remove
    (index : ExpiryIndex)
    (key : Key)
    (deadline : Option Instant) :
    (index.remove key deadline).calendar = index.calendar := by
  cases deadline <;> rfl

@[simp]
theorem calendar_move
    (index : ExpiryIndex)
    (key : Key)
    (token : Token)
    (old new : Option Instant) :
    (index.move key token old new).calendar = index.calendar := by
  cases old <;> cases new <;> simp only [move]
  · rfl
  · rfl
  · split <;> rfl

theorem token?_add
    (index : ExpiryIndex)
    (key otherKey : Key)
    (token : Token)
    (deadline : Option Instant)
    (bucket : Bucket) :
    (index.add key token deadline).token? bucket otherKey =
      if deadline.map index.calendar.bucketOf = some bucket ∧
          key = otherKey then
        some token
      else
        index.token? bucket otherKey := by
  cases deadline with
  | none => simp [add]
  | some deadline => simp [add, token?_place]

theorem token?_remove
    (index : ExpiryIndex)
    (key otherKey : Key)
    (deadline : Option Instant)
    (bucket : Bucket) :
    (index.remove key deadline).token? bucket otherKey =
      if deadline.map index.calendar.bucketOf = some bucket ∧
          key = otherKey then
        none
      else
        index.token? bucket otherKey := by
  cases deadline with
  | none => simp [remove]
  | some deadline => simp [remove, token?_withdraw]

/-- Removing a key is moving it to no deadline, whatever token it is to be noted with. -/
theorem remove_eq_move
    (index : ExpiryIndex)
    (key : Key)
    (token : Token)
    (old : Option Instant) :
    index.remove key old = index.move key token old none := by
  cases old <;> rfl

/-- Adding a key is moving it from no deadline. -/
theorem add_eq_move
    (index : ExpiryIndex)
    (key : Key)
    (token : Token)
    (new : Option Instant) :
    index.add key token new = index.move key token none new := by
  cases new <;> rfl

/-- After moving a key, it is noted under the bucket of its new deadline. -/
theorem notes_move
    (index : ExpiryIndex)
    (key : Key)
    (token : Token)
    (old : Option Instant)
    (deadline : Instant) :
    (index.move key token old (some deadline)).Notes
      (index.calendar.candidate key token deadline) := by
  simp [Notes, Calendar.candidate, move_eq_add_remove, token?_add]

theorem notes_add
    (index : ExpiryIndex)
    (key : Key)
    (token : Token)
    (deadline : Instant) :
    (index.add key token (some deadline)).Notes
      (index.calendar.candidate key token deadline) := by
  simp [Notes, Calendar.candidate, token?_add]

/-! ## Other keys -/

variable {candidate : Candidate}

theorem notes_add_of_ne
    (index : ExpiryIndex)
    {key : Key}
    (different : key ≠ candidate.key)
    (token : Token)
    (deadline : Option Instant) :
    (index.add key token deadline).Notes candidate ↔
      index.Notes candidate := by
  simp [Notes, token?_add, different]

theorem notes_remove_of_ne
    (index : ExpiryIndex)
    {key : Key}
    (different : key ≠ candidate.key)
    (deadline : Option Instant) :
    (index.remove key deadline).Notes candidate ↔
      index.Notes candidate := by
  simp [Notes, token?_remove, different]

theorem notes_move_of_ne
    (index : ExpiryIndex)
    {key : Key}
    (different : key ≠ candidate.key)
    (token : Token)
    (old new : Option Instant) :
    (index.move key token old new).Notes candidate ↔
      index.Notes candidate := by
  simp [Notes, move_eq_add_remove, token?_add, token?_remove, different]

/-! ## The list of notes -/

/-- The notes of an index as a list are what it notes. -/
theorem mem_candidates
    (index : ExpiryIndex)
    (listing : Listing)
    (candidate : Candidate) :
    candidate ∈ index.candidates listing ↔ index.Notes candidate := by
  rcases candidate with ⟨bucket, key, token⟩
  simp only [candidates, Notes, token?, List.mem_flatMap, List.mem_map,
    Option.bind_eq_some_iff, Prod.exists, Listing.mem_entries,
    Std.ExtTreeMap.mem_toList_iff_getElem?_eq_some]
  constructor
  · rintro ⟨_, keys, noted, _, _, held, same⟩
    cases same
    exact ⟨keys, noted, held⟩
  · rintro ⟨keys, noted, held⟩
    exact ⟨bucket, keys, noted, key, token, held, rfl⟩

/-- No note is listed twice. -/
theorem nodup_candidates (index : ExpiryIndex) (listing : Listing) :
    (index.candidates listing).Nodup := by
  have distinctBuckets :
      index.buckets.toList.Pairwise fun left right => left.1 ≠ right.1 := by
    rw [← List.pairwise_map, Std.ExtTreeMap.map_fst_toList_eq_keys]
    exact Std.ExtTreeMap.nodup_keys
  rw [candidates, List.nodup_flatMap]
  constructor
  · rintro ⟨bucket, keys⟩ _
    apply List.Nodup.of_map (·.key)
    rw [List.map_map]
    exact listing.nodup_keys_entries (.bucket bucket) keys
  · refine distinctBuckets.imp ?_
    intro left right different candidate leftMember rightMember
    rcases List.mem_map.mp leftMember with ⟨_, _, rfl⟩
    rcases List.mem_map.mp rightMember with ⟨_, _, same⟩
    exact different (congrArg Candidate.bucket same).symm

/-- Whatever the listing, the candidates of an index stand by bucket. -/
theorem pairwise_bucket_candidates (index : ExpiryIndex) (listing : Listing) :
    (index.candidates listing).Pairwise fun left right =>
      left.bucket ≤ right.bucket := by
  rw [candidates, List.pairwise_flatMap]
  constructor
  · rintro ⟨bucket, keys⟩ _
    rw [List.pairwise_map]
    exact List.pairwise_of_forall fun _ _ => UInt64.le_refl bucket
  · refine Std.ExtTreeMap.ordered_keys_toList.imp ?_
    intro left right before candidate member other otherMember
    rcases List.mem_map.mp member with ⟨_, _, rfl⟩
    rcases List.mem_map.mp otherMember with ⟨_, _, rfl⟩
    exact UInt64.le_of_lt (Std.compare_eq_lt.mp before)

/-- If keys are listed as they ascend, candidates stand by bucket and key. -/
theorem pairwise_candidates (index : ExpiryIndex) :
    (index.candidates .ascending).Pairwise Candidate.Precedes := by
  simp only [candidates, Listing.entries_ascending]
  rw [List.pairwise_flatMap]
  constructor
  · rintro ⟨bucket, keys⟩ _
    apply List.Pairwise.map _ _ Std.ExtTreeMap.ordered_keys_toList
    intro left right before
    exact Or.inr ⟨rfl, Std.compare_eq_lt.mp before⟩
  · refine Std.ExtTreeMap.ordered_keys_toList.imp ?_
    intro left right before candidate member other otherMember
    rcases List.mem_map.mp member with ⟨_, _, rfl⟩
    rcases List.mem_map.mp otherMember with ⟨_, _, rfl⟩
    exact Or.inl (Std.compare_eq_lt.mp before)

/-- The size of an index is the number of its notes. -/
theorem size_eq_length_candidates (index : ExpiryIndex) (listing : Listing) :
    index.size = (index.candidates listing).length := by
  rw [candidates, List.length_flatMap, size, bucketSizes, List.sum]
  simp only [List.map_map, List.length_map, Listing.length_entries]
  rfl

/-! ## Taking the due buckets -/

/-- What an index notes is parted into due candidates and pending notes. -/
theorem notes_iff_due_or_pending
    (index : ExpiryIndex)
    (listing : Listing)
    (now : Instant)
    (candidate : Candidate) :
    index.Notes candidate ↔
      candidate ∈ (index.due now).candidates listing ∨
        (index.pending now).Notes candidate := by
  rw [mem_candidates, Notes, Notes, Notes, token?_due, token?_pending]
  by_cases closed : candidate.bucket ≤ index.calendar.lastClosed now <;>
    simp [closed]

/-- What is due is not pending. -/
theorem not_pending_of_mem_due
    (index : ExpiryIndex)
    {listing : Listing}
    {now : Instant}
    (due : candidate ∈ (index.due now).candidates listing) :
    ¬ (index.pending now).Notes candidate := by
  rw [mem_candidates, Notes, token?_due] at due
  rw [Notes, token?_pending]
  split at due
  · rename_i closed
    rw [if_pos closed]
    intro noted
    cases noted
  · cases due

/-- The due candidates stand under closed buckets. -/
theorem bucket_le_of_mem_due
    {index : ExpiryIndex}
    {listing : Listing}
    {now : Instant}
    (due : candidate ∈ (index.due now).candidates listing) :
    candidate.bucket ≤ index.calendar.lastClosed now := by
  rw [mem_candidates, Notes, token?_due] at due
  split at due
  · assumption
  · cases due

/-! ## Taking due buckets more than once -/

/-- The entries up to a bound are those up to an earlier bound, and then those between the two. -/
theorem filter_le_eq_append
    {Value : Type}
    {entries : List (Bucket × Value)}
    (sorted : entries.Pairwise fun left right => left.1 < right.1)
    {low high : Bucket}
    (ordered : low ≤ high) :
    entries.filter (fun entry => decide (entry.1 ≤ high)) =
      entries.filter (fun entry => decide (entry.1 ≤ low)) ++
        (entries.filter (fun entry => decide (low < entry.1))).filter
          fun entry => decide (entry.1 ≤ high) := by
  induction entries with
  | nil => rfl
  | cons head tail induction =>
      rcases List.pairwise_cons.mp sorted with ⟨first, others⟩
      by_cases early : head.1 ≤ low
      · have notAfter : ¬ low < head.1 := UInt64.not_lt.mpr early
        have notBeyond : head.1 ≤ high := UInt64.le_trans early ordered
        simp only [List.filter_cons, early, notAfter, notBeyond, decide_true, decide_false, if_true,
          List.cons_append]
        exact congrArg _ (induction others)
      · -- The head and all that follows it is beyond the first bound.
        have after : ∀ entry ∈ head :: tail, low < entry.1 := by
          intro entry member
          rcases List.mem_cons.mp member with rfl | later
          · exact UInt64.not_le.mp early
          · exact UInt64.lt_trans (UInt64.not_le.mp early) (first entry later)
        have none :
            (head :: tail).filter (fun entry => decide (entry.1 ≤ low)) = [] := by
          apply List.filter_eq_nil_iff.mpr
          intro entry member within
          exact UInt64.not_le.mpr (after entry member) (of_decide_eq_true within)
        have all :
            (head :: tail).filter (fun entry => decide (low < entry.1)) = head :: tail := by
          apply List.filter_eq_self.mpr
          intro entry member
          exact decide_eq_true (after entry member)
        rw [none, all, List.nil_append]

theorem sorted_buckets (index : ExpiryIndex) :
    index.buckets.toList.Pairwise fun left right => left.1 < right.1 := by
  refine Std.ExtTreeMap.ordered_keys_toList.imp ?_
  intro left right before
  exact Std.compare_eq_lt.mp before

theorem toList_due (index : ExpiryIndex) (now : Instant) :
    (index.due now).buckets.toList =
      index.buckets.toList.filter fun entry =>
        decide (entry.1 ≤ index.calendar.lastClosed now) :=
  Std.ExtTreeMap.toList_filter

theorem toList_pending (index : ExpiryIndex) (now : Instant) :
    (index.pending now).buckets.toList =
      index.buckets.toList.filter fun entry =>
        decide (index.calendar.lastClosed now < entry.1) :=
  Std.ExtTreeMap.toList_filter

/-- What is due later is what is due earlier, and then what of the rest is due later. -/
theorem candidates_due_of_le
    (index : ExpiryIndex)
    (listing : Listing)
    {early late : Instant}
    (ordered : early ≤ late) :
    (index.due late).candidates listing =
      (index.due early).candidates listing ++
        ((index.pending early).due late).candidates listing := by
  have split :=
    filter_le_eq_append index.sorted_buckets
      (index.calendar.lastClosed_mono ordered)
  rw [candidates, candidates, candidates, toList_due, toList_due, toList_due, toList_pending,
    calendar_pending, split, List.flatMap_append]

/-- What is pending later is pending earlier. -/
theorem pending_pending
    (index : ExpiryIndex)
    {early late : Instant}
    (ordered : early ≤ late) :
    (index.pending early).pending late = index.pending late := by
  have narrower := index.calendar.lastClosed_mono ordered
  have sameBuckets :
      ((index.pending early).pending late).buckets =
        (index.pending late).buckets := by
    apply Std.ExtTreeMap.toList_inj.mp
    rw [toList_pending, toList_pending, toList_pending, calendar_pending, List.filter_filter]
    apply List.filter_congr
    intro entry _
    rw [← Bool.decide_and, decide_eq_decide]
    constructor
    · exact fun both => both.1
    · exact fun after => ⟨after, UInt64.lt_of_le_of_lt narrower after⟩
  exact congrArg (ExpiryIndex.mk index.calendar) sameBuckets

/-- What is pending later is pending still if time goes back. -/
theorem pending_of_pending
    (index : ExpiryIndex)
    {early late : Instant}
    (ordered : early ≤ late) :
    (index.pending late).pending early = index.pending late := by
  have narrower := index.calendar.lastClosed_mono ordered
  have sameBuckets :
      ((index.pending late).pending early).buckets =
        (index.pending late).buckets := by
    apply Std.ExtTreeMap.toList_inj.mp
    rw [toList_pending, List.filter_eq_self]
    intro entry member
    rw [toList_pending] at member
    have after := of_decide_eq_true (List.mem_filter.mp member).2
    exact decide_eq_true (UInt64.lt_of_le_of_lt narrower after)
  exact congrArg (ExpiryIndex.mk index.calendar) sameBuckets

/-- Of what is pending nothing was due before. -/
theorem due_of_pending
    (index : ExpiryIndex)
    {early late : Instant}
    (ordered : early ≤ late) :
    (index.pending late).due early = empty index.calendar := by
  have narrower := index.calendar.lastClosed_mono ordered
  have noBuckets : ((index.pending late).due early).buckets = ∅ := by
    apply Std.ExtTreeMap.toList_eq_nil_iff.mp
    rw [toList_due, List.filter_eq_nil_iff]
    intro entry member within
    rw [toList_pending] at member
    have after := of_decide_eq_true (List.mem_filter.mp member).2
    have before := of_decide_eq_true within
    exact
      UInt64.not_le.mpr (UInt64.lt_of_le_of_lt narrower after) before
  exact congrArg (ExpiryIndex.mk index.calendar) noBuckets

end ExpiryIndex

end TtlStore
