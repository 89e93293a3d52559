import TtlStore.Proofs.Store.Coverage
import TtlStore.Proofs.Store.Writing

/-!
# Exactness of the index

An index is exact if it is the image of the store: it notes a key with a token
under a bucket exactly if an entry with that token is stored under the key and
its deadline falls into the bucket.  While sweeps are going on, the candidates
they are still to visit belong to the image as well, each of them once and none
of them noted any more.

Every accepted write moves the note of its key from the deadline stored before
to the one stored afterwards, where a key that is not stored has none.  So one
lemma about moving the note of a key of an exact index serves all writes.
-/

namespace TtlStore

namespace Store

variable {V : Type}

/-- The candidate that the entry under a key makes, if there is one and it expires. -/
def candidate? (store : Store V) (key : Key) : Option Candidate :=
  (store.lookup key).bind fun entry =>
    entry.deadline.map (store.index.calendar.candidate key entry.token)

theorem candidate?_eq_some_iff
    (store : Store V)
    (candidate : Candidate) :
    store.candidate? candidate.key = some candidate ↔
      ∃ entry deadline,
        store.lookup candidate.key = some entry ∧
          entry.token = candidate.token ∧
            entry.deadline = some deadline ∧
              store.index.calendar.bucketOf deadline = candidate.bucket := by
  rcases candidate with ⟨bucket, key, token⟩
  simp only [candidate?, Option.bind_eq_some_iff, Option.map_eq_some_iff,
    Calendar.candidate, Candidate.mk.injEq, true_and]
  constructor
  · rintro ⟨entry, stored, deadline, expires, sameBucket, sameToken⟩
    exact ⟨entry, deadline, stored, sameToken, expires, sameBucket⟩
  · rintro ⟨entry, deadline, stored, sameToken, expires, sameBucket⟩
    exact ⟨entry, stored, deadline, expires, sameBucket, sameToken⟩

/--
The notes and the unvisited candidates together are the candidates that stored
entries make, and each of these is in one of the two places and there once.
-/
structure Exact
    (store : Store V)
    (calendar : Calendar)
    (unvisited : List Candidate) :
    Prop where
  calendar_eq : store.index.calendar = calendar
  placed : store.Placed
  image :
    ∀ candidate,
      store.index.Notes candidate ∨ candidate ∈ unvisited ↔
        store.candidate? candidate.key = some candidate
  apart : ∀ candidate ∈ unvisited, ¬ store.index.Notes candidate
  nodup : unvisited.Nodup

variable {store : Store V} {calendar : Calendar}

theorem exact_empty
    (shards : Nat)
    (calendar : Calendar)
    (positive : 0 < shards) :
    (empty shards calendar positive : Store V).Exact calendar [] where
  calendar_eq := rfl
  placed := placed_empty shards calendar positive
  image := by
    intro candidate
    rw [candidate?, lookup_empty, ExpiryIndex.Notes, empty,
      ExpiryIndex.token?_empty]
    simp
  apart := by simp
  nodup := List.nodup_nil

/-- Between sweeps the notes alone are what stored entries make. -/
theorem Exact.notes_iff
    (exact : store.Exact calendar [])
    (candidate : Candidate) :
    store.index.Notes candidate ↔
      store.candidate? candidate.key = some candidate := by
  simpa using exact.image candidate

/-! ## Sweeping -/

/-- Taking the due candidates out of an exact index leaves them to be visited. -/
theorem Exact.takeDue
    {unvisited : List Candidate}
    (exact : store.Exact calendar unvisited)
    (listing : Listing)
    (now : Instant) :
    (store.withIndex (store.index.pending now)).Exact calendar
      ((store.index.due now).candidates listing ++ unvisited) where
  calendar_eq := exact.calendar_eq
  placed := exact.placed.withIndex _
  image := by
    intro candidate
    have parted := store.index.notes_iff_due_or_pending listing now candidate
    have image := exact.image candidate
    rw [parted] at image
    rw [List.mem_append, index_withIndex]
    constructor
    · rintro (pending | due | later)
      · exact image.mp (Or.inl (Or.inr pending))
      · exact image.mp (Or.inl (Or.inl due))
      · exact image.mp (Or.inr later)
    · intro stored
      rcases image.mpr stored with (due | pending) | later
      · exact Or.inr (Or.inl due)
      · exact Or.inl pending
      · exact Or.inr (Or.inr later)
  apart := by
    intro candidate member pending
    rcases List.mem_append.mp member with due | later
    · exact store.index.not_pending_of_mem_due due pending
    · exact
        exact.apart candidate later
          ((store.index.notes_iff_due_or_pending listing now candidate).mpr
            (Or.inr pending))
  nodup := by
    refine
      List.nodup_append.mpr
        ⟨(store.index.due now).nodup_candidates listing, exact.nodup, ?_⟩
    rintro candidate due _ later rfl
    exact
      exact.apart candidate later
        ((store.index.notes_iff_due_or_pending listing now candidate).mpr
          (Or.inl due))

/-- A candidate of a closed bucket is answered, and its eviction keeps the rest exact. -/
theorem Exact.visited
    {candidate : Candidate}
    {rest : List Candidate}
    {now : Instant}
    (exact : store.Exact calendar (candidate :: rest))
    (closed : candidate.bucket ≤ calendar.lastClosed now) :
    ∃ entry,
      store.answering? candidate now = some entry ∧
        (store.drop candidate.key).Exact calendar rest := by
  rcases List.nodup_cons.mp exact.nodup with ⟨fresh, restNodup⟩
  have own := (exact.image candidate).mp (Or.inr List.mem_cons_self)
  rcases (store.candidate?_eq_some_iff candidate).mp own with
    ⟨entry, deadline, stored, sameToken, expires, sameBucket⟩
  rw [exact.calendar_eq] at sameBucket
  have answers : entry.answers store.index.calendar candidate now = true := by
    rw [exact.calendar_eq, Entry.answers_eq_true_iff]
    exact
      ⟨sameToken, deadline, expires, sameBucket,
        calendar.lt_of_bucketOf_le_lastClosed (sameBucket ▸ closed)⟩
  refine
    ⟨entry,
      (store.answering?_eq_some_iff candidate now entry).mpr
        ⟨stored, answers⟩,
      ?_⟩
  refine
    { calendar_eq := exact.calendar_eq
      placed := exact.placed.drop candidate.key
      image := ?_
      apart := fun other member =>
        exact.apart other (List.mem_cons_of_mem candidate member)
      nodup := restNodup }
  intro other
  rw [candidate?, lookup_drop, index_drop]
  by_cases sameKey : candidate.key = other.key
  · -- The key makes no other candidate than the one that is visited.
    rw [if_pos sameKey]
    constructor
    · intro remains
      exfalso
      have made :=
        (exact.image other).mp
          (remains.imp_right (List.mem_cons_of_mem candidate))
      rw [← sameKey, own] at made
      cases made
      rcases remains with noted | later
      · exact exact.apart candidate List.mem_cons_self noted
      · exact fresh later
    · intro made
      cases made
  · rw [if_neg sameKey]
    have different : other ≠ candidate := by
      rintro rfl
      exact sameKey rfl
    have image := exact.image other
    rw [List.mem_cons, or_iff_right different] at image
    exact image

/-! ## Writing -/

/-- A key is noted under no bucket but that of its deadline. -/
theorem Exact.token?_eq_none
    (exact : store.Exact calendar [])
    {key : Key}
    {bucket : Bucket}
    (elsewhere :
      (store.deadline? key).map calendar.bucketOf ≠ some bucket) :
    store.index.token? bucket key = none := by
  rw [Option.eq_none_iff_forall_ne_some]
  intro token noted
  rcases (store.candidate?_eq_some_iff ⟨bucket, key, token⟩).mp
      ((exact.notes_iff ⟨bucket, key, token⟩).mp noted) with
    ⟨entry, deadline, stored, _, expires, sameBucket⟩
  apply elsewhere
  rw [exact.calendar_eq] at sameBucket
  rw [deadline?, stored, Option.bind_some, expires, Option.map_some,
    sameBucket]

/-- Once the note of a key is moved, the key is noted as its new deadline has it. -/
theorem Exact.notes_move
    (exact : store.Exact calendar [])
    (token : Token)
    (new : Option Instant)
    (candidate : Candidate) :
    (store.index.move candidate.key token (store.deadline? candidate.key)
        new).Notes candidate ↔
      new.map (calendar.candidate candidate.key token) =
        some candidate := by
  rcases candidate with ⟨bucket, key, noted⟩
  have struck :
      (store.index.remove key (store.deadline? key)).token? bucket key =
        none := by
    rw [ExpiryIndex.token?_remove, exact.calendar_eq]
    split
    · rfl
    · rename_i elsewhere
      exact exact.token?_eq_none fun here => elsewhere ⟨here, rfl⟩
  rw [ExpiryIndex.Notes, ExpiryIndex.move_eq_add_remove, ExpiryIndex.token?_add,
    struck, ExpiryIndex.calendar_remove, exact.calendar_eq]
  cases new <;> simp [Calendar.candidate]

/--
An operation on one key keeps the index exact if it moves the note of the key to
the deadline of what it leaves there.
-/
theorem Exact.rewrite
    (exact : store.Exact calendar [])
    {key : Key}
    {token : Token}
    {new : Option Instant}
    {changed : Store V}
    (placed : changed.Placed)
    (others :
      ∀ other, key ≠ other → changed.lookup other = store.lookup other)
    (index :
      changed.index =
        store.index.move key token (store.deadline? key) new)
    (made :
      changed.candidate? key = new.map (calendar.candidate key token)) :
    changed.Exact calendar [] := by
  have sameCalendar : changed.index.calendar = store.index.calendar := by
    rw [index, ExpiryIndex.calendar_move]
  refine
    { calendar_eq := sameCalendar.trans exact.calendar_eq
      placed := placed
      image := ?_
      apart := by simp
      nodup := List.nodup_nil }
  intro candidate
  rw [or_iff_left List.not_mem_nil]
  by_cases same : key = candidate.key
  · subst same
    rw [made, index, exact.notes_move]
  · have unaffected :
        changed.candidate? candidate.key = store.candidate? candidate.key := by
      rw [candidate?, candidate?, others _ same, sameCalendar]
    rw [unaffected, index, ExpiryIndex.notes_move_of_ne _ same,
      exact.notes_iff]

theorem candidate?_put
    (store : Store V)
    (key : Key)
    (entry : Entry V)
    (index : ExpiryIndex) :
    ((store.put key entry).withIndex index).candidate? key =
      entry.deadline.map (index.calendar.candidate key entry.token) := by
  rw [candidate?, lookup_withIndex, lookup_put, if_pos rfl]
  rfl

theorem Exact.set
    (exact : store.Exact calendar [])
    {item : Item V}
    (accepted : store.refuses item.key item.token = false) :
    (store.set item).Exact calendar [] := by
  rw [set_eq_move accepted]
  refine
    exact.rewrite ((exact.placed.put item.key item.entry).withIndex _) ?_
      rfl ?_
  · intro other different
    rw [lookup_withIndex, lookup_put, if_neg different]
  · rw [candidate?_put, ExpiryIndex.calendar_move, exact.calendar_eq]
    rfl

theorem Exact.delete
    (exact : store.Exact calendar [])
    {key : Key}
    {entry : Entry V}
    (stored : store.lookup key = some entry) :
    ((store.drop key).withIndex
      (store.index.remove key entry.deadline)).Exact calendar [] := by
  have sameDeadline : store.deadline? key = entry.deadline := by
    rw [deadline?, stored, Option.bind_some]
  rw [← sameDeadline, store.index.remove_eq_move key entry.token]
  refine exact.rewrite ((exact.placed.drop key).withIndex _) ?_ rfl ?_
  · intro other different
    rw [lookup_withIndex, lookup_drop, if_neg different]
  · rw [candidate?, lookup_withIndex, lookup_drop, if_pos rfl]
    rfl

/-! ## Counting -/

/-- The number of stored entries that expire. -/
def expiring (store : Store V) : Nat :=
  store.contents.countP fun (_, entry) => entry.deadline.isSome

/-- An exact index has as many notes as the store has expiring entries. -/
theorem Exact.size_eq
    (exact : store.Exact calendar []) :
    store.index.size = store.expiring := by
  let candidate (stored : Key × Entry V) : Option Candidate :=
    stored.2.deadline.map
      (store.index.calendar.candidate stored.1 stored.2.token)
  have key_of_candidate :
      ∀ stored made, candidate stored = some made → made.key = stored.1 := by
    intro stored made same
    rcases Option.map_eq_some_iff.mp same with ⟨deadline, _, rfl⟩
    rfl
  have nodup : (store.contents.filterMap candidate).Nodup := by
    have distinctKeys := exact.placed.nodup_keys_contents
    rw [List.Nodup, List.pairwise_map] at distinctKeys
    refine distinctKeys.filterMap candidate ?_
    rintro left right different made leftMade other rightMade rfl
    apply different
    rw [← key_of_candidate left made leftMade,
      ← key_of_candidate right made rightMade]
  have perm :
      (store.contents.filterMap candidate).Perm
        (store.index.candidates .ascending) := by
    rw [List.perm_ext_iff_of_nodup nodup (store.index.nodup_candidates _)]
    intro made
    rw [ExpiryIndex.mem_candidates, exact.notes_iff, List.mem_filterMap,
      candidate?, Option.bind_eq_some_iff]
    constructor
    · rintro ⟨⟨key, entry⟩, member, same⟩
      have sameKey : made.key = key := key_of_candidate _ made same
      subst sameKey
      exact ⟨entry, (exact.placed.mem_contents _ _).mp member, same⟩
    · rintro ⟨entry, stored, same⟩
      exact
        ⟨(made.key, entry), (exact.placed.mem_contents _ _).mpr stored, same⟩
  rw [ExpiryIndex.size_eq_length_candidates _ .ascending, ← perm.length_eq,
    List.length_filterMap_eq_countP, expiring]
  congr 1
  funext stored
  exact Option.isSome_map

end Store

end TtlStore
