import TtlStore.Proofs.Store.Eviction
import TtlStore.Proofs.Store.Placement

/-!
# Coverage of expiring entries

An expiring entry is covered if the index notes it, with its token, under the
bucket of its deadline.  While sweeps are going on it may instead be one of the
candidates that they have taken out of the index and are still to visit, so
coverage is stated relative to a list of such candidates.

Every operation on one key is a change of one of three kinds, each of which
keeps both the placement of keys and the coverage of entries.
-/

namespace TtlStore

namespace Store

variable {V : Type}

/-- Every expiring entry is noted by the index or is among the candidates. -/
def Covered (store : Store V) (candidates : List Candidate) : Prop :=
  ∀ (key : Key) (entry : Entry V) (deadline : Instant),
    store.lookup key = some entry →
      entry.deadline = some deadline →
        store.index.Notes
            (store.index.calendar.candidate key entry.token deadline) ∨
          store.index.calendar.candidate key entry.token deadline ∈
            candidates

/--
What an operation on one key makes of a store: nothing changes, or an entry is
put under the key and noted if it expires, or the key is dropped.  Notes of
other keys stay as they are.
-/
inductive Change (store : Store V) : Store V → Prop where
  | unchanged : Change store store
  | put
      (key : Key)
      (entry : Entry V)
      (index : ExpiryIndex)
      (calendar : index.calendar = store.index.calendar)
      (noted :
        ∀ deadline,
          entry.deadline = some deadline →
            index.Notes
              (store.index.calendar.candidate key entry.token deadline))
      (others :
        ∀ candidate : Candidate,
          key ≠ candidate.key →
            (index.Notes candidate ↔ store.index.Notes candidate)) :
      Change store ((store.put key entry).withIndex index)
  | drop
      (key : Key)
      (index : ExpiryIndex)
      (calendar : index.calendar = store.index.calendar)
      (others :
        ∀ candidate : Candidate,
          key ≠ candidate.key →
            (index.Notes candidate ↔ store.index.Notes candidate)) :
      Change store ((store.drop key).withIndex index)

/-! ## What a change keeps -/

theorem Change.calendar_eq
    {store changed : Store V}
    (change : store.Change changed) :
    changed.index.calendar = store.index.calendar := by
  cases change with
  | unchanged => rfl
  | put key entry index calendar noted others => exact calendar
  | drop key index calendar others => exact calendar

theorem Change.shardCount_eq
    {store changed : Store V}
    (change : store.Change changed) :
    changed.shardCount = store.shardCount := by
  cases change <;> simp

theorem Change.placed
    {store changed : Store V}
    (change : store.Change changed)
    (placed : store.Placed) :
    changed.Placed := by
  cases change with
  | unchanged => exact placed
  | put key entry index calendar noted others =>
      exact (placed.put key entry).withIndex index
  | drop key index calendar others =>
      exact (placed.drop key).withIndex index

theorem Change.covered
    {store changed : Store V}
    (change : store.Change changed)
    {candidates : List Candidate}
    (covered : store.Covered candidates) :
    changed.Covered candidates := by
  intro key entry deadline stored expires
  cases change with
  | unchanged => exact covered key entry deadline stored expires
  | put written writtenEntry index calendar noted others =>
      rw [index_withIndex, calendar]
      rw [lookup_withIndex, lookup_put] at stored
      by_cases same : written = key
      · rw [if_pos same] at stored
        cases stored
        subst same
        exact Or.inl (noted deadline expires)
      · rw [if_neg same] at stored
        rw [others _ same]
        exact covered key entry deadline stored expires
  | drop dropped index calendar others =>
      rw [index_withIndex, calendar]
      rw [lookup_withIndex, lookup_drop] at stored
      by_cases same : dropped = key
      · rw [if_pos same] at stored
        cases stored
      · rw [if_neg same] at stored
        rw [others _ same]
        exact covered key entry deadline stored expires

/-! ## The operations that are changes -/

/-- Storing an item and moving the note of its key is a change. -/
theorem change_move
    (store : Store V)
    (item : Item V)
    (old : Option Instant) :
    store.Change
      ((store.put item.key item.entry).withIndex
        (store.index.move item.key item.token old item.deadline)) := by
  refine Change.put item.key item.entry _ (by simp) ?_ ?_
  · intro deadline expires
    have sameDeadline : item.deadline = some deadline := expires
    rw [sameDeadline]
    exact store.index.notes_move item.key item.token old deadline
  · intro candidate different
    exact store.index.notes_move_of_ne different item.token old item.deadline

theorem change_set (store : Store V) (item : Item V) :
    store.Change (store.set item) := by
  rw [set]
  split
  · refine Change.put item.key item.entry _ (by simp) ?_ ?_
    · intro deadline expires
      have sameDeadline : item.deadline = some deadline := expires
      rw [sameDeadline]
      exact store.index.notes_add item.key item.token deadline
    · intro candidate different
      exact store.index.notes_add_of_ne different item.token item.deadline
  · split
    · exact store.change_move item _
    · exact Change.unchanged

theorem change_update (store : Store V) (item : Item V) :
    store.Change (store.update item).1 := by
  rw [update]
  split
  · exact Change.unchanged
  · split
    · exact store.change_move item _
    · exact Change.unchanged

theorem change_delete (store : Store V) (key : Key) (token : Token) :
    store.Change (store.delete key token).1 := by
  rw [delete]
  split
  · exact Change.unchanged
  · rename_i existing stored
    split
    · refine Change.drop key _ (by simp) ?_
      intro candidate different
      exact store.index.notes_remove_of_ne different existing.deadline
    · exact Change.unchanged

theorem change_evict
    (store : Store V)
    (candidate : Candidate)
    (now : Instant) :
    store.Change (store.evict candidate now).1 := by
  cases answered : store.answering? candidate now with
  | none =>
      rw [evict_of_unanswered answered]
      exact Change.unchanged
  | some entry =>
      rw [evict_of_answered answered]
      exact Change.drop candidate.key store.index rfl fun _ _ => Iff.rfl

/-! ## Coverage through sweeps and clearings -/

theorem covered_empty
    (shards : Nat)
    (calendar : Calendar)
    (positive : 0 < shards)
    (candidates : List Candidate) :
    (empty shards calendar positive : Store V).Covered candidates := by
  intro key entry deadline stored
  simp at stored

theorem Covered.emptyShard
    {store : Store V}
    {candidates : List Candidate}
    (covered : store.Covered candidates)
    (shard : Nat) :
    (store.emptyShard shard).Covered candidates := by
  intro key entry deadline stored expires
  rw [lookup_emptyShard] at stored
  split at stored
  · cases stored
  · exact covered key entry deadline stored expires

/-- Candidates taken out of the index still cover what they covered in it. -/
theorem Covered.takeDue
    {store : Store V}
    {candidates : List Candidate}
    (covered : store.Covered candidates)
    (listing : Listing)
    (now : Instant) :
    (store.withIndex (store.index.pending now)).Covered
      ((store.index.due now).candidates listing ++ candidates) := by
  intro key entry deadline stored expires
  rw [index_withIndex, ExpiryIndex.calendar_pending, List.mem_append]
  rcases covered key entry deadline stored expires with noted | member
  · rw [store.index.notes_iff_due_or_pending listing now] at noted
    rcases noted with due | pending
    · exact Or.inr (Or.inl due)
    · exact Or.inl pending
  · exact Or.inr (Or.inr member)

/--
After the visit of a candidate of a closed bucket, nothing needs it any more:
what it covered has been evicted.
-/
theorem Covered.visited
    {store : Store V}
    {candidate : Candidate}
    {rest : List Candidate}
    {now : Instant}
    (covered : store.Covered (candidate :: rest))
    (closed : candidate.bucket ≤ store.index.calendar.lastClosed now) :
    (store.evict candidate now).1.Covered rest := by
  have change := store.change_evict candidate now
  intro key entry deadline stored expires
  rcases change.covered covered key entry deadline stored expires with
    noted | member
  · exact Or.inl noted
  · rcases List.mem_cons.mp member with same | later
    · -- The entry would have answered the visited candidate and be gone.
      exfalso
      rcases (store.lookup_evict_eq_some_iff candidate now key entry).mp stored
        with ⟨present, unanswered⟩
      apply unanswered
      rw [change.calendar_eq] at same
      subst same
      exact
        ⟨rfl, answers_of_closed store.index.calendar key entry expires closed⟩
    · exact Or.inr later

end Store

end TtlStore
