import TtlStore.Proofs.Calendar
import TtlStore.Proofs.Index
import TtlStore.Store.Lemmas

/-!
# Evicting a candidate

Whether a candidate is evicted is decided by the entry that answers it.  If
there is one, it is dropped and handed out; if there is none, nothing happens.
An entry answers the candidate that its own deadline makes of it as soon as the
bucket of that deadline is closed.
-/

namespace TtlStore

variable {V : Type}

/-- What it takes for an entry to answer a candidate. -/
theorem Entry.answers_eq_true_iff
    (entry : Entry V)
    (calendar : Calendar)
    (candidate : Candidate)
    (now : Instant) :
    entry.answers calendar candidate now = true ↔
      entry.token = candidate.token ∧
        ∃ deadline,
          entry.deadline = some deadline ∧
            calendar.bucketOf deadline = candidate.bucket ∧
              deadline < now := by
  rw [answers]
  cases entry.deadline <;> simp

namespace Store

/-- The entry that answers a candidate. -/
def answering? (store : Store V) (candidate : Candidate) (now : Instant) :
    Option (Entry V) :=
  (store.lookup candidate.key).filter
    (·.answers store.index.calendar candidate now)

theorem answering?_eq_some_iff
    (store : Store V)
    (candidate : Candidate)
    (now : Instant)
    (entry : Entry V) :
    store.answering? candidate now = some entry ↔
      store.lookup candidate.key = some entry ∧
        entry.answers store.index.calendar candidate now = true := by
  rw [answering?, Option.filter_eq_some_iff]

theorem evict_of_unanswered
    {store : Store V}
    {candidate : Candidate}
    {now : Instant}
    (unanswered : store.answering? candidate now = none) :
    store.evict candidate now = (store, none) := by
  rw [evict]
  split
  · rfl
  · rename_i entry stored
    rw [if_neg]
    intro answers
    have answered :=
      (store.answering?_eq_some_iff candidate now entry).mpr
        ⟨stored, answers⟩
    rw [unanswered] at answered
    cases answered

theorem evict_of_answered
    {store : Store V}
    {candidate : Candidate}
    {now : Instant}
    {entry : Entry V}
    (answered : store.answering? candidate now = some entry) :
    store.evict candidate now =
      (store.drop candidate.key, some (entry.handedOut candidate.key)) := by
  rcases (store.answering?_eq_some_iff candidate now entry).mp answered with
    ⟨stored, answers⟩
  rw [evict, stored]
  exact if_pos answers

/-- Evicting a candidate removes what answers it and nothing else. -/
theorem lookup_evict_eq_some_iff
    (store : Store V)
    (candidate : Candidate)
    (now : Instant)
    (key : Key)
    (entry : Entry V) :
    (store.evict candidate now).1.lookup key = some entry ↔
      store.lookup key = some entry ∧
        ¬ (candidate.key = key ∧
          entry.answers store.index.calendar candidate now = true) := by
  cases answered : store.answering? candidate now with
  | none =>
      rw [evict_of_unanswered answered]
      constructor
      · intro stored
        refine ⟨stored, ?_⟩
        rintro ⟨rfl, answers⟩
        have found :=
          (store.answering?_eq_some_iff candidate now entry).mpr
            ⟨stored, answers⟩
        rw [answered] at found
        cases found
      · exact fun stored => stored.1
  | some evicted =>
      rw [evict_of_answered answered]
      rcases (store.answering?_eq_some_iff candidate now evicted).mp answered
        with ⟨present, answers⟩
      rw [lookup_drop]
      by_cases same : candidate.key = key
      · subst same
        rw [if_pos rfl, present]
        constructor
        · intro stored
          cases stored
        · rintro ⟨stored, refuses⟩
          cases stored
          exact absurd ⟨rfl, answers⟩ refuses
      · simp [same]

/-- What is handed out is what the removed entry was stored as. -/
theorem mem_evict
    (store : Store V)
    (candidate : Candidate)
    (now : Instant)
    (item : Item V) :
    item ∈ (store.evict candidate now).2.toList ↔
      ∃ entry,
        store.lookup item.key = some entry ∧
          (candidate.key = item.key ∧
              entry.answers store.index.calendar candidate now = true) ∧
            item = entry.handedOut item.key := by
  constructor
  · intro handed
    cases answered : store.answering? candidate now with
    | none =>
        rw [evict_of_unanswered answered] at handed
        cases handed
    | some entry =>
        rw [evict_of_answered answered, Option.toList_some,
          List.mem_singleton] at handed
        subst handed
        rcases (store.answering?_eq_some_iff candidate now entry).mp answered
          with ⟨stored, answers⟩
        exact ⟨entry, stored, ⟨rfl, answers⟩, rfl⟩
  · rintro ⟨entry, stored, ⟨sameKey, answers⟩, handed⟩
    rw [← sameKey] at stored handed
    have answered :=
      (store.answering?_eq_some_iff candidate now entry).mpr
        ⟨stored, answers⟩
    rw [evict_of_answered answered, handed]
    exact List.mem_cons_self

/-- An entry answers its own candidate once the bucket of its deadline is closed. -/
theorem answers_of_closed
    (calendar : Calendar)
    (key : Key)
    (entry : Entry V)
    {deadline now : Instant}
    (expires : entry.deadline = some deadline)
    (closed : calendar.bucketOf deadline ≤ calendar.lastClosed now) :
    entry.answers calendar
      (calendar.candidate key entry.token deadline) now = true := by
  rw [Entry.answers_eq_true_iff]
  exact
    ⟨rfl, deadline, expires, rfl,
      calendar.lt_of_bucketOf_le_lastClosed closed⟩

end Store

end TtlStore
