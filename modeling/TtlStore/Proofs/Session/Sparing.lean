import TtlStore.Proofs.Session.Completion

/-!
# Sweeps that leave the store to themselves

Collaborators that never change the store may still set the clock.  With such
collaborators a visit depends only on the entries: every candidate of a sweep
stands under a closed bucket, and in a closed bucket every deadline has passed,
so that an entry answers a candidate as soon as the candidate is the one that
the entry's deadline makes.  The time of the visit drops out of it, and with it
whatever the collaborators do to the clock.
-/

namespace TtlStore

variable {V R S : Type}

/-! ## Entries without their index -/

namespace Store

/-- The same entries in the same shards by the same calendar, whatever the indexes note. -/
structure SameEntries (left right : Store V) : Prop where
  shards_eq : left.shards = right.shards
  calendar_eq : left.index.calendar = right.index.calendar

variable {left right : Store V}

theorem SameEntries.lookup_eq (same : left.SameEntries right) (key : Key) :
    left.lookup key = right.lookup key := by
  simp only [lookup, shardOf, shardCount, same.shards_eq]

theorem SameEntries.drop (same : left.SameEntries right) (key : Key) :
    (left.drop key).SameEntries (right.drop key) where
  shards_eq := by
    simp only [Store.drop, shardOf, shardCount, same.shards_eq]
  calendar_eq := same.calendar_eq

/-- Stores with the same entries and the same index are the same. -/
theorem SameEntries.eq
    (same : left.SameEntries right)
    (sameIndex : left.index = right.index) :
    left = right :=
  ext_shards same.shards_eq sameIndex

end Store

/-- The candidates of a closed bucket that an entry answers are those its deadline makes. -/
theorem Entry.answers_iff_of_closed
    (entry : Entry V)
    {calendar : Calendar}
    {candidate : Candidate}
    {now : Instant}
    (closed : candidate.bucket ≤ calendar.lastClosed now) :
    entry.answers calendar candidate now = true ↔
      entry.deadline.map (calendar.candidate candidate.key entry.token) =
        some candidate := by
  rcases candidate with ⟨bucket, key, token⟩
  simp only [answers_eq_true_iff, Option.map_eq_some_iff, Calendar.candidate,
    Candidate.mk.injEq, true_and]
  constructor
  · rintro ⟨sameToken, deadline, expires, sameBucket, _⟩
    exact ⟨deadline, expires, sameBucket, sameToken⟩
  · rintro ⟨deadline, expires, sameBucket, sameToken⟩
    subst sameBucket
    exact
      ⟨sameToken, deadline, expires, rfl,
        calendar.lt_of_bucketOf_le_lastClosed closed⟩

/-- What answers a candidate of a closed bucket is a matter of the entries alone. -/
theorem Store.SameEntries.answering?_eq
    {left right : Store V}
    (same : left.SameEntries right)
    {candidate : Candidate}
    {now later : Instant}
    (closed : candidate.bucket ≤ left.index.calendar.lastClosed now)
    (closedLater : candidate.bucket ≤ left.index.calendar.lastClosed later) :
    left.answering? candidate now = right.answering? candidate later := by
  rw [answering?, answering?, same.lookup_eq, ← same.calendar_eq]
  congr 1
  funext entry
  rw [Bool.eq_iff_iff]
  exact
    (entry.answers_iff_of_closed closed).trans
      (entry.answers_iff_of_closed closedLater).symm

/-! ## Visits -/

/-- No collaborator of a sweep changes a store, though it may set the clock. -/
structure SweepHooks.Sparing (hooks : SweepHooks V R) : Prop where
  policy :
    ∀ number key session,
      (hooks.policy number key session).1.store = session.store
  callback :
    ∀ callback, hooks.callback = some callback →
      ∀ number item session,
        (callback number item session).1.store = session.store

/-- What was evicted, and for which candidate. -/
def Notice.eviction (notice : Notice V R) : Candidate × Item V :=
  (notice.candidate, notice.item)

namespace Session

theorem eviction_announce
    (session : Session V)
    (hooks : SweepHooks V R)
    (number : Nat)
    (candidate : Candidate)
    (item : Item V) :
    (session.announce hooks number candidate item).2.eviction =
      (candidate, item) := by
  rcases hooks with ⟨policy, callback⟩
  cases callback <;> rfl

theorem store_announce_of_sparing
    {hooks : SweepHooks V R}
    (sparing : hooks.Sparing)
    (session : Session V)
    (number : Nat)
    (candidate : Candidate)
    (item : Item V) :
    (session.announce hooks number candidate item).1.store =
      session.store := by
  rcases hooks with ⟨policy, callback⟩
  have policySpares := sparing.policy number candidate.key session
  cases callback with
  | none => exact policySpares
  | some callback =>
      have callbackSpares :=
        sparing.callback callback rfl number item
          (policy number candidate.key session).1
      exact callbackSpares.trans policySpares

/-- An answered candidate costs the store its entry, and nothing else if collaborators spare it. -/
theorem exists_visitAll_of_answered
    {hooks : SweepHooks V R}
    (sparing : hooks.Sparing)
    {session : Session V}
    {candidate : Candidate}
    {now : Instant}
    {entry : Entry V}
    (answered : session.store.answering? candidate now = some entry)
    (number : Nat)
    (rest : List Candidate) :
    ∃ next notice,
      next.store = session.store.drop candidate.key ∧
        notice.eviction = (candidate, entry.handedOut candidate.key) ∧
          visitAll hooks now number session (candidate :: rest) =
            let visited := visitAll hooks now (number + 1) next rest
            (visited.1, notice :: visited.2.1,
              visited.2.2.addEvicted) := by
  let dropped := session.withStore (session.store.drop candidate.key)
  let item := entry.handedOut candidate.key
  exact
    ⟨_, _, store_announce_of_sparing sparing dropped number candidate item,
      eviction_announce dropped hooks number candidate item,
      visitAll_of_answered answered hooks number rest rfl⟩

/-- Visits that left a store, with their notices and counts, came to what other visits came to. -/
structure VisitedAlike
    (store : Store V)
    (notices : List (Notice V R))
    (count : SweepCount)
    (other : Session V × List (Notice V S) × SweepCount) :
    Prop where
  entries : store.SameEntries other.1.store
  evictions_eq :
    notices.map Notice.eviction = other.2.1.map Notice.eviction
  count_eq : count = other.2.2

/--
What candidates of closed buckets come to depends neither on the time nor on
collaborators that spare the store.
-/
theorem visitedAlike
    {left : SweepHooks V R}
    {right : SweepHooks V S}
    (leftSparing : left.Sparing)
    (rightSparing : right.Sparing)
    {now later : Instant}
    (first other : Session V)
    (same : first.store.SameEntries other.store)
    {candidates : List Candidate}
    (closed :
      ∀ candidate ∈ candidates,
        candidate.bucket ≤ first.store.index.calendar.lastClosed now)
    (closedLater :
      ∀ candidate ∈ candidates,
        candidate.bucket ≤ first.store.index.calendar.lastClosed later)
    (number otherNumber : Nat) :
    let visited := visitAll left now number first candidates
    VisitedAlike visited.1.store visited.2.1 visited.2.2
      (visitAll right later otherNumber other candidates) := by
  induction candidates generalizing first other number otherNumber with
  | nil => exact ⟨same, rfl, rfl⟩
  | cons candidate rest induction =>
      rcases List.forall_mem_cons.mp closed with ⟨closedFirst, closedRest⟩
      rcases List.forall_mem_cons.mp closedLater with
        ⟨closedFirstLater, closedRestLater⟩
      have answers :=
        same.answering?_eq closedFirst closedFirstLater
      cases answered : first.store.answering? candidate now with
      | none =>
          rw [answered] at answers
          rw [visitAll_of_unanswered answered,
            visitAll_of_unanswered answers.symm]
          have alike :=
            induction first other same closedRest closedRestLater number
              otherNumber
          exact
            ⟨alike.entries, alike.evictions_eq,
              congrArg SweepCount.addStale alike.count_eq⟩
      | some entry =>
          rw [answered] at answers
          rcases exists_visitAll_of_answered leftSparing answered number
              rest with
            ⟨next, notice, kept, eviction, visited⟩
          rcases exists_visitAll_of_answered rightSparing answers.symm
              otherNumber rest with
            ⟨otherNext, otherNotice, otherKept, otherEviction, otherVisited⟩
          have sameNext : next.store.SameEntries otherNext.store := by
            rw [kept, otherKept]
            exact same.drop candidate.key
          have sameCalendar :
              next.store.index.calendar = first.store.index.calendar :=
            congrArg (·.index.calendar) kept
          rw [← sameCalendar] at closedRest closedRestLater
          have alike :=
            induction next otherNext sameNext closedRest closedRestLater
              (number + 1) (otherNumber + 1)
          rw [visited, otherVisited]
          exact
            { entries := alike.entries
              evictions_eq :=
                congrArg₂ List.cons (eviction.trans otherEviction.symm)
                  alike.evictions_eq
              count_eq := congrArg SweepCount.addEvicted alike.count_eq }

/-- Visiting candidates by collaborators that spare the store leaves the index alone. -/
theorem index_visitAll_of_sparing
    {hooks : SweepHooks V R}
    (sparing : hooks.Sparing)
    (now : Instant)
    (number : Nat)
    (session : Session V)
    (candidates : List Candidate) :
    (visitAll hooks now number session candidates).1.store.index =
      session.store.index := by
  induction candidates generalizing session number with
  | nil => rfl
  | cons candidate rest induction =>
      cases answered : session.store.answering? candidate now with
      | none =>
          rw [visitAll_of_unanswered answered]
          exact induction number session
      | some entry =>
          rcases exists_visitAll_of_answered sparing answered number rest with
            ⟨next, notice, kept, _, visited⟩
          rw [visited, induction (number + 1) next]
          exact (congrArg Store.index kept).trans (Store.index_drop _ _)

/-- The evictions of a series of visits stand in the order of its candidates. -/
theorem sublist_visitAll_of_sparing
    {hooks : SweepHooks V R}
    (sparing : hooks.Sparing)
    (now : Instant)
    (number : Nat)
    (session : Session V)
    (candidates : List Candidate) :
    ((visitAll hooks now number session candidates).2.1.map
      (·.candidate)).Sublist candidates := by
  induction candidates generalizing session number with
  | nil => exact List.Sublist.slnil
  | cons candidate rest induction =>
      cases answered : session.store.answering? candidate now with
      | none =>
          rw [visitAll_of_unanswered answered]
          exact (induction number session).cons candidate
      | some entry =>
          rcases exists_visitAll_of_answered sparing answered number rest with
            ⟨next, notice, _, eviction, visited⟩
          have sameCandidate : notice.candidate = candidate :=
            congrArg Prod.fst eviction
          rw [visited, List.map_cons, sameCandidate]
          exact (induction (number + 1) next).cons_cons candidate

/-- Visiting some candidates and then others is visiting them one after another. -/
theorem visitAll_append
    (hooks : SweepHooks V R)
    (now : Instant)
    (number : Nat)
    (session : Session V)
    (early late : List Candidate) :
    let before := visitAll hooks now number session early
    let after :=
      visitAll hooks now (number + before.2.1.length) before.1 late
    visitAll hooks now number session (early ++ late) =
      (after.1, before.2.1 ++ after.2.1, before.2.2.plus after.2.2) := by
  intro before after
  induction early generalizing session number with
  | nil =>
      simp only [before, after, List.nil_append, visitAll, List.length_nil, Nat.add_zero,
        SweepCount.zero_plus]
  | cons candidate rest induction =>
      rw [List.cons_append]
      cases answered : session.store.answering? candidate now with
      | none =>
          simp only [before, after, visitAll_of_unanswered answered,
            induction, SweepCount.addStale_plus]
          rfl
      | some entry =>
          rcases announced :
              (session.withStore (session.store.drop candidate.key)).announce
                hooks number candidate (entry.handedOut candidate.key) with
            ⟨next, notice⟩
          let visited := visitAll hooks now (number + 1) next rest
          have sameNumber :
              number + 1 + visited.2.1.length =
                number + (visited.2.1.length + 1) := by
            omega
          simp only [before, after,
            visitAll_of_answered answered hooks number _ announced,
            induction, SweepCount.addEvicted_plus, List.length_cons]
          rw [← sameNumber]
          rfl

end Session

end TtlStore
