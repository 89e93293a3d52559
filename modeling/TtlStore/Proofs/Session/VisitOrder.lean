import TtlStore.Proofs.Session.Schedule
import TtlStore.Proofs.Session.Visits
import TtlStore.Proofs.Store.Revision

/-!
# Visiting candidates in any order

A sweep visits what the closed buckets note by bucket and, within a bucket, as
keys are listed.  Collaborators that spare the store could not tell if it went
in another order.  For an entry answers only the candidate that its own token
and deadline make, so a visit takes away nothing that another candidate is
looking for, although one key may be noted under several buckets.  Every
candidate is therefore judged by the store as it was when the sweep began, and
what is dropped in the end is dropped in any order.
-/

namespace TtlStore

variable {V R S : Type}

/-! ## Candidates of one store -/

/-- An entry answers one candidate under its key at most. -/
theorem Entry.eq_of_answers
    {entry : Entry V}
    {calendar : Calendar}
    {candidate other : Candidate}
    {now : Instant}
    (sameKey : candidate.key = other.key)
    (answers : entry.answers calendar candidate now = true)
    (answersOther : entry.answers calendar other now = true) :
    candidate = other := by
  rcases (entry.answers_eq_true_iff calendar candidate now).mp answers with
    ⟨sameToken, deadline, expires, sameBucket, _⟩
  rcases (entry.answers_eq_true_iff calendar other now).mp answersOther with
    ⟨otherToken, otherDeadline, otherExpires, otherBucket, _⟩
  rw [expires] at otherExpires
  cases otherExpires
  rcases candidate with ⟨bucket, key, token⟩
  rcases other with ⟨_, _, _⟩
  cases sameKey
  cases sameToken.symm.trans otherToken
  cases sameBucket.symm.trans otherBucket
  rfl

namespace Store

/-- Evicting for one candidate makes no difference to what answers another. -/
theorem answering?_drop_of_ne
    {store : Store V}
    {candidate other : Candidate}
    {now : Instant}
    {entry : Entry V}
    (answered : store.answering? candidate now = some entry)
    (different : candidate ≠ other) :
    (store.drop candidate.key).answering? other now =
      store.answering? other now := by
  rcases (store.answering?_eq_some_iff candidate now entry).mp answered with
    ⟨stored, answers⟩
  simp only [answering?, lookup_drop, index_drop]
  by_cases sameKey : candidate.key = other.key
  · -- The key is noted twice, but its entry does not answer the other note.
    have unanswered :
        entry.answers store.index.calendar other now = false := by
      rw [← Bool.not_eq_true]
      exact fun answersOther =>
        different (Entry.eq_of_answers sameKey answers answersOther)
    rw [if_pos sameKey, ← sameKey, stored, Option.filter_none,
      Option.filter_some, unanswered]
    rfl
  · rw [if_neg sameKey]

/-- What would be evicted for a candidate. -/
def eviction? (store : Store V) (now : Instant) (candidate : Candidate) :
    Option (Candidate × Item V) :=
  (store.answering? candidate now).map fun entry =>
    (candidate, entry.handedOut candidate.key)

/-- Drop the keys of all that was evicted. -/
def dropAll (store : Store V) (evictions : List (Candidate × Item V)) :
    Store V :=
  evictions.foldl (fun store eviction => store.drop eviction.1.key) store

/-- Keys are dropped in any order. -/
theorem dropAll_perm
    (store : Store V)
    {evictions others : List (Candidate × Item V)}
    (permuted : evictions.Perm others) :
    store.dropAll evictions = store.dropAll others := by
  apply permuted.foldl_eq'
  intro eviction _ other _ store
  exact store.drop_comm eviction.1.key other.1.key

end Store

/-- Counts of as many visits and as many evictions are the same. -/
theorem SweepCount.Tallies.eq
    {count other : SweepCount}
    {visits evictions : Nat}
    (tallies : count.Tallies visits evictions)
    (otherTallies : other.Tallies visits evictions) :
    count = other := by
  have scanned := tallies.scanned_eq.trans otherTallies.scanned_eq.symm
  have evicted := tallies.evicted_eq.trans otherTallies.evicted_eq.symm
  have stale : count.stale = other.stale := by
    have sum := tallies.scanned_eq_add
    have otherSum := otherTallies.scanned_eq_add
    omega
  rcases count with ⟨_, _, _⟩
  cases scanned
  cases evicted
  cases stale
  rfl

/-! ## Visits -/

namespace Session

/--
Of candidates that are all different, each is judged by the store as it was
before the first was visited, if the collaborators spare the store.
-/
theorem visitAll_of_sparing
    {hooks : SweepHooks V R}
    (sparing : hooks.Sparing)
    (now : Instant)
    (number : Nat)
    (session : Session V)
    {candidates : List Candidate}
    (nodup : candidates.Nodup) :
    let evictions := candidates.filterMap (session.store.eviction? now)
    let visited := visitAll hooks now number session candidates
    visited.1.store = session.store.dropAll evictions ∧
      visited.2.1.map Notice.eviction = evictions := by
  induction candidates generalizing number session with
  | nil => exact ⟨rfl, rfl⟩
  | cons candidate rest induction =>
      rcases List.nodup_cons.mp nodup with ⟨fresh, nodupRest⟩
      intro evictions visited
      cases answered : session.store.answering? candidate now with
      | none =>
          have passedOver : session.store.eviction? now candidate = none := by
            rw [Store.eviction?, answered, Option.map_none]
          simp only [evictions, visited, visitAll_of_unanswered answered,
            List.filterMap_cons_none passedOver]
          exact induction number session nodupRest
      | some entry =>
          have evicted :
              session.store.eviction? now candidate =
                some (candidate, entry.handedOut candidate.key) := by
            rw [Store.eviction?, answered, Option.map_some]
          rcases exists_visitAll_of_answered sparing answered number rest with
            ⟨next, notice, kept, told, goesOn⟩
          -- The visits after this one would have found the same before it.
          have sameEvictions :
              rest.filterMap (next.store.eviction? now) =
                rest.filterMap (session.store.eviction? now) := by
            apply List.filterMap_congr
            intro other member
            have different : candidate ≠ other := by
              rintro rfl
              exact fresh member
            rw [Store.eviction?, kept,
              Store.answering?_drop_of_ne answered different, Store.eviction?]
          rcases induction (number + 1) next nodupRest with
            ⟨storeEq, evictionsEq⟩
          rw [sameEvictions] at storeEq evictionsEq
          simp only [evictions, visited, goesOn,
            List.filterMap_cons_some evicted, List.map_cons, told, evictionsEq,
            and_true]
          rw [storeEq, kept]
          rfl

/-- Take the closed buckets out of the index and visit given candidates. -/
def sweepInOrder
    (session : Session V)
    (hooks : SweepHooks V R)
    (order : List Candidate) :
    Session V × Sweep V R :=
  let now := session.clock
  let (due, pending) := session.store.index.takeDue now
  let (last, notices, count) :=
    visitAll hooks now 0
      (session.withStore (session.store.withIndex pending)) order
  (last,
    { taken := due.bucketSizes
      notices := notices
      count := count })

/-- A sweep visits what the closed buckets note as keys are listed. -/
theorem sweep_eq_sweepInOrder
    (session : Session V)
    (hooks : SweepHooks V R) :
    session.sweep hooks =
      session.sweepInOrder hooks
        ((session.store.index.due session.clock).candidates
          session.listing) :=
  rfl

/-- What a sweep comes to is told by the store as it was when the sweep began. -/
theorem sweepInOrder_of_sparing
    {hooks : SweepHooks V R}
    (sparing : hooks.Sparing)
    (session : Session V)
    {order : List Candidate}
    (nodup : order.Nodup) :
    let begun :=
      session.store.withIndex (session.store.index.pending session.clock)
    let evictions := order.filterMap (begun.eviction? session.clock)
    let swept := session.sweepInOrder hooks order
    swept.1.store = begun.dropAll evictions ∧
      swept.2.notices.map Notice.eviction = evictions ∧
      swept.2.count.Tallies order.length evictions.length := by
  intro begun evictions swept
  rcases visitAll_of_sparing sparing session.clock 0
      (session.withStore begun) nodup with
    ⟨storeEq, evictionsEq⟩
  refine ⟨storeEq, evictionsEq, ?_⟩
  have tallies :=
    tallies_visitAll hooks session.clock 0 (session.withStore begun) order
  have sameLength := congrArg List.length evictionsEq
  rw [List.length_map] at sameLength
  rw [sameLength] at tallies
  exact tallies

end Session

/--
The order of visits does not matter.  In any session, whatever its shards hold
and its index notes, let what the closed buckets note be visited in any order,
by any collaborators that spare the store.  Then it comes to the same store as
a sweep by any other such collaborators, with the same buckets taken and the same
counts, and the same is evicted, each time for the same candidate.
-/
theorem visit_order_irrelevant
    (session : Session V)
    (hooks : SweepHooks V R)
    (others : SweepHooks V S)
    (sparing : hooks.Sparing)
    (othersSparing : others.Sparing)
    (order : List Candidate)
    (permuted :
      order.Perm
        ((session.store.index.due session.clock).candidates
          session.listing)) :
    let swept := session.sweep hooks
    let reordered := session.sweepInOrder others order
    reordered.1.store = swept.1.store ∧
      reordered.2.taken = swept.2.taken ∧
      reordered.2.count = swept.2.count ∧
      (reordered.2.notices.map Notice.eviction).Perm
        (swept.2.notices.map Notice.eviction) := by
  intro swept reordered
  let due := session.store.index.due session.clock
  let begun :=
    session.store.withIndex (session.store.index.pending session.clock)
  have nodup := due.nodup_candidates session.listing
  have evictionsPerm :
      (order.filterMap (begun.eviction? session.clock)).Perm
        ((due.candidates session.listing).filterMap
          (begun.eviction? session.clock)) :=
    permuted.filterMap _
  rcases session.sweepInOrder_of_sparing sparing nodup with
    ⟨storeEq, evictionsEq, tallies⟩
  rcases session.sweepInOrder_of_sparing othersSparing
      (permuted.nodup_iff.mpr nodup) with
    ⟨otherStoreEq, otherEvictionsEq, otherTallies⟩
  rw [← session.sweep_eq_sweepInOrder hooks] at storeEq evictionsEq tallies
  refine ⟨?_, rfl, ?_, ?_⟩
  · exact
      otherStoreEq.trans
        ((begun.dropAll_perm evictionsPerm).trans storeEq.symm)
  · rw [permuted.length_eq, evictionsPerm.length_eq] at otherTallies
    exact otherTallies.eq tallies
  · rw [evictionsEq, otherEvictionsEq]
    exact evictionsPerm

/-- Every table lists its keys as they descend. -/
def Listing.descending : Listing where
  arrange _ keys := keys.reverse
  arrange_perm _ keys := keys.reverse_perm

/-- What the closed buckets of the session note, out of order. -/
def hauntedOrder : List Candidate :=
  [⟨4, 5, 0⟩, ⟨1, 3, 8⟩, ⟨3, 1, 9⟩, ⟨2, 3, 8⟩, ⟨1, 1, 7⟩]

theorem visit_order_irrelevant_hauntedSession :
    let session := hauntedSession.asOf .descending ⟨45⟩
    let swept := session.sweep (clockSetters ⟨20⟩)
    let reordered := session.sweepInOrder (clockSetters ⟨0⟩) hauntedOrder
    hauntedOrder.Perm
        ((session.store.index.due session.clock).candidates session.listing) ∧
      (clockSetters ⟨20⟩).Sparing ∧
      (clockSetters ⟨0⟩).Sparing ∧
      reordered.1.store = swept.1.store ∧
      reordered.2.count = swept.2.count ∧
      swept.2.count = ⟨5, 3, 2⟩ ∧
      (reordered.2.notices.map Notice.eviction).Perm
        [(⟨1, 1, 7⟩, .lasting 1 7 10),
          (⟨2, 3, 8⟩, .lasting 3 8 30),
          (⟨4, 5, 0⟩, .lasting 5 0 50)] := by
  intro session swept reordered
  have permuted :
      hauntedOrder.Perm
        ((session.store.index.due session.clock).candidates
          session.listing) := by
    decide +kernel
  have evicted :
      swept.2.notices.map Notice.eviction =
        [(⟨1, 1, 7⟩, .lasting 1 7 10),
          (⟨2, 3, 8⟩, .lasting 3 8 30),
          (⟨4, 5, 0⟩, .lasting 5 0 50)] := by
    decide +kernel
  rcases visit_order_irrelevant session (clockSetters ⟨20⟩) (clockSetters ⟨0⟩)
      (sparing_clockSetters _) (sparing_clockSetters _) hauntedOrder
      permuted with
    ⟨sameStore, _, sameCount, sameEvictions⟩
  rw [evicted] at sameEvictions
  exact
    ⟨permuted, sparing_clockSetters _, sparing_clockSetters _, sameStore,
      sameCount, by decide +kernel, sameEvictions⟩

end TtlStore
