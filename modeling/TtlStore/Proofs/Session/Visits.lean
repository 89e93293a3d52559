import TtlStore.Proofs.Session.Ordinary
import TtlStore.Proofs.Session.Sweeping

/-!
# What a sweep evicts, whatever its index notes

The candidates of a sweep and its reading of the clock are fixed before any
collaborator acts, while the store goes on changing under it.  So each visit is
judged by the session that it finds: it evicts only what then has the token of
the candidate and a deadline in the candidate's bucket, and that bucket was
closed when the sweep began.

Nothing is assumed of the index.  It may note keys that are not stored, one key
under several buckets, or wrong tokens, and collaborators may act on it, sweep
and clear.  All that has to be known of them is that they keep the calendar, by
which buckets are told apart, and no action can change that.
-/

namespace TtlStore

variable {V R : Type}

/-! ## The calendar of a session -/

theorem Session.calendar_perform (session : Session V) (command : Command V) :
    (session.perform command).1.store.index.calendar =
      session.store.index.calendar := by
  let Holds (store : Store V) : Prop :=
    store.index.calendar = session.store.index.calendar
  have kept :
      command.ordinary = true → Holds (session.perform command).1.store :=
    fun ordinary =>
      perform_keeps (fun change same => change.calendar_eq.trans same)
        ordinary rfl
  cases command with
  | evict candidate now =>
      exact (session.store.change_evict candidate now).calendar_eq
  | indexAdd key token deadline =>
      exact session.store.index.calendar_add key token deadline
  | indexMove key token old new =>
      exact session.store.index.calendar_move key token old new
  | indexRemove key deadline =>
      exact session.store.index.calendar_remove key deadline
  | _ => exact kept rfl

theorem Moment.Step.calendar_eq
    {moment next : Moment V}
    (step : moment.Step next) :
    next.session.store.index.calendar =
      moment.session.store.index.calendar := by
  cases step with
  | perform session command rest replies outer =>
      exact session.calendar_perform command
  | _ => rfl

/-- Actions of whatever kind keep the calendar. -/
theorem Action.calendar_runAll
    (actions : List (Action V))
    (session : Session V) :
    (runAll actions session).1.store.index.calendar =
      session.store.index.calendar := by
  rcases Moment.exists_after_start_append actions [] session with
    ⟨steps, reached⟩
  let Holds (moment : Moment V) : Prop :=
    moment.session.store.index.calendar = session.store.index.calendar
  have kept : Holds ((Moment.start (actions ++ []) session).after steps) :=
    Moment.Step.after_induction
      (fun step same => step.calendar_eq.trans same) rfl steps
  rw [reached] at kept
  exact kept

/-- The collaborators of a sweep keep the calendar of every session. -/
def SweepHooks.Steady (hooks : SweepHooks V R) : Prop :=
  hooks.Keep
    (fun calendar session => session.store.index.calendar = calendar)
    fun _ => True

theorem Action.steady_hooks
    (policy : Nat → Key → List (Action V))
    (callback : Option (Nat → Item V → List (Action V))) :
    (hooks policy callback).Steady where
  policy calendar number key session same :=
    ⟨(calendar_runAll (policy number key) session).trans same,
      fun _ _ => trivial⟩
  callback := by
    intro react present calendar number item session same
    rcases Option.map_eq_some_iff.mp present with ⟨actions, _, rfl⟩
    exact
      ⟨(calendar_runAll (actions number item) session).trans same,
        fun _ _ => trivial⟩

/-! ## Visits -/

/--
One visit of a sweep: the number of evictions before it, its candidate, the
session as it was found and as it was left, and what was told, if anything.
-/
structure Visit (V R : Type) where
  number : Nat
  candidate : Candidate
  found : Session V
  left : Session V
  notice : Option (Notice V R)

namespace Visit

/-- Nothing changed, and nobody was told anything. -/
structure PassedOver (visit : Visit V R) : Prop where
  unchanged : visit.left = visit.found
  silent : visit.notice = none

/--
The key of an item was dropped; then the policy was told the key, and then the
callback, if there is one, was handed the item.
-/
def Tells
    (visit : Visit V R)
    (hooks : SweepHooks V R)
    (item : Item V) :
    Prop :=
  let afterPolicy :=
    hooks.policy visit.number item.key
      (visit.found.withStore (visit.found.store.drop item.key))
  match hooks.callback with
  | none =>
      visit.left = afterPolicy.1 ∧
        visit.notice = some ⟨visit.candidate, item, afterPolicy.2, none⟩
  | some callback =>
      let afterCallback := callback visit.number item afterPolicy.1
      visit.left = afterCallback.1 ∧
        visit.notice =
          some
            ⟨visit.candidate, item, afterPolicy.2, some afterCallback.2⟩

/-- The entry that was found under the candidate's key was rightly evicted, and told of. -/
structure Evicted
    (visit : Visit V R)
    (hooks : SweepHooks V R)
    (calendar : Calendar)
    (now : Instant)
    (entry : Entry V)
    (deadline : Instant) :
    Prop where
  stored : visit.found.store.lookup visit.candidate.key = some entry
  token_eq : entry.token = visit.candidate.token
  expires : entry.deadline = some deadline
  bucket_eq : calendar.bucketOf deadline = visit.candidate.bucket
  closed : calendar.bucketOf deadline ≤ calendar.bucketOf now - 1
  passed : deadline < now
  tells :
    visit.Tells hooks ⟨visit.candidate.key, entry.token, entry.value, none⟩

/--
A visit evicts what answers its candidate, and passes the candidate over exactly
if nothing does.
-/
def Justified
    (visit : Visit V R)
    (hooks : SweepHooks V R)
    (calendar : Calendar)
    (now : Instant) :
    Prop :=
  (visit.PassedOver ∧
      ∀ entry, visit.found.store.lookup visit.candidate.key = some entry →
        entry.answers calendar visit.candidate now = false) ∨
    ∃ entry deadline, visit.Evicted hooks calendar now entry deadline

/-- An entry whose bucket was not closed when the sweep began is passed over. -/
theorem Justified.passedOver
    {visit : Visit V R}
    {hooks : SweepHooks V R}
    {calendar : Calendar}
    {now : Instant}
    (justified : visit.Justified hooks calendar now)
    {entry : Entry V}
    (stored : visit.found.store.lookup visit.candidate.key = some entry)
    (spared :
      ∀ deadline, entry.deadline = some deadline →
        calendar.lastClosed now < calendar.bucketOf deadline) :
    visit.PassedOver := by
  rcases justified with ⟨passedOver, _⟩ | ⟨other, deadline, evicted⟩
  · exact passedOver
  · have same : entry = other :=
      Option.some.inj (stored.symm.trans evicted.stored)
    subst same
    exact absurd evicted.closed
      (UInt64.not_le.mpr (spared deadline evicted.expires))

/--
The visits follow one another from the first session to the last, and each is
numbered by the evictions before it.
-/
def Chain : Nat → Session V → List (Visit V R) → Session V → Prop
  | _, first, [], last => first = last
  | number, first, visit :: rest, last =>
      visit.number = number ∧ visit.found = first ∧
        Chain (number + visit.notice.toList.length) visit.left rest last

end Visit

/-! ## The visits of a sweep -/

/-- A count of so many visits, of which so many were evictions. -/
structure SweepCount.Tallies
    (count : SweepCount)
    (visits evictions : Nat) :
    Prop where
  scanned_eq : count.scanned = visits
  evicted_eq : count.evicted = evictions
  scanned_eq_add : count.scanned = count.evicted + count.stale

theorem SweepCount.Tallies.addStale
    {count : SweepCount}
    {visits evictions : Nat}
    (tallies : count.Tallies visits evictions) :
    count.addStale.Tallies (visits + 1) evictions where
  scanned_eq := congrArg (· + 1) tallies.scanned_eq
  evicted_eq := tallies.evicted_eq
  scanned_eq_add := congrArg (· + 1) tallies.scanned_eq_add

theorem SweepCount.Tallies.addEvicted
    {count : SweepCount}
    {visits evictions : Nat}
    (tallies : count.Tallies visits evictions) :
    count.addEvicted.Tallies (visits + 1) (evictions + 1) where
  scanned_eq := congrArg (· + 1) tallies.scanned_eq
  evicted_eq := congrArg (· + 1) tallies.evicted_eq
  scanned_eq_add := by
    have sum := tallies.scanned_eq_add
    simp only [SweepCount.addEvicted]
    omega

namespace Session

/-- The visit of a candidate. -/
def visitOf
    (hooks : SweepHooks V R)
    (now : Instant)
    (number : Nat)
    (session : Session V)
    (candidate : Candidate) :
    Visit V R where
  number := number
  candidate := candidate
  found := session
  left := (session.visit hooks now number candidate).1
  notice := (session.visit hooks now number candidate).2

/-- The visits of candidates in order. -/
def visits
    (hooks : SweepHooks V R)
    (now : Instant)
    (number : Nat)
    (session : Session V) :
    List Candidate → List (Visit V R)
  | [] => []
  | candidate :: rest =>
      let visit := visitOf hooks now number session candidate
      visit ::
        visits hooks now (number + visit.notice.toList.length) visit.left rest

variable (hooks : SweepHooks V R) (now : Instant)

theorem map_candidate_visits
    (number : Nat)
    (session : Session V)
    (candidates : List Candidate) :
    (visits hooks now number session candidates).map (·.candidate) =
      candidates := by
  induction candidates generalizing number session with
  | nil => rfl
  | cons candidate rest induction =>
      rw [visits, List.map_cons, induction]
      rfl

/-- Visiting candidates goes from visit to visit and ends where the last one does. -/
theorem chain_visits
    (number : Nat)
    (session : Session V)
    (candidates : List Candidate) :
    Visit.Chain number session (visits hooks now number session candidates)
      (visitAll hooks now number session candidates).1 := by
  induction candidates generalizing number session with
  | nil => rfl
  | cons candidate rest induction =>
      refine ⟨rfl, rfl, ?_⟩
      rw [visitAll]
      rcases visited : session.visit hooks now number candidate with
        ⟨next, _ | notice⟩ <;>
        simp only [visitOf, visited]
      · exact induction number next
      · exact induction (number + 1) next

/-- The notices of a sweep are those of its visits. -/
theorem notices_visits
    (number : Nat)
    (session : Session V)
    (candidates : List Candidate) :
    (visitAll hooks now number session candidates).2.1 =
      (visits hooks now number session candidates).filterMap
        (·.notice) := by
  induction candidates generalizing number session with
  | nil => rfl
  | cons candidate rest induction =>
      rw [visitAll, visits]
      rcases visited : session.visit hooks now number candidate with
        ⟨next, _ | notice⟩
      · rw [List.filterMap_cons_none (by rw [visitOf, visited])]
        simp only [visitOf, visited]
        exact induction number next
      · rw [List.filterMap_cons_some (by rw [visitOf, visited])]
        simp only [visitOf, visited]
        exact congrArg _ (induction (number + 1) next)

/-- Every visit is counted once, as an eviction if it gave notice and as stale otherwise. -/
theorem tallies_visitAll
    (number : Nat)
    (session : Session V)
    (candidates : List Candidate) :
    (visitAll hooks now number session candidates).2.2.Tallies
      candidates.length
      (visitAll hooks now number session candidates).2.1.length := by
  induction candidates generalizing number session with
  | nil => exact ⟨rfl, rfl, rfl⟩
  | cons candidate rest induction =>
      rw [visitAll]
      rcases session.visit hooks now number candidate with
        ⟨next, _ | notice⟩
      · exact (induction number next).addStale
      · exact (induction (number + 1) next).addEvicted

/-- Announcing an eviction tells the collaborators in turn. -/
theorem tells_announce
    (number : Nat)
    (session : Session V)
    (candidate : Candidate)
    (entry : Entry V) :
    let announced :=
      (session.withStore (session.store.drop candidate.key)).announce hooks
        number candidate (entry.handedOut candidate.key)
    (Visit.mk number candidate session announced.1 (some announced.2)).Tells
      hooks (entry.handedOut candidate.key) := by
  rcases hooks with ⟨policy, callback⟩
  cases callback <;> exact ⟨rfl, rfl⟩

variable {now : Instant}

/-- A visit of a candidate of a closed bucket is justified. -/
theorem justified_visitOf
    (number : Nat)
    (session : Session V)
    {candidate : Candidate}
    (closed :
      candidate.bucket ≤ session.store.index.calendar.lastClosed now) :
    (visitOf hooks now number session candidate).Justified hooks
      session.store.index.calendar now := by
  cases answered : session.store.answering? candidate now with
  | none =>
      rw [visitOf, visit_of_unanswered answered]
      refine Or.inl ⟨⟨rfl, rfl⟩, ?_⟩
      intro entry stored
      rw [← Bool.not_eq_true]
      intro answers
      have found :=
        (session.store.answering?_eq_some_iff candidate now entry).mpr
          ⟨stored, answers⟩
      rw [answered] at found
      cases found
  | some entry =>
      rcases (session.store.answering?_eq_some_iff candidate now entry).mp
          answered with
        ⟨stored, answers⟩
      rcases (entry.answers_eq_true_iff _ candidate now).mp answers with
        ⟨sameToken, deadline, expires, sameBucket, passed⟩
      rw [visitOf, visit_of_answered answered]
      refine Or.inr ⟨entry, deadline, ?_⟩
      exact
        { stored := stored
          token_eq := sameToken
          expires := expires
          bucket_eq := sameBucket
          closed := sameBucket ▸ closed
          passed := passed
          tells := tells_announce hooks number session candidate entry }

/-- Steady collaborators leave the calendar to the next visit. -/
theorem calendar_visit
    {hooks : SweepHooks V R}
    (steady : hooks.Steady)
    (number : Nat)
    (session : Session V)
    (candidate : Candidate) :
    (session.visit hooks now number candidate).1.store.index.calendar =
      session.store.index.calendar := by
  cases answered : session.store.answering? candidate now with
  | none => rw [visit_of_unanswered answered]
  | some entry =>
      rw [visit_of_answered answered]
      exact
        (steady.announce rfl number candidate
          (entry.handedOut candidate.key)).1

/-- Whatever collaborators do meanwhile, all visits of a sweep are justified. -/
theorem justified_visits
    {hooks : SweepHooks V R}
    (steady : hooks.Steady)
    (number : Nat)
    (session : Session V)
    {candidates : List Candidate}
    (closed :
      ∀ candidate ∈ candidates,
        candidate.bucket ≤ session.store.index.calendar.lastClosed now) :
    ∀ visit ∈ visits hooks now number session candidates,
      visit.Justified hooks session.store.index.calendar now := by
  induction candidates generalizing number session with
  | nil =>
      intro visit member
      cases member
  | cons candidate rest induction =>
      rcases List.forall_mem_cons.mp closed with ⟨first, others⟩
      have sameCalendar :
          (visitOf hooks now number session
              candidate).left.store.index.calendar =
            session.store.index.calendar :=
        calendar_visit steady number session candidate
      rw [← sameCalendar] at others
      have later :=
        induction
          (number +
            (visitOf hooks now number session candidate).notice.toList.length)
          (visitOf hooks now number session candidate).left others
      rw [sameCalendar] at later
      exact
        List.forall_mem_cons.mpr
          ⟨justified_visitOf hooks number session first, later⟩

end Session

/--
Evictions are justified.  A sweep of any session visits the candidates of the
closed buckets one after another, and each visit evicts, announcing it once,
exactly what the store then holds under the candidate's key with its token and
with a past deadline in its closed bucket.  What does not expire, or only in a
bucket that was not closed when the sweep began, is passed over.
-/
theorem evictions_justified
    (policy : Nat → Key → List (Action V))
    (callback : Option (Nat → Item V → List (Action V)))
    (session : Session V) :
    ∃ (visits : List (Visit V (Reply V))) (sweep : Sweep V (Reply V)),
      ((Action.cleanup policy callback).run session).2 = .swept sweep ∧
        visits.map (·.candidate) =
          (session.store.index.due session.clock).candidates session.listing ∧
        Visit.Chain 0
          (session.withStore
            (session.store.withIndex
              (session.store.index.pending session.clock)))
          visits ((Action.cleanup policy callback).run session).1 ∧
        (∀ visit ∈ visits,
          visit.Justified (Action.hooks policy callback)
            session.store.index.calendar session.clock) ∧
        (∀ visit ∈ visits, ∀ entry,
          visit.found.store.lookup visit.candidate.key = some entry →
            (∀ deadline, entry.deadline = some deadline →
              session.store.index.calendar.lastClosed session.clock <
                session.store.index.calendar.bucketOf deadline) →
              visit.PassedOver) ∧
        sweep.notices = visits.filterMap (·.notice) ∧
        sweep.count.scanned = visits.length ∧
        sweep.count.evicted = sweep.notices.length ∧
        sweep.count.scanned = sweep.count.evicted + sweep.count.stale := by
  let hooks := Action.hooks policy callback
  let begun :=
    session.withStore
      (session.store.withIndex (session.store.index.pending session.clock))
  let due :=
    (session.store.index.due session.clock).candidates session.listing
  have closed :
      ∀ candidate ∈ due,
        candidate.bucket ≤
          begun.store.index.calendar.lastClosed session.clock := by
    intro candidate member
    show candidate.bucket ≤
      session.store.index.calendar.lastClosed session.clock
    exact ExpiryIndex.bucket_le_of_mem_due member
  have justified :=
    Session.justified_visits (Action.steady_hooks policy callback) 0 begun
      closed
  have sameCandidates :=
    Session.map_candidate_visits hooks session.clock 0 begun due
  have tallies :=
    Session.tallies_visitAll hooks session.clock 0 begun due
  rw [Action.run_cleanup]
  refine
    ⟨Session.visits hooks session.clock 0 begun due,
      (session.sweep hooks).2, rfl, sameCandidates,
      Session.chain_visits hooks session.clock 0 begun due, justified, ?_,
      Session.notices_visits hooks session.clock 0 begun due, ?_,
      tallies.evicted_eq, tallies.scanned_eq_add⟩
  · intro visit member entry stored spared
    exact (justified visit member).passedOver stored spared
  · have sameLength := congrArg List.length sameCandidates
    rw [List.length_map] at sameLength
    exact tallies.scanned_eq.trans sameLength.symm

end TtlStore
