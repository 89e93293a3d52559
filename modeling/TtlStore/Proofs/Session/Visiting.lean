import TtlStore.Proofs.Store.Eviction
import TtlStore.Session.Sweep

/-!
# One visit at a time

Visiting candidates goes by what answers the first of them: if nothing does, it
is counted as stale and the rest is visited on the same session; otherwise its
entry is dropped and announced, and the rest is visited on what the
collaborators made of the session.
-/

namespace TtlStore.Session

variable {V R : Type}

theorem visit_of_unanswered
    {session : Session V}
    {candidate : Candidate}
    {now : Instant}
    (unanswered : session.store.answering? candidate now = none)
    (hooks : SweepHooks V R)
    (number : Nat) :
    session.visit hooks now number candidate = (session, none) := by
  rw [visit, Store.evict_of_unanswered unanswered]

theorem visit_of_answered
    {session : Session V}
    {candidate : Candidate}
    {now : Instant}
    {entry : Entry V}
    (answered : session.store.answering? candidate now = some entry)
    (hooks : SweepHooks V R)
    (number : Nat) :
    let announced :=
      (session.withStore (session.store.drop candidate.key)).announce hooks
        number candidate (entry.handedOut candidate.key)
    session.visit hooks now number candidate =
      (announced.1, some announced.2) := by
  rw [visit, Store.evict_of_answered answered]

theorem visitAll_of_unanswered
    {session : Session V}
    {candidate : Candidate}
    {now : Instant}
    (unanswered : session.store.answering? candidate now = none)
    (hooks : SweepHooks V R)
    (number : Nat)
    (rest : List Candidate) :
    visitAll hooks now number session (candidate :: rest) =
      ((visitAll hooks now number session rest).1,
        (visitAll hooks now number session rest).2.1,
        (visitAll hooks now number session rest).2.2.addStale) := by
  rw [visitAll, visit_of_unanswered unanswered]

theorem visitAll_of_answered
    {session : Session V}
    {candidate : Candidate}
    {now : Instant}
    {entry : Entry V}
    (answered : session.store.answering? candidate now = some entry)
    (hooks : SweepHooks V R)
    (number : Nat)
    (rest : List Candidate)
    {next : Session V}
    {notice : Notice V R}
    (announced :
      (session.withStore (session.store.drop candidate.key)).announce hooks
          number candidate (entry.handedOut candidate.key) =
        (next, notice)) :
    visitAll hooks now number session (candidate :: rest) =
      ((visitAll hooks now (number + 1) next rest).1,
        notice :: (visitAll hooks now (number + 1) next rest).2.1,
        (visitAll hooks now (number + 1) next rest).2.2.addEvicted) := by
  rw [visitAll, visit_of_answered answered, announced]

end TtlStore.Session
