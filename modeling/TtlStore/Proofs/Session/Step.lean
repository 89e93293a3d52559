import TtlStore.Proofs.Session.Moment
import TtlStore.Proofs.Store.Eviction

/-!
# The kinds of steps

All that one step of a run can do, as one rule for each kind of step.  What a
step keeps is proved by cases on these rules.
-/

namespace TtlStore.Moment

variable {V : Type}

/-- One step of a run, by its kind. -/
inductive Step : Moment V → Moment V → Prop where
  | finished
      (session : Session V)
      (replies : List (Reply V)) :
      Step ⟨session, [], replies, .idle, []⟩ ⟨session, [], replies, .idle, []⟩
  | perform
      (session : Session V)
      (command : Command V)
      (rest : List (Action V))
      (replies : List (Reply V))
      (outer : List (Suspended V)) :
      Step ⟨session, .perform command :: rest, replies, .idle, outer⟩
        ⟨(session.perform command).1, rest,
          replies ++ [(session.perform command).2], .idle, outer⟩
  | sweepBegun
      (session : Session V)
      (policy : Nat → Key → List (Action V))
      (callback : Option (Nat → Item V → List (Action V)))
      (rest : List (Action V))
      (replies : List (Reply V))
      (outer : List (Suspended V)) :
      Step ⟨session, .cleanup policy callback :: rest, replies, .idle, outer⟩
        ⟨session.withStore
            (session.store.withIndex
              (session.store.index.pending session.clock)),
          rest, replies,
          .sweeping (OpenSweep.start session policy callback), outer⟩
  | stale
      (session : Session V)
      (todo : List (Action V))
      (replies : List (Reply V))
      (sweep : OpenSweep V)
      (outer : List (Suspended V))
      (candidate : Candidate)
      (rest : List Candidate)
      (unvisited : sweep.unvisited = candidate :: rest)
      (unanswered :
        session.store.answering? candidate sweep.now = none) :
      Step ⟨session, todo, replies, .sweeping sweep, outer⟩
        ⟨session, todo, replies, .sweeping (sweep.passOver rest), outer⟩
  | evicted
      (session : Session V)
      (todo : List (Action V))
      (replies : List (Reply V))
      (sweep : OpenSweep V)
      (outer : List (Suspended V))
      (candidate : Candidate)
      (rest : List Candidate)
      (entry : Entry V)
      (unvisited : sweep.unvisited = candidate :: rest)
      (answered :
        session.store.answering? candidate sweep.now = some entry) :
      Step ⟨session, todo, replies, .sweeping sweep, outer⟩
        ⟨session.withStore (session.store.drop candidate.key),
          sweep.policy sweep.notices.length candidate.key, [], .idle,
          ⟨todo, replies,
            .policy (sweep.evicting rest) candidate
              (entry.handedOut candidate.key)⟩ :: outer⟩
  | policyDone
      (session : Session V)
      (replies : List (Reply V))
      (todo : List (Action V))
      (earlier : List (Reply V))
      (sweep : OpenSweep V)
      (candidate : Candidate)
      (item : Item V)
      (outer : List (Suspended V))
      (silent : sweep.callback = none) :
      Step
        ⟨session, [], replies, .idle,
          ⟨todo, earlier, .policy sweep candidate item⟩ :: outer⟩
        ⟨session, todo, earlier,
          .sweeping (sweep.announced ⟨candidate, item, replies, none⟩), outer⟩
  | callbackBegun
      (session : Session V)
      (replies : List (Reply V))
      (todo : List (Action V))
      (earlier : List (Reply V))
      (sweep : OpenSweep V)
      (candidate : Candidate)
      (item : Item V)
      (outer : List (Suspended V))
      (react : Nat → Item V → List (Action V))
      (callback : sweep.callback = some react) :
      Step
        ⟨session, [], replies, .idle,
          ⟨todo, earlier, .policy sweep candidate item⟩ :: outer⟩
        ⟨session, react sweep.notices.length item, [], .idle,
          ⟨todo, earlier, .callback sweep candidate item replies⟩ :: outer⟩
  | callbackDone
      (session : Session V)
      (replies : List (Reply V))
      (todo : List (Action V))
      (earlier : List (Reply V))
      (sweep : OpenSweep V)
      (candidate : Candidate)
      (item : Item V)
      (policyReplies : List (Reply V))
      (outer : List (Suspended V)) :
      Step
        ⟨session, [], replies, .idle,
          ⟨todo, earlier, .callback sweep candidate item policyReplies⟩ ::
            outer⟩
        ⟨session, todo, earlier,
          .sweeping
            (sweep.announced ⟨candidate, item, policyReplies, some replies⟩),
          outer⟩
  | sweepDone
      (session : Session V)
      (todo : List (Action V))
      (replies : List (Reply V))
      (sweep : OpenSweep V)
      (outer : List (Suspended V))
      (unvisited : sweep.unvisited = []) :
      Step ⟨session, todo, replies, .sweeping sweep, outer⟩
        ⟨session, todo, replies ++ [.swept sweep.report], .idle, outer⟩
  | clearingBegun
      (session : Session V)
      (callback : Option (Nat → Item V → List (Action V)))
      (rest : List (Action V))
      (replies : List (Reply V))
      (outer : List (Suspended V)) :
      Step ⟨session, .clear callback :: rest, replies, .idle, outer⟩
        ⟨session, rest, replies,
          .clearing (OpenClearing.start session callback), outer⟩
  | drained
      (session : Session V)
      (todo : List (Action V))
      (replies : List (Reply V))
      (clearing : OpenClearing V)
      (outer : List (Suspended V))
      (shard : Nat)
      (rest : List Nat)
      (settled : clearing.drained = [])
      (undrained : clearing.undrained = shard :: rest) :
      Step ⟨session, todo, replies, .clearing clearing, outer⟩
        ⟨session.withStore (session.store.emptyShard shard), todo, replies,
          .clearing
            { clearing with
              undrained := rest
              drained := session.store.shardItems session.listing shard },
          outer⟩
  | released
      (session : Session V)
      (todo : List (Action V))
      (replies : List (Reply V))
      (clearing : OpenClearing V)
      (outer : List (Suspended V))
      (item : Item V)
      (items : List (Item V))
      (left : clearing.drained = item :: items)
      (silent : clearing.callback = none) :
      Step ⟨session, todo, replies, .clearing clearing, outer⟩
        ⟨session, todo, replies,
          .clearing { clearing with drained := items }, outer⟩
  | farewellBegun
      (session : Session V)
      (todo : List (Action V))
      (replies : List (Reply V))
      (clearing : OpenClearing V)
      (outer : List (Suspended V))
      (item : Item V)
      (items : List (Item V))
      (react : Nat → Item V → List (Action V))
      (left : clearing.drained = item :: items)
      (callback : clearing.callback = some react) :
      Step ⟨session, todo, replies, .clearing clearing, outer⟩
        ⟨session, react clearing.farewells.length item, [], .idle,
          ⟨todo, replies, .farewell { clearing with drained := items } item⟩ ::
            outer⟩
  | farewellDone
      (session : Session V)
      (replies : List (Reply V))
      (todo : List (Action V))
      (earlier : List (Reply V))
      (clearing : OpenClearing V)
      (item : Item V)
      (outer : List (Suspended V)) :
      Step
        ⟨session, [], replies, .idle,
          ⟨todo, earlier, .farewell clearing item⟩ :: outer⟩
        ⟨session, todo, earlier,
          .clearing (clearing.handedOver ⟨item, replies⟩), outer⟩
  | clearingDone
      (session : Session V)
      (todo : List (Action V))
      (replies : List (Reply V))
      (clearing : OpenClearing V)
      (outer : List (Suspended V))
      (settled : clearing.drained = [])
      (undrained : clearing.undrained = []) :
      Step ⟨session, todo, replies, .clearing clearing, outer⟩
        ⟨session, todo,
          replies ++ [.cleared clearing.shards clearing.farewells], .idle,
          outer⟩

/-- A sweep goes on by passing over or evicting a candidate, or it ends. -/
theorem step_sweepOn
    (session : Session V)
    (todo : List (Action V))
    (replies : List (Reply V))
    (sweep : OpenSweep V)
    (outer : List (Suspended V)) :
    Step ⟨session, todo, replies, .sweeping sweep, outer⟩
      (sweepOn ⟨session, todo, replies, .sweeping sweep, outer⟩ sweep) := by
  cases unvisited : sweep.unvisited with
  | nil =>
      simp only [sweepOn, unvisited]
      exact Step.sweepDone _ _ _ _ _ unvisited
  | cons candidate rest =>
      cases answering : session.store.answering? candidate sweep.now with
      | none =>
          simp only [sweepOn, unvisited, Store.evict_of_unanswered answering]
          exact Step.stale _ _ _ _ _ _ _ unvisited answering
      | some entry =>
          simp only [sweepOn, unvisited, Store.evict_of_answered answering]
          exact Step.evicted _ _ _ _ _ _ _ _ unvisited answering

/-- A clearing goes on by parting with an item or draining a shard, or it ends. -/
theorem step_clearOn
    (session : Session V)
    (todo : List (Action V))
    (replies : List (Reply V))
    (clearing : OpenClearing V)
    (outer : List (Suspended V)) :
    Step ⟨session, todo, replies, .clearing clearing, outer⟩
      (clearOn ⟨session, todo, replies, .clearing clearing, outer⟩
        clearing) := by
  cases drained : clearing.drained with
  | cons item items =>
      cases callback : clearing.callback with
      | none =>
          simp only [clearOn, drained, callback]
          rw [← callback]
          exact Step.released _ _ _ _ _ _ _ drained callback
      | some react =>
          simp only [clearOn, drained, callback]
          rw [← callback]
          exact Step.farewellBegun _ _ _ _ _ _ _ _ drained callback
  | nil =>
      cases undrained : clearing.undrained with
      | nil =>
          simp only [clearOn, drained, undrained]
          exact Step.clearingDone _ _ _ _ _ drained undrained
      | cons shard rest =>
          simp only [clearOn, drained, undrained]
          exact Step.drained _ _ _ _ _ _ _ drained undrained

/-- A collaborator that is done lets go on what waits for it. -/
theorem step_resume
    (session : Session V)
    (replies : List (Reply V))
    (suspended : Suspended V)
    (outer : List (Suspended V)) :
    Step ⟨session, [], replies, .idle, suspended :: outer⟩
      (resume session replies outer suspended) := by
  rcases suspended with ⟨todo, earlier, wait⟩
  cases wait with
  | policy sweep candidate item =>
      cases callback : sweep.callback with
      | none =>
          simp only [resume, callback]
          exact Step.policyDone _ _ _ _ _ _ _ _ callback
      | some react =>
          simp only [resume, callback]
          exact Step.callbackBegun _ _ _ _ _ _ _ _ _ callback
  | callback sweep candidate item policyReplies =>
      exact Step.callbackDone _ _ _ _ _ _ _ _ _
  | farewell clearing item =>
      exact Step.farewellDone _ _ _ _ _ _ _

/-- The next moment is a step away. -/
theorem step_next (moment : Moment V) : moment.Step moment.next := by
  rcases moment with ⟨session, todo, replies, task, outer⟩
  cases task with
  | sweeping sweep => exact step_sweepOn session todo replies sweep outer
  | clearing clearing =>
      exact step_clearOn session todo replies clearing outer
  | idle =>
      cases todo with
      | cons action rest =>
          cases action with
          | perform command => exact Step.perform _ _ _ _ _
          | cleanup policy callback => exact Step.sweepBegun _ _ _ _ _ _
          | clear callback => exact Step.clearingBegun _ _ _ _ _
      | nil =>
          cases outer with
          | nil => exact Step.finished _ _
          | cons suspended outer =>
              exact step_resume session replies suspended outer

/-- What holds at the start and is kept by every kind of step holds throughout a run. -/
theorem Step.after_induction
    {Holds : Moment V → Prop}
    (kept : ∀ {moment next : Moment V},
      moment.Step next → Holds moment → Holds next)
    {moment : Moment V}
    (holds : Holds moment)
    (steps : Nat) :
    Holds (moment.after steps) :=
  Moment.after_induction
    (fun moment => kept (step_next moment)) holds steps

end TtlStore.Moment
