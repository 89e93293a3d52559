import TtlStore.Proofs.Session.Moment
import TtlStore.Proofs.Session.Visiting

/-!
# The steps of a run complete it

Started on a list of actions, the steps end at the session and the replies that
carrying out the actions at one go gives.  For a sweep this is an induction on
its candidates, and for a clearing on its shards and on the items of each;
that the collaborators complete their actions is supplied by an induction on
actions, which contain those of their collaborators.
-/

namespace TtlStore

namespace Action

variable {V : Type}

/-- What holds of an action whenever it holds of its collaborators' actions holds of all. -/
theorem induction
    {Holds : Action V → Prop}
    (perform : ∀ command, Holds (.perform command))
    (cleanup :
      ∀ policy callback,
        (∀ number key, ∀ action ∈ policy number key, Holds action) →
          (∀ react, callback = some react →
            ∀ number item, ∀ action ∈ react number item, Holds action) →
            Holds (.cleanup policy callback))
    (clear :
      ∀ callback,
        (∀ react, callback = some react →
          ∀ number item, ∀ action ∈ react number item, Holds action) →
          Holds (.clear callback))
    (action : Action V) :
    Holds action := by
  refine
    @Action.rec V Holds
      (fun actions => ∀ action ∈ actions, Holds action)
      (fun callback =>
        ∀ react, callback = some react →
          ∀ number item, ∀ action ∈ react number item, Holds action)
      perform cleanup clear ?_ ?_ ?_ ?_ action
  · intro action member
    cases member
  · intro head tail headHolds tailHolds action member
    rcases List.mem_cons.mp member with rfl | later
    · exact headHolds
    · exact tailHolds action later
  · intro react same
    cases same
  · intro react holds other same
    cases same
    exact holds

theorem runAll_cons
    (action : Action V)
    (rest : List (Action V))
    (session : Session V) :
    runAll (action :: rest) session =
      ((runAll rest (action.run session).1).1,
        (action.run session).2 :: (runAll rest (action.run session).1).2) := by
  rw [runAll]

/-- The steps carry out an action, whatever surrounds it. -/
def Completes (action : Action V) : Prop :=
  ∀ (session : Session V) (rest : List (Action V))
    (replies : List (Reply V)) (outer : List (Suspended V)),
    (Moment.mk session (action :: rest) replies .idle outer).Leads
      (Moment.mk (action.run session).1 rest
        (replies ++ [(action.run session).2]) .idle outer)

/-- Steps that carry out each of some actions carry out all of them. -/
theorem leads_runAll
    {actions : List (Action V)}
    (complete : ∀ action ∈ actions, action.Completes)
    (session : Session V)
    (rest : List (Action V))
    (replies : List (Reply V))
    (outer : List (Suspended V)) :
    (Moment.mk session (actions ++ rest) replies .idle outer).Leads
      (Moment.mk (runAll actions session).1 rest
        (replies ++ (runAll actions session).2) .idle outer) := by
  induction actions generalizing session replies with
  | nil =>
      rw [runAll, List.append_nil]
      exact Moment.Leads.refl _
  | cons action later induction =>
      have first :=
        complete action List.mem_cons_self session (later ++ rest) replies
          outer
      have others :=
        induction
          (fun action member =>
            complete action (List.mem_cons_of_mem _ member))
          (action.run session).1
          (replies ++ [(action.run session).2])
      rw [runAll_cons]
      rw [List.append_assoc, List.singleton_append] at others
      exact first.trans others

theorem completes_perform (command : Command V) :
    (Action.perform command).Completes := by
  intro session rest replies outer
  rw [run]
  exact Moment.Leads.step (Moment.Leads.refl _)

/-- A collaborator's list of actions is carried out with nothing to follow. -/
theorem leads_collaborator
    {actions : List (Action V)}
    (complete : ∀ action ∈ actions, action.Completes)
    (session : Session V)
    (outer : List (Suspended V)) :
    (Moment.mk session actions [] .idle outer).Leads
      (Moment.mk (runAll actions session).1 []
        (runAll actions session).2 .idle outer) := by
  have leads := leads_runAll complete session [] [] outer
  rw [List.append_nil, List.nil_append] at leads
  exact leads

end Action

/-! ## Sweeps -/

namespace SweepCount

theorem zero_plus (count : SweepCount) : zero.plus count = count := by
  simp [plus, zero]

theorem plus_zero (count : SweepCount) : count.plus zero = count := by
  simp [plus, zero]

theorem addStale_plus (left right : SweepCount) :
    left.addStale.plus right = left.plus right.addStale := by
  simp only [plus, addStale, SweepCount.mk.injEq]
  exact ⟨by omega, trivial, by omega⟩

theorem addEvicted_plus (left right : SweepCount) :
    left.addEvicted.plus right = left.plus right.addEvicted := by
  simp only [plus, addEvicted, SweepCount.mk.injEq]
  exact ⟨by omega, by omega, trivial⟩

end SweepCount

namespace OpenSweep

variable {V : Type}

/-- What the collaborators of a sweep do. -/
def hooks (sweep : OpenSweep V) : SweepHooks V (Reply V) :=
  Action.hooks sweep.policy sweep.callback

/-- The sweep after all its candidates have been visited. -/
def visited (sweep : OpenSweep V) (session : Session V) : OpenSweep V :=
  let outcome :=
    Session.visitAll sweep.hooks sweep.now sweep.notices.length session
      sweep.unvisited
  { sweep with
    unvisited := []
    notices := sweep.notices ++ outcome.2.1
    count := sweep.count.plus outcome.2.2 }

/-- All actions of the collaborators of a sweep are carried out by steps. -/
structure Completes (sweep : OpenSweep V) : Prop where
  policy :
    ∀ number key, ∀ action ∈ sweep.policy number key, action.Completes
  callback :
    ∀ react, sweep.callback = some react →
      ∀ number item, ∀ action ∈ react number item, action.Completes

/-- The steps tell the collaborators of an eviction and note what they answer. -/
theorem Completes.leads_announce
    {sweep : OpenSweep V}
    (complete : sweep.Completes)
    (session : Session V)
    (todo : List (Action V))
    (replies : List (Reply V))
    (outer : List (Suspended V))
    (candidate : Candidate)
    (item : Item V)
    {next : Session V}
    {notice : Notice V (Reply V)}
    (announced :
      session.announce sweep.hooks sweep.notices.length candidate item =
        (next, notice)) :
    (Moment.mk session
        (sweep.policy sweep.notices.length candidate.key) [] .idle
        ({ todo := todo
           replies := replies
           wait := .policy sweep candidate item } :: outer)).Leads
      (Moment.mk next todo replies
        (.sweeping (sweep.announced notice)) outer) := by
  have told :=
    Action.leads_collaborator
      (complete.policy sweep.notices.length candidate.key) session
      ({ todo := todo
         replies := replies
         wait := .policy sweep candidate item } :: outer)
  refine told.trans (Moment.Leads.step ?_)
  cases callback : sweep.callback with
  | none =>
      simp only [Session.announce, hooks, Action.hooks, callback,
        Option.map_none, Prod.mk.injEq] at announced
      rcases announced with ⟨rfl, rfl⟩
      simp only [Moment.next, Moment.resume, callback]
      exact Moment.Leads.refl _
  | some react =>
      simp only [Session.announce, hooks, Action.hooks, callback,
        Option.map_some, Prod.mk.injEq] at announced
      rcases announced with ⟨rfl, rfl⟩
      simp only [Moment.next, Moment.resume, callback]
      have handed :=
        Action.leads_collaborator
          (complete.callback react callback sweep.notices.length item)
          (Action.runAll (sweep.policy sweep.notices.length candidate.key)
            session).1
          ({ todo := todo
             replies := replies
             wait := .callback sweep candidate item
              (Action.runAll
                (sweep.policy sweep.notices.length candidate.key)
                session).2 } :: outer)
      refine handed.trans (Moment.Leads.step ?_)
      exact Moment.Leads.refl _

/-- The steps visit all candidates of a sweep. -/
theorem Completes.leads_visited
    {sweep : OpenSweep V}
    (complete : sweep.Completes)
    (session : Session V)
    (todo : List (Action V))
    (replies : List (Reply V))
    (outer : List (Suspended V)) :
    (Moment.mk session todo replies (.sweeping sweep) outer).Leads
      (Moment.mk
        (Session.visitAll sweep.hooks sweep.now sweep.notices.length session
          sweep.unvisited).1
        todo replies (.sweeping (sweep.visited session)) outer) := by
  rcases sweep with ⟨policy, callback, now, taken, unvisited, notices, count⟩
  induction unvisited generalizing session notices count with
  | nil =>
      simp only [visited, Session.visitAll, List.append_nil,
        SweepCount.plus_zero]
      exact Moment.Leads.refl _
  | cons candidate rest induction =>
      cases answering : session.store.answering? candidate now with
      | none =>
          have later :=
            induction session notices count.addStale
              ⟨complete.policy, complete.callback⟩
          apply Moment.Leads.step
          simp only [Moment.next, Moment.sweepOn,
            Store.evict_of_unanswered answering]
          simp only [visited, Session.visitAll_of_unanswered answering]
          rw [← SweepCount.addStale_plus]
          exact later
      | some entry =>
          rcases announced :
              (session.withStore (session.store.drop candidate.key)).announce
                (Action.hooks policy callback) notices.length candidate
                (entry.handedOut candidate.key) with
            ⟨next, notice⟩
          have remaining :
              (OpenSweep.mk policy callback now taken rest notices
                count.addEvicted).Completes :=
            ⟨complete.policy, complete.callback⟩
          have told :=
            remaining.leads_announce
              (session.withStore (session.store.drop candidate.key))
              todo replies outer candidate (entry.handedOut candidate.key)
              announced
          have later :=
            induction next (notices ++ [notice]) count.addEvicted
              ⟨complete.policy, complete.callback⟩
          apply Moment.Leads.step
          simp only [Moment.next, Moment.sweepOn,
            Store.evict_of_answered answering]
          refine told.trans ?_
          simp only [visited, hooks,
            Session.visitAll_of_answered answering _ _ _ announced]
          rw [← SweepCount.addEvicted_plus, List.append_cons]
          simp only [visited, hooks, List.length_append,
            List.length_singleton] at later
          exact later

end OpenSweep

theorem Action.completes_cleanup
    {V : Type}
    (policy : Nat → Key → List (Action V))
    (callback : Option (Nat → Item V → List (Action V)))
    (policyCompletes :
      ∀ number key, ∀ action ∈ policy number key, action.Completes)
    (callbackCompletes :
      ∀ react, callback = some react →
        ∀ number item, ∀ action ∈ react number item, action.Completes) :
    (Action.cleanup policy callback).Completes := by
  intro session rest replies outer
  have complete :
      (OpenSweep.start session policy callback).Completes :=
    ⟨policyCompletes, callbackCompletes⟩
  have visited :=
    complete.leads_visited
      (session.withStore
        (session.store.withIndex
          (session.store.index.pending session.clock)))
      rest replies outer
  rw [Action.run_cleanup]
  apply Moment.Leads.step
  refine visited.trans (Moment.Leads.step ?_)
  simp only [OpenSweep.visited, OpenSweep.start, SweepCount.zero_plus,
    List.nil_append]
  exact Moment.Leads.refl _

/-! ## Clearings -/

namespace OpenClearing

variable {V : Type}

/-- What the callback of a clearing does. -/
def hook (clearing : OpenClearing V) : Option (ClearHook V (Reply V)) :=
  clearing.callback.map fun react number item session =>
    Action.runAll (react number item) session

/-- All actions of the callback of a clearing are carried out by steps. -/
def Completes (clearing : OpenClearing V) : Prop :=
  ∀ react, clearing.callback = some react →
    ∀ number item, ∀ action ∈ react number item, action.Completes

/-- Without a callback, drained items are let go one by one. -/
theorem leads_released
    {clearing : OpenClearing V}
    (silent : clearing.callback = none)
    (session : Session V)
    (todo : List (Action V))
    (replies : List (Reply V))
    (outer : List (Suspended V)) :
    (Moment.mk session todo replies (.clearing clearing) outer).Leads
      (Moment.mk session todo replies
        (.clearing { clearing with drained := [] }) outer) := by
  rcases clearing with ⟨callback, shards, undrained, drained, farewells⟩
  cases silent
  induction drained with
  | nil => exact Moment.Leads.refl _
  | cons item items induction => exact Moment.Leads.step induction

/-- With a callback, drained items are handed over one by one. -/
theorem Completes.leads_handedOver
    {clearing : OpenClearing V}
    (complete : clearing.Completes)
    {react : Nat → Item V → List (Action V)}
    (callback : clearing.callback = some react)
    (session : Session V)
    (todo : List (Action V))
    (replies : List (Reply V))
    (outer : List (Suspended V))
    {next : Session V}
    {farewells : List (Farewell V (Reply V))}
    (bid :
      Session.bidFarewell
          (fun number item inner => Action.runAll (react number item) inner)
          clearing.farewells.length session clearing.drained =
        (next, farewells)) :
    (Moment.mk session todo replies (.clearing clearing) outer).Leads
      (Moment.mk next todo replies
        (.clearing
          { clearing with
            drained := []
            farewells := clearing.farewells ++ farewells }) outer) := by
  rcases clearing with ⟨_, shards, undrained, drained, earlier⟩
  cases callback
  induction drained generalizing session earlier farewells with
  | nil =>
      cases bid
      rw [List.append_nil]
      exact Moment.Leads.refl _
  | cons item items induction =>
      have handed :=
        Action.leads_collaborator
          (complete react rfl earlier.length item) session
          ({ todo := todo
             replies := replies
             wait := .farewell
              { callback := some react
                shards := shards
                undrained := undrained
                drained := items
                farewells := earlier } item } :: outer)
      rw [Session.bidFarewell] at bid
      cases bid
      apply Moment.Leads.step
      refine handed.trans (Moment.Leads.step ?_)
      rw [List.append_cons]
      apply induction
      · exact complete
      · rw [List.length_append, List.length_singleton]

/-- The steps drain all shards of a clearing. -/
theorem Completes.leads_drained
    {clearing : OpenClearing V}
    (complete : clearing.Completes)
    (settled : clearing.drained = [])
    (session : Session V)
    (todo : List (Action V))
    (replies : List (Reply V))
    (outer : List (Suspended V))
    {next : Session V}
    {farewells : List (Farewell V (Reply V))}
    (drains :
      Session.drainAll clearing.hook clearing.farewells.length session
          clearing.undrained =
        (next, farewells)) :
    (Moment.mk session todo replies (.clearing clearing) outer).Leads
      (Moment.mk next todo replies
        (.clearing
          { clearing with
            undrained := []
            farewells := clearing.farewells ++ farewells }) outer) := by
  rcases clearing with ⟨callback, shards, undrained, drained, earlier⟩
  cases settled
  induction undrained generalizing session earlier farewells with
  | nil =>
      cases drains
      rw [List.append_nil]
      exact Moment.Leads.refl _
  | cons shard rest induction =>
      apply Moment.Leads.step
      cases callback with
      | none =>
          have silent :
              (OpenClearing.mk none shards rest
                (session.store.shardItems session.listing shard)
                earlier).callback = none :=
            rfl
          have released :=
            leads_released silent
              (session.withStore (session.store.emptyShard shard)) todo
              replies outer
          refine released.trans ?_
          apply induction
          · exact complete
          · rw [← drains]
            rfl
      | some react =>
          rcases bid :
              Session.bidFarewell
                (fun number item inner =>
                  Action.runAll (react number item) inner)
                earlier.length
                (session.withStore (session.store.emptyShard shard))
                (session.store.shardItems session.listing shard) with
            ⟨middle, handed⟩
          have remaining :
              (OpenClearing.mk (some react) shards rest
                (session.store.shardItems session.listing shard)
                earlier).Completes :=
            complete
          have handedOver :=
            remaining.leads_handedOver rfl
              (session.withStore (session.store.emptyShard shard)) todo
              replies outer bid
          refine handedOver.trans ?_
          simp only [Session.drainAll, hook, Option.map_some, bid] at drains
          cases drains
          rw [← List.append_assoc]
          apply induction
          · exact complete
          · rw [List.length_append]
            rfl

end OpenClearing

theorem Action.completes_clear
    {V : Type}
    (callback : Option (Nat → Item V → List (Action V)))
    (callbackCompletes :
      ∀ react, callback = some react →
        ∀ number item, ∀ action ∈ react number item, action.Completes) :
    (Action.clear callback).Completes := by
  intro session rest replies outer
  have complete : (OpenClearing.start session callback).Completes :=
    callbackCompletes
  have drained :=
    complete.leads_drained rfl session rest replies outer rfl
  rw [Action.run_clear]
  apply Moment.Leads.step
  refine drained.trans (Moment.Leads.step ?_)
  exact Moment.Leads.refl _

theorem Action.completes {V : Type} (action : Action V) :
    action.Completes := by
  induction action using Action.induction with
  | perform command => exact completes_perform command
  | cleanup policy callback policyCompletes callbackCompletes =>
      exact completes_cleanup policy callback policyCompletes
        callbackCompletes
  | clear callback callbackCompletes =>
      exact completes_clear callback callbackCompletes

/--
Some number of steps carries out the first of a list of actions, with the
session and the replies that carrying them out at one go gives.
-/
theorem Moment.exists_after_start_append
    {V : Type}
    (actions rest : List (Action V))
    (session : Session V) :
    ∃ steps,
      (Moment.start (actions ++ rest) session).after steps =
        { session := (Action.runAll actions session).1
          todo := rest
          replies := (Action.runAll actions session).2
          task := .idle
          outer := [] } :=
  Action.leads_runAll (fun action _ => action.completes) session rest [] []

end TtlStore
