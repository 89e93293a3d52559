import Mathlib.Algebra.BigOperators.Group.Multiset.Basic
import Mathlib.Data.List.Iterate
import Mathlib.Tactic.Abel
import TtlStore.Proofs.Ledger.Deed

/-!
# What replies come to

Each successful deletion has a weight, by what it hands out, and so has each
eviction and each item that a callback is handed.  Summed over a reply and all
the replies within it, the weights say what collaborators and callers got to
know of removals; one sum serves for counting deletions, for collecting what
they handed out, for adding up the counts of sweeps and for collecting the items
that callbacks were handed.

At every moment of a run, what the replies come to, together with what open
sweeps and clearings have still to hand over, is what the history of the run
comes to.
-/

namespace TtlStore

/-- The weights of what replies tell about removals. -/
structure Weights (V M : Type) where
  deleted : Token → V → M
  evicted : M
  handed : Item V → M

variable {V M : Type} [AddCommMonoid M]

namespace Weights

/-- The weight of an item, if it is handed to a callback. -/
def told (weights : Weights V M) (callback : Bool) (item : Item V) : M :=
  if callback then weights.handed item else 0

/-- The weight of a deed. -/
def deed (weights : Weights V M) : Deed V → M
  | .removed .deletion item => weights.deleted item.token item.value
  | .removed (.eviction callback) item =>
      weights.evicted + weights.told callback item
  | .removed (.clearing callback) item => weights.told callback item
  | _ => 0

/-- What deeds come to. -/
def deeds (weights : Weights V M) (done : List (Deed V)) : M :=
  (done.map weights.deed).sum

/-! ## Replies -/

mutual

/-- What a reply comes to, with the replies within it. -/
def reply (weights : Weights V M) : Reply V → M
  | .deleted (some (token, value)) => weights.deleted token value
  | .swept sweep => weights.sweep sweep
  | .cleared _ farewells => weights.farewells farewells
  | _ => 0

/-- What a sweep comes to. -/
def sweep (weights : Weights V M) : Sweep V (Reply V) → M
  | ⟨_, notices, count⟩ =>
      count.evicted • weights.evicted + weights.notices notices

/-- What notices come to. -/
def notices (weights : Weights V M) : List (Notice V (Reply V)) → M
  | [] => 0
  | notice :: rest => weights.notice notice + weights.notices rest

/-- What a notice comes to: its item, if a callback got it, and what came of it. -/
def notice (weights : Weights V M) : Notice V (Reply V) → M
  | ⟨_, item, policyReplies, callbackReplies⟩ =>
      weights.replies policyReplies + weights.callback item callbackReplies

/-- What the callback of a sweep comes to, if there is one. -/
def callback (weights : Weights V M) (item : Item V) :
    Option (List (Reply V)) → M
  | none => 0
  | some replies => weights.handed item + weights.replies replies

/-- What farewells come to. -/
def farewells (weights : Weights V M) : List (Farewell V (Reply V)) → M
  | [] => 0
  | farewell :: rest => weights.farewell farewell + weights.farewells rest

/-- What a farewell comes to: its item, and what came of it. -/
def farewell (weights : Weights V M) : Farewell V (Reply V) → M
  | ⟨item, replies⟩ => weights.handed item + weights.replies replies

/-- What replies come to. -/
def replies (weights : Weights V M) : List (Reply V) → M
  | [] => 0
  | reply :: rest => weights.reply reply + weights.replies rest

end

theorem replies_append (weights : Weights V M) (earlier later : List (Reply V)) :
    weights.replies (earlier ++ later) =
      weights.replies earlier + weights.replies later := by
  induction earlier with
  | nil => simp [replies]
  | cons reply rest induction =>
      rw [List.cons_append, replies, replies, induction, add_assoc]

theorem replies_singleton (weights : Weights V M) (reply : Reply V) :
    weights.replies [reply] = weights.reply reply := by
  rw [replies, replies, add_zero]

theorem notices_append
    (weights : Weights V M)
    (earlier later : List (Notice V (Reply V))) :
    weights.notices (earlier ++ later) =
      weights.notices earlier + weights.notices later := by
  induction earlier with
  | nil => simp [notices]
  | cons notice rest induction =>
      rw [List.cons_append, notices, notices, induction, add_assoc]

theorem farewells_append
    (weights : Weights V M)
    (earlier later : List (Farewell V (Reply V))) :
    weights.farewells (earlier ++ later) =
      weights.farewells earlier + weights.farewells later := by
  induction earlier with
  | nil => simp [farewells]
  | cons farewell rest induction =>
      rw [List.cons_append, farewells, farewells, induction, add_assoc]

/-! ## Moments -/

/-- What a sweep comes to so far. -/
def openSweep (weights : Weights V M) (current : OpenSweep V) : M :=
  weights.sweep current.report

/-- What a clearing comes to so far, with the drained items that are left. -/
def openClearing (weights : Weights V M) (current : OpenClearing V) : M :=
  weights.farewells current.farewells +
    (current.drained.map (weights.told current.callback.isSome)).sum

def task (weights : Weights V M) : Task V → M
  | .idle => 0
  | .sweeping current => weights.openSweep current
  | .clearing current => weights.openClearing current

/-- What waits for a collaborator, with the item that the callback is about to get or has. -/
def wait (weights : Weights V M) : Wait V → M
  | .policy current _ item =>
      weights.openSweep current + weights.told current.callback.isSome item
  | .callback current _ item policyReplies =>
      weights.openSweep current +
        (weights.replies policyReplies + weights.handed item)
  | .farewell current item =>
      weights.openClearing current + weights.handed item

def suspended (weights : Weights V M) (waiting : Suspended V) : M :=
  weights.replies waiting.replies + weights.wait waiting.wait

/-- What a moment comes to: its replies, and what is under way. -/
def moment (weights : Weights V M) (now : Moment V) : M :=
  weights.replies now.replies + weights.task now.task +
    (now.outer.map weights.suspended).sum

theorem openSweep_start
    (weights : Weights V M)
    (session : Session V)
    (policy : Nat → Key → List (Action V))
    (react : Option (Nat → Item V → List (Action V))) :
    weights.openSweep (OpenSweep.start session policy react) = 0 := by
  simp [openSweep, OpenSweep.start, OpenSweep.report, sweep, notices,
    SweepCount.zero]

theorem openSweep_passOver
    (weights : Weights V M)
    (current : OpenSweep V)
    (rest : List Candidate) :
    weights.openSweep (current.passOver rest) = weights.openSweep current := by
  simp [openSweep, OpenSweep.passOver, OpenSweep.report, sweep,
    SweepCount.addStale]

theorem openSweep_evicting
    (weights : Weights V M)
    (current : OpenSweep V)
    (rest : List Candidate) :
    weights.openSweep (current.evicting rest) =
      weights.openSweep current + weights.evicted := by
  simp only [openSweep, OpenSweep.evicting, OpenSweep.report, sweep,
    SweepCount.addEvicted, succ_nsmul]
  abel

theorem openSweep_announced
    (weights : Weights V M)
    (current : OpenSweep V)
    (told : Notice V (Reply V)) :
    weights.openSweep (current.announced told) =
      weights.openSweep current + weights.notice told := by
  simp only [openSweep, OpenSweep.announced, OpenSweep.report, sweep,
    notices_append, notices, add_zero, add_assoc]

theorem openClearing_start
    (weights : Weights V M)
    (session : Session V)
    (react : Option (Nat → Item V → List (Action V))) :
    weights.openClearing (OpenClearing.start session react) = 0 := by
  simp [openClearing, OpenClearing.start, farewells]

theorem openClearing_of_nil
    (weights : Weights V M)
    {current : OpenClearing V}
    (settled : current.drained = []) :
    weights.openClearing current = weights.farewells current.farewells := by
  rw [openClearing, settled]
  exact add_zero _

/-- The item at hand is part of what a clearing comes to. -/
theorem openClearing_of_cons
    (weights : Weights V M)
    {current : OpenClearing V}
    {item : Item V}
    {items : List (Item V)}
    (left : current.drained = item :: items) :
    weights.openClearing current =
      weights.openClearing { current with drained := items } +
        weights.told current.callback.isSome item := by
  simp only [openClearing, left, List.map_cons, List.sum_cons]
  abel

theorem openClearing_handedOver
    (weights : Weights V M)
    (current : OpenClearing V)
    (bid : Farewell V (Reply V)) :
    weights.openClearing (current.handedOver bid) =
      weights.openClearing current + weights.farewell bid := by
  simp only [openClearing, OpenClearing.handedOver, farewells_append,
    farewells, add_zero]
  abel

/-- What drained items come to, as deeds and as what is left to hand over. -/
theorem deeds_clearing
    (weights : Weights V M)
    (callback : Bool)
    (items : List (Item V)) :
    weights.deeds (items.map (.removed (.clearing callback))) =
      (items.map (weights.told callback)).sum := by
  rw [deeds, List.map_map]
  rfl

theorem deeds_nil (weights : Weights V M) : weights.deeds [] = 0 :=
  rfl

theorem deeds_cons
    (weights : Weights V M)
    (first : Deed V)
    (rest : List (Deed V)) :
    weights.deeds (first :: rest) = weights.deed first + weights.deeds rest :=
  List.sum_cons

theorem deeds_append (weights : Weights V M) (done more : List (Deed V)) :
    weights.deeds (done ++ more) = weights.deeds done + weights.deeds more := by
  rw [deeds, List.map_append, List.sum_append]
  rfl

/-! ## Commands -/

theorem deeds_set
    (weights : Weights V M)
    (session : Session V)
    (write : Write V) :
    weights.deeds (session.setDeeds write) = 0 := by
  rw [Session.setDeeds]
  split
  · split
    · exact add_zero 0
    · exact add_zero 0
  · rfl

theorem deeds_setAll
    (weights : Weights V M)
    (session : Session V)
    (writes : List (Write V)) :
    weights.deeds (session.setAllDeeds writes) = 0 := by
  induction writes generalizing session with
  | nil => rfl
  | cons write rest induction =>
      rw [Session.setAllDeeds]
      split
      · rfl
      · rw [deeds_append, deeds_set, induction, add_zero]

theorem deeds_update
    (weights : Weights V M)
    (session : Session V)
    (write : Write V) :
    weights.deeds (session.updateDeeds write) = 0 := by
  rw [Session.updateDeeds]
  split
  · exact add_zero 0
  · rfl

/-- The reply to a set tells of no removal. -/
theorem reply_set
    (weights : Weights V M)
    (session : Session V)
    (write : Write V) :
    weights.reply (session.set write).2 = 0 := by
  rw [Session.set]
  split
  · rfl
  · split <;> rfl

/-- The reply to an update tells of no removal. -/
theorem reply_update
    (weights : Weights V M)
    (session : Session V)
    (write : Write V) :
    weights.reply (session.update write).2 = 0 := by
  rw [Session.update]
  split
  · rfl
  · split <;> rfl

theorem reply_delete
    (weights : Weights V M)
    (session : Session V)
    (key : Key)
    (token : Token) :
    weights.reply (session.delete key token).2 =
      weights.deeds (session.deleteDeeds key token) := by
  rw [Session.deleteDeeds]
  cases session.delete_ends key token with
  | refused existing taken refused ended =>
      rw [ended]
      rfl
  | idle free ended =>
      rw [ended]
      rfl
  | accepted existing taken accepted ended =>
      rw [ended]
      exact (add_zero (weights.deleted existing.token existing.value)).symm

/-- The reply to a command tells of the removals that the command did. -/
theorem reply_perform
    (weights : Weights V M)
    (session : Session V)
    (command : Command V) :
    weights.reply (session.perform command).2 =
      weights.deeds (session.deeds command) := by
  cases command with
  | set write =>
      exact (weights.reply_set session write).trans
        (weights.deeds_set session write).symm
  | setAll writes => exact (weights.deeds_setAll session writes).symm
  | update write =>
      exact (weights.reply_update session write).trans
        (weights.deeds_update session write).symm
  | delete key token => exact weights.reply_delete session key token
  | get key token => rfl
  | deadline key => rfl
  | advance span => rfl
  | setClock instant => rfl
  | relist listing => rfl
  | evict candidate now => rfl
  | indexAdd key token deadline => rfl
  | indexMove key token old new => rfl
  | indexRemove key deadline => rfl
  | ask query => rfl

/-! ## Runs -/

/-- What the next moment comes to grows by the deeds of the step. -/
theorem moment_step
    (weights : Weights V M)
    {current next : Moment V}
    (step : current.Step next) :
    weights.moment next = weights.moment current + weights.deeds current.deeds := by
  cases step with
  | finished => exact (add_zero _).symm
  | perform session command rest replies outer =>
      have told := weights.reply_perform session command
      simp only [moment, Moment.deeds, replies_append, replies_singleton,
        told]
      abel
  | sweepBegun session policy callback rest replies outer =>
      simp only [moment, task, openSweep_start, Moment.deeds, deeds_nil,
        add_zero]
  | stale session todo replies sweep outer candidate rest unvisited
      unanswered =>
      rw [Moment.deeds_stale unvisited unanswered]
      simp only [moment, task, openSweep_passOver, deeds_nil, add_zero]
  | evicted session todo earlier sweep outer candidate rest entry unvisited
      answered =>
      have sameCallback : (sweep.evicting rest).callback = sweep.callback :=
        rfl
      rw [Moment.deeds_evicted unvisited answered]
      simp only [moment, task, suspended, wait, replies, deeds, deed,
        openSweep_evicting, sameCallback, List.map_cons, List.map_nil,
        List.sum_cons, List.sum_nil]
      abel
  | policyDone session replies todo earlier sweep candidate item outer
      silent =>
      simp only [moment, task, suspended, wait, openSweep_announced, notice,
        callback, silent, Option.isSome_none, told, Moment.deeds, deeds_nil,
        List.map_cons, List.sum_cons, Bool.false_eq_true, if_false]
      abel
  | callbackBegun session policyReplies todo earlier sweep candidate item
      outer react present =>
      simp only [moment, task, suspended, wait, replies, present,
        Option.isSome_some, told, Moment.deeds, deeds_nil, List.map_cons,
        List.sum_cons, if_true]
      abel
  | callbackDone =>
      simp only [moment, task, suspended, wait, openSweep_announced, notice,
        callback, Moment.deeds, deeds_nil, List.map_cons, List.sum_cons]
      abel
  | sweepDone session todo replies sweep outer unvisited =>
      have reported :
          weights.reply (.swept sweep.report) = weights.openSweep sweep :=
        rfl
      rw [Moment.deeds_sweepDone unvisited]
      simp only [moment, task, replies_append, replies_singleton, reported,
        deeds_nil, add_zero]
  | clearingBegun =>
      simp only [moment, task, openClearing_start, Moment.deeds, deeds_nil,
        add_zero]
  | drained session todo replies clearing outer shard rest settled
      undrained =>
      rw [Moment.deeds_drained settled undrained, deeds_clearing]
      simp only [moment, task, openClearing_of_nil weights settled]
      rw [openClearing]
      abel
  | released session todo replies clearing outer item items left silent =>
      rw [Moment.deeds_left left]
      simp only [moment, task, openClearing_of_cons weights left, silent,
        Option.isSome_none, told, deeds_nil, Bool.false_eq_true, if_false,
        add_zero]
  | farewellBegun session todo earlier clearing outer item items react left
      present =>
      rw [Moment.deeds_left left]
      simp only [moment, task, suspended, wait, replies,
        openClearing_of_cons weights left, present, Option.isSome_some, told,
        deeds_nil, List.map_cons, List.sum_cons, if_true]
      abel
  | farewellDone =>
      simp only [moment, task, suspended, wait, openClearing_handedOver,
        farewell, Moment.deeds, deeds_nil, List.map_cons, List.sum_cons]
      abel
  | clearingDone session todo replies clearing outer settled undrained =>
      have reported :
          weights.reply (.cleared clearing.shards clearing.farewells) =
            weights.openClearing clearing :=
        (openClearing_of_nil weights settled).symm
      rw [Moment.deeds_clearingDone settled undrained]
      simp only [moment, task, replies_append, replies_singleton, reported,
        deeds_nil, add_zero]

/-- What a run comes to at a moment is what its history comes to. -/
theorem moment_after
    (weights : Weights V M)
    (actions : List (Action V))
    (session : Session V)
    (steps : Nat) :
    weights.moment ((Moment.start actions session).after steps) =
      weights.deeds ((Moment.start actions session).history steps) := by
  induction steps with
  | zero =>
      simp only [Moment.after, Nat.iterate, Moment.start, Moment.history,
        moment, replies, task, deeds_nil, List.map_nil, List.sum_nil,
        add_zero]
  | succ steps induction =>
      rw [Moment.after_succ, Moment.history, deeds_append, ← induction]
      exact weights.moment_step (Moment.step_next _)

end Weights

end TtlStore
