import TtlStore.Proofs.Session.Ordinary
import TtlStore.Proofs.Session.Writing
import TtlStore.Proofs.Store.Size

/-!
# The deeds of a run

The history of a run is the list of what was done to entries: an item was stored
under a free key, rewritten under a taken one, or removed.  What a command did
is read off its reply, and what a sweep or a clearing did off the items that it
takes out of the store.

A store undergoes a list of deeds if each of them, in order, was possible and
had its effect.  Every step of a run of ordinary actions has the store undergo
the deeds of that step, and so the whole run has it undergo the history.
-/

namespace TtlStore

/-- How an entry is removed; a sweep and a clearing may have a callback to tell. -/
inductive Removal where
  | deletion
  | eviction (told : Bool)
  | clearing (told : Bool)
deriving DecidableEq

/-- Something done to the entry under a key. -/
inductive Deed (V : Type) where
  | stored (item : Item V)
  | rewritten (item : Item V)
  | removed (removal : Removal) (item : Item V)

namespace Deed

variable {V : Type}

/-- The key under which a deed was done. -/
def key : Deed V → Key
  | .stored item => item.key
  | .rewritten item => item.key
  | .removed _ item => item.key

@[simp]
theorem key_stored (item : Item V) : (Deed.stored item).key = item.key :=
  rfl

@[simp]
theorem key_rewritten (item : Item V) :
    (Deed.rewritten item).key = item.key :=
  rfl

@[simp]
theorem key_removed (removal : Removal) (entry : Entry V) (key : Key) :
    (Deed.removed removal (entry.handedOut key)).key = key :=
  rfl

/-- The deed stored an item under a free key. -/
def isStored : Deed V → Bool
  | .stored _ => true
  | _ => false

/-- The deed was a removal of one of the given kinds. -/
def isRemoved (kinds : Removal → Bool) : Deed V → Bool
  | .removed removal _ => kinds removal
  | _ => false

end Deed

namespace Removal

/-- The removal was a deletion. -/
def isDeletion : Removal → Bool
  | .deletion => true
  | _ => false

/-- The removal was an eviction. -/
def isEviction : Removal → Bool
  | .eviction _ => true
  | _ => false

/-- The removal was part of a clearing. -/
def isClearing : Removal → Bool
  | .clearing _ => true
  | _ => false

/-- The removed item is to be handed to a callback. -/
def isTold : Removal → Bool
  | .deletion => false
  | .eviction told => told
  | .clearing told => told

end Removal

variable {V : Type}

/-! ## The deeds of commands -/

namespace Session

/-- A set that is accepted stores its item, or rewrites what is there. -/
def setDeeds (session : Session V) (write : Write V) : List (Deed V) :=
  match write.item session.clock, (session.set write).2 with
  | .ok item, .done =>
      if (session.store.lookup item.key).isSome then
        [.rewritten item]
      else
        [.stored item]
  | _, _ => []

def setAllDeeds (session : Session V) : List (Write V) → List (Deed V)
  | [] => []
  | write :: rest =>
      match session.set write with
      | (_, .failed _) => []
      | (next, _) => session.setDeeds write ++ next.setAllDeeds rest

/-- An update that replaces a value rewrites its key. -/
def updateDeeds (session : Session V) (write : Write V) : List (Deed V) :=
  match write.item session.clock, (session.update write).2 with
  | .ok item, .replaced (some _) => [.rewritten item]
  | _, _ => []

/-- A deletion that hands out a token and a value removes them. -/
def deleteDeeds
    (session : Session V)
    (key : Key)
    (token : Token) :
    List (Deed V) :=
  match (session.delete key token).2 with
  | .deleted (some (stored, value)) =>
      [.removed .deletion (Item.lasting key stored value)]
  | _ => []

/-- What a command does to entries. -/
def deeds (session : Session V) : Command V → List (Deed V)
  | .set write => session.setDeeds write
  | .setAll writes => session.setAllDeeds writes
  | .update write => session.updateDeeds write
  | .delete key token => session.deleteDeeds key token
  | _ => []

end Session

/-! ## The deeds of runs -/

namespace Moment

/-- What the next step does to entries. -/
def deeds (moment : Moment V) : List (Deed V) :=
  match moment.task with
  | .sweeping sweep =>
      match sweep.unvisited with
      | [] => []
      | candidate :: _ =>
          (moment.session.store.evict candidate sweep.now).2.toList.map
            (.removed (.eviction sweep.callback.isSome))
  | .clearing clearing =>
      match clearing.drained, clearing.undrained with
      | [], shard :: _ =>
          (moment.session.store.shardItems moment.session.listing shard).map
            (.removed (.clearing clearing.callback.isSome))
      | _, _ => []
  | .idle =>
      match moment.todo with
      | .perform command :: _ => moment.session.deeds command
      | _ => []

/-- What a number of steps does to entries, in order. -/
def history (moment : Moment V) : Nat → List (Deed V)
  | 0 => []
  | steps + 1 => moment.history steps ++ (moment.after steps).deeds

end Moment

/-! ## Undergoing deeds -/

namespace Store

/--
The deeds were done to the first store one after another and made the second of
it, whatever became of the index meanwhile.  The entries of a shard may be
removed at once, in whatever order its keys are listed.
-/
inductive Undergoes : Store V → List (Deed V) → Store V → Prop where
  | nothing (store : Store V) : Undergoes store [] store
  | reindexed
      {store after : Store V}
      {rest : List (Deed V)}
      (index : ExpiryIndex)
      (later : Undergoes (store.withIndex index) rest after) :
      Undergoes store rest after
  | stored
      {store after : Store V}
      {rest : List (Deed V)}
      (item : Item V)
      (free : store.lookup item.key = none)
      (later : Undergoes (store.put item.key item.entry) rest after) :
      Undergoes store (.stored item :: rest) after
  | rewritten
      {store after : Store V}
      {rest : List (Deed V)}
      (item : Item V)
      (entry : Entry V)
      (taken : store.lookup item.key = some entry)
      (later : Undergoes (store.put item.key item.entry) rest after) :
      Undergoes store (.rewritten item :: rest) after
  | removed
      {store after : Store V}
      {rest : List (Deed V)}
      (removal : Removal)
      (key : Key)
      (entry : Entry V)
      (taken : store.lookup key = some entry)
      (later : Undergoes (store.drop key) rest after) :
      Undergoes store (.removed removal (entry.handedOut key) :: rest) after
  | emptied
      {store after : Store V}
      {rest : List (Deed V)}
      (removal : Removal)
      (listing : Listing)
      (shard : Nat)
      (later : Undergoes (store.emptyShard shard) rest after) :
      Undergoes store
        ((store.shardItems listing shard).map (.removed removal) ++ rest) after

theorem Undergoes.append
    {store middle last : Store V}
    {deeds more : List (Deed V)}
    (first : store.Undergoes deeds middle)
    (second : middle.Undergoes more last) :
    store.Undergoes (deeds ++ more) last := by
  induction first with
  | nothing store => exact second
  | reindexed index later induction => exact .reindexed index (induction second)
  | stored item free later induction =>
      exact .stored item free (induction second)
  | rewritten item entry taken later induction =>
      exact .rewritten item entry taken (induction second)
  | removed removal key entry taken later induction =>
      exact .removed removal key entry taken (induction second)
  | emptied removal listing shard later induction =>
      rw [List.append_assoc]
      exact .emptied removal listing shard (induction second)

end Store

/-! ## What commands have the store undergo -/

/-- An accepted item is stored under a free key. -/
theorem Store.undergoes_stored
    {store : Store V}
    {item : Item V}
    (free : store.lookup item.key = none) :
    store.Undergoes [.stored item] (store.set item) := by
  rcases exists_set_eq (refuses_of_none free item.token) with ⟨index, written⟩
  rw [written]
  exact .stored item free (.reindexed index (.nothing _))

/-- An accepted item rewrites what is under a taken key. -/
theorem Store.undergoes_rewritten
    {store : Store V}
    {item : Item V}
    {entry : Entry V}
    (taken : store.lookup item.key = some entry)
    (accepted : store.refuses item.key item.token = false) :
    store.Undergoes [.rewritten item] (store.set item) := by
  rcases exists_set_eq accepted with ⟨index, written⟩
  rw [written]
  exact .rewritten item entry taken (.reindexed index (.nothing _))

namespace Session

theorem undergoes_set (session : Session V) (write : Write V) :
    session.store.Undergoes (session.setDeeds write)
      (session.set write).1.store := by
  cases session.set_ends write with
  | failed error failed ended =>
      rw [setDeeds, failed, ended]
      exact .nothing _
  | refused item made refused ended =>
      rw [setDeeds, made, ended]
      exact .nothing _
  | accepted item made accepted ended =>
      rw [setDeeds, made, ended]
      cases found : session.store.lookup item.key with
      | none =>
          simp only [found]
          exact Store.undergoes_stored found
      | some existing =>
          simp only [found]
          exact Store.undergoes_rewritten found accepted

theorem undergoes_setAll (session : Session V) (writes : List (Write V)) :
    session.store.Undergoes (session.setAllDeeds writes)
      (session.setAll writes).1.store := by
  induction writes generalizing session with
  | nil => exact .nothing _
  | cons write rest induction =>
      have first := session.undergoes_set write
      rw [setAllDeeds, setAll]
      rcases ended : session.set write with ⟨next, reply⟩
      rw [ended] at first
      have both := first.append (induction next)
      cases reply with
      | failed error => exact .nothing _
      | _ => exact both

theorem undergoes_update (session : Session V) (write : Write V) :
    session.store.Undergoes (session.updateDeeds write)
      (session.update write).1.store := by
  cases session.update_ends write with
  | failed error failed ended =>
      rw [updateDeeds, failed, ended]
      exact .nothing _
  | refused item existing made taken refused ended =>
      rw [updateDeeds, made, ended]
      exact .nothing _
  | idle item made free ended =>
      rw [updateDeeds, made, ended]
      exact .nothing _
  | accepted item existing made taken accepted ended =>
      rw [updateDeeds, made, ended]
      exact Store.undergoes_rewritten taken accepted

theorem undergoes_delete
    (session : Session V)
    (key : Key)
    (token : Token) :
    session.store.Undergoes (session.deleteDeeds key token)
      (session.delete key token).1.store := by
  rw [deleteDeeds]
  cases session.delete_ends key token with
  | refused existing taken refused ended =>
      rw [ended]
      exact .nothing _
  | idle free ended =>
      rw [ended]
      exact .nothing _
  | accepted existing taken accepted ended =>
      rw [ended]
      exact
        .removed .deletion key existing taken (.reindexed _ (.nothing _))

/-- An ordinary command has the store undergo its deeds. -/
theorem undergoes_perform
    (session : Session V)
    {command : Command V}
    (ordinary : command.ordinary = true) :
    session.store.Undergoes (session.deeds command)
      (session.perform command).1.store := by
  cases command with
  | set write => exact session.undergoes_set write
  | setAll writes => exact session.undergoes_setAll writes
  | update write => exact session.undergoes_update write
  | delete key token => exact session.undergoes_delete key token
  | get key token => exact .nothing _
  | deadline key => exact .nothing _
  | advance span => exact .nothing _
  | setClock instant => exact .nothing _
  | relist listing => exact .nothing _
  | ask query => exact .nothing _
  | evict candidate now => cases ordinary
  | indexAdd key token deadline => cases ordinary
  | indexMove key token old new => cases ordinary
  | indexRemove key deadline => cases ordinary

end Session

/-! ## What runs have the store undergo -/

namespace Moment

theorem deeds_stale
    {session : Session V}
    {todo : List (Action V)}
    {replies : List (Reply V)}
    {sweep : OpenSweep V}
    {outer : List (Suspended V)}
    {candidate : Candidate}
    {rest : List Candidate}
    (unvisited : sweep.unvisited = candidate :: rest)
    (unanswered :
      session.store.answering? candidate sweep.now = none) :
    (Moment.mk session todo replies (.sweeping sweep) outer).deeds = [] := by
  simp only [deeds, unvisited, Store.evict_of_unanswered unanswered]
  rfl

theorem deeds_evicted
    {session : Session V}
    {todo : List (Action V)}
    {replies : List (Reply V)}
    {sweep : OpenSweep V}
    {outer : List (Suspended V)}
    {candidate : Candidate}
    {rest : List Candidate}
    {entry : Entry V}
    (unvisited : sweep.unvisited = candidate :: rest)
    (answered :
      session.store.answering? candidate sweep.now = some entry) :
    (Moment.mk session todo replies (.sweeping sweep) outer).deeds =
      [.removed (.eviction sweep.callback.isSome)
        (entry.handedOut candidate.key)] := by
  simp only [deeds, unvisited, Store.evict_of_answered answered]
  rfl

theorem deeds_drained
    {session : Session V}
    {todo : List (Action V)}
    {replies : List (Reply V)}
    {clearing : OpenClearing V}
    {outer : List (Suspended V)}
    {shard : Nat}
    {rest : List Nat}
    (settled : clearing.drained = [])
    (undrained : clearing.undrained = shard :: rest) :
    (Moment.mk session todo replies (.clearing clearing) outer).deeds =
      (session.store.shardItems session.listing shard).map
        (.removed (.clearing clearing.callback.isSome)) := by
  simp only [deeds, settled, undrained]

/-- The other steps of sweeps and clearings do nothing to entries. -/
theorem deeds_sweepDone
    {session : Session V}
    {todo : List (Action V)}
    {replies : List (Reply V)}
    {sweep : OpenSweep V}
    {outer : List (Suspended V)}
    (unvisited : sweep.unvisited = []) :
    (Moment.mk session todo replies (.sweeping sweep) outer).deeds = [] := by
  simp only [deeds, unvisited]

theorem deeds_left
    {session : Session V}
    {todo : List (Action V)}
    {replies : List (Reply V)}
    {clearing : OpenClearing V}
    {outer : List (Suspended V)}
    {item : Item V}
    {items : List (Item V)}
    (left : clearing.drained = item :: items) :
    (Moment.mk session todo replies (.clearing clearing) outer).deeds =
      [] := by
  simp only [deeds, left]

theorem deeds_clearingDone
    {session : Session V}
    {todo : List (Action V)}
    {replies : List (Reply V)}
    {clearing : OpenClearing V}
    {outer : List (Suspended V)}
    (settled : clearing.drained = [])
    (undrained : clearing.undrained = []) :
    (Moment.mk session todo replies (.clearing clearing) outer).deeds =
      [] := by
  simp only [deeds, settled, undrained]

/-- A step of a run of ordinary actions has the store undergo its deeds. -/
theorem Step.undergoes
    {moment next : Moment V}
    (step : moment.Step next)
    (ordinary : moment.Ordinary) :
    moment.session.store.Undergoes moment.deeds next.session.store := by
  cases step with
  | finished => exact .nothing _
  | perform session command rest replies outer =>
      cases (List.forall_mem_cons.mp ordinary.todo).1 with
      | perform _ commandOrdinary =>
          exact session.undergoes_perform commandOrdinary
  | sweepBegun => exact .reindexed _ (.nothing _)
  | stale session todo replies sweep outer candidate rest unvisited
      unanswered =>
      rw [deeds_stale unvisited unanswered]
      exact .nothing _
  | evicted session todo replies sweep outer candidate rest entry unvisited
      answered =>
      rw [deeds_evicted unvisited answered]
      rcases (session.store.answering?_eq_some_iff candidate sweep.now
        entry).mp answered with
        ⟨taken, _⟩
      exact .removed _ candidate.key entry taken (.nothing _)
  | policyDone => exact .nothing _
  | callbackBegun => exact .nothing _
  | callbackDone => exact .nothing _
  | sweepDone session todo replies sweep outer unvisited =>
      rw [deeds_sweepDone unvisited]
      exact .nothing _
  | clearingBegun => exact .nothing _
  | drained session todo replies clearing outer shard rest settled
      undrained =>
      rw [deeds_drained settled undrained, ← List.append_nil (List.map _ _)]
      exact .emptied _ session.listing shard (.nothing _)
  | released session todo replies clearing outer item items left =>
      rw [deeds_left left]
      exact .nothing _
  | farewellBegun session todo replies clearing outer item items react
      left =>
      rw [deeds_left left]
      exact .nothing _
  | farewellDone => exact .nothing _
  | clearingDone session todo replies clearing outer settled undrained =>
      rw [deeds_clearingDone settled undrained]
      exact .nothing _

/-- A run of ordinary actions has the store undergo its history. -/
theorem undergoes_history
    {actions : List (Action V)}
    (ordinary : ∀ action ∈ actions, action.Ordinary)
    (session : Session V)
    (steps : Nat) :
    session.store.Undergoes ((start actions session).history steps)
      ((start actions session).after steps).session.store := by
  induction steps with
  | zero => exact .nothing _
  | succ steps induction =>
      have stillOrdinary : ((start actions session).after steps).Ordinary :=
        Step.after_induction Step.ordinary (ordinary_start ordinary session)
          steps
      have last :=
        (step_next ((start actions session).after steps)).undergoes
          stillOrdinary
      rw [history, after_succ]
      exact induction.append last

end Moment

end TtlStore
