import TtlStore.Proofs.Session.Completion
import TtlStore.Proofs.Session.Visiting

/-!
# Collaborators that do not write

A collaborator that does not write may still look at the store and sweep it in
turn, and its own collaborators may do so again.  An action is sweeping if at
every depth it consists of sweeps and of commands of an allowed kind.  The kinds
that matter are the commands that spare the store, of which some move the clock,
and those that read, which change nothing at all.

What allowed commands keep, and what a sweep keeps as soon as its collaborators
do, all sweeping actions keep.  What is kept may depend on a context, such as
what outer sweeps are still to visit, because a collaborator acts in the middle
of a sweep and is itself to be interrupted in the middle of its own.
-/

namespace TtlStore

variable {V R Context : Type}

/-! ## Kinds of commands -/

/-- The command leaves the store alone, though it may set clock or listing. -/
def Command.spares : Command V → Bool
  | .get _ _ => true
  | .deadline _ => true
  | .advance _ => true
  | .setClock _ => true
  | .relist _ => true
  | .ask _ => true
  | _ => false

/-- The command changes nothing of a session. -/
def Command.reads : Command V → Bool
  | .get _ _ => true
  | .deadline _ => true
  | .ask _ => true
  | _ => false

theorem Session.store_perform_of_spares
    {command : Command V}
    (spares : command.spares = true)
    (session : Session V) :
    (session.perform command).1.store = session.store := by
  cases command <;> first | rfl | cases spares

theorem Session.perform_of_reads
    {command : Command V}
    (reads : command.reads = true)
    (session : Session V) :
    (session.perform command).1 = session := by
  cases command <;> first | rfl | cases reads

/-- Neither the action nor those of its collaborators do more than sweep and what is allowed. -/
inductive Action.Sweeping (allowed : Command V → Bool) : Action V → Prop where
  | perform
      (command : Command V)
      (isAllowed : allowed command = true) :
      Sweeping allowed (.perform command)
  | cleanup
      (policy : Nat → Key → List (Action V))
      (callback : Option (Nat → Item V → List (Action V)))
      (policySweeping :
        ∀ number key, ∀ action ∈ policy number key, Sweeping allowed action)
      (callbackSweeping :
        ∀ react, callback = some react →
          ∀ number item, ∀ action ∈ react number item,
            Sweeping allowed action) :
      Sweeping allowed (.cleanup policy callback)

/-! ## What collaborators keep -/

/-- All replies that the collaborators got are good. -/
structure Notice.AllReplies
    (Good : R → Prop)
    (notice : Notice V R) :
    Prop where
  policy : ∀ reply ∈ notice.policyReplies, Good reply
  callback :
    ∀ replies, notice.callbackReplies = some replies →
      ∀ reply ∈ replies, Good reply

/-- The collaborators keep what holds of a session, and get only good replies. -/
structure SweepHooks.Keep
    (Holds : Context → Session V → Prop)
    (Good : R → Prop)
    (hooks : SweepHooks V R) :
    Prop where
  policy :
    ∀ context number key session, Holds context session →
      Holds context (hooks.policy number key session).1 ∧
        ∀ reply ∈ (hooks.policy number key session).2, Good reply
  callback :
    ∀ callback, hooks.callback = some callback →
      ∀ context number item session, Holds context session →
        Holds context (callback number item session).1 ∧
          ∀ reply ∈ (callback number item session).2, Good reply

variable {Holds : Context → Session V → Prop}

theorem SweepHooks.Keep.announce
    {Good : R → Prop}
    {hooks : SweepHooks V R}
    (keep : hooks.Keep Holds Good)
    {context : Context}
    {session : Session V}
    (holds : Holds context session)
    (number : Nat)
    (candidate : Candidate)
    (item : Item V) :
    Holds context (session.announce hooks number candidate item).1 ∧
      (session.announce hooks number candidate item).2.AllReplies Good := by
  rcases hooks with ⟨policy, callback⟩
  rcases keep.policy context number candidate.key session holds with
    ⟨holdsAfterPolicy, policyGood⟩
  cases callback with
  | none =>
      refine ⟨holdsAfterPolicy, policyGood, ?_⟩
      intro replies present
      cases present
  | some callback =>
      rcases keep.callback callback rfl context number item _
          holdsAfterPolicy with
        ⟨holdsAfterCallback, callbackGood⟩
      refine ⟨holdsAfterCallback, policyGood, ?_⟩
      intro replies present
      cases present
      exact callbackGood

namespace Action

variable {Good : Reply V → Prop}

/-- Carrying out the action keeps what holds of a session, and gives a good reply. -/
def Keeps
    (Holds : Context → Session V → Prop)
    (Good : Reply V → Prop)
    (action : Action V) :
    Prop :=
  ∀ context session, Holds context session →
    Holds context (action.run session).1 ∧ Good (action.run session).2

/-- What single actions keep, lists of them keep. -/
theorem keeps_runAll
    {actions : List (Action V)}
    (keep : ∀ action ∈ actions, action.Keeps Holds Good)
    (context : Context)
    {session : Session V}
    (holds : Holds context session) :
    Holds context (runAll actions session).1 ∧
      ∀ reply ∈ (runAll actions session).2, Good reply := by
  induction actions generalizing session with
  | nil =>
      refine ⟨holds, ?_⟩
      intro reply member
      cases member
  | cons action rest induction =>
      rcases List.forall_mem_cons.mp keep with ⟨first, others⟩
      rcases first context session holds with ⟨holdsNext, good⟩
      rcases induction others holdsNext with ⟨holdsLast, othersGood⟩
      rw [runAll_cons]
      exact ⟨holdsLast, List.forall_mem_cons.mpr ⟨good, othersGood⟩⟩

/-- Collaborators keep what their actions keep. -/
theorem keep_hooks
    {policy : Nat → Key → List (Action V)}
    {callback : Option (Nat → Item V → List (Action V))}
    (policyKeeps :
      ∀ number key, ∀ action ∈ policy number key, action.Keeps Holds Good)
    (callbackKeeps :
      ∀ react, callback = some react →
        ∀ number item, ∀ action ∈ react number item,
          action.Keeps Holds Good) :
    (hooks policy callback).Keep Holds Good where
  policy context number key session holds :=
    keeps_runAll (policyKeeps number key) context holds
  callback := by
    intro react present context number item session holds
    rcases Option.map_eq_some_iff.mp present with ⟨actions, given, rfl⟩
    exact keeps_runAll (callbackKeeps actions given number item) context holds

/-- What allowed commands and sweeps keep, sweeping actions keep. -/
theorem Sweeping.keeps
    {allowed : Command V → Bool}
    (commandKeeps :
      ∀ command, allowed command = true →
        (Action.perform command).Keeps Holds Good)
    (sweepKeeps :
      ∀ hooks : SweepHooks V (Reply V), hooks.Keep Holds Good →
        ∀ context session, Holds context session →
          Holds context (session.sweep hooks).1 ∧
            Good (.swept (session.sweep hooks).2))
    {action : Action V}
    (sweeping : action.Sweeping allowed) :
    action.Keeps Holds Good := by
  induction sweeping with
  | perform command isAllowed => exact commandKeeps command isAllowed
  | cleanup policy callback _ _ policyKeeps callbackKeeps =>
      intro context session holds
      rw [run_cleanup]
      exact
        sweepKeeps _ (keep_hooks policyKeeps callbackKeeps) context session
          holds

end Action

end TtlStore
