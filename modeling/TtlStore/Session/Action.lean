import TtlStore.Session.Clear
import TtlStore.Session.Sweep

/-!
# Actions

An action is a command, a sweep or a clearing, the last two with what their
collaborators are to do.  A collaborator answers an eviction with a list of
actions, which may again sweep or clear.  The list may depend on the number of
the eviction and on all that the collaborator is told, so that every behaviour
of a collaborator in a run is that of some such function.

An action contains the actions of its collaborators, so carrying it out is a
recursion on the action.
-/

namespace TtlStore

/-- Something done to a session. -/
inductive Action (V : Type) where
  | perform (command : Command V)
  | cleanup
      (policy : Nat → Key → List (Action V))
      (callback : Option (Nat → Item V → List (Action V)))
  | clear (callback : Option (Nat → Item V → List (Action V)))

namespace Action

variable {V : Type}

mutual

/-- Carry out an action. -/
def run : Action V → Session V → Session V × Reply V
  | .perform command, session => session.perform command
  | .cleanup policy none, session =>
      let (next, sweep) := session.sweep
        { policy := fun number key inner => runAll (policy number key) inner
          callback := none }
      (next, .swept sweep)
  | .cleanup policy (some callback), session =>
      let (next, sweep) := session.sweep
        { policy := fun number key inner => runAll (policy number key) inner
          callback := some fun number item inner =>
            runAll (callback number item) inner }
      (next, .swept sweep)
  | .clear none, session =>
      let (next, farewells) := session.clear none
      (next, .cleared session.store.shardCount farewells)
  | .clear (some callback), session =>
      let (next, farewells) := session.clear
        (some fun number item inner => runAll (callback number item) inner)
      (next, .cleared session.store.shardCount farewells)

/-- Carry out actions one after another. -/
def runAll : List (Action V) → Session V → Session V × List (Reply V)
  | [], session => (session, [])
  | action :: rest, session =>
      let (next, reply) := run action session
      let (last, replies) := runAll rest next
      (last, reply :: replies)

end

/-- What collaborators that answer with actions do to a session. -/
def hooks
    (policy : Nat → Key → List (Action V))
    (callback : Option (Nat → Item V → List (Action V))) :
    SweepHooks V (Reply V) where
  policy number key session := runAll (policy number key) session
  callback :=
    callback.map fun react number item session =>
      runAll (react number item) session

theorem run_cleanup
    (policy : Nat → Key → List (Action V))
    (callback : Option (Nat → Item V → List (Action V)))
    (session : Session V) :
    (Action.cleanup policy callback).run session =
      ((session.sweep (hooks policy callback)).1,
        .swept (session.sweep (hooks policy callback)).2) := by
  cases callback <;> simp only [run] <;> rfl

theorem run_clear
    (callback : Option (Nat → Item V → List (Action V)))
    (session : Session V) :
    (Action.clear callback).run session =
      ((session.clear
          (callback.map fun react number item inner =>
            runAll (react number item) inner)).1,
        .cleared session.store.shardCount
          (session.clear
            (callback.map fun react number item inner =>
              runAll (react number item) inner)).2) := by
  cases callback <;> simp only [run] <;> rfl

end Action

end TtlStore
