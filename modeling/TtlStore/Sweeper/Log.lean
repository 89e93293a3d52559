import TtlStore.Session.Log
import TtlStore.Sweeper.Basic

/-!
# The log of a sweeper

A sweeper that wakes logs its sweep, then the new interval if the interval was
doubled, then a summary if anything was evicted.  It logs neither of the last
two if choosing the interval ended it.  Stopping is logged by whoever stops the
sweeper and then by the sweeper itself, but only if it had been running.
-/

namespace TtlStore

namespace Event

/-- A sweeper was put to sleep for the first time. -/
def sweeperStarted : Event where
  level := .info
  message := "Background expiry sweeper started"
  fields := []

/-- A running sweeper was told to stop. -/
def sweeperStopped : Event where
  level := .info
  message := "Background expiry sweeper stopped"
  fields := []

/-- A running sweeper ended because it was told to. -/
def shutdownReceived : Event where
  level := .debug
  message := "Expiry sweeper received shutdown signal"
  fields := []

/-- The interval was doubled, or raised to the longest. -/
def slowedDown (interval : Duration) : Event where
  level := .trace
  message := "Low expiry rate, slowing down sweeper"
  fields := [("new_interval_ms", millisecondsText interval)]

/-- A sweeper evicted something. -/
def cleanedUp
    (count : SweepCount)
    (remaining : Nat)
    (interval : Duration) :
    Event where
  level := .debug
  message := "Expired keys cleaned up"
  fields :=
    [("evicted", toString count.evicted),
      ("stale", toString count.stale),
      ("keys_remaining", toString remaining),
      ("next_interval_ms", millisecondsText interval)]

end Event

/-- What a sweeper logged when it woke. -/
def Wake.log {V : Type} (wake : Wake V) : List Event :=
  Reply.sweepLog wake.sweep ++
    match wake.interval with
    | .error _ => []
    | .ok interval =>
        (if wake.pace = .doubled then [Event.slowedDown interval] else []) ++
          if 0 < wake.sweep.count.evicted then
            [Event.cleanedUp wake.sweep.count wake.remaining interval]
          else
            []

/-- What a step logged. -/
def Background.StepReply.log {V : Type} : Background.StepReply V → List Event
  | .acted reply => reply.log
  | .ran wakes => wakes.flatMap Wake.log
  | .stopped true => [Event.sweeperStopped, Event.shutdownReceived]
  | .stopped false => []

end TtlStore
