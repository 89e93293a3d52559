import TtlStore.Soak.Crew

/-!
# The soak program

The program soaks a store for the time that its command line asks for.  The
clock of the store is the machine's monotonic clock, counted from the start of
the program.
-/

namespace TtlStore.Soak

/-- The machine's clock, counted from a start. -/
def readClock (start : Nat) : IO Instant := do
  let now ← IO.monoNanosNow
  return ⟨(now - start : Nat)⟩

/-- Print the events of a level that a user is shown. -/
def report (events : List Event) : IO Unit :=
  for event in events do
    if event.level = .info then
      IO.println event.line

/-- Let a crew work until a time, the sweeper having seen some milliseconds pass. -/
partial def soakUntil
    (start : Nat)
    (limit : Duration)
    (crew : Crew)
    (milliseconds : Nat) :
    IO (Except TimeError Crew) := do
  let now ← readClock start
  let elapsed : Duration := ⟨now.nanoseconds.toNat⟩
  let rested := crew.elapse (elapsed.wholeMilliseconds - milliseconds)
  if limit ≤ elapsed then
    return .ok rested
  else
    match rested.turn now with
    | .error error => return .error error
    | .ok next => soakUntil start limit next elapsed.wholeMilliseconds

/-- Soak a store and report what happened. -/
def soak (options : Options) (background : Background String) : IO UInt32 := do
  report [Event.soakReady background.session, Event.sweeperStarted]
  let start ← IO.monoNanosNow
  let limit := Duration.ofSeconds options.seconds.toNat
  match ← soakUntil start limit (Crew.gather options background) 0 with
  | .error error =>
      IO.eprint (errorText "worker panicked" (some error.message))
      return 1
  | .ok crew =>
      let (stopped, reply) := crew.background.step .stop
      report reply.log
      let elapsed ← readClock start
      report
        [Event.workloadFinished crew.tally ⟨elapsed.nanoseconds.toNat⟩,
          Event.sweeperTotals { crew with background := stopped }]
      return 0

end TtlStore.Soak

open TtlStore.Soak in
/-- The program. -/
def main (arguments : List String) : IO UInt32 := do
  match launch arguments ⟨0⟩ with
  | .over exit =>
      IO.print exit.output
      IO.eprint exit.errors
      return exit.code
  | .soaking options background => soak options background
