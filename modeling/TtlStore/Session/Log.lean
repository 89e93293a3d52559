import TtlStore.Event
import TtlStore.Session.Action

/-!
# The log of a session

What an action logs follows from its reply.  A refused write is logged when it
happens.  A sweep logs each bucket before it visits its candidates, so the
events of the collaborators come after the line of the bucket whose candidate
they were told about; one more line ends a sweep that examined anything.  A
clearing logs one line after all its shards are drained.
-/

namespace TtlStore

/-- The message about a refused write. -/
def Attempt.refusal : Attempt → String
  | .set => "Rejected set: conflict mismatch"
  | .update => "Rejected update: conflict mismatch"
  | .delete => "Rejected delete: conflict mismatch"

namespace Event

/-- A write to a key was refused. -/
def refused (attempt : Attempt) (key : Key) : Event where
  level := .trace
  message := attempt.refusal
  fields := [("key", toString key.toNat)]

/-- A sweep begins with the candidates of a bucket. -/
def bucketTaken (bucket : Bucket) (size : Nat) : Event where
  level := .trace
  message := "Sweeping expiry bucket"
  fields :=
    [("bucket", toString bucket.toNat),
      ("keys", toString size)]

/-- A sweep is over. -/
def sweepFinished (count : SweepCount) : Event where
  level := .debug
  message := "Expiry sweep finished"
  fields :=
    [("scanned", toString count.scanned),
      ("evicted", toString count.evicted),
      ("stale", toString count.stale)]

/-- All shards are drained. -/
def cleared (shards : Nat) : Event where
  level := .debug
  message := "Store cleared"
  fields := [("shards", toString shards)]

/-- The milliseconds of a duration as a 64-bit word. -/
def millisecondsText (duration : Duration) : String :=
  toString (duration.wholeMilliseconds % UInt64.size)

/-- A store was made. -/
def storeInitialized {V : Type} (store : Store V) : Event where
  level := .debug
  message := "Sharded store initialized"
  fields :=
    [("shards", toString store.shardCount),
      ("bucket_interval_ms", millisecondsText store.index.calendar.width)]

end Event

/--
Put the events of a sweep in order: after the line of each bucket come the
events that its candidates caused.
-/
def Sweep.arrange
    {V R : Type}
    (sweep : Sweep V R)
    (caused : List (Bucket × List Event)) :
    List Event :=
  let visits := sweep.taken.flatMap fun (bucket, size) =>
    Event.bucketTaken bucket size ::
      (caused.filter fun part => part.1 == bucket).flatMap Prod.snd
  if 0 < sweep.count.scanned then
    visits ++ [Event.sweepFinished sweep.count]
  else
    visits

namespace Reply

variable {V : Type}

mutual

/-- What an action with the given reply logged. -/
def log : Reply V → List Event
  | .refused attempt key => [Event.refused attempt key]
  | .stored keys _ => keys.map (Event.refused .set)
  | .swept sweep => sweepLog sweep
  | .cleared shards farewells =>
      farewellsLog farewells ++ [Event.cleared shards]
  | _ => []

/-- What a sweep logged. -/
def sweepLog : Sweep V (Reply V) → List Event
  | ⟨taken, notices, count⟩ =>
      Sweep.arrange (⟨taken, notices, count⟩ : Sweep V (Reply V))
        (noticesLog notices)

/-- What collaborators logged after each eviction, with the bucket of its candidate. -/
def noticesLog : List (Notice V (Reply V)) → List (Bucket × List Event)
  | [] => []
  | notice :: rest => noticeLog notice :: noticesLog rest

/-- What collaborators logged after one eviction. -/
def noticeLog : Notice V (Reply V) → Bucket × List Event
  | ⟨candidate, _, policyReplies, callbackReplies⟩ =>
      (candidate.bucket, logAll policyReplies ++ logOption callbackReplies)

/-- What a callback logged, if there was one. -/
def logOption : Option (List (Reply V)) → List Event
  | none => []
  | some replies => logAll replies

/-- What the callback of a clearing logged. -/
def farewellsLog : List (Farewell V (Reply V)) → List Event
  | [] => []
  | farewell :: rest => farewellLog farewell ++ farewellsLog rest

/-- What the callback of a clearing logged after one item. -/
def farewellLog : Farewell V (Reply V) → List Event
  | ⟨_, replies⟩ => logAll replies

/-- What actions with the given replies logged. -/
def logAll : List (Reply V) → List Event
  | [] => []
  | reply :: rest => log reply ++ logAll rest

end

end Reply

end TtlStore
