import TtlStore.Session.Basic

/-!
# Replies

Every action on a session gives one reply, which tells all that the action let
anyone see.  Sweeping and clearing hand items to collaborators, who may act on
the session in turn, so their replies contain the replies to those actions.
-/

namespace TtlStore

/-- One eviction: what the collaborators were told, and what they got by acting on it. -/
structure Notice (V R : Type) where
  candidate : Candidate
  item : Item V
  policyReplies : List R
  callbackReplies : Option (List R)

/-- How many candidates a sweep examined, and what became of them. -/
structure SweepCount where
  scanned : Nat
  evicted : Nat
  stale : Nat
deriving DecidableEq

/-- A sweep: the buckets it took with their sizes, and its evictions in order. -/
structure Sweep (V R : Type) where
  taken : List (Bucket × Nat)
  notices : List (Notice V R)
  count : SweepCount

/-- The evictions of a sweep by key. -/
def Sweep.noticesByKey {V R : Type} (sweep : Sweep V R) : List (Notice V R) :=
  sweep.notices.mergeSort fun left right =>
    decide (left.candidate.key ≤ right.candidate.key)

/-- One item handed out while clearing, and what the callback got by acting on it. -/
structure Farewell (V R : Type) where
  item : Item V
  replies : List R

/-- The reply to an action. -/
inductive Reply (V : Type) where
  | done
  | refused (attempt : Attempt) (key : Key)
  | failed (error : TimeError)
  | stored (refused : List Key) (failure : Option TimeError)
  | value (value : Option V)
  | replaced (value : Option V)
  | deleted (entry : Option (Token × V))
  | deadline (deadline : Option Instant)
  | evicted (item : Option (Item V))
  | answer (answer : Answer)
  | swept (sweep : Sweep V (Reply V))
  | cleared (shards : Nat) (farewells : List (Farewell V (Reply V)))

end TtlStore
