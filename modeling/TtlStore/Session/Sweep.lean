import TtlStore.Session.Perform

/-!
# Sweeping

A sweep reads the clock once, takes the closed buckets out of the index, and
visits their candidates by bucket and, within a bucket, as its keys are listed.
A candidate that the store no longer answers for is stale and is passed over.
Otherwise its entry is dropped, then the policy is told the key, then the
callback, if there is one, is handed the item.

Policy and callback are functions on sessions and so may do anything to the
store and the clock.  Neither the candidates nor the reading of the clock
change for that, but each candidate is looked up in the store as it then is.
Evictions are numbered from zero, and the number is part of what a collaborator
is told, so that it may act differently each time.
-/

namespace TtlStore

/-- What the collaborators of a sweep do to a session, and the replies they get. -/
structure SweepHooks (V R : Type) where
  policy : Nat → Key → Session V → Session V × List R
  callback : Option (Nat → Item V → Session V → Session V × List R)

namespace SweepCount

/-- No candidate has been examined. -/
def zero : SweepCount where
  scanned := 0
  evicted := 0
  stale := 0

/-- One more candidate was evicted. -/
def addEvicted (count : SweepCount) : SweepCount where
  scanned := count.scanned + 1
  evicted := count.evicted + 1
  stale := count.stale

/-- One more candidate was stale. -/
def addStale (count : SweepCount) : SweepCount where
  scanned := count.scanned + 1
  evicted := count.evicted
  stale := count.stale + 1

end SweepCount

namespace Session

variable {V R : Type}

/-- Tell the collaborators about an eviction: the policy first, then the callback. -/
def announce
    (session : Session V)
    (hooks : SweepHooks V R)
    (number : Nat)
    (candidate : Candidate)
    (item : Item V) :
    Session V × Notice V R :=
  let (afterPolicy, policyReplies) :=
    hooks.policy number candidate.key session
  match hooks.callback with
  | none =>
      (afterPolicy,
        { candidate := candidate
          item := item
          policyReplies := policyReplies
          callbackReplies := none })
  | some callback =>
      let (afterCallback, callbackReplies) :=
        callback number item afterPolicy
      (afterCallback,
        { candidate := candidate
          item := item
          policyReplies := policyReplies
          callbackReplies := some callbackReplies })

/-- Evict what answers a candidate, if there is anything, and announce it. -/
def visit
    (session : Session V)
    (hooks : SweepHooks V R)
    (now : Instant)
    (number : Nat)
    (candidate : Candidate) :
    Session V × Option (Notice V R) :=
  match session.store.evict candidate now with
  | (_, none) => (session, none)
  | (store, some item) =>
      let (next, notice) :=
        (session.withStore store).announce hooks number candidate item
      (next, some notice)

/-- Visit candidates in order, the evictions being numbered from the given number on. -/
def visitAll
    (hooks : SweepHooks V R)
    (now : Instant)
    (number : Nat)
    (session : Session V) :
    List Candidate → Session V × List (Notice V R) × SweepCount
  | [] => (session, [], SweepCount.zero)
  | candidate :: rest =>
      match session.visit hooks now number candidate with
      | (next, none) =>
          let (last, notices, count) :=
            visitAll hooks now number next rest
          (last, notices, count.addStale)
      | (next, some notice) =>
          let (last, notices, count) :=
            visitAll hooks now (number + 1) next rest
          (last, notice :: notices, count.addEvicted)

/-- Take the closed buckets out of the index and visit what they note. -/
def sweep
    (session : Session V)
    (hooks : SweepHooks V R) :
    Session V × Sweep V R :=
  let now := session.clock
  let (due, pending) := session.store.index.takeDue now
  let (last, notices, count) :=
    visitAll hooks now 0
      (session.withStore (session.store.withIndex pending))
      (due.candidates session.listing)
  (last,
    { taken := due.bucketSizes
      notices := notices
      count := count })

end Session

end TtlStore
