import TtlStore.Listing

/-!
# The expiry index

The index notes under each bucket of its calendar which keys expire in it, and
with which token.  A sweep takes the closed buckets out of it, so that it need
not look at any other key.

Both levels are ordered finite maps, which are equal as soon as they hold the
same entries.  A bucket is created by its first key and dropped with its last
one, so that the index holds no empty bucket and its number of buckets means
something.

The index may note keys that are no longer stored, or are stored with another
deadline: whoever acts on a candidate has to look at the store first.
-/

namespace TtlStore

/-- The keys noted under one bucket, each with its token. -/
abbrev BucketKeys := Std.ExtTreeMap Key Token

/-- The keys that expire, grouped by the bucket of their deadline. -/
structure ExpiryIndex where
  calendar : Calendar
  buckets : Std.ExtTreeMap Bucket BucketKeys

/-- One note of the index: a key to look at, and what it should be found with. -/
structure Candidate where
  bucket : Bucket
  key : Key
  token : Token
deriving DecidableEq

namespace ExpiryIndex

/-- The index without notes. -/
def empty (calendar : Calendar) : ExpiryIndex where
  calendar := calendar
  buckets := ∅

/-- The token noted for a key under a bucket. -/
def token? (index : ExpiryIndex) (bucket : Bucket) (key : Key) :
    Option Token :=
  (index.buckets[bucket]?).bind (·[key]?)

/-- Note a key under a bucket, in place of an earlier note of it there. -/
def place
    (index : ExpiryIndex)
    (bucket : Bucket)
    (key : Key)
    (token : Token) :
    ExpiryIndex :=
  { index with
    buckets := index.buckets.alter bucket fun keys =>
      some ((keys.getD ∅).insert key token) }

/-- Strike a key under a bucket, and the bucket with its last key. -/
def withdraw
    (index : ExpiryIndex)
    (bucket : Bucket)
    (key : Key) :
    ExpiryIndex :=
  { index with
    buckets := index.buckets.alter bucket fun keys =>
      match keys with
      | none => none
      | some keys =>
          let remaining := keys.erase key
          if remaining.isEmpty then none else some remaining }

/-- Note a key under the bucket of its deadline, if it has one. -/
def add
    (index : ExpiryIndex)
    (key : Key)
    (token : Token)
    (deadline : Option Instant) :
    ExpiryIndex :=
  match deadline with
  | none => index
  | some deadline => index.place (index.calendar.bucketOf deadline) key token

/-- Strike a key under the bucket of its deadline, if it has one. -/
def remove
    (index : ExpiryIndex)
    (key : Key)
    (deadline : Option Instant) :
    ExpiryIndex :=
  match deadline with
  | none => index
  | some deadline => index.withdraw (index.calendar.bucketOf deadline) key

/--
Note a key under the bucket of its new deadline rather than its old one.  A key
that stays in its bucket only has its token replaced there.
-/
def move
    (index : ExpiryIndex)
    (key : Key)
    (token : Token)
    (old new : Option Instant) :
    ExpiryIndex :=
  match old, new with
  | none, none => index
  | some old, none => index.withdraw (index.calendar.bucketOf old) key
  | none, some new => index.place (index.calendar.bucketOf new) key token
  | some old, some new =>
      let source := index.calendar.bucketOf old
      let target := index.calendar.bucketOf new
      if source = target then
        index.place target key token
      else
        (index.withdraw source key).place target key token

/-- The closed buckets at an instant. -/
def due (index : ExpiryIndex) (now : Instant) : ExpiryIndex :=
  { index with
    buckets := index.buckets.filter fun bucket _ =>
      decide (bucket ≤ index.calendar.lastClosed now) }

/-- The buckets that are not closed at an instant. -/
def pending (index : ExpiryIndex) (now : Instant) : ExpiryIndex :=
  { index with
    buckets := index.buckets.filter fun bucket _ =>
      decide (index.calendar.lastClosed now < bucket) }

/-- Part the index into its closed buckets and what remains of it. -/
def takeDue (index : ExpiryIndex) (now : Instant) :
    ExpiryIndex × ExpiryIndex :=
  (index.due now, index.pending now)

/-- The number of notes under each bucket, by bucket. -/
def bucketSizes (index : ExpiryIndex) : List (Bucket × Nat) :=
  index.buckets.toList.map fun (bucket, keys) => (bucket, keys.size)

/-- The number of notes. -/
def size (index : ExpiryIndex) : Nat :=
  (index.bucketSizes.map Prod.snd).foldr (· + ·) 0

/-- The number of buckets. -/
def bucketCount (index : ExpiryIndex) : Nat :=
  index.buckets.size

/-- The index has no bucket. -/
def isEmpty (index : ExpiryIndex) : Bool :=
  index.buckets.isEmpty

/-- The notes by bucket and key, each bucket with its keys and tokens. -/
def toList (index : ExpiryIndex) : List (Bucket × List (Key × Token)) :=
  index.buckets.toList.map fun (bucket, keys) => (bucket, keys.toList)

/-- The notes as one list, by bucket and, within a bucket, as its keys are listed. -/
def candidates (index : ExpiryIndex) (listing : Listing) : List Candidate :=
  index.buckets.toList.flatMap fun (bucket, keys) =>
    (listing.entries (.bucket bucket) keys).map fun (key, token) =>
      { bucket := bucket, key := key, token := token }

end ExpiryIndex

end TtlStore
