import TtlStore.Store.Basic

/-!
# Sessions and their commands

A session is a store together with the clock that it reads and the order in
which its tables list their keys.  Commands are the operations that involve no
collaborator: each is carried out at one reading of the clock and gives one
reply.  Clock and listing belong to the surroundings of a store, so commands may
set them at will.

A write may name its deadline, or a span of time from now.  In the second case
the deadline may turn out not to be representable; the command then fails
before it has looked at the store.
-/

namespace TtlStore

/-- A store, the clock that it reads, and the order in which its tables list their keys. -/
structure Session (V : Type) where
  store : Store V
  clock : Instant
  listing : Listing := .ascending

/-- How long a written item is to live. -/
inductive Lifetime where
  | unlimited
  | ending (deadline : Instant)
  | lasting (span : Duration)
deriving DecidableEq

/-- A request to store a value. -/
structure Write (V : Type) where
  key : Key
  token : Token
  value : V
  lifetime : Lifetime

/-- The item that a request asks to store at a given reading of the clock. -/
def Write.item {V : Type} (write : Write V) (now : Instant) :
    Except TimeError (Item V) :=
  let item := Item.lasting write.key write.token write.value
  match write.lifetime with
  | .unlimited => .ok item
  | .ending deadline => .ok (item.expiringAt deadline)
  | .lasting span => item.expiringAfter now span

/-- A question about a store that changes nothing. -/
inductive Query where
  | shardCount
  | shardOf (key : Key)
  | shardSizes
  | bucketWidth
  | bucketOf (instant : Instant)
  | index
deriving DecidableEq

/-- The answer to a question about a store. -/
inductive Answer where
  | shardCount (count : Nat)
  | shardOf (shard : Nat)
  | shardSizes (sizes : List Nat)
  | bucketWidth (width : Duration)
  | bucketOf (bucket : Bucket)
  | index (index : ExpiryIndex)

/-- Answer a question about a store. -/
def Store.answer {V : Type} (store : Store V) : Query → Answer
  | .shardCount => .shardCount store.shardCount
  | .shardOf key => .shardOf (store.shardOf key)
  | .shardSizes => .shardSizes store.shardSizes
  | .bucketWidth => .bucketWidth store.index.calendar.width
  | .bucketOf instant => .bucketOf (store.index.calendar.bucketOf instant)
  | .index => .index store.index

/-- An operation without collaborators. -/
inductive Command (V : Type) where
  | set (write : Write V)
  | setAll (writes : List (Write V))
  | update (write : Write V)
  | get (key : Key) (token : Token)
  | delete (key : Key) (token : Token)
  | deadline (key : Key)
  | advance (span : Duration)
  | setClock (instant : Instant)
  | relist (listing : Listing)
  | evict (candidate : Candidate) (now : Instant)
  | indexAdd (key : Key) (token : Token) (deadline : Option Instant)
  | indexMove (key : Key) (token : Token) (old new : Option Instant)
  | indexRemove (key : Key) (deadline : Option Instant)
  | ask (query : Query)

/-- A write that the owner of an entry can refuse. -/
inductive Attempt where
  | set
  | update
  | delete
deriving DecidableEq

end TtlStore
