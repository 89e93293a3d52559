import TtlStore.Index.Basic
import TtlStore.Item
import TtlStore.Settings

/-!
# The sharded store

A store keeps its entries in a fixed number of shards, each an ordered map, and
notes the expiring ones in an index.  A key belongs to the shard that its
remainder by the number of shards names, so every operation on one key looks at
one shard.

Writes keep the index in step with the shards.  Two operations do not: evicting
a candidate leaves the index alone because the candidate was taken out of it
before, and draining a shard leaves notes behind that no longer describe a
stored entry.
-/

namespace TtlStore

/-- The entries of one shard. -/
abbrev Shard (V : Type) := Std.ExtTreeMap Key (Entry V)

/-- At least one shard, and the index of the keys that expire. -/
structure Store (V : Type) where
  shards : Array (Shard V)
  index : ExpiryIndex
  shards_nonempty : 0 < shards.size

/--
An entry answers a candidate if it has the candidate's token and a past deadline
in the candidate's bucket.
-/
def Entry.answers
    {V : Type}
    (entry : Entry V)
    (calendar : Calendar)
    (candidate : Candidate)
    (now : Instant) :
    Bool :=
  entry.token == candidate.token &&
    match entry.deadline with
    | none => false
    | some deadline =>
        calendar.bucketOf deadline == candidate.bucket &&
          decide (deadline < now)

namespace Store

variable {V : Type}

/-- A store without entries. -/
def empty
    (shards : Nat)
    (calendar : Calendar)
    (positive : 0 < shards) :
    Store V where
  shards := Array.replicate shards ∅
  index := ExpiryIndex.empty calendar
  shards_nonempty := by
    rw [Array.size_replicate]
    exact positive

/-- The empty store that valid settings describe, its epoch being now. -/
def ofSettings
    (settings : StoreSettings)
    (now : Instant) :
    Except SettingsError (Store V) :=
  match verdict : settings.validate with
  | .error error => .error error
  | .ok () =>
      .ok
        (empty settings.shards
          (Calendar.ofWidth now settings.bucketWidth)
          (settings.validate_eq_ok_iff.mp verdict).1)

/-- The store that the standard settings describe. -/
def standard (now : Instant) : Store V :=
  empty StoreSettings.standard.shards
    (Calendar.ofWidth now StoreSettings.standard.bucketWidth)
    (by decide)

/-! ## Shards -/

/-- The number of shards. -/
def shardCount (store : Store V) : Nat :=
  store.shards.size

/-- The shard to which a key belongs. -/
def shardOf (store : Store V) (key : Key) : Nat :=
  key.toNat % store.shardCount

theorem shardOf_lt (store : Store V) (key : Key) :
    store.shardOf key < store.shards.size :=
  Nat.mod_lt _ store.shards_nonempty

/-- The entry stored under a key, expired or not. -/
def lookup (store : Store V) (key : Key) : Option (Entry V) :=
  (store.shards[store.shardOf key]?).bind (·[key]?)

/-- Store an entry under a key, whatever was there, without telling the index. -/
def put (store : Store V) (key : Key) (entry : Entry V) : Store V where
  shards :=
    store.shards.modify (store.shardOf key) (·.insert key entry)
  index := store.index
  shards_nonempty := by
    rw [Array.size_modify]
    exact store.shards_nonempty

/-- Drop what is stored under a key, without telling the index. -/
def drop (store : Store V) (key : Key) : Store V where
  shards :=
    store.shards.modify (store.shardOf key) (·.erase key)
  index := store.index
  shards_nonempty := by
    rw [Array.size_modify]
    exact store.shards_nonempty

/-- Replace the index. -/
def withIndex (store : Store V) (index : ExpiryIndex) : Store V :=
  { store with index := index }

/-! ## Reading -/

/-- The entry under a key, if a read with the given token is answered. -/
def recognised? (store : Store V) (key : Key) (token : Token) :
    Option (Entry V) :=
  (store.lookup key).filter fun entry =>
    Token.answersRead entry.token token

/-- The value under a key, unless the token is wrong or the deadline has passed. -/
def get
    (store : Store V)
    (key : Key)
    (token : Token)
    (now : Instant) :
    Option V :=
  match store.recognised? key token with
  | none => none
  | some entry =>
      if deadlinePassed entry.deadline now then none else some entry.value

/-- The deadline of the entry under a key, whoever asks. -/
def deadline? (store : Store V) (key : Key) : Option Instant :=
  (store.lookup key).bind (·.deadline)

/-! ## Writing -/

/-- A write is refused if the entry under its key belongs to another token. -/
def refuses (store : Store V) (key : Key) (token : Token) : Bool :=
  match store.lookup key with
  | none => false
  | some entry => !Token.acceptsWrite entry.token token

/-- Store an item, unless that is refused. -/
def set (store : Store V) (item : Item V) : Store V :=
  match store.lookup item.key with
  | none =>
      (store.put item.key item.entry).withIndex
        (store.index.add item.key item.token item.deadline)
  | some existing =>
      if Token.acceptsWrite existing.token item.token then
        (store.put item.key item.entry).withIndex
          (store.index.move item.key item.token
            existing.deadline item.deadline)
      else
        store

/-- Replace the entry under an item's key, if there is one, and hand out its value. -/
def update (store : Store V) (item : Item V) : Store V × Option V :=
  match store.lookup item.key with
  | none => (store, none)
  | some existing =>
      if Token.acceptsWrite existing.token item.token then
        ((store.put item.key item.entry).withIndex
          (store.index.move item.key item.token
            existing.deadline item.deadline),
          some existing.value)
      else
        (store, none)

/-- Drop the entry under a key, if there is one, and hand out its token and value. -/
def delete
    (store : Store V)
    (key : Key)
    (token : Token) :
    Store V × Option (Token × V) :=
  match store.lookup key with
  | none => (store, none)
  | some existing =>
      if Token.acceptsWrite existing.token token then
        ((store.drop key).withIndex
          (store.index.remove key existing.deadline),
          some (existing.token, existing.value))
      else
        (store, none)

/-! ## Eviction -/

/-- Drop and hand out the entry that answers a candidate, if there is one. -/
def evict
    (store : Store V)
    (candidate : Candidate)
    (now : Instant) :
    Store V × Option (Item V) :=
  match store.lookup candidate.key with
  | none => (store, none)
  | some entry =>
      if entry.answers store.index.calendar candidate now then
        (store.drop candidate.key, some (entry.handedOut candidate.key))
      else
        (store, none)

/-- The items of a shard as they are handed out, in the order its keys are listed. -/
def shardItems
    (store : Store V)
    (listing : Listing)
    (shard : Nat) :
    List (Item V) :=
  match store.shards[shard]? with
  | none => []
  | some entries =>
      (listing.entries (.shard shard) entries).map fun (key, entry) =>
        entry.handedOut key

/-- Drop all entries of a shard. -/
def emptyShard (store : Store V) (shard : Nat) : Store V where
  shards := store.shards.modify shard fun _ => ∅
  index := store.index
  shards_nonempty := by
    rw [Array.size_modify]
    exact store.shards_nonempty

/-! ## Size -/

/-- The number of entries in each shard. -/
def shardSizes (store : Store V) : List Nat :=
  store.shards.toList.map (·.size)

/-- The number of entries, expired ones included. -/
def size (store : Store V) : Nat :=
  store.shardSizes.foldr (· + ·) 0

/-- No shard has an entry. -/
def isEmpty (store : Store V) : Bool :=
  store.shards.all (·.isEmpty)

/-- All keys with their entries, by key. -/
def toList (store : Store V) : List (Key × Entry V) :=
  (store.shards.toList.flatMap (·.toList)).mergeSort
    fun left right => decide (left.1 ≤ right.1)

end Store

end TtlStore
