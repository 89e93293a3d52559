import TtlStore.Store.Basic

/-!
# The store as a map of keys

A store is seen through the entry that it holds under a key, whichever shard
that is in.  Putting and dropping concern one key, emptying a shard concerns the
keys that belong to it, and none of them changes the number of shards, to which
the shard of a key is tied.
-/

namespace TtlStore.Store

variable {V : Type}

/-- Stores with the same shards and the same index are the same. -/
theorem ext_shards
    {left right : Store V}
    (sameShards : left.shards = right.shards)
    (sameIndex : left.index = right.index) :
    left = right := by
  rcases left with ⟨leftShards, leftIndex, _⟩
  rcases right with ⟨rightShards, rightIndex, _⟩
  cases sameShards
  cases sameIndex
  rfl

@[simp]
theorem shardCount_empty
    (shards : Nat)
    (calendar : Calendar)
    (positive : 0 < shards) :
    (empty shards calendar positive : Store V).shardCount = shards := by
  simp [empty, shardCount]

@[simp]
theorem shardCount_put (store : Store V) (key : Key) (entry : Entry V) :
    (store.put key entry).shardCount = store.shardCount := by
  simp [put, shardCount]

@[simp]
theorem shardCount_drop (store : Store V) (key : Key) :
    (store.drop key).shardCount = store.shardCount := by
  simp [drop, shardCount]

@[simp]
theorem shardCount_emptyShard (store : Store V) (shard : Nat) :
    (store.emptyShard shard).shardCount = store.shardCount := by
  simp [emptyShard, shardCount]

@[simp]
theorem shardCount_withIndex (store : Store V) (index : ExpiryIndex) :
    (store.withIndex index).shardCount = store.shardCount :=
  rfl

@[simp]
theorem index_withIndex (store : Store V) (index : ExpiryIndex) :
    (store.withIndex index).index = index :=
  rfl

@[simp]
theorem index_put (store : Store V) (key : Key) (entry : Entry V) :
    (store.put key entry).index = store.index :=
  rfl

@[simp]
theorem index_drop (store : Store V) (key : Key) :
    (store.drop key).index = store.index :=
  rfl

@[simp]
theorem index_emptyShard (store : Store V) (shard : Nat) :
    (store.emptyShard shard).index = store.index :=
  rfl

@[simp]
theorem lookup_withIndex
    (store : Store V)
    (index : ExpiryIndex)
    (key : Key) :
    (store.withIndex index).lookup key = store.lookup key :=
  rfl

@[simp]
theorem lookup_empty
    (shards : Nat)
    (calendar : Calendar)
    (positive : 0 < shards)
    (key : Key) :
    (empty shards calendar positive : Store V).lookup key = none := by
  unfold lookup empty
  rw [Array.getElem?_replicate]
  split <;> simp

/-- Putting an entry under a key changes what is stored there and nothing else. -/
theorem lookup_put
    (store : Store V)
    (key otherKey : Key)
    (entry : Entry V) :
    (store.put key entry).lookup otherKey =
      if key = otherKey then some entry else store.lookup otherKey := by
  have inRange := store.shardOf_lt key
  have sameShards :
      (store.put key entry).shardOf otherKey = store.shardOf otherKey := by
    simp [shardOf]
  unfold lookup
  rw [sameShards]
  unfold put
  by_cases sameShard : store.shardOf key = store.shardOf otherKey
  · rw [← sameShard, Array.getElem?_modify]
    simp only [if_true, Array.getElem?_eq_getElem inRange, Option.map_some,
      Option.bind_some]
    simp [Std.ExtTreeMap.getElem?_insert]
  · have differentKeys : key ≠ otherKey := by
      intro sameKey
      exact sameShard (congrArg store.shardOf sameKey)
    simp [Array.getElem?_modify, sameShard, differentKeys]

/-- Dropping a key removes what is stored there and nothing else. -/
theorem lookup_drop (store : Store V) (key otherKey : Key) :
    (store.drop key).lookup otherKey =
      if key = otherKey then none else store.lookup otherKey := by
  have inRange := store.shardOf_lt key
  have sameShards :
      (store.drop key).shardOf otherKey = store.shardOf otherKey := by
    simp [shardOf]
  unfold lookup
  rw [sameShards]
  unfold drop
  by_cases sameShard : store.shardOf key = store.shardOf otherKey
  · rw [← sameShard, Array.getElem?_modify]
    simp only [if_true, Array.getElem?_eq_getElem inRange, Option.map_some,
      Option.bind_some]
    simp [Std.ExtTreeMap.getElem?_erase]
  · have differentKeys : key ≠ otherKey := by
      intro sameKey
      exact sameShard (congrArg store.shardOf sameKey)
    simp [Array.getElem?_modify, sameShard, differentKeys]

/-- Emptying a shard removes what is stored under its keys and nothing else. -/
theorem lookup_emptyShard
    (store : Store V)
    (shard : Nat)
    (key : Key) :
    (store.emptyShard shard).lookup key =
      if shard = store.shardOf key then none else store.lookup key := by
  have inRange := store.shardOf_lt key
  have sameShards :
      (store.emptyShard shard).shardOf key = store.shardOf key := by
    simp [shardOf]
  unfold lookup
  rw [sameShards]
  unfold emptyShard
  by_cases sameShard : shard = store.shardOf key
  · subst sameShard
    simp [Array.getElem?_modify, Array.getElem?_eq_getElem inRange]
  · simp [Array.getElem?_modify, sameShard]

/-! ## Opening a store -/

theorem ofSettings_of_valid
    {settings : StoreSettings}
    (valid : settings.validate = .ok ())
    (now : Instant) :
    (Store.ofSettings settings now : Except SettingsError (Store V)) =
      .ok
        (Store.empty settings.shards
          (Calendar.ofWidth now settings.bucketWidth)
          (settings.validate_eq_ok_iff.mp valid).1) := by
  rw [Store.ofSettings]
  split
  · rename_i error refused
    rw [valid] at refused
    cases refused
  · rfl

theorem eq_empty_of_ofSettings
    {settings : StoreSettings}
    (valid : settings.validate = .ok ())
    {now : Instant}
    {store : Store V}
    (made : Store.ofSettings settings now = .ok store) :
    store =
      Store.empty settings.shards
        (Calendar.ofWidth now settings.bucketWidth)
        (settings.validate_eq_ok_iff.mp valid).1 :=
  Except.ok.inj (made.symm.trans (ofSettings_of_valid valid now))

theorem validate_of_ofSettings
    {settings : StoreSettings}
    {now : Instant}
    {store : Store V}
    (made : Store.ofSettings settings now = .ok store) :
    settings.validate = .ok () := by
  rw [Store.ofSettings] at made
  split at made
  · cases made
  · assumption

end TtlStore.Store
