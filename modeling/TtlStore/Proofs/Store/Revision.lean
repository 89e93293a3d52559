import TtlStore.Proofs.Store.Writing

/-!
# Revising what is under one key

An accepted write makes a key have a given entry, or none, and has its note
match.  Of such revisions two things are known.  To strike a key before it is
revised makes no difference, and revisions of different keys do not interfere,
although the keys may share a shard and a bucket.
-/

namespace TtlStore

variable {V : Type}

/-! ## Notes -/

namespace ExpiryIndex

/-- Strike a key under its old deadline, and note it as the entry that it now has, if any. -/
def renote
    (index : ExpiryIndex)
    (key : Key)
    (old : Option Instant)
    (entry : Option (Entry V)) :
    ExpiryIndex :=
  (index.markAt key old none).markAt key (entry.bind (·.deadline))
    (entry.map (·.token))

/-- Notes of different keys are renewed independently. -/
theorem renote_comm
    (index : ExpiryIndex)
    {key other : Key}
    (different : key ≠ other)
    (old otherOld : Option Instant)
    (entry otherEntry : Option (Entry V)) :
    (index.renote key old entry).renote other otherOld otherEntry =
      (index.renote other otherOld otherEntry).renote key old entry := by
  simp only [renote, markAt_comm _ different]

end ExpiryIndex

/-! ## Entries -/

namespace Store

/-- The store with a given entry under a key, or with none, without telling the index. -/
def replace (store : Store V) (key : Key) (entry : Option (Entry V)) : Store V where
  shards :=
    store.shards.modify (store.shardOf key) (·.alter key fun _ => entry)
  index := store.index
  shards_nonempty := by
    rw [Array.size_modify]
    exact store.shards_nonempty

theorem put_eq_replace (store : Store V) (key : Key) (entry : Entry V) :
    store.put key entry = store.replace key (some entry) := by
  simp only [put, replace, insert_eq_alter]

theorem drop_eq_replace (store : Store V) (key : Key) :
    store.drop key = store.replace key none := by
  simp only [drop, replace, erase_eq_alter]

theorem getElem?_shards_replace
    (store : Store V)
    (key : Key)
    (entry : Option (Entry V))
    (shard : Nat) :
    (store.replace key entry).shards[shard]? =
      if store.shardOf key = shard then
        store.shards[shard]?.map (·.alter key fun _ => entry)
      else
        store.shards[shard]? :=
  Array.getElem?_modify

@[simp]
theorem shardOf_replace
    (store : Store V)
    (key other : Key)
    (entry : Option (Entry V)) :
    (store.replace key entry).shardOf other = store.shardOf other := by
  simp [replace, shardOf, shardCount]

/-- What is put under a key last counts. -/
theorem replace_replace
    (store : Store V)
    (key : Key)
    (first second : Option (Entry V)) :
    (store.replace key first).replace key second =
      store.replace key second := by
  apply ext_shards
  · apply Array.ext_getElem?
    intro shard
    simp only [getElem?_shards_replace, shardOf_replace]
    split
    · simp only [Option.map_map, Function.comp_def, alter_alter]
    · rfl
  · rfl

/-- What is put under different keys does not interfere, in one shard or two. -/
theorem replace_comm
    (store : Store V)
    {key other : Key}
    (different : key ≠ other)
    (entry otherEntry : Option (Entry V)) :
    (store.replace key entry).replace other otherEntry =
      (store.replace other otherEntry).replace key entry := by
  apply ext_shards
  · apply Array.ext_getElem?
    intro shard
    simp only [getElem?_shards_replace, shardOf_replace]
    by_cases here : store.shardOf key = shard
    · by_cases there : store.shardOf other = shard
      · simp only [here, there, if_true, Option.map_map, Function.comp_def,
          alter_comm _ different]
      · simp only [here, there, if_true, if_false]
    · simp only [here, if_false]
  · rfl

theorem drop_comm (store : Store V) (key other : Key) :
    (store.drop key).drop other = (store.drop other).drop key := by
  by_cases same : key = other
  · rw [same]
  · simp only [drop_eq_replace, store.replace_comm same]

/-! ## Writes -/

/-- The store with a given entry under a key, or with none, and with the note to match. -/
def revise (store : Store V) (key : Key) (entry : Option (Entry V)) : Store V :=
  (store.replace key entry).withIndex
    (store.index.renote key (store.deadline? key) entry)

theorem index_revise
    (store : Store V)
    (key : Key)
    (entry : Option (Entry V)) :
    (store.revise key entry).index =
      store.index.renote key (store.deadline? key) entry :=
  rfl

theorem lookup_replace
    (store : Store V)
    (key other : Key)
    (entry : Option (Entry V)) :
    (store.replace key entry).lookup other =
      if key = other then entry else store.lookup other := by
  cases entry with
  | none => rw [← drop_eq_replace, lookup_drop]
  | some entry => rw [← put_eq_replace, lookup_put]

theorem lookup_revise
    (store : Store V)
    (key other : Key)
    (entry : Option (Entry V)) :
    (store.revise key entry).lookup other =
      if key = other then entry else store.lookup other :=
  store.lookup_replace key other entry

/-- An accepted item is what is under its key from now on. -/
theorem set_eq_revise
    {store : Store V}
    {item : Item V}
    (accepted : store.refuses item.key item.token = false) :
    store.set item = store.revise item.key (some item.entry) := by
  rw [set_eq_move accepted, put_eq_replace, ExpiryIndex.move_eq_add_remove,
    ExpiryIndex.add_eq_markAt, ExpiryIndex.remove_eq_markAt]
  rfl

/-- An accepted deletion leaves nothing under the key. -/
theorem delete_eq_revise
    {store : Store V}
    {key : Key}
    {token : Token}
    {existing : Entry V}
    (stored : store.lookup key = some existing)
    (accepted : store.refuses key token = false) :
    store.delete key token =
      (store.revise key none,
        some (existing.token, existing.value)) := by
  have sameDeadline : store.deadline? key = existing.deadline := by
    rw [deadline?, stored, Option.bind_some]
  rw [delete_of_some stored accepted, drop_eq_replace,
    ExpiryIndex.remove_eq_markAt, ← sameDeadline]
  rfl

/-- Striking a key before it is revised makes no difference. -/
theorem revise_none_revise
    (store : Store V)
    (key : Key)
    (entry : Option (Entry V)) :
    (store.revise key none).revise key entry = store.revise key entry := by
  have noDeadline : (store.revise key none).deadline? key = none := by
    rw [deadline?, lookup_revise, if_pos rfl, Option.bind_none]
  have sameShards :
      ((store.replace key none).replace key entry).shards =
        (store.replace key entry).shards :=
    congrArg shards (store.replace_replace key none entry)
  have sameIndex :
      ((store.revise key none).revise key entry).index =
        (store.revise key entry).index := by
    rw [index_revise, noDeadline]
    rfl
  exact ext_shards sameShards sameIndex

/-- Revisions of different keys do not interfere. -/
theorem revise_comm
    (store : Store V)
    {key other : Key}
    (different : key ≠ other)
    (entry otherEntry : Option (Entry V)) :
    (store.revise key entry).revise other otherEntry =
      (store.revise other otherEntry).revise key entry := by
  have otherDeadline :
      (store.revise key entry).deadline? other = store.deadline? other := by
    rw [deadline?, lookup_revise, if_neg different, deadline?]
  have deadline :
      (store.revise other otherEntry).deadline? key = store.deadline? key := by
    rw [deadline?, lookup_revise, if_neg (Ne.symm different), deadline?]
  have sameShards :
      ((store.replace key entry).replace other otherEntry).shards =
        ((store.replace other otherEntry).replace key entry).shards :=
    congrArg shards (store.replace_comm different entry otherEntry)
  have sameIndex :
      ((store.revise key entry).revise other otherEntry).index =
        ((store.revise other otherEntry).revise key entry).index := by
    rw [index_revise, otherDeadline, index_revise, index_revise, deadline,
      index_revise, ExpiryIndex.renote_comm _ different]
  exact ext_shards sameShards sameIndex

end Store

end TtlStore
