import Mathlib.Data.List.Nodup
import Mathlib.Data.List.Perm.Basic
import TtlStore.Store.Lemmas

/-!
# Placement of keys in shards

The shards of a store are a partition of its contents: a key is stored in the
shard it belongs to and in no other.  Every operation on a single shard keeps
that, and it lets all shards be read together as one list without repeated
keys, which holds exactly what looking up a key finds.

The number of entries is the length of that list.  How one operation changes it
is a matter of the shard that it changes alone.
-/

namespace TtlStore.Store

variable {V : Type}

/-- Whatever a shard holds belongs to that shard. -/
def Placed (store : Store V) : Prop :=
  ∀ (shard : Nat) (entries : Shard V),
    store.shards[shard]? = some entries →
      ∀ key ∈ entries, store.shardOf key = shard

/-- A change of one shard keeps the placement if it brings in no foreign key. -/
theorem Placed.modify
    {store changed : Store V}
    (placed : store.Placed)
    (shard : Nat)
    (change : Shard V → Shard V)
    (changedShards :
      changed.shards = store.shards.modify shard change)
    (native :
      ∀ entries, ∀ key ∈ change entries,
        key ∈ entries ∨ store.shardOf key = shard) :
    changed.Placed := by
  have sameShard : ∀ key, changed.shardOf key = store.shardOf key := by
    intro key
    simp [shardOf, shardCount, changedShards]
  intro position entries found key member
  rw [sameShard]
  rw [changedShards, Array.getElem?_modify] at found
  by_cases here : shard = position
  · rw [if_pos here] at found
    rcases Option.map_eq_some_iff.mp found with ⟨old, oldFound, rfl⟩
    rcases native old key member with kept | arrived
    · exact placed position old oldFound key kept
    · exact arrived.trans here
  · rw [if_neg here] at found
    exact placed position entries found key member

theorem placed_empty
    (shards : Nat)
    (calendar : Calendar)
    (positive : 0 < shards) :
    (empty shards calendar positive : Store V).Placed := by
  intro shard entries found key member
  simp only [empty, Array.getElem?_replicate] at found
  split at found
  · cases found
    simp at member
  · cases found

theorem Placed.withIndex
    {store : Store V}
    (placed : store.Placed)
    (index : ExpiryIndex) :
    (store.withIndex index).Placed :=
  placed

theorem Placed.put
    {store : Store V}
    (placed : store.Placed)
    (key : Key)
    (entry : Entry V) :
    (store.put key entry).Placed := by
  refine placed.modify (store.shardOf key) (·.insert key entry) rfl ?_
  intro entries other member
  rcases Std.ExtTreeMap.mem_insert.mp member with same | kept
  · exact Or.inr (congrArg store.shardOf (Std.LawfulEqCmp.eq_of_compare same)).symm
  · exact Or.inl kept

theorem Placed.drop
    {store : Store V}
    (placed : store.Placed)
    (key : Key) :
    (store.drop key).Placed := by
  refine placed.modify (store.shardOf key) (·.erase key) rfl ?_
  intro entries other member
  exact Or.inl (Std.ExtTreeMap.mem_of_mem_erase member)

theorem Placed.emptyShard
    {store : Store V}
    (placed : store.Placed)
    (shard : Nat) :
    (store.emptyShard shard).Placed := by
  refine placed.modify shard (fun _ => ∅) rfl ?_
  intro entries other member
  simp at member

theorem exists_shard (store : Store V) (key : Key) :
    ∃ entries, store.shards[store.shardOf key]? = some entries :=
  ⟨_, Array.getElem?_eq_getElem (store.shardOf_lt key)⟩

/-- Only the shard of a key can hold it, and looking the key up finds what it holds. -/
theorem Placed.getElem?_eq_some_iff
    {store : Store V}
    (placed : store.Placed)
    {shard : Nat}
    {entries : Shard V}
    (found : store.shards[shard]? = some entries)
    (key : Key)
    (entry : Entry V) :
    entries[key]? = some entry ↔
      store.shardOf key = shard ∧ store.lookup key = some entry := by
  constructor
  · intro held
    have belongs : store.shardOf key = shard := by
      apply placed shard entries found key
      rw [Std.ExtTreeMap.mem_iff_isSome_getElem?, held]
      rfl
    refine ⟨belongs, ?_⟩
    rw [lookup, belongs, found]
    exact held
  · rintro ⟨rfl, stored⟩
    rw [lookup, found] at stored
    exact stored

/-- A shard holds an entry under a key. -/
def HeldIn
    (store : Store V)
    (shard : Nat)
    (key : Key)
    (entry : Entry V) :
    Prop :=
  ∃ entries,
    store.shards[shard]? = some entries ∧ entries[key]? = some entry

theorem Placed.heldIn_iff
    {store : Store V}
    (placed : store.Placed)
    (shard : Nat)
    (key : Key)
    (entry : Entry V) :
    store.HeldIn shard key entry ↔
      shard = store.shardOf key ∧ store.lookup key = some entry := by
  constructor
  · rintro ⟨entries, found, held⟩
    rcases (placed.getElem?_eq_some_iff found key entry).mp held with
      ⟨belongs, stored⟩
    exact ⟨belongs.symm, stored⟩
  · rintro ⟨rfl, stored⟩
    rcases store.exists_shard key with ⟨entries, found⟩
    exact
      ⟨entries, found,
        (placed.getElem?_eq_some_iff found key entry).mpr ⟨rfl, stored⟩⟩

/-! ## All shards as one list -/

/-- All keys with their entries, shard by shard. -/
def contents (store : Store V) : List (Key × Entry V) :=
  store.shards.toList.flatMap (·.toList)

theorem Placed.mem_contents
    {store : Store V}
    (placed : store.Placed)
    (key : Key)
    (entry : Entry V) :
    (key, entry) ∈ store.contents ↔ store.lookup key = some entry := by
  rw [contents, List.mem_flatMap]
  constructor
  · rintro ⟨entries, member, held⟩
    rcases List.getElem?_of_mem member with ⟨shard, found⟩
    rw [Array.getElem?_toList] at found
    rw [Std.ExtTreeMap.mem_toList_iff_getElem?_eq_some] at held
    exact ((placed.getElem?_eq_some_iff found key entry).mp held).2
  · intro stored
    rcases store.exists_shard key with ⟨entries, found⟩
    refine ⟨entries, ?_, ?_⟩
    · exact Array.mem_toList_iff.mpr (Array.mem_of_getElem? found)
    · rw [Std.ExtTreeMap.mem_toList_iff_getElem?_eq_some]
      exact (placed.getElem?_eq_some_iff found key entry).mpr ⟨rfl, stored⟩

theorem Placed.nodup_keys_contents
    {store : Store V}
    (placed : store.Placed) :
    (store.contents.map Prod.fst).Nodup := by
  have asKeys :
      store.contents.map Prod.fst =
        store.shards.toList.flatMap (·.keys) := by
    simp [contents, List.map_flatMap, Std.ExtTreeMap.map_fst_toList_eq_keys]
  rw [asKeys, List.nodup_flatMap]
  constructor
  · intro entries _
    exact Std.ExtTreeMap.nodup_keys
  · rw [List.pairwise_iff_getElem]
    intro left right leftLt rightLt ordered key leftMember rightMember
    rw [Std.ExtTreeMap.mem_keys, Array.getElem_toList] at leftMember rightMember
    have leftBelongs : store.shardOf key = left :=
      placed left _ (Array.getElem?_eq_getElem leftLt) key leftMember
    have rightBelongs : store.shardOf key = right :=
      placed right _ (Array.getElem?_eq_getElem rightLt) key rightMember
    omega

theorem Placed.nodup_contents
    {store : Store V}
    (placed : store.Placed) :
    store.contents.Nodup :=
  placed.nodup_keys_contents.of_map

theorem length_contents (store : Store V) :
    store.contents.length = store.size := by
  rw [contents, size, shardSizes, List.length_flatMap, List.sum]
  simp [Std.ExtTreeMap.length_toList]

/-- A list without repetitions that holds what looking up finds is as long as the store. -/
theorem Placed.perm_contents
    {store : Store V}
    (placed : store.Placed)
    {entries : List (Key × Entry V)}
    (nodup : entries.Nodup)
    (agrees :
      ∀ key entry, (key, entry) ∈ entries ↔ store.lookup key = some entry) :
    store.contents.Perm entries := by
  rw [List.perm_ext_iff_of_nodup placed.nodup_contents nodup]
  rintro ⟨key, entry⟩
  rw [placed.mem_contents, agrees]

/-! ## Entries as items -/

/-- What entries are handed out as, by key. -/
def itemsOf (entries : Shard V) : List (Item V) :=
  entries.toList.map fun (key, entry) => entry.handedOut key

theorem mem_itemsOf (entries : Shard V) (item : Item V) :
    item ∈ itemsOf entries ↔
      ∃ entry : Entry V,
        entries[item.key]? = some entry ∧
          item = entry.handedOut item.key := by
  rw [itemsOf, List.mem_map]
  constructor
  · rintro ⟨⟨key, entry⟩, held, rfl⟩
    rw [Std.ExtTreeMap.mem_toList_iff_getElem?_eq_some] at held
    exact ⟨entry, held, rfl⟩
  · rintro ⟨entry, held, same⟩
    refine ⟨(item.key, entry), ?_, same.symm⟩
    rw [Std.ExtTreeMap.mem_toList_iff_getElem?_eq_some]
    exact held

theorem nodup_toList (entries : Shard V) : entries.toList.Nodup := by
  apply List.Nodup.of_map Prod.fst
  rw [Std.ExtTreeMap.map_fst_toList_eq_keys]
  exact Std.ExtTreeMap.nodup_keys

theorem nodup_itemsOf (entries : Shard V) : (itemsOf entries).Nodup := by
  apply List.Nodup.of_map (·.key)
  rw [itemsOf, List.map_map]
  change (entries.toList.map Prod.fst).Nodup
  rw [Std.ExtTreeMap.map_fst_toList_eq_keys]
  exact Std.ExtTreeMap.nodup_keys

theorem length_itemsOf (entries : Shard V) :
    (itemsOf entries).length = entries.size := by
  rw [itemsOf, List.length_map, Std.ExtTreeMap.length_toList]

/-- In whatever order entries are listed, they are handed out as the same items. -/
theorem itemsOf_perm
    (listing : Listing)
    (table : Table)
    (entries : Shard V) :
    ((listing.entries table entries).map fun (key, entry) =>
      entry.handedOut key).Perm (itemsOf entries) :=
  (listing.entries_perm table entries).map _

/-- The items of a shard are those of the entries stored under its keys. -/
theorem Placed.mem_shardItems
    {store : Store V}
    (placed : store.Placed)
    (listing : Listing)
    (shard : Nat)
    (item : Item V) :
    item ∈ store.shardItems listing shard ↔
      store.shardOf item.key = shard ∧
        ∃ entry : Entry V,
          store.lookup item.key = some entry ∧
            item = entry.handedOut item.key := by
  rw [shardItems]
  cases found : store.shards[shard]? with
  | none =>
      constructor
      · intro member
        cases member
      · rintro ⟨rfl, _⟩
        rcases store.exists_shard item.key with ⟨entries, present⟩
        rw [present] at found
        cases found
  | some entries =>
      rw [(itemsOf_perm listing (.shard shard) entries).mem_iff, mem_itemsOf]
      simp only [placed.getElem?_eq_some_iff found, and_assoc,
        exists_and_left]

theorem nodup_shardItems
    (store : Store V)
    (listing : Listing)
    (shard : Nat) :
    (store.shardItems listing shard).Nodup := by
  rw [shardItems]
  cases store.shards[shard]? with
  | none => exact List.nodup_nil
  | some entries =>
      rw [(itemsOf_perm listing (.shard shard) entries).nodup_iff]
      exact nodup_itemsOf entries

end TtlStore.Store
