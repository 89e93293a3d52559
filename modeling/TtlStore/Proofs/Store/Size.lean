import Mathlib.Algebra.BigOperators.Group.List.Basic
import Mathlib.Algebra.GroupWithZero.Nat
import TtlStore.Proofs.Store.Placement

/-!
# The number of entries

The size of a store is the sum of the sizes of its shards, so a change of one
shard changes it by as much as it changes that shard.
-/

namespace TtlStore.Store

variable {V : Type}

/-- Changing one element of a list changes a sum over the list by that element's change. -/
theorem sum_map_modify
    {Element : Type}
    (weight : Element → Nat)
    (change : Element → Element)
    (elements : List Element)
    (position : Nat)
    {element : Element}
    (found : elements[position]? = some element) :
    ((elements.modify position change).map weight).sum + weight element =
      (elements.map weight).sum + weight (change element) := by
  induction elements generalizing position with
  | nil => simp at found
  | cons head tail induction =>
      cases position with
      | zero =>
          cases found
          simp only [List.modify_zero_cons, List.map_cons, List.sum_cons]
          omega
      | succ position =>
          have later := induction position (by simpa using found)
          simp only [List.modify_succ_cons, List.map_cons, List.sum_cons]
          omega

theorem size_eq_sum (store : Store V) :
    store.size = (store.shards.toList.map (·.size)).sum :=
  rfl

theorem size_empty
    (shards : Nat)
    (calendar : Calendar)
    (positive : 0 < shards) :
    (empty shards calendar positive : Store V).size = 0 := by
  simp [size_eq_sum, empty]

theorem size_modify
    (store changed : Store V)
    (shard : Nat)
    (change : Shard V → Shard V)
    (changedShards :
      changed.shards = store.shards.modify shard change)
    {entries : Shard V}
    (found : store.shards[shard]? = some entries) :
    changed.size + entries.size = store.size + (change entries).size := by
  rw [size_eq_sum, size_eq_sum, changedShards, Array.toList_modify]
  exact sum_map_modify (·.size) change store.shards.toList shard
    (by simpa using found)

/-- The shard of a key holds it exactly if looking it up finds something. -/
theorem contains_iff_lookup_isSome
    {store : Store V}
    {key : Key}
    {entries : Shard V}
    (found : store.shards[store.shardOf key]? = some entries) :
    entries.contains key = (store.lookup key).isSome := by
  rw [lookup, found, Option.bind_some,
    Std.ExtTreeMap.contains_eq_isSome_getElem?]

/-- Putting an entry under a free key adds one entry, and under a taken one none. -/
theorem size_put (store : Store V) (key : Key) (entry : Entry V) :
    (store.put key entry).size =
      if (store.lookup key).isSome then store.size else store.size + 1 := by
  rcases store.exists_shard key with ⟨entries, found⟩
  have change :=
    size_modify store (store.put key entry) (store.shardOf key)
      (·.insert key entry) rfl found
  rw [Std.ExtTreeMap.size_insert, contains_iff_lookup_isSome found] at change
  split at change
  · rename_i taken
    rw [if_pos taken]
    omega
  · rename_i free
    rw [if_neg free]
    omega

/-- Dropping a taken key removes one entry. -/
theorem size_drop
    {store : Store V}
    {key : Key}
    {entry : Entry V}
    (stored : store.lookup key = some entry) :
    (store.drop key).size + 1 = store.size := by
  rcases store.exists_shard key with ⟨entries, found⟩
  have taken : entries.contains key = true := by
    rw [contains_iff_lookup_isSome found, stored]
    rfl
  have change :=
    size_modify store (store.drop key) (store.shardOf key)
      (·.erase key) rfl found
  have positive : entries.size ≠ 0 := by
    intro none
    rw [← Std.ExtTreeMap.eq_empty_iff_size_eq_zero] at none
    simp [none] at taken
  rw [Std.ExtTreeMap.size_erase, if_pos taken] at change
  omega

/-- Emptying a shard removes as many entries as it hands out items. -/
theorem size_emptyShard
    (store : Store V)
    (listing : Listing)
    (shard : Nat) :
    (store.emptyShard shard).size + (store.shardItems listing shard).length =
      store.size := by
  rw [shardItems]
  cases found : store.shards[shard]? with
  | none =>
      have beyond : store.shards.toList.length ≤ shard := by
        simpa using found
      have unchanged : (store.emptyShard shard).size = store.size := by
        rw [size_eq_sum, emptyShard, Array.toList_modify,
          List.modify_eq_self beyond, size_eq_sum]
      simpa using unchanged
  | some entries =>
      have change :=
        size_modify store (store.emptyShard shard) shard
          (fun _ => ∅) rfl found
      simpa using change

theorem isEmpty_iff_size_eq_zero (store : Store V) :
    store.isEmpty = true ↔ store.size = 0 := by
  rw [size_eq_sum, List.sum_eq_zero_iff_forall_eq_nat, isEmpty,
    Array.all_eq_true_iff_forall_mem]
  simp [Std.ExtTreeMap.isEmpty_eq_size_beq_zero]

end TtlStore.Store
