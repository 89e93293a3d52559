import Std.Data.ExtTreeMap
import TtlStore.Calendar
import TtlStore.Token

/-!
# Listings

The keys under one bucket and the entries of one shard are kept in tables.  A
table lists its keys in an order of its own, of which nothing is known but that
no key is left out and none comes twice.  A listing fixes such an order for
every table and every set of keys it may hold.

The tables themselves are ordered finite maps, and the simplest listing keeps
their ascending order.
-/

namespace TtlStore

/-- A table that is listed as a whole: the keys of a bucket or those of a shard. -/
inductive Table where
  | bucket (number : Bucket)
  | shard (number : Nat)
deriving DecidableEq

/-- The order in which each table lists its keys. -/
structure Listing where
  arrange : Table → List Key → List Key
  arrange_perm (table : Table) (keys : List Key) : (arrange table keys).Perm keys

namespace Listing

variable {Value : Type}

/-- Every table lists its keys as they ascend. -/
def ascending : Listing where
  arrange _ keys := keys
  arrange_perm _ keys := .refl keys

/-- The keys of a table with what it holds under them, in the order of a listing. -/
def entries
    (listing : Listing)
    (table : Table)
    (held : Std.ExtTreeMap Key Value) :
    List (Key × Value) :=
  (listing.arrange table held.keys).filterMap fun key =>
    held[key]?.map fun value => (key, value)

/-- As they ascend, the keys of a table are those of the map. -/
@[simp]
theorem entries_ascending (table : Table) (held : Std.ExtTreeMap Key Value) :
    ascending.entries table held = held.toList := by
  -- By induction on a part of the list, while the map stays whole.
  have found (part : List (Key × Value)) (within : part ⊆ held.toList) :
      (part.map Prod.fst).filterMap
          (fun key => held[key]?.map fun value => (key, value)) = part := by
    induction part with
    | nil => rfl
    | cons entry rest induction =>
        rcases List.cons_subset.mp within with ⟨member, others⟩
        have value := Std.ExtTreeMap.mem_toList_iff_getElem?_eq_some.mp member
        simp only [List.map_cons, List.filterMap_cons, value, Option.map_some,
          induction others]
  rw [entries, ascending, ← Std.ExtTreeMap.map_fst_toList_eq_keys]
  exact found held.toList (List.Subset.refl _)

/-- Every listing gives the same entries. -/
theorem entries_perm
    (listing : Listing)
    (table : Table)
    (held : Std.ExtTreeMap Key Value) :
    (listing.entries table held).Perm held.toList := by
  rw [← entries_ascending table]
  exact (listing.arrange_perm table held.keys).filterMap _

@[simp]
theorem mem_entries
    (listing : Listing)
    (table : Table)
    {held : Std.ExtTreeMap Key Value}
    {entry : Key × Value} :
    entry ∈ listing.entries table held ↔ held[entry.1]? = some entry.2 := by
  rw [(listing.entries_perm table held).mem_iff]
  exact Std.ExtTreeMap.mem_toList_iff_getElem?_eq_some

@[simp]
theorem length_entries
    (listing : Listing)
    (table : Table)
    (held : Std.ExtTreeMap Key Value) :
    (listing.entries table held).length = held.size := by
  rw [(listing.entries_perm table held).length_eq,
    Std.ExtTreeMap.length_toList]

/-- No key is listed twice. -/
theorem nodup_keys_entries
    (listing : Listing)
    (table : Table)
    (held : Std.ExtTreeMap Key Value) :
    ((listing.entries table held).map Prod.fst).Nodup := by
  rw [((listing.entries_perm table held).map Prod.fst).nodup_iff,
    Std.ExtTreeMap.map_fst_toList_eq_keys]
  exact Std.ExtTreeMap.nodup_keys

end Listing

end TtlStore
