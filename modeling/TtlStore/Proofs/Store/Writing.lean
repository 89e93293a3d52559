import TtlStore.Proofs.Index
import TtlStore.Store.Lemmas

/-!
# What writes do to the map of keys

Setting, updating and deleting are described by what they do to the entry under
their key and by what they hand out.  A refused write does nothing at all.
-/

namespace TtlStore.Store

variable {V : Type}

theorem refuses_of_none
    {store : Store V}
    {key : Key}
    (free : store.lookup key = none)
    (token : Token) :
    store.refuses key token = false := by
  rw [refuses, free]

theorem refuses_of_some
    {store : Store V}
    {key : Key}
    {entry : Entry V}
    (stored : store.lookup key = some entry)
    (token : Token) :
    store.refuses key token = !Token.acceptsWrite entry.token token := by
  rw [refuses, stored]

/-- Setting an accepted item moves the note of its key from the deadline stored so far. -/
theorem set_eq_move
    {store : Store V}
    {item : Item V}
    (accepted : store.refuses item.key item.token = false) :
    store.set item =
      (store.put item.key item.entry).withIndex
        (store.index.move item.key item.token (store.deadline? item.key)
          item.deadline) := by
  rw [set, deadline?]
  cases stored : store.lookup item.key with
  | none => rw [ExpiryIndex.add_eq_move, Option.bind_none]
  | some existing =>
      rw [refuses_of_some stored, Bool.not_eq_false'] at accepted
      simp only [accepted, if_true, Option.bind_some]

/-- Setting a refused item does nothing. -/
theorem set_of_refused
    {store : Store V}
    {item : Item V}
    (refused : store.refuses item.key item.token = true) :
    store.set item = store := by
  cases stored : store.lookup item.key with
  | none =>
      rw [refuses_of_none stored] at refused
      cases refused
  | some existing =>
      rw [refuses_of_some stored, Bool.not_eq_true'] at refused
      rw [set, stored]
      simp [refused]

/-- Setting an accepted item puts it under its key and tells the index. -/
theorem exists_set_eq
    {store : Store V}
    {item : Item V}
    (accepted : store.refuses item.key item.token = false) :
    ∃ index,
      store.set item = (store.put item.key item.entry).withIndex index :=
  ⟨_, set_eq_move accepted⟩

/-- An accepted item becomes the entry under its key. -/
theorem lookup_set
    {store : Store V}
    {item : Item V}
    (accepted : store.refuses item.key item.token = false)
    (key : Key) :
    (store.set item).lookup key =
      if item.key = key then some item.entry else store.lookup key := by
  rcases exists_set_eq accepted with ⟨index, written⟩
  rw [written, lookup_withIndex, lookup_put]

theorem update_of_none
    {store : Store V}
    {item : Item V}
    (free : store.lookup item.key = none) :
    store.update item = (store, none) := by
  rw [update, free]

/-- An accepted update of a taken key replaces its entry and hands out the old value. -/
theorem update_of_some
    {store : Store V}
    {item : Item V}
    {existing : Entry V}
    (stored : store.lookup item.key = some existing)
    (accepted : store.refuses item.key item.token = false) :
    store.update item = (store.set item, some existing.value) := by
  rw [refuses_of_some stored, Bool.not_eq_false'] at accepted
  rw [update, set, stored]
  simp only [accepted, if_true]

/-- A refused update does nothing. -/
theorem update_of_refused
    {store : Store V}
    {item : Item V}
    (refused : store.refuses item.key item.token = true) :
    store.update item = (store, none) := by
  cases stored : store.lookup item.key with
  | none => exact update_of_none stored
  | some existing =>
      rw [refuses_of_some stored, Bool.not_eq_true'] at refused
      rw [update, stored]
      simp [refused]

theorem delete_of_none
    {store : Store V}
    {key : Key}
    (free : store.lookup key = none)
    (token : Token) :
    store.delete key token = (store, none) := by
  rw [delete, free]

/-- An accepted deletion of a taken key drops its entry and hands it out. -/
theorem delete_of_some
    {store : Store V}
    {key : Key}
    {token : Token}
    {existing : Entry V}
    (stored : store.lookup key = some existing)
    (accepted : store.refuses key token = false) :
    store.delete key token =
      ((store.drop key).withIndex
          (store.index.remove key existing.deadline),
        some (existing.token, existing.value)) := by
  rw [refuses_of_some stored, Bool.not_eq_false'] at accepted
  rw [delete, stored]
  simp only [accepted, if_true]

/-- A refused deletion does nothing. -/
theorem delete_of_refused
    {store : Store V}
    {key : Key}
    {token : Token}
    (refused : store.refuses key token = true) :
    store.delete key token = (store, none) := by
  cases stored : store.lookup key with
  | none => exact delete_of_none stored token
  | some existing =>
      rw [refuses_of_some stored, Bool.not_eq_true'] at refused
      rw [delete, stored]
      simp [refused]

/-! ## Other keys -/

theorem lookup_set_of_ne
    (store : Store V)
    {item : Item V}
    {key : Key}
    (different : item.key ≠ key) :
    (store.set item).lookup key = store.lookup key := by
  cases verdict : store.refuses item.key item.token with
  | false => rw [lookup_set verdict, if_neg different]
  | true => rw [set_of_refused verdict]

theorem lookup_update_of_ne
    (store : Store V)
    {item : Item V}
    {key : Key}
    (different : item.key ≠ key) :
    (store.update item).1.lookup key = store.lookup key := by
  cases verdict : store.refuses item.key item.token with
  | true => rw [update_of_refused verdict]
  | false =>
      cases stored : store.lookup item.key with
      | none => rw [update_of_none stored]
      | some existing =>
          rw [update_of_some stored verdict]
          exact store.lookup_set_of_ne different

theorem lookup_delete_of_ne
    (store : Store V)
    {key other : Key}
    (different : key ≠ other)
    (token : Token) :
    (store.delete key token).1.lookup other = store.lookup other := by
  cases verdict : store.refuses key token with
  | true => rw [delete_of_refused verdict]
  | false =>
      cases stored : store.lookup key with
      | none => rw [delete_of_none stored]
      | some existing =>
          rw [delete_of_some stored verdict, lookup_withIndex, lookup_drop,
            if_neg different]

end TtlStore.Store
