import TtlStore.Proofs.Store.Revision
import TtlStore.Session.Action

/-!
# Ways of writing an item

An item can be set, it can replace what is under its key, and its key can be
deleted with its token before it is set.  These tell the index different things:
that a key is new, that a key moves, and that a key goes and is new.  Yet they
come to the same store, whatever the index notes already, because an accepted
write of any kind revises its key, and it does not matter whether the key was
struck before.
-/

namespace TtlStore

variable {V : Type}

namespace Store

/-- A deletion with the token of an item leaves nothing under its key that refuses it. -/
theorem refuses_delete
    (store : Store V)
    {key : Key}
    {token : Token}
    (accepted : store.refuses key token = false) :
    (store.delete key token).1.refuses key token = false := by
  cases found : store.lookup key with
  | none =>
      rw [delete_of_none found]
      exact accepted
  | some existing =>
      have struck : (store.delete key token).1.lookup key = none := by
        rw [delete_eq_revise found accepted, lookup_revise, if_pos rfl]
      exact refuses_of_none struck token

/-- Deleting a key before an item is set under it, with the item's token, makes no difference. -/
theorem set_delete (store : Store V) (item : Item V) :
    (store.delete item.key item.token).1.set item = store.set item := by
  cases verdict : store.refuses item.key item.token with
  | true => rw [delete_of_refused verdict]
  | false =>
      cases found : store.lookup item.key with
      | none => rw [delete_of_none found]
      | some existing =>
          rw [set_eq_revise (store.refuses_delete verdict),
            delete_eq_revise found verdict, set_eq_revise verdict]
          exact store.revise_none_revise item.key (some item.entry)

/-- Updating a taken key comes to the same store as setting it. -/
theorem update_eq_set
    {store : Store V}
    {item : Item V}
    {existing : Entry V}
    (stored : store.lookup item.key = some existing) :
    (store.update item).1 = store.set item := by
  cases verdict : store.refuses item.key item.token with
  | true => rw [update_of_refused verdict, set_of_refused verdict]
  | false => rw [update_of_some stored verdict]

end Store

/--
The ways of writing an item agree, in every store.  To delete its key first makes
no difference to setting it.  If the key is free, an update and a deletion do
nothing.  If it is taken, an update comes to the same store as a set.  Whether
the token of the entry accepts that of the item then decides for all of them: if
it does, the update hands out the old value, the deletion the old token and the
same value, and in the end the item is what is under its key; if it does not,
nothing is handed out and nothing changes.
-/
theorem write_paths_agree (store : Store V) (item : Item V) :
    let deleted := store.delete item.key item.token
    let updated := store.update item
    deleted.1.set item = store.set item ∧
      (store.lookup item.key = none →
        updated = (store, none) ∧ deleted = (store, none)) ∧
      ∀ existing, store.lookup item.key = some existing →
        let accepts := Token.acceptsWrite existing.token item.token
        updated.1 = store.set item ∧
          updated.2 = (if accepts then some existing.value else none) ∧
          deleted.2 =
            (if accepts then some (existing.token, existing.value)
              else none) ∧
          (accepts = true →
            deleted.1.lookup item.key = none ∧
              ∀ key,
                (store.set item).lookup key =
                  if item.key = key then some item.entry
                  else store.lookup key) ∧
          (accepts = false →
            store.set item = store ∧ deleted.1 = store) := by
  intro deleted updated
  refine ⟨store.set_delete item, ?_, ?_⟩
  · intro free
    exact
      ⟨Store.update_of_none free, Store.delete_of_none free item.token⟩
  · intro existing stored accepts
    have verdict : store.refuses item.key item.token = !accepts :=
      Store.refuses_of_some stored item.token
    refine ⟨Store.update_eq_set stored, ?_⟩
    cases accepted : accepts with
    | true =>
        rw [accepted] at verdict
        have deletedEq : deleted = _ := Store.delete_eq_revise stored verdict
        have updatedEq : updated = _ := Store.update_of_some stored verdict
        refine
          ⟨congrArg Prod.snd updatedEq, congrArg Prod.snd deletedEq, ?_, ?_⟩
        · intro _
          refine ⟨?_, Store.lookup_set verdict⟩
          rw [deletedEq, Store.lookup_revise, if_pos rfl]
        · intro impossible
          cases impossible
    | false =>
        rw [accepted] at verdict
        have deletedEq : deleted = _ := Store.delete_of_refused verdict
        have updatedEq : updated = _ := Store.update_of_refused verdict
        refine
          ⟨congrArg Prod.snd updatedEq, congrArg Prod.snd deletedEq, ?_, ?_⟩
        · intro impossible
          cases impossible
        · intro _
          exact
            ⟨Store.set_of_refused verdict, congrArg Prod.fst deletedEq⟩

/--
A store that was cleared and written again.  A note is left of the first entry
under key 1; the present one has no token and does not expire.
-/
def rewrittenStore : Store Nat :=
  (Action.runAll
    [.perform (.set ⟨1, 7, 10, .ending ⟨15⟩⟩),
      .clear none,
      .perform (.set ⟨1, 0, 11, .unlimited⟩),
      .perform (.set ⟨3, 5, 30, .ending ⟨12⟩⟩)]
    { store := Store.empty 2 (Calendar.ofWidth ⟨0⟩ ⟨10⟩) Nat.two_pos
      clock := ⟨0⟩ }).1.store

theorem write_paths_agree_rewrittenStore :
    let fresh : Item Nat := ⟨1, 9, 12, some ⟨18⟩⟩
    let foreign : Item Nat := ⟨3, 9, 31, none⟩
    rewrittenStore.index.candidates .ascending =
        [⟨2, 1, 7⟩, ⟨2, 3, 5⟩] ∧
      (rewrittenStore.delete 1 9).1.set fresh = rewrittenStore.set fresh ∧
      (rewrittenStore.update fresh).1 = rewrittenStore.set fresh ∧
      (rewrittenStore.update fresh).2 = some 11 ∧
      (rewrittenStore.delete 1 9).2 = some (0, 11) ∧
      (rewrittenStore.set fresh).lookup 1 = some fresh.entry ∧
      (rewrittenStore.set fresh).index.candidates .ascending =
        [⟨2, 1, 9⟩, ⟨2, 3, 5⟩] ∧
      (rewrittenStore.update foreign).2 = none ∧
      rewrittenStore.set foreign = rewrittenStore ∧
      (rewrittenStore.delete 3 9).1 = rewrittenStore := by
  intro fresh foreign
  have stored : rewrittenStore.lookup 1 = some ⟨0, 11, none⟩ := by
    decide +kernel
  have guarded : rewrittenStore.lookup 3 = some ⟨5, 30, some ⟨12⟩⟩ := by
    decide +kernel
  rcases write_paths_agree rewrittenStore fresh with ⟨struck, _, taken⟩
  rcases taken _ stored with ⟨sameStore, replaced, deleted, accepted, _⟩
  rcases write_paths_agree rewrittenStore foreign with ⟨_, _, owned⟩
  rcases owned _ guarded with ⟨_, kept, _, _, refused⟩
  rcases refused (by decide) with ⟨unset, undeleted⟩
  exact
    ⟨by decide +kernel, struck, sameStore, replaced, deleted,
      ((accepted (by decide)).2 1).trans (if_pos rfl), by decide +kernel,
      kept, unset, undeleted⟩

end TtlStore
