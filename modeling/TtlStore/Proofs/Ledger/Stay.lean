import TtlStore.Proofs.Ledger.Deed

/-!
# The stays of a key

A key stays in the store from the storing of an item under it while it is free
to its removal; in between its item may be rewritten.  What a store undergoes,
restricted to one key, is one stay after another: each that has ended did so by
one removal, which took out the last version of the item, and the last version
of a stay that has not ended is what the store holds.
-/

namespace TtlStore

variable {V : Type}

/-- The item that was stored under a free key, and what it was rewritten to. -/
structure Stay (V : Type) where
  first : Item V
  rewrites : List (Item V)

namespace Stay

/-- The last version of the item. -/
def last (stay : Stay V) : Item V :=
  stay.rewrites.getLast?.getD stay.first

/-- The deeds of a stay before its removal. -/
def deeds (stay : Stay V) : List (Deed V) :=
  .stored stay.first :: stay.rewrites.map .rewritten

/-- The deeds of a stay that ended with the removal of its last version. -/
def deedsUntil (stay : Stay V) (removal : Removal) : List (Deed V) :=
  stay.deeds ++
    [.removed removal
      (Item.lasting stay.last.key stay.last.token stay.last.value)]

/-- The deeds of stays that have ended, and of one that may be going on. -/
def chronicle
    (ended : List (Stay V × Removal))
    (lasting : Option (Stay V)) :
    List (Deed V) :=
  ended.flatMap (fun (stay, removal) => stay.deedsUntil removal) ++
    lasting.toList.flatMap deeds

/-- The stay after one more rewrite. -/
def rewrittenTo (stay : Stay V) (item : Item V) : Stay V :=
  { stay with rewrites := stay.rewrites ++ [item] }

theorem last_mk_nil (item : Item V) :
    last { first := item, rewrites := [] } = item :=
  rfl

theorem last_rewrittenTo (stay : Stay V) (item : Item V) :
    (stay.rewrittenTo item).last = item := by
  simp [last, rewrittenTo]

theorem deeds_rewrittenTo (stay : Stay V) (item : Item V) :
    (stay.rewrittenTo item).deeds = stay.deeds ++ [.rewritten item] := by
  simp [deeds, rewrittenTo]

theorem chronicle_some (stay : Stay V) :
    chronicle [] (some stay) = stay.deeds := by
  simp [chronicle]

theorem chronicle_cons
    (stay : Stay V)
    (removal : Removal)
    (ended : List (Stay V × Removal))
    (lasting : Option (Stay V)) :
    chronicle ((stay, removal) :: ended) lasting =
      stay.deedsUntil removal ++ chronicle ended lasting := by
  rw [chronicle, chronicle, List.flatMap_cons, List.append_assoc]

end Stay

/-! ## The deeds under one key -/

/-- The deeds that were done under a key. -/
def Deed.under (key : Key) (deeds : List (Deed V)) : List (Deed V) :=
  deeds.filter fun deed => deed.key == key

theorem Deed.under_cons
    (key : Key)
    (deed : Deed V)
    (rest : List (Deed V)) :
    under key (deed :: rest) =
      if deed.key = key then deed :: under key rest else under key rest := by
  simp [under, List.filter_cons]

theorem Deed.under_append (key : Key) (deeds more : List (Deed V)) :
    under key (deeds ++ more) = under key deeds ++ under key more :=
  List.filter_append _ _

theorem Deed.under_map_removed
    (key : Key)
    (removal : Removal)
    (items : List (Item V)) :
    under key (items.map (.removed removal)) =
      (items.filter fun item => item.key == key).map (.removed removal) :=
  List.filter_map

/-- A list without repetitions that holds what an option holds is the option as a list. -/
theorem eq_toList_of_mem_iff
    {Element : Type}
    {elements : List Element}
    (nodup : elements.Nodup)
    {content : Option Element}
    (agrees : ∀ element, element ∈ elements ↔ content = some element) :
    elements = content.toList := by
  cases content with
  | none =>
      apply List.eq_nil_iff_forall_not_mem.mpr
      intro element member
      cases (agrees element).mp member
  | some only =>
      apply List.perm_singleton.mp
      apply (List.perm_ext_iff_of_nodup nodup (List.nodup_singleton only)).mpr
      intro element
      rw [agrees, List.mem_singleton, Option.some_inj, eq_comm]

/-- A shard holds at most one item under a key, the one that is looked up there. -/
theorem Store.Placed.filter_shardItems
    {store : Store V}
    (placed : store.Placed)
    (listing : Listing)
    (shard : Nat)
    (key : Key) :
    ((store.shardItems listing shard).filter fun item => item.key == key) =
      if store.shardOf key = shard then
        ((store.lookup key).map (·.handedOut key)).toList
      else
        [] := by
  have nodup :
      ((store.shardItems listing shard).filter fun item =>
        item.key == key).Nodup :=
    (store.nodup_shardItems listing shard).filter _
  split
  · rename_i belongs
    apply eq_toList_of_mem_iff nodup
    intro item
    rw [List.mem_filter, placed.mem_shardItems, beq_iff_eq,
      Option.map_eq_some_iff]
    constructor
    · rintro ⟨⟨_, entry, stored, same⟩, rfl⟩
      exact ⟨entry, stored, same.symm⟩
    · rintro ⟨entry, stored, rfl⟩
      exact ⟨⟨belongs, entry, stored, rfl⟩, rfl⟩
  · rename_i elsewhere
    apply List.eq_nil_iff_forall_not_mem.mpr
    intro item member
    rw [List.mem_filter, placed.mem_shardItems, beq_iff_eq] at member
    rcases member with ⟨⟨belongs, _⟩, rfl⟩
    exact elsewhere belongs

/-! ## Stays that are going on -/

/-- The stay that is going on under a key of a store, if any. -/
structure Stay.Going
    (key : Key)
    (store : Store V)
    (going : Option (Stay V)) :
    Prop where
  lookup_eq : store.lookup key = going.map (·.last.entry)
  last_key : ∀ stay, going = some stay → stay.last.key = key

namespace Stay.Going

variable {store next : Store V} {key : Key} {going : Option (Stay V)}

theorem of_vacant (vacant : store.lookup key = none) :
    Going key store none where
  lookup_eq := vacant
  last_key := by
    rintro stay ⟨⟩

/-- What is done under another key does not concern a stay. -/
theorem elsewhere
    (goes : Going key store going)
    (unchanged : next.lookup key = store.lookup key) :
    Going key next going where
  lookup_eq := unchanged.trans goes.lookup_eq
  last_key := goes.last_key

theorem eq_none
    (goes : Going key store going)
    (free : store.lookup key = none) :
    going = none :=
  Option.map_eq_none_iff.mp (goes.lookup_eq.symm.trans free)

theorem exists_eq_some
    (goes : Going key store going)
    {entry : Entry V}
    (taken : store.lookup key = some entry) :
    ∃ stay, going = some stay ∧ stay.last.entry = entry :=
  Option.map_eq_some_iff.mp (goes.lookup_eq.symm.trans taken)

/-- The last version is what the entry is handed out as. -/
theorem handedOut_eq
    {stay : Stay V}
    (goes : Going key store (some stay)) :
    stay.last.entry.handedOut key =
      Item.lasting stay.last.key stay.last.token stay.last.value := by
  rw [goes.last_key stay rfl]
  rfl

theorem put
    (store : Store V)
    {stay : Stay V}
    {item : Item V}
    (version : stay.last = item) :
    Going item.key (store.put item.key item.entry) (some stay) where
  lookup_eq := by
    rw [Store.lookup_put, if_pos rfl, Option.map_some, version]
  last_key := by
    rintro _ ⟨⟩
    rw [version]

end Stay.Going

/-! ## Chronicles -/

/-- The deeds that end a stay precede the chronicle of what follows. -/
theorem Stay.chronicle_ended
    {key : Key}
    {store : Store V}
    {stay : Stay V}
    (goes : Stay.Going key store (some stay))
    (removal : Removal)
    {ended : List (Stay V × Removal)}
    {lasting : Option (Stay V)}
    {rest : List (Deed V)}
    (split : rest = chronicle ended lasting) :
    chronicle [] (some stay) ++
        (.removed removal (stay.last.entry.handedOut key) :: rest) =
      chronicle ((stay, removal) :: ended) lasting := by
  rw [chronicle_some, chronicle_cons, deedsUntil, goes.handedOut_eq, split,
    List.append_assoc]
  rfl

/--
What a store undergoes is a sequence of stays for each key, beginning with the
one that is going on, if any.
-/
theorem Store.Undergoes.exists_chronicle
    {store after : Store V}
    {deeds : List (Deed V)}
    (undergoes : store.Undergoes deeds after)
    (placed : store.Placed)
    {key : Key}
    {going : Option (Stay V)}
    (goes : Stay.Going key store going) :
    ∃ ended lasting,
      Stay.chronicle [] going ++ Deed.under key deeds =
          Stay.chronicle ended lasting ∧
        Stay.Going key after lasting := by
  induction undergoes generalizing going with
  | nothing store => exact ⟨[], going, List.append_nil _, goes⟩
  | reindexed index later induction =>
      exact induction (placed.withIndex index) (goes.elsewhere rfl)
  | @stored store after rest item free later induction =>
      by_cases same : item.key = key
      · -- The key was free, so this begins a stay.
        subst same
        cases goes.eq_none free
        rw [Deed.under_cons, Deed.key_stored, if_pos rfl]
        exact
          induction (placed.put item.key item.entry)
            (Stay.Going.put store (Stay.last_mk_nil item))
      · rw [Deed.under_cons, Deed.key_stored, if_neg same]
        apply induction (placed.put item.key item.entry)
        apply goes.elsewhere
        rw [lookup_put, if_neg same]
  | @rewritten store after rest item entry taken later induction =>
      by_cases same : item.key = key
      · -- The key was taken, so this goes on with a stay.
        subst same
        rcases goes.exists_eq_some taken with ⟨stay, rfl, _⟩
        have extended :=
          induction (placed.put item.key item.entry)
            (Stay.Going.put store (stay.last_rewrittenTo item))
        rw [Stay.chronicle_some, Stay.deeds_rewrittenTo] at extended
        rw [Deed.under_cons, Deed.key_rewritten, if_pos rfl,
          List.append_cons, Stay.chronicle_some]
        exact extended
      · rw [Deed.under_cons, Deed.key_rewritten, if_neg same]
        apply induction (placed.put item.key item.entry)
        apply goes.elsewhere
        rw [lookup_put, if_neg same]
  | @removed store after rest removal other entry taken later induction =>
      by_cases same : other = key
      · -- The key was taken, so this ends a stay.
        subst same
        rcases goes.exists_eq_some taken with ⟨stay, rfl, rfl⟩
        have vacant : (store.drop other).lookup other = none := by
          rw [lookup_drop, if_pos rfl]
        rcases induction (placed.drop other) (.of_vacant vacant) with
          ⟨ended, lasting, split, goesOn⟩
        refine ⟨(stay, removal) :: ended, lasting, ?_, goesOn⟩
        rw [Deed.under_cons, Deed.key_removed, if_pos rfl]
        exact Stay.chronicle_ended goes removal split
      · rw [Deed.under_cons, Deed.key_removed, if_neg same]
        apply induction (placed.drop other)
        apply goes.elsewhere
        rw [lookup_drop, if_neg same]
  | @emptied store after rest removal listing shard later induction =>
      rw [Deed.under_append, Deed.under_map_removed,
        placed.filter_shardItems listing shard key]
      by_cases belongs : store.shardOf key = shard
      · rw [if_pos belongs]
        have vacant : (store.emptyShard shard).lookup key = none := by
          rw [lookup_emptyShard, if_pos belongs.symm]
        rcases induction (placed.emptyShard shard) (.of_vacant vacant) with
          ⟨ended, lasting, split, goesOn⟩
        cases stored : store.lookup key with
        | none =>
            cases goes.eq_none stored
            exact ⟨ended, lasting, split, goesOn⟩
        | some entry =>
            rcases goes.exists_eq_some stored with ⟨stay, rfl, rfl⟩
            refine ⟨(stay, removal) :: ended, lasting, ?_, goesOn⟩
            exact Stay.chronicle_ended goes removal split
      · rw [if_neg belongs]
        apply induction (placed.emptyShard shard)
        apply goes.elsewhere
        rw [lookup_emptyShard, if_neg (Ne.symm belongs)]

end TtlStore
