import TtlStore.Proofs.Ledger.Stay
import TtlStore.Proofs.Ledger.Reckoning
import TtlStore.Proofs.Session.Completion
import TtlStore.Proofs.Session.Coverage

/-!
# The ledger balances

Nothing is lost and nothing is removed twice, however deep sweeps and clearings
nest.  For each key the history of a run is one stay after another, of which
only the last may still go on; each of the others ended by exactly one removal,
which took out the last version of the item.  What deletions hand out are the
tokens and values of the items they removed, and the items that callbacks are
handed are those of the removals that had a callback to tell, each once.

So between two actions of the outermost list, the items stored under free keys
are as many as the entries in the store, the successful deletions, the
evictions that sweeps counted and the items that clearings drained together.
-/

namespace TtlStore

variable {V : Type}

namespace Deed

/-- The number of items that were stored under free keys. -/
def storings (deeds : List (Deed V)) : Nat :=
  deeds.countP isStored

/-- The number of removals of the given kinds. -/
def removals (kinds : Removal → Bool) (deeds : List (Deed V)) : Nat :=
  deeds.countP (isRemoved kinds)

/-- The token and the value of a deleted item. -/
def surrendered? : Deed V → Option (Token × V)
  | .removed .deletion item => some (item.token, item.value)
  | _ => none

/-- The tokens and values of deleted items. -/
def surrendered (deeds : List (Deed V)) : Multiset (Token × V) :=
  (deeds.filterMap surrendered? : List (Token × V))

/-- The item of a removal that has a callback to tell. -/
def told? : Deed V → Option (Item V)
  | .removed removal item => if removal.isTold then some item else none
  | _ => none

/-- The items of removals that had a callback to tell. -/
def told (deeds : List (Deed V)) : Multiset (Item V) :=
  (deeds.filterMap told? : List (Item V))

theorem storings_cons (deed : Deed V) (rest : List (Deed V)) :
    storings (deed :: rest) =
      storings rest + if deed.isStored then 1 else 0 :=
  List.countP_cons

theorem removals_cons
    (kinds : Removal → Bool)
    (deed : Deed V)
    (rest : List (Deed V)) :
    removals kinds (deed :: rest) =
      removals kinds rest + if deed.isRemoved kinds then 1 else 0 :=
  List.countP_cons

theorem surrendered_cons (deed : Deed V) (rest : List (Deed V)) :
    surrendered (deed :: rest) =
      (deed.surrendered?.toList : Multiset (Token × V)) + surrendered rest := by
  rw [surrendered, List.filterMap_cons]
  cases deed.surrendered? <;> rfl

theorem card_surrendered (deeds : List (Deed V)) :
    (surrendered deeds).card = removals Removal.isDeletion deeds := by
  have deletion :
      ∀ deed : Deed V,
        deed.surrendered?.isSome = deed.isRemoved Removal.isDeletion := by
    rintro (item | item | ⟨_ | _ | _, item⟩) <;> rfl
  rw [surrendered, Multiset.coe_card, List.length_filterMap_eq_countP,
    funext deletion, removals]

theorem told_cons (deed : Deed V) (rest : List (Deed V)) :
    told (deed :: rest) =
      (deed.told?.toList : Multiset (Item V)) + told rest := by
  rw [told, List.filterMap_cons]
  cases deed.told? <;> rfl

/-- Every removal is a deletion, an eviction or part of a clearing. -/
theorem removals_eq_add (deeds : List (Deed V)) :
    removals (fun _ => true) deeds =
      removals Removal.isDeletion deeds + removals Removal.isEviction deeds +
        removals Removal.isClearing deeds := by
  induction deeds with
  | nil => rfl
  | cons deed rest induction =>
      have kinds :
          (if deed.isRemoved fun _ => true then 1 else 0) =
            (if deed.isRemoved Removal.isDeletion then 1 else 0) +
                (if deed.isRemoved Removal.isEviction then 1 else 0) +
              if deed.isRemoved Removal.isClearing then 1 else 0 := by
        rcases deed with item | item | ⟨_ | _ | _, item⟩ <;> rfl
      simp only [removals_cons, induction, kinds]
      omega

end Deed

/-! ## Counting entries -/

/-- A stored item adds an entry, and a removal takes one away. -/
theorem Store.Undergoes.size_eq
    {store after : Store V}
    {deeds : List (Deed V)}
    (undergoes : store.Undergoes deeds after) :
    after.size + Deed.removals (fun _ => true) deeds =
      store.size + Deed.storings deeds := by
  induction undergoes with
  | nothing store => rfl
  | reindexed index later induction => exact induction
  | @stored store after rest item free later induction =>
      have grown : (store.put item.key item.entry).size = store.size + 1 := by
        rw [size_put, free]
        rfl
      simp only [Deed.removals_cons, Deed.storings_cons, Deed.isRemoved,
        Deed.isStored, Bool.false_eq_true, if_true, if_false]
      omega
  | @rewritten store after rest item entry taken later induction =>
      have same : (store.put item.key item.entry).size = store.size := by
        rw [size_put, taken]
        rfl
      rw [same] at induction
      exact induction
  | @removed store after rest removal key entry taken later induction =>
      have shrunk := size_drop taken
      simp only [Deed.removals_cons, Deed.storings_cons, Deed.isRemoved,
        Deed.isStored, Bool.false_eq_true, if_true, if_false]
      omega
  | @emptied store after rest removal listing shard later induction =>
      have shrunk := store.size_emptyShard listing shard
      have removals :
          Deed.removals (fun _ => true)
              ((store.shardItems listing shard).map (.removed removal)) =
            (store.shardItems listing shard).length := by
        simp [Deed.removals, List.countP_map, Function.comp_def,
          Deed.isRemoved]
      have storings :
          Deed.storings
              ((store.shardItems listing shard).map (.removed removal)) =
            0 := by
        simp [Deed.storings, Function.comp_def, Deed.isStored]
      simp only [Deed.removals, Deed.storings, List.countP_append] at *
      omega

/-! ## What replies tell -/

namespace Reply

/-- The number of successful deletions that replies tell of. -/
def deletions (replies : List (Reply V)) : Nat :=
  (⟨fun _ _ => 1, 0, fun _ => 0⟩ : Weights V Nat).replies replies

/-- The tokens and values that deletions handed out. -/
def surrendered (replies : List (Reply V)) : Multiset (Token × V) :=
  (⟨fun token value => {(token, value)}, 0, fun _ => 0⟩ :
    Weights V (Multiset (Token × V))).replies replies

/-- The sum of the numbers of evictions that sweeps counted. -/
def evictions (replies : List (Reply V)) : Nat :=
  (⟨fun _ _ => 0, 1, fun _ => 0⟩ : Weights V Nat).replies replies

/-- The items that callbacks were handed. -/
def handed (replies : List (Reply V)) : Multiset (Item V) :=
  (⟨fun _ _ => 0, 0, fun item => {item}⟩ :
    Weights V (Multiset (Item V))).replies replies

end Reply

/-- What a deed comes to by its kind. -/
theorem Weights.deed_eq
    {M : Type}
    [AddCommMonoid M]
    (weights : Weights V M)
    (done : Deed V) :
    weights.deed done =
      ((done.surrendered?.toList : Multiset (Token × V)).map
              fun (token, value) => weights.deleted token value).sum +
          (if done.isRemoved Removal.isEviction then 1 else 0) •
            weights.evicted +
        ((done.told?.toList : Multiset (Item V)).map weights.handed).sum := by
  rcases done with item | item | ⟨_ | callback | callback, item⟩
  · simp [deed, Deed.isRemoved, Deed.surrendered?, Deed.told?]
  · simp [deed, Deed.isRemoved, Deed.surrendered?, Deed.told?]
  · simp [deed, Deed.isRemoved, Deed.surrendered?, Deed.told?,
      Removal.isEviction, Removal.isTold]
  · have once :
        (if (Deed.removed (.eviction callback) item).isRemoved
            Removal.isEviction then 1 else 0) • weights.evicted =
          weights.evicted :=
      one_nsmul weights.evicted
    rw [once]
    cases callback <;>
      simp [deed, Deed.surrendered?, Deed.told?, Removal.isTold, told]
  · cases callback <;>
      simp [deed, Deed.isRemoved, Deed.surrendered?, Deed.told?,
        Removal.isEviction, Removal.isTold, told]

/-- Deeds come to the weights of their deletions, evictions and items that are told of. -/
theorem Weights.deeds_eq
    {M : Type}
    [AddCommMonoid M]
    (weights : Weights V M)
    (done : List (Deed V)) :
    weights.deeds done =
      ((Deed.surrendered done).map
              fun (token, value) => weights.deleted token value).sum +
          Deed.removals Removal.isEviction done • weights.evicted +
        ((Deed.told done).map weights.handed).sum := by
  induction done with
  | nil => simp [deeds_nil, Deed.removals, Deed.surrendered, Deed.told]
  | cons first rest induction =>
      rw [deeds_cons, induction, deed_eq, Deed.surrendered_cons,
        Deed.removals_cons, Deed.told_cons, add_nsmul, Multiset.map_add,
        Multiset.map_add, Multiset.sum_add, Multiset.sum_add]
      abel

/-- Between two actions of the outermost list, replies tell of all removals. -/
theorem Reply.told_of_after
    {actions rest : List (Action V)}
    {session last : Session V}
    {replies : List (Reply V)}
    {steps : Nat}
    (reached :
      (Moment.start actions session).after steps =
        ⟨last, rest, replies, .idle, []⟩) :
    let history := (Moment.start actions session).history steps
    deletions replies = Deed.removals Removal.isDeletion history ∧
      surrendered replies = Deed.surrendered history ∧
      evictions replies = Deed.removals Removal.isEviction history ∧
      handed replies = Deed.told history := by
  have same :
      ∀ {M : Type} [AddCommMonoid M] (weights : Weights V M),
        weights.replies replies =
          weights.deeds ((Moment.start actions session).history steps) := by
    intro M _ weights
    rw [← weights.moment_after, reached, Weights.moment, Weights.task,
      List.map_nil, List.sum_nil, add_zero, add_zero]
  refine ⟨?_, ?_, ?_, ?_⟩
  · rw [deletions, same, Weights.deeds_eq, ← Deed.card_surrendered]
    simp
  · rw [surrendered, same, Weights.deeds_eq]
    simp
  · rw [evictions, same, Weights.deeds_eq]
    simp
  · rw [handed, same, Weights.deeds_eq]
    simp

/-! ## The ledger -/

/--
No loss and no double removal.  Valid settings make a store.  At every moment of
a run of ordinary actions on it, in whatever order tables list their keys, what
was done under a key is a chronicle of stays, the last of which goes on exactly
if the key is stored, with its last version.  Whenever some of the outermost
actions are done, the replies tell of every removal once, and the ledger
balances.
-/
theorem ledger_balances
    (settings : StoreSettings)
    (valid : settings.validate = .ok ())
    (clock : Instant)
    (listing : Listing)
    (actions : List (Action V))
    (ordinary : ∀ action ∈ actions, action.Ordinary) :
    ∃ store : Store V,
      Store.ofSettings settings clock = .ok store ∧
        (∀ steps key,
          ∃ ended lasting,
            Deed.under key
                ((Moment.start actions ⟨store, clock, listing⟩).history steps) =
              Stay.chronicle ended lasting ∧
            ((Moment.start actions ⟨store, clock, listing⟩).after
                steps).session.store.lookup key =
              lasting.map (·.last.entry)) ∧
        ∀ done rest, actions = done ++ rest →
          ∃ steps,
            let last := (Action.runAll done ⟨store, clock, listing⟩).1
            let replies := (Action.runAll done ⟨store, clock, listing⟩).2
            let history :=
              (Moment.start actions ⟨store, clock, listing⟩).history steps
            (Moment.start actions ⟨store, clock, listing⟩).after steps =
                ⟨last, rest, replies, .idle, []⟩ ∧
              Reply.handed replies = Deed.told history ∧
              Reply.surrendered replies = Deed.surrendered history ∧
              Reply.deletions replies =
                Deed.removals Removal.isDeletion history ∧
              Reply.evictions replies =
                Deed.removals Removal.isEviction history ∧
              Deed.storings history =
                last.store.size + Reply.deletions replies +
                    Reply.evictions replies +
                  Deed.removals Removal.isClearing history := by
  let store : Store V :=
    Store.empty settings.shards
      (Calendar.ofWidth clock settings.bucketWidth)
      (settings.validate_eq_ok_iff.mp valid).1
  have undergoes :=
    Moment.undergoes_history ordinary
      { store := store, clock := clock, listing := listing }
  have vacant : ∀ key, store.lookup key = none :=
    Store.lookup_empty _ _ _
  have placed : store.Placed := Store.placed_empty _ _ _
  refine ⟨store, Store.ofSettings_of_valid valid clock, ?_, ?_⟩
  · intro steps key
    rcases (undergoes steps).exists_chronicle placed (.of_vacant (vacant key))
      with ⟨ended, lasting, split, goes⟩
    exact ⟨ended, lasting, split, goes.lookup_eq⟩
  · rintro done rest rfl
    rcases Moment.exists_after_start_append done rest
        { store := store, clock := clock, listing := listing } with
      ⟨steps, reached⟩
    rcases Reply.told_of_after reached with
    ⟨deletions, surrendered, evictions, handed⟩
    refine ⟨steps, reached, handed, surrendered, deletions, evictions, ?_⟩
    have balance := (undergoes steps).size_eq
    rw [reached, Deed.removals_eq_add] at balance
    have nothing : store.size = 0 := Store.size_empty _ _ _
    simp only [nothing, Nat.zero_add] at balance
    rw [deletions, evictions, ← balance]
    omega

/--
The callback of a sweep stores the evicted key again, sweeps it away at once,
and deletes the key that the sweep was about to visit; then a clearing drains
the last entry, and its callback stores another.
-/
def nestedActions : List (Action Nat) :=
  [.perform (.set ⟨1, 7, 10, .ending ⟨5⟩⟩),
    .perform (.set ⟨3, 8, 30, .ending ⟨5⟩⟩),
    .perform (.set ⟨4, 0, 40, .unlimited⟩),
    .perform (.advance ⟨20⟩),
    .cleanup (fun _ _ => [])
      (some fun _ item =>
        [.perform (.set ⟨item.key, 9, 11, .ending ⟨7⟩⟩),
          .cleanup (fun _ _ => []) none,
          .perform (.delete 3 8)]),
    .clear (some fun _ _ => [.perform (.set ⟨5, 0, 50, .unlimited⟩)])]

theorem ordinary_nestedActions :
    ∀ action ∈ nestedActions, action.Ordinary := by
  have silentCleanup :
      (Action.cleanup (fun _ _ => []) none : Action Nat).Ordinary :=
    .cleanup _ _ (by simp) (by simp)
  simp only [nestedActions, List.forall_mem_cons]
  refine
    ⟨.perform _ rfl, .perform _ rfl, .perform _ rfl, .perform _ rfl,
      .cleanup _ _ (by simp) ?_, .clear _ ?_, by simp⟩
  · rintro react same number item
    cases same
    simp only [List.forall_mem_cons]
    exact ⟨.perform _ rfl, silentCleanup, .perform _ rfl, by simp⟩
  · rintro react same number item
    cases same
    simp only [List.forall_mem_cons]
    exact ⟨.perform _ rfl, by simp⟩

theorem ledger_balances_nestedActions :
    (StoreSettings.mk 2 ⟨10⟩).validate = .ok () ∧
      (∀ action ∈ nestedActions, action.Ordinary) ∧
        ∃ (store : Store Nat) (steps : Nat),
          Store.ofSettings ⟨2, ⟨10⟩⟩ ⟨0⟩ = .ok store ∧
            let last := (Action.runAll nestedActions ⟨store, ⟨0⟩, .ascending⟩).1
            let replies := (Action.runAll nestedActions ⟨store, ⟨0⟩, .ascending⟩).2
            let history :=
              (Moment.start nestedActions ⟨store, ⟨0⟩, .ascending⟩).history steps
            Deed.storings history =
                last.store.size + Reply.deletions replies +
                    Reply.evictions replies +
                  Deed.removals Removal.isClearing history ∧
              last.store.size = 1 ∧
              Reply.deletions replies = 1 ∧
              Reply.evictions replies = 2 := by
  have valid : (StoreSettings.mk 2 ⟨10⟩).validate = .ok () := by decide
  have sums :
      let finished :=
        Action.runAll nestedActions
          ⟨Store.empty 2 (Calendar.ofWidth ⟨0⟩ ⟨10⟩) (by decide), ⟨0⟩,
            .ascending⟩
      finished.1.store.size = 1 ∧
        Reply.deletions finished.2 = 1 ∧
          Reply.evictions finished.2 = 2 := by
    decide +kernel
  rcases ledger_balances ⟨2, ⟨10⟩⟩ valid ⟨0⟩ .ascending nestedActions
      ordinary_nestedActions with
    ⟨store, made, _, balances⟩
  rcases balances nestedActions [] (List.append_nil _).symm with
    ⟨steps, _, _, _, _, _, balance⟩
  have opened :
      store = Store.empty 2 (Calendar.ofWidth ⟨0⟩ ⟨10⟩) (by decide) :=
    Except.ok.inj (made.symm.trans (Store.ofSettings_of_valid valid ⟨0⟩))
  refine
    ⟨valid, ordinary_nestedActions, store, steps, made, balance, ?_⟩
  rw [opened]
  exact sums

end TtlStore
