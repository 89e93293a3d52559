import TtlStore.Proofs.Ledger.Deed

/-!
# What a shard holds was written

Whatever a run does, be it ordinary or not, an entry can come into a shard in one
way only: a step writes it, by storing its item under a free key or by rewriting
a taken one.  So what a shard holds after a run it held before, or some step of
the run has written it.  The number of shards never changes.
-/

namespace TtlStore

variable {V : Type}

/-- The item that has an entry stored under a key. -/
def Entry.item (entry : Entry V) (key : Key) : Item V where
  key := key
  token := entry.token
  value := entry.value
  deadline := entry.deadline

/-! ## What one shard holds -/

namespace Store

variable {store : Store V} {shard : Nat} {key : Key} {entry : Entry V}

/-- After a put a shard holds what it held before, or what was put. -/
theorem HeldIn.of_put
    {putKey : Key}
    {put : Entry V}
    (held : (store.put putKey put).HeldIn shard key entry) :
    store.HeldIn shard key entry ∨ putKey = key ∧ put = entry := by
  rcases held with ⟨entries, found, present⟩
  rw [Store.put, Array.getElem?_modify] at found
  split at found
  · rcases Option.map_eq_some_iff.mp found with ⟨old, oldFound, rfl⟩
    rw [Std.ExtTreeMap.getElem?_insert] at present
    split at present
    · rename_i same
      exact
        Or.inr ⟨Std.LawfulEqCmp.eq_of_compare same, Option.some.inj present⟩
    · exact Or.inl ⟨old, oldFound, present⟩
  · exact Or.inl ⟨entries, found, present⟩

theorem HeldIn.of_drop
    {dropped : Key}
    (held : (store.drop dropped).HeldIn shard key entry) :
    store.HeldIn shard key entry := by
  rcases held with ⟨entries, found, present⟩
  rw [Store.drop, Array.getElem?_modify] at found
  split at found
  · rcases Option.map_eq_some_iff.mp found with ⟨old, oldFound, rfl⟩
    rw [Std.ExtTreeMap.getElem?_erase] at present
    split at present
    · cases present
    · exact ⟨old, oldFound, present⟩
  · exact ⟨entries, found, present⟩

/-- Emptying a shard takes all from it and nothing from the others. -/
theorem heldIn_emptyShard
    (store : Store V)
    (emptied shard : Nat)
    (key : Key)
    (entry : Entry V) :
    (store.emptyShard emptied).HeldIn shard key entry ↔
      emptied ≠ shard ∧ store.HeldIn shard key entry := by
  simp only [HeldIn, Store.emptyShard, Array.getElem?_modify]
  by_cases same : emptied = shard
  · simp [same]
  · simp [same]

/-- A shard that holds something is one of the shards. -/
theorem HeldIn.lt (held : store.HeldIn shard key entry) :
    shard < store.shardCount := by
  rcases held with ⟨entries, found, _⟩
  exact (Array.getElem?_eq_some_iff.mp found).1

/-- The items of a shard are what its entries are handed out as. -/
theorem mem_shardItems_iff
    (store : Store V)
    (listing : Listing)
    (shard : Nat)
    (item : Item V) :
    item ∈ store.shardItems listing shard ↔
      ∃ key entry,
        store.HeldIn shard key entry ∧ item = entry.handedOut key := by
  rw [shardItems]
  cases found : store.shards[shard]? with
  | none => simp [HeldIn, found]
  | some entries =>
      rw [(itemsOf_perm listing (.shard shard) entries).mem_iff, mem_itemsOf]
      constructor
      · rintro ⟨entry, present, handed⟩
        exact ⟨item.key, entry, ⟨entries, found, present⟩, handed⟩
      · rintro ⟨key, entry, ⟨others, foundOthers, present⟩, rfl⟩
        rw [found] at foundOthers
        cases foundOthers
        exact ⟨entry, present, rfl⟩

/-- No two items of a shard have the same key. -/
theorem nodup_keys_shardItems
    (store : Store V)
    (listing : Listing)
    (shard : Nat) :
    ((store.shardItems listing shard).map (·.key)).Nodup := by
  rw [shardItems]
  cases store.shards[shard]? with
  | none => exact List.nodup_nil
  | some entries =>
      rw [List.map_map]
      exact listing.nodup_keys_entries (.shard shard) entries

end Store

/-! ## What deeds have written -/

/-- The item that a deed has written, if it was a write. -/
def Deed.written? : Deed V → Option (Item V)
  | .stored item => some item
  | .rewritten item => some item
  | .removed _ _ => none

/-- The items that deeds have written. -/
def Deed.writtenBy (deeds : List (Deed V)) : List (Item V) :=
  deeds.filterMap Deed.written?

theorem Deed.writtenBy_removed (removal : Removal) (items : List (Item V)) :
    writtenBy (items.map (.removed removal)) = [] := by
  rw [writtenBy, List.filterMap_map]
  exact List.filterMap_eq_nil_iff.mpr fun _ _ => rfl

namespace Store.Undergoes

variable {store last : Store V} {deeds : List (Deed V)}

theorem shardCount_eq (undergoes : store.Undergoes deeds last) :
    last.shardCount = store.shardCount := by
  induction undergoes with
  | nothing => rfl
  | reindexed index later induction => exact induction
  | stored item free later induction =>
      exact induction.trans (shardCount_put _ _ _)
  | rewritten item entry taken later induction =>
      exact induction.trans (shardCount_put _ _ _)
  | removed removal key entry taken later induction =>
      exact induction.trans (shardCount_drop _ _)
  | emptied removal listing shard later induction =>
      exact induction.trans (shardCount_emptyShard _ _)

/-- What a shard holds after some deeds it held before, or they have written it. -/
theorem heldIn
    (undergoes : store.Undergoes deeds last)
    {shard : Nat}
    {key : Key}
    {entry : Entry V}
    (held : last.HeldIn shard key entry) :
    store.HeldIn shard key entry ∨
      entry.item key ∈ Deed.writtenBy deeds := by
  induction undergoes with
  | nothing => exact Or.inl held
  | reindexed index later induction => exact induction held
  | stored item free later induction =>
      rcases induction held with before | written
      · rcases before.of_put with before | ⟨rfl, rfl⟩
        · exact Or.inl before
        · exact Or.inr List.mem_cons_self
      · exact Or.inr (List.mem_cons_of_mem item written)
  | rewritten item old taken later induction =>
      rcases induction held with before | written
      · rcases before.of_put with before | ⟨rfl, rfl⟩
        · exact Or.inl before
        · exact Or.inr List.mem_cons_self
      · exact Or.inr (List.mem_cons_of_mem item written)
  | removed removal dropped old taken later induction =>
      rcases induction held with before | written
      · exact Or.inl before.of_drop
      · exact Or.inr written
  | emptied removal listing emptied later induction =>
      rcases induction held with before | written
      · exact Or.inl ((heldIn_emptyShard _ _ _ _ _).mp before).2
      · rw [Deed.writtenBy, List.filterMap_append]
        exact Or.inr (List.mem_append_right _ written)

end Store.Undergoes

/-! ## Commands and steps of whatever kind -/

/--
Every command has the store undergo deeds, which write what the command is noted
to write; evicting a candidate by command is not noted, and writes nothing.
-/
theorem Session.exists_undergoes_perform
    (session : Session V)
    (command : Command V) :
    ∃ deeds,
      session.store.Undergoes deeds (session.perform command).1.store ∧
        Deed.writtenBy deeds = Deed.writtenBy (session.deeds command) := by
  cases ordinary : command.ordinary with
  | true => exact ⟨_, session.undergoes_perform ordinary, rfl⟩
  | false =>
      cases command with
      | evict candidate now =>
          cases answering : session.store.answering? candidate now with
          | none =>
              rw [perform, Store.evict_of_unanswered answering]
              exact ⟨[], .nothing _, rfl⟩
          | some entry =>
              rcases (session.store.answering?_eq_some_iff candidate now
                entry).mp answering with
                ⟨taken, _⟩
              rw [perform, Store.evict_of_answered answering]
              exact
                ⟨_, .removed .deletion candidate.key entry taken (.nothing _),
                  rfl⟩
      | indexAdd => exact ⟨[], .reindexed _ (.nothing _), rfl⟩
      | indexMove => exact ⟨[], .reindexed _ (.nothing _), rfl⟩
      | indexRemove => exact ⟨[], .reindexed _ (.nothing _), rfl⟩
      | _ => cases ordinary

namespace Moment

/-- Every step has the store undergo deeds, which write nothing but what the step writes. -/
theorem Step.exists_undergoes
    {moment next : Moment V}
    (step : moment.Step next) :
    ∃ deeds,
      moment.session.store.Undergoes deeds next.session.store ∧
        ∀ item ∈ Deed.writtenBy deeds,
          item ∈ Deed.writtenBy moment.deeds := by
  cases step with
  | perform session command rest replies outer =>
      rcases session.exists_undergoes_perform command with
        ⟨deeds, undergoes, sameWritten⟩
      exact ⟨deeds, undergoes, fun _ written => sameWritten ▸ written⟩
  | sweepBegun => exact ⟨[], .reindexed _ (.nothing _), by simp [Deed.writtenBy]⟩
  | evicted session todo replies sweep outer candidate rest entry unvisited
      answered =>
      rcases (session.store.answering?_eq_some_iff candidate sweep.now
        entry).mp answered with
        ⟨taken, _⟩
      refine
        ⟨_, .removed .deletion candidate.key entry taken (.nothing _), ?_⟩
      simp [Deed.writtenBy, Deed.written?]
  | drained session todo replies clearing outer shard =>
      refine
        ⟨_, .emptied .deletion session.listing shard (.nothing _), ?_⟩
      rw [List.append_nil, Deed.writtenBy_removed]
      simp
  | _ => exact ⟨[], .nothing _, by simp [Deed.writtenBy]⟩

/-- What a shard holds after a step it held before, or the step has written it. -/
theorem Step.heldIn
    {moment next : Moment V}
    (step : moment.Step next)
    {shard : Nat}
    {key : Key}
    {entry : Entry V}
    (held : next.session.store.HeldIn shard key entry) :
    moment.session.store.HeldIn shard key entry ∨
      entry.item key ∈ Deed.writtenBy moment.deeds := by
  rcases step.exists_undergoes with ⟨deeds, undergoes, included⟩
  exact (undergoes.heldIn held).imp_right (included _)

theorem Step.shardCount_eq
    {moment next : Moment V}
    (step : moment.Step next) :
    next.session.store.shardCount = moment.session.store.shardCount := by
  rcases step.exists_undergoes with ⟨_, undergoes, _⟩
  exact undergoes.shardCount_eq

end Moment

end TtlStore
