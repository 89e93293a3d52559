import Mathlib.Data.List.Nodup
import TtlStore.Proofs.Session.Visiting
import TtlStore.Proofs.Store.Coverage
import TtlStore.Session.Clear

/-!
# Quiet collaborators

A collaborator is quiet if it leaves every session as it was; it may read what
it likes and record what it is told.  With quiet collaborators a sweep and a
clearing are matters of the store alone: the candidates are evicted one after
another, the shards are emptied one after another, and the collaborators are
told what left the store.
-/

namespace TtlStore

variable {V R : Type}

/-- No collaborator of a sweep changes a session. -/
structure SweepHooks.Quiet (hooks : SweepHooks V R) : Prop where
  policy :
    ∀ number key session, (hooks.policy number key session).1 = session
  callback :
    ∀ callback, hooks.callback = some callback →
      ∀ number item session, (callback number item session).1 = session

/-- The callback of a clearing, if there is one, changes no session. -/
def ClearHook.Quiet (hook : Option (ClearHook V R)) : Prop :=
  ∀ callback, hook = some callback →
    ∀ number item session, (callback number item session).1 = session

/-- The callback of a clearing, if there is one, changes no store. -/
def ClearHook.Sparing (hook : Option (ClearHook V R)) : Prop :=
  ∀ callback, hook = some callback →
    ∀ number item session,
      (callback number item session).1.store = session.store

/-- The callback of a clearing, if there is one, changes no listing. -/
def ClearHook.KeepsListing (hook : Option (ClearHook V R)) : Prop :=
  ∀ callback, hook = some callback →
    ∀ number item session,
      (callback number item session).1.listing = session.listing

theorem ClearHook.Quiet.sparing
    {hook : Option (ClearHook V R)}
    (quiet : ClearHook.Quiet hook) :
    ClearHook.Sparing hook :=
  fun callback same number item session =>
    congrArg Session.store (quiet callback same number item session)

namespace Store

/-! ## Evicting candidates one after another -/

/-- Evict candidates in order, and collect what is handed out. -/
def evictAll (store : Store V) (now : Instant) :
    List Candidate → Store V × List (Item V)
  | [] => (store, [])
  | candidate :: rest =>
      (((store.evict candidate now).1.evictAll now rest).1,
        (store.evict candidate now).2.toList ++
          ((store.evict candidate now).1.evictAll now rest).2)

/-- What evicting candidates keeps, given that it is kept by every change of one key. -/
theorem evictAll_keeps
    {Holds : Store V → Prop}
    (kept : ∀ {store changed : Store V},
      store.Change changed → Holds store → Holds changed)
    (now : Instant)
    (candidates : List Candidate)
    {store : Store V}
    (holds : Holds store) :
    Holds (store.evictAll now candidates).1 := by
  induction candidates generalizing store with
  | nil => exact holds
  | cons candidate rest induction =>
      exact induction (kept (store.change_evict candidate now) holds)

/-- An entry answers one of some candidates. -/
def AnswersAny
    (calendar : Calendar)
    (candidates : List Candidate)
    (now : Instant)
    (key : Key)
    (entry : Entry V) :
    Prop :=
  ∃ candidate ∈ candidates,
    candidate.key = key ∧ entry.answers calendar candidate now = true

theorem answersAny_cons
    (calendar : Calendar)
    (candidate : Candidate)
    (rest : List Candidate)
    (now : Instant)
    (key : Key)
    (entry : Entry V) :
    AnswersAny calendar (candidate :: rest) now key entry ↔
      (candidate.key = key ∧ entry.answers calendar candidate now = true) ∨
        AnswersAny calendar rest now key entry := by
  simp [AnswersAny]

/-- Evicting candidates removes the entries that answer one of them. -/
theorem lookup_evictAll
    (store : Store V)
    (now : Instant)
    (candidates : List Candidate)
    (key : Key)
    (entry : Entry V) :
    (store.evictAll now candidates).1.lookup key = some entry ↔
      store.lookup key = some entry ∧
        ¬ AnswersAny store.index.calendar candidates now key entry := by
  induction candidates generalizing store with
  | nil => simp [evictAll, AnswersAny]
  | cons candidate rest induction =>
      have sameCalendar := (store.change_evict candidate now).calendar_eq
      rw [evictAll, induction, lookup_evict_eq_some_iff, sameCalendar,
        answersAny_cons, not_or, and_assoc]

/-- What is handed out is what the removed entries were stored as. -/
theorem mem_evictAll
    (store : Store V)
    (now : Instant)
    (candidates : List Candidate)
    (item : Item V) :
    item ∈ (store.evictAll now candidates).2 ↔
      ∃ entry,
        store.lookup item.key = some entry ∧
          AnswersAny store.index.calendar candidates now item.key entry ∧
            item = entry.handedOut item.key := by
  induction candidates generalizing store with
  | nil => simp [evictAll, AnswersAny]
  | cons candidate rest induction =>
      have sameCalendar := (store.change_evict candidate now).calendar_eq
      rw [evictAll, List.mem_append, induction, sameCalendar]
      simp only [mem_evict, lookup_evict_eq_some_iff, answersAny_cons]
      constructor
      · rintro (⟨entry, stored, answers, handed⟩ |
          ⟨entry, ⟨stored, _⟩, answers, handed⟩)
        · exact ⟨entry, stored, Or.inl answers, handed⟩
        · exact ⟨entry, stored, Or.inr answers, handed⟩
      · rintro ⟨entry, stored, answers, handed⟩
        by_cases first :
            candidate.key = item.key ∧
              entry.answers store.index.calendar candidate now = true
        · exact Or.inl ⟨entry, stored, first, handed⟩
        · exact
            Or.inr
              ⟨entry, ⟨stored, first⟩, answers.resolve_left first, handed⟩

/-- No key is handed out twice. -/
theorem nodup_keys_evictAll
    (store : Store V)
    (now : Instant)
    (candidates : List Candidate) :
    ((store.evictAll now candidates).2.map (·.key)).Nodup := by
  induction candidates generalizing store with
  | nil => exact List.nodup_nil
  | cons candidate rest induction =>
      cases answering : store.answering? candidate now with
      | none =>
          simpa [evictAll, evict_of_unanswered answering] using
            induction store
      | some entry =>
          simp only [evictAll, evict_of_answered answering,
            Option.toList_some, List.singleton_append, List.map_cons]
          refine List.nodup_cons.mpr ⟨?_, induction _⟩
          intro again
          rcases List.mem_map.mp again with ⟨item, member, sameKey⟩
          rcases (mem_evictAll _ now rest item).mp member with
            ⟨later, stored, _⟩
          have dropped : candidate.key = item.key := sameKey.symm
          rw [lookup_drop, if_pos dropped] at stored
          cases stored

/-- Candidates of closed buckets are not needed any more once they were evicted. -/
theorem Covered.evictAll
    {store : Store V}
    {now : Instant}
    {candidates others : List Candidate}
    (covered : store.Covered (candidates ++ others))
    (closed :
      ∀ candidate ∈ candidates,
        candidate.bucket ≤ store.index.calendar.lastClosed now) :
    (store.evictAll now candidates).1.Covered others := by
  induction candidates generalizing store with
  | nil => exact covered
  | cons candidate rest induction =>
      apply induction
      · exact covered.visited (closed candidate List.mem_cons_self)
      · intro later member
        rw [(store.change_evict candidate now).calendar_eq]
        exact closed later (List.mem_cons_of_mem candidate member)

/-! ## Emptying shards one after another -/

/-- Empty shards in order. -/
def emptyAll (store : Store V) : List Nat → Store V
  | [] => store
  | shard :: rest => (store.emptyShard shard).emptyAll rest

theorem shardOf_emptyShard (store : Store V) (shard : Nat) (key : Key) :
    (store.emptyShard shard).shardOf key = store.shardOf key := by
  simp [shardOf]

/-- Emptying shards removes the entries of their keys. -/
theorem lookup_emptyAll (store : Store V) (shards : List Nat) (key : Key) :
    (store.emptyAll shards).lookup key =
      if store.shardOf key ∈ shards then none else store.lookup key := by
  induction shards generalizing store with
  | nil => rfl
  | cons shard rest induction =>
      rw [emptyAll, induction, shardOf_emptyShard, lookup_emptyShard]
      by_cases first : shard = store.shardOf key
      · simp [first]
      · have different : ¬ store.shardOf key = shard := Ne.symm first
        simp [first, different]

theorem lookup_emptyAll_range (store : Store V) (key : Key) :
    (store.emptyAll (List.range store.shardCount)).lookup key = none := by
  have drained : store.shardOf key ∈ List.range store.shardCount :=
    List.mem_range.mpr (store.shardOf_lt key)
  rw [lookup_emptyAll, if_pos drained]

theorem index_emptyAll (store : Store V) (shards : List Nat) :
    (store.emptyAll shards).index = store.index := by
  induction shards generalizing store with
  | nil => rfl
  | cons shard rest induction => exact induction (store.emptyShard shard)

theorem getElem?_shards_emptyAll
    (store : Store V)
    (shards : List Nat)
    (shard : Nat) :
    (store.emptyAll shards).shards[shard]? =
      if shard ∈ shards then
        store.shards[shard]?.map fun _ => ∅
      else
        store.shards[shard]? := by
  induction shards generalizing store with
  | nil => rfl
  | cons emptied rest induction =>
      rw [emptyAll, induction]
      simp only [emptyShard, Array.getElem?_modify, List.mem_cons]
      by_cases here : emptied = shard
      · cases store.shards[shard]? <;> simp [here]
      · simp [here, Ne.symm here]

/-- Emptying all shards empties the store. -/
theorem isEmpty_emptyAll_range (store : Store V) :
    (store.emptyAll (List.range store.shardCount)).isEmpty = true := by
  rw [isEmpty, Array.all_eq_true]
  intro shard inRange
  have emptied :=
    store.getElem?_shards_emptyAll (List.range store.shardCount) shard
  rw [Array.getElem?_eq_getElem inRange] at emptied
  split at emptied
  · rcases Option.map_eq_some_iff.mp emptied.symm with ⟨_, _, isEmpty⟩
    rw [← isEmpty]
    exact Std.ExtTreeMap.isEmpty_empty
  · rename_i beyond
    rw [List.mem_range, Nat.not_lt] at beyond
    rw [Array.getElem?_eq_none beyond] at emptied
    cases emptied

theorem Placed.emptyAll
    {store : Store V}
    (placed : store.Placed)
    (shards : List Nat) :
    (store.emptyAll shards).Placed := by
  induction shards generalizing store with
  | nil => exact placed
  | cons shard rest induction => exact induction (placed.emptyShard shard)

theorem shardItems_emptyShard_of_ne
    (store : Store V)
    (listing : Listing)
    {shard other : Nat}
    (different : shard ≠ other) :
    (store.emptyShard shard).shardItems listing other =
      store.shardItems listing other := by
  rw [shardItems, shardItems, emptyShard, Array.getElem?_modify,
    if_neg different]

/-- Going through a list by positions is going through its elements. -/
theorem flatMap_range_getElem?
    {Element Result : Type}
    (elements : List Element)
    (results : Element → List Result) :
    (List.range elements.length).flatMap
        (fun position => (elements[position]?.map results).getD []) =
      elements.flatMap results := by
  induction elements with
  | nil => rfl
  | cons head tail induction =>
      rw [List.length_cons, List.range_succ_eq_map, List.flatMap_cons,
        List.flatMap_map]
      simp only [List.getElem?_cons_zero, List.getElem?_cons_succ,
        Option.map_some, Option.getD_some, induction, List.flatMap_cons]

/-- The items of a shard are the same in whatever order its keys are listed. -/
theorem shardItems_perm
    (store : Store V)
    (left right : Listing)
    (shard : Nat) :
    (store.shardItems left shard).Perm (store.shardItems right shard) := by
  rw [shardItems, shardItems]
  cases store.shards[shard]? with
  | none => exact .nil
  | some entries =>
      exact
        (itemsOf_perm left _ entries).trans (itemsOf_perm right _ entries).symm

/-- The items of all shards, one shard after another, each in the order its keys are listed. -/
def items (store : Store V) (listing : Listing) : List (Item V) :=
  (List.range store.shardCount).flatMap (store.shardItems listing)

/-- If keys are listed as they ascend, the items are what the contents are handed out as. -/
theorem items_ascending (store : Store V) :
    store.items .ascending =
      store.contents.map fun (key, entry) => entry.handedOut key := by
  have byPosition :
      store.shardItems .ascending = fun shard =>
        (store.shards.toList[shard]?.map fun entries =>
          entries.toList.map fun (key, entry) =>
            entry.handedOut key).getD [] := by
    funext shard
    rw [shardItems, Array.getElem?_toList]
    cases store.shards[shard]? <;>
      simp only [Listing.entries_ascending, Option.map_none, Option.map_some,
        Option.getD_none, Option.getD_some]
  rw [items, byPosition, shardCount, ← Array.length_toList,
    flatMap_range_getElem?, contents, List.map_flatMap]

/-- Whatever the listing, the items are what the contents are handed out as. -/
theorem items_perm (store : Store V) (listing : Listing) :
    (store.items listing).Perm
      (store.contents.map fun (key, entry) => entry.handedOut key) := by
  rw [← store.items_ascending]
  exact
    .flatMap_left _ fun shard _ => store.shardItems_perm listing .ascending shard

end Store

namespace Session

/-! ## Quiet sweeps -/

theorem announce_of_quiet
    {hooks : SweepHooks V R}
    (quiet : hooks.Quiet)
    (session : Session V)
    (number : Nat)
    (candidate : Candidate)
    (item : Item V) :
    (session.announce hooks number candidate item).1 = session ∧
      (session.announce hooks number candidate item).2.item = item := by
  rcases hooks with ⟨policy, callback⟩
  have policyQuiet := quiet.policy number candidate.key session
  cases callback with
  | none => exact ⟨policyQuiet, rfl⟩
  | some callback =>
      refine ⟨?_, rfl⟩
      have callbackQuiet := quiet.callback callback rfl number item
      simp only [announce]
      rw [callbackQuiet]
      exact policyQuiet

/-- With quiet collaborators, visiting candidates evicts them one after another. -/
theorem visitAll_of_quiet
    {hooks : SweepHooks V R}
    (quiet : hooks.Quiet)
    (now : Instant)
    (number : Nat)
    (session : Session V)
    (candidates : List Candidate) :
    (visitAll hooks now number session candidates).1 =
        session.withStore (session.store.evictAll now candidates).1 ∧
      (visitAll hooks now number session candidates).2.1.map (·.item) =
        (session.store.evictAll now candidates).2 ∧
      (visitAll hooks now number session candidates).2.2.evicted =
        (session.store.evictAll now candidates).2.length := by
  induction candidates generalizing session number with
  | nil => exact ⟨rfl, rfl, rfl⟩
  | cons candidate rest induction =>
      cases answering : session.store.answering? candidate now with
      | none =>
          rw [visitAll_of_unanswered answering]
          simp only [Store.evictAll, Store.evict_of_unanswered answering,
            Option.toList_none, List.nil_append]
          exact induction number session
      | some entry =>
          have told :=
            announce_of_quiet quiet
              (session.withStore (session.store.drop candidate.key)) number
              candidate (entry.handedOut candidate.key)
          rcases announced :
              (session.withStore (session.store.drop candidate.key)).announce
                hooks number candidate (entry.handedOut candidate.key) with
            ⟨next, notice⟩
          rw [announced] at told
          rcases told with ⟨rfl, sameItem⟩
          rcases induction (number + 1)
              (session.withStore (session.store.drop candidate.key)) with
            ⟨last, items, evicted⟩
          rw [visitAll_of_answered answering hooks number rest announced]
          simp only [Store.evictAll, Store.evict_of_answered answering,
            Option.toList_some, List.singleton_append, List.map_cons,
            SweepCount.addEvicted, List.length_cons]
          exact
            ⟨last, congrArg₂ List.cons sameItem items,
              congrArg (· + 1) evicted⟩

/-- A quiet sweep evicts the due candidates from a store whose index has lost them. -/
theorem sweep_of_quiet
    {hooks : SweepHooks V R}
    (quiet : hooks.Quiet)
    (session : Session V) :
    let due :=
      (session.store.index.due session.clock).candidates session.listing
    let left :=
      session.store.withIndex (session.store.index.pending session.clock)
    (session.sweep hooks).1 =
        session.withStore (left.evictAll session.clock due).1 ∧
      (session.sweep hooks).2.notices.map (·.item) =
        (left.evictAll session.clock due).2 ∧
      (session.sweep hooks).2.count.evicted =
        (left.evictAll session.clock due).2.length :=
  visitAll_of_quiet quiet session.clock 0
    (session.withStore
      (session.store.withIndex (session.store.index.pending session.clock)))
    ((session.store.index.due session.clock).candidates session.listing)

/-! ## Quiet clearings -/

/-- What every call keeps of a session is kept by handing over items. -/
theorem bidFarewell_keeps
    {Part : Type}
    (part : Session V → Part)
    {hook : ClearHook V R}
    (kept :
      ∀ number item session,
        part (hook number item session).1 = part session)
    (number : Nat)
    (session : Session V)
    (items : List (Item V)) :
    part (bidFarewell hook number session items).1 = part session := by
  induction items generalizing number session with
  | nil => rfl
  | cons item rest induction =>
      exact (induction _ _).trans (kept number item session)

/-- With a quiet callback, draining shards empties them one after another. -/
theorem drainAll_of_quiet
    {hook : Option (ClearHook V R)}
    (quiet : ClearHook.Quiet hook)
    (number : Nat)
    (session : Session V)
    (shards : List Nat) :
    (drainAll hook number session shards).1 =
      session.withStore (session.store.emptyAll shards) := by
  induction shards generalizing session number with
  | nil => rfl
  | cons shard rest induction =>
      cases hook with
      | none =>
          simp only [drainAll, Store.emptyAll]
          exact induction number _
      | some callback =>
          have handed :=
            bidFarewell_keeps id (quiet callback rfl) number
              (session.withStore (session.store.emptyShard shard))
              (session.store.shardItems session.listing shard)
          simp only [id_eq] at handed
          simp only [drainAll, Store.emptyAll, handed]
          exact induction _ _

/-- What is handed over is reported, whatever the callback does. -/
theorem map_item_bidFarewell
    (hook : ClearHook V R)
    (number : Nat)
    (session : Session V)
    (items : List (Item V)) :
    (bidFarewell hook number session items).2.map (·.item) = items := by
  induction items generalizing number session with
  | nil => rfl
  | cons item rest induction =>
      exact congrArg (item :: ·) (induction _ _)

/-- If no call changes the store, draining shards empties them one after another. -/
theorem store_drainAll_of_sparing
    {hook : Option (ClearHook V R)}
    (sparing : ClearHook.Sparing hook)
    (number : Nat)
    (session : Session V)
    (shards : List Nat) :
    (drainAll hook number session shards).1.store =
      session.store.emptyAll shards := by
  induction shards generalizing session number with
  | nil => rfl
  | cons shard rest induction =>
      cases hook with
      | none => exact induction number _
      | some callback =>
          refine (induction _ _).trans ?_
          exact
            congrArg (Store.emptyAll · rest)
              (bidFarewell_keeps (·.store) (sparing callback rfl) number _ _)

/--
A callback that never changes the store is handed the items of all shards, and
if it never changes the listing either, in the order in which it began.
-/
theorem items_drainAll_of_sparing
    {callback : ClearHook V R}
    (sparing : ClearHook.Sparing (some callback))
    (listing : Listing)
    (number : Nat)
    (session : Session V)
    {shards : List Nat}
    (nodup : shards.Nodup) :
    let items := (drainAll (some callback) number session shards).2.map (·.item)
    items.Perm (shards.flatMap (session.store.shardItems listing)) ∧
      (ClearHook.KeepsListing (some callback) →
        items = shards.flatMap (session.store.shardItems session.listing)) := by
  induction shards generalizing session number with
  | nil => exact ⟨.nil, fun _ => rfl⟩
  | cons shard rest induction =>
      rcases List.nodup_cons.mp nodup with ⟨fresh, restNodup⟩
      let emptied := session.withStore (session.store.emptyShard shard)
      let drained := session.store.shardItems session.listing shard
      let left := (bidFarewell callback number emptied drained).1
      have kept : left.store = emptied.store :=
        bidFarewell_keeps (·.store) (sparing callback rfl) number _ _
      have unaffected (order : Listing) :
          rest.flatMap (left.store.shardItems order) =
            rest.flatMap (session.store.shardItems order) := by
        rw [kept]
        apply List.flatMap_congr
        intro other member
        apply Store.shardItems_emptyShard_of_ne
        rintro rfl
        exact fresh member
      simp only [drainAll, List.map_append, map_item_bidFarewell,
        List.flatMap_cons]
      rcases induction
          (number + (bidFarewell callback number emptied drained).2.length)
          left restNodup with
        ⟨permuted, inOrder⟩
      constructor
      · rw [unaffected] at permuted
        exact
          (session.store.shardItems_perm session.listing listing shard).append
            permuted
      · intro keeps
        have sameListing : left.listing = session.listing :=
          bidFarewell_keeps (·.listing) (keeps callback rfl) number _ _
        have others := inOrder keeps
        rw [sameListing, unaffected] at others
        exact congrArg (drained ++ ·) others

/--
A clearing whose callback never changes the store empties it, and hands over all
there was.
-/
theorem clear_of_sparing
    {hook : Option (ClearHook V R)}
    (sparing : ClearHook.Sparing hook)
    (session : Session V) :
    (session.clear hook).1.store =
        session.store.emptyAll (List.range session.store.shardCount) ∧
      ((session.clear hook).2.map (·.item)).Perm
        (if hook.isSome then
          session.store.contents.map fun (key, entry) => entry.handedOut key
        else
          []) ∧
      (ClearHook.KeepsListing hook →
        (session.clear hook).2.map (·.item) =
          if hook.isSome then session.store.items session.listing else []) := by
  refine ⟨store_drainAll_of_sparing sparing 0 session _, ?_⟩
  cases hook with
  | none =>
      have silent :
          ∀ (shards : List Nat) (session : Session V),
            (drainAll (none : Option (ClearHook V R)) 0 session shards).2 =
              [] := by
        intro shards
        induction shards with
        | nil => exact fun _ => rfl
        | cons shard rest induction => exact fun _ => induction _
      rw [clear, silent]
      exact ⟨.nil, fun _ => rfl⟩
  | some callback =>
      rcases items_drainAll_of_sparing sparing session.listing 0 session
          List.nodup_range with
        ⟨permuted, inOrder⟩
      exact
        ⟨permuted.trans (session.store.items_perm session.listing), inOrder⟩

/-- A quiet clearing leaves nothing, and hands over all there was. -/
theorem clear_of_quiet
    {hook : Option (ClearHook V R)}
    (quiet : ClearHook.Quiet hook)
    (session : Session V) :
    (session.clear hook).1 =
        session.withStore
          (session.store.emptyAll (List.range session.store.shardCount)) ∧
      ((session.clear hook).2.map (·.item)).Perm
        (if hook.isSome then
          session.store.contents.map fun (key, entry) => entry.handedOut key
        else
          []) :=
  ⟨drainAll_of_quiet quiet 0 session _,
    (clear_of_sparing quiet.sparing session).2.1⟩

end Session

end TtlStore
