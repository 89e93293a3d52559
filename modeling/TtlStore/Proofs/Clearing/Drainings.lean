import TtlStore.Proofs.Clearing.Written
import TtlStore.Proofs.Session.Completion

/-!
# The course of a clearing

A clearing drains the shards in order, and after each draining it hands the
drained items to its callback.  The course of a clearing is the list of its
drainings, each with the calls that followed it.  The callback acts on the session
between and within drainings, so each draining and each call has its own session
in which it was found.

What no draining and no call ends holds throughout: the facts about clearings are
consequences of that one, for what they say of the store.
-/

namespace TtlStore

variable {V R : Type}

/-- A call of the callback: its number, its item, and the session before and after it. -/
structure Handover (V R : Type) where
  number : Nat
  item : Item V
  found : Session V
  left : Session V
  replies : List R

/-- The draining of a shard, with the calls that hand over what was drained. -/
structure Draining (V R : Type) where
  shard : Nat
  found : Session V
  handovers : List (Handover V R)
  left : Session V

namespace Handover

/-- What is reported of a call. -/
def farewell (handover : Handover V R) : Farewell V R where
  item := handover.item
  replies := handover.replies

/-- The callback, called like this, did this. -/
def CalledBy (handover : Handover V R) (hook : ClearHook V R) : Prop :=
  hook handover.number handover.item handover.found =
    (handover.left, handover.replies)

/-- The calls follow one another from the first session to the last, numbered in turn. -/
def Chain (hook : ClearHook V R) :
    Nat → Session V → List (Handover V R) → Session V → Prop
  | _, first, [], last => first = last
  | number, first, handover :: rest, last =>
      handover.number = number ∧
        handover.found = first ∧
          handover.CalledBy hook ∧
            Chain hook (number + 1) handover.left rest last

/-- The index changes from the first to the last by what the calls make of it, not otherwise. -/
def ChangesIndex :
    ExpiryIndex → List (Handover V R) → ExpiryIndex → Prop
  | first, [], last => first = last
  | first, handover :: rest, last =>
      handover.found.store.index = first ∧
        ChangesIndex handover.left.store.index rest last

end Handover

namespace Draining

/-- The session right after the shard was emptied, before any call. -/
def emptied (draining : Draining V R) : Session V :=
  draining.found.withStore
    (draining.found.store.emptyShard draining.shard)

/-- The drainings follow one another from the first session to the last. -/
def Chain (hook : ClearHook V R) :
    Nat → Session V → List (Draining V R) → Session V → Prop
  | _, first, [], last => first = last
  | number, first, draining :: rest, last =>
      draining.found = first ∧
        Handover.Chain hook number draining.emptied draining.handovers
          draining.left ∧
          Chain hook (number + draining.handovers.length) draining.left rest
            last

/--
What the shard held when it was drained was handed over, each key once, with its
token and value and without a deadline.
-/
structure Reported (draining : Draining V R) : Prop where
  mem_items_iff :
    ∀ item,
      item ∈ draining.handovers.map (·.item) ↔
        ∃ key entry,
          draining.found.store.HeldIn draining.shard key entry ∧
            item = ⟨key, entry.token, entry.value, none⟩
  nodup_keys : (draining.handovers.map (·.item.key)).Nodup

end Draining

/-! ## The course of a clearing as computed -/

namespace Session

variable (hook : ClearHook V R)

/-- The calls that hand over some items. -/
def handovers (number : Nat) (session : Session V) :
    List (Item V) → List (Handover V R)
  | [] => []
  | item :: rest =>
      let outcome := hook number item session
      { number := number
        item := item
        found := session
        left := outcome.1
        replies := outcome.2 } ::
          handovers (number + 1) outcome.1 rest

/-- The drainings of some shards. -/
def drainings (number : Nat) (session : Session V) :
    List Nat → List (Draining V R)
  | [] => []
  | shard :: rest =>
      let emptied := session.withStore (session.store.emptyShard shard)
      let items := session.store.shardItems session.listing shard
      let left := (bidFarewell hook number emptied items).1
      { shard := shard
        found := session
        handovers := handovers hook number emptied items
        left := left } ::
          drainings (number + items.length) left rest

theorem map_item_handovers
    (number : Nat)
    (session : Session V)
    (items : List (Item V)) :
    (handovers hook number session items).map (·.item) = items := by
  induction items generalizing number session with
  | nil => rfl
  | cons item rest induction =>
      rw [handovers, List.map_cons, induction]

theorem length_handovers
    (number : Nat)
    (session : Session V)
    (items : List (Item V)) :
    (handovers hook number session items).length = items.length := by
  have sameItems := map_item_handovers hook number session items
  exact (List.length_map _).symm.trans (congrArg List.length sameItems)

theorem map_farewell_handovers
    (number : Nat)
    (session : Session V)
    (items : List (Item V)) :
    (handovers hook number session items).map Handover.farewell =
      (bidFarewell hook number session items).2 := by
  induction items generalizing number session with
  | nil => rfl
  | cons item rest induction =>
      rw [handovers, List.map_cons, induction]
      rfl

theorem chain_handovers
    (number : Nat)
    (session : Session V)
    (items : List (Item V)) :
    Handover.Chain hook number session
      (handovers hook number session items)
      (bidFarewell hook number session items).1 := by
  induction items generalizing number session with
  | nil => rfl
  | cons item rest induction =>
      exact ⟨rfl, rfl, rfl, induction _ _⟩

theorem map_shard_drainings
    (number : Nat)
    (session : Session V)
    (shards : List Nat) :
    (drainings hook number session shards).map (·.shard) = shards := by
  induction shards generalizing number session with
  | nil => rfl
  | cons shard rest induction =>
      rw [drainings, List.map_cons, induction]

theorem length_bidFarewell
    (number : Nat)
    (session : Session V)
    (items : List (Item V)) :
    (bidFarewell hook number session items).2.length = items.length := by
  rw [← map_farewell_handovers, List.length_map, length_handovers]

/-- What a clearing reports are the farewells of its calls. -/
theorem map_farewell_drainings
    (number : Nat)
    (session : Session V)
    (shards : List Nat) :
    ((drainings hook number session shards).flatMap
        (·.handovers)).map Handover.farewell =
      (drainAll (some hook) number session shards).2 := by
  induction shards generalizing number session with
  | nil => rfl
  | cons shard rest induction =>
      rw [drainings, List.flatMap_cons, List.map_append, induction,
        map_farewell_handovers]
      simp only [drainAll, length_bidFarewell]

/-- A clearing goes from draining to draining and ends where the last one does. -/
theorem chain_drainings
    (number : Nat)
    (session : Session V)
    (shards : List Nat) :
    Draining.Chain hook number session
      (drainings hook number session shards)
      (drainAll (some hook) number session shards).1 := by
  induction shards generalizing number session with
  | nil => rfl
  | cons shard rest induction =>
      refine ⟨rfl, chain_handovers hook number _ _, ?_⟩
      simp only [drainAll, length_bidFarewell, length_handovers]
      exact induction _ _

/-- Every draining of a clearing reports what it drains. -/
theorem reported_drainings
    (number : Nat)
    (session : Session V)
    (shards : List Nat) :
    ∀ draining ∈ drainings hook number session shards,
      draining.Reported := by
  induction shards generalizing number session with
  | nil =>
      intro draining member
      cases member
  | cons shard rest induction =>
      refine List.forall_mem_cons.mpr ⟨?_, induction _ _⟩
      have sameItems :=
        map_item_handovers hook number
          (session.withStore (session.store.emptyShard shard))
          (session.store.shardItems session.listing shard)
      constructor
      · intro item
        simp only [sameItems]
        exact session.store.mem_shardItems_iff session.listing shard item
      · have sameKeys := congrArg (List.map (·.key)) sameItems
        rw [List.map_map] at sameKeys
        show ((handovers hook number _ _).map _).Nodup
        exact
          sameKeys ▸ session.store.nodup_keys_shardItems session.listing shard

end Session

/-! ## What holds throughout a clearing -/

namespace Handover.Chain

variable
  {hook : ClearHook V R}
  {number : Nat}
  {first last : Session V}

/-- What every call keeps holds after all of them. -/
theorem keeps
    {handovers : List (Handover V R)}
    (chain : Chain hook number first handovers last)
    (Holds : Session V → Prop)
    (kept :
      ∀ handover ∈ handovers,
        handover.CalledBy hook →
          Holds handover.found → Holds handover.left)
    (holds : Holds first) :
    Holds last := by
  induction handovers generalizing number first with
  | nil => exact chain ▸ holds
  | cons handover rest induction =>
      rcases chain with ⟨_, rfl, called, others⟩
      rcases List.forall_mem_cons.mp kept with ⟨keptFirst, keptRest⟩
      exact induction others keptRest (keptFirst called holds)

/-- A chain of calls can be cut before and after any of them. -/
theorem split
    {before after : List (Handover V R)}
    {handover : Handover V R}
    (chain : Chain hook number first (before ++ handover :: after) last) :
    handover.CalledBy hook ∧
      ∃ next, Chain hook next handover.left after last := by
  induction before generalizing number first with
  | nil =>
      rcases chain with ⟨_, _, called, others⟩
      exact ⟨called, _, others⟩
  | cons earlier rest induction =>
      rcases chain with ⟨_, _, _, others⟩
      exact induction others

theorem changesIndex
    {handovers : List (Handover V R)}
    (chain : Chain hook number first handovers last) :
    ChangesIndex first.store.index handovers last.store.index := by
  induction handovers generalizing number first with
  | nil => exact congrArg (·.store.index) chain
  | cons handover rest induction =>
      rcases chain with ⟨_, rfl, _, others⟩
      exact ⟨rfl, induction others⟩

end Handover.Chain

theorem Handover.ChangesIndex.append
    {first middle last : ExpiryIndex}
    {early late : List (Handover V R)}
    (left : ChangesIndex first early middle)
    (right : ChangesIndex middle late last) :
    ChangesIndex first (early ++ late) last := by
  induction early generalizing first with
  | nil => exact left ▸ right
  | cons handover rest induction =>
      exact ⟨left.1, induction left.2⟩

namespace Draining.Chain

variable
  {hook : ClearHook V R}
  {number : Nat}
  {first last : Session V}

/-- What every draining and every call keeps holds after all of them. -/
theorem keeps
    {drainings : List (Draining V R)}
    (chain : Chain hook number first drainings last)
    (Holds : Session V → Prop)
    (emptied :
      ∀ draining ∈ drainings,
        Holds draining.found → Holds draining.emptied)
    (kept :
      ∀ handover ∈ drainings.flatMap (·.handovers),
        handover.CalledBy hook →
          Holds handover.found → Holds handover.left)
    (holds : Holds first) :
    Holds last := by
  induction drainings generalizing number first with
  | nil => exact chain ▸ holds
  | cons draining rest induction =>
      rcases chain with ⟨rfl, calls, others⟩
      rcases List.forall_mem_cons.mp emptied with
        ⟨emptiedFirst, emptiedRest⟩
      rw [List.flatMap_cons] at kept
      rcases List.forall_mem_append.mp kept with ⟨keptFirst, keptRest⟩
      exact
        induction others emptiedRest keptRest
          (calls.keeps Holds keptFirst (emptiedFirst holds))

/-- A chain of drainings can be cut before and after any of them. -/
theorem split
    {before after : List (Draining V R)}
    {draining : Draining V R}
    (chain : Chain hook number first (before ++ draining :: after) last) :
    Chain hook number first before draining.found ∧
      (∃ next,
        Handover.Chain hook next draining.emptied draining.handovers
          draining.left) ∧
        ∃ next, Chain hook next draining.left after last := by
  induction before generalizing number first with
  | nil =>
      rcases chain with ⟨rfl, calls, others⟩
      exact ⟨rfl, ⟨_, calls⟩, _, others⟩
  | cons earlier rest induction =>
      rcases chain with ⟨sameFound, calls, others⟩
      rcases induction others with ⟨chainBefore, chainRest⟩
      exact ⟨⟨sameFound, calls, chainBefore⟩, chainRest⟩

theorem changesIndex
    {drainings : List (Draining V R)}
    (chain : Chain hook number first drainings last) :
    Handover.ChangesIndex first.store.index
      (drainings.flatMap (·.handovers)) last.store.index := by
  induction drainings generalizing number first with
  | nil => exact congrArg (·.store.index) chain
  | cons draining rest induction =>
      rcases chain with ⟨rfl, calls, others⟩
      rw [List.flatMap_cons]
      exact (show Handover.ChangesIndex draining.found.store.index _ _
        from calls.changesIndex).append (induction others)

end Draining.Chain

end TtlStore
