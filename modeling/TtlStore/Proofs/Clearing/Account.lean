import TtlStore.Proofs.Clearing.Drainings
import TtlStore.Proofs.Session.Quiet

/-!
# Clearing under callbacks that act

A callback of a clearing may do anything to the session, step by step: write into
the shard that is being reported or into any other, delete, move the clock, sweep,
and clear in turn.  Every call is therefore looked at as the run that it is.

A shard that is still to be drained is touched by nothing but these runs.  What it
holds at some moment of a call is still there when it is drained, and is
reported, unless some later step of a call has ended it.  And what is stored when
the clearing is over has been written by a step of a call made when its shard
had been drained, since the draining had left nothing in the shard.
-/

namespace TtlStore

variable {V : Type}

/-- A shard holds under a key an entry of some kind. -/
def Store.HoldsIn
    (store : Store V)
    (shard : Nat)
    (key : Key)
    (Kind : Entry V → Prop) :
    Prop :=
  ∃ entry, store.HeldIn shard key entry ∧ Kind entry

/-- The callback of a clearing that reacts with actions. -/
def Action.farewellHook (react : Nat → Item V → List (Action V)) :
    ClearHook V (Reply V) :=
  fun number item session => runAll (react number item) session

theorem Moment.after_of_finished
    (session : Session V)
    (replies : List (Reply V))
    (steps : Nat) :
    (Moment.mk session [] replies .idle []).after steps =
      Moment.mk session [] replies .idle [] :=
  Function.iterate_fixed rfl steps

/-! ## The steps of a call -/

namespace Handover

variable
  (react : Nat → Item V → List (Action V))
  (handover : Handover V (Reply V))

/-- The moments of a call. -/
def moment (steps : Nat) : Moment V :=
  (Moment.start (react handover.number handover.item)
    handover.found).after steps

/-- A step of a call ends what held of the store. -/
def Ends (Holds : Store V → Prop) (step : Nat) : Prop :=
  Holds (handover.moment react step).session.store ∧
    ¬ Holds (handover.moment react (step + 1)).session.store

/-- A step of a call writes what a shard then holds under a key. -/
def Writes
    (shard : Nat)
    (key : Key)
    (entry : Entry V)
    (step : Nat) :
    Prop :=
  entry.item key ∈ Deed.writtenBy (handover.moment react step).deeds ∧
    (handover.moment react (step + 1)).session.store.HeldIn shard key entry

variable {react handover}

theorem step_moment (steps : Nat) :
    (handover.moment react steps).Step
      (handover.moment react (steps + 1)) := by
  rw [moment, moment, Moment.after_succ]
  exact Moment.step_next _

/-- From some step on, a call has reached the session that it leaves. -/
theorem CalledBy.exists_session_eq
    (called : handover.CalledBy (Action.farewellHook react)) :
    ∃ last, ∀ more,
      (handover.moment react (more + last)).session = handover.left := by
  let actions := react handover.number handover.item
  rcases Moment.exists_after_start_append actions [] handover.found with
    ⟨last, reached⟩
  refine ⟨last, ?_⟩
  intro more
  have sameLeft : (Action.runAll actions handover.found).1 = handover.left :=
    congrArg Prod.fst called
  rw [List.append_nil] at reached
  have later :
      handover.moment react (more + last) =
        ((Moment.start actions handover.found).after last).after more :=
    Function.iterate_add_apply Moment.next more last _
  rw [later, reached, Moment.after_of_finished]
  exact sameLeft

/-- What holds at a moment of a call a later step ends, or it holds after the call. -/
theorem CalledBy.ends_or_holds
    (called : handover.CalledBy (Action.farewellHook react))
    (Holds : Store V → Prop)
    {step : Nat}
    (holds : Holds (handover.moment react step).session.store) :
    (∃ later ≥ step, handover.Ends react Holds later) ∨
      Holds handover.left.store := by
  by_cases ended : ∃ later ≥ step, handover.Ends react Holds later
  · exact Or.inl ended
  · have lasting :
        ∀ more,
          Holds (handover.moment react (step + more)).session.store := by
      intro more
      induction more with
      | zero => exact holds
      | succ more induction =>
          by_contra lost
          exact ended ⟨step + more, Nat.le_add_right step more, induction, lost⟩
    rcases called.exists_session_eq with ⟨last, reached⟩
    exact Or.inr (reached step ▸ lasting last)

/-- What holds before a call a step of it ends, or it holds after the call. -/
theorem CalledBy.ends_or_holds_of_found
    (called : handover.CalledBy (Action.farewellHook react))
    (Holds : Store V → Prop)
    (holds : Holds handover.found.store) :
    (∃ step, handover.Ends react Holds step) ∨ Holds handover.left.store := by
  have holdsFirst : Holds (handover.moment react 0).session.store := holds
  rcases called.ends_or_holds Holds holdsFirst with
    ⟨step, _, ends⟩ | holdsLeft
  · exact Or.inl ⟨step, ends⟩
  · exact Or.inr holdsLeft

/-- What a shard holds after a call and did not hold before, a step of it has written. -/
theorem CalledBy.exists_writes
    (called : handover.CalledBy (Action.farewellHook react))
    {shard : Nat}
    {key : Key}
    {entry : Entry V}
    (foreign : ¬ handover.found.store.HeldIn shard key entry)
    (held : handover.left.store.HeldIn shard key entry) :
    ∃ step, handover.Writes react shard key entry step := by
  let Foreign (store : Store V) : Prop := ¬ store.HeldIn shard key entry
  rcases called.ends_or_holds_of_found Foreign foreign with
    ⟨step, foreignStill, arrived⟩ | foreignLast
  · have heldNext := not_not.mp arrived
    rcases (step_moment step).heldIn heldNext with before | written
    · exact absurd before foreignStill
    · exact ⟨step, written, heldNext⟩
  · exact absurd held foreignLast

theorem CalledBy.shardCount_eq
    (called : handover.CalledBy (Action.farewellHook react)) :
    handover.left.store.shardCount = handover.found.store.shardCount := by
  let Same (store : Store V) : Prop :=
    store.shardCount = handover.found.store.shardCount
  rcases called.ends_or_holds_of_found Same rfl with
    ⟨step, same, different⟩ | sameLast
  · exact absurd ((step_moment step).shardCount_eq.trans same) different
  · exact sameLast

variable {number : Nat} {first last : Session V}

/-- What holds before some calls one of them ends, or it holds after them. -/
theorem Chain.ends_or_holds
    {handovers : List (Handover V (Reply V))}
    (chain :
      Chain (Action.farewellHook react) number first handovers last)
    (Holds : Store V → Prop)
    (holds : Holds first.store) :
    (∃ handover ∈ handovers, ∃ step, handover.Ends react Holds step) ∨
      Holds last.store := by
  by_cases ended :
      ∃ handover ∈ handovers, ∃ step, handover.Ends react Holds step
  · exact Or.inl ended
  · refine Or.inr (chain.keeps (fun session => Holds session.store) ?_ holds)
    intro handover member called holdsFound
    rcases called.ends_or_holds_of_found Holds holdsFound with
      ⟨step, ends⟩ | holdsLeft
    · exact absurd ⟨handover, member, step, ends⟩ ended
    · exact holdsLeft

end Handover

/-! ## The drainings of a clearing -/

namespace Draining

/-- The draining reports, under a key, what an entry of some kind is handed out as. -/
def Reports
    {R : Type}
    (draining : Draining V R)
    (key : Key)
    (Kind : Entry V → Prop) :
    Prop :=
  ∃ entry,
    Kind entry ∧
      ⟨key, entry.token, entry.value, none⟩ ∈
        draining.handovers.map (·.item)

variable
  {react : Nat → Item V → List (Action V)}
  {number : Nat}
  {first last : Session V}
  {drainings : List (Draining V (Reply V))}

/-- What other shards are emptied for does not end what a shard holds; only a call can. -/
theorem Chain.ends_or_holdsIn
    (chain :
      Chain (Action.farewellHook react) number first drainings last)
    {shard : Nat}
    {key : Key}
    {Kind : Entry V → Prop}
    (elsewhere : ∀ draining ∈ drainings, draining.shard ≠ shard)
    (holds : first.store.HoldsIn shard key Kind) :
    (∃ handover ∈ drainings.flatMap (·.handovers),
        ∃ step, handover.Ends react (·.HoldsIn shard key Kind) step) ∨
      last.store.HoldsIn shard key Kind := by
  induction drainings generalizing number first with
  | nil => exact Or.inr (chain ▸ holds)
  | cons draining rest induction =>
      rcases chain with ⟨rfl, calls, others⟩
      rcases List.forall_mem_cons.mp elsewhere with ⟨other, otherRest⟩
      have holdsEmptied :
          draining.emptied.store.HoldsIn shard key Kind := by
        rcases holds with ⟨entry, held, isKind⟩
        exact
          ⟨entry,
            (draining.found.store.heldIn_emptyShard _ _ _ _).mpr
              ⟨other, held⟩,
            isKind⟩
      simp only [List.flatMap_cons, List.mem_append, or_and_right,
        exists_or]
      rcases calls.ends_or_holds
          (·.HoldsIn shard key Kind) holdsEmptied with
        ends | holdsLeft
      · exact Or.inl (Or.inl ends)
      · exact (induction others otherRest holdsLeft).imp_left Or.inr

/-- Nothing changes the number of shards. -/
theorem Chain.shardCount_eq
    (chain :
      Chain (Action.farewellHook react) number first drainings last) :
    last.store.shardCount = first.store.shardCount := by
  let Same (session : Session V) : Prop :=
    session.store.shardCount = first.store.shardCount
  have same : Same last := by
    refine chain.keeps Same ?_ ?_ rfl
    · intro draining _ same
      exact (Store.shardCount_emptyShard _ _).trans same
    · intro handover _ called same
      exact called.shardCount_eq.trans same
  exact same

/--
What a shard holds at a moment of a call is reported when the shard is drained,
unless a later step has ended it.
-/
theorem Chain.reports
    {before between after : List (Draining V (Reply V))}
    {draining target : Draining V (Reply V)}
    (chain :
      Chain (Action.farewellHook react) number first
        (before ++ draining :: (between ++ target :: after)) last)
    (sorted :
      (before ++ draining :: (between ++ target :: after)).Pairwise
        fun left right => left.shard < right.shard)
    (reported : target.Reported)
    {earlier others : List (Handover V (Reply V))}
    {handover : Handover V (Reply V)}
    (calls : draining.handovers = earlier ++ handover :: others)
    {step : Nat}
    {key : Key}
    {Kind : Entry V → Prop}
    (holds :
      (handover.moment react step).session.store.HoldsIn target.shard key
        Kind) :
    target.Reports key Kind ∨
      (∃ later ≥ step,
        handover.Ends react (·.HoldsIn target.shard key Kind) later) ∨
      ∃ other ∈ others ++ between.flatMap (·.handovers),
        ∃ later,
          other.Ends react (·.HoldsIn target.shard key Kind) later := by
  have elsewhere : ∀ other ∈ between, other.shard ≠ target.shard := by
    intro other isBetween
    have later := (List.pairwise_append.mp sorted).2.1
    have ordered := (List.pairwise_cons.mp later).2
    have precedes :=
      (List.pairwise_append.mp ordered).2.2 other isBetween target
        List.mem_cons_self
    exact Nat.ne_of_lt precedes
  rcases chain.split with ⟨_, ⟨_, callsChain⟩, _, rest⟩
  rw [calls] at callsChain
  rcases callsChain.split with ⟨called, _, othersChain⟩
  rcases rest.split with ⟨betweenChain, _, _⟩
  simp only [List.mem_append, or_and_right, exists_or]
  rcases called.ends_or_holds
      (·.HoldsIn target.shard key Kind) holds with
    ends | holdsLeft
  · exact Or.inr (Or.inl ends)
  rcases othersChain.ends_or_holds
      (·.HoldsIn target.shard key Kind) holdsLeft with
    ends | holdsAfter
  · exact Or.inr (Or.inr (Or.inl ends))
  rcases betweenChain.ends_or_holdsIn elsewhere holdsAfter with
    ends | ⟨entry, held, isKind⟩
  · exact Or.inr (Or.inr (Or.inr ends))
  · exact
      Or.inl
        ⟨entry, isKind,
          (reported.mem_items_iff _).mpr ⟨key, entry, held, rfl⟩⟩

/-- What a shard holds in the end was written by a call made after its draining. -/
theorem Chain.exists_writes
    {before after : List (Draining V (Reply V))}
    {target : Draining V (Reply V)}
    (chain :
      Chain (Action.farewellHook react) number first
        (before ++ target :: after) last)
    {key : Key}
    {entry : Entry V}
    (held : last.store.HeldIn target.shard key entry) :
    ∃ draining ∈ target :: after, ∃ handover ∈ draining.handovers,
      ∃ step, handover.Writes react target.shard key entry step := by
  rcases chain.split with ⟨_, ⟨_, calls⟩, _, rest⟩
  by_contra unwritten
  let Foreign (session : Session V) : Prop :=
    ¬ session.store.HeldIn target.shard key entry
  have kept :
      ∀ draining ∈ target :: after, ∀ handover ∈ draining.handovers,
        handover.CalledBy (Action.farewellHook react) →
          Foreign handover.found → Foreign handover.left :=
    fun draining member handover call called foreign heldLeft =>
      unwritten
        ⟨draining, member, handover, call,
          called.exists_writes foreign heldLeft⟩
  rcases List.forall_mem_cons.mp kept with ⟨keptTarget, keptAfter⟩
  have foreignEmptied : Foreign target.emptied :=
    fun heldEmptied =>
      ((target.found.store.heldIn_emptyShard _ _ _ _).mp heldEmptied).1 rfl
  have foreignLeft : Foreign target.left :=
    calls.keeps Foreign keptTarget foreignEmptied
  have foreignLast : Foreign last := by
    refine rest.keeps Foreign ?_ ?_ foreignLeft
    · intro draining _ foreign heldEmptied
      exact
        foreign
          ((draining.found.store.heldIn_emptyShard _ _ _ _).mp
            heldEmptied).2
    · intro handover member
      rcases List.mem_flatMap.mp member with ⟨draining, later, call⟩
      exact keptAfter draining later handover call
  exact foreignLast held

/-- What a shard holds in the end was written when the shard had been drained. -/
theorem Chain.exists_writes_of_sorted
    (chain :
      Chain (Action.farewellHook react) number first drainings last)
    (sorted :
      drainings.Pairwise fun left right => left.shard < right.shard)
    {shard : Nat}
    (drained : shard ∈ drainings.map (·.shard))
    {key : Key}
    {entry : Entry V}
    (held : last.store.HeldIn shard key entry) :
    ∃ draining ∈ drainings,
      shard ≤ draining.shard ∧
        ∃ handover ∈ draining.handovers,
          ∃ step, handover.Writes react shard key entry step := by
  rcases List.mem_map.mp drained with ⟨target, member, rfl⟩
  rcases List.append_of_mem member with ⟨before, after, rfl⟩
  rcases chain.exists_writes held with
    ⟨draining, notBefore, handover, call, writes⟩
  refine
    ⟨draining, List.mem_append_right before notBefore, ?_, handover, call,
      writes⟩
  rcases List.mem_cons.mp notBefore with rfl | isAfter
  · exact Nat.le_refl _
  · have later := (List.pairwise_append.mp sorted).2.1
    have precedes := (List.pairwise_cons.mp later).1 draining isAfter
    exact Nat.le_of_lt precedes

end Draining

/-! ## Clearings -/

/--
A clearing is accounted for, whatever its callback does.  The shards are drained in
order, each in the session that the calls before have left.  What a shard holds
when it is drained is reported, each key once, with its token and value and
without a deadline, and nothing else is.  So what a shard that is still to be
drained holds at any moment of a call, be it just written or older, is reported
unless a later step ends that before.  What is stored in the end was written by a
step of a call made after its shard was drained.  The index is changed by the
calls alone.

If no call changes the store, or if there is no callback, the store ends empty with
its index as it was, and exactly what was stored is reported; if no call changes the
listing either, shard by shard in the order of the listing.
-/
theorem clear_accounted
    (react : Nat → Item V → List (Action V))
    (session : Session V) :
    let cleared := (Action.clear (some react)).run session
    (∃ drainings : List (Draining V (Reply V)),
      cleared.2 =
          .cleared session.store.shardCount
            ((drainings.flatMap (·.handovers)).map Handover.farewell) ∧
        drainings.map (·.shard) = List.range session.store.shardCount ∧
        Draining.Chain (Action.farewellHook react) 0 session drainings
          cleared.1 ∧
        (∀ draining ∈ drainings, draining.Reported) ∧
        (∀ before draining between target after earlier handover others,
          drainings = before ++ draining :: (between ++ target :: after) →
            draining.handovers = earlier ++ handover :: others →
              ∀ step key Kind,
                (handover.moment react step).session.store.HoldsIn
                    target.shard key Kind →
                  target.Reports key Kind ∨
                    (∃ later ≥ step,
                      handover.Ends react (·.HoldsIn target.shard key Kind)
                        later) ∨
                    ∃ other ∈ others ++ between.flatMap (·.handovers),
                      ∃ later,
                        other.Ends react (·.HoldsIn target.shard key Kind)
                          later) ∧
        (∀ shard key entry, cleared.1.store.HeldIn shard key entry →
          ∃ draining ∈ drainings,
            shard ≤ draining.shard ∧
              ∃ handover ∈ draining.handovers,
                ∃ step, handover.Writes react shard key entry step) ∧
        Handover.ChangesIndex session.store.index
          (drainings.flatMap (·.handovers)) cleared.1.store.index) ∧
      ∀ callback : Option (Nat → Item V → List (Action V)),
        ClearHook.Sparing (callback.map Action.farewellHook) →
          let spared := (Action.clear callback).run session
          spared.1.store.isEmpty = true ∧
            spared.1.store.index = session.store.index ∧
              ∃ farewells,
                spared.2 = .cleared session.store.shardCount farewells ∧
                  (farewells.map (·.item)).Perm
                    (if callback.isSome then
                      session.store.contents.map fun (key, entry) =>
                        ⟨key, entry.token, entry.value, none⟩
                    else
                      []) ∧
                  (ClearHook.KeepsListing
                      (callback.map Action.farewellHook) →
                    farewells.map (·.item) =
                      if callback.isSome then
                        session.store.items session.listing
                      else
                        []) := by
  intro cleared
  let hook := Action.farewellHook react
  let shards := List.range session.store.shardCount
  let drainings := Session.drainings hook 0 session shards
  have ran :
      cleared =
        ((session.clear (some hook)).1,
          .cleared session.store.shardCount (session.clear (some hook)).2) :=
    Action.run_clear (some react) session
  have sameShards : drainings.map (·.shard) = shards :=
    Session.map_shard_drainings hook 0 session shards
  have chain : Draining.Chain hook 0 session drainings cleared.1 := by
    rw [ran]
    exact Session.chain_drainings hook 0 session shards
  have reported : ∀ draining ∈ drainings, draining.Reported :=
    Session.reported_drainings hook 0 session shards
  have sorted : drainings.Pairwise fun left right => left.shard < right.shard := by
    rw [← List.pairwise_map, sameShards]
    exact List.pairwise_lt_range
  refine
    ⟨⟨drainings, ?_, sameShards, chain, reported, ?_, ?_,
      chain.changesIndex⟩, ?_⟩
  · rw [ran]
    exact
      congrArg (Reply.cleared _)
        (Session.map_farewell_drainings hook 0 session shards).symm
  · intro before draining between target after earlier handover others cut
      calls step key Kind holds
    have member : target ∈ drainings := by
      rw [cut]
      simp
    rw [cut] at chain sorted
    exact chain.reports sorted (reported target member) calls holds
  · intro shard key entry held
    have inRange : shard ∈ drainings.map (·.shard) := by
      rw [sameShards, List.mem_range, ← chain.shardCount_eq]
      exact held.lt
    exact chain.exists_writes_of_sorted sorted inRange held
  · intro callback sparing spared
    rcases Session.clear_of_sparing sparing session with
      ⟨emptied, handedOver, inOrder⟩
    have ranSpared :
        spared =
          ((session.clear (callback.map Action.farewellHook)).1,
            .cleared session.store.shardCount
              (session.clear (callback.map Action.farewellHook)).2) :=
      Action.run_clear callback session
    rw [ranSpared]
    refine ⟨?_, ?_, _, rfl, ?_, ?_⟩
    · rw [emptied]
      exact session.store.isEmpty_emptyAll_range
    · rw [emptied]
      exact session.store.index_emptyAll _
    · rw [Option.isSome_map] at handedOver
      exact handedOver
    · rw [Option.isSome_map] at inOrder
      exact inOrder

/--
A callback that on its first call writes back into the shard that is being
reported, writes into one that is still to be drained, and deletes from another.
-/
def meddlingCallback : Nat → Item Nat → List (Action Nat)
  | 0, _ =>
      [.perform (.set ⟨3, 0, 33, .ending ⟨9⟩⟩),
        .perform (.set ⟨2, 0, 22, .unlimited⟩),
        .perform (.delete 1 0)]
  | _, _ => []

/-- A session with entries in the first two of its three shards. -/
def stockedSession : Session Nat :=
  (Action.runAll
    [.perform (.set ⟨0, 7, 10, .ending ⟨5⟩⟩),
      .perform (.set ⟨1, 0, 11, .unlimited⟩),
      .perform (.set ⟨4, 8, 14, .unlimited⟩)]
    { store := Store.empty 3 (Calendar.ofWidth ⟨0⟩ ⟨10⟩) (by decide)
      clock := ⟨0⟩ }).1

/-- A callback that only sets the clock, to the number of its call. -/
def windingCallback : Nat → Item Nat → List (Action Nat) :=
  fun number _ => [.perform (.setClock ⟨number⟩)]

theorem sparing_windingCallback :
    ClearHook.Sparing (some (Action.farewellHook windingCallback)) := by
  intro callback same number item session
  cases same
  simp only [Action.farewellHook, windingCallback, Action.runAll, Action.run]
  rfl

theorem keepsListing_windingCallback :
    ClearHook.KeepsListing (some (Action.farewellHook windingCallback)) := by
  intro callback same number item session
  cases same
  simp only [Action.farewellHook, windingCallback, Action.runAll, Action.run]
  rfl

theorem clear_accounted_meddlingCallback :
    let cleared := (Action.clear (some meddlingCallback)).run stockedSession
    let spared := (Action.clear (some windingCallback)).run stockedSession
    cleared.1.store.toList = [(3, ⟨0, 33, some ⟨9⟩⟩)] ∧
      (∃ drainings : List (Draining Nat (Reply Nat)),
        drainings.map (·.shard) = [0, 1, 2] ∧
          (drainings.flatMap (·.handovers)).map (·.item) =
            [.lasting 0 7 10, .lasting 4 8 14, .lasting 2 0 22] ∧
          (∀ draining ∈ drainings, draining.Reported) ∧
          ∃ draining ∈ drainings, ∃ handover ∈ draining.handovers,
            ∃ step,
              handover.Writes meddlingCallback 0 3 ⟨0, 33, some ⟨9⟩⟩ step) ∧
      ClearHook.Sparing (some (Action.farewellHook windingCallback)) ∧
      ClearHook.KeepsListing (some (Action.farewellHook windingCallback)) ∧
      spared.1.store.isEmpty = true ∧
      spared.1.store.index = stockedSession.store.index ∧
      ∃ farewells,
        spared.2 = .cleared 3 farewells ∧
          farewells.map (·.item) =
            [.lasting 0 7 10, .lasting 1 0 11, .lasting 4 8 14] := by
  intro cleared spared
  have left : cleared.1.store.toList = [(3, ⟨0, 33, some ⟨9⟩⟩)] := by
    decide +kernel
  have held : cleared.1.store.HeldIn 0 3 ⟨0, 33, some ⟨9⟩⟩ :=
    Option.bind_eq_some_iff.mp (by decide +kernel)
  have handedOver :
      (stockedSession.clear
          (some (Action.farewellHook meddlingCallback))).2.map (·.item) =
        [.lasting 0 7 10, .lasting 4 8 14, .lasting 2 0 22] := by
    decide +kernel
  rcases clear_accounted meddlingCallback stockedSession with
    ⟨⟨drainings, reply, sameShards, _, reported, _, written, _⟩, sparing⟩
  have sameFarewells :
      (stockedSession.clear
          (some (Action.farewellHook meddlingCallback))).2 =
        (drainings.flatMap (·.handovers)).map Handover.farewell := by
    rw [Action.run_clear] at reply
    exact (Reply.cleared.inj reply).2
  rw [sameFarewells, List.map_map] at handedOver
  rcases written 0 3 _ held with
    ⟨draining, member, _, handover, call, writes⟩
  rcases sparing (some windingCallback) sparing_windingCallback with
    ⟨emptied, sameIndex, farewells, told, _, inOrder⟩
  have itemsInOrder :
      stockedSession.store.items stockedSession.listing =
        [.lasting 0 7 10, .lasting 1 0 11, .lasting 4 8 14] := by
    decide +kernel
  have sameCount : stockedSession.store.shardCount = 3 := by
    decide +kernel
  rw [sameCount] at told
  exact
    ⟨left,
      ⟨drainings, sameShards, handedOver, reported, draining, member,
        handover, call, writes⟩,
      sparing_windingCallback, keepsListing_windingCallback, emptied,
      sameIndex, farewells, told,
      (inOrder keepsListing_windingCallback).trans itemsInOrder⟩

end TtlStore
