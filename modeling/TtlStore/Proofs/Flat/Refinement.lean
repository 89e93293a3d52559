import TtlStore.Proofs.Flat.Basic
import TtlStore.Proofs.Session.Ordinary
import TtlStore.Proofs.Session.Writing
import TtlStore.Proofs.Store.Size

/-!
# The sharded store answers like the flat one

A flat store mirrors a session if both have the same clock and the same entry
under every key, and the session's store is settled by the flat one's calendar.
Every operation with quiet collaborators gives the same answer on both and
keeps them mirrored, so whole runs give the same answers.
-/

namespace TtlStore.Flat

variable {V R : Type}

/-- A flat store has the contents, the clock and the calendar of a session. -/
structure Mirrors (flat : Flat V) (session : Session V) : Prop where
  clock_eq : session.clock = flat.clock
  lookup_eq : ∀ key, session.store.lookup key = flat.entries[key]?
  settled : session.store.Settled flat.calendar

theorem mirrors_empty
    {shards : Nat}
    (calendar : Calendar)
    (positive : 0 < shards)
    (clock : Instant)
    (listing : Listing) :
    (empty calendar clock : Flat V).Mirrors
      { store := Store.empty shards calendar positive
        clock := clock
        listing := listing } where
  clock_eq := rfl
  lookup_eq := by
    intro key
    simp [empty]
  settled := Store.settled_empty shards calendar positive

/-- A change of one key on one side is mirrored by the same change on the other. -/
theorem Mirrors.change
    {flat : Flat V}
    {session : Session V}
    (mirrors : flat.Mirrors session)
    {store : Store V}
    (change : session.store.Change store)
    {entries : Std.ExtTreeMap Key (Entry V)}
    (lookup_eq : ∀ key, store.lookup key = entries[key]?) :
    ({ flat with entries := entries } : Flat V).Mirrors
      (session.withStore store) where
  clock_eq := mirrors.clock_eq
  lookup_eq := lookup_eq
  settled := mirrors.settled.change change

/-- The flat store accepts what the session's store does not refuse. -/
theorem Mirrors.accepts_of_refuses
    {flat : Flat V}
    {session : Session V}
    (mirrors : flat.Mirrors session)
    {key : Key}
    {token : Token}
    {verdict : Bool}
    (refuses : session.store.refuses key token = verdict) :
    flat.accepts key token = !verdict := by
  rw [← refuses, Store.refuses, accepts, mirrors.lookup_eq]
  cases flat.entries[key]? with
  | none => rfl
  | some entry => exact (Bool.not_not _).symm

/-- Both sides answer an operation alike and still mirror each other. -/
def Agrees
    (flat : Flat V)
    (session : Session V)
    (operation : Operation V R) :
    Prop :=
  (session.operate operation).2 = (flat.operate operation).2 ∧
    (flat.operate operation).1.Mirrors (session.operate operation).1

/-! ## Writes -/

theorem Mirrors.put
    {flat : Flat V}
    {session : Session V}
    (mirrors : flat.Mirrors session)
    {item : Item V}
    (accepted : session.store.refuses item.key item.token = false) :
    (flat.put item).Mirrors
      (session.withStore (session.store.set item)) := by
  apply mirrors.change (session.store.change_set item)
  intro key
  rw [Store.lookup_set accepted, mirrors.lookup_eq,
    Std.ExtTreeMap.getElem?_insert]
  simp

theorem Mirrors.agrees_set
    {flat : Flat V}
    {session : Session V}
    (mirrors : flat.Mirrors session)
    (write : Write V) :
    flat.Agrees session (.set write : Operation V R) := by
  rw [Agrees, Session.operate, operate, Session.perform, ← mirrors.clock_eq]
  cases session.set_ends write with
  | failed error failed ended =>
      rw [ended, failed]
      exact ⟨rfl, mirrors⟩
  | refused item made refused ended =>
      have verdict := mirrors.accepts_of_refuses refused
      simp only [ended, made, verdict]
      exact ⟨rfl, mirrors⟩
  | accepted item made accepted ended =>
      have verdict := mirrors.accepts_of_refuses accepted
      simp only [ended, made, verdict]
      exact ⟨rfl, mirrors.put accepted⟩

theorem Mirrors.agrees_update
    {flat : Flat V}
    {session : Session V}
    (mirrors : flat.Mirrors session)
    (write : Write V) :
    flat.Agrees session (.update write : Operation V R) := by
  rw [Agrees, Session.operate, operate, Session.perform, ← mirrors.clock_eq]
  cases session.update_ends write with
  | failed error failed ended =>
      rw [ended, failed]
      exact ⟨rfl, mirrors⟩
  | refused item existing made taken refused ended =>
      have verdict := mirrors.accepts_of_refuses refused
      rw [mirrors.lookup_eq] at taken
      simp only [ended, made, taken, verdict]
      exact ⟨rfl, mirrors⟩
  | idle item made free ended =>
      rw [mirrors.lookup_eq] at free
      simp only [ended, made, free]
      exact ⟨trivial, mirrors⟩
  | accepted item existing made taken accepted ended =>
      have verdict := mirrors.accepts_of_refuses accepted
      rw [mirrors.lookup_eq] at taken
      simp only [ended, made, taken, verdict]
      exact ⟨rfl, mirrors.put accepted⟩

theorem Mirrors.agrees_delete
    {flat : Flat V}
    {session : Session V}
    (mirrors : flat.Mirrors session)
    (key : Key)
    (token : Token) :
    flat.Agrees session (.delete key token : Operation V R) := by
  have change := session.change_delete key token
  rw [Agrees, Session.operate, operate, Session.perform]
  cases session.delete_ends key token with
  | refused existing taken refused ended =>
      have verdict := mirrors.accepts_of_refuses refused
      rw [mirrors.lookup_eq] at taken
      simp only [ended, taken, verdict]
      exact ⟨rfl, mirrors⟩
  | idle free ended =>
      rw [mirrors.lookup_eq] at free
      simp only [ended, free]
      exact ⟨trivial, mirrors⟩
  | accepted existing taken accepted ended =>
      have verdict := mirrors.accepts_of_refuses accepted
      rw [mirrors.lookup_eq] at taken
      rw [ended] at change
      simp only [ended, taken, verdict]
      refine ⟨rfl, mirrors.change change ?_⟩
      intro other
      rw [Session.withStore, Store.lookup_withIndex, Store.lookup_drop,
        mirrors.lookup_eq, Std.ExtTreeMap.getElem?_erase]
      simp

/-! ## Reading -/

theorem Mirrors.agrees_get
    {flat : Flat V}
    {session : Session V}
    (mirrors : flat.Mirrors session)
    (key : Key)
    (token : Token) :
    flat.Agrees session (.get key token : Operation V R) := by
  refine ⟨?_, mirrors⟩
  have sameEntry := mirrors.lookup_eq key
  simp only [Session.operate, operate, Session.perform, Store.get, get,
    Store.recognised?, mirrors.clock_eq, sameEntry]
  cases flat.entries[key]? with
  | none => rfl
  | some entry =>
      by_cases answered : Token.answersRead entry.token token <;>
        by_cases passed : deadlinePassed entry.deadline flat.clock <;>
          simp [Option.filter, answered, passed]

theorem Mirrors.agrees_deadline
    {flat : Flat V}
    {session : Session V}
    (mirrors : flat.Mirrors session)
    (key : Key) :
    flat.Agrees session (.deadline key : Operation V R) := by
  refine ⟨?_, mirrors⟩
  simp only [Session.operate, operate, Session.perform, Store.deadline?,
    mirrors.lookup_eq]

/-- The contents of the mirrored store are the entries of the flat one. -/
theorem Mirrors.perm_contents
    {flat : Flat V}
    {session : Session V}
    (mirrors : flat.Mirrors session) :
    session.store.contents.Perm flat.entries.toList := by
  apply mirrors.settled.placed.perm_contents (Store.nodup_toList flat.entries)
  intro key entry
  rw [Std.ExtTreeMap.mem_toList_iff_getElem?_eq_some, mirrors.lookup_eq]

theorem Mirrors.size_eq
    {flat : Flat V}
    {session : Session V}
    (mirrors : flat.Mirrors session) :
    session.store.size = flat.entries.size := by
  rw [← Store.length_contents, mirrors.perm_contents.length_eq,
    Std.ExtTreeMap.length_toList]

theorem Mirrors.agrees_size
    {flat : Flat V}
    {session : Session V}
    (mirrors : flat.Mirrors session) :
    flat.Agrees session (.size : Operation V R) :=
  ⟨congrArg Outcome.size mirrors.size_eq, mirrors⟩

theorem Mirrors.agrees_isEmpty
    {flat : Flat V}
    {session : Session V}
    (mirrors : flat.Mirrors session) :
    flat.Agrees session (.isEmpty : Operation V R) := by
  refine ⟨congrArg Outcome.isEmpty ?_, mirrors⟩
  rw [Bool.eq_iff_iff, Store.isEmpty_iff_size_eq_zero, mirrors.size_eq,
    Std.ExtTreeMap.isEmpty_eq_size_beq_zero, beq_iff_eq]

/-! ## The surroundings -/

theorem Mirrors.withClock
    {flat : Flat V}
    {session : Session V}
    (mirrors : flat.Mirrors session)
    (clock : Instant) :
    ({ flat with clock := clock } : Flat V).Mirrors
      { session with clock := clock } where
  clock_eq := rfl
  lookup_eq := mirrors.lookup_eq
  settled := mirrors.settled

theorem Mirrors.agrees_advance
    {flat : Flat V}
    {session : Session V}
    (mirrors : flat.Mirrors session)
    (span : Duration) :
    flat.Agrees session (.advance span : Operation V R) := by
  refine ⟨rfl, ?_⟩
  simp only [Session.operate, operate, Session.perform, mirrors.clock_eq]
  exact mirrors.withClock (flat.clock.shift span)

theorem Mirrors.agrees_setClock
    {flat : Flat V}
    {session : Session V}
    (mirrors : flat.Mirrors session)
    (instant : Instant) :
    flat.Agrees session (.setClock instant : Operation V R) :=
  ⟨rfl, mirrors.withClock instant⟩

theorem Mirrors.agrees_relist
    {flat : Flat V}
    {session : Session V}
    (mirrors : flat.Mirrors session)
    (listing : Listing) :
    flat.Agrees session (.relist listing : Operation V R) :=
  ⟨rfl, mirrors.clock_eq, mirrors.lookup_eq, mirrors.settled⟩

/-! ## Sweeping and clearing -/

theorem Mirrors.agrees_cleanup
    {flat : Flat V}
    {session : Session V}
    (mirrors : flat.Mirrors session)
    {hooks : SweepHooks V R}
    (quiet : hooks.Quiet) :
    flat.Agrees session (.cleanup hooks : Operation V R) := by
  have settled := mirrors.settled
  have sameItems :
      ((session.sweep hooks).2.notices.map (·.item) : Multiset (Item V)) =
        Store.itemsOf
          (flat.entries.filter fun _ entry =>
            entry.isDue flat.calendar flat.clock) := by
    rw [Multiset.coe_eq_coe,
      List.perm_ext_iff_of_nodup (session.nodup_items_sweep quiet)
        (Store.nodup_itemsOf _)]
    intro item
    rw [Session.mem_items_sweep settled quiet, Store.mem_itemsOf,
      Std.ExtTreeMap.getElem?_filter', mirrors.lookup_eq, mirrors.clock_eq]
    simp only [Option.filter_eq_some_iff, and_assoc]
  constructor
  · simp only [Session.operate, operate, Session.evicted_sweep session quiet]
    have sameCount := (Multiset.coe_eq_coe.mp sameItems).length_eq
    rw [sameItems, sameCount, Store.length_itemsOf]
  · refine
      { clock_eq := (session.clock_sweep quiet).trans mirrors.clock_eq
        lookup_eq := ?_
        settled := Session.settled_sweep settled quiet }
    intro key
    apply Option.ext
    intro entry
    simp only [Session.operate, operate]
    rw [Session.lookup_sweep settled quiet, Std.ExtTreeMap.getElem?_filter',
      Option.filter_eq_some_iff, mirrors.lookup_eq, mirrors.clock_eq,
      Bool.not_eq_true']

theorem Mirrors.agrees_clear
    {flat : Flat V}
    {session : Session V}
    (mirrors : flat.Mirrors session)
    {hook : Option (ClearHook V R)}
    (quiet : ClearHook.Quiet hook) :
    flat.Agrees session (.clear hook : Operation V R) := by
  constructor
  · have handed := (Session.clear_of_quiet quiet session).2
    simp only [Session.operate, operate, Multiset.coe_eq_coe.mpr handed]
    cases hook with
    | none => rfl
    | some callback =>
        have sameItems :=
          mirrors.perm_contents.map fun stored =>
            stored.2.handedOut stored.1
        exact congrArg Outcome.cleared (Multiset.coe_eq_coe.mpr sameItems)
  · refine
      { clock_eq := (session.clock_clear quiet).trans mirrors.clock_eq
        lookup_eq := ?_
        settled := Session.settled_clear mirrors.settled quiet }
    intro key
    simp only [Session.operate, operate]
    rw [Session.lookup_clear session quiet key, Std.ExtTreeMap.getElem?_empty]

/-! ## Whole runs -/

/-- One operation gives the same answer on both sides, which still mirror each other. -/
theorem Mirrors.agrees
    {flat : Flat V}
    {session : Session V}
    (mirrors : flat.Mirrors session)
    {operation : Operation V R}
    (quiet : operation.Quiet) :
    flat.Agrees session operation := by
  cases operation with
  | set write => exact mirrors.agrees_set write
  | update write => exact mirrors.agrees_update write
  | delete key token => exact mirrors.agrees_delete key token
  | get key token => exact mirrors.agrees_get key token
  | deadline key => exact mirrors.agrees_deadline key
  | size => exact mirrors.agrees_size
  | isEmpty => exact mirrors.agrees_isEmpty
  | cleanup hooks => exact mirrors.agrees_cleanup quiet
  | clear hook => exact mirrors.agrees_clear quiet
  | advance span => exact mirrors.agrees_advance span
  | setClock instant => exact mirrors.agrees_setClock instant
  | relist listing => exact mirrors.agrees_relist listing

theorem Mirrors.outcomes_eq
    {flat : Flat V}
    {session : Session V}
    (mirrors : flat.Mirrors session)
    {operations : List (Operation V R)}
    (quiet : ∀ operation ∈ operations, operation.Quiet) :
    outcomes Session.operate session operations =
      outcomes operate flat operations := by
  induction operations generalizing flat session with
  | nil => rfl
  | cons operation rest induction =>
      rcases mirrors.agrees (quiet operation List.mem_cons_self) with
        ⟨sameOutcome, stillMirrors⟩
      have sameRest :=
        induction stillMirrors fun later member =>
          quiet later (List.mem_cons_of_mem operation member)
      rw [outcomes, outcomes, sameOutcome, sameRest]

end TtlStore.Flat

namespace TtlStore

variable {V R : Type}

/--
A store with valid settings answers every run of operations like the flat store
without entries whose calendar has the same epoch and bucket width, in whatever
order its tables list their keys; and hence like any store that differs from it
in the number of shards and in that order alone.
-/
theorem outcomes_eq_flat
    (settings : StoreSettings)
    (valid : settings.validate = .ok ())
    (clock : Instant)
    (listing : Listing)
    (operations : List (Operation V R))
    (quiet : ∀ operation ∈ operations, operation.Quiet) :
    ∃ store : Store V,
      Store.ofSettings settings clock = .ok store ∧
        outcomes Session.operate ⟨store, clock, listing⟩ operations =
          outcomes Flat.operate
            (Flat.empty (Calendar.ofWidth clock settings.bucketWidth) clock)
            operations ∧
        ∀ (shards : Nat) (other : Store V) (otherListing : Listing),
          Store.ofSettings ⟨shards, settings.bucketWidth⟩ clock = .ok other →
            outcomes Session.operate ⟨other, clock, otherListing⟩ operations =
              outcomes Session.operate ⟨store, clock, listing⟩ operations := by
  have sameOutcomes :
      ∀ (settings : StoreSettings) (valid : settings.validate = .ok ())
        (listing : Listing),
        outcomes Session.operate
            { store := Store.empty settings.shards
                (Calendar.ofWidth clock settings.bucketWidth)
                (settings.validate_eq_ok_iff.mp valid).1
              clock := clock
              listing := listing }
            operations =
          outcomes Flat.operate
            (Flat.empty (Calendar.ofWidth clock settings.bucketWidth) clock)
            operations :=
    fun settings valid listing =>
      (Flat.mirrors_empty _ _ clock listing).outcomes_eq quiet
  refine
    ⟨_, Store.ofSettings_of_valid valid clock,
      sameOutcomes settings valid listing, ?_⟩
  intro shards other otherListing made
  have otherValid := Store.validate_of_ofSettings made
  rw [Store.ofSettings_of_valid otherValid clock] at made
  cases made
  rw [sameOutcomes settings valid listing]
  exact sameOutcomes _ otherValid otherListing

/-- Collaborators that record what they are told. -/
def recordingHooks : SweepHooks Nat Nat where
  policy _ key session := (session, [key.toNat])
  callback := some fun _ item session => (session, [item.value])

/--
A clearing that leaves a note behind, a rewrite of the key under that note, a
refused update, and a sweep that finds one of two expiring entries due.
-/
def quietOperations : List (Operation Nat Nat) :=
  [.set ⟨1, 7, 10, .ending ⟨5⟩⟩,
    .set ⟨2, 0, 20, .unlimited⟩,
    .clear (some fun _ item session => (session, [item.value])),
    .set ⟨1, 8, 11, .ending ⟨6⟩⟩,
    .set ⟨2, 9, 21, .ending ⟨25⟩⟩,
    .update ⟨2, 5, 22, .unlimited⟩,
    .advance ⟨20⟩,
    .get 1 8,
    .cleanup recordingHooks,
    .size]

theorem quiet_quietOperations :
    ∀ operation ∈ quietOperations, operation.Quiet := by
  simp only [quietOperations, List.forall_mem_cons]
  refine
    ⟨trivial, trivial, ?_, trivial, trivial, trivial, trivial, trivial, ?_,
      trivial, by simp⟩
  · rintro callback same number item session
    cases same
    rfl
  · refine ⟨fun _ _ _ => rfl, ?_⟩
    rintro callback same number item session
    cases same
    rfl

theorem outcomes_eq_flat_quietOperations :
    (StoreSettings.mk 3 ⟨10⟩).validate = .ok () ∧
      (∀ operation ∈ quietOperations, operation.Quiet) ∧
        ∃ store : Store Nat,
          Store.ofSettings ⟨3, ⟨10⟩⟩ ⟨0⟩ = .ok store ∧
            outcomes Session.operate ⟨store, ⟨0⟩, .ascending⟩
                quietOperations =
              [.reply .done,
                .reply .done,
                .cleared {⟨1, 7, 10, none⟩, ⟨2, 0, 20, none⟩},
                .reply .done,
                .reply .done,
                .reply (.refused .update 2),
                .reply .done,
                .reply (.value none),
                .swept {⟨1, 8, 11, none⟩} 1,
                .size 1] := by
  have valid : (StoreSettings.mk 3 ⟨10⟩).validate = .ok () := by decide
  rcases outcomes_eq_flat ⟨3, ⟨10⟩⟩ valid ⟨0⟩ .ascending quietOperations
      quiet_quietOperations with
    ⟨store, made, sameOutcomes, _⟩
  refine
    ⟨valid, quiet_quietOperations, store, made, sameOutcomes.trans ?_⟩
  with_unfolding_all rfl

end TtlStore
