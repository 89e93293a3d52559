import TtlStore.Proofs.Session.Completion
import TtlStore.Proofs.Session.Ordinary

/-!
# No expiring entry is lost

Throughout a run of ordinary actions every entry sits in the shard it belongs
to, and every expiring entry is noted by the index or is among the candidates
that some open sweep is still to visit.  Between the actions of the outermost
list no sweep is open, so there the index alone covers every expiring entry and
the next sweep will come upon it.

What carries the induction is that an open sweep only holds candidates of
buckets that were closed when it began: a visit then either evicts the entry
that relies on the candidate or finds that none does.
-/

namespace TtlStore

variable {V : Type}

/-- The sweep that is going on, if any. -/
def Task.sweep? : Task V → Option (OpenSweep V)
  | .idle => none
  | .sweeping current => some current
  | .clearing _ => none

/-- The sweep that waits for a collaborator, if it is a sweep that waits. -/
def Wait.sweep? : Wait V → Option (OpenSweep V)
  | .policy sweep _ _ => some sweep
  | .callback sweep _ _ _ => some sweep
  | .farewell _ _ => none

namespace Moment

/-- All sweeps that are open at a moment, the innermost first. -/
def sweeps (moment : Moment V) : List (OpenSweep V) :=
  moment.task.sweep?.toList ++ moment.outer.filterMap (·.wait.sweep?)

/-- What the open sweeps are still to visit, each list with the clock reading it goes by. -/
def visits (moment : Moment V) : List (Instant × List Candidate) :=
  moment.sweeps.map fun sweep => (sweep.now, sweep.unvisited)

/-- The invariant of a run on a store with the given calendar and number of shards. -/
structure Sound
    (calendar : Calendar)
    (shards : Nat)
    (moment : Moment V) :
    Prop where
  calendar_eq : moment.session.store.index.calendar = calendar
  shardCount_eq : moment.session.store.shardCount = shards
  placed : moment.session.store.Placed
  covered : moment.session.store.Covered (moment.visits.flatMap Prod.snd)
  closed :
    ∀ visit ∈ moment.visits, ∀ candidate ∈ visit.2,
      candidate.bucket ≤ calendar.lastClosed visit.1

variable {calendar : Calendar} {shards : Nat}

/-- A step that leaves the store and the visits alone keeps the invariant. -/
theorem Sound.unchanged
    {moment next : Moment V}
    (sound : moment.Sound calendar shards)
    (store : next.session.store = moment.session.store)
    (visits : next.visits = moment.visits) :
    next.Sound calendar shards where
  calendar_eq := store ▸ sound.calendar_eq
  shardCount_eq := store ▸ sound.shardCount_eq
  placed := store ▸ sound.placed
  covered := by
    rw [store, visits]
    exact sound.covered
  closed := visits ▸ sound.closed

/-- An ordinary command keeps the invariant. -/
theorem Sound.perform
    {session : Session V}
    {todo rest : List (Action V)}
    {replies more : List (Reply V)}
    {task : Task V}
    {outer : List (Suspended V)}
    (sound : (Moment.mk session todo replies task outer).Sound calendar shards)
    {command : Command V}
    (ordinary : command.ordinary = true) :
    (Moment.mk (session.perform command).1 rest more task outer).Sound
      calendar shards := by
  let Holds (store : Store V) : Prop :=
    store.index.calendar = calendar ∧ store.shardCount = shards ∧
      store.Placed ∧
        store.Covered
          ((Moment.mk session todo replies task outer).visits.flatMap Prod.snd)
  have kept : Holds (session.perform command).1.store :=
    Session.perform_keeps
      (fun change holds =>
        ⟨change.calendar_eq.trans holds.1,
          change.shardCount_eq.trans holds.2.1,
          change.placed holds.2.2.1,
          change.covered holds.2.2.2⟩)
      ordinary
      ⟨sound.calendar_eq, sound.shardCount_eq, sound.placed, sound.covered⟩
  exact
    { calendar_eq := kept.1
      shardCount_eq := kept.2.1
      placed := kept.2.2.1
      covered := kept.2.2.2
      closed := sound.closed }

theorem Sound.sweepBegun
    {session : Session V}
    {todo rest : List (Action V)}
    {replies : List (Reply V)}
    {outer : List (Suspended V)}
    (sound : (Moment.mk session todo replies .idle outer).Sound calendar shards)
    (policy : Nat → Key → List (Action V))
    (callback : Option (Nat → Item V → List (Action V))) :
    (Moment.mk
      (session.withStore
        (session.store.withIndex
          (session.store.index.pending session.clock)))
      rest replies (.sweeping (OpenSweep.start session policy callback))
      outer).Sound calendar shards where
  calendar_eq := sound.calendar_eq
  shardCount_eq := sound.shardCount_eq
  placed := sound.placed.withIndex _
  covered := sound.covered.takeDue session.listing session.clock
  closed := by
    intro visit member candidate remains
    rcases List.mem_cons.mp member with rfl | earlier
    · rw [← sound.calendar_eq]
      exact ExpiryIndex.bucket_le_of_mem_due remains
    · exact sound.closed visit earlier candidate remains

/-- A visit, of whatever outcome, keeps the invariant. -/
theorem Sound.visited
    {session : Session V}
    {todo : List (Action V)}
    {replies : List (Reply V)}
    {sweep : OpenSweep V}
    {outer : List (Suspended V)}
    (sound :
      (Moment.mk session todo replies (.sweeping sweep) outer).Sound
        calendar shards)
    {candidate : Candidate}
    {rest : List Candidate}
    (unvisited : sweep.unvisited = candidate :: rest)
    {next : Moment V}
    (store :
      next.session.store = (session.store.evict candidate sweep.now).1)
    (visits :
      next.visits =
        (sweep.now, rest) ::
          (Moment.mk session todo replies .idle outer).visits) :
    next.Sound calendar shards := by
  have change := session.store.change_evict candidate sweep.now
  have before :
      (Moment.mk session todo replies (.sweeping sweep) outer).visits =
        (sweep.now, candidate :: rest) ::
          (Moment.mk session todo replies .idle outer).visits := by
    rw [← unvisited]
    rfl
  have closed := sound.closed
  have covered := sound.covered
  rw [before] at closed covered
  constructor
  · rw [store]
    exact change.calendar_eq.trans sound.calendar_eq
  · rw [store]
    exact change.shardCount_eq.trans sound.shardCount_eq
  · rw [store]
    exact change.placed sound.placed
  · rw [store, visits]
    apply Store.Covered.visited covered
    have sameCalendar : session.store.index.calendar = calendar :=
      sound.calendar_eq
    rw [sameCalendar]
    exact closed _ List.mem_cons_self candidate List.mem_cons_self
  · rw [visits]
    intro visit member other remains
    rcases List.mem_cons.mp member with rfl | earlier
    · exact
        closed _ List.mem_cons_self other (List.mem_cons_of_mem _ remains)
    · exact closed visit (List.mem_cons_of_mem _ earlier) other remains

theorem Sound.drained
    {session : Session V}
    {todo : List (Action V)}
    {replies : List (Reply V)}
    {clearing clearing' : OpenClearing V}
    {outer : List (Suspended V)}
    (sound :
      (Moment.mk session todo replies (.clearing clearing) outer).Sound
        calendar shards)
    (shard : Nat) :
    (Moment.mk (session.withStore (session.store.emptyShard shard)) todo
      replies (.clearing clearing') outer).Sound calendar shards where
  calendar_eq := sound.calendar_eq
  shardCount_eq :=
    (session.store.shardCount_emptyShard shard).trans sound.shardCount_eq
  placed := sound.placed.emptyShard shard
  covered := sound.covered.emptyShard shard
  closed := sound.closed

/-- Every step of a run of ordinary actions keeps the invariant. -/
theorem Step.sound
    {moment next : Moment V}
    (step : moment.Step next)
    (ordinary : moment.Ordinary)
    (sound : moment.Sound calendar shards) :
    next.Sound calendar shards := by
  cases step with
  | finished => exact sound
  | perform session command rest replies outer =>
      cases (List.forall_mem_cons.mp ordinary.todo).1 with
      | perform _ commandOrdinary => exact sound.perform commandOrdinary
  | sweepBegun session policy callback rest replies outer =>
      exact sound.sweepBegun policy callback
  | stale session todo replies sweep outer candidate rest unvisited
      unanswered =>
      refine sound.visited unvisited ?_ rfl
      rw [Store.evict_of_unanswered unanswered]
  | evicted session todo replies sweep outer candidate rest entry unvisited
      answered =>
      refine sound.visited unvisited ?_ rfl
      rw [Store.evict_of_answered answered]
      rfl
  | policyDone => exact sound.unchanged rfl rfl
  | callbackBegun => exact sound.unchanged rfl rfl
  | callbackDone => exact sound.unchanged rfl rfl
  | sweepDone session todo replies sweep outer unvisited =>
      have visits :
          (Moment.mk session todo replies (.sweeping sweep) outer).visits =
            (sweep.now, []) ::
              (Moment.mk session todo (replies ++ [.swept sweep.report]) .idle
                outer).visits := by
        rw [← unvisited]
        rfl
      have covered := sound.covered
      have closed := sound.closed
      rw [visits] at covered closed
      exact
        { calendar_eq := sound.calendar_eq
          shardCount_eq := sound.shardCount_eq
          placed := sound.placed
          covered := covered
          closed := (List.forall_mem_cons.mp closed).2 }
  | clearingBegun => exact sound.unchanged rfl rfl
  | drained session todo replies clearing outer shard =>
      exact sound.drained shard
  | released => exact sound.unchanged rfl rfl
  | farewellBegun => exact sound.unchanged rfl rfl
  | farewellDone => exact sound.unchanged rfl rfl
  | clearingDone => exact sound.unchanged rfl rfl

theorem sound_after
    {actions : List (Action V)}
    (ordinary : ∀ action ∈ actions, action.Ordinary)
    {session : Session V}
    (sound : (start actions session).Sound calendar shards)
    (steps : Nat) :
    ((start actions session).after steps).Sound calendar shards := by
  have kept :
      ∀ {moment next : Moment V}, moment.Step next →
        moment.Ordinary ∧ moment.Sound calendar shards →
          next.Ordinary ∧ next.Sound calendar shards := by
    intro moment next step holds
    exact ⟨step.ordinary holds.1, step.sound holds.1 holds.2⟩
  exact
    (Step.after_induction kept
      ⟨ordinary_start ordinary session, sound⟩ steps).2

theorem sound_start_empty
    (actions : List (Action V))
    (calendar : Calendar)
    (positive : 0 < shards)
    (clock : Instant)
    (listing : Listing) :
    (start actions
      { store := Store.empty shards calendar positive
        clock := clock
        listing := listing }).Sound calendar shards where
  calendar_eq := rfl
  shardCount_eq := Store.shardCount_empty shards calendar positive
  placed := Store.placed_empty shards calendar positive
  covered := Store.covered_empty shards calendar positive _
  closed := by
    intro visit member
    cases member

/-- A candidate that an open sweep is still to visit. -/
def StillVisits (moment : Moment V) (candidate : Candidate) : Prop :=
  ∃ sweep ∈ moment.sweeps, candidate ∈ sweep.unvisited

end Moment

/--
Every entry that a shard holds sits in the shard of its key, and if it expires,
the index notes its token under the bucket of its deadline, unless it is
excused.
-/
def Store.Accounted
    (store : Store V)
    (shards : Nat)
    (calendar : Calendar)
    (excused : Candidate → Prop) :
    Prop :=
  ∀ shard key entry,
    store.HeldIn shard key entry →
      shard = key.toNat % shards ∧
        ∀ deadline, entry.deadline = some deadline →
          store.index.token? (calendar.bucketOf deadline) key =
              some entry.token ∨
            excused (calendar.candidate key entry.token deadline)

theorem Moment.Sound.accounted
    {moment : Moment V}
    {calendar : Calendar}
    {shards : Nat}
    (sound : moment.Sound calendar shards) :
    moment.session.store.Accounted shards calendar moment.StillVisits := by
  intro shard key entry held
  rcases (sound.placed.heldIn_iff shard key entry).mp held with
    ⟨belongs, stored⟩
  constructor
  · rw [belongs, Store.shardOf, sound.shardCount_eq]
  · intro deadline expires
    have covered := sound.covered key entry deadline stored expires
    rw [sound.calendar_eq] at covered
    rcases covered with noted | member
    · exact Or.inl noted
    · rcases List.mem_flatMap.mp member with ⟨visit, isOpen, remains⟩
      rcases List.mem_map.mp isOpen with ⟨sweep, present, rfl⟩
      exact Or.inr ⟨sweep, present, remains⟩

/--
No expiring entry is lost.  Valid settings make a store, and after any ordinary
actions on it all its entries are accounted for, without an excuse, in whatever
order tables list their keys.  At every moment of such a run, whatever
collaborators are acting, an entry is excused only if an open sweep is still to
visit its candidate.
-/
theorem entries_accounted
    (settings : StoreSettings)
    (valid : settings.validate = .ok ())
    (clock : Instant)
    (listing : Listing)
    (actions : List (Action V))
    (ordinary : ∀ action ∈ actions, action.Ordinary) :
    ∃ store : Store V,
      Store.ofSettings settings clock = .ok store ∧
        (Action.runAll actions ⟨store, clock, listing⟩).1.store.Accounted
          settings.shards
          (Calendar.ofWidth clock settings.bucketWidth)
          (fun _ => False) ∧
        ∀ steps,
          ((Moment.start actions ⟨store, clock, listing⟩).after
              steps).session.store.Accounted
            settings.shards
            (Calendar.ofWidth clock settings.bucketWidth)
            ((Moment.start actions ⟨store, clock, listing⟩).after
              steps).StillVisits := by
  refine ⟨_, Store.ofSettings_of_valid valid clock, ?_, ?_⟩
  · rcases
        Moment.exists_after_start_append actions []
          { store := Store.empty settings.shards
              (Calendar.ofWidth clock settings.bucketWidth)
              (settings.validate_eq_ok_iff.mp valid).1
            clock := clock
            listing := listing } with
      ⟨steps, reached⟩
    have sound :=
      Moment.sound_after ordinary
        (Moment.sound_start_empty actions
          (Calendar.ofWidth clock settings.bucketWidth)
          (settings.validate_eq_ok_iff.mp valid).1 clock listing)
        steps
    rw [List.append_nil] at reached
    rw [reached] at sound
    intro shard key entry held
    rcases sound.accounted shard key entry held with ⟨placed, noted⟩
    refine ⟨placed, ?_⟩
    intro deadline expires
    rcases noted deadline expires with indexed | ⟨sweep, isOpen, _⟩
    · exact Or.inl indexed
    · -- Between two actions of the outermost list no sweep is open.
      cases isOpen
  · intro steps
    exact
      (Moment.sound_after ordinary
        (Moment.sound_start_empty actions
          (Calendar.ofWidth clock settings.bucketWidth)
          (settings.validate_eq_ok_iff.mp valid).1 clock listing)
        steps).accounted

/--
A sweep over two due keys whose policy moves the second to a later bucket, and
whose callback stores the evicted key again and sweeps in turn.
-/
def reentrantActions : List (Action Nat) :=
  [.perform (.set ⟨1, 7, 10, .ending ⟨5⟩⟩),
    .perform (.set ⟨3, 8, 30, .ending ⟨5⟩⟩),
    .perform (.advance ⟨20⟩),
    .cleanup
      (fun _ _ => [.perform (.set ⟨3, 8, 31, .ending ⟨45⟩⟩)])
      (some fun _ item =>
        [.perform (.set ⟨item.key, 9, 11, .ending ⟨17⟩⟩),
          .cleanup (fun _ _ => []) none])]

theorem ordinary_reentrantActions :
    ∀ action ∈ reentrantActions, action.Ordinary := by
  have ordinaryWrite :
      ∀ write : Write Nat, (Action.perform (.set write)).Ordinary :=
    fun write => .perform _ rfl
  have silentCleanup :
      (Action.cleanup (fun _ _ => []) none : Action Nat).Ordinary :=
    .cleanup _ _ (by simp) (by simp)
  simp only [reentrantActions, List.forall_mem_cons]
  refine ⟨ordinaryWrite _, ordinaryWrite _, .perform _ rfl, ?_, by simp⟩
  refine .cleanup _ _ ?_ ?_
  · simp [ordinaryWrite]
  · rintro react same number item
    cases same
    simp [ordinaryWrite, silentCleanup]

theorem entries_accounted_reentrant :
    (StoreSettings.mk 2 ⟨10⟩).validate = .ok () ∧
      (∀ action ∈ reentrantActions, action.Ordinary) ∧
        ∃ store : Store Nat,
          Store.ofSettings ⟨2, ⟨10⟩⟩ ⟨0⟩ = .ok store ∧
            (Action.runAll reentrantActions
                ⟨store, ⟨0⟩, .ascending⟩).1.store.Accounted
              2 (Calendar.ofWidth ⟨0⟩ ⟨10⟩) (fun _ => False) ∧
            (Action.runAll reentrantActions
                ⟨store, ⟨0⟩, .ascending⟩).1.store.lookup 3 =
              some ⟨8, 31, some ⟨45⟩⟩ := by
  have valid : (StoreSettings.mk 2 ⟨10⟩).validate = .ok () := by decide
  have kept :
      (Action.runAll reentrantActions
          ⟨Store.empty 2 (Calendar.ofWidth ⟨0⟩ ⟨10⟩) (by decide),
            ⟨0⟩, .ascending⟩).1.store.lookup 3 =
        some ⟨8, 31, some ⟨45⟩⟩ := by
    decide +kernel
  rcases entries_accounted ⟨2, ⟨10⟩⟩ valid ⟨0⟩ .ascending reentrantActions
      ordinary_reentrantActions with
    ⟨store, made, accounted, _⟩
  have opened :
      store = Store.empty 2 (Calendar.ofWidth ⟨0⟩ ⟨10⟩) (by decide) :=
    Except.ok.inj (made.symm.trans (Store.ofSettings_of_valid valid ⟨0⟩))
  refine
    ⟨valid, ordinary_reentrantActions, store, made, accounted, ?_⟩
  rw [opened]
  exact kept

end TtlStore
