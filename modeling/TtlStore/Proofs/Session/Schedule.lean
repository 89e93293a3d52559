import TtlStore.Proofs.Session.Sparing

/-!
# The schedule of sweeps does not matter

Sweeps made one after another at times that do not decrease come to what one
sweep at the last of these times comes to, if no collaborator writes: the same
entries and notes remain, the same items were evicted, and the counts add up.
The order of the evictions is the same as well if all sweeps list keys alike.

For two sweeps this is so because the candidates of the later time are those of
the earlier time followed by what then is due of the rest, and because what a
candidate comes to does not depend on the time.  The general case follows by
induction on the schedule, its first sweep being put before all the others.
-/

namespace TtlStore

variable {V R S : Type}

/-! ## Sweeps -/

/-- What several sweeps evicted. -/
def Sweep.evictions (sweeps : List (Sweep V R)) : List (Candidate × Item V) :=
  sweeps.flatMap fun sweep => sweep.notices.map Notice.eviction

/-- What several sweeps counted. -/
def Sweep.total (sweeps : List (Sweep V R)) : SweepCount :=
  (sweeps.map (·.count)).foldr SweepCount.plus SweepCount.zero

namespace Session

/-- The session at another reading of the clock, its tables being listed in a given order. -/
def asOf (session : Session V) (listing : Listing) (now : Instant) : Session V :=
  { session with clock := now, listing := listing }

theorem index_sweep_of_sparing
    {hooks : SweepHooks V R}
    (sparing : hooks.Sparing)
    (session : Session V) :
    (session.sweep hooks).1.store.index =
      session.store.index.pending session.clock :=
  index_visitAll_of_sparing sparing session.clock 0
    (session.withStore
      (session.store.withIndex (session.store.index.pending session.clock)))
    ((session.store.index.due session.clock).candidates session.listing)

/-- A sweep comes to what visiting its candidates comes to at any later time. -/
theorem visitedAlike_sweep
    {left : SweepHooks V R}
    {right : SweepHooks V S}
    (leftSparing : left.Sparing)
    (rightSparing : right.Sparing)
    (session other : Session V)
    (same : session.store.SameEntries other.store)
    {later : Instant}
    (ordered : session.clock ≤ later)
    (number : Nat) :
    let swept := session.sweep left
    VisitedAlike swept.1.store swept.2.notices swept.2.count
      (visitAll right later number other
        ((session.store.index.due session.clock).candidates
          session.listing)) := by
  let due := session.store.index.due session.clock
  have closed :
      ∀ candidate ∈ due.candidates session.listing,
        candidate.bucket ≤
          session.store.index.calendar.lastClosed session.clock :=
    fun _ member => ExpiryIndex.bucket_le_of_mem_due member
  have closedLater :
      ∀ candidate ∈ due.candidates session.listing,
        candidate.bucket ≤ session.store.index.calendar.lastClosed later :=
    fun candidate member =>
      UInt64.le_trans (closed candidate member)
        (session.store.index.calendar.lastClosed_mono ordered)
  exact
    visitedAlike leftSparing rightSparing
      (session.withStore
        (session.store.withIndex
          (session.store.index.pending session.clock)))
      other ⟨same.shards_eq, same.calendar_eq⟩ closed closedLater 0 number

/-- Sweeps that left a store came together to what one sweep comes to. -/
structure ComeTo
    (store : Store V)
    (sweeps : List (Sweep V R))
    (one : Session V × Sweep V S) :
    Prop where
  store_eq : store = one.1.store
  evictions_eq :
    Sweep.evictions sweeps = one.2.notices.map Notice.eviction
  count_eq : Sweep.total sweeps = one.2.count

/-- By which collaborators a sweep is made does not matter. -/
theorem comeTo_sweep
    {left : SweepHooks V R}
    {right : SweepHooks V S}
    (leftSparing : left.Sparing)
    (rightSparing : right.Sparing)
    (session : Session V) :
    ComeTo (session.sweep left).1.store [(session.sweep left).2]
      (session.sweep right) := by
  have alike :=
    visitedAlike_sweep leftSparing rightSparing session
      (session.withStore
        (session.store.withIndex
          (session.store.index.pending session.clock)))
      ⟨rfl, rfl⟩ (Int.le_refl session.clock.nanoseconds) 0
  constructor
  · apply alike.entries.eq
    exact
      (index_sweep_of_sparing leftSparing session).trans
        (index_sweep_of_sparing rightSparing session).symm
  · rw [Sweep.evictions, List.flatMap_singleton]
    exact alike.evictions_eq
  · exact (SweepCount.plus_zero _).trans alike.count_eq

/-- A sweep before those that come to a later one comes with them to the later one alone. -/
theorem ComeTo.cons
    {first : SweepHooks V R}
    {second : SweepHooks V S}
    (firstSparing : first.Sparing)
    (secondSparing : second.Sparing)
    {session : Session V}
    {listing : Listing}
    {early late : Instant}
    (ordered : early ≤ late)
    {store : Store V}
    {sweeps : List (Sweep V R)}
    (others :
      ComeTo store sweeps
        ((((session.asOf listing early).sweep first).1.asOf listing late).sweep
          second)) :
    ComeTo store (((session.asOf listing early).sweep first).2 :: sweeps)
      ((session.asOf listing late).sweep second) := by
  let index := session.store.index
  let begun :=
    (session.asOf listing late).withStore
      (session.store.withIndex (index.pending late))
  -- The later sweep alone first visits what the earlier one visits.
  let before :=
    visitAll second late 0 begun ((index.due early).candidates listing)
  let after :=
    visitAll second late (0 + before.2.1.length) before.1
      (((index.pending early).due late).candidates listing)
  let alone := (session.asOf listing late).sweep second
  have visited :
      (alone.1, alone.2.notices, alone.2.count) =
        (after.1, before.2.1 ++ after.2.1, before.2.2.plus after.2.2) := by
    show
      visitAll second late 0 begun ((index.due late).candidates listing) = _
    rw [index.candidates_due_of_le listing ordered]
    exact visitAll_append second late 0 begun _ _
  have alikeBefore :=
    visitedAlike_sweep firstSparing secondSparing (session.asOf listing early)
      begun ⟨rfl, rfl⟩ ordered 0
  have indexDone :=
    index_sweep_of_sparing firstSparing (session.asOf listing early)
  rcases done : (session.asOf listing early).sweep first with ⟨middle, sweep⟩
  rw [done] at others alikeBefore indexDone
  have alikeAfter :=
    visitedAlike_sweep secondSparing secondSparing (middle.asOf listing late)
      before.1
      ⟨alikeBefore.entries.shards_eq, alikeBefore.entries.calendar_eq⟩
      (Int.le_refl late.nanoseconds) (0 + before.2.1.length)
  have sameIndex :
      (middle.asOf listing late).store.index = index.pending early :=
    indexDone
  rw [sameIndex] at alikeAfter
  have indexLast :
      ((middle.asOf listing late).sweep second).1.store.index =
        alone.1.store.index := by
    rw [index_sweep_of_sparing secondSparing, sameIndex]
    exact
      (index.pending_pending ordered).trans
        (index_sweep_of_sparing secondSparing
          (session.asOf listing late)).symm
  have sameStore : alone.1.store = after.1.store :=
    congrArg (·.1.store) visited
  constructor
  · rw [sameStore] at indexLast
    rw [others.store_eq]
    exact (alikeAfter.entries.eq indexLast).trans sameStore.symm
  · have sameNotices : alone.2.notices = before.2.1 ++ after.2.1 :=
      congrArg (·.2.1) visited
    have evictionsBefore :
        sweep.notices.map Notice.eviction = before.2.1.map Notice.eviction :=
      alikeBefore.evictions_eq
    have evictionsAfter :
        Sweep.evictions sweeps = after.2.1.map Notice.eviction :=
      others.evictions_eq.trans alikeAfter.evictions_eq
    show
      sweep.notices.map Notice.eviction ++ Sweep.evictions sweeps =
        alone.2.notices.map Notice.eviction
    rw [sameNotices, List.map_append, evictionsBefore, evictionsAfter]
  · have sameCount : alone.2.count = before.2.2.plus after.2.2 :=
      congrArg (·.2.2) visited
    have countBefore : sweep.count = before.2.2 := alikeBefore.count_eq
    have countAfter : Sweep.total sweeps = after.2.2 :=
      others.count_eq.trans alikeAfter.count_eq
    show sweep.count.plus (Sweep.total sweeps) = alone.2.count
    rw [sameCount, countBefore, countAfter]

end Session

/-! ## Schedules -/

/-- A sweep that is to be made: when, and with which collaborators. -/
structure Round (V R : Type) where
  time : Instant
  hooks : SweepHooks V R

namespace Session

/-- Make the sweeps of a schedule in order, each at its time, with tables listed alike. -/
def sweepAll (session : Session V) (listing : Listing) :
    List (Round V R) → Session V × List (Sweep V R)
  | [] => (session, [])
  | round :: rest =>
      let (next, sweep) :=
        (session.asOf listing round.time).sweep round.hooks
      let (last, sweeps) := next.sweepAll listing rest
      (last, sweep :: sweeps)

theorem comeTo_sweepAll
    {single : SweepHooks V S}
    (singleSparing : single.Sparing)
    (session : Session V)
    (listing : Listing)
    {earlier : List (Round V R)}
    {final : Round V R}
    (ordered :
      (earlier ++ [final]).Pairwise fun left right => left.time ≤ right.time)
    (sparing : ∀ round ∈ earlier ++ [final], round.hooks.Sparing) :
    let many := session.sweepAll listing (earlier ++ [final])
    ComeTo many.1.store many.2
      ((session.asOf listing final.time).sweep single) := by
  induction earlier generalizing session with
  | nil =>
      exact
        comeTo_sweep (sparing final List.mem_cons_self) singleSparing
          (session.asOf listing final.time)
  | cons round rest induction =>
      rcases List.pairwise_cons.mp ordered with ⟨first, othersOrdered⟩
      rcases List.forall_mem_cons.mp sparing with
        ⟨firstSparing, othersSparing⟩
      have before : round.time ≤ final.time :=
        first final (List.mem_append_right rest List.mem_cons_self)
      have others :=
        induction ((session.asOf listing round.time).sweep round.hooks).1
          othersOrdered othersSparing
      exact ComeTo.cons firstSparing singleSparing before others

/-- Nothing is left to be examined by the time up to which the closed buckets were taken. -/
theorem sweep_of_pending
    {session : Session V}
    {index : ExpiryIndex}
    {time : Instant}
    (taken : session.store.index = index.pending time)
    (before : session.clock ≤ time)
    (hooks : SweepHooks V R) :
    session.sweep hooks = (session, ⟨[], [], SweepCount.zero⟩) := by
  have nothingDue :
      session.store.index.due session.clock = .empty index.calendar := by
    rw [taken]
    exact index.due_of_pending before
  have allPending :
      session.store.index.pending session.clock = session.store.index := by
    rw [taken]
    exact index.pending_of_pending before
  simp only [sweep, ExpiryIndex.takeDue, nothingDue, allPending]
  rfl

end Session

/--
The schedule of sweeps does not matter.  Sweeps of any session at times that do
not decrease, by collaborators that do not write, leave the store that one sweep
at the last of these times leaves; their evictions, one after another, are those
of the one sweep, if keys are listed alike, and stand by bucket and, if keys are
listed as they ascend, by key; and their counts add up to its count.  A further
sweep at a time up to the last examines nothing.
-/
theorem schedule_irrelevant
    (session : Session V)
    (listing : Listing)
    (earlier : List (Round V R))
    (final : Round V R)
    (single : SweepHooks V S)
    (ordered :
      (earlier ++ [final]).Pairwise fun left right => left.time ≤ right.time)
    (sparing : ∀ round ∈ earlier ++ [final], round.hooks.Sparing)
    (singleSparing : single.Sparing) :
    let many := session.sweepAll listing (earlier ++ [final])
    let one := (session.asOf listing final.time).sweep single
    let evicted := (Sweep.evictions many.2).map Prod.fst
    many.1.store = one.1.store ∧
      Sweep.evictions many.2 = one.2.notices.map Notice.eviction ∧
      evicted.Pairwise (fun left right => left.bucket ≤ right.bucket) ∧
      (listing = .ascending → evicted.Pairwise Candidate.Precedes) ∧
      Sweep.total many.2 = one.2.count ∧
      ∀ now ≤ final.time, ∀ order, ∀ hooks : SweepHooks V R,
        (many.1.asOf order now).sweep hooks =
          (many.1.asOf order now, ⟨[], [], SweepCount.zero⟩) := by
  intro many one evicted
  have comeTo : Session.ComeTo many.1.store many.2 one :=
    Session.comeTo_sweepAll singleSparing session listing ordered sparing
  have indexLeft : one.1.store.index = session.store.index.pending final.time :=
    Session.index_sweep_of_sparing singleSparing
      (session.asOf listing final.time)
  let due := session.store.index.due final.time
  have inOrder : evicted.Sublist (due.candidates listing) := by
    simp only [evicted]
    rw [comeTo.evictions_eq, List.map_map]
    exact Session.sublist_visitAll_of_sparing singleSparing final.time 0 _ _
  refine
    ⟨comeTo.store_eq, comeTo.evictions_eq,
      (due.pairwise_bucket_candidates listing).sublist inOrder, ?_,
      comeTo.count_eq, ?_⟩
  · rintro rfl
    exact due.pairwise_candidates.sublist inOrder
  · intro now before order hooks
    have taken :
        (many.1.asOf order now).store.index =
          session.store.index.pending final.time :=
      (congrArg Store.index comeTo.store_eq).trans indexLeft
    exact Session.sweep_of_pending taken before hooks

/-- A session whose index also notes a key under a wrong bucket, and one with a wrong token. -/
def hauntedSession : Session Nat :=
  (Action.runAll
    [.perform (.set ⟨1, 7, 10, .ending ⟨5⟩⟩),
      .perform (.set ⟨3, 8, 30, .ending ⟨15⟩⟩),
      .perform (.indexAdd 3 8 (some ⟨5⟩)),
      .perform (.indexAdd 1 9 (some ⟨25⟩)),
      .perform (.set ⟨5, 0, 50, .ending ⟨35⟩⟩)]
    { store := Store.empty 2 (Calendar.ofWidth ⟨0⟩ ⟨10⟩) Nat.two_pos
      clock := ⟨0⟩ }).1

/-- Collaborators that do nothing but set the clock to a given time. -/
def clockSetters (time : Instant) : SweepHooks Nat (Reply Nat) :=
  Action.hooks (fun _ _ => [.perform (.setClock time)])
    (some fun _ _ => [.perform (.setClock time)])

theorem sparing_clockSetters (time : Instant) :
    (clockSetters time).Sparing := by
  constructor
  · intro number key session
    simp only [clockSetters, Action.hooks, Action.runAll, Action.run]
    rfl
  · rintro callback same number item session
    cases same
    simp only [Action.runAll, Action.run]
    rfl

theorem schedule_irrelevant_hauntedSession :
    let rounds : List (Round Nat (Reply Nat)) :=
      [⟨⟨12⟩, clockSetters ⟨100⟩⟩, ⟨⟨30⟩, clockSetters ⟨0⟩⟩]
    let final : Round Nat (Reply Nat) := ⟨⟨45⟩, clockSetters ⟨7⟩⟩
    let many := hauntedSession.sweepAll .ascending (rounds ++ [final])
    let one := (hauntedSession.asOf .ascending ⟨45⟩).sweep (clockSetters ⟨20⟩)
    (rounds ++ [final]).Pairwise
        (fun left right => left.time ≤ right.time) ∧
      (∀ round ∈ rounds ++ [final], round.hooks.Sparing) ∧
      (clockSetters ⟨20⟩).Sparing ∧
      many.1.store = one.1.store ∧
      Sweep.evictions many.2 =
        [(⟨1, 1, 7⟩, .lasting 1 7 10),
          (⟨2, 3, 8⟩, .lasting 3 8 30),
          (⟨4, 5, 0⟩, .lasting 5 0 50)] ∧
      Sweep.total many.2 = ⟨5, 3, 2⟩ ∧
      (many.1.asOf .ascending ⟨20⟩).sweep (clockSetters ⟨0⟩) =
        (many.1.asOf .ascending ⟨20⟩, ⟨[], [], SweepCount.zero⟩) := by
  intro rounds final many one
  have ordered :
      (rounds ++ [final]).Pairwise fun left right => left.time ≤ right.time := by
    simp only [rounds, final, List.cons_append, List.nil_append, List.pairwise_cons]
    decide
  have sparing : ∀ round ∈ rounds ++ [final], round.hooks.Sparing := by
    simp only [rounds, final, List.cons_append, List.nil_append,
      List.forall_mem_cons]
    exact
      ⟨sparing_clockSetters _, sparing_clockSetters _,
        sparing_clockSetters _, by simp⟩
  have evicted :
      one.2.notices.map Notice.eviction =
        [(⟨1, 1, 7⟩, .lasting 1 7 10),
          (⟨2, 3, 8⟩, .lasting 3 8 30),
          (⟨4, 5, 0⟩, .lasting 5 0 50)] := by
    decide +kernel
  have counted : one.2.count = ⟨5, 3, 2⟩ := by
    decide +kernel
  rcases schedule_irrelevant hauntedSession .ascending rounds final
      (clockSetters ⟨20⟩) ordered sparing (sparing_clockSetters _) with
    ⟨sameStore, sameEvictions, _, _, sameCount, examined⟩
  exact
    ⟨ordered, sparing, sparing_clockSetters _, sameStore,
      sameEvictions.trans evicted, sameCount.trans counted,
      examined ⟨20⟩ (by decide) _ _⟩

end TtlStore
