import TtlStore.Proofs.Session.Ordinary
import TtlStore.Proofs.Session.Sweeping
import TtlStore.Proofs.Session.Writing
import TtlStore.Proofs.Store.Exactness

/-!
# Runs that keep the index exact

An action is tidy if it is an ordinary command or a sweep whose collaborators do
not write.  Runs of tidy actions, among which there is no clearing, keep the
index the exact image of the store, and none of their sweeps meets a stale
candidate.  The second is what makes the first hold through a sweep: taking a
note out of the index is made good only by evicting the entry that it is of.

Collaborators may look, move the clock and sweep in turn.  What outer sweeps are
still to visit is then neither noted nor evicted by the inner ones, so it is
carried along as the context in which they keep the index exact.
-/

namespace TtlStore

variable {V : Type}

/-! ## Tidy actions -/

/-- An ordinary command, or a sweep whose collaborators spare the store. -/
inductive Action.Tidy : Action V → Prop where
  | perform
      (command : Command V)
      (ordinary : command.ordinary = true) :
      Tidy (.perform command)
  | cleanup
      (policy : Nat → Key → List (Action V))
      (callback : Option (Nat → Item V → List (Action V)))
      (sweeping :
        (Action.cleanup policy callback).Sweeping Command.spares) :
      Tidy (.cleanup policy callback)

/-- The reply contains no replies of collaborators. -/
def Reply.isPlain : Reply V → Bool
  | .swept _ => false
  | .cleared _ _ => false
  | _ => true

/-- No sweep that the reply tells of, at whatever depth, met a stale candidate. -/
inductive Reply.Fresh : Reply V → Prop where
  | plain
      (reply : Reply V)
      (isPlain : reply.isPlain = true) :
      Fresh reply
  | swept
      (sweep : Sweep V (Reply V))
      (noneStale : sweep.count.stale = 0)
      (policyFresh :
        ∀ notice ∈ sweep.notices, ∀ reply ∈ notice.policyReplies, Fresh reply)
      (callbackFresh :
        ∀ notice ∈ sweep.notices, ∀ replies,
          notice.callbackReplies = some replies →
            ∀ reply ∈ replies, Fresh reply) :
      Fresh (.swept sweep)

theorem Session.isPlain_perform (session : Session V) (command : Command V) :
    (session.perform command).2.isPlain = true := by
  cases command with
  | set write =>
      cases session.set_ends write <;> simp_all [perform, Reply.isPlain]
  | update write =>
      cases session.update_ends write <;> simp_all [perform, Reply.isPlain]
  | delete key token =>
      cases session.delete_ends key token <;>
        simp_all [perform, Reply.isPlain]
  | _ => rfl

/-! ## Commands -/

namespace Session

variable {calendar : Calendar}

theorem exact_set
    (session : Session V)
    (write : Write V)
    (exact : session.store.Exact calendar []) :
    (session.set write).1.store.Exact calendar [] := by
  cases session.set_ends write with
  | failed error failed ended => rwa [ended]
  | refused item made refused ended => rwa [ended]
  | accepted item made accepted ended =>
      rw [ended]
      exact exact.set accepted

theorem exact_update
    (session : Session V)
    (write : Write V)
    (exact : session.store.Exact calendar []) :
    (session.update write).1.store.Exact calendar [] := by
  cases session.update_ends write with
  | failed error failed ended => rwa [ended]
  | refused item existing made taken refused ended => rwa [ended]
  | idle item made free ended => rwa [ended]
  | accepted item existing made taken accepted ended =>
      rw [ended]
      exact exact.set accepted

theorem exact_delete
    (session : Session V)
    (key : Key)
    (token : Token)
    (exact : session.store.Exact calendar []) :
    (session.delete key token).1.store.Exact calendar [] := by
  cases session.delete_ends key token with
  | refused existing taken refused ended => rwa [ended]
  | idle free ended => rwa [ended]
  | accepted existing taken accepted ended =>
      rw [ended]
      exact exact.delete taken

theorem exact_perform
    {command : Command V}
    (ordinary : command.ordinary = true)
    (session : Session V)
    (exact : session.store.Exact calendar []) :
    (session.perform command).1.store.Exact calendar [] := by
  let Holds (store : Store V) : Prop := store.Exact calendar []
  cases command with
  | set write => exact session.exact_set write exact
  | setAll writes =>
      have kept : Holds (session.setAll writes).1.store :=
        setAll_keeps exact_set writes exact
      exact kept
  | update write => exact session.exact_update write exact
  | delete key token => exact session.exact_delete key token exact
  | get key token => exact exact
  | deadline key => exact exact
  | advance span => exact exact
  | setClock instant => exact exact
  | relist listing => exact exact
  | ask query => exact exact
  | evict candidate now => cases ordinary
  | indexAdd key token deadline => cases ordinary
  | indexMove key token old new => cases ordinary
  | indexRemove key deadline => cases ordinary

/-! ## Sweeps -/

/-- The session's index is exact, but for what outer sweeps are still to visit. -/
def Exact
    (calendar : Calendar)
    (unvisited : List Candidate)
    (session : Session V) :
    Prop :=
  session.store.Exact calendar unvisited

variable {hooks : SweepHooks V (Reply V)}

/-- Visiting candidates of closed buckets evicts every one of them. -/
theorem exact_visitAll
    (keep : hooks.Keep (Session.Exact calendar) Reply.Fresh)
    {now : Instant}
    {candidates : List Candidate}
    (closed :
      ∀ candidate ∈ candidates,
        candidate.bucket ≤ calendar.lastClosed now)
    {outer : List Candidate}
    {session : Session V}
    (exact : session.Exact calendar (candidates ++ outer))
    (number : Nat) :
    (visitAll hooks now number session candidates).1.Exact calendar outer ∧
      (∀ notice ∈ (visitAll hooks now number session candidates).2.1,
        notice.AllReplies Reply.Fresh) ∧
        (visitAll hooks now number session candidates).2.2.stale = 0 := by
  induction candidates generalizing session number with
  | nil =>
      refine ⟨exact, ?_, rfl⟩
      intro notice member
      cases member
  | cons candidate rest induction =>
      rcases List.forall_mem_cons.mp closed with ⟨first, others⟩
      -- The candidate leaves the list as its entry leaves the store.
      rcases Store.Exact.visited exact first with ⟨entry, answered, dropped⟩
      have held :
          (session.withStore (session.store.drop candidate.key)).Exact
            calendar (rest ++ outer) :=
        dropped
      have told :=
        keep.announce held number candidate (entry.handedOut candidate.key)
      rcases announced :
          (session.withStore (session.store.drop candidate.key)).announce
            hooks number candidate (entry.handedOut candidate.key) with
        ⟨next, notice⟩
      rw [announced] at told
      rcases induction others told.1 (number + 1) with
        ⟨exactLast, othersFresh, noneStale⟩
      rw [visitAll_of_answered answered hooks number rest announced]
      exact
        ⟨exactLast, List.forall_mem_cons.mpr ⟨told.2, othersFresh⟩,
          noneStale⟩

theorem exact_sweep
    (keep : hooks.Keep (Session.Exact calendar) Reply.Fresh)
    {outer : List Candidate}
    {session : Session V}
    (exact : session.Exact calendar outer) :
    (session.sweep hooks).1.Exact calendar outer ∧
      (Reply.swept (session.sweep hooks).2).Fresh := by
  let due := session.store.index.due session.clock
  have closed :
      ∀ candidate ∈ due.candidates session.listing,
        candidate.bucket ≤ calendar.lastClosed session.clock := by
    intro candidate member
    rw [← exact.calendar_eq]
    exact ExpiryIndex.bucket_le_of_mem_due member
  have begun :
      (session.withStore
          (session.store.withIndex
            (session.store.index.pending session.clock))).Exact calendar
        (due.candidates session.listing ++ outer) :=
    Store.Exact.takeDue exact session.listing session.clock
  rcases exact_visitAll keep closed begun 0 with
    ⟨exactLast, noticesFresh, noneStale⟩
  refine ⟨exactLast, .swept _ noneStale ?_ ?_⟩
  · intro notice member
    exact (noticesFresh notice member).policy
  · intro notice member
    exact (noticesFresh notice member).callback

end Session

/-! ## Runs -/

/-- Sweeping actions that spare the store keep what outer sweeps rely on. -/
theorem Action.Sweeping.keeps_exact
    {action : Action V}
    (sweeping : action.Sweeping Command.spares)
    (calendar : Calendar) :
    action.Keeps (Session.Exact calendar) Reply.Fresh := by
  apply sweeping.keeps
  · intro command spares unvisited session exact
    refine ⟨?_, .plain _ (session.isPlain_perform command)⟩
    show (session.perform command).1.store.Exact calendar unvisited
    rw [Session.store_perform_of_spares spares]
    exact exact
  · intro hooks keep unvisited session exact
    exact Session.exact_sweep keep exact

theorem Action.Tidy.keeps_exact
    {action : Action V}
    (tidy : action.Tidy)
    {calendar : Calendar}
    {session : Session V}
    (exact : session.Exact calendar []) :
    (action.run session).1.Exact calendar [] ∧
      (action.run session).2.Fresh := by
  cases tidy with
  | perform command ordinary =>
      rw [run]
      exact
        ⟨session.exact_perform ordinary exact,
          .plain _ (session.isPlain_perform command)⟩
  | cleanup policy callback sweeping =>
      exact sweeping.keeps_exact calendar [] session exact

theorem Session.exact_runAll
    {actions : List (Action V)}
    (tidy : ∀ action ∈ actions, action.Tidy)
    {calendar : Calendar}
    {session : Session V}
    (exact : session.Exact calendar []) :
    (Action.runAll actions session).1.Exact calendar [] ∧
      ∀ reply ∈ (Action.runAll actions session).2, reply.Fresh := by
  let Holds (_ : Unit) (session : Session V) : Prop :=
    session.Exact calendar []
  have keep : ∀ action ∈ actions, action.Keeps Holds Reply.Fresh := by
    intro action member _ session holds
    exact (tidy action member).keeps_exact holds
  exact Action.keeps_runAll keep () exact

/-- The index notes every expiring entry once, as what it is, and nothing else. -/
structure Store.Imaged (store : Store V) (calendar : Calendar) : Prop where
  noted_iff :
    ∀ bucket key token,
      store.index.token? bucket key = some token ↔
        ∃ entry deadline,
          store.lookup key = some entry ∧
            entry.token = token ∧
              entry.deadline = some deadline ∧
                calendar.bucketOf deadline = bucket
  size_eq : store.index.size = store.expiring
  bucket_unique :
    ∀ key entry,
      store.lookup key = some entry → entry.deadline.isSome = true →
        ∃! bucket, (store.index.token? bucket key).isSome = true

theorem Store.Exact.imaged
    {store : Store V}
    {calendar : Calendar}
    (exact : store.Exact calendar []) :
    store.Imaged calendar := by
  have noted_iff :
      ∀ bucket key token,
        store.index.token? bucket key = some token ↔
          ∃ entry deadline,
            store.lookup key = some entry ∧
              entry.token = token ∧
                entry.deadline = some deadline ∧
                  calendar.bucketOf deadline = bucket := by
    intro bucket key token
    rw [← exact.calendar_eq]
    exact
      (exact.notes_iff ⟨bucket, key, token⟩).trans
        (store.candidate?_eq_some_iff ⟨bucket, key, token⟩)
  refine ⟨noted_iff, exact.size_eq, ?_⟩
  intro key entry stored expires
  rcases Option.isSome_iff_exists.mp expires with ⟨deadline, ends⟩
  refine ⟨calendar.bucketOf deadline, ?_, ?_⟩
  · have noted :=
      (noted_iff (calendar.bucketOf deadline) key entry.token).mpr
        ⟨entry, deadline, stored, rfl, ends, rfl⟩
    exact Option.isSome_of_eq_some noted
  · intro bucket present
    rcases Option.isSome_iff_exists.mp present with ⟨token, noted⟩
    rcases (noted_iff bucket key token).mp noted with
      ⟨other, otherDeadline, otherStored, _, otherEnds, sameBucket⟩
    have sameEntry : entry = other :=
      Option.some.inj (stored.symm.trans otherStored)
    subst sameEntry
    have sameDeadline : deadline = otherDeadline :=
      Option.some.inj (ends.symm.trans otherEnds)
    rw [← sameBucket, sameDeadline]

/--
The index is exact.  Valid settings make a store, and after any run of commands
that do not bypass the index, and of sweeps whose collaborators do not write,
the index is the image of the store; and no sweep of the run, an inner one of
its collaborators included, met a stale candidate.
-/
theorem index_exact
    (settings : StoreSettings)
    (valid : settings.validate = .ok ())
    (clock : Instant)
    (listing : Listing)
    (actions : List (Action V))
    (tidy : ∀ action ∈ actions, action.Tidy) :
    ∃ store : Store V,
      Store.ofSettings settings clock = .ok store ∧
        (Action.runAll actions ⟨store, clock, listing⟩).1.store.Imaged
          (Calendar.ofWidth clock settings.bucketWidth) ∧
          ∀ reply ∈ (Action.runAll actions ⟨store, clock, listing⟩).2,
            reply.Fresh := by
  refine ⟨_, Store.ofSettings_of_valid valid clock, ?_⟩
  let opened : Session V :=
    { store := Store.empty settings.shards
        (Calendar.ofWidth clock settings.bucketWidth)
        (settings.validate_eq_ok_iff.mp valid).1
      clock := clock
      listing := listing }
  have openedExact :
      opened.Exact (Calendar.ofWidth clock settings.bucketWidth) [] :=
    Store.exact_empty settings.shards _
      (settings.validate_eq_ok_iff.mp valid).1
  rcases Session.exact_runAll tidy openedExact with ⟨exact, fresh⟩
  exact ⟨Store.Exact.imaged exact, fresh⟩

/--
An entry whose token is stripped, a refused write, a sweep whose policy sweeps
in turn and sets the clock back, and then an entry that comes to expire.
-/
def tidyActions : List (Action Nat) :=
  [.perform (.set ⟨1, 7, 10, .ending ⟨5⟩⟩),
    .perform (.set ⟨1, 0, 11, .ending ⟨6⟩⟩),
    .perform (.set ⟨3, 8, 30, .unlimited⟩),
    .perform (.set ⟨3, 9, 32, .ending ⟨5⟩⟩),
    .perform (.advance ⟨20⟩),
    .cleanup
      (fun _ _ =>
        [.cleanup (fun _ _ => []) none, .perform (.setClock ⟨2⟩)])
      (some fun _ item => [.perform (.get item.key 0)]),
    .perform (.update ⟨3, 0, 31, .lasting ⟨25⟩⟩),
    .perform (.set ⟨5, 4, 50, .lasting ⟨9⟩⟩)]

theorem tidy_tidyActions : ∀ action ∈ tidyActions, action.Tidy := by
  have silent :
      (Action.cleanup (fun _ _ => []) none : Action Nat).Sweeping
        Command.spares :=
    .cleanup _ _ (by simp) (by simp)
  have turnedBack :
      (Action.perform (.setClock ⟨2⟩) : Action Nat).Sweeping
        Command.spares :=
    .perform _ rfl
  simp only [tidyActions, List.forall_mem_cons]
  refine
    ⟨.perform _ rfl, .perform _ rfl, .perform _ rfl, .perform _ rfl,
      .perform _ rfl, .cleanup _ _ (.cleanup _ _ ?_ ?_), .perform _ rfl,
      .perform _ rfl, by simp⟩
  · simp [silent, turnedBack]
  · rintro react same number item
    cases same
    simp only [List.forall_mem_singleton]
    exact .perform _ rfl

theorem index_exact_tidyActions :
    (StoreSettings.mk 2 ⟨10⟩).validate = .ok () ∧
      (∀ action ∈ tidyActions, action.Tidy) ∧
        ∃ store : Store Nat,
          Store.ofSettings ⟨2, ⟨10⟩⟩ ⟨0⟩ = .ok store ∧
            (Action.runAll tidyActions ⟨store, ⟨0⟩, .ascending⟩).1.store.Imaged
              (Calendar.ofWidth ⟨0⟩ ⟨10⟩) ∧
            (∀ reply ∈
                (Action.runAll tidyActions ⟨store, ⟨0⟩, .ascending⟩).2,
              reply.Fresh) ∧
            (Action.runAll tidyActions
                ⟨store, ⟨0⟩, .ascending⟩).1.store.index.candidates
                .ascending =
              [⟨2, 5, 4⟩, ⟨3, 3, 0⟩] := by
  have valid : (StoreSettings.mk 2 ⟨10⟩).validate = .ok () := by decide
  have left :
      (Action.runAll tidyActions
          ⟨Store.empty 2 (Calendar.ofWidth ⟨0⟩ ⟨10⟩) (by decide),
            ⟨0⟩, .ascending⟩).1.store.index.candidates .ascending =
        [⟨2, 5, 4⟩, ⟨3, 3, 0⟩] := by
    decide +kernel
  rcases index_exact ⟨2, ⟨10⟩⟩ valid ⟨0⟩ .ascending tidyActions
      tidy_tidyActions with
    ⟨store, made, imaged, fresh⟩
  have opened :
      store = Store.empty 2 (Calendar.ofWidth ⟨0⟩ ⟨10⟩) (by decide) :=
    Store.eq_empty_of_ofSettings valid made
  refine ⟨valid, tidy_tidyActions, store, made, imaged, fresh, ?_⟩
  rw [opened]
  exact left

end TtlStore
