import TtlStore.Proofs.Session.Quiet

/-!
# Settled stores

Between operations whose collaborators are quiet a store is settled: every key
is in its shard, and the index by itself covers every expiring entry.  A sweep
of a settled store evicts exactly the entries that are due, however its index
came to be what it is: coverage makes the sweep thorough, and the check that
every candidate is put to keeps it from evicting more.
-/

namespace TtlStore

variable {V R : Type}

/-- An entry is due if it expires and the bucket of its deadline is closed. -/
def Entry.isDue
    (entry : Entry V)
    (calendar : Calendar)
    (now : Instant) :
    Bool :=
  match entry.deadline with
  | none => false
  | some deadline =>
      decide (calendar.bucketOf deadline ≤ calendar.lastClosed now)

/-- A store by a given calendar that no sweep in progress has to make good. -/
structure Store.Settled (store : Store V) (calendar : Calendar) : Prop where
  calendar_eq : store.index.calendar = calendar
  placed : store.Placed
  covered : store.Covered []

namespace Store

theorem settled_empty
    (shards : Nat)
    (calendar : Calendar)
    (positive : 0 < shards) :
    (empty shards calendar positive : Store V).Settled calendar where
  calendar_eq := rfl
  placed := placed_empty shards calendar positive
  covered := covered_empty shards calendar positive []

theorem Settled.change
    {store changed : Store V}
    {calendar : Calendar}
    (settled : store.Settled calendar)
    (change : store.Change changed) :
    changed.Settled calendar where
  calendar_eq := change.calendar_eq.trans settled.calendar_eq
  placed := change.placed settled.placed
  covered := change.covered settled.covered

/-! ## Sweeping -/

/-- The due candidates are answered by exactly the entries that are due. -/
theorem Settled.answersAny_iff
    {store : Store V}
    {calendar : Calendar}
    (settled : store.Settled calendar)
    (listing : Listing)
    (now : Instant)
    {key : Key}
    {entry : Entry V}
    (stored : store.lookup key = some entry) :
    AnswersAny calendar ((store.index.due now).candidates listing) now key
        entry ↔
      entry.isDue calendar now = true := by
  constructor
  · rintro ⟨candidate, due, rfl, answers⟩
    have closed := ExpiryIndex.bucket_le_of_mem_due due
    rw [settled.calendar_eq] at closed
    rcases (entry.answers_eq_true_iff calendar candidate now).mp answers with
      ⟨_, deadline, expires, sameBucket, _⟩
    rw [← sameBucket] at closed
    rw [Entry.isDue, expires]
    exact decide_eq_true closed
  · intro due
    rw [Entry.isDue] at due
    cases expires : entry.deadline with
    | none => simp [expires] at due
    | some deadline =>
        simp only [expires, decide_eq_true_eq] at due
        have covered :=
          settled.covered.takeDue listing now key entry deadline stored expires
        rw [index_withIndex, ExpiryIndex.calendar_pending,
          settled.calendar_eq, List.append_nil] at covered
        have candidate :
            calendar.candidate key entry.token deadline ∈
              (store.index.due now).candidates listing := by
          rcases covered with pending | member
          · -- What is still pending is not noted under a closed bucket.
            exfalso
            rw [ExpiryIndex.Notes, ExpiryIndex.token?_pending,
              settled.calendar_eq] at pending
            simp [Calendar.candidate, due] at pending
          · exact member
        exact
          ⟨_, candidate, rfl, answers_of_closed calendar key entry expires due⟩

end Store

namespace Session

/-- A quiet sweep keeps the clock and removes the entries that are due. -/
theorem lookup_sweep
    {session : Session V}
    {calendar : Calendar}
    (settled : session.store.Settled calendar)
    {hooks : SweepHooks V R}
    (quiet : hooks.Quiet)
    (key : Key)
    (entry : Entry V) :
    (session.sweep hooks).1.store.lookup key = some entry ↔
      session.store.lookup key = some entry ∧
        entry.isDue calendar session.clock = false := by
  rw [(sweep_of_quiet quiet session).1, withStore, Store.lookup_evictAll,
    Store.lookup_withIndex, Store.index_withIndex,
    ExpiryIndex.calendar_pending, settled.calendar_eq,
    ← Bool.not_eq_true]
  constructor
  · rintro ⟨stored, unanswered⟩
    rw [settled.answersAny_iff _ session.clock stored] at unanswered
    exact ⟨stored, unanswered⟩
  · rintro ⟨stored, notDue⟩
    rw [settled.answersAny_iff _ session.clock stored]
    exact ⟨stored, notDue⟩

/-- What a quiet sweep hands out is what the due entries were stored as. -/
theorem mem_items_sweep
    {session : Session V}
    {calendar : Calendar}
    (settled : session.store.Settled calendar)
    {hooks : SweepHooks V R}
    (quiet : hooks.Quiet)
    (item : Item V) :
    item ∈ (session.sweep hooks).2.notices.map (·.item) ↔
      ∃ entry : Entry V,
        session.store.lookup item.key = some entry ∧
          entry.isDue calendar session.clock = true ∧
            item = entry.handedOut item.key := by
  rw [(sweep_of_quiet quiet session).2.1, Store.mem_evictAll,
    Store.index_withIndex, ExpiryIndex.calendar_pending, settled.calendar_eq]
  constructor
  · rintro ⟨entry, stored, answers, same⟩
    exact
      ⟨entry, stored,
        (settled.answersAny_iff _ session.clock stored).mp answers, same⟩
  · rintro ⟨entry, stored, due, same⟩
    exact
      ⟨entry, stored,
        (settled.answersAny_iff _ session.clock stored).mpr due, same⟩

theorem nodup_items_sweep
    (session : Session V)
    {hooks : SweepHooks V R}
    (quiet : hooks.Quiet) :
    ((session.sweep hooks).2.notices.map (·.item)).Nodup := by
  rw [(sweep_of_quiet quiet session).2.1]
  exact (Store.nodup_keys_evictAll _ _ _).of_map

theorem evicted_sweep
    (session : Session V)
    {hooks : SweepHooks V R}
    (quiet : hooks.Quiet) :
    (session.sweep hooks).2.count.evicted =
      ((session.sweep hooks).2.notices.map (·.item)).length := by
  rcases sweep_of_quiet quiet session with ⟨_, handed, evicted⟩
  rw [handed, evicted]

theorem clock_sweep
    (session : Session V)
    {hooks : SweepHooks V R}
    (quiet : hooks.Quiet) :
    (session.sweep hooks).1.clock = session.clock := by
  rw [(sweep_of_quiet quiet session).1]
  rfl

theorem settled_sweep
    {session : Session V}
    {calendar : Calendar}
    (settled : session.store.Settled calendar)
    {hooks : SweepHooks V R}
    (quiet : hooks.Quiet) :
    (session.sweep hooks).1.store.Settled calendar := by
  let due := session.store.index.due session.clock
  have closed :
      ∀ candidate ∈ due.candidates session.listing,
        candidate.bucket ≤
          session.store.index.calendar.lastClosed session.clock :=
    fun _ member => ExpiryIndex.bucket_le_of_mem_due member
  rw [(sweep_of_quiet quiet session).1]
  exact
    { calendar_eq :=
        Store.evictAll_keeps
          (fun change same => change.calendar_eq.trans same) session.clock _
          settled.calendar_eq
      placed :=
        Store.evictAll_keeps Store.Change.placed session.clock _
          (settled.placed.withIndex _)
      covered :=
        (settled.covered.takeDue session.listing session.clock).evictAll
          closed }

/-! ## Clearing -/

theorem lookup_clear
    (session : Session V)
    {hook : Option (ClearHook V R)}
    (quiet : ClearHook.Quiet hook)
    (key : Key) :
    (session.clear hook).1.store.lookup key = none := by
  rw [(clear_of_quiet quiet session).1]
  exact session.store.lookup_emptyAll_range key

theorem clock_clear
    (session : Session V)
    {hook : Option (ClearHook V R)}
    (quiet : ClearHook.Quiet hook) :
    (session.clear hook).1.clock = session.clock := by
  rw [(clear_of_quiet quiet session).1]
  rfl

theorem settled_clear
    {session : Session V}
    {calendar : Calendar}
    (settled : session.store.Settled calendar)
    {hook : Option (ClearHook V R)}
    (quiet : ClearHook.Quiet hook) :
    (session.clear hook).1.store.Settled calendar := by
  constructor
  · rw [(clear_of_quiet quiet session).1, withStore, Store.index_emptyAll]
    exact settled.calendar_eq
  · rw [(clear_of_quiet quiet session).1]
    exact settled.placed.emptyAll _
  · intro key entry deadline stored
    rw [lookup_clear session quiet key] at stored
    cases stored

end Session

end TtlStore
