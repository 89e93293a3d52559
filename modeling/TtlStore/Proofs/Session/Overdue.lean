import TtlStore.Proofs.Session.Sifting

/-!
# Overdue entries

An entry whose deadline has passed stays in its shard until a sweep comes for
its bucket.  Reads never find it, so they cannot tell if a sweep has been there.
Updates can: they do not look at deadlines, and treat an overdue entry as they
treat any other.  An update that its token accepts hands out the overdue value
and puts a new entry in its place, which reads then find; after a sweep the same
update finds nothing to replace.
-/

namespace TtlStore

variable {V : Type}

namespace Store

variable {store : Store V} {key : Key} {entry : Entry V} {now later : Instant}

/-- Reads never find an entry again once its deadline has passed. -/
theorem get_of_passed
    (stored : store.lookup key = some entry)
    (passed : deadlinePassed entry.deadline now = true)
    (forward : now ≤ later)
    (token : Token) :
    store.get key token later = none := by
  have gone : store.living? now key = none := by
    rw [living?, stored, Option.filter_some, passed]
    rfl
  rw [get_eq_living?, store.living?_of_le forward, gone]
  rfl

/-- Whoever stored an item reads its value until its deadline has passed. -/
theorem get_set
    {item : Item V}
    (accepted : store.refuses item.key item.token = false)
    (lives : deadlinePassed item.deadline now = false) :
    (store.set item).get item.key item.token now = some item.value := by
  have living : (store.set item).living? now item.key = some item.entry := by
    rw [living?_eq_some_iff, lookup_set accepted, if_pos rfl]
    exact ⟨rfl, lives⟩
  have answered : Token.answersRead item.entry.token item.token = true := by
    simp [Token.answersRead, Item.entry]
  rw [get_eq_living?, living, Option.filter_some, if_pos answered]
  rfl

end Store

/--
Overdue entries are hidden from reads, and from reads alone.  In any session in
which an entry is stored past its deadline, no read finds it now or later, and a
sweep by readers makes no difference to any read.  An update of its key with an
item that its token refuses does nothing; one that it accepts hands out the
overdue value and stores the item, which is then read until it expires itself.
If the sweep took the entry away, the same update does nothing after it.
-/
theorem overdue_hidden_from_reads_alone
    (session : Session V)
    (item : Item V)
    (entry : Entry V)
    (stored : session.store.lookup item.key = some entry)
    (overdue : deadlinePassed entry.deadline session.clock = true)
    (sweep : Action V)
    (sweeping : sweep.Sweeping Command.reads) :
    let swept := (sweep.run session).1
    let updated := session.store.update item
    (∀ token now, session.clock ≤ now →
        session.store.get item.key token now = none) ∧
      (∀ key token now, session.clock ≤ now →
        swept.store.get key token now = session.store.get key token now) ∧
      (session.store.refuses item.key item.token = true →
        updated = (session.store, none)) ∧
      (session.store.refuses item.key item.token = false →
        updated = (session.store.set item, some entry.value) ∧
          updated.1.lookup item.key = some item.entry ∧
          ∀ now, deadlinePassed item.deadline now = false →
            updated.1.get item.key item.token now = some item.value) ∧
      (swept.store.lookup item.key = none →
        swept.store.update item = (swept.store, none)) := by
  intro swept updated
  refine ⟨?_, ?_, Store.update_of_refused, ?_, Store.update_of_none⟩
  · intro token now forward
    exact Store.get_of_passed stored overdue forward token
  · intro key token now forward
    exact (sweeping.sifts session).get_eq forward key token
  · intro accepted
    have updatedEq : updated = _ := Store.update_of_some stored accepted
    rw [updatedEq]
    refine ⟨rfl, ?_, ?_⟩
    · exact (Store.lookup_set accepted item.key).trans (if_pos rfl)
    · intro now lives
      exact Store.get_set accepted lives

/-- A session whose only entry is overdue, in a bucket that has closed. -/
def overdueSession : Session Nat :=
  (Action.runAll
    [.perform (.set ⟨1, 7, 10, .ending ⟨5⟩⟩),
      .perform (.advance ⟨12⟩)]
    { store := Store.empty 2 (Calendar.ofWidth ⟨0⟩ ⟨10⟩) Nat.two_pos
      clock := ⟨0⟩ }).1

theorem overdue_hidden_from_reads_alone_overdueSession :
    let silent : Action Nat := .cleanup (fun _ _ => []) none
    let item : Item Nat := ⟨1, 7, 11, none⟩
    let swept := (silent.run overdueSession).1
    let updated := overdueSession.store.update item
    overdueSession.store.lookup 1 = some ⟨7, 10, some ⟨5⟩⟩ ∧
      deadlinePassed (some ⟨5⟩) overdueSession.clock = true ∧
      silent.Sweeping Command.reads ∧
      (∀ token now, overdueSession.clock ≤ now →
        overdueSession.store.get 1 token now = none ∧
          swept.store.get 1 token now = none) ∧
      updated.2 = some 10 ∧
      updated.1.get 1 7 overdueSession.clock = some 11 ∧
      swept.store.update item = (swept.store, none) := by
  intro silent item swept updated
  have stored :
      overdueSession.store.lookup item.key = some ⟨7, 10, some ⟨5⟩⟩ := by
    decide +kernel
  have overdue : deadlinePassed (some ⟨5⟩) overdueSession.clock = true := by
    decide +kernel
  have sweeping : silent.Sweeping Command.reads :=
    .cleanup _ _ (by simp) (by simp)
  have accepted :
      overdueSession.store.refuses item.key item.token = false := by
    decide +kernel
  have removed : swept.store.lookup item.key = none := by
    decide +kernel
  rcases overdue_hidden_from_reads_alone overdueSession item _ stored overdue
      silent sweeping with
    ⟨hidden, sameReads, _, replaces, gone⟩
  rcases replaces accepted with ⟨updatedEq, _, revived⟩
  refine
    ⟨stored, overdue, sweeping, ?_, congrArg Prod.snd updatedEq,
      revived overdueSession.clock rfl, gone removed⟩
  intro token now forward
  have unread := hidden token now forward
  exact ⟨unread, (sameReads 1 token now forward).trans unread⟩

/-- An update finds an overdue entry, in a session that operations lead to. -/
theorem update_revives_overdueSession :
    overdueSession.store.get 1 7 overdueSession.clock = none ∧
      (overdueSession.store.update ⟨1, 7, 11, none⟩).2 = some 10 ∧
      ¬ ∀ (actions : List (Action Nat)) (item : Item Nat) (entry : Entry Nat),
        let session :=
          (Action.runAll actions
            { store := Store.empty 2 (Calendar.ofWidth ⟨0⟩ ⟨10⟩) Nat.two_pos
              clock := ⟨0⟩ }).1
        session.store.lookup item.key = some entry →
          deadlinePassed entry.deadline session.clock = true →
            session.store.update item = (session.store, none) := by
  have stored :
      overdueSession.store.lookup 1 = some ⟨7, 10, some ⟨5⟩⟩ := by
    decide +kernel
  have overdue : deadlinePassed (some ⟨5⟩) overdueSession.clock = true := by
    decide +kernel
  have replaced :
      (overdueSession.store.update ⟨1, 7, 11, none⟩).2 = some 10 := by
    decide +kernel
  refine ⟨by decide +kernel, replaced, ?_⟩
  intro idle
  have unchanged := idle _ ⟨1, 7, 11, none⟩ _ stored overdue
  rw [overdueSession, unchanged] at replaced
  cases replaced

end TtlStore
