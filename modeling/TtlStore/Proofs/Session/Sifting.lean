import TtlStore.Proofs.Session.Sweeping
import TtlStore.Proofs.Store.Writing

/-!
# What sweeps leave to owners

A read by the owner of a key is answered by the entry under the key, unless its
deadline has passed.  A sweep by collaborators that only read removes entries
whose deadlines have passed and nothing else: it sifts the store, but takes away
nothing that lives.  So what owners read after such a sweep is what they would
have read before it, at the same time.
-/

namespace TtlStore

variable {V : Type}

namespace Store

/-- The entry under a key, unless its deadline has passed. -/
def living? (store : Store V) (now : Instant) (key : Key) :
    Option (Entry V) :=
  (store.lookup key).filter fun entry => !deadlinePassed entry.deadline now

/-- Every entry has the token of the owner of its key. -/
def Owned (owner : Key → Token) (store : Store V) : Prop :=
  ∀ key entry, store.lookup key = some entry → entry.token = owner key

theorem living?_eq_some_iff
    (store : Store V)
    (now : Instant)
    (key : Key)
    (entry : Entry V) :
    store.living? now key = some entry ↔
      store.lookup key = some entry ∧
        deadlinePassed entry.deadline now = false := by
  rw [living?, Option.filter_eq_some_iff, Bool.not_eq_true']

/-- As the clock goes on, what lives later is what lives now and does not expire by then. -/
theorem living?_of_le
    (store : Store V)
    {now later : Instant}
    (forward : now ≤ later)
    (key : Key) :
    store.living? later key =
      (store.living? now key).filter fun entry =>
        !deadlinePassed entry.deadline later := by
  have stillPassed :
      ∀ deadline, deadlinePassed deadline now = true →
        deadlinePassed deadline later = true := by
    intro deadline passed
    cases deadline with
    | none => cases passed
    | some instant =>
        have before : instant < now := of_decide_eq_true passed
        apply decide_eq_true
        show instant < later
        rw [Instant.lt_def] at before ⊢
        rw [Instant.le_def] at forward
        omega
  ext entry
  rw [living?_eq_some_iff, Option.filter_eq_some_iff, living?_eq_some_iff,
    Bool.not_eq_true']
  constructor
  · rintro ⟨stored, lives⟩
    refine ⟨⟨stored, ?_⟩, lives⟩
    rw [← Bool.not_eq_true] at lives ⊢
    exact fun passed => lives (stillPassed entry.deadline passed)
  · rintro ⟨⟨stored, _⟩, lives⟩
    exact ⟨stored, lives⟩

/-- A read is answered by what lives under the key, if that answers its token. -/
theorem get_eq_living?
    (store : Store V)
    (key : Key)
    (token : Token)
    (now : Instant) :
    store.get key token now =
      ((store.living? now key).filter fun entry =>
        Token.answersRead entry.token token).map (·.value) := by
  rw [get, recognised?, living?]
  cases store.lookup key with
  | none => rfl
  | some entry =>
      by_cases answered : Token.answersRead entry.token token = true <;>
        by_cases passed : deadlinePassed entry.deadline now = true <;>
          simp [Option.filter, answered, passed]

theorem living?_congr
    {left right : Store V}
    {key : Key}
    (same : left.lookup key = right.lookup key)
    (now : Instant) :
    left.living? now key = right.living? now key := by
  rw [living?, living?, same]

variable {owner : Key → Token} {store : Store V}

/-- A store without entries is anyone's. -/
theorem owned_of_vacant
    (owner : Key → Token)
    (vacant : ∀ key, store.lookup key = none) :
    store.Owned owner := by
  intro key entry stored
  rw [vacant key] at stored
  cases stored

/-- Owners stay owners if what becomes of a key is theirs. -/
theorem Owned.replaced
    (owned : store.Owned owner)
    {key : Key}
    {new : Option (Entry V)}
    (ownNew : ∀ entry, new = some entry → entry.token = owner key)
    {changed : Store V}
    (lookup_eq :
      ∀ other,
        changed.lookup other =
          if key = other then new else store.lookup other) :
    changed.Owned owner := by
  intro other entry stored
  rw [lookup_eq] at stored
  split at stored
  · rename_i sameKey
    rw [← sameKey]
    exact ownNew entry stored
  · exact owned other entry stored

/-- The owner of a key reads what lives under it. -/
theorem Owned.get_eq
    (owned : store.Owned owner)
    (key : Key)
    (now : Instant) :
    store.get key (owner key) now =
      (store.living? now key).map (·.value) := by
  rw [get_eq_living?]
  cases lives : store.living? now key with
  | none => rfl
  | some entry =>
      have stored := ((store.living?_eq_some_iff now key entry).mp lives).1
      have answered :
          Token.answersRead entry.token (owner key) = true := by
        simp [Token.answersRead, owned key entry stored]
      rw [Option.filter_some, if_pos answered]

/-- The owner of a key is never refused. -/
theorem Owned.refuses_eq
    (owned : store.Owned owner)
    (key : Key) :
    store.refuses key (owner key) = false := by
  cases stored : store.lookup key with
  | none => exact refuses_of_none stored (owner key)
  | some entry =>
      rw [refuses_of_some stored, owned key entry stored]
      simp [Token.acceptsWrite]

end Store

/-! ## Sweeps by readers -/

/-- Nothing but expired entries is gone, and the clock is the same. -/
structure Session.Sifts (before after : Session V) : Prop where
  clock_eq : after.clock = before.clock
  stored :
    ∀ key entry, after.store.lookup key = some entry →
      before.store.lookup key = some entry
  living :
    ∀ key entry, before.store.lookup key = some entry →
      deadlinePassed entry.deadline before.clock = false →
        after.store.lookup key = some entry

namespace Session

theorem Sifts.refl (session : Session V) : session.Sifts session where
  clock_eq := rfl
  stored _ _ stored := stored
  living _ _ stored _ := stored

theorem Sifts.relist (session : Session V) (listing : Listing) :
    session.Sifts (session.perform (.relist listing)).1 where
  clock_eq := rfl
  stored _ _ stored := stored
  living _ _ stored _ := stored

theorem Sifts.living?_eq
    {before after : Session V}
    (sifts : before.Sifts after)
    (key : Key) :
    after.store.living? before.clock key =
      before.store.living? before.clock key := by
  ext entry
  rw [Store.living?_eq_some_iff, Store.living?_eq_some_iff]
  constructor
  · rintro ⟨stored, lives⟩
    exact ⟨sifts.stored key entry stored, lives⟩
  · rintro ⟨stored, lives⟩
    exact ⟨sifts.living key entry stored lives, lives⟩

/-- What is read from now on is what would have been read. -/
theorem Sifts.get_eq
    {before after : Session V}
    (sifts : before.Sifts after)
    {now : Instant}
    (later : before.clock ≤ now)
    (key : Key)
    (token : Token) :
    after.store.get key token now = before.store.get key token now := by
  rw [Store.get_eq_living?, Store.get_eq_living?,
    after.store.living?_of_le later, before.store.living?_of_le later,
    sifts.living?_eq]

theorem Sifts.owned
    {before after : Session V}
    {owner : Key → Token}
    (sifts : before.Sifts after)
    (owned : before.store.Owned owner) :
    after.store.Owned owner := by
  intro key entry stored
  exact owned key entry (sifts.stored key entry stored)

/-- What answers a candidate at the time has expired. -/
theorem Sifts.evicted
    {before session : Session V}
    (sifts : before.Sifts session)
    {candidate : Candidate}
    {entry : Entry V}
    (answered :
      session.store.answering? candidate before.clock = some entry) :
    before.Sifts
      (session.withStore (session.store.drop candidate.key)) where
  clock_eq := sifts.clock_eq
  stored := by
    intro key other stored
    rw [withStore, Store.lookup_drop] at stored
    split at stored
    · cases stored
    · exact sifts.stored key other stored
  living := by
    intro key other stored lives
    rcases (session.store.answering?_eq_some_iff candidate before.clock
        entry).mp answered with
      ⟨found, answers⟩
    have held := sifts.living key other stored lives
    rw [withStore, Store.lookup_drop]
    split
    · -- An entry that lives cannot be the one that answers the candidate.
      rename_i sameKey
      exfalso
      rw [← sameKey, found] at held
      cases held
      rcases (entry.answers_eq_true_iff _ candidate before.clock).mp answers
        with ⟨_, deadline, expires, _, passed⟩
      rw [expires] at lives
      exact of_decide_eq_false lives passed
    · exact held

variable {hooks : SweepHooks V (Reply V)}

theorem sifts_visitAll
    (keep : hooks.Keep Sifts fun _ => True)
    {before session : Session V}
    (sifts : before.Sifts session)
    (number : Nat)
    (candidates : List Candidate) :
    before.Sifts
      (visitAll hooks before.clock number session candidates).1 := by
  induction candidates generalizing session number with
  | nil => exact sifts
  | cons candidate rest induction =>
      cases answered :
          session.store.answering? candidate before.clock with
      | none =>
          rw [visitAll_of_unanswered answered]
          exact induction sifts number
      | some entry =>
          have told :=
            keep.announce (sifts.evicted answered) number candidate
              (entry.handedOut candidate.key)
          rw [visitAll_of_answered answered hooks number rest rfl]
          exact induction told.1 (number + 1)

theorem sifts_sweep
    (keep : hooks.Keep Sifts fun _ => True)
    {before session : Session V}
    (sifts : before.Sifts session) :
    before.Sifts (session.sweep hooks).1 := by
  have begun :
      before.Sifts
        (session.withStore
          (session.store.withIndex
            (session.store.index.pending session.clock))) :=
    ⟨sifts.clock_eq, sifts.stored, sifts.living⟩
  have visited :=
    sifts_visitAll keep begun 0
      ((session.store.index.due session.clock).candidates session.listing)
  rw [← sifts.clock_eq] at visited
  exact visited

end Session

/-- Whatever sweeps by collaborators that only read do, they only sift. -/
theorem Action.Sweeping.sifts
    {action : Action V}
    (sweeping : action.Sweeping Command.reads)
    (session : Session V) :
    session.Sifts (action.run session).1 := by
  have keeps : action.Keeps Session.Sifts fun _ => True := by
    apply sweeping.keeps
    · intro command reads before session sifts
      refine ⟨?_, trivial⟩
      rw [run, session.perform_of_reads reads]
      exact sifts
    · intro hooks keep before session sifts
      exact ⟨Session.sifts_sweep keep sifts, trivial⟩
  exact (keeps session session (Session.Sifts.refl session)).1

end TtlStore
