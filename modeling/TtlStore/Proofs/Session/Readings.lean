import TtlStore.Proofs.Session.Settled
import TtlStore.Proofs.Session.Sifting
import TtlStore.Proofs.Session.Writing

/-!
# Sweeping is invisible to readers

A script is a list of operations in which every operation on a key carries the
token of its owner and the clock never goes back.  It is run on two stores, with
sweeps by readers put in here and there, and with tables that list their keys in
whatever order.  The stores come to differ in their expired entries and in their
indexes, and may differ in shards and buckets from the start.  But they stay
alike in what lives, which is all that reads go by, while operations, sweeps and
the passing of time go on.
-/

namespace TtlStore

variable {V : Type}

/-! ## Scripts -/

/-- An operation by the owner of a key, or one on all keys, with the clock before and after. -/
inductive Action.Scripted
    (owner : Key → Token)
    (clock : Instant) :
    Action V → Instant → Prop where
  | set
      (write : Write V)
      (owned : write.token = owner write.key) :
      Scripted owner clock (.perform (.set write)) clock
  | get (key : Key) :
      Scripted owner clock (.perform (.get key (owner key))) clock
  | delete (key : Key) :
      Scripted owner clock (.perform (.delete key (owner key))) clock
  | clear :
      Scripted owner clock (.clear none) clock
  | advance (span : Duration) :
      Scripted owner clock (.perform (.advance span)) (clock.shift span)
  | setClock
      (instant : Instant)
      (forward : clock ≤ instant) :
      Scripted owner clock (.perform (.setClock instant)) instant

/-- Operations one after another, from a given reading of the clock on. -/
inductive Script (owner : Key → Token) :
    Instant → List (Action V) → Prop where
  | done (clock : Instant) :
      Script owner clock []
  | next
      {clock later : Instant}
      {action : Action V}
      {rest : List (Action V)}
      (scripted : action.Scripted owner clock later)
      (others : Script owner later rest) :
      Script owner clock (action :: rest)

/--
A run that carries out a script, with sweeps by readers put in, and with other
listings of the tables.
-/
inductive Interspersed : List (Action V) → List (Action V) → Prop where
  | done :
      Interspersed [] []
  | scripted
      (action : Action V)
      {script run : List (Action V)}
      (others : Interspersed script run) :
      Interspersed (action :: script) (action :: run)
  | swept
      (policy : Nat → Key → List (Action V))
      (callback : Option (Nat → Item V → List (Action V)))
      (sweeping : (Action.cleanup policy callback).Sweeping Command.reads)
      {script run : List (Action V)}
      (others : Interspersed script run) :
      Interspersed script (.cleanup policy callback :: run)
  | relisted
      (listing : Listing)
      {script run : List (Action V)}
      (others : Interspersed script run) :
      Interspersed script (.perform (.relist listing) :: run)

/-- What was read, if the reply is one to a read. -/
def Reply.value? : Reply V → Option (Option V)
  | .value result => some result
  | _ => none

/-- The answers to the reads among actions, in order. -/
def Session.readings
    (session : Session V)
    (actions : List (Action V)) :
    List (Option V) :=
  (Action.runAll actions session).2.filterMap Reply.value?

/-- The action is a read. -/
def Action.isGet : Action V → Bool
  | .perform (.get _ _) => true
  | _ => false

/-- A read and nothing else is answered by what was read. -/
theorem Action.isSome_value?_run
    (action : Action V)
    (session : Session V) :
    (action.run session).2.value?.isSome = action.isGet := by
  cases action with
  | perform command =>
      rw [run]
      cases command with
      | set write =>
          cases session.set_ends write <;>
            simp_all [Session.perform, Reply.value?, isGet]
      | update write =>
          cases session.update_ends write <;>
            simp_all [Session.perform, Reply.value?, isGet]
      | delete key token =>
          cases session.delete_ends key token <;>
            simp_all [Session.perform, Reply.value?, isGet]
      | _ => rfl
  | cleanup policy callback =>
      rw [run_cleanup]
      rfl
  | clear callback =>
      rw [run_clear]
      rfl

theorem Action.value?_run_eq_none
    {action : Action V}
    (noGet : action.isGet = false)
    (session : Session V) :
    (action.run session).2.value? = none := by
  rw [← Option.not_isSome_iff_eq_none, action.isSome_value?_run, noGet]
  exact Bool.false_ne_true

theorem Session.readings_cons
    (session : Session V)
    (action : Action V)
    (rest : List (Action V)) :
    session.readings (action :: rest) =
      (action.run session).2.value?.toList ++
        (action.run session).1.readings rest := by
  rw [readings, Action.runAll_cons, List.filterMap_cons]
  cases (action.run session).2.value? <;> rfl

/-- There is one answer for every read. -/
theorem Session.length_readings
    (session : Session V)
    (actions : List (Action V)) :
    (session.readings actions).length = actions.countP Action.isGet := by
  induction actions generalizing session with
  | nil => rfl
  | cons action rest induction =>
      have answered := action.isSome_value?_run session
      rw [readings_cons, List.length_append, induction, List.countP_cons,
        ← answered]
      cases (action.run session).2.value? <;> simp [Nat.add_comm]

/-! ## Alike sessions -/

/-- Two sessions of the owners have the same clock and the same unexpired entries. -/
structure Session.Alike
    (owner : Key → Token)
    (clock : Instant)
    (left right : Session V) :
    Prop where
  leftClock : left.clock = clock
  rightClock : right.clock = clock
  leftOwned : left.store.Owned owner
  rightOwned : right.store.Owned owner
  living?_eq :
    ∀ key, left.store.living? clock key = right.store.living? clock key

namespace Session

variable {owner : Key → Token} {clock : Instant} {left right : Session V}

/-- Sessions without entries are alike. -/
theorem alike_of_vacant
    (owner : Key → Token)
    (leftClock : left.clock = clock)
    (rightClock : right.clock = clock)
    (leftVacant : ∀ key, left.store.lookup key = none)
    (rightVacant : ∀ key, right.store.lookup key = none) :
    Alike owner clock left right where
  leftClock := leftClock
  rightClock := rightClock
  leftOwned := Store.owned_of_vacant owner leftVacant
  rightOwned := Store.owned_of_vacant owner rightVacant
  living?_eq := by
    intro key
    apply Store.living?_congr
    rw [leftVacant, rightVacant]

/-- Alike sessions stay alike if the same becomes of the same key in both. -/
theorem Alike.replaced
    (alike : Alike owner clock left right)
    {key : Key}
    {new : Option (Entry V)}
    (ownNew : ∀ entry, new = some entry → entry.token = owner key)
    {leftStore rightStore : Store V}
    (leftLookup :
      ∀ other,
        leftStore.lookup other =
          if key = other then new else left.store.lookup other)
    (rightLookup :
      ∀ other,
        rightStore.lookup other =
          if key = other then new else right.store.lookup other) :
    Alike owner clock (left.withStore leftStore)
      (right.withStore rightStore) where
  leftClock := alike.leftClock
  rightClock := alike.rightClock
  leftOwned := alike.leftOwned.replaced ownNew leftLookup
  rightOwned := alike.rightOwned.replaced ownNew rightLookup
  living?_eq := by
    intro other
    have same := alike.living?_eq other
    rw [Store.living?, Store.living?] at same ⊢
    rw [withStore, withStore, leftLookup, rightLookup]
    split
    · rfl
    · exact same

theorem Alike.withClock
    (alike : Alike owner clock left right)
    {later : Instant}
    (forward : clock ≤ later) :
    Alike owner later { left with clock := later }
      { right with clock := later } where
  leftClock := rfl
  rightClock := rfl
  leftOwned := alike.leftOwned
  rightOwned := alike.rightOwned
  living?_eq := by
    intro key
    rw [left.store.living?_of_le forward, right.store.living?_of_le forward,
      alike.living?_eq]

/-- A sweep by readers on one side leaves alike sessions alike. -/
theorem Alike.sifted
    (alike : Alike owner clock left right)
    {after : Session V}
    (sifts : right.Sifts after) :
    Alike owner clock left after where
  leftClock := alike.leftClock
  rightClock := sifts.clock_eq.trans alike.rightClock
  leftOwned := alike.leftOwned
  rightOwned := sifts.owned alike.rightOwned
  living?_eq := by
    intro key
    have same := sifts.living?_eq key
    rw [alike.rightClock] at same
    rw [alike.living?_eq, same]

/-! ## Operations by owners -/

/-- An owner's set is never refused. -/
theorem set_of_owned
    {session : Session V}
    (owned : session.store.Owned owner)
    {write : Write V}
    (ownWrite : write.token = owner write.key) :
    (∃ error,
        write.item session.clock = .error error ∧
          session.set write = (session, .failed error)) ∨
      ∃ item,
        write.item session.clock = .ok item ∧
          session.store.refuses item.key item.token = false ∧
            session.set write =
              (session.withStore (session.store.set item), .done) := by
  cases session.set_ends write with
  | failed error failed ended => exact Or.inl ⟨error, failed, ended⟩
  | refused item made refused ended =>
      exfalso
      rw [Write.token_item made, Write.key_item made, ownWrite,
        owned.refuses_eq] at refused
      cases refused
  | accepted item made accepted ended =>
      exact Or.inr ⟨item, made, accepted, ended⟩

theorem Alike.set
    (alike : Alike owner clock left right)
    {write : Write V}
    (ownWrite : write.token = owner write.key) :
    Alike owner clock (left.set write).1 (right.set write).1 ∧
      (left.set write).2 = (right.set write).2 := by
  have leftEnds := set_of_owned alike.leftOwned ownWrite
  have rightEnds := set_of_owned alike.rightOwned ownWrite
  rw [alike.leftClock] at leftEnds
  rw [alike.rightClock] at rightEnds
  cases made : write.item clock with
  | error error =>
      simp only [made, Except.error.injEq, reduceCtorEq, false_and,
        exists_false, or_false, exists_eq_left'] at leftEnds rightEnds
      rw [leftEnds, rightEnds]
      exact ⟨alike, rfl⟩
  | ok item =>
      simp only [made, Except.ok.injEq, reduceCtorEq, false_and,
        exists_false, false_or, exists_eq_left'] at leftEnds rightEnds
      rcases leftEnds with ⟨leftAccepted, leftEnded⟩
      rcases rightEnds with ⟨rightAccepted, rightEnded⟩
      have ownItem : item.token = owner item.key := by
        rw [Write.token_item made, Write.key_item made, ownWrite]
      rw [leftEnded, rightEnded]
      refine
        ⟨alike.replaced ?_ (Store.lookup_set leftAccepted)
            (Store.lookup_set rightAccepted),
          rfl⟩
      intro entry same
      cases same
      exact ownItem

/-- An owner's deletion leaves nothing under the key. -/
theorem delete_of_owned
    {session : Session V}
    (owned : session.store.Owned owner)
    (key : Key) :
    ∃ store,
      (session.delete key (owner key)).1 = session.withStore store ∧
        ∀ other,
          store.lookup other =
            if key = other then none else session.store.lookup other := by
  cases session.delete_ends key (owner key) with
  | refused existing taken refused ended =>
      exfalso
      rw [owned.refuses_eq] at refused
      cases refused
  | idle free ended =>
      rw [ended]
      refine ⟨session.store, rfl, ?_⟩
      intro other
      split
      · rename_i sameKey
        rw [← sameKey, free]
      · rfl
  | accepted existing taken accepted ended =>
      rw [ended]
      refine ⟨_, rfl, ?_⟩
      intro other
      rw [Store.lookup_withIndex, Store.lookup_drop]

theorem Alike.clear
    (alike : Alike owner clock left right) :
    Alike owner clock
      (left.clear (none : Option (ClearHook V (Reply V)))).1
      (right.clear (none : Option (ClearHook V (Reply V)))).1 := by
  have quiet : ClearHook.Quiet (none : Option (ClearHook V (Reply V))) := by
    intro callback present
    cases present
  apply alike_of_vacant
  · rw [left.clock_clear quiet, alike.leftClock]
  · rw [right.clock_clear quiet, alike.rightClock]
  · exact left.lookup_clear quiet
  · exact right.lookup_clear quiet

end Session

/-- An operation of a script reads the same on alike sessions, and leaves them alike. -/
theorem Action.Scripted.alike
    {owner : Key → Token}
    {clock later : Instant}
    {action : Action V}
    (scripted : action.Scripted owner clock later)
    {left right : Session V}
    (alike : Session.Alike owner clock left right) :
    Session.Alike owner later (action.run left).1 (action.run right).1 ∧
      (action.run left).2.value? = (action.run right).2.value? := by
  cases scripted with
  | set write ownWrite =>
      rcases alike.set ownWrite with ⟨alikeNext, sameReply⟩
      exact ⟨alikeNext, congrArg Reply.value? sameReply⟩
  | get key =>
      refine ⟨alike, ?_⟩
      rw [run, run, Session.perform, Session.perform, alike.leftClock,
        alike.rightClock, alike.leftOwned.get_eq, alike.rightOwned.get_eq,
        alike.living?_eq]
  | delete key =>
      rcases Session.delete_of_owned alike.leftOwned key with
        ⟨leftStore, leftEnded, leftLookup⟩
      rcases Session.delete_of_owned alike.rightOwned key with
        ⟨rightStore, rightEnded, rightLookup⟩
      rw [value?_run_eq_none rfl, value?_run_eq_none rfl, run, run,
        Session.perform, Session.perform, leftEnded, rightEnded]
      refine ⟨alike.replaced ?_ leftLookup rightLookup, rfl⟩
      intro entry same
      cases same
  | clear =>
      rw [run_clear, run_clear]
      exact ⟨alike.clear, rfl⟩
  | advance span =>
      have forward : clock ≤ clock.shift span := by
        rw [Instant.le_def]
        show clock.nanoseconds ≤ clock.nanoseconds + span.nanoseconds
        omega
      refine ⟨?_, rfl⟩
      rw [run, run, Session.perform, Session.perform, alike.leftClock,
        alike.rightClock]
      exact alike.withClock forward
  | setClock instant forward => exact ⟨alike.withClock forward, rfl⟩

/-- A script and a run of it with sweeps read the same on alike sessions. -/
theorem Interspersed.readings_eq
    {script run : List (Action V)}
    (interspersed : Interspersed script run)
    {owner : Key → Token}
    {clock : Instant}
    (scripted : Script owner clock script)
    {left right : Session V}
    (alike : Session.Alike owner clock left right) :
    left.readings script = right.readings run := by
  induction interspersed generalizing clock left right with
  | done => rfl
  | scripted action _ induction =>
      cases scripted with
      | next first others =>
          rcases first.alike alike with ⟨alikeNext, sameReading⟩
          rw [Session.readings_cons, Session.readings_cons, sameReading,
            induction others alikeNext]
  | swept policy callback sweeping _ induction =>
      -- Only one side moves; the script is where it was.
      have sifted := alike.sifted (sweeping.sifts right)
      rw [Session.readings_cons, Action.value?_run_eq_none rfl,
        induction scripted sifted]
      rfl
  | relisted listing _ induction =>
      have sifted := alike.sifted (.relist right listing)
      rw [Session.readings_cons, Action.value?_run_eq_none rfl, Action.run,
        induction scripted sifted]
      rfl

/--
Sweeping is invisible.  A script in which all operations on a key carry one
token and the clock never goes back is run on two stores of whatever valid
settings and epochs, in whatever order their tables list their keys, each time
with sweeps by readers put in at other places.  Then both runs answer each read
of the script, and they answer it alike.
-/
theorem sweeping_invisible
    (owner : Key → Token)
    (left right : StoreSettings)
    (leftValid : left.validate = .ok ())
    (rightValid : right.validate = .ok ())
    (leftEpoch rightEpoch clock : Instant)
    (leftListing rightListing : Listing)
    (script leftRun rightRun : List (Action V))
    (scripted : Script owner clock script)
    (leftInterspersed : Interspersed script leftRun)
    (rightInterspersed : Interspersed script rightRun) :
    ∃ leftStore rightStore : Store V,
      Store.ofSettings left leftEpoch = .ok leftStore ∧
        Store.ofSettings right rightEpoch = .ok rightStore ∧
          Session.readings ⟨leftStore, clock, leftListing⟩ leftRun =
            Session.readings ⟨rightStore, clock, rightListing⟩ rightRun ∧
          (Session.readings ⟨leftStore, clock, leftListing⟩ leftRun).length =
            script.countP Action.isGet := by
  refine
    ⟨_, _, Store.ofSettings_of_valid leftValid leftEpoch,
      Store.ofSettings_of_valid rightValid rightEpoch, ?_⟩
  let leftOpened : Session V :=
    { store := Store.empty left.shards
        (Calendar.ofWidth leftEpoch left.bucketWidth)
        (left.validate_eq_ok_iff.mp leftValid).1
      clock := clock
      listing := leftListing }
  let rightOpened : Session V :=
    { store := Store.empty right.shards
        (Calendar.ofWidth rightEpoch right.bucketWidth)
        (right.validate_eq_ok_iff.mp rightValid).1
      clock := clock
      listing := rightListing }
  have leftVacant : ∀ key, leftOpened.store.lookup key = none :=
    Store.lookup_empty left.shards _ (left.validate_eq_ok_iff.mp leftValid).1
  have rightVacant : ∀ key, rightOpened.store.lookup key = none :=
    Store.lookup_empty right.shards _
      (right.validate_eq_ok_iff.mp rightValid).1
  have leftSame :
      leftOpened.readings script = leftOpened.readings leftRun :=
    leftInterspersed.readings_eq scripted
      (Session.alike_of_vacant owner rfl rfl leftVacant leftVacant)
  have rightSame :
      leftOpened.readings script = rightOpened.readings rightRun :=
    rightInterspersed.readings_eq scripted
      (Session.alike_of_vacant owner rfl rfl leftVacant rightVacant)
  refine ⟨leftSame.symm.trans rightSame, ?_⟩
  exact
    (congrArg List.length leftSame.symm).trans
      (leftOpened.length_readings script)

/-- The owners of odd keys bring the token one; those of even keys bring none. -/
def parityOwner (key : Key) : Token :=
  key % 2

/-- Entries that expire, and reads of them before and after they do. -/
def readingScript : List (Action Nat) :=
  [.perform (.set ⟨1, 1, 10, .ending ⟨8⟩⟩),
    .perform (.set ⟨2, 0, 20, .unlimited⟩),
    .perform (.get 1 1),
    .perform (.advance ⟨30⟩),
    .perform (.get 1 1),
    .perform (.delete 1 1),
    .perform (.get 2 0),
    .clear none,
    .perform (.setClock ⟨40⟩),
    .perform (.get 2 0)]

/-- A sweep whose policy looks at the evicted key and sweeps in turn. -/
def curiousCleanup : Action Nat :=
  .cleanup
    (fun _ key =>
      [.perform (.deadline key), .cleanup (fun _ _ => []) none])
    none

theorem script_readingScript :
    Script parityOwner ⟨0⟩ readingScript := by
  refine .next (.set _ rfl) (.next (.set _ rfl) (.next (.get 1) ?_))
  refine .next (.advance ⟨30⟩) (.next (.get 1) (.next (.delete 1) ?_))
  refine .next (.get 2) (.next .clear (.next (.setClock ⟨40⟩ ?_) ?_))
  · decide
  · exact .next (.get 2) (.done _)

theorem sweeping_curiousCleanup :
    curiousCleanup.Sweeping Command.reads := by
  have looks (key : Key) :
      (Action.perform (.deadline key) : Action Nat).Sweeping
        Command.reads :=
    .perform _ rfl
  have silent :
      (Action.cleanup (fun _ _ => []) none : Action Nat).Sweeping
        Command.reads :=
    .cleanup _ _ (by simp) (by simp)
  exact .cleanup _ _ (by simp [looks, silent]) (by simp)

theorem interspersed_self (script : List (Action V)) :
    Interspersed script script := by
  induction script with
  | nil => exact .done
  | cons action rest induction => exact .scripted action induction

/-- A script with a sweep after so many of its operations. -/
theorem interspersed_insert
    {policy : Nat → Key → List (Action V)}
    {callback : Option (Nat → Item V → List (Action V))}
    (sweeping : (Action.cleanup policy callback).Sweeping Command.reads)
    (script : List (Action V))
    (count : Nat) :
    Interspersed script
      (script.take count ++
        .cleanup policy callback :: script.drop count) := by
  induction count generalizing script with
  | zero => exact .swept policy callback sweeping (interspersed_self script)
  | succ count induction =>
      cases script with
      | nil => exact .swept policy callback sweeping .done
      | cons action rest => exact .scripted action (induction rest)

theorem sweeping_invisible_readingScript :
    (StoreSettings.mk 1 ⟨5⟩).validate = .ok () ∧
      (StoreSettings.mk 3 ⟨10⟩).validate = .ok () ∧
      Script parityOwner ⟨0⟩ readingScript ∧
      Interspersed readingScript
        (readingScript.take 4 ++ curiousCleanup :: readingScript.drop 4) ∧
      Interspersed readingScript
        (readingScript.take 9 ++ curiousCleanup :: readingScript.drop 9) ∧
      ∃ leftStore rightStore : Store Nat,
        Store.ofSettings ⟨1, ⟨5⟩⟩ ⟨0⟩ = .ok leftStore ∧
          Store.ofSettings ⟨3, ⟨10⟩⟩ ⟨3⟩ = .ok rightStore ∧
            Session.readings ⟨leftStore, ⟨0⟩, .ascending⟩
                (readingScript.take 4 ++
                  curiousCleanup :: readingScript.drop 4) =
              [some 10, none, some 20, none] ∧
            Session.readings ⟨rightStore, ⟨0⟩, .ascending⟩
                (readingScript.take 9 ++
                  curiousCleanup :: readingScript.drop 9) =
              [some 10, none, some 20, none] := by
  have leftValid : (StoreSettings.mk 1 ⟨5⟩).validate = .ok () := by decide
  have rightValid : (StoreSettings.mk 3 ⟨10⟩).validate = .ok () := by decide
  have leftSwept :
      Interspersed readingScript
        (readingScript.take 4 ++ curiousCleanup :: readingScript.drop 4) :=
    interspersed_insert sweeping_curiousCleanup readingScript _
  have rightSwept :
      Interspersed readingScript
        (readingScript.take 9 ++ curiousCleanup :: readingScript.drop 9) :=
    interspersed_insert sweeping_curiousCleanup readingScript _
  have read :
      Session.readings
          ⟨Store.empty 1 (Calendar.ofWidth ⟨0⟩ ⟨5⟩) (by decide), ⟨0⟩,
            .ascending⟩
          (readingScript.take 4 ++ curiousCleanup :: readingScript.drop 4) =
        [some 10, none, some 20, none] := by
    decide +kernel
  rcases sweeping_invisible parityOwner ⟨1, ⟨5⟩⟩ ⟨3, ⟨10⟩⟩ leftValid
      rightValid ⟨0⟩ ⟨3⟩ ⟨0⟩ .ascending .ascending readingScript _ _
      script_readingScript leftSwept rightSwept with
    ⟨leftStore, rightStore, leftMade, rightMade, alike, _⟩
  have opened :
      leftStore =
        Store.empty 1 (Calendar.ofWidth ⟨0⟩ ⟨5⟩) (by decide) :=
    Store.eq_empty_of_ofSettings leftValid leftMade
  rw [← opened] at read
  exact
    ⟨leftValid, rightValid, script_readingScript, leftSwept, rightSwept,
      leftStore, rightStore, leftMade, rightMade, read,
      alike.symm.trans read⟩

end TtlStore
