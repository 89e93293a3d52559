import TtlStore.Proofs.Session.Exactness
import TtlStore.Proofs.Session.Sifting
import TtlStore.Proofs.Soak.Finishing
import TtlStore.Proofs.Store.Size

/-!
# The books of soak workers balance

A worker stores every item with the token that belongs to its key and with a
deadline.  So on a store that only workers have written to, no worker is ever
refused, whichever keys it shares with others, and the index notes every entry.

A turn that stores adds an entry unless it overwrites one, and a turn that
deletes takes away the one that it counts.  Nothing else changes the number of
entries, so what was stored is what was deleted, what is left, and what was
overwritten.
-/

namespace TtlStore

/--
A store to which only workers have written: its index is exact, and every entry
has the token of its key and a deadline.
-/
structure Store.Soaked
    (store : Store String)
    (calendar : Calendar) :
    Prop where
  exact : store.Exact calendar []
  owned : store.Owned Soak.tokenOf
  expires :
    ∀ key entry,
      store.lookup key = some entry → entry.deadline.isSome = true

namespace Store.Soaked

variable {store : Store String} {calendar : Calendar}

/-- Storing a worker's item under its key keeps the store as workers leave it. -/
theorem set
    (soaked : store.Soaked calendar)
    {item : Item String}
    (own : item.token = Soak.tokenOf item.key)
    (ends : item.deadline.isSome = true) :
    (store.set item).Soaked calendar := by
  have accepted : store.refuses item.key item.token = false := by
    rw [own]
    exact soaked.owned.refuses_eq item.key
  constructor
  · exact soaked.exact.set accepted
  · refine soaked.owned.replaced ?_ (lookup_set accepted)
    intro entry same
    cases same
    exact own
  · intro key entry stored
    rw [lookup_set accepted] at stored
    split at stored
    · cases stored
      exact ends
    · exact soaked.expires key entry stored

theorem delete
    (soaked : store.Soaked calendar)
    {key : Key}
    {entry : Entry String}
    (stored : store.lookup key = some entry) :
    ((store.drop key).withIndex
      (store.index.remove key entry.deadline)).Soaked calendar := by
  constructor
  · exact soaked.exact.delete stored
  · have dropped :
        ∀ other,
          ((store.drop key).withIndex
              (store.index.remove key entry.deadline)).lookup other =
            if key = other then none else store.lookup other :=
      store.lookup_drop key
    refine soaked.owned.replaced ?_ dropped
    intro entry same
    cases same
  · intro other otherEntry otherStored
    rw [lookup_withIndex, lookup_drop] at otherStored
    split at otherStored
    · cases otherStored
    · exact soaked.expires other otherEntry otherStored

/-- Storing an accepted item adds an entry, unless there is one under its key. -/
theorem size_set
    (soaked : store.Soaked calendar)
    (item : Item String)
    (own : item.token = Soak.tokenOf item.key) :
    (store.set item).size =
      if (store.lookup item.key).isSome then
        store.size
      else
        store.size + 1 := by
  have accepted : store.refuses item.key item.token = false := by
    rw [own]
    exact soaked.owned.refuses_eq item.key
  rcases exists_set_eq accepted with ⟨index, written⟩
  rw [written]
  exact store.size_put item.key item.entry

/-- The index has as many notes as the store has entries. -/
theorem size_eq (soaked : store.Soaked calendar) :
    store.index.size = store.size := by
  have allExpire :
      ∀ stored ∈ store.contents, stored.2.deadline.isSome = true := by
    rintro ⟨key, entry⟩ member
    exact
      soaked.expires key entry
        ((soaked.exact.placed.mem_contents key entry).mp member)
  rw [soaked.exact.size_eq, expiring, List.countP_eq_length.mpr allExpire,
    length_contents]

end Store.Soaked

namespace Soak

/-! ## What operations do to the counts -/

namespace Progress

variable (progress : Progress)

theorem sets_read (key : Key) (token : Token) :
    (progress.read key token).tally.sets = progress.tally.sets := by
  simp only [read]
  split <;> rfl

theorem deletes_read (key : Key) (token : Token) :
    (progress.read key token).tally.deletes = progress.tally.deletes := by
  simp only [read]
  split <;> rfl

end Progress

/-! ## What a turn does -/

namespace Turn

variable (turn : Turn)

/-- The turn was taken as it stands. -/
def Taken : Prop :=
  turn.worker.turn turn.found = .ok turn.left

/-- An entry with another token stood in the way of the operation. -/
def rejected : Bool :=
  match turn.operation with
  | .read =>
      (turn.found.store.lookup turn.key).isSome &&
        (turn.found.store.recognised? turn.key (tokenOf turn.key)).isNone
  | _ => turn.found.store.refuses turn.key (tokenOf turn.key)

/-- The turn stored an item. -/
def stores : Bool :=
  turn.operation == .store

/-- The turn stored an item in place of another. -/
def overwrites : Bool :=
  turn.stores && (turn.found.store.lookup turn.key).isSome

/-- All that a turn can do to the store and to the counts of sets and deletes. -/
inductive Ends : Prop where
  | idle
      (stores_eq : turn.stores = false)
      (store_eq : turn.left.store = turn.found.store)
      (sets_eq : turn.left.tally.sets = turn.found.tally.sets)
      (deletes_eq : turn.left.tally.deletes = turn.found.tally.deletes)
  | stored
      (now : Instant)
      (stores_eq : turn.stores = true)
      (store_eq :
        turn.left.store =
          turn.found.store.set (turn.worker.written turn.key now))
      (sets_eq : turn.left.tally.sets = turn.found.tally.sets + 1)
      (deletes_eq : turn.left.tally.deletes = turn.found.tally.deletes)
  | updated
      (now : Instant)
      (entry : Entry String)
      (present : turn.found.store.lookup turn.key = some entry)
      (stores_eq : turn.stores = false)
      (store_eq :
        turn.left.store =
          turn.found.store.set (turn.worker.written turn.key now))
      (sets_eq : turn.left.tally.sets = turn.found.tally.sets)
      (deletes_eq : turn.left.tally.deletes = turn.found.tally.deletes)
  | deleted
      (entry : Entry String)
      (present : turn.found.store.lookup turn.key = some entry)
      (stores_eq : turn.stores = false)
      (store_eq :
        turn.left.store =
          (turn.found.store.drop turn.key).withIndex
            (turn.found.store.index.remove turn.key entry.deadline))
      (sets_eq : turn.left.tally.sets = turn.found.tally.sets)
      (deletes_eq :
        turn.left.tally.deletes = turn.found.tally.deletes + 1)

variable {turn}

/-- A taken turn ends in one of these ways if no other token stands in its way. -/
theorem Taken.ends
    (taken : turn.Taken)
    (owned : turn.found.store.Owned tokenOf) :
    turn.Ends := by
  let found := turn.found.drawn
  have accepted :
      found.store.refuses turn.key (tokenOf turn.key) = false :=
    owned.refuses_eq turn.key
  have carried :
      turn.worker.carryOut turn.operation turn.key found =
        .ok turn.left :=
    taken
  cases drew : turn.operation with
  | read =>
      rw [drew] at carried
      have sameLeft := Except.ok.inj carried
      have silent : turn.stores = false := by simp [stores, drew]
      refine .idle silent ?_ ?_ ?_
      · rw [← sameLeft]
        rfl
      · rw [← sameLeft]
        exact found.sets_read turn.key _
      · rw [← sameLeft]
        exact found.deletes_read turn.key _
  | store =>
      rw [drew] at carried
      have sameLeft := Worker.eq_of_map_item_eq_ok carried
      have stored : turn.stores = true := by simp [stores, drew]
      refine .stored found.clock.reading stored ?_ ?_ ?_ <;>
        rw [← sameLeft] <;> rfl
  | update =>
      rw [drew] at carried
      let item := turn.worker.written turn.key found.clock.reading
      have sameLeft : found.update item = turn.left :=
        Worker.eq_of_map_item_eq_ok carried
      have itemAccepted : found.store.refuses item.key item.token = false :=
        accepted
      have silent : turn.stores = false := by simp [stores, drew]
      cases stored : found.store.lookup item.key with
      | none =>
          rw [Progress.update_of_none stored] at sameLeft
          refine .idle silent ?_ ?_ ?_ <;> rw [← sameLeft] <;> rfl
      | some entry =>
          rw [Progress.update_of_some stored itemAccepted] at sameLeft
          refine .updated found.clock.reading entry stored silent ?_ ?_ ?_ <;>
            rw [← sameLeft] <;> rfl
  | delete =>
      rw [drew] at carried
      have sameLeft := Except.ok.inj carried
      have silent : turn.stores = false := by simp [stores, drew]
      cases stored : found.store.lookup turn.key with
      | none =>
          rw [Progress.delete_of_none stored] at sameLeft
          refine .idle silent ?_ ?_ ?_ <;> rw [← sameLeft] <;> rfl
      | some entry =>
          rw [Progress.delete_of_some stored accepted] at sameLeft
          refine .deleted entry stored silent ?_ ?_ ?_ <;>
            rw [← sameLeft] <;> rfl

variable {calendar : Calendar}

/-- Whatever turn is taken, the store stays as workers leave it. -/
theorem Taken.soaked
    (taken : turn.Taken)
    (soaked : turn.found.store.Soaked calendar) :
    turn.left.store.Soaked calendar := by
  cases taken.ends soaked.owned with
  | idle _ store_eq => exact store_eq ▸ soaked
  | stored now _ store_eq =>
      rw [store_eq]
      exact soaked.set rfl rfl
  | updated now entry present _ store_eq =>
      rw [store_eq]
      exact soaked.set rfl rfl
  | deleted entry present _ store_eq =>
      rw [store_eq]
      exact soaked.delete present

/-- No other token stands in the way on a store to which only workers have written. -/
theorem rejected_eq_false (owned : turn.found.store.Owned tokenOf) :
    turn.rejected = false := by
  have accepted := owned.refuses_eq turn.key
  cases drew : turn.operation with
  | read =>
      simp only [rejected, drew, Store.recognised?]
      cases stored : turn.found.store.lookup turn.key with
      | none => rfl
      | some entry =>
          have own := owned turn.key entry stored
          simp [Option.filter, Token.answersRead, own]
  | _ => simp only [rejected, drew, accepted]

end Turn

/-! ## The books -/

/--
So much was stored and deleted by turns that led from one store to another: none
of them was rejected, and what was stored is what was deleted, what was added to
the store, and what was overwritten.
-/
structure Books
    (calendar : Calendar)
    (before : Store String)
    (turns : List Turn)
    (sets deletes : Nat)
    (after : Store String) :
    Prop where
  soaked : after.Soaked calendar
  taken : ∀ turn ∈ turns, turn.Taken
  accepted : ∀ turn ∈ turns, turn.rejected = false
  sets_eq : sets = turns.countP Turn.stores
  balance :
    sets + before.size =
      deletes + after.size + turns.countP Turn.overwrites

namespace Books

variable {calendar : Calendar} {before middle after : Store String}

theorem nil (soaked : before.Soaked calendar) :
    Books calendar before [] 0 0 before where
  soaked := soaked
  taken := by simp
  accepted := by simp
  sets_eq := rfl
  balance := rfl

theorem append
    {early late : List Turn}
    {earlySets earlyDeletes lateSets lateDeletes : Nat}
    (left : Books calendar before early earlySets earlyDeletes middle)
    (right : Books calendar middle late lateSets lateDeletes after) :
    Books calendar before (early ++ late) (earlySets + lateSets)
      (earlyDeletes + lateDeletes) after where
  soaked := right.soaked
  taken := List.forall_mem_append.mpr ⟨left.taken, right.taken⟩
  accepted := List.forall_mem_append.mpr ⟨left.accepted, right.accepted⟩
  sets_eq := by
    rw [List.countP_append, left.sets_eq, right.sets_eq]
  balance := by
    have leftBalance := left.balance
    have rightBalance := right.balance
    rw [List.countP_append]
    omega

/-- The books of one turn. -/
theorem turn
    {turn : Turn}
    (taken : turn.Taken)
    (soaked : turn.found.store.Soaked calendar) :
    ∃ sets deletes,
      turn.left.tally.sets = turn.found.tally.sets + sets ∧
        turn.left.tally.deletes = turn.found.tally.deletes + deletes ∧
          Books calendar turn.found.store [turn] sets deletes
            turn.left.store := by
  have books
      {sets deletes : Nat}
      (sets_eq : sets = [turn].countP Turn.stores)
      (balance :
        sets + turn.found.store.size =
          deletes + turn.left.store.size +
            [turn].countP Turn.overwrites) :
      Books calendar turn.found.store [turn] sets deletes
        turn.left.store :=
    { soaked := taken.soaked soaked
      taken := List.forall_mem_singleton.mpr taken
      accepted :=
        List.forall_mem_singleton.mpr
          (Turn.rejected_eq_false soaked.owned)
      sets_eq := sets_eq
      balance := balance }
  have size (now : Instant) :
      (turn.found.store.set (turn.worker.written turn.key now)).size =
        if (turn.found.store.lookup turn.key).isSome then
          turn.found.store.size
        else
          turn.found.store.size + 1 :=
    soaked.size_set (turn.worker.written turn.key now) rfl
  cases taken.ends soaked.owned with
  | idle silent store_eq sets_eq deletes_eq =>
      refine ⟨0, 0, sets_eq, deletes_eq, books ?_ ?_⟩
      · simp [silent]
      · simp [store_eq, Turn.overwrites, silent]
  | stored now stored store_eq sets_eq deletes_eq =>
      refine ⟨1, 0, sets_eq, deletes_eq, books ?_ ?_⟩
      · simp [stored]
      · rw [store_eq, size, List.countP_singleton, Turn.overwrites, stored,
          Bool.true_and]
        split <;> omega
  | updated now entry present silent store_eq sets_eq deletes_eq =>
      refine ⟨0, 0, sets_eq, deletes_eq, books ?_ ?_⟩
      · simp [silent]
      · rw [store_eq, size, present, List.countP_singleton,
          Turn.overwrites, silent]
        rfl
  | deleted entry present silent store_eq sets_eq deletes_eq =>
      have size : (turn.found.store.drop turn.key).size + 1 = _ :=
        Store.size_drop present
      refine ⟨0, 1, sets_eq, deletes_eq, books ?_ ?_⟩
      · simp [silent]
      · rw [store_eq, ← size, List.countP_singleton, Turn.overwrites, silent]
        exact Nat.add_comm 0 _ |>.trans (Nat.add_comm _ 1)

end Books

/-- The books of a worker's run are those of its turns. -/
theorem Worker.Works.books
    {worker : Worker}
    {first last : Progress}
    {turns : List Turn}
    (works : worker.Works first turns last)
    {calendar : Calendar}
    (soaked : first.store.Soaked calendar) :
    ∃ sets deletes,
      last.tally.sets = first.tally.sets + sets ∧
        last.tally.deletes = first.tally.deletes + deletes ∧
          Books calendar first.store turns sets deletes last.store := by
  induction works with
  | stopped progress noReads => exact ⟨0, 0, rfl, rfl, .nil soaked⟩
  | @turn progress next last turns taken later induction =>
      let first : Turn := ⟨worker, progress, next⟩
      have taken : first.Taken := taken
      rcases Books.turn taken soaked with
        ⟨sets, deletes, sets_eq, deletes_eq, books⟩
      rcases induction (taken.soaked soaked) with
        ⟨laterSets, laterDeletes, laterSets_eq, laterDeletes_eq, laterBooks⟩
      refine
        ⟨sets + laterSets, deletes + laterDeletes, ?_, ?_,
          books.append laterBooks⟩
      · rw [laterSets_eq, sets_eq, Nat.add_assoc]
      · rw [laterDeletes_eq, deletes_eq, Nat.add_assoc]

/-- What several workers have counted together. -/
def Tally.together (tallies : List Tally) : Tally :=
  tallies.foldr Tally.add Tally.zero

end Soak

end TtlStore
