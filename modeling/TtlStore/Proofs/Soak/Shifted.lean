import TtlStore.Proofs.Soak.Turns

/-!
# Runs at another time

Two stores that hold the same under some keys, but with deadlines put off by a fixed
span in one of them, answer alike when the clock of that one is ahead by the same
span.  So a worker that draws the same numbers beside both goes on counting the
same, reads its clock as often, and leaves the stores as they were related,
whatever else they hold and whatever their shards and indexes are.
-/

namespace TtlStore

/-- The instant that lies a span of time later, or earlier if the span is negative. -/
def Instant.moved (instant : Instant) (span : Int) : Instant :=
  ⟨instant.nanoseconds + span⟩

/-- The same entry with its deadline put off. -/
def Entry.postponed {V : Type} (entry : Entry V) (span : Int) : Entry V :=
  { entry with deadline := entry.deadline.map (·.moved span) }

/-- The same item with its deadline put off. -/
def Item.postponed {V : Type} (item : Item V) (span : Int) : Item V :=
  { item with deadline := item.deadline.map (·.moved span) }

/-- A deadline that is put off passes as much later. -/
theorem deadlinePassed_moved
    (deadline : Option Instant)
    (now : Instant)
    (span : Int) :
    deadlinePassed (deadline.map (·.moved span)) (now.moved span) =
      deadlinePassed deadline now := by
  cases deadline with
  | none => rfl
  | some instant =>
      show decide (instant.moved span < now.moved span) = decide (instant < now)
      rw [decide_eq_decide, Instant.lt_def, Instant.lt_def]
      exact Int.add_lt_add_iff_right span

namespace Store

variable {V : Type} {keys : Key → Prop} {span : Int} {left right : Store V}

/-- Under some keys the first store holds what the second holds, with deadlines put off. -/
def ShiftedOn
    (keys : Key → Prop)
    (span : Int)
    (left right : Store V) :
    Prop :=
  ∀ key, keys key →
    left.lookup key = (right.lookup key).map (·.postponed span)

/-- What an item is stored as, whether it is accepted or refused. -/
theorem lookup_set_eq
    (store : Store V)
    (item : Item V)
    (key : Key) :
    (store.set item).lookup key =
      if item.key = key ∧ store.refuses item.key item.token = false then
        some item.entry
      else
        store.lookup key := by
  cases verdict : store.refuses item.key item.token with
  | false =>
      rw [lookup_set verdict]
      simp
  | true =>
      rw [set_of_refused verdict]
      simp

namespace ShiftedOn

variable {key : Key}

theorem refuses_eq
    (shifted : left.ShiftedOn keys span right)
    (own : keys key)
    (token : Token) :
    left.refuses key token = right.refuses key token := by
  rw [refuses, refuses, shifted key own]
  cases right.lookup key <;> rfl

theorem isSome_recognised?_eq
    (shifted : left.ShiftedOn keys span right)
    (own : keys key)
    (token : Token) :
    (left.recognised? key token).isSome =
      (right.recognised? key token).isSome := by
  rw [recognised?, recognised?, shifted key own]
  cases right.lookup key with
  | none => rfl
  | some entry =>
      simp only [Option.map_some, Option.filter, Entry.postponed]
      split <;> rfl

/-- Reads are answered alike if the clock is ahead as much as the deadlines are. -/
theorem get_eq
    (shifted : left.ShiftedOn keys span right)
    (own : keys key)
    (token : Token)
    (now : Instant) :
    left.get key token (now.moved span) = right.get key token now := by
  rw [get, get, recognised?, recognised?, shifted key own]
  cases right.lookup key with
  | none => rfl
  | some entry =>
      simp only [Option.map_some, Option.filter, Entry.postponed]
      by_cases answered : Token.answersRead entry.token token = true
      · simp only [answered, if_true, deadlinePassed_moved]
      · simp only [answered, Bool.false_eq_true, if_false]

theorem set
    (shifted : left.ShiftedOn keys span right)
    {item : Item V}
    (own : keys item.key) :
    (left.set (item.postponed span)).ShiftedOn keys span
      (right.set item) := by
  intro key ownKey
  have sameVerdict := shifted.refuses_eq own item.token
  rw [lookup_set_eq, lookup_set_eq, shifted key ownKey]
  simp only [Item.postponed, sameVerdict]
  split <;> rfl

/-- Updates replace alike. -/
theorem update
    (shifted : left.ShiftedOn keys span right)
    {item : Item V}
    (own : keys item.key) :
    (left.update (item.postponed span)).2 = (right.update item).2 ∧
      (left.update (item.postponed span)).1.ShiftedOn keys span
        (right.update item).1 := by
  have sameVerdict := shifted.refuses_eq own item.token
  have held := shifted item.key own
  cases stored : right.lookup item.key with
  | none =>
      rw [stored] at held
      have free : left.lookup (item.postponed span).key = none := held
      rw [update_of_none stored, update_of_none free]
      exact ⟨rfl, shifted⟩
  | some entry =>
      rw [stored] at held
      have taken :
          left.lookup (item.postponed span).key =
            some (entry.postponed span) :=
        held
      cases verdict : right.refuses item.key item.token with
      | false =>
          have accepted :
              left.refuses (item.postponed span).key
                (item.postponed span).token = false :=
            sameVerdict.trans verdict
          rw [update_of_some stored verdict, update_of_some taken accepted]
          exact ⟨rfl, shifted.set own⟩
      | true =>
          have refused :
              left.refuses (item.postponed span).key
                (item.postponed span).token = true :=
            sameVerdict.trans verdict
          rw [update_of_refused verdict, update_of_refused refused]
          exact ⟨rfl, shifted⟩

/-- Deletions take away alike. -/
theorem delete
    (shifted : left.ShiftedOn keys span right)
    (own : keys key)
    (token : Token) :
    (left.delete key token).2 = (right.delete key token).2 ∧
      (left.delete key token).1.ShiftedOn keys span
        (right.delete key token).1 := by
  have sameVerdict := shifted.refuses_eq own token
  have held := shifted key own
  cases stored : right.lookup key with
  | none =>
      rw [stored] at held
      rw [delete_of_none stored, delete_of_none held]
      exact ⟨rfl, shifted⟩
  | some entry =>
      rw [stored] at held
      cases verdict : right.refuses key token with
      | false =>
          rw [delete_of_some stored verdict,
            delete_of_some held (sameVerdict.trans verdict)]
          refine ⟨rfl, ?_⟩
          intro other ownOther
          rw [lookup_withIndex, lookup_withIndex, lookup_drop, lookup_drop,
            shifted other ownOther]
          split <;> rfl
      | true =>
          rw [delete_of_refused verdict,
            delete_of_refused (sameVerdict.trans verdict)]
          exact ⟨rfl, shifted⟩

end ShiftedOn

end Store

namespace Soak

/-- The same clock put ahead. -/
def MeteredClock.moved (clock : MeteredClock) (span : Int) : MeteredClock :=
  { clock with reading := clock.reading.moved span }

theorem MeteredClock.advance_moved (clock : MeteredClock) (span : Int) :
    (clock.moved span).advance = clock.advance.moved span := by
  rcases clock with ⟨⟨reading⟩, step, readsLeft⟩
  simp only [advance, moved, Instant.moved, Instant.shift,
    MeteredClock.mk.injEq, Instant.mk.injEq, and_true]
  omega

/-- What a worker writes at a later time is what it writes now, put off. -/
theorem Worker.written_moved
    (worker : Worker)
    (key : Key)
    (now : Instant)
    (span : Int) :
    worker.written key (now.moved span) =
      (worker.written key now).postponed span := by
  have sameDeadline :
      (now.moved span).shift worker.ttl =
        (now.shift worker.ttl).moved span := by
    simp only [Instant.moved, Instant.shift, Instant.mk.injEq]
    omega
  rw [written, sameDeadline]
  rfl

namespace Progress

/--
Two standings of a worker, of which the first is ahead in time: it has drawn and
counted the same in both, may read its clock as often, and has left the same
under its keys.
-/
structure Shifted
    (keys : Key → Prop)
    (span : Int)
    (left right : Progress) :
    Prop where
  entries : left.store.ShiftedOn keys span right.store
  clock_eq : left.clock = right.clock.moved span
  random_eq : left.random = right.random
  tally_eq : left.tally = right.tally

namespace Shifted

variable
  {keys : Key → Prop}
  {span : Int}
  {left right : Progress}

theorem readsLeft_eq (shifted : Shifted keys span left right) :
    left.clock.readsLeft = right.clock.readsLeft := by
  rw [shifted.clock_eq]
  rfl

theorem advance_eq (shifted : Shifted keys span left right) :
    left.clock.advance = right.clock.advance.moved span := by
  rw [shifted.clock_eq]
  exact right.clock.advance_moved span

theorem drawn (shifted : Shifted keys span left right) :
    Shifted keys span left.drawn right.drawn where
  entries := shifted.entries
  clock_eq := shifted.clock_eq
  random_eq := congrArg (fun random => draw (draw random)) shifted.random_eq
  tally_eq := shifted.tally_eq

theorem read
    (shifted : Shifted keys span left right)
    {key : Key}
    (own : keys key)
    (token : Token) :
    Shifted keys span (left.read key token) (right.read key token) where
  entries := shifted.entries
  clock_eq := by
    have sameFound := shifted.entries.isSome_recognised?_eq own token
    simp only [Progress.read, sameFound]
    split
    · exact shifted.advance_eq
    · exact shifted.clock_eq
  random_eq := shifted.random_eq
  tally_eq := by
    have sameReading := congrArg MeteredClock.reading shifted.clock_eq
    have sameValue := shifted.entries.get_eq own token right.clock.reading
    have sameRead :
        left.store.get key token left.clock.reading =
          right.store.get key token right.clock.reading := by
      rw [sameReading]
      exact sameValue
    simp only [Progress.read, sameRead, shifted.tally_eq]

theorem set
    (shifted : Shifted keys span left right)
    {item : Item String}
    (own : keys item.key) :
    Shifted keys span (left.set (item.postponed span))
      (right.set item) where
  entries := shifted.entries.set own
  clock_eq := shifted.advance_eq
  random_eq := shifted.random_eq
  tally_eq := by simp only [Progress.set, shifted.tally_eq]

theorem update
    (shifted : Shifted keys span left right)
    {item : Item String}
    (own : keys item.key) :
    Shifted keys span (left.update (item.postponed span))
      (right.update item) where
  entries := (shifted.entries.update own).2
  clock_eq := shifted.advance_eq
  random_eq := shifted.random_eq
  tally_eq := by
    simp only [Progress.update, (shifted.entries.update own).1,
      shifted.tally_eq]

theorem delete
    (shifted : Shifted keys span left right)
    {key : Key}
    (own : keys key)
    (token : Token) :
    Shifted keys span (left.delete key token)
      (right.delete key token) where
  entries := (shifted.entries.delete own token).2
  clock_eq := shifted.clock_eq
  random_eq := shifted.random_eq
  tally_eq := by
    simp only [Progress.delete, (shifted.entries.delete own token).1,
      shifted.tally_eq]

end Shifted

end Progress

end Soak

end TtlStore
