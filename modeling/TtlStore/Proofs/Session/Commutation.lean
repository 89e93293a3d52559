import TtlStore.Proofs.Session.Isolation
import TtlStore.Proofs.Session.Sifting
import TtlStore.Proofs.Store.Revision

/-!
# Commands on different keys

A get, a set, an update, a deletion and a look at a deadline are on one key.
What such a command replies and what it makes of the key is decided by the entry
under the key and the clock; nothing else of the store is looked at, and the
store is otherwise left as it was.  So commands on different keys commute, even
if their keys share a shard and a bucket that comes and goes with their notes.

As long as the commands on each key stay in their order, a whole series of them
may therefore be put in any order.
-/

namespace TtlStore

variable {V : Type}

/-! ## One command -/

/-- The key that a command is on, if it is on one and leaves the clock alone. -/
def Command.key? : Command V → Option Key
  | .set write => some write.key
  | .update write => some write.key
  | .get key _ => some key
  | .delete key _ => some key
  | .deadline key => some key
  | _ => none

/-- Leave a store as it is, or make a key have a given entry or none. -/
def Store.amend
    (store : Store V)
    (key : Key)
    (revision : Option (Option (Entry V))) :
    Store V :=
  match revision with
  | none => store
  | some entry => store.revise key entry

namespace Store

/-- What is found under a key decides whether a token is refused there. -/
theorem refuses_eq_any (store : Store V) (key : Key) (token : Token) :
    store.refuses key token =
      (store.lookup key).any fun entry =>
        !Token.acceptsWrite entry.token token := by
  rw [refuses]
  cases store.lookup key <;> rfl

theorem lookup_amend_of_ne
    (store : Store V)
    {key other : Key}
    (different : key ≠ other)
    (revision : Option (Option (Entry V))) :
    (store.amend key revision).lookup other = store.lookup other := by
  cases revision with
  | none => rfl
  | some entry => rw [amend, lookup_revise, if_neg different]

/-- Different keys are amended independently. -/
theorem amend_comm
    (store : Store V)
    {key other : Key}
    (different : key ≠ other)
    (revision otherRevision : Option (Option (Entry V))) :
    (store.amend key revision).amend other otherRevision =
      (store.amend other otherRevision).amend key revision := by
  cases revision with
  | none => rfl
  | some entry =>
      cases otherRevision with
      | none => rfl
      | some otherEntry => exact store.revise_comm different entry otherEntry

end Store

namespace Session

/-- What is found under a key decides what a command on the key replies and what it amends. -/
def Locally
    (command : Command V)
    (key : Key)
    (clock : Instant)
    (found : Option (Entry V)) :
    Prop :=
  ∃ revision reply, ∀ (store : Store V) (listing : Listing),
    store.lookup key = found →
      (Session.mk store clock listing).perform command =
        (Session.mk (store.amend key revision) clock listing, reply)

theorem locally_set
    (write : Write V)
    (clock : Instant)
    (found : Option (Entry V)) :
    Locally (.set write) write.key clock found := by
  cases made : write.item clock with
  | error error =>
      refine ⟨none, .failed error, ?_⟩
      intro store listing _
      rw [perform, set, made]
      rfl
  | ok item =>
      rw [Locally, ← Write.key_item made]
      cases verdict :
          found.any fun entry => !Token.acceptsWrite entry.token item.token with
      | true =>
          refine ⟨none, .refused .set item.key, ?_⟩
          rintro store listing rfl
          rw [← Store.refuses_eq_any] at verdict
          simp only [perform, set, made, verdict, if_true]
          rfl
      | false =>
          refine ⟨some (some item.entry), .done, ?_⟩
          rintro store listing rfl
          rw [← Store.refuses_eq_any] at verdict
          simp only [perform, set, made, verdict, Bool.false_eq_true, if_false,
            Store.set_eq_revise verdict]
          rfl

theorem locally_update
    (write : Write V)
    (clock : Instant)
    (found : Option (Entry V)) :
    Locally (.update write) write.key clock found := by
  cases made : write.item clock with
  | error error =>
      refine ⟨none, .failed error, ?_⟩
      intro store listing _
      rw [perform, update, made]
      rfl
  | ok item =>
      rw [Locally, ← Write.key_item made]
      cases found with
      | none =>
          refine ⟨none, .replaced none, ?_⟩
          intro store listing free
          have accepted := Store.refuses_of_none free item.token
          simp only [perform, update, made, accepted, Bool.false_eq_true,
            if_false, Store.update_of_none free]
          rfl
      | some existing =>
          cases verdict : !Token.acceptsWrite existing.token item.token with
          | true =>
              refine ⟨none, .refused .update item.key, ?_⟩
              intro store listing stored
              rw [← Store.refuses_of_some stored] at verdict
              simp only [perform, update, made, verdict, if_true]
              rfl
          | false =>
              refine
                ⟨some (some item.entry), .replaced (some existing.value), ?_⟩
              intro store listing stored
              rw [← Store.refuses_of_some stored] at verdict
              simp only [perform, update, made, verdict, Bool.false_eq_true,
                if_false, Store.update_of_some stored verdict,
                Store.set_eq_revise verdict]
              rfl

theorem locally_get
    (key : Key)
    (token : Token)
    (clock : Instant)
    (found : Option (Entry V)) :
    Locally (.get key token) key clock found := by
  let living :=
    found.filter fun entry => !deadlinePassed entry.deadline clock
  let answered :=
    living.filter fun entry => Token.answersRead entry.token token
  refine ⟨none, .value (answered.map (·.value)), ?_⟩
  rintro store listing rfl
  rw [perform, Store.get_eq_living?]
  rfl

theorem locally_delete
    (key : Key)
    (token : Token)
    (clock : Instant)
    (found : Option (Entry V)) :
    Locally (.delete key token) key clock found := by
  cases found with
  | none =>
      refine ⟨none, .deleted none, ?_⟩
      intro store listing free
      have accepted := Store.refuses_of_none free token
      simp only [perform, delete, accepted, Bool.false_eq_true, if_false,
        Store.delete_of_none free]
      rfl
  | some existing =>
      cases verdict : !Token.acceptsWrite existing.token token with
      | true =>
          refine ⟨none, .refused .delete key, ?_⟩
          intro store listing stored
          rw [← Store.refuses_of_some stored] at verdict
          simp only [perform, delete, verdict, if_true]
          rfl
      | false =>
          refine
            ⟨some none, .deleted (some (existing.token, existing.value)), ?_⟩
          intro store listing stored
          rw [← Store.refuses_of_some stored] at verdict
          simp only [perform, delete, verdict, Bool.false_eq_true, if_false,
            Store.delete_eq_revise stored verdict]
          rfl

/-- A command on a key is decided by what is found there, and changes nothing else. -/
theorem locally_of_key
    {command : Command V}
    {key : Key}
    (onKey : command.key? = some key)
    (clock : Instant)
    (found : Option (Entry V)) :
    Locally command key clock found := by
  cases command with
  | set write =>
      cases onKey
      exact locally_set write clock found
  | update write =>
      cases onKey
      exact locally_update write clock found
  | get other token =>
      cases onKey
      exact locally_get key token clock found
  | delete other token =>
      cases onKey
      exact locally_delete key token clock found
  | deadline other =>
      cases onKey
      refine ⟨none, .deadline (found.bind (·.deadline)), ?_⟩
      rintro store listing rfl
      rfl
  | _ => cases onKey

/-- Commands on different keys commute, with the same replies. -/
theorem perform_comm
    (session : Session V)
    {first second : Command V}
    {key other : Key}
    (onKey : first.key? = some key)
    (onOther : second.key? = some other)
    (different : key ≠ other) :
    let firstDone := session.perform first
    let secondDone := session.perform second
    firstDone.1.perform second =
        ((secondDone.1.perform first).1, secondDone.2) ∧
      (secondDone.1.perform first).2 = firstDone.2 := by
  rcases session with ⟨store, clock, listing⟩
  rcases locally_of_key onKey clock (store.lookup key) with
    ⟨revision, reply, performed⟩
  rcases locally_of_key onOther clock (store.lookup other) with
    ⟨otherRevision, otherReply, otherPerformed⟩
  have untouched :=
    store.lookup_amend_of_ne (Ne.symm different) otherRevision
  have otherUntouched := store.lookup_amend_of_ne different revision
  intro firstDone secondDone
  simp only [firstDone, secondDone, performed store listing rfl,
    otherPerformed store listing rfl, performed _ listing untouched,
    otherPerformed _ listing otherUntouched, store.amend_comm different,
    and_self]

end Session

/-! ## Series of commands -/

/-- The command is on a given key. -/
def Command.isOn (key : Key) (command : Command V) : Bool :=
  command.key? == some key

theorem Command.isOn_eq_true_iff (key : Key) (command : Command V) :
    command.isOn key = true ↔ command.key? = some key :=
  beq_iff_eq

theorem Command.eq_of_isOn
    {key other : Key}
    {command : Command V}
    (onKey : command.key? = some key)
    (onOther : command.isOn other = true) :
    key = other :=
  Option.some.inj
    (onKey.symm.trans ((command.isOn_eq_true_iff other).mp onOther))

/-- The command is on a key, but not on the given one. -/
def Command.IsApart (key : Key) (command : Command V) : Prop :=
  ∃ other, command.key? = some other ∧ key ≠ other

theorem Command.IsApart.not_isOn
    {key : Key}
    {command : Command V}
    (apart : command.IsApart key) :
    ¬ command.isOn key = true := by
  rcases apart with ⟨other, onOther, different⟩
  exact fun onKey => different (eq_of_isOn onOther onKey).symm

/-- Commands on keys in two orders, in both of which those on one key come in the same order. -/
structure Reordered (left right : List (Command V)) : Prop where
  onKeys : ∀ command ∈ left, command.key?.isSome = true
  onKeysToo : ∀ command ∈ right, command.key?.isSome = true
  inOrder :
    ∀ key, left.filter (Command.isOn key) = right.filter (Command.isOn key)

namespace Reordered

variable {command : Command V} {rest left right : List (Command V)}

theorem eq_nil (reordered : Reordered [] right) : right = [] := by
  cases right with
  | nil => rfl
  | cons first others =>
      rcases Option.isSome_iff_exists.mp
          (reordered.onKeysToo first List.mem_cons_self) with
        ⟨key, onKey⟩
      have onlyOne := reordered.inOrder key
      rw [List.filter_cons_of_pos
        ((first.isOn_eq_true_iff key).mpr onKey)] at onlyOne
      cases onlyOne

/--
The first command of one order stands in the other after commands on other keys,
and without it the rest of the one is still the same as the other.
-/
theorem exists_of_cons (reordered : Reordered (command :: rest) right) :
    ∃ key before after,
      command.key? = some key ∧
        right = before ++ command :: after ∧
          (∀ earlier ∈ before, earlier.IsApart key) ∧
            Reordered rest (before ++ after) := by
  rcases List.forall_mem_cons.mp reordered.onKeys with ⟨first, onKeysRest⟩
  rcases Option.isSome_iff_exists.mp first with ⟨key, onKey⟩
  have isFirst := (command.isOn_eq_true_iff key).mpr onKey
  have sameOrder := reordered.inOrder key
  rw [List.filter_cons_of_pos isFirst] at sameOrder
  rcases List.filter_eq_cons_iff.mp sameOrder.symm with
    ⟨before, after, rfl, elsewhere, _, _⟩
  refine ⟨key, before, after, onKey, rfl, ?_, ?_⟩
  · intro earlier member
    rcases Option.isSome_iff_exists.mp
        (reordered.onKeysToo earlier (List.mem_append_left _ member)) with
      ⟨other, onOther⟩
    refine ⟨other, onOther, ?_⟩
    rintro rfl
    exact elsewhere earlier member
      ((earlier.isOn_eq_true_iff key).mpr onOther)
  · constructor
    · exact onKeysRest
    · intro other member
      apply reordered.onKeysToo
      rw [List.mem_append, List.mem_cons]
      rcases List.mem_append.mp member with early | late
      · exact Or.inl early
      · exact Or.inr (Or.inr late)
    · intro other
      have whole := reordered.inOrder other
      rw [List.filter_append] at whole ⊢
      by_cases onOther : command.isOn other = true
      · -- Before it there is nothing on its key.
        cases Command.eq_of_isOn onKey onOther
        have noneBefore : before.filter (Command.isOn key) = [] :=
          List.filter_eq_nil_iff.mpr elsewhere
        rw [List.filter_cons_of_pos onOther, List.filter_cons_of_pos onOther,
          noneBefore] at whole
        rw [noneBefore]
        exact List.tail_eq_of_cons_eq whole
      · rw [List.filter_cons_of_neg onOther,
          List.filter_cons_of_neg onOther] at whole
        exact whole

end Reordered

namespace Session

/-- Commands carried out one after another, with the replies to them. -/
def transcript (session : Session V) (commands : List (Command V)) :
    List (Command V × Reply V) :=
  commands.zip (session.performAll commands).2

theorem transcript_cons
    (session : Session V)
    (command : Command V)
    (rest : List (Command V)) :
    session.transcript (command :: rest) =
      (command, (session.perform command).2) ::
        (session.perform command).1.transcript rest := by
  rw [transcript, performAll_cons, List.zip_cons_cons, transcript]

theorem transcript_append
    (session : Session V)
    (earlier later : List (Command V)) :
    session.transcript (earlier ++ later) =
      session.transcript earlier ++
        (session.performAll earlier).1.transcript later := by
  have sameLength := session.length_performAll earlier
  rw [transcript, performAll_append, List.zip_append sameLength.symm,
    transcript, transcript]

theorem filter_transcript_of_apart
    (session : Session V)
    {key : Key}
    {commands : List (Command V)}
    (apart : ∀ command ∈ commands, command.IsApart key) :
    (session.transcript commands).filter (·.1.isOn key) = [] := by
  rw [List.filter_eq_nil_iff]
  rintro ⟨command, reply⟩ member
  exact (apart command (List.of_mem_zip member).1).not_isOn

/-- A command may be carried out before others on other keys rather than after them. -/
theorem performAll_comm
    {command : Command V}
    {key : Key}
    (onKey : command.key? = some key)
    {others : List (Command V)}
    (apart : ∀ other ∈ others, other.IsApart key)
    (session : Session V) :
    let done := session.perform command
    let othersDone := session.performAll others
    done.1.performAll others =
        ((othersDone.1.perform command).1, othersDone.2) ∧
      (othersDone.1.perform command).2 = done.2 := by
  induction others generalizing session with
  | nil => exact ⟨rfl, rfl⟩
  | cons first rest induction =>
      rcases List.forall_mem_cons.mp apart with
        ⟨⟨otherKey, onOther, different⟩, apartRest⟩
      rcases session.perform_comm onKey onOther different with
        ⟨swapped, sameReply⟩
      rcases induction apartRest (session.perform first).1 with
        ⟨performed, replied⟩
      intro done othersDone
      simp only [done, othersDone, performAll_cons, swapped, performed,
        replied, sameReply, and_self]

end Session

/--
Commands that are put in another order, those on each key still in theirs, come
to the same session, and those on each key get the same replies.
-/
theorem Reordered.performAll_eq
    {left right : List (Command V)}
    (reordered : Reordered left right)
    (session : Session V) :
    (session.performAll left).1 = (session.performAll right).1 ∧
      ∀ key,
        (session.transcript left).filter (·.1.isOn key) =
          (session.transcript right).filter (·.1.isOn key) := by
  induction left generalizing right session with
  | nil =>
      rw [reordered.eq_nil]
      exact ⟨rfl, fun _ => rfl⟩
  | cons command rest induction =>
      rcases reordered.exists_of_cons with
        ⟨key, before, after, onKey, rfl, apart, reorderedRest⟩
      let done := session.perform command
      rcases Session.performAll_comm onKey apart session with
        ⟨moved, sameReply⟩
      rcases induction reorderedRest done.1 with ⟨sameSession, sameReplies⟩
      constructor
      · rw [Session.performAll_cons, sameSession, Session.performAll_append,
          Session.performAll_append, Session.performAll_cons, moved]
      · intro other
        have sameRest := sameReplies other
        have sameBefore :
            done.1.transcript before = session.transcript before := by
          rw [Session.transcript, moved, Session.transcript]
        rw [Session.transcript_append, List.filter_append, sameBefore,
          moved] at sameRest
        rw [Session.transcript_cons, Session.transcript_append,
          Session.transcript_cons, List.filter_append, sameReply]
        by_cases onOther : command.isOn other = true
        · cases Command.eq_of_isOn onKey onOther
          have noneBefore := session.filter_transcript_of_apart apart
          rw [noneBefore, List.nil_append] at sameRest
          rw [List.filter_cons_of_pos (by exact onOther),
            List.filter_cons_of_pos (by exact onOther), noneBefore, sameRest]
          rfl
        · rw [List.filter_cons_of_neg (by exact onOther),
            List.filter_cons_of_neg (by exact onOther)]
          exact sameRest

/--
Commands on different keys commute.  In any session, whether or not their keys
share a shard or a bucket, two of them come to the same session with the same
replies in either order.  So do series of them in which those on each key come
in the same order: the session in the end is the same, and for every key the
commands on it get the same replies.
-/
theorem keys_commute (session : Session V) :
    (∀ first second : Command V, ∀ key other,
      first.key? = some key → second.key? = some other → key ≠ other →
        let firstDone := session.perform first
        let secondDone := session.perform second
        firstDone.1.perform second =
            ((secondDone.1.perform first).1, secondDone.2) ∧
          (secondDone.1.perform first).2 = firstDone.2) ∧
      ∀ left right : List (Command V), Reordered left right →
        (session.performAll left).1 = (session.performAll right).1 ∧
          ∀ key,
            (session.transcript left).filter (·.1.isOn key) =
              (session.transcript right).filter (·.1.isOn key) := by
  constructor
  · intro first second key other onKey onOther different
    exact session.perform_comm onKey onOther different
  · intro left right reordered
    exact reordered.performAll_eq session

/-- Commands on two keys of one shard, whose bucket comes and goes with them. -/
def mingledCommands : List (Command Nat) :=
  [.delete 1 7, .set ⟨3, 8, 30, .ending ⟨6⟩⟩, .set ⟨1, 7, 11, .lasting ⟨4⟩⟩,
    .delete 3 8, .get 1 7, .deadline 3]

/-- The same commands, those on key 3 before those on key 1. -/
def partedCommands : List (Command Nat) :=
  [.set ⟨3, 8, 30, .ending ⟨6⟩⟩, .delete 3 8, .deadline 3, .delete 1 7,
    .set ⟨1, 7, 11, .lasting ⟨4⟩⟩, .get 1 7]

theorem reordered_mingledCommands :
    Reordered mingledCommands partedCommands where
  onKeys := by simp [mingledCommands, Command.key?]
  onKeysToo := by simp [partedCommands, Command.key?]
  inOrder := by
    intro key
    by_cases one : 1 = key
    · subst one
      simp [mingledCommands, partedCommands, Command.isOn, Command.key?]
    · by_cases three : 3 = key
      · subst three
        simp [mingledCommands, partedCommands, Command.isOn, Command.key?]
      · simp [mingledCommands, partedCommands, Command.isOn, Command.key?,
          one, three]

theorem keys_commute_ownedSession :
    let mingled := ownedSession.performAll mingledCommands
    let parted := ownedSession.performAll partedCommands
    (Command.delete 1 7 : Command Nat).key? = some 1 ∧
      (Command.set ⟨3, 8, 30, .ending ⟨6⟩⟩ : Command Nat).key? = some 3 ∧
      ((ownedSession.perform (.delete 1 7)).1.perform
            (.set ⟨3, 8, 30, .ending ⟨6⟩⟩)).1 =
          ((ownedSession.perform (.set ⟨3, 8, 30, .ending ⟨6⟩⟩)).1.perform
            (.delete 1 7)).1 ∧
      Reordered mingledCommands partedCommands ∧
      mingled.1 = parted.1 ∧
      mingled.1.store.lookup 1 = some ⟨7, 11, some ⟨4⟩⟩ ∧
      mingled.1.store.index.candidates .ascending = [⟨1, 1, 7⟩] ∧
      (ownedSession.transcript mingledCommands).filter (·.1.isOn 1) =
        (ownedSession.transcript partedCommands).filter (·.1.isOn 1) := by
  intro mingled parted
  rcases keys_commute ownedSession with ⟨inPairs, inSeries⟩
  rcases inPairs (.delete 1 7) (.set ⟨3, 8, 30, .ending ⟨6⟩⟩) 1 3 rfl rfl
      (by decide) with
    ⟨swapped, _⟩
  have sameEnd := congrArg Prod.fst swapped
  rcases inSeries mingledCommands partedCommands reordered_mingledCommands with
    ⟨sameSession, sameReplies⟩
  exact
    ⟨rfl, rfl, sameEnd, reordered_mingledCommands,
      sameSession, by decide +kernel, by decide +kernel, sameReplies 1⟩

end TtlStore
