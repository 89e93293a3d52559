import TtlStore.Proofs.Session.Completion
import TtlStore.Proofs.Session.Writing

/-!
# Isolation by tokens

An entry with a checked token belongs to whoever brings that token.  A get, a
set, an update or a deletion under its key that brings another checked token is
an intrusion: it learns nothing and does nothing.  As long as nobody brings the
owner's token or none at all, and nothing is swept or cleared, the entry stays
what it is, so that intrusions may be left out of a run without anyone else
being able to tell: all other replies and the store in the end are the same.
-/

namespace TtlStore

variable {V : Type}

/-- The token is checked, and is not the owner's. -/
structure Token.Foreign (owner token : Token) : Prop where
  checked : token ≠ 0
  different : token ≠ owner

/-! ## One store -/

namespace Store

/-- Operations that bring the token find nothing under the key and change nothing. -/
structure ClosedTo (store : Store V) (key : Key) (token : Token) : Prop where
  get : ∀ now, store.get key token now = none
  set :
    ∀ item : Item V, item.key = key → item.token = token →
      store.set item = store
  update :
    ∀ item : Item V, item.key = key → item.token = token →
      store.update item = (store, none)
  delete : store.delete key token = (store, none)

variable {store : Store V} {key : Key} {entry : Entry V} {token : Token}

/-- The owner of an entry refuses writes that bring a foreign token. -/
theorem refuses_of_foreign
    (stored : store.lookup key = some entry)
    (owned : entry.token ≠ 0)
    (foreign : Token.Foreign entry.token token) :
    store.refuses key token = true := by
  rw [refuses_of_some stored, Token.acceptsWrite]
  simp [foreign.checked, foreign.different, owned]

/-- The owner of an entry does not answer reads that bring a foreign token. -/
theorem recognised?_of_foreign
    (stored : store.lookup key = some entry)
    (foreign : Token.Foreign entry.token token) :
    store.recognised? key token = none := by
  have unanswered : Token.answersRead entry.token token = false := by
    simp [Token.answersRead, foreign.checked, foreign.different]
  rw [recognised?, stored, Option.filter_some]
  exact if_neg (Bool.eq_false_iff.mp unanswered)

/-- An entry is closed to all foreign tokens. -/
theorem closedTo_of_foreign
    (stored : store.lookup key = some entry)
    (owned : entry.token ≠ 0)
    (foreign : Token.Foreign entry.token token) :
    store.ClosedTo key token where
  get := by
    intro now
    rw [Store.get, recognised?_of_foreign stored foreign]
  set := by
    rintro item rfl rfl
    exact set_of_refused (refuses_of_foreign stored owned foreign)
  update := by
    rintro item rfl rfl
    exact update_of_refused (refuses_of_foreign stored owned foreign)
  delete := delete_of_refused (refuses_of_foreign stored owned foreign)

end Store

/-! ## Commands -/

namespace Command

/-- The command is a get, a set, an update or a deletion that brings a foreign token to a key. -/
inductive Intrudes (key : Key) (owner : Token) : Command V → Prop where
  | get
      (token : Token)
      (foreign : Token.Foreign owner token) :
      Intrudes key owner (.get key token)
  | set
      (write : Write V)
      (sameKey : write.key = key)
      (foreign : Token.Foreign owner write.token) :
      Intrudes key owner (.set write)
  | update
      (write : Write V)
      (sameKey : write.key = key)
      (foreign : Token.Foreign owner write.token) :
      Intrudes key owner (.update write)
  | delete
      (token : Token)
      (foreign : Token.Foreign owner token) :
      Intrudes key owner (.delete key token)

/-- The command is on another key, sets clock or listing, or asks about the store. -/
def elsewhere (key : Key) : Command V → Bool
  | .set write => write.key != key
  | .update write => write.key != key
  | .get other _ => other != key
  | .delete other _ => other != key
  | .deadline other => other != key
  | .advance _ => true
  | .setClock _ => true
  | .relist _ => true
  | .ask _ => true
  | _ => false

/--
The replies that tell an intruder nothing.  A write whose deadline is not
representable fails before the store is asked.
-/
inductive Rebuffed (clock : Instant) : Command V → Reply V → Prop where
  | get (key : Key) (token : Token) :
      Rebuffed clock (.get key token) (.value none)
  | set
      (write : Write V)
      (item : Item V)
      (made : write.item clock = .ok item) :
      Rebuffed clock (.set write) (.refused .set write.key)
  | setFailed
      (write : Write V)
      (error : TimeError)
      (failed : write.item clock = .error error) :
      Rebuffed clock (.set write) (.failed error)
  | update
      (write : Write V)
      (item : Item V)
      (made : write.item clock = .ok item) :
      Rebuffed clock (.update write) (.refused .update write.key)
  | updateFailed
      (write : Write V)
      (error : TimeError)
      (failed : write.item clock = .error error) :
      Rebuffed clock (.update write) (.failed error)
  | delete (key : Key) (token : Token) :
      Rebuffed clock (.delete key token) (.refused .delete key)

theorem Intrudes.elsewhere_eq_false
    {key : Key}
    {owner : Token}
    {command : Command V}
    (intrudes : command.Intrudes key owner) :
    command.elsewhere key = false := by
  cases intrudes <;> simp_all [elsewhere]

end Command

/-- Everything is done elsewhere than under the key, or is an intrusion there. -/
def Guarded
    (key : Key)
    (owner : Token)
    (commands : List (Command V)) :
    Prop :=
  ∀ command ∈ commands,
    command.Intrudes key owner ∨ command.elsewhere key = true

/-- Of the replies to commands, those to what was done elsewhere than under a key. -/
def repliesElsewhere
    (key : Key)
    (commands : List (Command V))
    (replies : List (Reply V)) :
    List (Reply V) :=
  ((commands.zip replies).filter (·.1.elsewhere key)).map (·.2)

namespace Session

variable {session : Session V} {key : Key} {entry : Entry V}

/-- An intrusion changes nothing and is rebuffed. -/
theorem perform_of_intrudes
    (stored : session.store.lookup key = some entry)
    (owned : entry.token ≠ 0)
    {command : Command V}
    (intrudes : command.Intrudes key entry.token) :
    ∃ reply,
      session.perform command = (session, reply) ∧
        command.Rebuffed session.clock reply := by
  cases intrudes with
  | get token foreign =>
      have closed := Store.closedTo_of_foreign stored owned foreign
      refine ⟨_, ?_, .get key token⟩
      rw [perform, closed.get]
  | set write sameKey foreign =>
      subst sameKey
      have refused := Store.refuses_of_foreign stored owned foreign
      cases session.set_ends write with
      | failed error failed ended =>
          exact ⟨_, ended, .setFailed write error failed⟩
      | refused item made _ ended =>
          rw [Write.key_item made] at ended
          exact ⟨_, ended, .set write item made⟩
      | accepted item made accepted ended =>
          rw [Write.key_item made, Write.token_item made, refused] at accepted
          cases accepted
  | update write sameKey foreign =>
      subst sameKey
      have refused := Store.refuses_of_foreign stored owned foreign
      cases session.update_ends write with
      | failed error failed ended =>
          exact ⟨_, ended, .updateFailed write error failed⟩
      | refused item existing made _ _ ended =>
          rw [Write.key_item made] at ended
          exact ⟨_, ended, .update write item made⟩
      | idle item made free ended =>
          rw [Write.key_item made, stored] at free
          cases free
      | accepted item existing made _ accepted ended =>
          rw [Write.key_item made, Write.token_item made, refused] at accepted
          cases accepted
  | delete token foreign =>
      have refused := Store.refuses_of_foreign stored owned foreign
      refine ⟨_, ?_, .delete key token⟩
      rw [perform, delete, if_pos refused]

/-- What is done elsewhere leaves the entry under a key alone. -/
theorem lookup_perform_of_elsewhere
    (session : Session V)
    {command : Command V}
    (elsewhere : command.elsewhere key = true) :
    (session.perform command).1.store.lookup key =
      session.store.lookup key := by
  cases command with
  | set write =>
      have different : write.key ≠ key := bne_iff_ne.mp elsewhere
      rw [perform]
      cases session.set_ends write with
      | failed _ _ ended => rw [ended]
      | refused _ _ _ ended => rw [ended]
      | accepted item made _ ended =>
          rw [← Write.key_item made] at different
          rw [ended]
          exact session.store.lookup_set_of_ne different
  | update write =>
      have different : write.key ≠ key := bne_iff_ne.mp elsewhere
      rw [perform]
      cases session.update_ends write with
      | failed _ _ ended => rw [ended]
      | refused _ _ _ _ _ ended => rw [ended]
      | idle _ _ _ ended => rw [ended]
      | accepted item _ made _ _ ended =>
          rw [← Write.key_item made] at different
          rw [ended]
          exact session.store.lookup_set_of_ne different
  | delete other token =>
      have different : other ≠ key := bne_iff_ne.mp elsewhere
      rw [perform, delete]
      split
      · rfl
      · exact session.store.lookup_delete_of_ne different token
  | get => rfl
  | deadline => rfl
  | advance => rfl
  | setClock => rfl
  | relist => rfl
  | ask => rfl
  | setAll => cases elsewhere
  | evict => cases elsewhere
  | indexAdd => cases elsewhere
  | indexMove => cases elsewhere
  | indexRemove => cases elsewhere

/-! ## Runs -/

/-- Carry out commands one after another. -/
def performAll (session : Session V) (commands : List (Command V)) :
    Session V × List (Reply V) :=
  Action.runAll (commands.map Action.perform) session

theorem performAll_cons
    (session : Session V)
    (command : Command V)
    (rest : List (Command V)) :
    session.performAll (command :: rest) =
      (((session.perform command).1.performAll rest).1,
        (session.perform command).2 ::
          ((session.perform command).1.performAll rest).2) := by
  rw [performAll, List.map_cons, Action.runAll_cons, Action.run]
  rfl

theorem performAll_append
    (session : Session V)
    (earlier later : List (Command V)) :
    session.performAll (earlier ++ later) =
      (((session.performAll earlier).1.performAll later).1,
        (session.performAll earlier).2 ++
          ((session.performAll earlier).1.performAll later).2) := by
  induction earlier generalizing session with
  | nil => rfl
  | cons command rest induction =>
      rw [List.cons_append, performAll_cons, performAll_cons, induction,
        List.cons_append]

/-- Every command is replied to. -/
theorem length_performAll
    (session : Session V)
    (commands : List (Command V)) :
    (session.performAll commands).2.length = commands.length := by
  induction commands generalizing session with
  | nil => rfl
  | cons command rest induction =>
      rw [performAll_cons, List.length_cons, List.length_cons, induction]

/-- Intrusions and what is done elsewhere leave the owner's entry alone. -/
theorem lookup_performAll
    (stored : session.store.lookup key = some entry)
    (owned : entry.token ≠ 0)
    {commands : List (Command V)}
    (guarded : Guarded key entry.token commands) :
    (session.performAll commands).1.store.lookup key = some entry := by
  induction commands generalizing session with
  | nil => exact stored
  | cons command rest induction =>
      rcases List.forall_mem_cons.mp guarded with ⟨first, others⟩
      rw [performAll_cons]
      apply induction _ others
      rcases first with intrudes | elsewhere
      · rcases perform_of_intrudes stored owned intrudes with
          ⟨reply, performed, _⟩
        rw [performed]
        exact stored
      · rw [session.lookup_perform_of_elsewhere elsewhere]
        exact stored

/-- Without the intrusions a run ends in the same session, with the other replies. -/
theorem performAll_filter
    (stored : session.store.lookup key = some entry)
    (owned : entry.token ≠ 0)
    {commands : List (Command V)}
    (guarded : Guarded key entry.token commands) :
    session.performAll (commands.filter (·.elsewhere key)) =
      ((session.performAll commands).1,
        repliesElsewhere key commands (session.performAll commands).2) := by
  induction commands generalizing session with
  | nil => rfl
  | cons command rest induction =>
      rcases List.forall_mem_cons.mp guarded with ⟨first, others⟩
      rw [performAll_cons, repliesElsewhere, List.zip_cons_cons]
      rcases first with intrudes | elsewhere
      · rcases perform_of_intrudes stored owned intrudes with
          ⟨reply, performed, _⟩
        have dropped := intrudes.elsewhere_eq_false
        rw [List.filter_cons_of_neg (by simp [dropped]),
          List.filter_cons_of_neg (by simp [dropped]), performed,
          induction stored others]
        rfl
      · have storedNext :
            (session.perform command).1.store.lookup key = some entry := by
          rw [session.lookup_perform_of_elsewhere elsewhere]
          exact stored
        rw [List.filter_cons_of_pos (by simp [elsewhere]),
          List.filter_cons_of_pos (by simp [elsewhere]), performAll_cons,
          induction storedNext others]
        rfl

end Session

/--
Tokens isolate.  In any session in which an entry is stored under a key with a
checked token, carry out commands that are done elsewhere, or that bring other
checked tokens to this key.  Then the entry stays what it is; whenever one of
the latter is carried out the store is closed to its token, so that nothing is
found and nothing is changed; and the session in the end and all other replies
are those of the same commands without them.
-/
theorem tokens_isolate
    (session : Session V)
    (key : Key)
    (entry : Entry V)
    (stored : session.store.lookup key = some entry)
    (owned : entry.token ≠ 0)
    (commands : List (Command V))
    (guarded : Guarded key entry.token commands) :
    let whole := session.performAll commands
    let others := session.performAll (commands.filter (·.elsewhere key))
    whole.1 = others.1 ∧
      repliesElsewhere key commands whole.2 = others.2 ∧
      whole.2.length = commands.length ∧
      whole.1.store.lookup key = some entry ∧
      ∀ earlier command later,
        commands = earlier ++ command :: later →
          command.Intrudes key entry.token →
            let before := (session.performAll earlier).1
            (before.perform command).1 = before ∧
              (∃ reply,
                whole.2[earlier.length]? = some reply ∧
                  command.Rebuffed before.clock reply) ∧
              ∀ token, Token.Foreign entry.token token →
                before.store.ClosedTo key token := by
  intro whole others
  have removed := Session.performAll_filter stored owned guarded
  refine
    ⟨(congrArg Prod.fst removed).symm, (congrArg Prod.snd removed).symm,
      session.length_performAll commands,
      Session.lookup_performAll stored owned guarded, ?_⟩
  intro earlier command later split intrudes before
  subst split
  have guardedEarlier : Guarded key entry.token earlier :=
    fun other member => guarded other (List.mem_append_left _ member)
  have storedBefore := Session.lookup_performAll stored owned guardedEarlier
  rcases Session.perform_of_intrudes storedBefore owned intrudes with
    ⟨reply, performed, rebuffed⟩
  refine ⟨?_, ⟨reply, ?_, rebuffed⟩, ?_⟩
  · rw [performed]
  · have place := session.length_performAll earlier
    simp only [whole]
    rw [Session.performAll_append, ← place,
      List.getElem?_append_right (Nat.le_refl _), Nat.sub_self,
      Session.performAll_cons, performed]
    rfl
  · intro token foreign
    exact Store.closedTo_of_foreign storedBefore owned foreign

/-- A session with an entry of token 7 under key 1. -/
def ownedSession : Session Nat :=
  (({ store := Store.empty 2 (Calendar.ofWidth ⟨0⟩ ⟨10⟩) Nat.two_pos
      clock := ⟨0⟩ } : Session Nat).perform
    (.set ⟨1, 7, 10, .ending ⟨5⟩⟩)).1

/-- Intrusions under key 1 among what is done under key 3, in the same shard and bucket. -/
def intrudingCommands : List (Command Nat) :=
  [.set ⟨3, 9, 30, .ending ⟨6⟩⟩, .get 1 8, .set ⟨1, 8, 11, .ending ⟨50⟩⟩,
    .update ⟨3, 9, 31, .lasting ⟨4⟩⟩, .delete 1 9, .advance ⟨20⟩, .get 3 9,
    .update ⟨1, 9, 12, .lasting Duration.limit⟩, .deadline 3, .delete 3 9,
    .update ⟨1, 8, 13, .unlimited⟩]

theorem guarded_intrudingCommands : Guarded 1 7 intrudingCommands := by
  have eight : Token.Foreign 7 8 := ⟨by decide, by decide⟩
  have nine : Token.Foreign 7 9 := ⟨by decide, by decide⟩
  simp only [Guarded, intrudingCommands, List.forall_mem_cons]
  exact
    ⟨Or.inr rfl, Or.inl (.get 8 eight), Or.inl (.set _ rfl eight), Or.inr rfl,
      Or.inl (.delete 9 nine), Or.inr rfl, Or.inr rfl,
      Or.inl (.update _ rfl nine), Or.inr rfl, Or.inr rfl,
      Or.inl (.update _ rfl eight), by simp⟩

theorem tokens_isolate_intrudingCommands :
    let whole := ownedSession.performAll intrudingCommands
    let others :=
      ownedSession.performAll (intrudingCommands.filter (·.elsewhere 1))
    ownedSession.store.lookup 1 = some ⟨7, 10, some ⟨5⟩⟩ ∧
      Guarded 1 7 intrudingCommands ∧
      whole.1 = others.1 ∧
      repliesElsewhere 1 intrudingCommands whole.2 = others.2 ∧
      whole.1.store.lookup 1 = some ⟨7, 10, some ⟨5⟩⟩ ∧
      others.2.length = 6 ∧
      others.1.store.index.candidates .ascending = [⟨1, 1, 7⟩] := by
  intro whole others
  have stored : ownedSession.store.lookup 1 = some ⟨7, 10, some ⟨5⟩⟩ := by
    decide +kernel
  rcases tokens_isolate ownedSession 1 ⟨7, 10, some ⟨5⟩⟩ stored (by decide)
      intrudingCommands guarded_intrudingCommands with
    ⟨sameSession, sameReplies, _, kept, _⟩
  exact
    ⟨stored, guarded_intrudingCommands, sameSession, sameReplies, kept,
      by decide +kernel, by decide +kernel⟩

end TtlStore
