import TtlStore.Proofs.Store.Writing
import TtlStore.Session.Perform

/-!
# What becomes of a write

A write whose deadline is not representable fails; otherwise it is refused or
accepted by the entry under its key.  A set, an update and a deletion each come
to one of a few ends, and each end says what was the case before and what came
of it.
-/

namespace TtlStore

variable {V : Type}

/-- The item of a request has the request's key, token and value. -/
theorem Write.item_eq
    {write : Write V}
    {now : Instant}
    {item : Item V}
    (made : write.item now = .ok item) :
    item = ⟨write.key, write.token, write.value, item.deadline⟩ := by
  rw [Write.item] at made
  split at made
  · cases made
    rfl
  · cases made
    rfl
  · rw [Item.expiringAfter] at made
    cases later : now.later _ with
    | error error =>
        rw [later] at made
        cases made
    | ok deadline =>
        rw [later] at made
        cases made
        rfl

theorem Write.key_item
    {write : Write V}
    {now : Instant}
    {item : Item V}
    (made : write.item now = .ok item) :
    item.key = write.key :=
  congrArg Item.key (Write.item_eq made)

theorem Write.token_item
    {write : Write V}
    {now : Instant}
    {item : Item V}
    (made : write.item now = .ok item) :
    item.token = write.token :=
  congrArg Item.token (Write.item_eq made)

namespace Session

/-- The ends of a set. -/
inductive SetEnds (session : Session V) (write : Write V) : Prop where
  | failed
      (error : TimeError)
      (failed : write.item session.clock = .error error)
      (ended : session.set write = (session, .failed error))
  | refused
      (item : Item V)
      (made : write.item session.clock = .ok item)
      (refused : session.store.refuses item.key item.token = true)
      (ended : session.set write = (session, .refused .set item.key))
  | accepted
      (item : Item V)
      (made : write.item session.clock = .ok item)
      (accepted : session.store.refuses item.key item.token = false)
      (ended :
        session.set write =
          (session.withStore (session.store.set item), .done))

theorem set_ends (session : Session V) (write : Write V) :
    session.SetEnds write := by
  cases made : write.item session.clock with
  | error error => exact .failed error made (by rw [set, made])
  | ok item =>
      cases verdict : session.store.refuses item.key item.token with
      | true =>
          apply SetEnds.refused item made verdict
          rw [set, made]
          exact if_pos verdict
      | false =>
          apply SetEnds.accepted item made verdict
          rw [set, made]
          exact if_neg (Bool.eq_false_iff.mp verdict)

/-- The ends of an update; a free key accepts it but has nothing to replace. -/
inductive UpdateEnds (session : Session V) (write : Write V) : Prop where
  | failed
      (error : TimeError)
      (failed : write.item session.clock = .error error)
      (ended : session.update write = (session, .failed error))
  | refused
      (item : Item V)
      (existing : Entry V)
      (made : write.item session.clock = .ok item)
      (taken : session.store.lookup item.key = some existing)
      (refused : session.store.refuses item.key item.token = true)
      (ended : session.update write = (session, .refused .update item.key))
  | idle
      (item : Item V)
      (made : write.item session.clock = .ok item)
      (free : session.store.lookup item.key = none)
      (ended : session.update write = (session, .replaced none))
  | accepted
      (item : Item V)
      (existing : Entry V)
      (made : write.item session.clock = .ok item)
      (taken : session.store.lookup item.key = some existing)
      (accepted : session.store.refuses item.key item.token = false)
      (ended :
        session.update write =
          (session.withStore (session.store.set item),
            .replaced (some existing.value)))

theorem update_ends (session : Session V) (write : Write V) :
    session.UpdateEnds write := by
  cases made : write.item session.clock with
  | error error => exact .failed error made (by rw [update, made])
  | ok item =>
      cases found : session.store.lookup item.key with
      | none =>
          have accepted := Store.refuses_of_none found item.token
          apply UpdateEnds.idle item made found
          simp only [update, made, accepted, Bool.false_eq_true, if_false,
            Store.update_of_none found]
          rfl
      | some existing =>
          cases verdict : session.store.refuses item.key item.token with
          | true =>
              apply UpdateEnds.refused item existing made found verdict
              rw [update, made]
              exact if_pos verdict
          | false =>
              apply UpdateEnds.accepted item existing made found verdict
              simp only [update, made, verdict, Bool.false_eq_true, if_false,
                Store.update_of_some found verdict]

/-- The ends of a deletion; a free key accepts it but has nothing to hand out. -/
inductive DeleteEnds
    (session : Session V)
    (key : Key)
    (token : Token) :
    Prop where
  | refused
      (existing : Entry V)
      (taken : session.store.lookup key = some existing)
      (refused : session.store.refuses key token = true)
      (ended : session.delete key token = (session, .refused .delete key))
  | idle
      (free : session.store.lookup key = none)
      (ended : session.delete key token = (session, .deleted none))
  | accepted
      (existing : Entry V)
      (taken : session.store.lookup key = some existing)
      (accepted : session.store.refuses key token = false)
      (ended :
        session.delete key token =
          (session.withStore
              ((session.store.drop key).withIndex
                (session.store.index.remove key existing.deadline)),
            .deleted (some (existing.token, existing.value))))

theorem delete_ends (session : Session V) (key : Key) (token : Token) :
    session.DeleteEnds key token := by
  cases found : session.store.lookup key with
  | none =>
      have accepted := Store.refuses_of_none found token
      apply DeleteEnds.idle found
      simp only [delete, accepted, Bool.false_eq_true, if_false,
        Store.delete_of_none found]
      rfl
  | some existing =>
      cases verdict : session.store.refuses key token with
      | true =>
          apply DeleteEnds.refused existing found verdict
          rw [delete]
          exact if_pos verdict
      | false =>
          apply DeleteEnds.accepted existing found verdict
          simp only [delete, verdict, Bool.false_eq_true, if_false,
            Store.delete_of_some found verdict]

end Session

end TtlStore
