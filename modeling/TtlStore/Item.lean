import TtlStore.Time.Basic
import TtlStore.Token

/-!
# Items and stored entries

An item is what a caller hands in and what collaborators are handed on
eviction.  An entry is what the store keeps under a key.  A deadline belongs to
the past once the clock is strictly beyond it, so an entry is still readable at
its deadline.
-/

namespace TtlStore

/-- A value with its key, its token and, if it expires, its deadline. -/
structure Item (V : Type) where
  key : Key
  token : Token
  value : V
  deadline : Option Instant
deriving DecidableEq

/-- What the store keeps under a key. -/
structure Entry (V : Type) where
  token : Token
  value : V
  deadline : Option Instant
deriving DecidableEq

/-- A deadline has passed if there is one and the clock is beyond it. -/
def deadlinePassed (deadline : Option Instant) (now : Instant) : Bool :=
  match deadline with
  | none => false
  | some instant => decide (instant < now)

namespace Item

variable {V : Type}

/-- An item that never expires. -/
def lasting (key : Key) (token : Token) (value : V) : Item V where
  key := key
  token := token
  value := value
  deadline := none

/-- The item with the given deadline in place of its own. -/
def expiringAt (item : Item V) (deadline : Instant) : Item V :=
  { item with deadline := some deadline }

/-- The item with a deadline the given time after now. -/
def expiringAfter
    (item : Item V)
    (now : Instant)
    (span : Duration) :
    Except TimeError (Item V) :=
  (now.later span).map item.expiringAt

/-- What the store keeps of an item. -/
def entry (item : Item V) : Entry V where
  token := item.token
  value := item.value
  deadline := item.deadline

end Item

/-- The item that an entry is handed out as: its deadline is dropped. -/
def Entry.handedOut {V : Type} (entry : Entry V) (key : Key) : Item V :=
  Item.lasting key entry.token entry.value

end TtlStore
