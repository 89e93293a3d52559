/-!
# Keys and conflict tokens

A user's key arrives as two 64-bit words: the key that picks the place of an
item, and a conflict token that tells two user keys with the same first word
apart.  The token zero stands for "not checked".
-/

namespace TtlStore

/-- The word under which an item is stored. -/
abbrev Key := UInt64

/-- The word that identifies the owner of a stored item. -/
abbrev Token := UInt64

namespace Token

/-- A read is answered if it is unchecked or brings the stored token. -/
def answersRead (stored probe : Token) : Bool :=
  probe == 0 || probe == stored

/-- A write is accepted if either side is unchecked or both tokens agree. -/
def acceptsWrite (stored incoming : Token) : Bool :=
  incoming == 0 || stored == 0 || incoming == stored

end Token

end TtlStore
