/-!
# Decimal numerals of 64-bit words

A numeral is one or more decimal digits, with at most one plus sign in front.
It is read from the left, and the first character at which it fails decides
the error: a character that is no digit, or a digit with which the value no
longer fits 64 bits.
-/

namespace TtlStore

/-- The ways in which a text fails to be a numeral. -/
inductive NumeralError where
  | empty
  | invalidDigit
  | tooLarge
deriving DecidableEq

/-- The wording of a numeral's error. -/
def NumeralError.message : NumeralError → String
  | .empty => "cannot parse integer from empty string"
  | .invalidDigit => "invalid digit found in string"
  | .tooLarge => "number too large to fit in target type"

namespace Numeral

/-- The value after one more digit. -/
def extend (value : Nat) (digit : Char) : Except NumeralError Nat :=
  if digit.isDigit then
    let extended := 10 * value + (digit.toNat - '0'.toNat)
    if extended < UInt64.size then .ok extended else .error .tooLarge
  else
    .error .invalidDigit

/-- The value after a run of digits. -/
def readDigits (value : Nat) : List Char → Except NumeralError Nat
  | [] => .ok value
  | digit :: rest =>
      match extend value digit with
      | .ok extended => readDigits extended rest
      | .error error => .error error

/-- The value of a numeral given by its characters. -/
def readChars : List Char → Except NumeralError Nat
  | [] => .error .empty
  | ['+'] => .error .invalidDigit
  | '+' :: digits => readDigits 0 digits
  | digits => readDigits 0 digits

/-- The word that a text denotes. -/
def read (text : String) : Except NumeralError UInt64 :=
  (readChars text.toList).map UInt64.ofNat

end Numeral

end TtlStore
