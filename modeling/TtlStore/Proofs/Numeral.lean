import TtlStore.Numeral

/-!
# What numerals denote

A numeral is a run of decimal digits, after a plus sign or without one, whose
value is a 64-bit word.  Reading a text gives a word exactly if the text is a
numeral for it; in particular every word is read back from its decimal digits.
-/

namespace TtlStore.Numeral

/-- The text is a run of decimal digits for the word, after a plus sign or without one. -/
def Denotes (text : String) (number : UInt64) : Prop :=
  ∃ digits : List Char,
    digits ≠ [] ∧
      (∀ digit ∈ digits, digit.isDigit = true) ∧
      (text.toList = digits ∨ text.toList = '+' :: digits) ∧
      Nat.ofDigitChars 10 digits 0 = number.toNat

/-! ## Digits -/

theorem extend_eq_ok_iff (value : Nat) (digit : Char) (next : Nat) :
    extend value digit = .ok next ↔
      digit.isDigit = true ∧
        10 * value + (digit.toNat - '0'.toNat) = next ∧
        next < UInt64.size := by
  rw [extend]
  split
  · rename_i isDigit
    dsimp only
    split
    · rename_i fits
      constructor
      · intro extended
        cases extended
        exact ⟨isDigit, rfl, fits⟩
      · rintro ⟨_, rfl, _⟩
        rfl
    · rename_i tooLarge
      constructor
      · intro extended
        cases extended
      · rintro ⟨_, rfl, fits⟩
        exact absurd fits tooLarge
  · rename_i noDigit
    constructor
    · intro extended
      cases extended
    · rintro ⟨isDigit, _⟩
      exact absurd isDigit noDigit

theorem readDigits_cons_eq_ok_iff
    (value : Nat)
    (digit : Char)
    (rest : List Char)
    (number : Nat) :
    readDigits value (digit :: rest) = .ok number ↔
      ∃ next,
        extend value digit = .ok next ∧
          readDigits next rest = .ok number := by
  rw [readDigits]
  cases extend value digit with
  | ok next => simp
  | error error => simp

/-- The value only grows from digit to digit. -/
theorem le_ofDigitChars (digits : List Char) (value : Nat) :
    value ≤ Nat.ofDigitChars 10 digits value := by
  induction digits generalizing value with
  | nil => exact Nat.le_refl _
  | cons digit rest induction =>
      have further := induction (10 * value + (digit.toNat - '0'.toNat))
      rw [Nat.ofDigitChars_cons]
      omega

/-- The value fits after every digit if it does after the last. -/
theorem readDigits_eq_ok_iff
    {value : Nat}
    (fits : value < UInt64.size)
    (digits : List Char)
    (number : Nat) :
    readDigits value digits = .ok number ↔
      (∀ digit ∈ digits, digit.isDigit = true) ∧
        Nat.ofDigitChars 10 digits value = number ∧
        number < UInt64.size := by
  induction digits generalizing value with
  | nil =>
      constructor
      · intro done
        cases done
        exact ⟨by simp, rfl, fits⟩
      · rintro ⟨_, rfl, _⟩
        rfl
  | cons digit rest induction =>
      rw [readDigits_cons_eq_ok_iff, Nat.ofDigitChars_cons,
        List.forall_mem_cons]
      constructor
      · rintro ⟨next, extended, read⟩
        rcases (extend_eq_ok_iff _ _ _).mp extended with
          ⟨isDigit, rfl, nextFits⟩
        rcases (induction nextFits).mp read with ⟨others, total, short⟩
        exact ⟨⟨isDigit, others⟩, total, short⟩
      · rintro ⟨⟨isDigit, others⟩, total, short⟩
        have grows :=
          le_ofDigitChars rest (10 * value + (digit.toNat - '0'.toNat))
        have nextFits :
            10 * value + (digit.toNat - '0'.toNat) < UInt64.size := by
          omega
        exact
          ⟨_, (extend_eq_ok_iff _ _ _).mpr ⟨isDigit, rfl, nextFits⟩,
            (induction nextFits).mpr ⟨others, total, short⟩⟩

/-! ## Signs -/

theorem readChars_plus {digits : List Char} (nonempty : digits ≠ []) :
    readChars ('+' :: digits) = readDigits 0 digits := by
  cases digits with
  | nil => exact absurd rfl nonempty
  | cons digit rest => rfl

theorem readChars_of_ne_plus
    {first : Char}
    (different : first ≠ '+')
    (rest : List Char) :
    readChars (first :: rest) = readDigits 0 (first :: rest) := by
  rw [readChars]
  · intro none
    cases none
  · intro loneSign
    exact different (List.cons.inj loneSign).1
  · intro digits signed
    exact different (List.cons.inj signed).1

/-- A plus sign before digits is passed over, and nothing else is. -/
theorem readChars_eq_ok_iff (characters : List Char) (number : Nat) :
    readChars characters = .ok number ↔
      ∃ digits : List Char,
        digits ≠ [] ∧
          (characters = digits ∨ characters = '+' :: digits) ∧
          readDigits 0 digits = .ok number := by
  constructor
  · intro read
    cases characters with
    | nil => cases read
    | cons first rest =>
        by_cases signed : first = '+'
        · subst signed
          cases rest with
          | nil => cases read
          | cons digit digits =>
              exact
                ⟨digit :: digits, List.cons_ne_nil _ _, Or.inr rfl, read⟩
        · rw [readChars_of_ne_plus signed] at read
          exact ⟨first :: rest, List.cons_ne_nil _ _, Or.inl rfl, read⟩
  · rintro ⟨digits, nonempty, rfl | rfl, read⟩
    · cases characters with
      | nil => exact absurd rfl nonempty
      | cons first rest =>
          have notSigned : first ≠ '+' := by
            rintro rfl
            rw [readDigits_eq_ok_iff (by decide)] at read
            exact absurd (read.1 '+' List.mem_cons_self) (by decide)
          rw [readChars_of_ne_plus notSigned]
          exact read
    · rw [readChars_plus nonempty]
      exact read

/-! ## Numerals -/

/-- Reading a text gives a word exactly if the text is a numeral for it. -/
theorem read_eq_ok_iff (text : String) (number : UInt64) :
    read text = .ok number ↔ Denotes text number := by
  have asNumber :
      read text = .ok number ↔ readChars text.toList = .ok number.toNat := by
    rw [read]
    cases chars : readChars text.toList with
    | error error =>
        constructor
        · intro none
          cases none
        · intro none
          cases none
    | ok value =>
        rcases (readChars_eq_ok_iff _ _).mp chars with ⟨digits, _, _, digitsRead⟩
        have fits :=
          ((readDigits_eq_ok_iff (by decide) _ _).mp digitsRead).2.2
        have unchanged : (UInt64.ofNat value).toNat = value :=
          UInt64.toNat_ofNat_of_lt' fits
        constructor
        · intro read
          cases read
          rw [unchanged]
        · intro read
          cases read
          exact congrArg Except.ok UInt64.ofNat_toNat
  rw [asNumber, readChars_eq_ok_iff, Denotes]
  apply exists_congr
  intro digits
  rw [readDigits_eq_ok_iff (by decide)]
  have fits := number.toNat_lt_size
  constructor
  · rintro ⟨nonempty, written, allDigits, value, _⟩
    exact ⟨nonempty, allDigits, written, value⟩
  · rintro ⟨nonempty, allDigits, written, value⟩
    exact ⟨nonempty, written, allDigits, value, fits⟩

/-- The decimal digits of a word are a numeral for it. -/
theorem denotes_toString (number : UInt64) :
    Denotes (toString number) number := by
  refine
    ⟨Nat.toDigits 10 number.toNat, ?_, ?_, Or.inl Nat.toList_repr,
      Nat.ofDigitChars_ten_toDigits⟩
  · exact List.ne_nil_of_length_pos Nat.length_toDigits_pos
  · intro digit member
    exact Nat.isDigit_of_mem_toDigits (by decide) (by decide) member

end TtlStore.Numeral
