import Mathlib.Data.List.Induction
import Mathlib.Data.Nat.Digits.Defs
import TinyImp.Proofs.Token.Pattern

/-!
# Numerals

What digits stand for can be said without reading them from left to right and
without their codes: the last one counts ones, the one before it tens, and so
on, and each counts as many as there are digits below it.  Reading adds up the
same number, however long the row is, and the range of the integers is looked
at only when the number is known.  So a numeral with a sign is read if
and only if its number is in range, and the text of an integer is a numeral
for it.
-/

namespace TinyImp

namespace Integer

/-- The digits.  Each stands for the number of digits in front of it. -/
def digitRow : List Char :=
  ['0', '1', '2', '3', '4', '5', '6', '7', '8', '9']

/-- The number that digits stand for, each by its place. -/
def placeValue (digits : List Char) : Nat :=
  Nat.ofDigits 10 (digits.map digitRow.idxOf).reverse

/-- A row of digits, with or without a sign, and its number. -/
inductive Numeral : List Char → Int → Prop where
  | unsigned {digits : List Char} :
      Pattern.digits.Matches digits → Numeral digits (placeValue digits)
  | positive {digits : List Char} :
      Pattern.digits.Matches digits → Numeral ('+' :: digits) (placeValue digits)
  | negative {digits : List Char} :
      Pattern.digits.Matches digits →
      Numeral ('-' :: digits) (-placeValue digits)

/-- The code of a digit counts from that of the zero as the row does. -/
theorem digitValue_eq_idxOf {digit : Char} (isDigit : digit.isDigit = true) :
    digitValue digit = digitRow.idxOf digit := by
  have inRow : ∀ number : Fin 10,
      digitRow.idxOf (Char.ofNat ('0'.toNat + number)) = number := by
    decide
  obtain ⟨above, below⟩ := Char.isDigit_iff_toNat.1 isDigit
  have last : '9'.toNat = '0'.toNat + 9 := rfl
  have small : digit.toNat - '0'.toNat < 10 := by omega
  have code : '0'.toNat + (digit.toNat - '0'.toNat) = digit.toNat := by omega
  have found := inRow ⟨digit.toNat - '0'.toNat, small⟩
  rw [code, Char.ofNat_toNat] at found
  exact found.symm

theorem decimal_append_digit (digits : List Char) (digit : Char) :
    decimal (digits ++ [digit]) = 10 * decimal digits + digitValue digit :=
  List.foldl_append

theorem placeValue_append_digit (digits : List Char) (digit : Char) :
    placeValue (digits ++ [digit]) =
      10 * placeValue digits + digitRow.idxOf digit := by
  rw [placeValue, List.map_append, List.reverse_append, List.map_singleton,
    List.reverse_singleton, List.singleton_append, Nat.ofDigits_cons,
    Nat.add_comm]
  rfl

/-- Digits that are read from left to right give what they stand for. -/
theorem decimal_eq_placeValue {digits : List Char}
    (all : ∀ digit ∈ digits, digit.isDigit = true) :
    decimal digits = placeValue digits := by
  induction digits using List.reverseRecOn with
  | nil => rfl
  | append_singleton digits digit induction =>
      obtain ⟨front, back⟩ := List.forall_mem_append.1 all
      rw [decimal_append_digit, placeValue_append_digit, induction front,
        digitValue_eq_idxOf (back digit List.mem_cons_self)]

theorem natural?_eq_some_iff {digits : List Char} {number : Nat} :
    natural? digits = some number ↔
      Pattern.digits.Matches digits ∧ number = placeValue digits := by
  rw [natural?]
  by_cases matched : Pattern.digits.Matches digits
  · have accepted : ¬ (digits.isEmpty || !digits.all Char.isDigit) = true := by
      simpa [Pattern.Matches] using matched
    rw [if_neg accepted, Option.some_inj, decimal_eq_placeValue matched.2]
    exact ⟨fun same => ⟨matched, same.symm⟩, fun given => given.2.symm⟩
  · have refused : (digits.isEmpty || !digits.all Char.isDigit) = true := by
      by_contra accepted
      exact matched (by simpa [Pattern.Matches] using accepted)
    rw [if_pos refused]
    simp only [reduceCtorEq, false_iff]
    exact fun given => matched given.1

/-- An integer is read exactly from the numerals for it. -/
theorem read?_eq_some_iff {text : List Char} {value : Integer} :
    read? text = some value ↔ Numeral text value.value := by
  constructor
  · intro success
    unfold read? at success
    split at success
    all_goals
      obtain ⟨number, natural, inRange⟩ := Option.bind_eq_some_iff.1 success
      obtain ⟨matched, rfl⟩ := natural?_eq_some_iff.1 natural
      rw [ofInt?_eq_some_iff.1 inRange]
    · exact .negative matched
    · exact .positive matched
    · exact .unsigned matched
  · intro numeral
    generalize same : value.value = number at numeral
    cases numeral with
    | negative matched | positive matched =>
        rw [read?, natural?_eq_some_iff.2 ⟨matched, rfl⟩, Option.bind_some,
          ofInt?_eq_some_iff]
        exact same
    | unsigned matched =>
        -- A digit is no sign, so a row of digits is read as it is.
        have noMinus : ∀ others, text ≠ '-' :: others := by
          rintro others rfl
          cases matched.2 '-' List.mem_cons_self
        have noPlus : ∀ others, text ≠ '+' :: others := by
          rintro others rfl
          cases matched.2 '+' List.mem_cons_self
        rw [read?, natural?_eq_some_iff.2 ⟨matched, rfl⟩, Option.bind_some,
          ofInt?_eq_some_iff]
        · exact same
        · exact noMinus
        · exact noPlus

theorem digits_toDigits (number : Nat) :
    Pattern.digits.Matches (Nat.toDigits 10 number) := by
  refine ⟨Nat.toDigits_ne_nil, ?_⟩
  intro digit member
  exact Nat.isDigit_of_mem_toDigits (by decide) (by decide) member

theorem placeValue_toDigits (number : Nat) :
    placeValue (Nat.toDigits 10 number) = number := by
  rw [← decimal_eq_placeValue (digits_toDigits number).2,
    Lexeme.decimal_toDigits]

/-- The text of an integer is a numeral for it. -/
theorem numeral_text (value : Integer) :
    Numeral value.text.toList value.value := by
  rw [text]
  cases value.value with
  | ofNat number =>
      have spelled : (toString (Int.ofNat number)).toList =
          Nat.toDigits 10 number := Nat.toList_repr
      have numeral := Numeral.unsigned (digits_toDigits number)
      rw [placeValue_toDigits] at numeral
      rw [spelled]
      exact numeral
  | negSucc number =>
      have spelled : (toString (Int.negSucc number)).toList =
          '-' :: Nat.toDigits 10 (number + 1) :=
        String.toList_append.trans (congrArg ('-' :: ·) Nat.toList_repr)
      have numeral := Numeral.negative (digits_toDigits (number + 1))
      rw [placeValue_toDigits] at numeral
      rw [spelled]
      exact numeral

theorem Numeral.ne_nil {text : List Char} {number : Int}
    (numeral : Numeral text number) : text ≠ [] := by
  cases numeral with
  | unsigned matched => exact matched.1
  | positive | negative => exact List.cons_ne_nil _ _

end Integer

end TinyImp
