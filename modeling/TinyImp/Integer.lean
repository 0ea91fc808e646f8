/-!
# Integers of the language

The integers of the language are those that fit in 64 bits with a sign.  The
range is part of the type, so an operation either has its exact mathematical
result or has none: `ofInt?` is the only place where a result can be refused.
-/

namespace TinyImp

/-- An integer between `-2^63` and `2^63 - 1`. -/
structure Integer where
  value : Int
  least_le : -9223372036854775808 ≤ value
  lt_bound : value < 9223372036854775808
deriving DecidableEq

namespace Integer

/-- The integer with this mathematical value, if it is in range. -/
def ofInt? (value : Int) : Option Integer :=
  if range : -9223372036854775808 ≤ value ∧ value < 9223372036854775808 then
    some ⟨value, range.1, range.2⟩
  else
    none

@[ext]
theorem ext {left right : Integer} (same : left.value = right.value) :
    left = right := by
  cases left
  cases right
  cases same
  rfl

theorem ofInt?_eq_some_iff {value : Int} {integer : Integer} :
    ofInt? value = some integer ↔ integer.value = value := by
  unfold ofInt?
  constructor
  · intro success
    split at success
    · cases success
      rfl
    · cases success
  · intro same
    subst same
    rw [dif_pos ⟨integer.least_le, integer.lt_bound⟩]

theorem ofInt?_eq_none_iff {value : Int} :
    ofInt? value = none ↔
      value < -9223372036854775808 ∨ 9223372036854775808 ≤ value := by
  unfold ofInt?
  split
  · rename_i range
    simp only [reduceCtorEq, false_iff]
    omega
  · rename_i range
    simp only [true_iff]
    omega

@[simp]
theorem ofInt?_value (integer : Integer) :
    ofInt? integer.value = some integer :=
  ofInt?_eq_some_iff.2 rfl

def zero : Integer := ⟨0, by decide, by decide⟩

instance : Inhabited Integer := ⟨zero⟩

def add? (left right : Integer) : Option Integer :=
  ofInt? (left.value + right.value)

def sub? (left right : Integer) : Option Integer :=
  ofInt? (left.value - right.value)

def mul? (left right : Integer) : Option Integer :=
  ofInt? (left.value * right.value)

/-- The quotient rounded toward zero, if it is in range.  The divisor is
meant to be nonzero. -/
def div? (left right : Integer) : Option Integer :=
  ofInt? (left.value.tdiv right.value)

/-- The integer that follows; the greatest one has no successor and stays. -/
def next (integer : Integer) : Integer :=
  (ofInt? (integer.value + 1)).getD integer

/-- The decimal text: a minus sign if negative, then digits without leading
zeros. -/
def text (integer : Integer) : String :=
  toString integer.value

def digitValue (digit : Char) : Nat :=
  digit.toNat - '0'.toNat

def decimal (digits : List Char) : Nat :=
  digits.foldl (fun number digit => 10 * number + digitValue digit) 0

/-- The number of a row of digits, which must not be empty. -/
def natural? (digits : List Char) : Option Nat :=
  if digits.isEmpty || !digits.all Char.isDigit then none
  else some (decimal digits)

/-- Reads an optional sign and then one or more digits, and nothing else.
Leading zeros are allowed; the value has to be in range. -/
def read? : List Char → Option Integer
  | '-' :: digits => (natural? digits).bind fun number => ofInt? (-number)
  | '+' :: digits => (natural? digits).bind fun number => ofInt? number
  | digits => (natural? digits).bind fun number => ofInt? number

end Integer

end TinyImp
