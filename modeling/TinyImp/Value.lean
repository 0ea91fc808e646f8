import TinyImp.Text.Quoted
import TinyImp.Tree.Basic

/-!
# Values

What a variable holds while a program runs.  Each value has one type, and
values of one type are ordered: integers by size, strings by the code points
of their characters, and `false` before `true`.
-/

namespace TinyImp

inductive Value where
  | int (value : Integer)
  | string (value : String)
  | bool (value : Bool)
deriving DecidableEq

namespace Value

def type : Value → Ty
  | int _ => .int
  | string _ => .string
  | bool _ => .bool

/-- The value of a variable that is declared without one. -/
def zero : Ty → Value
  | .int => int .zero
  | .string => string ""
  | .bool => bool false

@[simp]
theorem type_zero (type : Ty) : (zero type).type = type := by
  cases type <;> rfl

/-- How two values of one type are ordered; values of different types are
not. -/
def compare? : Value → Value → Option Ordering
  | int left, int right => some (compare left.value right.value)
  | string left, string right => some (compare left right)
  | bool left, bool right => some (compare left right)
  | _, _ => none

def text : Value → String
  | int value => value.text
  | string value => value
  | bool value => toString value

/-- A value with its type, as messages show it. -/
def outline : Value → String
  | int value => s!"Int({value.text})"
  | string value => s!"Str({Text.quoted value})"
  | bool value => s!"Bool({toString value})"

end Value

end TinyImp
