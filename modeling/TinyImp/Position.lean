/-!
# Source positions

A position is a line and a column, both counted from one.  Lines end at a line
feed and nowhere else, and a column counts characters, so a carriage return or
a tab is one column like any other character.
-/

namespace TinyImp

structure Position where
  line : Nat
  column : Nat
deriving DecidableEq, Repr, Inhabited

namespace Position

/-- The place of the first character of every text. -/
def start : Position := ⟨1, 1⟩

/-- The place of the character that follows `character` at this position. -/
def next (position : Position) (character : Char) : Position :=
  if character = '\n' then ⟨position.line + 1, 1⟩
  else ⟨position.line, position.column + 1⟩

/-- The place after all of `text`, which begins at this position. -/
def past (position : Position) (text : List Char) : Position :=
  text.foldl next position

@[simp]
theorem past_nil (position : Position) : position.past [] = position :=
  rfl

@[simp]
theorem past_cons (position : Position) (head : Char) (tail : List Char) :
    position.past (head :: tail) = (position.next head).past tail :=
  rfl

theorem past_append (position : Position) (left right : List Char) :
    position.past (left ++ right) = (position.past left).past right :=
  List.foldl_append

/-- A position is written as its line and its column with a colon between. -/
def text (position : Position) : String :=
  s!"{position.line}:{position.column}"

end Position

end TinyImp
