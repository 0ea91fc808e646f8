import TinyImp.Position

/-!
# Spans

The stretch of a source that a position points at, counted in characters from
its start.  Every position has one, also one that lies outside of the text: a
column past the end of a line points at the end of the line, a line that does
not exist at the last character of the text.
-/

namespace TinyImp

/-- The characters from `start` up to but not including `stop`. -/
structure Span where
  start : Nat
  stop : Nat
deriving DecidableEq, Repr

def linesBetween : List Char → List (List Char)
  | [] => [[]]
  | head :: tail =>
      if head = '\n' then [] :: linesBetween tail
      else
        match linesBetween tail with
        | [] => [[head]]
        | line :: others => (head :: line) :: others

namespace Position

/-- The number of characters before a position, if the lines are counted from
`number`.  It is greater than that of the whole text if there is no such
line. -/
def offsetIn (position : Position) (number : Nat) : List (List Char) → Nat
  | [] => 0
  | line :: others =>
      if number = position.line then min (position.column - 1) line.length
      else line.length + 1 + position.offsetIn (number + 1) others

/-- The stretch that a position points at in a text of `length` characters with
these lines: one character, or none if the text is empty. -/
def spanIn (position : Position) (lines : List (List Char)) (length : Nat) :
    Span :=
  let start := min (position.offsetIn 1 lines) (length - 1)
  ⟨start, min (start + 1) length⟩

def span (position : Position) (source : List Char) : Span :=
  position.spanIn (linesBetween source) source.length

end Position

end TinyImp
