import TinyImp.Report.Span
import TinyImp.Text.Blank
import TinyImp.Text.CellWidth

/-!
# Excerpts

The line of a source that a report shows, and how many cells each of its
characters takes.  Lines on display end at any of the characters that end a
line, not only at a line feed; a carriage return with a line feed ends one
line.
-/

namespace TinyImp

namespace Report

def endsLine (character : Char) : Bool :=
  character == '\n' || character == '\r' || character == '\x0b' ||
    character == '\x0c' || character == '\u0085' ||
    character == '\u2028' || character == '\u2029'

/-- The lines of a text, each with the characters that end it. -/
def displayLines : List Char → List (List Char)
  | [] => []
  | head :: tail =>
      let others := displayLines tail
      if endsLine head && !(head == '\r' && tail.head? == some '\n') then
        [head] :: others
      else
        match others with
        | [] => [[head]]
        | line :: later => (head :: line) :: later

/-- A character on display and the number of cells it takes. -/
structure Cell where
  shown : Char
  width : Nat

/-- The cell of the character with this index in its line.  A tab reaches to
the next multiple of four, and white space shows as spaces. -/
def cell (character : Char) (index : Nat) : Cell :=
  if character = '\t' then ⟨' ', (index / 4 + 1) * 4 - index⟩
  else if Text.isWhiteSpace character then ⟨' ', 1⟩
  else ⟨character, Text.cellWidth character⟩

/-- A line on display: the number of characters that it has in the source,
those that end it included, and the cells of the characters that show. -/
structure Row where
  length : Nat
  cells : List Cell

/-- A line on display.  The white space at its end does not show. -/
def Row.ofLine (line : List Char) : Row :=
  { length := line.length
    cells := (Text.trimEnd line).zipIdx.map fun item => cell item.1 item.2 }

def rows (source : List Char) : List Row :=
  (displayLines source).map Row.ofLine

/-- A line on display, and the place in it to point at. -/
structure Excerpt where
  number : Nat
  column : Nat
  cells : List Cell

/-- The line that holds the character with the index `start`, if the lines are
counted from `number`. -/
def locate (start number : Nat) : List Row → Excerpt
  | [] => ⟨number, start, []⟩
  | row :: others =>
      if start < row.length then ⟨number, start, row.cells⟩
      else locate (start - row.length) (number + 1) others

/-- The number of cells under each of the first `count` characters, one each
where the line is over. -/
def Excerpt.widths (excerpt : Excerpt) (count : Nat) : List Nat :=
  (excerpt.cells.map Cell.width ++ List.replicate count 1).take count

end Report

end TinyImp
