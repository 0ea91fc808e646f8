import TinyImp.Proofs.Grammar.View

/-!
# Reading moved tokens

If every token is moved to another place, then what is read from the tokens is
moved in the same way and is otherwise the same: the program, the mismatches
and the tokens that are left.  No reader decides anything by a place, and those
that skip tokens after a mismatch do not either.
-/

namespace TinyImp

variable {place : Position → Position}

def Cursor.relocate (place : Position → Position) (cursor : Cursor) : Cursor :=
  ⟨cursor.remaining.map (Token.relocate place), place cursor.last⟩

namespace Cursor

variable (cursor : Cursor)

theorem current_relocate :
    (cursor.relocate place).current = cursor.current.relocate place := by
  obtain ⟨remaining, last⟩ := cursor
  cases remaining <;> rfl

theorem advance_relocate :
    (cursor.relocate place).advance = cursor.advance.relocate place := by
  obtain ⟨remaining, last⟩ := cursor
  cases remaining <;> rfl

end Cursor

/-- The view in which every token is moved to another place. -/
def View.relocating (place : Position → Position) : View where
  place := place
  cursor := Cursor.relocate place
  current := Cursor.current_relocate
  advance cursor _ := cursor.advance_relocate

/-- From moved tokens the same program is read, and the same mismatches are
found, at the moved places. -/
theorem Program.read_relocate (begins : place .start = .start)
    (tokens : List Token) :
    Program.read (tokens.map (Token.relocate place)) =
      ((Program.read tokens).1.relocate place,
        (Program.read tokens).2.map (Mismatch.relocate place)) := by
  have follows : Recovering.Follows (View.relocating place)
      (Program.relocate place) Recovering.program Recovering.program :=
    Recovering.follows_program
  have followed : Recovering.program
      ((Cursor.ofTokens tokens).relocate place) = _ :=
    follows (Cursor.ofTokens tokens)
  have moved : (Cursor.ofTokens tokens).relocate place =
      Cursor.ofTokens (tokens.map (Token.relocate place)) := by
    rw [Cursor.relocate, Cursor.ofTokens, begins, Cursor.ofTokens]
  rw [moved] at followed
  rw [read, followed]
  rfl

end TinyImp
