import TinyImp.Proofs.Grammar.Provenance
import TinyImp.Proofs.Grammar.View

/-!
# The end of the input

A stream of tokens is read up to its first end of the input and no further.
What stands behind it may be cut off, and where there is none it may be
supplied at the place of the last token: to cut off and to supply is a view,
and it changes no place, so nothing that is read changes.
-/

namespace TinyImp

/-- The tokens up to the first end of the input.  If there is none, one is
added where the last token stands, or at this place if there is no token. -/
def Token.closed (last : Position) : List Token → List Token
  | [] => [⟨.endOfInput, last⟩]
  | token :: following =>
      if token.kind = .endOfInput then [token]
      else token :: Token.closed token.position following

namespace Token

variable {tokens others : List Token} {last : Token}

theorem closed_append_of_end
    (unended : ∀ token ∈ tokens, token.kind ≠ .endOfInput)
    (isEnd : last.kind = .endOfInput) (place : Position) :
    closed place (tokens ++ last :: others) = tokens ++ [last] := by
  induction tokens generalizing place with
  | nil => exact if_pos isEnd
  | cons token following induction =>
      obtain ⟨inside, behind⟩ := List.forall_mem_cons.1 unended
      rw [List.cons_append, closed, if_neg inside, induction behind]
      rfl

theorem closed_of_unended
    (unended : ∀ token ∈ tokens, token.kind ≠ .endOfInput)
    (place : Position) :
    closed place tokens =
      tokens ++ [⟨.endOfInput, (tokens.getLast?.map position).getD place⟩] := by
  induction tokens generalizing place with
  | nil => rfl
  | cons token following induction =>
      obtain ⟨inside, behind⟩ := List.forall_mem_cons.1 unended
      rw [closed, if_neg inside, induction behind, List.getLast?_cons]
      cases following.getLast? with
      | none => rfl
      | some final => rfl

theorem dropWhile_of_end
    (unended : ∀ token ∈ tokens, token.kind ≠ .endOfInput)
    (isEnd : last.kind = .endOfInput) :
    (tokens ++ last :: others).dropWhile (·.kind ≠ .endOfInput) =
      last :: others := by
  rw [List.dropWhile_append_of_pos (by simpa using unended),
    List.dropWhile_cons_of_neg (by simp [isEnd])]

end Token

namespace Cursor

def closed (cursor : Cursor) : Cursor :=
  ⟨Token.closed cursor.last cursor.remaining, cursor.last⟩

variable {cursor rest : Cursor}

theorem current_closed (cursor : Cursor) :
    cursor.closed.current = cursor.current := by
  obtain ⟨remaining, last⟩ := cursor
  cases remaining with
  | nil => rfl
  | cons token following =>
      rw [closed, Token.closed]
      split <;> rfl

theorem advance_closed (inside : cursor.current.kind ≠ .endOfInput) :
    cursor.closed.advance = cursor.advance.closed := by
  obtain ⟨remaining, last⟩ := cursor
  cases remaining with
  | nil => exact absurd rfl inside
  | cons token following =>
      have goesOn : Token.closed last (token :: following) =
          token :: Token.closed token.position following :=
        if_neg inside
      rw [closed, goesOn]
      rfl

/-- A way to the end of the input leads to the first one. -/
theorem Reaches.remaining_eq {tokens others : List Token} {last : Token}
    (reaches : (ofTokens (tokens ++ last :: others)).Reaches rest)
    (unended : ∀ token ∈ tokens, token.kind ≠ .endOfInput)
    (isEnd : last.kind = .endOfInput) (ended : rest.Ended)
    (atEnd : rest.current.kind = .endOfInput) :
    rest.remaining = last :: others := by
  obtain ⟨used, ahead, inside⟩ := reaches
  calc
    rest.remaining
    _ = (used ++ rest.remaining).dropWhile (·.kind ≠ .endOfInput) := by
        rw [ended.remaining_eq, Token.dropWhile_of_end inside atEnd]
    _ = (tokens ++ last :: others).dropWhile (·.kind ≠ .endOfInput) := by
        rw [← ahead, ofTokens]
    _ = last :: others := Token.dropWhile_of_end unended isEnd

end Cursor

/-- The view in which the stream ends with its first end of the input. -/
def View.closing : View where
  place := id
  cursor := Cursor.closed
  current := Cursor.current_closed
  advance _ := Cursor.advance_closed

namespace Program

variable {tokens : List Token}

/-- Only the tokens up to the first end of the input are read, and if there is
none, the stream is read as if it were closed by one. -/
theorem read_closed (tokens : List Token) :
    read (Token.closed .start tokens) = read tokens := by
  have follows : Recovering.Follows View.closing (Program.relocate id)
      Recovering.program Recovering.program :=
    Recovering.follows_program
  have followed : Recovering.program
      (Cursor.ofTokens (Token.closed .start tokens)) = _ :=
    follows (Cursor.ofTokens tokens)
  have mismatches : (read tokens).2.map (Mismatch.relocate id) =
      (read tokens).2 := List.map_id _
  have program := Program.relocate_id (read tokens).1
  rw [read, followed]
  exact Prod.ext program mismatches

/-- The end of the input is final.  A stream is read up to its first end of
the input, which is still in view when the program has been read, and whatever
follows makes no difference.  A stream without an end is read as if it were
closed by one at the place of its last token, or at the start if it is
empty. -/
theorem read_stops_at_end
    (unended : ∀ token ∈ tokens, token.kind ≠ .endOfInput) :
    (∀ last others, last.kind = .endOfInput →
      read (tokens ++ [last] ++ others) = read (tokens ++ [last]) ∧
        (Recovering.program
          (Cursor.ofTokens (tokens ++ [last] ++ others))).rest.remaining =
            last :: others) ∧
      (∀ final, tokens.getLast? = some final →
        read tokens = read (tokens ++ [⟨.endOfInput, final.position⟩])) ∧
      read [] = read [⟨.endOfInput, .start⟩] := by
  refine ⟨fun last others isEnd => ?_, fun final isFinal => ?_, ?_⟩
  · rw [List.append_assoc, List.singleton_append]
    constructor
    · rw [← read_closed, Token.closed_append_of_end unended isEnd]
    · have ended : (Cursor.ofTokens (tokens ++ last :: others)).Ended :=
        ⟨last, by simp [Cursor.ofTokens], isEnd⟩
      have reaches := (read_finds ended).reaches
      exact reaches.remaining_eq unended isEnd
        (reaches.within (within_ofTokens ended)).ended
        (Recovering.program_ends _)
  · rw [← read_closed tokens, Token.closed_of_unended unended, isFinal]
    rfl
  · exact (read_closed []).symm

/-- A loop with a broken header that is cut off in front of the semicolon of
its `end for ;`. -/
def cutOffLoop : List Token :=
  [⟨.forWord, ⟨1, 1⟩⟩, ⟨.semicolon, ⟨1, 5⟩⟩, ⟨.endWord, ⟨1, 7⟩⟩,
    ⟨.forWord, ⟨1, 11⟩⟩]

theorem cutOffLoop_stops_at_end :
    (∀ token ∈ cutOffLoop, token.kind ≠ .endOfInput) ∧
      read (cutOffLoop ++ [⟨.endOfInput, ⟨2, 1⟩⟩] ++
          [⟨.semicolon, ⟨2, 2⟩⟩]) =
        read (cutOffLoop ++ [⟨.endOfInput, ⟨2, 1⟩⟩]) ∧
      (Recovering.program (Cursor.ofTokens
        (cutOffLoop ++ [⟨.endOfInput, ⟨2, 1⟩⟩] ++
          [⟨.semicolon, ⟨2, 2⟩⟩]))).rest.remaining =
        [⟨.endOfInput, ⟨2, 1⟩⟩, ⟨.semicolon, ⟨2, 2⟩⟩] ∧
      read cutOffLoop = read (cutOffLoop ++ [⟨.endOfInput, ⟨1, 11⟩⟩]) := by
  have unended : ∀ token ∈ cutOffLoop, token.kind ≠ .endOfInput := by decide
  obtain ⟨stops, closes, _⟩ := read_stops_at_end unended
  obtain ⟨same, inView⟩ :=
    stops ⟨.endOfInput, ⟨2, 1⟩⟩ [⟨.semicolon, ⟨2, 2⟩⟩] rfl
  exact ⟨unended, same, inView, closes ⟨.forWord, ⟨1, 11⟩⟩ rfl⟩

end Program

end TinyImp
