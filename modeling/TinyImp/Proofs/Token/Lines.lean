import Mathlib.Data.List.Induction
import TinyImp.Proofs.Token.Munch

/-!
# Tokens line by line

Only a block comment goes on behind a line feed.  So a text without an
unfinished block comment can be scanned apart from what follows in the next
lines: both give their tokens as if they stood alone, and the second text is
only further down.
-/

namespace TinyImp

/-- The position that many lines further down. -/
def Position.below (lines : Nat) (position : Position) : Position :=
  ⟨position.line + lines, position.column⟩

def Token.below (lines : Nat) (token : Token) : Token :=
  ⟨token.kind, token.position.below lines⟩

namespace Position

theorem next_below (lines : Nat) (position : Position) (character : Char) :
    (position.below lines).next character =
      (position.next character).below lines := by
  unfold next
  split
  · simp only [below, Nat.add_right_comm]
  · rfl

theorem past_below (lines : Nat) (position : Position) (text : List Char) :
    (position.below lines).past text = (position.past text).below lines := by
  induction text generalizing position with
  | nil => rfl
  | cons head tail induction =>
      rw [past_cons, past_cons, next_below, induction]

theorem past_line (position : Position) (text : List Char) :
    (position.past text).line = position.line + text.count '\n' := by
  induction text generalizing position with
  | nil => rfl
  | cons head tail induction =>
      rw [past_cons, induction, List.count_cons, next]
      by_cases lineFeed : head = '\n'
      · simp only [if_pos lineFeed, beq_iff_eq]
        omega
      · simp only [if_neg lineFeed, beq_iff_eq]
        omega

/-- The column behind a text counts the characters of its last line. -/
theorem start_past_column (text : List Char) :
    (start.past text).column =
      1 + (text.reverse.takeWhile (· != '\n')).length := by
  induction text using List.reverseRecOn with
  | nil => rfl
  | append_singleton text character induction =>
      rw [past_append, past_cons, past_nil, next, List.reverse_append,
        List.reverse_singleton, List.singleton_append]
      by_cases lineFeed : character = '\n'
      · simp [lineFeed]
      · simp only [if_neg lineFeed, induction]
        simp [lineFeed, Nat.add_assoc]

/-- The line feed behind a text leads to the beginning of a line. -/
theorem start_past_next_lineFeed (text : List Char) :
    (start.past text).next '\n' = start.below (1 + text.count '\n') := by
  rw [next, if_pos rfl, past_line]
  simp only [below, start, Nat.add_comm, Nat.add_left_comm]

end Position

namespace Token

theorem ofLexemes_below (lines : Nat) (position : Position)
    (lexemes : List Lexeme) :
    ofLexemes (position.below lines) lexemes =
      (ofLexemes position lexemes).map (below lines) := by
  induction lexemes generalizing position with
  | nil => rfl
  | cons lexeme following induction =>
      rw [ofLexemes_cons, ofLexemes_cons, List.map_append, Position.past_below,
        induction, Lexeme.tokensAt, Lexeme.tokensAt]
      cases lexeme.kind? with
      | none => rfl
      | some kind => rfl

/-- The tokens of a text come before those of what follows it in later lines,
if the text has no unfinished block comment. -/
theorem ofLexemes_append_lineFeed (position : Position)
    (early late : List Char)
    (closed : ∀ token ∈ ofLexemes position (lexemes early),
      token.kind ≠ .invalid "unterminated block comment") :
    ∃ tokens,
      ofLexemes position (lexemes early) =
          tokens ++ [⟨.endOfInput, position.past early⟩] ∧
        ofLexemes position (lexemes (early ++ '\n' :: late)) =
          tokens ++
            ofLexemes ((position.past early).next '\n') (lexemes late) := by
  match early with
  | [] => exact ⟨[], rfl, ofLexemes_blank rfl position late⟩
  | head :: tail =>
      by_cases blank : Lexeme.isBlank head = true
      · rw [ofLexemes_blank blank] at closed
        obtain ⟨tokens, alone, joined⟩ :=
          ofLexemes_append_lineFeed (position.next head) tail late closed
        refine ⟨tokens, ?_, ?_⟩
        · rw [ofLexemes_blank blank, alone, Position.past_cons]
        · rw [List.cons_append, ofLexemes_blank blank, joined,
            Position.past_cons]
      · rw [lexemes_cons, ofLexemes_cons] at closed
        have finished : (Lexeme.first head tail).reading ≠
            .flawed .unterminatedComment := by
          intro unfinished
          rw [Lexeme.tokensAt, Lexeme.kind?, unfinished] at closed
          exact closed _ List.mem_cons_self rfl
        have passed : position.past (head :: tail) =
            (position.past (Lexeme.first head tail).text).past
              (Lexeme.behind head tail) := by
          rw [← Position.past_append, Lexeme.text_append_behind]
        obtain ⟨tokens, alone, joined⟩ :=
          ofLexemes_append_lineFeed
            (position.past (Lexeme.first head tail).text)
            (Lexeme.behind head tail) late
            (fun token member => closed token (List.mem_append_right _ member))
        refine ⟨(Lexeme.first head tail).tokensAt position ++ tokens, ?_, ?_⟩
        · rw [lexemes_cons, ofLexemes_cons, alone, List.append_assoc, passed]
        · -- The first lexeme is the same with or without the later lines.
          rw [List.cons_append, Lexeme.lexemes_before
            (Bool.eq_false_iff.2 blank) rfl (.inr rfl) finished,
            ofLexemes_cons, joined, List.append_assoc, passed]
termination_by early.length
decreasing_by
  · exact Nat.lt_succ_self tail.length
  · exact Nat.lt_succ_of_le (Lexeme.length_behind head tail)

/-- Scanning two texts with a line feed between them.  If the first has no
unfinished block comment, its tokens up to the end of the input come first,
and those of the second follow, as many lines further down as the first text
and the line feed take. -/
theorem scan_append_lineFeed (early late : String)
    (closed : ∀ token ∈ scan early,
      token.kind ≠ .invalid "unterminated block comment") :
    ∃ tokens place,
      scan early = tokens ++ [⟨.endOfInput, place⟩] ∧
        scan (early ++ "\n" ++ late) =
          tokens ++
            (scan late).map (below (1 + early.toList.count '\n')) := by
  obtain ⟨tokens, alone, joined⟩ :=
    ofLexemes_append_lineFeed .start early.toList late.toList closed
  refine ⟨tokens, _, alone, ?_⟩
  have text : (early ++ "\n" ++ late).toList =
      early.toList ++ '\n' :: late.toList := by
    simp
  rw [scan, text, joined, Position.start_past_next_lineFeed, ofLexemes_below,
    scan]

/-- A string literal that a backslash leaves open at the end of its line does
not reach the quotation mark in the next line. -/
theorem scan_openString_append_lineFeed :
    (∀ token ∈ scan "print \"a\\",
        token.kind ≠ .invalid "unterminated block comment") ∧
      ∃ tokens place,
        scan "print \"a\\" = tokens ++ [⟨.endOfInput, place⟩] ∧
          scan ("print \"a\\" ++ "\n" ++ "\";") =
            tokens ++ (scan "\";").map
              (below (1 + "print \"a\\".toList.count '\n')) := by
  have closed : ∀ token ∈ scan "print \"a\\",
      token.kind ≠ .invalid "unterminated block comment" := by
    decide +kernel
  exact ⟨closed, scan_append_lineFeed "print \"a\\" "\";" closed⟩

end Token

end TinyImp
