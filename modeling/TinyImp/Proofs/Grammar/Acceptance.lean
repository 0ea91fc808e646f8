import TinyImp.Grammar.Program
import TinyImp.Proofs.Grammar.StatementReading

/-!
# Acceptance of programs

Reading a stream of tokens gives no diagnostics exactly if the tokens are a
program of the grammar, and then the program read is the tree of its only
derivation.  Otherwise the first diagnostic stands at the first token with
which the stream stops being the beginning of a program.
-/

namespace TinyImp

open PhraseClass

theorem Mismatch.diagnostic_position (mismatch : Mismatch) :
    mismatch.diagnostic.position = mismatch.found.position := by
  unfold Mismatch.diagnostic
  split <;> rfl

/-- The tokens begin a program that is followed by the end of the input. -/
def Viable (tokens : List Token) : Prop :=
  ∃ (phrase : ProgramPhrase) (last : Token),
    last.kind = .endOfInput ∧ tokens <+: phrase.tokens ++ [last]

theorem Viable.mono {shorter longer : List Token} (viable : Viable longer)
    (begins : shorter <+: longer) : Viable shorter := by
  obtain ⟨phrase, last, isEnd, whole⟩ := viable
  exact ⟨phrase, last, isEnd, begins.trans whole⟩

/-- Programs, which go on as long as a statement can begin. -/
def programs : PhraseClass ProgramPhrase where
  tokens := ProgramPhrase.tokens
  Continues _ kind := kind.startsStatement = true

theorem programs_unambiguous : programs.Unambiguous := by
  intro left right _ _ _ _ leftStopped rightStopped same
  exact ProgramPhrase.eq_of_tokens left right
    (Bool.eq_false_iff.mpr leftStopped) (Bool.eq_false_iff.mpr rightStopped)
    same

namespace Recovering

variable {cursor : Cursor}

/-- The statements of a program, up to where no statement begins. -/
def beginning : Recovering Program := do
  let first ← statement
  let others ← statements
  return first.toList ++ others

theorem beginning_outcome (ended : cursor.Ended) :
    programs.Outcome ProgramPhrase.tree cursor (verdict beginning cursor) := by
  have parts : (stmtPhrases.followedBy (blocks.followedBy empty)).ReadBy
      (fun (first, others, _) =>
        first.tree :: StmtPhrase.treeList others) (cursor.size + 1)
      (verdict beginning) := by
    refine readBy_bind statement_readBy (.of_closed fun _ _ => id)
      fun first => ?_
    refine readBy_bind statements_readBy (.before_empty _) fun others => ?_
    exact return_readBy (first.tree :: StmtPhrase.treeList others)
  refine (parts.outcome cursor ended (Nat.lt_succ_self _)).embed
    (fun (first, others, _) => ⟨first, others⟩) ?_ ?_ ?_ ?_
  · intro parts
    simp [programs, ProgramPhrase.tokens]
  · intro parts kind
    simp [programs]
  · intro parts rest _
    rfl
  · intro phrase _ _ _ _
    exact ⟨(phrase.first, phrase.others, ()), rfl⟩

theorem verdict_skipStray_bind {β : Type} (next : Unit → Recovering β) :
    verdict (skipStray >>= next) cursor = .refused cursor.current :=
  rfl

/-- A program is read to its end if nothing but the end of the input stands
behind its statements. -/
theorem verdict_program (cursor : Cursor) :
    verdict program cursor =
      (verdict beginning cursor).andThen fun read rest =>
        if rest.current.kind = .endOfInput then .accepted read rest
        else .refused rest.current := by
  rw [program, beginning, verdict_bind, verdict_bind]
  cases verdict statement cursor with
  | refused found => rfl
  | accepted first rest =>
      change verdict (size >>= _) rest =
        (verdict (statements >>= _) rest).andThen _
      rw [verdict_size_bind, verdict_bind, verdict_bind, statementsToEnd,
        verdict_bind]
      cases verdict statements rest with
      | refused found => rfl
      | accepted others last =>
          change (verdict (current >>= _) last).andThen _ =
            if last.current.kind = .endOfInput then
              .accepted (first.toList ++ others) last
            else .refused last.current
          rw [verdict_current_bind]
          by_cases isEnd : last.current.kind = .endOfInput
          · rw [if_pos isEnd, if_pos isEnd]
            rfl
          · rw [if_neg isEnd, if_neg isEnd, verdict_skipStray_bind]
            rfl

end Recovering

namespace Program

variable {tokens : List Token} {last : Token}

theorem read_of_accepted {value : Program} {rest : Cursor}
    (accepted : Recovering.verdict Recovering.program (.ofTokens tokens) =
      .accepted value rest) :
    Program.read tokens = (value, []) := by
  unfold Recovering.verdict at accepted
  unfold Program.read
  split at accepted
  · cases accepted
    simp [*]
  · cases accepted

theorem read_of_refused {found : Token}
    (refused : Recovering.verdict Recovering.program (.ofTokens tokens) =
      .refused found) :
    ∃ mismatch later, (Program.read tokens).2 = mismatch :: later ∧
      mismatch.found = found := by
  unfold Recovering.verdict at refused
  split at refused
  · cases refused
  · rename_i mismatch later mismatches
    cases refused
    exact ⟨mismatch, later, mismatches, rfl⟩

theorem eq_of_append_end {used following : List Token} {found : Token}
    (inside : ∀ token ∈ tokens, token.kind ≠ .endOfInput)
    (foundEnd : found.kind = .endOfInput)
    (split : tokens ++ [last] = used ++ found :: following) :
    used = tokens := by
  rcases List.append_eq_append_iff.mp split with
    ⟨more, rfl, rest⟩ | ⟨more, rfl, rest⟩
  · cases more with
    | nil => simp
    | cons head tail => simp at rest
  · cases more with
    | nil => simp
    | cons head tail =>
        obtain ⟨rfl, _⟩ := List.cons.inj rest
        exact absurd foundEnd (inside found (by simp))

theorem not_viable_of_breaks {used : List Token} {found : Token}
    (breaks : programs.Breaks used found) : ¬Viable (used ++ [found]) := by
  intro viable
  obtain ⟨phrase, last, isEnd, begins⟩ := viable
  refine breaks.2 phrase last [] ?_ begins
  simp [programs, isEnd, TokenKind.startsStatement]

theorem viable_of_begins {used : List Token} {phrase : ProgramPhrase}
    (begins : used <+: phrase.tokens) : Viable used :=
  ⟨phrase, ⟨.endOfInput, .start⟩, rfl, begins.trans (List.prefix_append ..)⟩

theorem not_viable_of_stray {phrase : ProgramPhrase} {found : Token}
    (stopped : ¬programs.Continues phrase found.kind)
    (stray : found.kind ≠ .endOfInput) :
    ¬Viable (phrase.tokens ++ [found]) := by
  intro viable
  obtain ⟨other, last, isEnd, unread, whole⟩ := viable
  rw [List.append_assoc] at whole
  have same : phrase = other := by
    refine programs_unambiguous _ _ _ _ _ _ stopped ?_ whole
    simp [programs, isEnd, TokenKind.startsStatement]
  subst same
  have foundLast : found = last :=
    (List.cons.inj (List.append_cancel_left whole)).1
  exact stray (foundLast ▸ isEnd)

theorem unique_derivation {left right : ProgramPhrase}
    (same : left.tokens = right.tokens) : left = right := by
  have stopped (phrase : ProgramPhrase) :
      ¬programs.Continues phrase .endOfInput := by
    simp [programs, TokenKind.startsStatement]
  apply programs_unambiguous left right ⟨.endOfInput, .start⟩
    ⟨.endOfInput, .start⟩ [] [] (stopped left) (stopped right)
  exact congrArg (· ++ _) same

/-- Every stream is a program of the grammar that is read as its tree, or is
reported first where it stops being the beginning of one. -/
theorem read_outcome (isEnd : last.kind = .endOfInput)
    (inside : ∀ token ∈ tokens, token.kind ≠ .endOfInput) :
    (∃ phrase : ProgramPhrase, phrase.tokens = tokens ∧
      Program.read (tokens ++ [last]) = (phrase.tree, [])) ∨
    ∃ used found following mismatch later,
      tokens ++ [last] = used ++ found :: following ∧
        (Program.read (tokens ++ [last])).2 = mismatch :: later ∧
        mismatch.found = found ∧ Viable used ∧
        ¬Viable (used ++ [found]) := by
  have ended : (Cursor.ofTokens (tokens ++ [last])).Ended :=
    ⟨last, by simp [Cursor.ofTokens], isEnd⟩
  have outcome := Recovering.beginning_outcome ended
  have program := Recovering.verdict_program (.ofTokens (tokens ++ [last]))
  generalize Recovering.verdict Recovering.beginning _ = beginning
    at outcome program
  cases outcome with
  | @refused used following found reading breaks =>
      obtain ⟨mismatch, later, mismatches, here⟩ := read_of_refused program
      obtain ⟨phrase, begins⟩ := breaks.1
      exact .inr ⟨used, found, following, mismatch, later, reading,
        mismatches, here, viable_of_begins begins,
        not_viable_of_breaks breaks⟩
  -- no statement begins here, so only the end of the input may stand here
  | @accepted phrase rest restEnded reading stopped =>
      change tokens ++ [last] = _ at reading
      rw [restEnded.remaining_eq] at reading
      change Recovering.verdict Recovering.program _ =
        if rest.current.kind = .endOfInput then _ else _ at program
      by_cases atEnd : rest.current.kind = .endOfInput
      · rw [if_pos atEnd] at program
        exact .inl ⟨phrase, eq_of_append_end inside atEnd reading,
          read_of_accepted program⟩
      · rw [if_neg atEnd] at program
        obtain ⟨mismatch, later, mismatches, here⟩ := read_of_refused program
        exact .inr ⟨phrase.tokens, rest.current, _, mismatch, later, reading,
          mismatches, here, viable_of_begins (List.prefix_refl _),
          not_viable_of_stray stopped atEnd⟩

theorem read_of_derived (isEnd : last.kind = .endOfInput)
    (inside : ∀ token ∈ tokens, token.kind ≠ .endOfInput)
    {phrase : ProgramPhrase} (derived : phrase.tokens = tokens) :
    Program.read (tokens ++ [last]) = (phrase.tree, []) := by
  rcases read_outcome isEnd inside with
    ⟨other, same, read⟩ | ⟨used, found, following, _, _, split, _, _, _, dead⟩
  · rw [read, unique_derivation (same.trans derived.symm)]
  · refine absurd ⟨phrase, last, isEnd, following, ?_⟩ dead
    rw [derived, split, List.append_assoc]
    rfl

/-- What is reported about a stream of tokens. -/
def diagnostics (tokens : List Token) : List Diagnostic :=
  (Program.read tokens).2.map Mismatch.diagnostic

/-- A stream of tokens gives no diagnostics exactly if it is a program of the
grammar.  Then it has one derivation, of which the program read is the tree,
and no token of it is a comment or could not be read.  Every node stands at its
first token, and an operand in parentheses is the node inside. -/
theorem diagnostics_eq_nil_iff_derived (isEnd : last.kind = .endOfInput)
    (inside : ∀ token ∈ tokens, token.kind ≠ .endOfInput) :
    (diagnostics (tokens ++ [last]) = [] ↔
      ∃ phrase : ProgramPhrase, phrase.tokens = tokens) ∧
    (diagnostics (tokens ++ [last]) = [] →
      (∃ phrase : ProgramPhrase, phrase.tokens = tokens ∧
        (Program.read (tokens ++ [last])).1 = phrase.tree ∧
        ∀ other : ProgramPhrase, other.tokens = tokens → other = phrase) ∧
      ∀ token ∈ tokens, token.Legible) ∧
    (∀ phrase : StmtPhrase,
      Token.firstPlace phrase.tokens = some phrase.tree.position) ∧
    (∀ phrase : ExprPhrase,
      Token.firstPlace phrase.tokens = some phrase.tree.position) ∧
    ∀ phrase : OperandPhrase,
      (∃ opening inner closing,
        phrase = .group opening inner closing ∧ phrase.tree = inner.tree) ∨
      Token.firstPlace phrase.tokens = some phrase.tree.position := by
  have derived_of_silent (silent : diagnostics (tokens ++ [last]) = []) :
      ∃ phrase : ProgramPhrase, phrase.tokens = tokens := by
    rcases read_outcome isEnd inside with
      ⟨phrase, derived, _⟩ | ⟨_, _, _, _, _, _, mismatches, _⟩
    · exact ⟨phrase, derived⟩
    · simp [diagnostics, mismatches] at silent
  refine ⟨⟨derived_of_silent, ?_⟩, ?_, StmtPhrase.firstPlace_tokens,
    ExprPhrase.firstPlace_tokens, ?_⟩
  · intro derivation
    obtain ⟨phrase, derived⟩ := derivation
    simp [diagnostics, read_of_derived isEnd inside derived]
  · intro silent
    obtain ⟨phrase, derived⟩ := derived_of_silent silent
    refine ⟨⟨phrase, derived, ?_, ?_⟩, derived ▸ phrase.legible⟩
    · rw [read_of_derived isEnd inside derived]
    · exact fun other same => unique_derivation (same.trans derived.symm)
  · intro phrase
    cases phrase with
    | group opening inner closing =>
        exact .inl ⟨opening, inner, closing, rfl, rfl⟩
    | _ => exact .inr rfl

/-- Tokens of these kinds in one line, one in each column. -/
def line (kinds : List TokenKind) : List Token :=
  kinds.mapIdx fun index kind => ⟨kind, 1, index + 1⟩

/-- The end of the input behind a line. -/
def lineEnd : Token :=
  ⟨.endOfInput, 2, 1⟩

/-- `for i in ( 0 ) .. 0 do print ! i ; end for ;` -/
def groupedLoop : List Token :=
  line [.forWord, .ident "i", .inWord, .leftParen, .intLiteral .zero,
    .rightParen, .range, .intLiteral .zero, .doWord, .printWord, .exclamation,
    .ident "i", .semicolon, .endWord, .forWord, .semicolon]

theorem groupedLoop_derived :
    (∀ token ∈ groupedLoop, token.kind ≠ .endOfInput) ∧
      diagnostics (groupedLoop ++ [lineEnd]) = [] ∧
      ∃ phrase : ProgramPhrase, phrase.tokens = groupedLoop ∧
        (Program.read (groupedLoop ++ [lineEnd])).1 =
          phrase.tree ∧
        ∀ other : ProgramPhrase, other.tokens = groupedLoop →
          other = phrase := by
  have inside : ∀ token ∈ groupedLoop, token.kind ≠ .endOfInput := by decide
  have silent : diagnostics (groupedLoop ++ [lineEnd]) = [] := by
    decide
  have isEnd : lineEnd.kind = .endOfInput := rfl
  have derived := diagnostics_eq_nil_iff_derived isEnd inside
  exact ⟨inside, silent, (derived.2.1 silent).1⟩

/-- The first diagnostic about a stream that is no program stands at the first
token with which the stream stops being the beginning of one. -/
theorem first_diagnostic_ends_viability (isEnd : last.kind = .endOfInput)
    (inside : ∀ token ∈ tokens, token.kind ≠ .endOfInput)
    (underived : ∀ phrase : ProgramPhrase, phrase.tokens ≠ tokens) :
    ∃ index offending diagnostic later,
      (tokens ++ [last])[index]? = some offending ∧
        diagnostics (tokens ++ [last]) = diagnostic :: later ∧
        diagnostic.position = offending.position ∧
        ¬Viable ((tokens ++ [last]).take (index + 1)) ∧
        ∀ shorter ≤ index, Viable ((tokens ++ [last]).take shorter) := by
  rcases read_outcome isEnd inside with
    ⟨phrase, derived, _⟩ |
      ⟨used, found, following, mismatch, later, split, mismatches, here,
        viable, dead⟩
  · exact absurd derived (underived phrase)
  · refine ⟨used.length, found, mismatch.diagnostic,
      later.map Mismatch.diagnostic, ?_, ?_, ?_, ?_, ?_⟩
    · simp [split]
    · simp [diagnostics, mismatches]
    · rw [mismatch.diagnostic_position, here]
    · have taken : (tokens ++ [last]).take (used.length + 1) =
          used ++ [found] := by
        simp [split, List.take_append, List.take_of_length_le]
      rwa [taken]
    · intro shorter fits
      apply viable.mono
      rw [split, List.take_append_of_le_length fits]
      exact List.take_prefix shorter used

/-- `for i in ( 0 .. 0 do print ! i ; end for ;` -/
def unclosedGroup : List Token :=
  line [.forWord, .ident "i", .inWord, .leftParen, .intLiteral .zero,
    .range, .intLiteral .zero, .doWord, .printWord, .exclamation,
    .ident "i", .semicolon, .endWord, .forWord, .semicolon]

theorem unclosedGroup_first_diagnostic :
    (∀ token ∈ unclosedGroup, token.kind ≠ .endOfInput) ∧
      (∀ phrase : ProgramPhrase, phrase.tokens ≠ unclosedGroup) ∧
      ∃ index offending diagnostic later,
        (unclosedGroup ++ [lineEnd])[index]? = some offending ∧
          diagnostics (unclosedGroup ++ [lineEnd]) =
            diagnostic :: later ∧
          diagnostic.position = offending.position ∧
          ¬Viable ((unclosedGroup ++ [lineEnd]).take
            (index + 1)) ∧
          ∀ shorter ≤ index,
            Viable ((unclosedGroup ++ [lineEnd]).take shorter) := by
  have inside : ∀ token ∈ unclosedGroup, token.kind ≠ .endOfInput := by decide
  have isEnd : lineEnd.kind = .endOfInput := rfl
  have reported :
      (Program.read (unclosedGroup ++ [lineEnd])).2 ≠ [] := by
    decide
  have underived : ∀ phrase : ProgramPhrase, phrase.tokens ≠ unclosedGroup := by
    intro phrase derived
    exact reported (congrArg Prod.snd (read_of_derived isEnd inside derived))
  exact ⟨inside, underived,
    first_diagnostic_ends_viability isEnd inside underived⟩

end Program

end TinyImp
