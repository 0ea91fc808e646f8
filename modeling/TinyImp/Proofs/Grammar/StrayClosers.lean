import TinyImp.Proofs.Grammar.MissingSemicolons

/-!
# Stray closers

A semicolon that ends no statement and an `end for ;` that closes no loop are
skipped between the statements of a program, and each of them is reported
once, where it begins.  There is one exception: the reader of the first
statement does not leave an `end`, so an `end for ;` at the very beginning of
a program is reported twice.
-/

namespace TinyImp

/-- What would close a statement or a loop where there is none. -/
inductive Stray where
  | semicolon (position : Position)
  | loopEnd (endAt forAt closing : Position)

namespace Stray

def first : Stray → Token
  | semicolon position => ⟨.semicolon, position⟩
  | loopEnd endAt _ _ => ⟨.endWord, endAt⟩

def tokens : Stray → List Token
  | semicolon position => [⟨.semicolon, position⟩]
  | loopEnd endAt forAt closing =>
      [⟨.endWord, endAt⟩, ⟨.forWord, forAt⟩, ⟨.semicolon, closing⟩]

/-- No statement begins here, so the input should have ended. -/
def mismatch (stray : Stray) : Mismatch :=
  ⟨.token .endOfInput, stray.first⟩

theorem map_found_mismatch (strays : List Stray) :
    (strays.map mismatch).map Mismatch.found = strays.map first := by
  rw [List.map_map]
  rfl

end Stray

/-- A part of a program with stray closers between its statements. -/
inductive Piece where
  | statement (phrase : StmtPhrase)
  | stray (closer : Stray)

namespace Piece

def tokens : Piece → List Token
  | statement phrase => phrase.tokens
  | stray closer => closer.tokens

def phrase? : Piece → Option StmtPhrase
  | statement phrase => some phrase
  | stray _ => none

def stray? : Piece → Option Stray
  | statement _ => none
  | stray closer => some closer

/-- The statements among some pieces. -/
def phrases (pieces : List Piece) : List StmtPhrase :=
  pieces.filterMap phrase?

/-- The stray closers among some pieces. -/
def strays (pieces : List Piece) : List Stray :=
  pieces.filterMap stray?

/-- The token that is reported once more: the `end` of an `end for ;` in front
of everything else. -/
def repeated : List Piece → List Token
  | .stray (.loopEnd endAt _ _) :: _ => [⟨.endWord, endAt⟩]
  | _ => []

end Piece

namespace Recovering

variable {cursor : Cursor} {last : Token}

/-- What no statement begins with gives no statement. -/
theorem statement_of_unfit
    (unfit : cursor.current.kind.startsStatement = false) :
    statement cursor =
      ⟨none, [⟨.statement, cursor.current⟩], cursor.skipStatement⟩ := by
  have noLoop : cursor.current.kind ≠ .forWord := by
    intro isFor
    rw [isFor] at unfit
    cases unfit
  have failed : Production.simpleStatement cursor =
      .error .statement cursor := by
    rw [Production.simpleStatement, Production.current_bind_apply]
    cases ahead : cursor.current.kind <;>
      simp [ahead, TokenKind.startsStatement] at unfit <;> rfl
  rw [statement_of_simple noLoop, simpleStatement_of_error failed]

/-- One mismatch is noted about tokens that begin no statement, and reading
goes on behind them. -/
theorem allStatements_of_unfit
    (unfit : cursor.current.kind.startsStatement = false)
    (inside : cursor.current.kind ≠ .endOfInput) :
    allStatements cursor =
      (allStatements (skipStray cursor).rest).after []
        [⟨.token .endOfInput, cursor.current⟩] := by
  have nothing := statements_of_unfit unfit
  have stray : (statements cursor).rest.current.kind ≠ .endOfInput := by
    rw [nothing]
    exact inside
  rw [allStatements_of_stray stray, nothing, skipStray_apply]
  rfl

theorem skipStray_tokens (stray : Stray) (others : List Token)
    (place : Position) :
    ∃ position, (skipStray ⟨stray.tokens ++ others, place⟩).rest =
      ⟨others, position⟩ := by
  rw [skipStray_apply]
  cases stray with
  | semicolon position => exact ⟨position, rfl⟩
  | loopEnd endAt forAt closing => exact ⟨closing, rfl⟩

theorem allStatements_of_stray_tokens (stray : Stray) (others : List Token)
    (place : Position) :
    ∃ position, allStatements ⟨stray.tokens ++ others, place⟩ =
      (allStatements ⟨others, position⟩).after [] [stray.mismatch] := by
  obtain ⟨position, skipped⟩ := skipStray_tokens stray others place
  refine ⟨position, ?_⟩
  have current : (Cursor.mk (stray.tokens ++ others) place).current =
      stray.first := by
    cases stray <;> rfl
  have unfit : stray.first.kind.startsStatement = false := by
    cases stray <;> rfl
  have inside : stray.first.kind ≠ .endOfInput := by
    cases stray <;> simp [Stray.first]
  rw [← current] at unfit inside
  rw [allStatements_of_unfit unfit inside, skipped, current]
  rfl

theorem starts_phrase (phrase : StmtPhrase) (others : List Token)
    (place : Position) :
    (Cursor.mk (phrase.tokens ++ others) place).current.kind.startsStatement =
      true := by
  obtain ⟨kind, opening, inner, tokens, starts⟩ := phrase.tokens_eq
  rw [tokens]
  exact starts

theorem allStatements_of_phrase (phrase : StmtPhrase) (others : List Token)
    (isEnd : last.kind = .endOfInput) (place : Position) :
    ∃ position, allStatements ⟨phrase.tokens ++ (others ++ [last]), place⟩ =
      (allStatements ⟨others ++ [last], position⟩).after [phrase.tree] [] := by
  obtain ⟨follower, following, split⟩ : ∃ follower following,
      others ++ [last] = follower :: following :=
    List.exists_cons_of_ne_nil (by simp)
  have barrier : BarrierAhead (follower :: following) := by
    refine ⟨last, ?_, ?_⟩
    · simp [← split]
    · rw [isEnd]
      rfl
  obtain ⟨position, read⟩ := statement_written phrase barrier place
  refine ⟨position, ?_⟩
  rw [split, allStatements_after_statement (starts_phrase phrase _ place), read]
  rfl

/-- Between statements each stray closer gives one mismatch, where it begins,
and nothing else. -/
theorem allStatements_pieces (pieces : List Piece)
    (isEnd : last.kind = .endOfInput) (place : Position) :
    ∃ rest, allStatements ⟨pieces.flatMap Piece.tokens ++ [last], place⟩ =
      ⟨StmtPhrase.treeList (Piece.phrases pieces),
        (Piece.strays pieces).map Stray.mismatch, rest⟩ := by
  induction pieces generalizing place with
  | nil =>
      have unfit : last.kind.startsStatement = false := by
        rw [isEnd]
        rfl
      have nothing : statements ⟨[last], place⟩ = ⟨[], [], ⟨[last], place⟩⟩ :=
        statements_of_unfit unfit
      refine ⟨⟨[last], place⟩, ?_⟩
      have ends : (statements ⟨[last], place⟩).rest.current.kind =
          .endOfInput := by
        rw [nothing]
        exact isEnd
      exact (allStatements_of_end ends).trans nothing
  | cons piece pieces induction =>
      rw [List.flatMap_cons, List.append_assoc]
      cases piece with
      | statement phrase =>
          obtain ⟨position, first⟩ := allStatements_of_phrase phrase
            (pieces.flatMap Piece.tokens) isEnd place
          obtain ⟨rest, others⟩ := induction position
          refine ⟨rest, ?_⟩
          rw [Piece.tokens, first, others]
          rfl
      | stray closer =>
          obtain ⟨position, first⟩ := allStatements_of_stray_tokens closer
            (pieces.flatMap Piece.tokens ++ [last]) place
          obtain ⟨rest, others⟩ := induction position
          refine ⟨rest, ?_⟩
          rw [Piece.tokens, first, others]
          rfl

/-- The first statement is tried once before the others, and it leaves a stray
semicolon but no `end`. -/
theorem program_pieces {pieces : List Piece} (nonempty : pieces ≠ [])
    (isEnd : last.kind = .endOfInput) (place : Position) :
    ∃ mismatches rest,
      program ⟨pieces.flatMap Piece.tokens ++ [last], place⟩ =
        ⟨StmtPhrase.treeList (Piece.phrases pieces), mismatches, rest⟩ ∧
      mismatches.map Mismatch.found =
        Piece.repeated pieces ++ (Piece.strays pieces).map Stray.first := by
  let cursor : Cursor := ⟨pieces.flatMap Piece.tokens ++ [last], place⟩
  obtain ⟨rest, all⟩ : ∃ rest, allStatements cursor = _ :=
    allStatements_pieces pieces isEnd place
  cases pieces with
  | nil => exact absurd rfl nonempty
  | cons piece pieces =>
      cases piece with
      | statement phrase =>
          have split : cursor =
              ⟨phrase.tokens ++ (pieces.flatMap Piece.tokens ++ [last]),
                place⟩ := by
            simp [cursor, Piece.tokens]
          have begins : cursor.current.kind.startsStatement = true := by
            rw [split]
            exact starts_phrase phrase _ place
          refine ⟨_, rest, ?_, Stray.map_found_mismatch _⟩
          rw [program_apply, ← allStatements_after_statement begins, all]
      | stray closer =>
          cases closer with
          | semicolon position =>
              obtain ⟨behind, others⟩ :=
                allStatements_pieces pieces isEnd position
              have first : statement cursor =
                  ⟨none, [⟨.statement, ⟨.semicolon, position⟩⟩],
                    ⟨pieces.flatMap Piece.tokens ++ [last], position⟩⟩ :=
                statement_of_unfit rfl
              refine ⟨⟨.statement, ⟨.semicolon, position⟩⟩ ::
                (Piece.strays pieces).map Stray.mismatch, behind, ?_, ?_⟩
              · rw [program_apply, first, others]
                rfl
              · rw [List.map_cons, Stray.map_found_mismatch]
                rfl
          | loopEnd endAt forAt closing =>
              -- the `end` stays in view, so it is met a second time
              have first : statement cursor =
                  ⟨none, [⟨.statement, ⟨.endWord, endAt⟩⟩], cursor⟩ :=
                statement_of_unfit rfl
              refine ⟨⟨.statement, ⟨.endWord, endAt⟩⟩ ::
                (Piece.strays (.stray (.loopEnd endAt forAt closing) ::
                  pieces)).map Stray.mismatch, rest, ?_, ?_⟩
              · rw [program_apply, first, all]
                rfl
              · rw [List.map_cons, Stray.map_found_mismatch]
                rfl

end Recovering

namespace Piece

theorem flatMap_tokens_statement (phrases : List StmtPhrase) :
    (phrases.map Piece.statement).flatMap Piece.tokens =
      StmtPhrase.tokensList phrases := by
  induction phrases with
  | nil => rfl
  | cons phrase phrases induction =>
      rw [List.map_cons, List.flatMap_cons, induction]
      rfl

theorem phrases_map_statement (phrases : List StmtPhrase) :
    Piece.phrases (phrases.map Piece.statement) = phrases := by
  simp [Piece.phrases, List.filterMap_map, Function.comp_def, phrase?]

theorem repeated_legible (pieces : List Piece) :
    ∀ token ∈ repeated pieces, token.Legible := by
  unfold repeated
  split
  · exact List.forall_mem_singleton.2 (by simp [Token.Legible])
  · exact List.forall_mem_nil _

end Piece

theorem Stray.first_legible (stray : Stray) : stray.first.Legible := by
  cases stray <;> simp [first, Token.Legible]

namespace Program

open Piece (phrases strays repeated)

variable {pieces : List Piece} {last : Token}

theorem read_pieces (nonempty : pieces ≠ []) (isEnd : last.kind = .endOfInput) :
    (read (pieces.flatMap Piece.tokens ++ [last])).1 =
        StmtPhrase.treeList (phrases pieces) ∧
      (read (pieces.flatMap Piece.tokens ++ [last])).2.map Mismatch.found =
        repeated pieces ++ (strays pieces).map Stray.first := by
  obtain ⟨mismatches, rest, program, found⟩ :=
    Recovering.program_pieces nonempty isEnd .start
  rw [read, Cursor.ofTokens, program]
  exact ⟨rfl, found⟩

/-- Stray closers between the statements of a program change nothing about the
program.  Each is reported once, where it begins, in the order of the text,
but for an `end for ;` in front of everything else, which is reported there
twice. -/
theorem read_stray_closers (isEnd : last.kind = .endOfInput)
    (hasStatement : phrases pieces ≠ []) :
    (read (pieces.flatMap Piece.tokens ++ [last])).1 =
        (read (StmtPhrase.tokensList (phrases pieces) ++ [last])).1 ∧
      (∀ diagnostic ∈ diagnostics (pieces.flatMap Piece.tokens ++ [last]),
        diagnostic.stage = .grammar) ∧
      (diagnostics (pieces.flatMap Piece.tokens ++ [last])).map
          Diagnostic.position =
        (repeated pieces ++ (strays pieces).map Stray.first).map
          Token.position := by
  have nonempty : pieces ≠ [] := by
    rintro rfl
    exact hasStatement rfl
  have without : (phrases pieces).map Piece.statement ≠ [] :=
    fun nothing => hasStatement (List.map_eq_nil_iff.1 nothing)
  obtain ⟨program, found⟩ := read_pieces nonempty isEnd
  have plain := (read_pieces without isEnd).1
  rw [Piece.flatMap_tokens_statement, Piece.phrases_map_statement] at plain
  refine ⟨program.trans plain.symm, fun diagnostic member => ?_, ?_⟩
  · obtain ⟨mismatch, met, rfl⟩ := List.mem_map.1 member
    have reported := List.mem_map_of_mem (f := Mismatch.found) met
    have legible : mismatch.found.Legible := by
      rw [found] at reported
      rcases List.mem_append.1 reported with again | once
      · exact Piece.repeated_legible pieces _ again
      · obtain ⟨stray, _, isFirst⟩ := List.mem_map.1 once
        exact isFirst ▸ stray.first_legible
    rw [Mismatch.diagnostic_of_legible legible]
  · rw [← found, diagnostics, List.map_map, List.map_map]
    exact List.map_congr_left fun mismatch _ => mismatch.diagnostic_position

/-- `end for ; ; print 0 ; end for ; ; read i ; ;` -/
def scattered : List Piece :=
  [.stray (.loopEnd ⟨1, 1⟩ ⟨1, 5⟩ ⟨1, 8⟩), .stray (.semicolon ⟨1, 9⟩),
    .statement (.print ⟨2, 1⟩ (.lone (.number .zero ⟨2, 7⟩)) ⟨2, 8⟩),
    .stray (.loopEnd ⟨3, 1⟩ ⟨3, 5⟩ ⟨3, 8⟩), .stray (.semicolon ⟨3, 9⟩),
    .statement (.read ⟨4, 1⟩ ⟨"i", ⟨4, 6⟩⟩ ⟨4, 7⟩),
    .stray (.semicolon ⟨4, 8⟩)]

theorem scattered_read :
    (phrases scattered).length = 2 ∧
      (read (scattered.flatMap Piece.tokens ++ [⟨.endOfInput, ⟨5, 1⟩⟩])).1 =
        (read (StmtPhrase.tokensList (phrases scattered) ++
          [⟨.endOfInput, ⟨5, 1⟩⟩])).1 ∧
      (diagnostics (scattered.flatMap Piece.tokens ++
          [⟨.endOfInput, ⟨5, 1⟩⟩])).map Diagnostic.position =
        [⟨1, 1⟩, ⟨1, 1⟩, ⟨1, 9⟩, ⟨3, 1⟩, ⟨3, 9⟩, ⟨4, 8⟩] := by
  have isEnd : (Token.mk .endOfInput ⟨5, 1⟩).kind = .endOfInput := rfl
  have hasStatement : phrases scattered ≠ [] := List.cons_ne_nil _ _
  obtain ⟨same, _, positions⟩ := read_stray_closers isEnd hasStatement
  exact ⟨rfl, same, positions⟩

/-- `end for ; print 0 ;` -/
def closedFirst : List Piece :=
  [.stray (.loopEnd ⟨1, 1⟩ ⟨1, 5⟩ ⟨1, 8⟩),
    .statement (.print ⟨2, 1⟩ (.lone (.number .zero ⟨2, 7⟩)) ⟨2, 8⟩)]

theorem closedFirst_reported_twice :
    (strays closedFirst).length = 1 ∧
      diagnostics (closedFirst.flatMap Piece.tokens ++
          [⟨.endOfInput, ⟨3, 1⟩⟩]) =
        [⟨.grammar, ⟨1, 1⟩, "expected a statement, got END"⟩,
          ⟨.grammar, ⟨1, 1⟩, "expected EOF, got END"⟩] := by
  decide

end Program

end TinyImp
