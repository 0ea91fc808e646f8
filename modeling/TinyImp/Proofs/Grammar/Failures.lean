import TinyImp.Proofs.Grammar.Segments

/-!
# One mismatch for each failure

A failure is reported once, and reading always comes to the end of the input.
An expression that cannot be read gives one mismatch, where an operand or a
closing parenthesis is lacking and no expression goes on.  A statement that is
dropped gives one of its own, besides those of the statements in its body, and
one that is kept gives at most one, for its semicolon.  A statement that can
begin leaves its first token, and so does the skip over stray tokens; hence
the rows of statements and the reading of a program cannot stand still.
-/

namespace TinyImp

namespace Cursor

theorem advance_size_lt {cursor : Cursor}
    (inside : cursor.current.kind ≠ .endOfInput) :
    cursor.advance.size < cursor.size :=
  Recovering.size_lt_of_suffix inside List.suffix_rfl

theorem skipStatement_size_le (cursor : Cursor) :
    cursor.skipStatement.size ≤ cursor.size :=
  (skipStatementFrom_suffix cursor.last cursor.remaining).length_le

/-- A skip that may leave the token in view leaves it. -/
theorem skipStatement_size_lt {cursor : Cursor}
    (inside : cursor.current.kind ≠ .endOfInput)
    (noEnd : cursor.current.kind ≠ .endWord) :
    cursor.skipStatement.size < cursor.size := by
  have shorter := advance_size_lt inside
  have behind := cursor.advance.skipStatement_size_le
  rw [skipStatement_eq, if_neg (not_or.mpr ⟨inside, noEnd⟩)]
  split
  · exact shorter
  · omega

end Cursor

namespace Production

variable {α β : Type} {bound : Nat}

/-- A kind of token that is not what an expression lacks at its place. -/
inductive Unfit : Expected → TokenKind → Prop where
  | operand {kind : TokenKind} :
      (∀ value, kind ≠ .intLiteral value) →
      (∀ value, kind ≠ .stringLiteral value) →
      (∀ name, kind ≠ .ident name) →
      kind ≠ .leftParen →
      Unfit .operand kind
  | closing {kind : TokenKind} :
      kind ≠ .rightParen → Unfit (.token .rightParen) kind

/-- A production that fails at an unfit token only, wherever fewer than `bound`
tokens are left. -/
def FailsAtUnfit (bound : Nat) (production : Production α) : Prop :=
  ∀ cursor : Cursor, cursor.size < bound → ∀ expected rest,
    production cursor = .error expected rest →
      Unfit expected rest.current.kind

theorem failsAtUnfit_pure (value : α) :
    FailsAtUnfit bound (pure value : Production α) := by
  intro cursor _ expected rest failed
  cases failed

theorem failsAtUnfit_closing : FailsAtUnfit bound (expect .rightParen) := by
  intro cursor _ expected rest failed
  rw [expect_apply] at failed
  split at failed
  · cases failed
  · rename_i other
    cases failed
    exact .closing other

theorem FailsAtUnfit.bind {first : Production α} {next : α → Production β}
    (early : FailsAtUnfit bound first) (forward : Forward first)
    (late : ∀ value, FailsAtUnfit bound (next value)) :
    FailsAtUnfit bound (first >>= next) := by
  intro cursor few expected rest failed
  rcases Computation.bind_eq_error_iff.1 failed with
    failed | ⟨value, middle, success, failed⟩
  · exact early cursor few expected rest failed
  · have fewer := (forward cursor).length_le
    rw [success] at fewer
    exact late value middle (Nat.lt_of_le_of_lt fewer few) expected rest failed

theorem failsAtUnfit_operandWith {inner : Production Expr}
    (unfit : FailsAtUnfit bound inner) (forward : Forward inner) :
    FailsAtUnfit (bound + 1) (operandWith inner) := by
  intro cursor few expected rest failed
  rw [operandWith, current_bind_apply] at failed
  cases ahead : cursor.current.kind with
  | intLiteral _ | stringLiteral _ | ident _ =>
      simp only [ahead] at failed
      cases failed
  | leftParen =>
      simp only [ahead] at failed
      -- the parenthesis is left, so fewer tokens are left to what it encloses
      have fewer : cursor.advance.size < cursor.size := by
        apply Cursor.advance_size_lt
        rw [ahead]
        exact TokenKind.noConfusion
      have grouped : FailsAtUnfit bound (do
          let expression ← inner
          expect .rightParen
          return expression) := by
        apply unfit.bind forward
        intro expression
        apply failsAtUnfit_closing.bind (forward_expect _)
        intro _
        exact failsAtUnfit_pure _
      exact grouped cursor.advance (by omega) expected rest failed
  | _ =>
      simp only [ahead] at failed
      cases failed
      apply Unfit.operand
      all_goals simp [ahead]

theorem failsAtUnfit_expressionWith {operand : Production Expr}
    (unfit : FailsAtUnfit bound operand) (forward : Forward operand) :
    FailsAtUnfit bound (expressionWith operand) := by
  have behind {cursor : Cursor} (few : cursor.size < bound) :
      cursor.advance.size < bound :=
    Nat.lt_of_le_of_lt cursor.advance_suffix.length_le few
  intro cursor few expected rest failed
  rw [expressionWith, current_bind_apply] at failed
  by_cases ahead : cursor.current.kind = .exclamation
  · rw [if_pos ahead, advance_bind_apply] at failed
    exact unfit.bind forward (fun _ => failsAtUnfit_pure _) cursor.advance
      (behind few) expected rest failed
  · rw [if_neg ahead] at failed
    refine unfit.bind forward (fun left => ?_) cursor few expected rest failed
    intro middle fewer expected rest failed
    rw [current_bind_apply] at failed
    cases found : middle.current.kind.binaryOp? with
    | none =>
        simp only [found] at failed
        cases failed
    | some operator =>
        simp only [found] at failed
        exact unfit.bind forward (fun _ => failsAtUnfit_pure _) middle.advance
          (behind fewer) expected rest failed

theorem failsAtUnfit_expressionWithin (depth : Nat) :
    FailsAtUnfit depth (expressionWithin depth) := by
  induction depth with
  | zero => exact fun _ few => absurd few (Nat.not_lt_zero _)
  | succ depth inner =>
      have forward := staysInside_expressionWithin depth
      apply failsAtUnfit_expressionWith
      · exact failsAtUnfit_operandWith inner forward.forward
      · exact (staysInside_operandWith forward).forward

/-- An expression fails where an operand or a closing parenthesis is lacking. -/
theorem unfit_of_expression_error {cursor rest : Cursor} {expected : Expected}
    (failed : expression cursor = .error expected rest) :
    Unfit expected rest.current.kind :=
  failsAtUnfit_expressionWithin (cursor.size + 1) cursor (Nat.lt_succ_self _)
    expected rest failed

end Production

namespace Recovering

open Production (LoopHeader)

variable {α : Type} {cursor rest : Cursor}

theorem loopEnd_apply (header : LoopHeader) (body : List Stmt)
    (cursor : Cursor) :
    loopEnd header body cursor =
      if cursor.current.kind = .endWord then
        if cursor.advance.current.kind = .forWord then
          ⟨some (.loop header.index header.low header.high body
              header.position),
            (endStatement cursor.advance.advance).mismatches,
            (endStatement cursor.advance.advance).rest⟩
        else
          ⟨none, [⟨.token .forWord, cursor.advance.current⟩],
            cursor.advance.skipStatement⟩
      else ⟨none, [⟨.token .endWord, cursor.current⟩], cursor.skipLoop⟩ := by
  rw [loopEnd]
  by_cases isEnd : cursor.current.kind = .endWord
  · by_cases isFor : cursor.advance.current.kind = .forWord
    · simp [bind, attempt_expect, isEnd, isFor, pure]
    · simp [bind, attempt_expect, isEnd, isFor, pure, move]
  · simp [bind, attempt_expect, isEnd, pure, move]

theorem statement_of_for (ahead : cursor.current.kind = .forWord) :
    statement cursor = loopWith statements cursor := by
  change (if cursor.current.kind = .forWord then loopWith statements
    else simpleStatement) cursor = _
  rw [if_pos ahead]

/-- A loop with a broken header is skipped. -/
theorem statement_of_loop_error {expected : Expected}
    (ahead : cursor.current.kind = .forWord)
    (failed : Production.loopHeader cursor = .error expected rest) :
    statement cursor =
      ⟨none, [⟨expected, rest.current⟩], rest.skipLoop⟩ := by
  have attempted : attempt Production.loopHeader cursor =
      ⟨none, [⟨expected, rest.current⟩], rest⟩ := by
    rw [attempt, failed]
  rw [statement_of_for ahead]
  simp [loopWith, bind, attempted, pure, move]

/-- A loop goes on with its body and what closes it. -/
theorem statement_of_loop_ok {header : LoopHeader} {body : List Stmt}
    {mismatches : List Mismatch} {behind : Cursor}
    (ahead : cursor.current.kind = .forWord)
    (opened : Production.loopHeader cursor = .ok header rest)
    (read : statements rest = ⟨body, mismatches, behind⟩) :
    statement cursor =
      ⟨(loopEnd header body behind).value,
        mismatches ++ (loopEnd header body behind).mismatches,
        (loopEnd header body behind).rest⟩ := by
  have attempted : attempt Production.loopHeader cursor =
      ⟨some header, [], rest⟩ := by
    rw [attempt, opened]
  rw [statement_of_for ahead]
  simp [loopWith, bind, attempted, read]

/-- A reader that gives at most one mismatch, and one if it gives no value. -/
def Sparing (reader : Recovering (Option α)) : Prop :=
  ∀ cursor, (reader cursor).mismatches.length ≤ 1 ∧
    ((reader cursor).value = none → (reader cursor).mismatches.length = 1)

theorem endStatement_mismatches_length (cursor : Cursor) :
    (endStatement cursor).mismatches.length ≤ 1 := by
  rw [endStatement_apply]
  split <;> simp

theorem sparing_simpleStatement : Sparing simpleStatement := by
  intro cursor
  cases outcome : Production.simpleStatement cursor with
  | ok statement rest =>
      rw [simpleStatement_of_ok outcome]
      refine ⟨endStatement_mismatches_length rest, ?_⟩
      intro dropped
      cases dropped
  | error expected rest =>
      rw [simpleStatement_of_error outcome]
      exact ⟨Nat.le_refl _, fun _ => rfl⟩

theorem sparing_loopEnd (header : LoopHeader) (body : List Stmt) :
    Sparing (loopEnd header body) := by
  intro cursor
  rw [loopEnd_apply]
  split
  · split
    · refine ⟨endStatement_mismatches_length _, ?_⟩
      intro dropped
      cases dropped
    · exact ⟨Nat.le_refl _, fun _ => rfl⟩
  · exact ⟨Nat.le_refl _, fun _ => rfl⟩

/-- The places from which one statement after another is read, up to the place
where none begins. -/
inductive Calls : Cursor → List Cursor → Cursor → Prop where
  | done {cursor : Cursor} :
      cursor.current.kind.startsStatement = false →
      Calls cursor [] cursor
  | call {cursor rest : Cursor} {calls : List Cursor} :
      cursor.current.kind.startsStatement = true →
      Calls (statement cursor).rest calls rest →
      Calls cursor (cursor :: calls) rest

/-- The places from which the statements in the body of a loop are read.  No
other statement has a body, and neither has a loop with a broken header. -/
inductive BodyCalls : Cursor → List Cursor → Prop where
  | simple {cursor : Cursor} :
      cursor.current.kind ≠ .forWord →
      BodyCalls cursor []
  | broken {cursor rest : Cursor} {expected : Expected} :
      cursor.current.kind = .forWord →
      Production.loopHeader cursor = .error expected rest →
      BodyCalls cursor []
  | loop {cursor rest behind : Cursor} {header : LoopHeader}
      {calls : List Cursor} :
      cursor.current.kind = .forWord →
      Production.loopHeader cursor = .ok header rest →
      Calls rest calls behind →
      BodyCalls cursor calls

theorem statement_rest_suffix
    (starts : cursor.current.kind.startsStatement = true) :
    (statement cursor).rest.remaining <:+ cursor.advance.remaining :=
  statementWith_suffix forward_statements starts

/-- A row of statements gives the mismatches of each of them. -/
theorem statements_calls (cursor : Cursor) :
    ∃ calls, Calls cursor calls (statements cursor).rest ∧
      (statements cursor).mismatches =
        calls.flatMap fun call => (statement call).mismatches := by
  -- every statement leaves a token, so what remains gets shorter
  induction size : cursor.size using Nat.strongRecOn generalizing cursor with
  | ind bound induction =>
      subst size
      cases starts : cursor.current.kind.startsStatement with
      | false =>
          rw [statements_of_unfit starts]
          exact ⟨[], .done starts, rfl⟩
      | true =>
          have shorter := size_lt_of_suffix (ne_endOfInput_of_starts starts)
            (statement_rest_suffix starts)
          obtain ⟨calls, called, mismatches⟩ := induction _ shorter _ rfl
          rw [statements_after_statement starts]
          refine ⟨cursor :: calls, .call starts called, ?_⟩
          simp [Recovered.after, mismatches]

/-- Besides those of the statements in its body, a statement gives at most one
mismatch, and one if it is dropped. -/
theorem statement_mismatches (cursor : Cursor) :
    ∃ calls own, BodyCalls cursor calls ∧
      (statement cursor).mismatches =
        calls.flatMap (fun call => (statement call).mismatches) ++ own ∧
      own.length ≤ 1 ∧
      ((statement cursor).value = none → own.length = 1) := by
  by_cases ahead : cursor.current.kind = .forWord
  · cases outcome : Production.loopHeader cursor with
    | error expected rest =>
        rw [statement_of_loop_error ahead outcome]
        exact ⟨[], _, .broken ahead outcome, rfl, Nat.le_refl _, fun _ => rfl⟩
    | ok header rest =>
        obtain ⟨calls, called, mismatches⟩ := statements_calls rest
        cases read : statements rest with
        | mk body earlier behind =>
            rw [read] at called mismatches
            change earlier = _ at mismatches
            obtain ⟨atMost, exactly⟩ := sparing_loopEnd header body behind
            rw [statement_of_loop_ok ahead outcome read, mismatches]
            exact ⟨calls, _, .loop ahead outcome called, rfl, atMost, exactly⟩
  · obtain ⟨atMost, exactly⟩ := sparing_simpleStatement cursor
    rw [statement_of_simple ahead]
    exact ⟨[], _, .simple ahead, rfl, atMost, exactly⟩

theorem skipStray_apply (cursor : Cursor) :
    skipStray cursor =
      ⟨(), [⟨.token .endOfInput, cursor.current⟩],
        if cursor.current.kind = .endWord then cursor.advance.skipStatement
        else cursor.skipStatement⟩ := by
  by_cases isEnd : cursor.current.kind = .endWord
  · simp [skipStray, bind, mismatch, current, isEnd, move]
  · simp [skipStray, bind, mismatch, current, isEnd, move]

theorem skipStray_rest_size (inside : cursor.current.kind ≠ .endOfInput) :
    (skipStray cursor).rest.size < cursor.size := by
  rw [skipStray_apply]
  dsimp only
  split
  · exact Nat.lt_of_le_of_lt cursor.advance.skipStatement_size_le
      (Cursor.advance_size_lt inside)
  · rename_i noEnd
    exact Cursor.skipStatement_size_lt inside noEnd

theorem statementsToEnd_of_stray (fuel : Nat)
    (stray : (statements cursor).rest.current.kind ≠ .endOfInput) :
    statementsToEnd (fuel + 1) cursor =
      (statementsToEnd fuel (skipStray (statements cursor).rest).rest).after
        (statements cursor).value
        ((statements cursor).mismatches ++
          (skipStray (statements cursor).rest).mismatches) := by
  simp [statementsToEnd, bind, current, stray, pure, Recovered.after]

theorem skipStray_statements_size
    (stray : (statements cursor).rest.current.kind ≠ .endOfInput) :
    (skipStray (statements cursor).rest).rest.size < cursor.size :=
  Nat.lt_of_lt_of_le (skipStray_rest_size stray)
    (forward_statements cursor).length_le

/-- More stretches of stray tokens than tokens are never needed. -/
theorem statementsToEnd_ends {fuel : Nat} (enough : cursor.size < fuel) :
    (statementsToEnd fuel cursor).rest.current.kind = .endOfInput := by
  induction fuel generalizing cursor with
  | zero => exact absurd enough (Nat.not_lt_zero _)
  | succ fuel induction =>
      by_cases atEnd : (statements cursor).rest.current.kind = .endOfInput
      · rw [statementsToEnd_of_end fuel atEnd]
        exact atEnd
      · have shorter := skipStray_statements_size atEnd
        rw [statementsToEnd_of_stray fuel atEnd]
        exact induction (by omega)

/-- Every bound above the number of tokens gives the same reading. -/
theorem statementsToEnd_eq (fuel : Nat) {more : Nat} {cursor : Cursor}
    (enough : cursor.size < fuel) (alsoEnough : cursor.size < more) :
    statementsToEnd fuel cursor = statementsToEnd more cursor := by
  induction fuel generalizing more cursor with
  | zero => exact absurd enough (Nat.not_lt_zero _)
  | succ fuel induction =>
      cases more with
      | zero => exact absurd alsoEnough (Nat.not_lt_zero _)
      | succ more =>
          by_cases atEnd : (statements cursor).rest.current.kind = .endOfInput
          · rw [statementsToEnd_of_end fuel atEnd,
              statementsToEnd_of_end more atEnd]
          · have shorter := skipStray_statements_size atEnd
            have behind : statementsToEnd fuel
                  (skipStray (statements cursor).rest).rest =
                statementsToEnd more
                  (skipStray (statements cursor).rest).rest :=
              induction (by omega) (by omega)
            rw [statementsToEnd_of_stray fuel atEnd,
              statementsToEnd_of_stray more atEnd, behind]

/-- Reads statements up to the end of the input, with any number of stretches
of stray tokens between them. -/
def allStatements : Recovering (List Stmt) := do
  statementsToEnd ((← size) + 1)

theorem allStatements_eq_within {fuel : Nat} (enough : cursor.size < fuel) :
    allStatements cursor = statementsToEnd fuel cursor := by
  change statementsToEnd (cursor.size + 1) cursor = _
  exact statementsToEnd_eq _ (Nat.lt_succ_self _) enough

theorem program_eq :
    program = (do
      let first ← statement
      let others ← allStatements
      return first.toList ++ others : Recovering Program) :=
  rfl

theorem allStatements_of_end
    (atEnd : (statements cursor).rest.current.kind = .endOfInput) :
    allStatements cursor = statements cursor :=
  statementsToEnd_of_end cursor.size atEnd

theorem allStatements_of_stray
    (stray : (statements cursor).rest.current.kind ≠ .endOfInput) :
    allStatements cursor =
      (allStatements (skipStray (statements cursor).rest).rest).after
        (statements cursor).value
        ((statements cursor).mismatches ++
          (skipStray (statements cursor).rest).mismatches) := by
  rw [allStatements_eq_within (Nat.lt_succ_self _),
    statementsToEnd_of_stray cursor.size stray,
    allStatements_eq_within (skipStray_statements_size stray)]

/-- A statement that can begin is the first of all statements. -/
theorem allStatements_after_statement
    (starts : cursor.current.kind.startsStatement = true) :
    allStatements cursor =
      (allStatements (statement cursor).rest).after
        (statement cursor).value.toList (statement cursor).mismatches := by
  have row := statements_after_statement starts
  have sameEnd : (statements cursor).rest =
      (statements (statement cursor).rest).rest := by
    rw [row]
    rfl
  by_cases atEnd : (statements cursor).rest.current.kind = .endOfInput
  · have others := allStatements_of_end (sameEnd ▸ atEnd)
    rw [allStatements_of_end atEnd, others, row]
  · have others := allStatements_of_stray (sameEnd ▸ atEnd)
    rw [allStatements_of_stray atEnd, others, row, Recovered.after_after]
    simp only [Recovered.after, List.append_assoc]

theorem program_apply (cursor : Cursor) :
    program cursor =
      (allStatements (statement cursor).rest).after
        (statement cursor).value.toList (statement cursor).mismatches := by
  rw [program_eq]
  simp [bind, pure, Recovered.after]

theorem program_ends (cursor : Cursor) :
    (program cursor).rest.current.kind = .endOfInput := by
  rw [program_apply]
  exact statementsToEnd_ends (Nat.lt_succ_self _)

theorem statement_leaves_token
    (starts : cursor.current.kind.startsStatement = true) :
    ∃ token used, cursor.remaining =
      token :: (used ++ (statement cursor).rest.remaining) := by
  obtain ⟨used, behind⟩ := statement_rest_suffix starts
  obtain ⟨remaining, last⟩ := cursor
  cases remaining with
  | nil => cases starts
  | cons token following =>
      exact ⟨token, used, congrArg (token :: ·) behind.symm⟩

/-- Reading an expression gives one mismatch if it fails, at a token that is
not what is lacking there, and none if it succeeds. -/
theorem expression_mismatches (cursor : Cursor) :
    ((attempt Production.expression cursor).value = none →
      ∃ expected,
        (attempt Production.expression cursor).mismatches =
            [⟨expected, (attempt Production.expression cursor).rest.current⟩] ∧
          Production.Unfit expected
            (attempt Production.expression cursor).rest.current.kind) ∧
    ∀ value, (attempt Production.expression cursor).value = some value →
      (attempt Production.expression cursor).mismatches = [] := by
  unfold attempt
  cases outcome : Production.expression cursor with
  | ok value rest => simp
  | error expected rest =>
      have unfit := Production.unfit_of_expression_error outcome
      simp [unfit]

/-- An expression is read without a mismatch from the tokens of a phrase, and
with one where no phrase goes on. -/
theorem expression_outcome (ended : cursor.Ended) :
    expressions.Outcome (fun phrase => some phrase.tree) cursor
      (verdict (attempt Production.expression) cursor) := by
  have outcome := Production.expression_readBy.outcome cursor ended
    (Nat.lt_succ_self _)
  unfold Production.verdict at outcome
  unfold verdict attempt
  cases result : Production.expression cursor with
  | ok value rest =>
      rw [result] at outcome
      cases outcome with
      | accepted phrase ended reading stopped =>
          exact .accepted phrase ended reading stopped
  | error expected rest =>
      rw [result] at outcome
      cases outcome with
      | refused reading breaks => exact .refused reading breaks

/-- Wherever reading begins, each failure gives one mismatch.  An expression
gives one if it cannot be read, at a token that it does not go on with, and
none otherwise; a statement gives at most one of its own, and one if it is
dropped; a statement that can begin leaves a token; and a program is read to
the end of the input. -/
theorem one_mismatch_for_each_failure (cursor : Cursor) :
    (((attempt Production.expression cursor).value = none →
        ∃ expected,
          (attempt Production.expression cursor).mismatches =
              [⟨expected,
                (attempt Production.expression cursor).rest.current⟩] ∧
            Production.Unfit expected
              (attempt Production.expression cursor).rest.current.kind) ∧
      (∀ value, (attempt Production.expression cursor).value = some value →
        (attempt Production.expression cursor).mismatches = []) ∧
      (cursor.Ended →
        expressions.Outcome (fun phrase => some phrase.tree) cursor
          (verdict (attempt Production.expression) cursor))) ∧
    (∃ calls own, BodyCalls cursor calls ∧
      (statement cursor).mismatches =
        calls.flatMap (fun call => (statement call).mismatches) ++ own ∧
      own.length ≤ 1 ∧
      ((statement cursor).value = none → own.length = 1)) ∧
    (cursor.current.kind.startsStatement = true →
      ∃ token used, cursor.remaining =
        token :: (used ++ (statement cursor).rest.remaining)) ∧
    (program cursor).rest.current.kind = .endOfInput := by
  obtain ⟨failure, success⟩ := expression_mismatches cursor
  refine ⟨⟨failure, success, ?_⟩, statement_mismatches cursor, ?_,
    program_ends cursor⟩
  · intro ended
    exact expression_outcome ended
  · intro starts
    exact statement_leaves_token starts

end Recovering

end TinyImp
