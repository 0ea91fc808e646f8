import TinyImp.Grammar.Program
import TinyImp.Proofs.Computation

/-!
# Progress of readers

Readers only go forward: what they leave to be read is a rest of what they
found, whether they fail on the way or not.  Behind the first token of a
statement, no production leaves a token that ends a statement or that opens or
closes a loop.  A statement that can begin leaves at least its first token.
So the number of tokens bounds how many statements can be read in a row and
how deep parentheses can be nested, and `Recovering.statements_of_starts`
unfolds the reading of statements without counting steps.
-/

namespace TinyImp

/-- The kinds of tokens that neither end a statement nor open or close a
loop. -/
def TokenKind.isInside : TokenKind → Bool
  | .semicolon | .forWord | .endWord | .endOfInput => false
  | _ => true

theorem TokenKind.isInside_of_binaryOp? {kind : TokenKind}
    {operator : BinaryOp} (found : kind.binaryOp? = some operator) :
    kind.isInside = true := by
  cases kind <;> cases found <;> rfl

theorem TokenKind.ne_endOfInput_of_binaryOp? {kind : TokenKind}
    {operator : BinaryOp} (found : kind.binaryOp? = some operator) :
    kind ≠ .endOfInput := by
  intro isEnd
  rw [isEnd] at found
  cases found

variable {α β : Type} {cursor : Cursor}

namespace Cursor

theorem advance_suffix (cursor : Cursor) :
    cursor.advance.remaining <:+ cursor.remaining := by
  obtain ⟨remaining, last⟩ := cursor
  cases remaining with
  | nil => exact List.suffix_rfl
  | cons token following => exact List.suffix_cons token following

theorem skipStatementFrom_suffix (last : Position) (tokens : List Token) :
    (skipStatementFrom last tokens).remaining <:+ tokens := by
  induction tokens generalizing last with
  | nil => exact List.suffix_rfl
  | cons token following induction =>
      rw [skipStatementFrom]
      split
      · exact List.suffix_rfl
      · exact List.suffix_rfl
      · exact List.suffix_cons token following
      · exact (induction token.position).trans
          (List.suffix_cons token following)

theorem skipLoopFrom_suffix (depth : Nat) (last : Position)
    (tokens : List Token) :
    (skipLoopFrom depth last tokens).remaining <:+ tokens := by
  fun_induction skipLoopFrom depth last tokens with
  | case1 => exact List.suffix_rfl
  | case2 => exact List.suffix_rfl
  | case3 _ _ token following _ induction =>
      exact induction.trans (List.suffix_cons token following)
  | case4 => exact List.nil_suffix
  | case5 => exact List.nil_suffix
  | case6 _ token _ second _ third others _ =>
      exact List.suffix_append [token, second, third] others
  | case7 _ token _ second _ third others _ _ induction =>
      exact induction.trans (List.suffix_append [token, second, third] others)
  | case8 _ _ token _ second _ third others _ induction =>
      exact induction.trans
        (List.suffix_append [token, second] (third :: others))
  | case9 _ _ token _ second behind _ induction =>
      exact induction.trans (List.suffix_cons token (second :: behind))
  | case10 _ _ token following _ _ _ induction =>
      exact induction.trans (List.suffix_cons token following)

theorem skipStatement_eq (cursor : Cursor) :
    cursor.skipStatement =
      if cursor.current.kind = .endOfInput ∨ cursor.current.kind = .endWord then
        cursor
      else if cursor.current.kind = .semicolon then cursor.advance
      else cursor.advance.skipStatement := by
  obtain ⟨remaining, last⟩ := cursor
  cases remaining with
  | nil => rfl
  | cons token following =>
      obtain ⟨kind, position⟩ := token
      cases kind <;> rfl

/-- Skips the rest of a loop around `depth` loops inside it. -/
def skipDeeper (depth : Nat) (cursor : Cursor) : Cursor :=
  skipLoopFrom depth cursor.last cursor.remaining

theorem skipDeeper_eq (depth : Nat) (cursor : Cursor) :
    cursor.skipDeeper depth =
      if cursor.current.kind = .endOfInput then cursor
      else if cursor.current.kind = .forWord then
        cursor.advance.skipDeeper (depth + 1)
      else if cursor.current.kind = .endWord ∧
          cursor.advance.current.kind = .forWord then
        if cursor.advance.advance.current.kind = .semicolon then
          if depth = 0 then cursor.advance.advance.advance
          else cursor.advance.advance.advance.skipDeeper (depth - 1)
        else cursor.advance.advance.skipDeeper depth
      else cursor.advance.skipDeeper depth := by
  obtain ⟨remaining, last⟩ := cursor
  cases remaining with
  | nil => rfl
  | cons token following =>
      obtain ⟨kind, position⟩ := token
      cases kind with
      | endWord =>
          cases following with
          | nil => rfl
          | cons second behind =>
              by_cases isFor : second.kind = .forWord
              · cases behind with
                | nil => simp [skipDeeper, skipLoopFrom, current, advance, isFor]
                | cons third others =>
                    by_cases closed : third.kind = .semicolon
                    · cases depth <;>
                        simp [skipDeeper, skipLoopFrom, current, advance, isFor,
                          closed]
                    · simp [skipDeeper, skipLoopFrom, current, advance, isFor,
                        closed]
              · have other : skipLoopFrom depth last
                      (⟨.endWord, position⟩ :: second :: behind) =
                    skipLoopFrom depth position (second :: behind) := by
                  rw [skipLoopFrom.eq_def]
                  exact if_neg isFor
                simp [skipDeeper, other, current, advance, isFor]
      | _ => rfl

/-- From one cursor to another, no token is left that could open or close a
loop or end a statement. -/
def Passes (cursor rest : Cursor) : Prop :=
  ∃ used, cursor.remaining = used ++ rest.remaining ∧
    ∀ token ∈ used, token.kind.isInside = true

variable {middle rest : Cursor}

theorem Passes.refl (cursor : Cursor) : cursor.Passes cursor :=
  ⟨[], rfl, by simp⟩

theorem Passes.trans (early : cursor.Passes middle)
    (late : middle.Passes rest) : cursor.Passes rest := by
  obtain ⟨used, ahead, inside⟩ := early
  obtain ⟨more, further, insideMore⟩ := late
  refine ⟨used ++ more, by rw [ahead, further, List.append_assoc], ?_⟩
  intro token member
  rcases List.mem_append.mp member with member | member
  · exact inside token member
  · exact insideMore token member

theorem passes_advance (inside : cursor.current.kind.isInside = true) :
    cursor.Passes cursor.advance := by
  obtain ⟨remaining, last⟩ := cursor
  cases remaining with
  | nil => cases inside
  | cons token following =>
      refine ⟨[token], rfl, ?_⟩
      intro other member
      rw [List.mem_singleton.mp member]
      exact inside

theorem Passes.suffix (passes : cursor.Passes rest) :
    rest.remaining <:+ cursor.remaining := by
  obtain ⟨used, ahead, _⟩ := passes
  exact ⟨used, ahead.symm⟩

end Cursor

namespace Production

/-- What is left to be read, whether a production has failed or not. -/
def left : EStateM.Result Expected Cursor α → Cursor
  | .ok _ rest | .error _ rest => rest

/-- A production that leaves a rest of the tokens. -/
def Forward (production : Production α) : Prop :=
  ∀ cursor, (left (production cursor)).remaining <:+ cursor.remaining

theorem current_bind_apply (next : Token → Production β) (cursor : Cursor) :
    (current >>= next) cursor = next cursor.current cursor :=
  rfl

theorem advance_bind_apply (next : Unit → Production β) (cursor : Cursor) :
    (advance >>= next) cursor = next () cursor.advance :=
  rfl

theorem ident_of_kind {name : String}
    (ahead : cursor.current.kind = .ident name) :
    ident cursor = .ok ⟨name, cursor.current.position⟩ cursor.advance := by
  rw [ident, current_bind_apply]
  simp only [ahead]
  rfl

theorem forward_expect (kind : TokenKind) : Forward (expect kind) := by
  intro cursor
  rw [expect, current_bind_apply]
  split
  · exact cursor.advance_suffix
  · exact List.suffix_rfl

/-- A production that leaves no token which could open or close a loop or end
a statement. -/
def StaysInside (production : Production α) : Prop :=
  ∀ cursor : Cursor, cursor.Passes (left (production cursor))

theorem StaysInside.forward {production : Production α}
    (inside : StaysInside production) : Forward production :=
  fun cursor => (inside cursor).suffix

theorem staysInside_pure (value : α) : StaysInside (pure value) :=
  Cursor.Passes.refl

theorem staysInside_throw (expected : Expected) :
    StaysInside (throw expected : Production α) :=
  Cursor.Passes.refl

theorem StaysInside.bind {first : Production α} {next : α → Production β}
    (early : StaysInside first) (late : ∀ value, StaysInside (next value)) :
    StaysInside (first >>= next) := by
  intro cursor
  have before := early cursor
  cases outcome : first cursor with
  | ok value middle =>
      rw [outcome] at before
      rw [Computation.bind_of_ok outcome]
      exact before.trans (late value middle)
  | error expected middle =>
      rw [outcome] at before
      rw [Computation.bind_of_error outcome]
      exact before

theorem passes_advance_bind {next : Unit → Production β} {kind : TokenKind}
    (ahead : cursor.current.kind = kind) (inside : kind.isInside = true)
    (late : StaysInside (next ())) :
    cursor.Passes (left ((advance >>= next) cursor)) := by
  rw [← ahead] at inside
  rw [advance_bind_apply]
  exact (Cursor.passes_advance inside).trans (late cursor.advance)

theorem staysInside_expect {kind : TokenKind} (inside : kind.isInside = true) :
    StaysInside (expect kind) := by
  intro cursor
  rw [expect, current_bind_apply]
  by_cases ahead : cursor.current.kind = kind
  · rw [if_pos ahead]
    exact Cursor.passes_advance (ahead ▸ inside)
  · rw [if_neg ahead]
    exact .refl cursor

theorem staysInside_ident : StaysInside ident := by
  intro cursor
  rw [ident, current_bind_apply]
  cases ahead : cursor.current.kind with
  | ident name => exact passes_advance_bind ahead rfl (staysInside_pure _)
  | _ => exact .refl cursor

theorem staysInside_type : StaysInside type := by
  intro cursor
  rw [type, current_bind_apply]
  cases ahead : cursor.current.kind with
  | intType | stringType | boolType =>
      exact passes_advance_bind ahead rfl (staysInside_pure _)
  | _ => exact .refl cursor

theorem staysInside_operandWith {inner : Production Expr}
    (innerInside : StaysInside inner) : StaysInside (operandWith inner) := by
  intro cursor
  rw [operandWith, current_bind_apply]
  cases ahead : cursor.current.kind with
  | intLiteral _ | stringLiteral _ | ident _ =>
      exact passes_advance_bind ahead rfl (staysInside_pure _)
  | leftParen =>
      apply passes_advance_bind ahead rfl
      apply innerInside.bind
      intro expression
      apply (staysInside_expect rfl).bind
      intro _
      exact staysInside_pure _
  | _ => exact .refl cursor

theorem staysInside_expressionWith {operand : Production Expr}
    (operandInside : StaysInside operand) :
    StaysInside (expressionWith operand) := by
  intro cursor
  rw [expressionWith, current_bind_apply]
  by_cases ahead : cursor.current.kind = .exclamation
  · rw [if_pos ahead]
    apply passes_advance_bind ahead rfl
    exact operandInside.bind fun _ => staysInside_pure _
  · rw [if_neg ahead]
    refine operandInside.bind (fun operand => ?_) cursor
    intro rest
    rw [current_bind_apply]
    cases found : rest.current.kind.binaryOp? with
    | none => exact .refl rest
    | some operator =>
        apply passes_advance_bind rfl (TokenKind.isInside_of_binaryOp? found)
        exact operandInside.bind fun _ => staysInside_pure _

theorem staysInside_expressionWithin (depth : Nat) :
    StaysInside (expressionWithin depth) := by
  induction depth with
  | zero => exact staysInside_throw _
  | succ depth inner =>
      apply staysInside_expressionWith
      exact staysInside_operandWith inner

theorem staysInside_expression : StaysInside expression :=
  fun cursor => staysInside_expressionWithin (cursor.size + 1) cursor

theorem staysInside_initial : StaysInside initial := by
  intro cursor
  rw [initial, current_bind_apply]
  by_cases ahead : cursor.current.kind = .assign
  · rw [if_pos ahead]
    apply passes_advance_bind ahead rfl
    exact staysInside_expression.bind fun _ => staysInside_pure _
  · rw [if_neg ahead]
    exact .refl cursor

/-- A statement other than a loop leaves its first token, and stays inside
behind it. -/
theorem simpleStatement_passes
    (starts : cursor.current.kind.startsStatement = true)
    (noLoop : cursor.current.kind ≠ .forWord) :
    cursor.advance.Passes (left (simpleStatement cursor)) := by
  rw [simpleStatement, current_bind_apply]
  cases ahead : cursor.current.kind with
  | varWord =>
      refine (staysInside_ident.bind fun name => ?_) cursor.advance
      refine (staysInside_expect rfl).bind fun _ => ?_
      refine staysInside_type.bind fun type => ?_
      exact staysInside_initial.bind fun _ => staysInside_pure _
  | ident name =>
      dsimp only
      rw [Computation.bind_of_ok (ident_of_kind ahead)]
      refine ((staysInside_expect rfl).bind fun _ => ?_) cursor.advance
      exact staysInside_expression.bind fun _ => staysInside_pure _
  | readWord =>
      exact (staysInside_ident.bind fun _ => staysInside_pure _) cursor.advance
  | printWord =>
      exact (staysInside_expression.bind fun _ => staysInside_pure _)
        cursor.advance
  | assertWord =>
      refine ((staysInside_expect rfl).bind fun _ => ?_) cursor.advance
      refine staysInside_expression.bind fun condition => ?_
      exact (staysInside_expect rfl).bind fun _ => staysInside_pure _
  | forWord => exact absurd ahead noLoop
  | _ => simp [ahead, TokenKind.startsStatement] at starts

/-- The header of a loop leaves its `for`, and stays inside behind it. -/
theorem loopHeader_passes (ahead : cursor.current.kind = .forWord) :
    cursor.advance.Passes (left (loopHeader cursor)) := by
  have taken : expect .forWord cursor = .ok () cursor.advance := by
    rw [expect, current_bind_apply, if_pos ahead]
    rfl
  rw [loopHeader, current_bind_apply, Computation.bind_of_ok taken]
  refine (staysInside_ident.bind fun index => ?_) cursor.advance
  refine (staysInside_expect rfl).bind fun _ => ?_
  refine staysInside_expression.bind fun low => ?_
  refine (staysInside_expect rfl).bind fun _ => ?_
  refine staysInside_expression.bind fun high => ?_
  exact (staysInside_expect rfl).bind fun _ => staysInside_pure _

end Production

namespace Recovering

/-- A recovering reader that leaves a rest of the tokens. -/
def Forward (reader : Recovering α) : Prop :=
  ∀ cursor, (reader cursor).rest.remaining <:+ cursor.remaining

theorem forward_pure (value : α) : Forward (pure value) :=
  fun _ => List.suffix_rfl

theorem forward_move {skip : Cursor → Cursor}
    (forward : ∀ cursor, (skip cursor).remaining <:+ cursor.remaining) :
    Forward (move skip) :=
  forward

theorem forward_skipStatement : Forward (move Cursor.skipStatement) :=
  forward_move fun cursor =>
    Cursor.skipStatementFrom_suffix cursor.last cursor.remaining

theorem forward_skipLoop : Forward (move Cursor.skipLoop) :=
  forward_move fun cursor =>
    Cursor.skipLoopFrom_suffix 0 cursor.last cursor.remaining

theorem bind_suffix {first : Recovering α} {next : α → Recovering β}
    (late : ∀ value, Forward (next value)) (cursor : Cursor) :
    ((first >>= next) cursor).rest.remaining <:+
      (first cursor).rest.remaining :=
  late _ _

theorem Forward.bind {first : Recovering α} {next : α → Recovering β}
    (early : Forward first) (late : ∀ value, Forward (next value)) :
    Forward (first >>= next) :=
  fun cursor => (bind_suffix late cursor).trans (early cursor)

theorem forward_current_bind {next : Token → Recovering β}
    (late : ∀ token, Forward (next token)) : Forward (current >>= next) :=
  fun cursor => late cursor.current cursor

theorem attempt_rest (production : Production α) (cursor : Cursor) :
    (attempt production cursor).rest =
      Production.left (production cursor) := by
  unfold attempt
  cases production cursor <;> rfl

theorem forward_attempt {production : Production α}
    (forward : Production.Forward production) :
    Forward (attempt production) := by
  intro cursor
  rw [attempt_rest]
  exact forward cursor

theorem forward_endStatement : Forward endStatement := by
  refine (forward_attempt (Production.forward_expect _)).bind fun found => ?_
  split
  · exact forward_pure _
  · refine forward_current_bind fun token => ?_
    split
    · exact forward_pure _
    · exact forward_skipStatement

theorem forward_loopEnd (header : Production.LoopHeader) (body : List Stmt) :
    Forward (loopEnd header body) := by
  refine (forward_attempt (Production.forward_expect _)).bind fun found => ?_
  split
  · exact forward_skipLoop.bind fun _ => forward_pure _
  · refine (forward_attempt (Production.forward_expect _)).bind fun found => ?_
    split
    · exact forward_skipStatement.bind fun _ => forward_pure _
    · exact forward_endStatement.bind fun _ => forward_pure _

/-- A statement leaves its first token, given that the bodies of loops are
read forward. -/
theorem statementWith_suffix {body : Recovering (List Stmt)}
    (forward : Forward body)
    (starts : cursor.current.kind.startsStatement = true) :
    (statementWith body cursor).rest.remaining <:+
      cursor.advance.remaining := by
  change ((if cursor.current.kind = .forWord then loopWith body
    else simpleStatement) cursor).rest.remaining <:+ _
  by_cases ahead : cursor.current.kind = .forWord
  · have header := (Production.loopHeader_passes ahead).suffix
    rw [← attempt_rest] at header
    rw [if_pos ahead]
    refine (bind_suffix (fun found => ?_) cursor).trans header
    split
    · exact forward_skipLoop.bind fun _ => forward_pure _
    · exact forward.bind fun block => forward_loopEnd _ block
  · have form := (Production.simpleStatement_passes starts ahead).suffix
    rw [← attempt_rest] at form
    rw [if_neg ahead]
    refine (bind_suffix (fun found => ?_) cursor).trans form
    split
    · exact forward_endStatement.bind fun _ => forward_pure _
    · exact forward_skipStatement.bind fun _ => forward_pure _

theorem statementsWithin_succ (fuel : Nat) (cursor : Cursor) :
    statementsWithin (fuel + 1) cursor =
      (if cursor.current.kind.startsStatement = true then do
        let statement ← statementWith (statementsWithin fuel)
        let others ← statementsWithin fuel
        return statement.toList ++ others
      else return [] : Recovering (List Stmt)) cursor :=
  rfl

theorem forward_statementsWithin (fuel : Nat) :
    Forward (statementsWithin fuel) := by
  induction fuel with
  | zero => exact forward_pure _
  | succ fuel inner =>
      intro cursor
      rw [statementsWithin_succ]
      split
      · rename_i starts
        refine (bind_suffix (fun statement => ?_) cursor).trans ?_
        · exact inner.bind fun _ => forward_pure _
        · exact (statementWith_suffix inner starts).trans cursor.advance_suffix
      · exact List.suffix_rfl

/-- How a reader goes on matters only where it goes on. -/
theorem bind_congr {first : Recovering α} {next other : α → Recovering β}
    (agree : next (first cursor).value (first cursor).rest =
      other (first cursor).value (first cursor).rest) :
    (first >>= next) cursor = (first >>= other) cursor := by
  simp only [bind, agree]

theorem bind_congr_first {first other : Recovering α}
    (agree : first cursor = other cursor) (next : α → Recovering β) :
    (first >>= next) cursor = (other >>= next) cursor := by
  simp only [bind, agree]

/-- A reader of statements uses the reader of loop bodies only behind the
first token. -/
theorem statementWith_congr {body other : Recovering (List Stmt)}
    (agree : ∀ rest : Cursor, rest.remaining <:+ cursor.advance.remaining →
      body rest = other rest) :
    statementWith body cursor = statementWith other cursor := by
  change (if cursor.current.kind = .forWord then loopWith body
      else simpleStatement) cursor =
    (if cursor.current.kind = .forWord then loopWith other
      else simpleStatement) cursor
  by_cases ahead : cursor.current.kind = .forWord
  · have header := (Production.loopHeader_passes ahead).suffix
    rw [← attempt_rest] at header
    rw [if_pos ahead, if_pos ahead]
    apply bind_congr
    cases (attempt Production.loopHeader cursor).value with
    | none => rfl
    | some found => exact bind_congr_first (agree _ header) _
  · rw [if_neg ahead, if_neg ahead]

theorem size_lt_of_suffix {rest : Cursor}
    (inside : cursor.current.kind ≠ .endOfInput)
    (suffix : rest.remaining <:+ cursor.advance.remaining) :
    rest.size < cursor.size := by
  obtain ⟨remaining, last⟩ := cursor
  cases remaining with
  | nil => exact absurd rfl inside
  | cons token following => exact Nat.lt_succ_of_le suffix.length_le

theorem ne_endOfInput_of_starts
    (starts : cursor.current.kind.startsStatement = true) :
    cursor.current.kind ≠ .endOfInput := by
  intro isEnd
  rw [isEnd] at starts
  cases starts

/-- Every bound above the number of tokens gives the same reading. -/
theorem statementsWithin_eq (fuel : Nat) {more : Nat} {cursor : Cursor}
    (enough : cursor.size < fuel) (alsoEnough : cursor.size < more) :
    statementsWithin fuel cursor = statementsWithin more cursor := by
  induction fuel generalizing more cursor with
  | zero => exact absurd enough (Nat.not_lt_zero _)
  | succ fuel induction =>
      cases more with
      | zero => exact absurd alsoEnough (Nat.not_lt_zero _)
      | succ more =>
          rw [statementsWithin_succ, statementsWithin_succ]
          by_cases starts : cursor.current.kind.startsStatement = true
          · have inside := ne_endOfInput_of_starts starts
            have agree : ∀ rest : Cursor,
                rest.remaining <:+ cursor.advance.remaining →
                statementsWithin fuel rest = statementsWithin more rest := by
              intro rest suffix
              have shorter := size_lt_of_suffix inside suffix
              exact induction (by omega) (by omega)
            rw [if_pos starts, if_pos starts,
              bind_congr_first (statementWith_congr agree)]
            apply bind_congr
            apply bind_congr_first
            exact agree _
              (statementWith_suffix (forward_statementsWithin more) starts)
          · rw [if_neg starts, if_neg starts]

theorem statements_eq_within {fuel : Nat} (enough : cursor.size < fuel) :
    statements cursor = statementsWithin fuel cursor := by
  change statementsWithin (cursor.size + 1) cursor = _
  exact statementsWithin_eq _ (Nat.lt_succ_self _) enough

theorem statements_of_unfit
    (unfit : cursor.current.kind.startsStatement = false) :
    statements cursor = ⟨[], [], cursor⟩ := by
  rw [statements_eq_within (Nat.lt_succ_self _), statementsWithin_succ, unfit]
  rfl

/-- Statements are read one after another as long as one can begin. -/
theorem statements_of_starts
    (starts : cursor.current.kind.startsStatement = true) :
    statements cursor = (do
      let first ← statement
      let others ← statements
      return first.toList ++ others : Recovering (List Stmt)) cursor := by
  have inside := ne_endOfInput_of_starts starts
  have agree : ∀ rest : Cursor, rest.remaining <:+ cursor.advance.remaining →
      statementsWithin cursor.size rest = statements rest := by
    intro rest suffix
    exact (statements_eq_within (size_lt_of_suffix inside suffix)).symm
  rw [statements_eq_within (Nat.lt_succ_self _), statementsWithin_succ,
    if_pos starts, bind_congr_first (statementWith_congr agree)]
  apply bind_congr
  apply bind_congr_first
  apply agree
  exact statementWith_suffix
    (fun rest => forward_statementsWithin (rest.size + 1) rest) starts

end Recovering

namespace Production

/-- An operand uses the reader of expressions only behind a parenthesis. -/
theorem operandWith_congr {inner other : Production Expr}
    (agree : cursor.current.kind = .leftParen →
      inner cursor.advance = other cursor.advance) :
    operandWith inner cursor = operandWith other cursor := by
  rw [operandWith, operandWith, current_bind_apply, current_bind_apply]
  cases ahead : cursor.current.kind with
  | leftParen =>
      dsimp only
      rw [advance_bind_apply, advance_bind_apply]
      exact Computation.bind_congr_first (agree ahead)
  | _ => rfl

/-- An expression uses the reader of operands at its beginning and behind. -/
theorem expressionWith_congr {operand other : Production Expr}
    (forward : Forward operand)
    (agree : ∀ rest : Cursor, rest.remaining <:+ cursor.remaining →
      operand rest = other rest) :
    expressionWith operand cursor = expressionWith other cursor := by
  rw [expressionWith, expressionWith, current_bind_apply, current_bind_apply]
  by_cases ahead : cursor.current.kind = .exclamation
  · rw [if_pos ahead, if_pos ahead, advance_bind_apply, advance_bind_apply]
    exact Computation.bind_congr_first (agree _ cursor.advance_suffix)
  · rw [if_neg ahead, if_neg ahead,
      Computation.bind_congr_first (agree cursor List.suffix_rfl).symm]
    refine Computation.bind_congr fun left rest read => ?_
    have behind := forward cursor
    rw [read] at behind
    rw [current_bind_apply, current_bind_apply]
    cases rest.current.kind.binaryOp? with
    | none => rfl
    | some operator =>
        dsimp only
        rw [advance_bind_apply, advance_bind_apply]
        apply Computation.bind_congr_first
        exact agree _ (rest.advance_suffix.trans behind)

/-- Every bound above the number of tokens gives the same expression. -/
theorem expressionWithin_eq (depth : Nat) {more : Nat} {cursor : Cursor}
    (enough : cursor.size < depth) (alsoEnough : cursor.size < more) :
    expressionWithin depth cursor = expressionWithin more cursor := by
  induction depth generalizing more cursor with
  | zero => exact absurd enough (Nat.not_lt_zero _)
  | succ depth induction =>
      cases more with
      | zero => exact absurd alsoEnough (Nat.not_lt_zero _)
      | succ more =>
          have inner := staysInside_expressionWithin depth
          apply expressionWith_congr (staysInside_operandWith inner).forward
          intro rest suffix
          apply operandWith_congr
          intro isParen
          have inside : rest.current.kind ≠ .endOfInput := by simp [isParen]
          have shorter : rest.advance.size < rest.size :=
            Recovering.size_lt_of_suffix inside List.suffix_rfl
          have behind : rest.size ≤ cursor.size := suffix.length_le
          exact induction (by omega) (by omega)

theorem expression_eq_within {depth : Nat} (enough : cursor.size < depth) :
    expression cursor = expressionWithin depth cursor := by
  change expressionWithin (cursor.size + 1) cursor = _
  exact expressionWithin_eq _ (Nat.lt_succ_self _) enough

end Production

end TinyImp
