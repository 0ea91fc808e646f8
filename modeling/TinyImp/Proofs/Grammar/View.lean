import TinyImp.Proofs.Grammar.Failures
import TinyImp.Proofs.Rephrasing.Basic

/-!
# Reading through a view

A view shows a stream of tokens in another way: every place may become another
place, and what stands behind the end of the input may be anything.  All that
readers do with the tokens is to look at the kind of the one in view and to
leave it, and they never leave the end of the input.  So what is read through
a view is what is read without it, at the places of the view: the program, the
mismatches and the tokens that are left.
-/

namespace TinyImp

variable {α β : Type}

section Places

variable (place : Position → Position)

def Token.relocate (token : Token) : Token :=
  ⟨token.kind, place token.position⟩

def Mismatch.relocate (mismatch : Mismatch) : Mismatch :=
  ⟨mismatch.expected, mismatch.found.relocate place⟩

def Production.LoopHeader.relocate (header : LoopHeader) : LoopHeader :=
  ⟨header.index.relocate place, header.low.relocate place,
    header.high.relocate place, place header.position⟩

variable {place}

theorem Program.append_relocate (block others : List Stmt) :
    Program.relocate place block ++ Program.relocate place others =
      Program.relocate place (block ++ others) := by
  simp only [relocate, Stmt.rephraseList_eq_map, List.map_append]

theorem Program.toList_append_relocate (first : Option Stmt)
    (others : List Stmt) :
    (first.map (Stmt.relocate place)).toList ++ Program.relocate place others =
      Program.relocate place (first.toList ++ others) := by
  cases first with
  | none => rfl
  | some statement => rfl

end Places

/-- Another way to show streams of tokens.  The token in view is the same but
for its place, and behind it the view goes on, unless the input ends. -/
structure View where
  place : Position → Position
  cursor : Cursor → Cursor
  current : ∀ shown,
    (cursor shown).current = shown.current.relocate place
  advance : ∀ shown, shown.current.kind ≠ .endOfInput →
    (cursor shown).advance = cursor shown.advance

namespace View

variable (view : View) (cursor : Cursor)

theorem current_kind :
    (view.cursor cursor).current.kind = cursor.current.kind := by
  rw [view.current]
  rfl

theorem skipStatement :
    (view.cursor cursor).skipStatement = view.cursor cursor.skipStatement := by
  induction size : cursor.size using Nat.strongRecOn generalizing cursor with
  | ind bound induction =>
      subst size
      rw [Cursor.skipStatement_eq, cursor.skipStatement_eq, view.current_kind]
      by_cases stops : cursor.current.kind = .endOfInput ∨
          cursor.current.kind = .endWord
      · rw [if_pos stops, if_pos stops]
      · have inside : cursor.current.kind ≠ .endOfInput :=
          fun isEnd => stops (.inl isEnd)
        rw [if_neg stops, if_neg stops, view.advance cursor inside]
        by_cases closed : cursor.current.kind = .semicolon
        · rw [if_pos closed, if_pos closed]
        · rw [if_neg closed, if_neg closed]
          exact induction _ (Cursor.advance_size_lt inside) _ rfl

theorem skipDeeper (depth : Nat) :
    (view.cursor cursor).skipDeeper depth =
      view.cursor (cursor.skipDeeper depth) := by
  induction size : cursor.size using Nat.strongRecOn
    generalizing depth cursor with
  | ind bound induction =>
      subst size
      rw [Cursor.skipDeeper_eq, cursor.skipDeeper_eq, view.current_kind]
      by_cases isEnd : cursor.current.kind = .endOfInput
      · rw [if_pos isEnd, if_pos isEnd]
      rw [if_neg isEnd, if_neg isEnd, view.advance cursor isEnd]
      have first := Cursor.advance_size_lt isEnd
      by_cases isFor : cursor.current.kind = .forWord
      · rw [if_pos isFor, if_pos isFor]
        exact induction _ first _ _ rfl
      rw [if_neg isFor, if_neg isFor, view.current_kind]
      by_cases closes : cursor.current.kind = .endWord ∧
          cursor.advance.current.kind = .forWord
      · have inside : cursor.advance.current.kind ≠ .endOfInput := by
          simp [closes.2]
        have second := Cursor.advance_size_lt inside
        rw [if_pos closes, if_pos closes, view.advance _ inside,
          view.current_kind]
        by_cases closed : cursor.advance.advance.current.kind = .semicolon
        · have still : cursor.advance.advance.current.kind ≠ .endOfInput := by
            simp [closed]
          have third := Cursor.advance_size_lt still
          rw [if_pos closed, if_pos closed, view.advance _ still]
          by_cases outermost : depth = 0
          · rw [if_pos outermost, if_pos outermost]
          · rw [if_neg outermost, if_neg outermost]
            exact induction _ (by omega) _ _ rfl
        · rw [if_neg closed, if_neg closed]
          exact induction _ (by omega) _ _ rfl
      · rw [if_neg closes, if_neg closes]
        exact induction _ first _ _ rfl

theorem skipLoop :
    (view.cursor cursor).skipLoop = view.cursor cursor.skipLoop :=
  view.skipDeeper cursor 0

end View

variable {view : View} {cursor : Cursor}

/-! ## Productions -/

namespace Production

/-- The outcome of a reading as it is through a view. -/
def moved (view : View) (move : α → α) :
    EStateM.Result Expected Cursor α → EStateM.Result Expected Cursor α
  | .ok value rest => .ok (move value) (view.cursor rest)
  | .error expected rest => .error expected (view.cursor rest)

/-- From this cursor on, the second production reads through a view what the
first one reads without it. -/
def FollowsAt (view : View) (move : α → α) (first second : Production α)
    (cursor : Cursor) : Prop :=
  second (view.cursor cursor) = moved view move (first cursor)

def Follows (view : View) (move : α → α) (first second : Production α) :
    Prop :=
  ∀ cursor, FollowsAt view move first second cursor

theorem follows_pure {move : α → α} {value other : α}
    (same : other = move value) :
    Follows view move (pure value) (pure other) := by
  intro cursor
  rw [same]
  rfl

theorem follows_throw {move : α → α} (expected : Expected) :
    Follows view move (throw expected) (throw expected) :=
  fun _ => rfl

theorem Follows.bind {first second : Production α}
    {next other : α → Production β} {move : α → α} {change : β → β}
    (early : Follows view move first second)
    (late : ∀ value, Follows view change (next value) (other (move value))) :
    Follows view change (first >>= next) (second >>= other) := by
  intro cursor
  have movedEarly : second (view.cursor cursor) = _ := early cursor
  rw [FollowsAt]
  cases outcome : first cursor with
  | ok value rest =>
      rw [outcome] at movedEarly
      rw [Computation.bind_of_ok outcome, Computation.bind_of_ok movedEarly]
      exact late value rest
  | error expected rest =>
      rw [outcome] at movedEarly
      rw [Computation.bind_of_error outcome,
        Computation.bind_of_error movedEarly]
      rfl

/-- What is done about the token in view may depend on its kind. -/
theorem follows_current_bind {next other : Token → Production β}
    {change : β → β}
    (late : ∀ cursor : Cursor, FollowsAt view change (next cursor.current)
      (other ⟨cursor.current.kind, view.place cursor.current.position⟩)
      cursor) :
    Follows view change (current >>= next) (current >>= other) := by
  intro cursor
  rw [FollowsAt, current_bind_apply, current_bind_apply, view.current]
  exact late cursor

/-- A token that does not end the input is left in both ways. -/
theorem followsAt_advance_bind {next other : Unit → Production β}
    {change : β → β} {kind : TokenKind}
    (ahead : cursor.current.kind = kind) (inside : kind ≠ .endOfInput)
    (late : Follows view change (next ()) (other ())) :
    FollowsAt view change (advance >>= next) (advance >>= other) cursor := by
  rw [← ahead] at inside
  rw [FollowsAt, advance_bind_apply, advance_bind_apply,
    view.advance cursor inside]
  exact late cursor.advance

theorem follows_expect {kind : TokenKind} (inside : kind ≠ .endOfInput) :
    Follows view id (expect kind) (expect kind) := by
  refine follows_current_bind fun cursor => ?_
  dsimp only
  split
  · rename_i ahead
    exact congrArg (EStateM.Result.ok ()) (view.advance cursor (ahead ▸ inside))
  · exact follows_throw _ cursor

theorem follows_ident :
    Follows view (Ident.relocate view.place) ident ident := by
  refine follows_current_bind fun cursor => ?_
  cases ahead : cursor.current.kind with
  | ident name =>
      exact followsAt_advance_bind ahead (by simp) (follows_pure rfl)
  | _ => exact follows_throw _ cursor

theorem follows_type : Follows view id type type := by
  refine follows_current_bind fun cursor => ?_
  cases ahead : cursor.current.kind with
  | intType | stringType | boolType =>
      exact followsAt_advance_bind ahead (by simp) (follows_pure rfl)
  | _ => exact follows_throw _ cursor

theorem follows_operandWith {inner : Production Expr}
    (innerFollows : Follows view (Expr.relocate view.place) inner inner) :
    Follows view (Expr.relocate view.place) (operandWith inner)
      (operandWith inner) := by
  refine follows_current_bind fun cursor => ?_
  cases ahead : cursor.current.kind with
  | intLiteral _ | stringLiteral _ | ident _ =>
      exact followsAt_advance_bind ahead (by simp) (follows_pure rfl)
  | leftParen =>
      apply followsAt_advance_bind ahead (by simp)
      refine innerFollows.bind fun value => ?_
      exact (follows_expect (by simp)).bind fun _ => follows_pure rfl
  | _ => exact follows_throw _ cursor

theorem follows_expressionWith {operand : Production Expr}
    (operandFollows : Follows view (Expr.relocate view.place) operand operand) :
    Follows view (Expr.relocate view.place) (expressionWith operand)
      (expressionWith operand) := by
  refine follows_current_bind fun cursor => ?_
  dsimp only
  by_cases ahead : cursor.current.kind = .exclamation
  · rw [if_pos ahead, if_pos ahead]
    apply followsAt_advance_bind ahead (by simp)
    exact operandFollows.bind fun _ => follows_pure rfl
  · rw [if_neg ahead, if_neg ahead]
    refine operandFollows.bind (fun left => ?_) cursor
    refine follows_current_bind fun rest => ?_
    dsimp only
    cases found : rest.current.kind.binaryOp? with
    | none => exact follows_pure rfl rest
    | some operator =>
        apply followsAt_advance_bind rfl
          (TokenKind.ne_endOfInput_of_binaryOp? found)
        exact operandFollows.bind fun _ => follows_pure rfl

theorem follows_expressionWithin (depth : Nat) :
    Follows view (Expr.relocate view.place) (expressionWithin depth)
      (expressionWithin depth) := by
  induction depth with
  | zero => exact follows_throw _
  | succ depth inner =>
      exact follows_expressionWith (follows_operandWith inner)

/-- A view may show more tokens or fewer, so the bounds on nested parentheses
differ, but neither of them is reached. -/
theorem follows_expression :
    Follows view (Expr.relocate view.place) expression expression := by
  intro cursor
  let depth := (view.cursor cursor).size + cursor.size + 1
  have through : expression (view.cursor cursor) =
      expressionWithin depth (view.cursor cursor) :=
    expression_eq_within (by omega)
  have without : expression cursor = expressionWithin depth cursor :=
    expression_eq_within (by omega)
  rw [FollowsAt, through, without]
  exact follows_expressionWithin depth cursor

theorem follows_initial :
    Follows view (Option.map (Expr.relocate view.place)) initial initial := by
  refine follows_current_bind fun cursor => ?_
  dsimp only
  split
  · rename_i ahead
    apply followsAt_advance_bind ahead (by simp)
    exact follows_expression.bind fun _ => follows_pure rfl
  · exact follows_pure rfl cursor

theorem follows_simpleStatement :
    Follows view (Stmt.relocate view.place) simpleStatement
      simpleStatement := by
  refine follows_current_bind fun cursor => ?_
  cases ahead : cursor.current.kind with
  | varWord =>
      apply followsAt_advance_bind ahead (by simp)
      refine follows_ident.bind fun name => ?_
      refine (follows_expect (by simp)).bind fun _ => ?_
      refine follows_type.bind fun type => ?_
      exact follows_initial.bind fun initial => follows_pure rfl
  | ident name =>
      refine follows_ident.bind (fun target => ?_) cursor
      refine (follows_expect (by simp)).bind fun _ => ?_
      exact follows_expression.bind fun value => follows_pure rfl
  | readWord =>
      apply followsAt_advance_bind ahead (by simp)
      exact follows_ident.bind fun target => follows_pure rfl
  | printWord =>
      apply followsAt_advance_bind ahead (by simp)
      exact follows_expression.bind fun value => follows_pure rfl
  | assertWord =>
      apply followsAt_advance_bind ahead (by simp)
      refine (follows_expect (by simp)).bind fun _ => ?_
      refine follows_expression.bind fun condition => ?_
      exact (follows_expect (by simp)).bind fun _ => follows_pure rfl
  | _ => exact follows_throw _ cursor

theorem follows_loopHeader :
    Follows view (LoopHeader.relocate view.place) loopHeader loopHeader := by
  refine follows_current_bind fun cursor => ?_
  refine (follows_expect (by simp)).bind (fun _ => ?_) cursor
  refine follows_ident.bind fun index => ?_
  refine (follows_expect (by simp)).bind fun _ => ?_
  refine follows_expression.bind fun low => ?_
  refine (follows_expect (by simp)).bind fun _ => ?_
  refine follows_expression.bind fun high => ?_
  exact (follows_expect (by simp)).bind fun _ => follows_pure rfl

end Production

/-! ## Recovering readers -/

/-- What a recovering reader gives, as it is through a view. -/
def Recovered.through (view : View) (move : α → α)
    (recovered : Recovered α) : Recovered α where
  value := move recovered.value
  mismatches := recovered.mismatches.map (Mismatch.relocate view.place)
  rest := view.cursor recovered.rest

namespace Recovering

/-- From this cursor on, the second reader gives through a view what the first
one gives without it. -/
def FollowsAt (view : View) (move : α → α) (first second : Recovering α)
    (cursor : Cursor) : Prop :=
  second (view.cursor cursor) = (first cursor).through view move

def Follows (view : View) (move : α → α) (first second : Recovering α) :
    Prop :=
  ∀ cursor, FollowsAt view move first second cursor

theorem follows_pure {move : α → α} {value other : α}
    (same : other = move value) :
    Follows view move (pure value) (pure other) := by
  intro cursor
  rw [same]
  rfl

theorem bind_apply (first : Recovering α) (next : α → Recovering β)
    (cursor : Cursor) :
    (first >>= next : Recovering β) cursor =
      let early := first cursor
      let late := next early.value early.rest
      ⟨late.value, early.mismatches ++ late.mismatches, late.rest⟩ :=
  rfl

theorem FollowsAt.bind {first second : Recovering α}
    {next other : α → Recovering β} {move : α → α} {change : β → β}
    (early : FollowsAt view move first second cursor)
    (late : ∀ value, Follows view change (next value) (other (move value))) :
    FollowsAt view change (first >>= next) (second >>= other) cursor := by
  have movedLate :
      other ((first cursor).through view move).value
          ((first cursor).through view move).rest =
        (next (first cursor).value (first cursor).rest).through view change :=
    late (first cursor).value (first cursor).rest
  rw [FollowsAt, bind_apply, bind_apply, early]
  dsimp only
  rw [movedLate]
  simp only [Recovered.through, List.map_append]

theorem Follows.bind {first second : Recovering α}
    {next other : α → Recovering β} {move : α → α} {change : β → β}
    (early : Follows view move first second)
    (late : ∀ value, Follows view change (next value) (other (move value))) :
    Follows view change (first >>= next) (second >>= other) :=
  fun cursor => (early cursor).bind late

theorem follows_current_bind {next other : Token → Recovering β}
    {change : β → β}
    (late : ∀ cursor : Cursor, FollowsAt view change (next cursor.current)
      (other ⟨cursor.current.kind, view.place cursor.current.position⟩)
      cursor) :
    Follows view change (current >>= next) (current >>= other) := by
  intro cursor
  have moved := late cursor
  have same : ⟨cursor.current.kind, view.place cursor.current.position⟩ =
      (view.cursor cursor).current := (view.current cursor).symm
  rw [same] at moved
  exact moved

theorem followsAt_move {skip : Cursor → Cursor}
    (skipped : skip (view.cursor cursor) = view.cursor (skip cursor)) :
    FollowsAt view id (move skip) (move skip) cursor := by
  simp only [FollowsAt, move, Recovered.through, skipped, List.map_nil, id]

theorem follows_mismatch (expected : Expected) :
    Follows view id (mismatch expected) (mismatch expected) := by
  intro cursor
  rw [FollowsAt, mismatch, view.current]
  rfl

theorem follows_attempt {first second : Production α} {move : α → α}
    (follows : Production.Follows view move first second) :
    Follows view (Option.map move) (attempt first) (attempt second) := by
  intro cursor
  have moved : second (view.cursor cursor) = _ := follows cursor
  rw [FollowsAt, attempt, attempt, moved]
  cases first cursor with
  | ok value rest => rfl
  | error expected rest =>
      simp only [Production.moved, view.current rest]
      rfl

theorem follows_attempt_expect {kind : TokenKind}
    (inside : kind ≠ .endOfInput) :
    Follows view (Option.map id) (attempt (Production.expect kind))
      (attempt (Production.expect kind)) :=
  follows_attempt (Production.follows_expect inside)

theorem follows_skipStatement :
    Follows view id (move Cursor.skipStatement)
      (move Cursor.skipStatement) :=
  fun cursor => followsAt_move (view.skipStatement cursor)

theorem follows_skipLoop :
    Follows view id (move Cursor.skipLoop) (move Cursor.skipLoop) :=
  fun cursor => followsAt_move (view.skipLoop cursor)

theorem follows_endStatement :
    Follows view id endStatement endStatement := by
  refine (follows_attempt_expect (by simp)).bind fun found => ?_
  cases found with
  | some found => exact follows_pure rfl
  | none =>
      refine follows_current_bind fun cursor => ?_
      dsimp only
      split
      · exact follows_pure rfl cursor
      · exact follows_skipStatement cursor

theorem follows_simpleStatement :
    Follows view (Option.map (Stmt.relocate view.place)) simpleStatement
      simpleStatement := by
  refine (follows_attempt Production.follows_simpleStatement).bind
    fun read => ?_
  cases read with
  | some statement =>
      exact follows_endStatement.bind fun _ => follows_pure rfl
  | none => exact follows_skipStatement.bind fun _ => follows_pure rfl

theorem follows_loopEnd (header : Production.LoopHeader)
    (body : List Stmt) :
    Follows view (Option.map (Stmt.relocate view.place)) (loopEnd header body)
      (loopEnd (header.relocate view.place)
        (Program.relocate view.place body)) := by
  refine (follows_attempt_expect (by simp)).bind fun ending => ?_
  cases ending with
  | none => exact follows_skipLoop.bind fun _ => follows_pure rfl
  | some ending =>
      refine (follows_attempt_expect (by simp)).bind fun word => ?_
      cases word with
      | none => exact follows_skipStatement.bind fun _ => follows_pure rfl
      | some word =>
          exact follows_endStatement.bind fun _ => follows_pure rfl

theorem follows_loopWith {body : Recovering (List Stmt)}
    (bodyFollows : Follows view (Program.relocate view.place) body body) :
    Follows view (Option.map (Stmt.relocate view.place)) (loopWith body)
      (loopWith body) := by
  refine (follows_attempt Production.follows_loopHeader).bind
    fun read => ?_
  cases read with
  | none => exact follows_skipLoop.bind fun _ => follows_pure rfl
  | some header =>
      exact bodyFollows.bind fun block => follows_loopEnd header block

theorem follows_statementWith {body : Recovering (List Stmt)}
    (bodyFollows : Follows view (Program.relocate view.place) body body) :
    Follows view (Option.map (Stmt.relocate view.place)) (statementWith body)
      (statementWith body) := by
  refine follows_current_bind fun cursor => ?_
  dsimp only
  split
  · exact follows_loopWith bodyFollows cursor
  · exact follows_simpleStatement cursor

theorem follows_statementsWithin (fuel : Nat) :
    Follows view (Program.relocate view.place) (statementsWithin fuel)
      (statementsWithin fuel) := by
  induction fuel with
  | zero => exact follows_pure rfl
  | succ fuel inner =>
      refine follows_current_bind fun cursor => ?_
      dsimp only
      split
      · refine (follows_statementWith inner).bind (fun read => ?_) cursor
        refine inner.bind fun others => follows_pure ?_
        exact Program.toList_append_relocate read others
      · exact follows_pure rfl cursor

/-- As for expressions, neither of the two bounds is reached. -/
theorem follows_statements :
    Follows view (Program.relocate view.place) statements statements := by
  intro cursor
  let fuel := (view.cursor cursor).size + cursor.size + 1
  have through : statements (view.cursor cursor) =
      statementsWithin fuel (view.cursor cursor) :=
    statements_eq_within (by omega)
  have without : statements cursor = statementsWithin fuel cursor :=
    statements_eq_within (by omega)
  rw [FollowsAt, through, without]
  exact follows_statementsWithin fuel cursor

theorem follows_skipStray : Follows view id skipStray skipStray := by
  refine (follows_mismatch _).bind fun _ => ?_
  refine follows_current_bind fun cursor => ?_
  dsimp only
  split
  · rename_i isEnd
    have inside : cursor.current.kind ≠ .endOfInput := by simp [isEnd]
    refine (followsAt_move (view.advance cursor inside)).bind fun _ => ?_
    exact follows_skipStatement
  · exact follows_skipStatement cursor

theorem follows_statementsToEnd (fuel : Nat) :
    Follows view (Program.relocate view.place) (statementsToEnd fuel)
      (statementsToEnd fuel) := by
  induction fuel with
  | zero => exact follows_pure rfl
  | succ fuel inner =>
      refine follows_statements.bind fun read => ?_
      refine follows_current_bind fun cursor => ?_
      dsimp only
      split
      · exact follows_pure rfl cursor
      · refine follows_skipStray.bind (fun _ => ?_) cursor
        refine inner.bind fun others => follows_pure ?_
        exact Program.append_relocate read others

theorem follows_allStatements :
    Follows view (Program.relocate view.place) allStatements allStatements := by
  intro cursor
  let fuel := (view.cursor cursor).size + cursor.size + 1
  have through : allStatements (view.cursor cursor) =
      statementsToEnd fuel (view.cursor cursor) :=
    allStatements_eq_within (by omega)
  have without : allStatements cursor = statementsToEnd fuel cursor :=
    allStatements_eq_within (by omega)
  rw [FollowsAt, through, without]
  exact follows_statementsToEnd fuel cursor

/-- A program is read through a view as it is read without it. -/
theorem follows_program :
    Follows view (Program.relocate view.place) program program := by
  rw [program_eq]
  refine (follows_statementWith follows_statements).bind fun first => ?_
  refine follows_allStatements.bind fun others => ?_
  exact follows_pure (Program.toList_append_relocate first others)

end Recovering

end TinyImp
