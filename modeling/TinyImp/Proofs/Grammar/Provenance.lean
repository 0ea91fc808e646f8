import TinyImp.Proofs.Grammar.Failures
import TinyImp.Proofs.Tree.Naming

/-!
# Where readings come from

Whatever a reader gives it takes from the tokens in front of it.  A stream
that contains an end of the input is never left beyond it, so the token in
view is always one of the stream.  Hence every name, every literal and every
place in a program that is read is that of a token, and every mismatch is
found at a token, one after another on a way that only goes forward.  All of
this holds of broken streams as well, since a reader that goes on after a
mismatch goes on among the same tokens.
-/

namespace TinyImp

variable {α β : Type} {tokens : List Token} {cursor middle rest : Cursor}

/-! ## Trees drawn from tokens -/

/-- One of these tokens stands at this place. -/
def Token.StandsAt (tokens : List Token) (position : Position) : Prop :=
  ∃ token ∈ tokens, token.position = position

/-- The name of one of these tokens. -/
def Token.Names (tokens : List Token) (name : String) : Prop :=
  ∃ token ∈ tokens, token.kind = .ident name

theorem Token.mem_of_kind {token : Token} {kind : TokenKind}
    (member : token ∈ tokens) (isKind : token.kind = kind) :
    ⟨kind, token.position⟩ ∈ tokens :=
  isKind ▸ member

/-- The name is that of the token at its place. -/
def Ident.DrawnFrom (tokens : List Token) (ident : Ident) : Prop :=
  ⟨.ident ident.name, ident.position⟩ ∈ tokens

/-- Names and literals are those of the tokens at their places, and at the
place of every other node there is a token. -/
def Expr.DrawnFrom (tokens : List Token) : Expr → Prop
  | .number value position => ⟨.intLiteral value, position⟩ ∈ tokens
  | .text value position => ⟨.stringLiteral value, position⟩ ∈ tokens
  | .named name position => ⟨.ident name, position⟩ ∈ tokens
  | .lone operand position | .negation operand position =>
      Token.StandsAt tokens position ∧ operand.DrawnFrom tokens
  | .binary _ left right position =>
      Token.StandsAt tokens position ∧ left.DrawnFrom tokens ∧
        right.DrawnFrom tokens

mutual

def Stmt.DrawnFrom (tokens : List Token) : Stmt → Prop
  | .declare name _ initial position =>
      Token.StandsAt tokens position ∧ name.DrawnFrom tokens ∧
        ∀ value ∈ initial, value.DrawnFrom tokens
  | .assign target value position =>
      Token.StandsAt tokens position ∧ target.DrawnFrom tokens ∧
        value.DrawnFrom tokens
  | .loop index low high body position =>
      Token.StandsAt tokens position ∧ index.DrawnFrom tokens ∧
        low.DrawnFrom tokens ∧ high.DrawnFrom tokens ∧
        Stmt.DrawnFromList tokens body
  | .read target position =>
      Token.StandsAt tokens position ∧ target.DrawnFrom tokens
  | .print value position | .assert value position =>
      Token.StandsAt tokens position ∧ value.DrawnFrom tokens

def Stmt.DrawnFromList (tokens : List Token) : List Stmt → Prop
  | [] => True
  | statement :: others =>
      statement.DrawnFrom tokens ∧ Stmt.DrawnFromList tokens others

end

/-- The header of a loop is drawn from these tokens. -/
structure Production.LoopHeader.DrawnFrom (tokens : List Token)
    (header : LoopHeader) : Prop where
  position : Token.StandsAt tokens header.position
  index : header.index.DrawnFrom tokens
  low : header.low.DrawnFrom tokens
  high : header.high.DrawnFrom tokens

theorem Stmt.DrawnFromList.append {block others : List Stmt}
    (left : Stmt.DrawnFromList tokens block)
    (right : Stmt.DrawnFromList tokens others) :
    Stmt.DrawnFromList tokens (block ++ others) := by
  induction block with
  | nil => exact right
  | cons statement block induction => exact ⟨left.1, induction left.2⟩

theorem Stmt.DrawnFromList.ofOption {statement : Option Stmt}
    (drawn : ∀ read ∈ statement, read.DrawnFrom tokens) :
    Stmt.DrawnFromList tokens statement.toList := by
  cases statement with
  | none => trivial
  | some read => exact ⟨drawn read rfl, trivial⟩

theorem Ident.DrawnFrom.names {ident : Ident} (drawn : ident.DrawnFrom tokens) :
    Token.Names tokens ident.name :=
  ⟨_, drawn, rfl⟩

theorem Expr.DrawnFrom.namedBy {expression : Expr}
    (drawn : expression.DrawnFrom tokens) :
    expression.NamedBy (Token.Names tokens) := by
  induction expression with
  | number _ _ | text _ _ => trivial
  | named name position => exact ⟨_, drawn, rfl⟩
  | lone operand _ induction | negation operand _ induction =>
      exact induction drawn.2
  | binary _ left right _ leftInduction rightInduction =>
      exact ⟨leftInduction drawn.2.1, rightInduction drawn.2.2⟩

mutual

theorem Stmt.DrawnFrom.namedBy {statement : Stmt}
    (drawn : statement.DrawnFrom tokens) :
    statement.NamedBy (Token.Names tokens) := by
  cases statement with
  | declare name type initial position =>
      exact ⟨drawn.2.1.names, fun value member =>
        (drawn.2.2 value member).namedBy⟩
  | assign target value position =>
      exact ⟨drawn.2.1.names, drawn.2.2.namedBy⟩
  | loop index low high body position =>
      obtain ⟨_, indexDrawn, lowDrawn, highDrawn, bodyDrawn⟩ := drawn
      exact ⟨indexDrawn.names, lowDrawn.namedBy, highDrawn.namedBy,
        Stmt.DrawnFromList.namedBy bodyDrawn⟩
  | read target position => exact drawn.2.names
  | print value position | assert value position => exact drawn.2.namedBy

theorem Stmt.DrawnFromList.namedBy {block : List Stmt}
    (drawn : Stmt.DrawnFromList tokens block) :
    Stmt.NamedByList (Token.Names tokens) block := by
  cases block with
  | nil => trivial
  | cons statement others =>
      exact ⟨Stmt.DrawnFrom.namedBy drawn.1,
        Stmt.DrawnFromList.namedBy drawn.2⟩

end

/-! ## Ways that keep the end of the input ahead -/

namespace Cursor

/-- From one cursor to another, tokens are left, but no end of the input. -/
def Reaches (cursor rest : Cursor) : Prop :=
  ∃ used, cursor.remaining = used ++ rest.remaining ∧
    ∀ token ∈ used, token.kind ≠ .endOfInput

theorem Reaches.refl (cursor : Cursor) : cursor.Reaches cursor :=
  ⟨[], rfl, List.forall_mem_nil _⟩

theorem Reaches.trans (early : cursor.Reaches middle)
    (late : middle.Reaches rest) : cursor.Reaches rest := by
  obtain ⟨used, ahead, inside⟩ := early
  obtain ⟨more, further, insideMore⟩ := late
  refine ⟨used ++ more, by rw [ahead, further, List.append_assoc], ?_⟩
  exact List.forall_mem_append.2 ⟨inside, insideMore⟩

theorem Reaches.suffix (reaches : cursor.Reaches rest) :
    rest.remaining <:+ cursor.remaining := by
  obtain ⟨used, ahead, _⟩ := reaches
  exact ⟨used, ahead.symm⟩

theorem reaches_advance (inside : cursor.current.kind ≠ .endOfInput) :
    cursor.Reaches cursor.advance := by
  obtain ⟨remaining, last⟩ := cursor
  cases remaining with
  | nil => exact absurd rfl inside
  | cons token following =>
      exact ⟨[token], rfl, List.forall_mem_singleton.2 inside⟩

theorem reaches_skipStatement (cursor : Cursor) :
    cursor.Reaches cursor.skipStatement := by
  induction size : cursor.size using Nat.strongRecOn generalizing cursor with
  | ind bound induction =>
      subst size
      rw [skipStatement_eq]
      split
      · exact .refl cursor
      · rename_i stops
        have inside : cursor.current.kind ≠ .endOfInput :=
          fun isEnd => stops (.inl isEnd)
        split
        · exact reaches_advance inside
        · exact (reaches_advance inside).trans
            (induction _ (advance_size_lt inside) _ rfl)

theorem reaches_skipDeeper (depth : Nat) (cursor : Cursor) :
    cursor.Reaches (cursor.skipDeeper depth) := by
  induction size : cursor.size using Nat.strongRecOn
    generalizing depth cursor with
  | ind bound induction =>
      subst size
      rw [skipDeeper_eq]
      by_cases isEnd : cursor.current.kind = .endOfInput
      · rw [if_pos isEnd]
        exact .refl cursor
      have first := reaches_advance isEnd
      have shorter := advance_size_lt isEnd
      rw [if_neg isEnd]
      by_cases isFor : cursor.current.kind = .forWord
      · rw [if_pos isFor]
        exact first.trans (induction _ shorter _ _ rfl)
      rw [if_neg isFor]
      -- `end`, `for` and `;` are left one by one, and each of them is no end
      by_cases closes : cursor.current.kind = .endWord ∧
          cursor.advance.current.kind = .forWord
      · have inside : cursor.advance.current.kind ≠ .endOfInput := by
          simp [closes.2]
        have second := first.trans (reaches_advance inside)
        have shorterStill := advance_size_lt inside
        rw [if_pos closes]
        by_cases closed : cursor.advance.advance.current.kind = .semicolon
        · have still : cursor.advance.advance.current.kind ≠ .endOfInput := by
            simp [closed]
          have third := second.trans (reaches_advance still)
          have shortest := advance_size_lt still
          rw [if_pos closed]
          split
          · exact third
          · exact third.trans (induction _ (by omega) _ _ rfl)
        · rw [if_neg closed]
          exact second.trans (induction _ (by omega) _ _ rfl)
      · rw [if_neg closes]
        exact first.trans (induction _ shorter _ _ rfl)

theorem reaches_skipLoop (cursor : Cursor) :
    cursor.Reaches cursor.skipLoop :=
  reaches_skipDeeper 0 cursor

/-- The cursor has only these tokens in front of it, and an end of the input
among them. -/
structure Within (tokens : List Token) (cursor : Cursor) : Prop where
  subset : cursor.remaining ⊆ tokens
  ended : cursor.Ended

theorem Within.current (within : cursor.Within tokens) :
    cursor.current ∈ tokens := by
  apply within.subset
  rw [within.ended.remaining_eq]
  exact List.mem_cons_self

theorem Reaches.within (reaches : cursor.Reaches rest)
    (within : cursor.Within tokens) : rest.Within tokens := by
  obtain ⟨used, ahead, inside⟩ := reaches
  obtain ⟨subset, token, member, isEnd⟩ := within
  rw [ahead] at subset member
  refine ⟨List.Subset.trans (List.subset_append_right used _) subset, token, ?_,
    isEnd⟩
  rcases List.mem_append.1 member with early | late
  · exact absurd isEnd (inside token early)
  · exact late

/-- On the way from one cursor to another these mismatches are met, each at
the token that is in view there. -/
inductive Finds : Cursor → List Mismatch → Cursor → Prop where
  | done {cursor : Cursor} : Finds cursor [] cursor
  | move {cursor middle rest : Cursor} {mismatches : List Mismatch} :
      cursor.Reaches middle →
      Finds middle mismatches rest →
      Finds cursor mismatches rest
  | meet {cursor rest : Cursor} {expected : Expected}
      {mismatches : List Mismatch} :
      Finds cursor mismatches rest →
      Finds cursor (⟨expected, cursor.current⟩ :: mismatches) rest

namespace Finds

variable {mismatches others : List Mismatch}

theorem append (early : Finds cursor mismatches middle)
    (late : Finds middle others rest) :
    Finds cursor (mismatches ++ others) rest := by
  induction early with
  | done => exact late
  | move reaches _ induction => exact .move reaches (induction late)
  | meet _ induction => exact .meet (induction late)

theorem reaches (finds : Finds cursor mismatches rest) :
    cursor.Reaches rest := by
  induction finds with
  | done => exact .refl _
  | move reaches _ induction => exact reaches.trans induction
  | meet _ induction => exact induction

/-- Mismatches are found at tokens that are ahead. -/
theorem found_mem (finds : Finds cursor mismatches rest)
    (within : cursor.Within tokens) :
    ∀ mismatch ∈ mismatches, mismatch.found ∈ tokens := by
  induction finds with
  | done => exact List.forall_mem_nil _
  | move reaches _ induction => exact induction (reaches.within within)
  | meet _ induction =>
      exact List.forall_mem_cons.2 ⟨within.current, induction within⟩

end Finds

end Cursor

/-! ## Productions -/

namespace Production

/-- From this cursor on, a production leaves no end of the input and reads only
such values. -/
def DrawsAt (tokens : List Token) (such : α → Prop)
    (production : Production α) (cursor : Cursor) : Prop :=
  cursor.Within tokens →
    cursor.Reaches (left (production cursor)) ∧
      ∀ value rest, production cursor = .ok value rest → such value

def Draws (tokens : List Token) (such : α → Prop)
    (production : Production α) : Prop :=
  ∀ cursor, DrawsAt tokens such production cursor

theorem draws_pure {such : α → Prop} {value : α} (fits : such value) :
    Draws tokens such (pure value) := by
  refine fun cursor _ => ⟨.refl cursor, fun given rest read => ?_⟩
  cases read
  exact fits

theorem draws_throw (expected : Expected) (such : α → Prop) :
    Draws tokens such (throw expected) := by
  refine fun cursor _ => ⟨.refl cursor, fun given rest read => ?_⟩
  cases read

theorem Draws.bind {first : Production α} {next : α → Production β}
    {such : α → Prop} {also : β → Prop} (early : Draws tokens such first)
    (late : ∀ value, such value → Draws tokens also (next value)) :
    Draws tokens also (first >>= next) := by
  intro cursor within
  obtain ⟨reaches, drawn⟩ := early cursor within
  cases outcome : first cursor with
  | ok value middle =>
      rw [outcome] at reaches
      rw [Computation.bind_of_ok outcome]
      obtain ⟨further, drawnBehind⟩ :=
        late value (drawn value middle outcome) middle (reaches.within within)
      exact ⟨Cursor.Reaches.trans reaches further, drawnBehind⟩
  | error expected middle =>
      rw [outcome] at reaches
      rw [Computation.bind_of_error outcome]
      refine ⟨reaches, fun value rest read => ?_⟩
      cases read

theorem draws_current_bind {next : Token → Production β} {also : β → Prop}
    (late : ∀ cursor : Cursor, cursor.current ∈ tokens →
      DrawsAt tokens also (next cursor.current) cursor) :
    Draws tokens also (current >>= next) := by
  intro cursor within
  rw [current_bind_apply]
  exact late cursor within.current within

theorem drawsAt_advance_bind {next : Unit → Production β} {also : β → Prop}
    {kind : TokenKind} (ahead : cursor.current.kind = kind)
    (inside : kind ≠ .endOfInput) (late : Draws tokens also (next ())) :
    DrawsAt tokens also (advance >>= next) cursor := by
  rw [← ahead] at inside
  intro within
  have step := Cursor.reaches_advance inside
  rw [advance_bind_apply]
  obtain ⟨further, drawn⟩ := late cursor.advance (step.within within)
  exact ⟨step.trans further, drawn⟩

theorem draws_expect {kind : TokenKind} (inside : kind ≠ .endOfInput) :
    Draws tokens (fun _ => True) (expect kind) := by
  refine draws_current_bind fun cursor _ => ?_
  split
  · rename_i ahead
    intro _
    exact ⟨Cursor.reaches_advance (ahead ▸ inside), fun _ _ _ => trivial⟩
  · exact draws_throw _ _ cursor

theorem draws_ident : Draws tokens (Ident.DrawnFrom tokens) ident := by
  refine draws_current_bind fun cursor member => ?_
  cases ahead : cursor.current.kind with
  | ident name =>
      exact drawsAt_advance_bind ahead (by simp) (draws_pure
        (Token.mem_of_kind member ahead))
  | _ => exact draws_throw _ _ cursor

theorem draws_type : Draws tokens (fun _ => True) type := by
  refine draws_current_bind fun cursor _ => ?_
  cases ahead : cursor.current.kind with
  | intType | stringType | boolType =>
      exact drawsAt_advance_bind ahead (by simp) (draws_pure trivial)
  | _ => exact draws_throw _ _ cursor

theorem draws_operandWith {inner : Production Expr}
    (innerDraws : Draws tokens (Expr.DrawnFrom tokens) inner) :
    Draws tokens (Expr.DrawnFrom tokens) (operandWith inner) := by
  refine draws_current_bind fun cursor member => ?_
  cases ahead : cursor.current.kind with
  | intLiteral _ | stringLiteral _ | ident _ =>
      exact drawsAt_advance_bind ahead (by simp) (draws_pure
        (Token.mem_of_kind member ahead))
  | leftParen =>
      apply drawsAt_advance_bind ahead (by simp)
      refine innerDraws.bind fun value drawn => ?_
      exact (draws_expect (by simp)).bind fun _ _ => draws_pure drawn
  | _ => exact draws_throw _ _ cursor

theorem draws_expressionWith {operand : Production Expr}
    (operandDraws : Draws tokens (Expr.DrawnFrom tokens) operand) :
    Draws tokens (Expr.DrawnFrom tokens) (expressionWith operand) := by
  refine draws_current_bind fun cursor member => ?_
  have stands : Token.StandsAt tokens cursor.current.position :=
    ⟨_, member, rfl⟩
  by_cases ahead : cursor.current.kind = .exclamation
  · rw [if_pos ahead]
    apply drawsAt_advance_bind ahead (by simp)
    exact operandDraws.bind fun _ drawn => draws_pure ⟨stands, drawn⟩
  · rw [if_neg ahead]
    refine operandDraws.bind (fun left leftDrawn => ?_) cursor
    refine draws_current_bind fun rest _ => ?_
    cases found : rest.current.kind.binaryOp? with
    | none => exact draws_pure ⟨stands, leftDrawn⟩ rest
    | some operator =>
        apply drawsAt_advance_bind rfl (TokenKind.ne_endOfInput_of_binaryOp? found)
        refine operandDraws.bind fun right rightDrawn => ?_
        exact draws_pure ⟨stands, leftDrawn, rightDrawn⟩

theorem draws_expressionWithin (depth : Nat) :
    Draws tokens (Expr.DrawnFrom tokens) (expressionWithin depth) := by
  induction depth with
  | zero => exact draws_throw _ _
  | succ depth inner => exact draws_expressionWith (draws_operandWith inner)

theorem draws_expression :
    Draws tokens (Expr.DrawnFrom tokens) expression :=
  fun cursor => draws_expressionWithin (cursor.size + 1) cursor

theorem draws_initial :
    Draws tokens (fun initial => ∀ value ∈ initial, value.DrawnFrom tokens)
      initial := by
  refine draws_current_bind fun cursor _ => ?_
  split
  · rename_i ahead
    apply drawsAt_advance_bind ahead (by simp)
    refine draws_expression.bind fun value drawn => draws_pure ?_
    exact fun given member => Option.some.inj member ▸ drawn
  · refine draws_pure (fun value member => ?_) cursor
    cases member

theorem draws_simpleStatement :
    Draws tokens (Stmt.DrawnFrom tokens) simpleStatement := by
  refine draws_current_bind fun cursor member => ?_
  have stands : Token.StandsAt tokens cursor.current.position :=
    ⟨_, member, rfl⟩
  cases ahead : cursor.current.kind with
  | varWord =>
      apply drawsAt_advance_bind ahead (by simp)
      refine draws_ident.bind fun name named => ?_
      refine (draws_expect (by simp)).bind fun _ _ => ?_
      refine draws_type.bind fun type _ => ?_
      exact draws_initial.bind fun initial values =>
        draws_pure ⟨stands, named, values⟩
  | ident name =>
      refine draws_ident.bind (fun target named => ?_) cursor
      refine (draws_expect (by simp)).bind fun _ _ => ?_
      exact draws_expression.bind fun value drawn =>
        draws_pure ⟨stands, named, drawn⟩
  | readWord =>
      apply drawsAt_advance_bind ahead (by simp)
      exact draws_ident.bind fun target named => draws_pure ⟨stands, named⟩
  | printWord =>
      apply drawsAt_advance_bind ahead (by simp)
      exact draws_expression.bind fun value drawn => draws_pure ⟨stands, drawn⟩
  | assertWord =>
      apply drawsAt_advance_bind ahead (by simp)
      refine (draws_expect (by simp)).bind fun _ _ => ?_
      refine draws_expression.bind fun condition drawn => ?_
      exact (draws_expect (by simp)).bind fun _ _ => draws_pure ⟨stands, drawn⟩
  | _ => exact draws_throw _ _ cursor

theorem draws_loopHeader :
    Draws tokens (LoopHeader.DrawnFrom tokens) loopHeader := by
  refine draws_current_bind fun cursor member => ?_
  have stands : Token.StandsAt tokens cursor.current.position :=
    ⟨_, member, rfl⟩
  refine (draws_expect (by simp)).bind (fun _ _ => ?_) cursor
  refine draws_ident.bind fun index named => ?_
  refine (draws_expect (by simp)).bind fun _ _ => ?_
  refine draws_expression.bind fun low lowDrawn => ?_
  refine (draws_expect (by simp)).bind fun _ _ => ?_
  refine draws_expression.bind fun high highDrawn => ?_
  exact (draws_expect (by simp)).bind fun _ _ =>
    draws_pure ⟨stands, named, lowDrawn, highDrawn⟩

end Production

/-! ## Recovering readers -/

namespace Recovering

/-- What a recovering reader gives from a cursor on: such a value, and
mismatches that are met one after another. -/
structure Taken (such : α → Prop) (cursor : Cursor)
    (recovered : Recovered α) : Prop where
  value : such recovered.value
  finds : cursor.Finds recovered.mismatches recovered.rest

/-- A recovering reader that takes what it gives from the tokens in front of
it. -/
def Draws (tokens : List Token) (such : α → Prop) (reader : Recovering α) :
    Prop :=
  ∀ cursor, cursor.Within tokens → Taken such cursor (reader cursor)

theorem draws_pure {such : α → Prop} {value : α} (fits : such value) :
    Draws tokens such (pure value) :=
  fun _ _ => ⟨fits, .done⟩

theorem Draws.bind {first : Recovering α} {next : α → Recovering β}
    {such : α → Prop} {also : β → Prop} (early : Draws tokens such first)
    (late : ∀ value, such value → Draws tokens also (next value)) :
    Draws tokens also (first >>= next) := by
  intro cursor within
  obtain ⟨value, finds⟩ := early cursor within
  obtain ⟨valueBehind, findsBehind⟩ :=
    late _ value _ (finds.reaches.within within)
  exact ⟨valueBehind, finds.append findsBehind⟩

theorem draws_current_bind {next : Token → Recovering β} {also : β → Prop}
    (late : ∀ token, Draws tokens also (next token)) :
    Draws tokens also (current >>= next) :=
  fun cursor => late cursor.current cursor

theorem draws_move {skip : Cursor → Cursor}
    (reaches : ∀ cursor : Cursor, cursor.Reaches (skip cursor)) :
    Draws tokens (fun _ => True) (move skip) :=
  fun cursor _ => ⟨trivial, .move (reaches cursor) .done⟩

theorem draws_attempt {production : Production α} {such : α → Prop}
    (draws : Production.Draws tokens such production) :
    Draws tokens (fun read => ∀ value ∈ read, such value)
      (attempt production) := by
  intro cursor within
  obtain ⟨reaches, drawn⟩ := draws cursor within
  rw [attempt]
  cases outcome : production cursor with
  | ok value rest =>
      rw [outcome] at reaches
      refine ⟨?_, .move reaches .done⟩
      exact fun given member => Option.some.inj member ▸ drawn _ _ outcome
  | error expected rest =>
      rw [outcome] at reaches
      refine ⟨fun value member => ?_, .move reaches (.meet .done)⟩
      cases member

theorem draws_attempt_expect {kind : TokenKind}
    (inside : kind ≠ .endOfInput) :
    Draws tokens (fun _ => True) (attempt (Production.expect kind)) :=
  fun cursor within =>
    { draws_attempt (Production.draws_expect inside) cursor within with
      value := trivial }

theorem draws_skipStatement :
    Draws tokens (fun _ => True) (move Cursor.skipStatement) :=
  draws_move Cursor.reaches_skipStatement

theorem draws_skipLoop :
    Draws tokens (fun _ => True) (move Cursor.skipLoop) :=
  draws_move Cursor.reaches_skipLoop

theorem draws_endStatement : Draws tokens (fun _ => True) endStatement := by
  refine (draws_attempt_expect (by simp)).bind fun found _ => ?_
  split
  · exact draws_pure trivial
  · refine draws_current_bind fun token => ?_
    split
    · exact draws_pure trivial
    · exact draws_skipStatement

/-- The statement, if one was read, is drawn from these tokens. -/
def OwnTokens (tokens : List Token) (statement : Option Stmt) : Prop :=
  ∀ read ∈ statement, read.DrawnFrom tokens

theorem draws_none : Draws tokens (OwnTokens tokens) (pure none) := by
  refine draws_pure fun read member => ?_
  cases member

theorem draws_some {statement : Stmt} (drawn : statement.DrawnFrom tokens) :
    Draws tokens (OwnTokens tokens) (pure (some statement)) :=
  draws_pure fun _ member => Option.some.inj member ▸ drawn

theorem draws_simpleStatement :
    Draws tokens (OwnTokens tokens) simpleStatement := by
  refine (draws_attempt Production.draws_simpleStatement).bind
    fun read drawn => ?_
  split
  · exact draws_endStatement.bind fun _ _ => draws_some (drawn _ rfl)
  · exact draws_skipStatement.bind fun _ _ => draws_none

theorem draws_loopEnd {header : Production.LoopHeader} {body : List Stmt}
    (headerDrawn : header.DrawnFrom tokens)
    (bodyDrawn : Stmt.DrawnFromList tokens body) :
    Draws tokens (OwnTokens tokens) (loopEnd header body) := by
  refine (draws_attempt_expect (by simp)).bind fun ending _ => ?_
  split
  · exact draws_skipLoop.bind fun _ _ => draws_none
  · refine (draws_attempt_expect (by simp)).bind fun word _ => ?_
    split
    · exact draws_skipStatement.bind fun _ _ => draws_none
    · refine draws_endStatement.bind fun _ _ => draws_some ?_
      exact ⟨headerDrawn.position, headerDrawn.index, headerDrawn.low,
        headerDrawn.high, bodyDrawn⟩

theorem draws_statementWith {body : Recovering (List Stmt)}
    (bodyDraws : Draws tokens (Stmt.DrawnFromList tokens) body) :
    Draws tokens (OwnTokens tokens) (statementWith body) := by
  refine draws_current_bind fun token => ?_
  split
  · refine (draws_attempt Production.draws_loopHeader).bind
      fun read drawn => ?_
    split
    · exact draws_skipLoop.bind fun _ _ => draws_none
    · refine bodyDraws.bind fun block blockDrawn => ?_
      exact draws_loopEnd (drawn _ rfl) blockDrawn
  · exact draws_simpleStatement

theorem draws_statementsWithin (fuel : Nat) :
    Draws tokens (Stmt.DrawnFromList tokens) (statementsWithin fuel) := by
  induction fuel with
  | zero => exact draws_pure trivial
  | succ fuel inner =>
      refine draws_current_bind fun token => ?_
      split
      · refine (draws_statementWith inner).bind fun read drawn => ?_
        refine inner.bind fun others othersDrawn => draws_pure ?_
        exact (Stmt.DrawnFromList.ofOption drawn).append othersDrawn
      · exact draws_pure trivial

theorem draws_statements :
    Draws tokens (Stmt.DrawnFromList tokens) statements :=
  fun cursor => draws_statementsWithin (cursor.size + 1) cursor

theorem draws_skipStray : Draws tokens (fun _ => True) skipStray := by
  intro cursor _
  have skipped : cursor.Reaches
      (if cursor.current.kind = .endWord then cursor.advance.skipStatement
        else cursor.skipStatement) := by
    split
    · rename_i isEnd
      have inside : cursor.current.kind ≠ .endOfInput := by simp [isEnd]
      exact (Cursor.reaches_advance inside).trans
        (Cursor.reaches_skipStatement _)
    · exact Cursor.reaches_skipStatement cursor
  rw [skipStray_apply]
  exact ⟨trivial, .meet (.move skipped .done)⟩

theorem draws_statementsToEnd (fuel : Nat) :
    Draws tokens (Stmt.DrawnFromList tokens) (statementsToEnd fuel) := by
  induction fuel with
  | zero => exact draws_pure trivial
  | succ fuel inner =>
      refine draws_statements.bind fun read drawn => ?_
      refine draws_current_bind fun token => ?_
      split
      · exact draws_pure drawn
      · refine draws_skipStray.bind fun _ _ => ?_
        refine inner.bind fun others othersDrawn => draws_pure ?_
        exact drawn.append othersDrawn

theorem draws_allStatements :
    Draws tokens (Stmt.DrawnFromList tokens) allStatements :=
  fun cursor => draws_statementsToEnd (cursor.size + 1) cursor

theorem draws_program :
    Draws tokens (Stmt.DrawnFromList tokens) program := by
  rw [program_eq]
  refine (draws_statementWith draws_statements).bind fun first drawn => ?_
  refine draws_allStatements.bind fun others othersDrawn => draws_pure ?_
  exact (Stmt.DrawnFromList.ofOption drawn).append othersDrawn

end Recovering

namespace Program

theorem within_ofTokens (ended : (Cursor.ofTokens tokens).Ended) :
    (Cursor.ofTokens tokens).Within tokens :=
  ⟨List.Subset.refl tokens, ended⟩

/-- A program that is read has its names, its literals and its places from the
tokens. -/
theorem read_drawn (ended : (Cursor.ofTokens tokens).Ended) :
    Stmt.DrawnFromList tokens (read tokens).1 :=
  (Recovering.draws_program _ (within_ofTokens ended)).value

/-- The mismatches are met one after another on the way through the tokens. -/
theorem read_finds (ended : (Cursor.ofTokens tokens).Ended) :
    (Cursor.ofTokens tokens).Finds (read tokens).2
      (Recovering.program (Cursor.ofTokens tokens)).rest :=
  (Recovering.draws_program _ (within_ofTokens ended)).finds

theorem read_found (ended : (Cursor.ofTokens tokens).Ended) :
    ∀ mismatch ∈ (read tokens).2, mismatch.found ∈ tokens :=
  (read_finds ended).found_mem (within_ofTokens ended)

end Program

end TinyImp
