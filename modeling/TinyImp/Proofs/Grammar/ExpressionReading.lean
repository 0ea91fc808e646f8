import TinyImp.Proofs.Grammar.Phrase
import TinyImp.Proofs.Grammar.Prediction

/-!
# Reading expressions predictively

The productions for single tokens, operands and expressions give the right
verdict on every stream: they accept phrases, with the trees of the phrases,
and refuse a token where no phrase goes on with it.  Reading an expression is
recursive through parentheses; each of them takes a token, so the induction is
on the number of tokens left.
-/

namespace TinyImp

open PhraseClass

/-- One token of a given kind. -/
def marks (kind : TokenKind) : PhraseClass Position :=
  single fun position => ⟨kind, position⟩

def idents : PhraseClass Ident :=
  single Ident.token

def types : PhraseClass (Ty × Position) :=
  single fun written => ⟨written.1.kind, written.2⟩

def operands : PhraseClass OperandPhrase where
  tokens := OperandPhrase.tokens
  Continues _ _ := False

def expressions : PhraseClass ExprPhrase where
  tokens := ExprPhrase.tokens
  Continues := ExprPhrase.Continues

@[simp]
theorem marks_tokens (kind : TokenKind) (position : Position) :
    (marks kind).tokens position = [⟨kind, position⟩] :=
  rfl

@[simp]
theorem marks_continues (expected kind : TokenKind) (position : Position) :
    (marks expected).Continues position kind ↔ False :=
  Iff.rfl

@[simp]
theorem operands_tokens (phrase : OperandPhrase) :
    operands.tokens phrase = phrase.tokens :=
  rfl

@[simp]
theorem operands_continues (phrase : OperandPhrase) (kind : TokenKind) :
    operands.Continues phrase kind ↔ False :=
  Iff.rfl

@[simp]
theorem expressions_tokens (phrase : ExprPhrase) :
    expressions.tokens phrase = phrase.tokens :=
  rfl

@[simp]
theorem expressions_continues (phrase : ExprPhrase) (kind : TokenKind) :
    expressions.Continues phrase kind ↔ phrase.Continues kind :=
  Iff.rfl

theorem marks_unambiguous (kind : TokenKind) : (marks kind).Unambiguous := by
  apply single_unambiguous
  intro left right same
  exact congrArg Token.position same

theorem idents_unambiguous : idents.Unambiguous :=
  single_unambiguous fun _ _ => Ident.token_injective

theorem types_unambiguous : types.Unambiguous := by
  apply single_unambiguous
  intro left right same
  have kinds : left.1.kind = right.1.kind := congrArg Token.kind same
  exact Prod.ext (Ty.kind_injective kinds) (congrArg Token.position same)

theorem operands_unambiguous : operands.Unambiguous := by
  intro left right _ _ _ _ _ _ same
  exact OperandPhrase.eq_of_tokens left right same

theorem expressions_unambiguous : expressions.Unambiguous := by
  intro left right _ _ _ _ leftStopped rightStopped same
  exact ExprPhrase.eq_of_tokens left right leftStopped rightStopped same

instance : Nonempty Ident := ⟨⟨"", .start⟩⟩

instance : Nonempty Ty := ⟨.int⟩

instance : Nonempty OperandPhrase := ⟨.number default .start⟩

instance : Nonempty ExprPhrase := ⟨.lone (.number default .start)⟩

variable {Φ Ψ α β : Type} {bound : Nat} {cursor : Cursor}

theorem expressions_meet_mark {kind : TokenKind} {behind : PhraseClass Ψ}
    (plain : kind.binaryOp? = none) :
    expressions.Meets ((marks kind).followedBy behind) := by
  intro phrase back token following tokens
  obtain ⟨rfl, _⟩ := List.cons.inj tokens
  exact phrase.not_continues_of_plain plain

theorem Token.eq_of_kind {token : Token} {kind : TokenKind}
    (known : token.kind = kind) : token = ⟨kind, token.position⟩ := by
  subst known
  rfl

namespace Production

theorem expect_readBy {kind : TokenKind} (inside : kind ≠ .endOfInput) :
    (marks kind).ReadBy (fun _ => ()) bound (verdict (expect kind)) where
  unambiguous := marks_unambiguous kind
  outcome := by
    intro cursor ended _
    rw [verdict, expect_apply]
    by_cases ahead : cursor.current.kind = kind
    · rw [if_pos ahead]
      subst ahead
      exact Outcome.single (fun _ => ()) cursor.current.position ended inside
        rfl fun _ => id
    · rw [if_neg ahead]
      apply Outcome.refusedAtOnce ended
      intro position follower others _ same
      exact ahead (Option.some.inj same).symm

theorem ident_readBy : idents.ReadBy id bound (verdict ident) where
  unambiguous := idents_unambiguous
  outcome := by
    intro cursor ended _
    rw [ident, verdict_current_bind]
    split
    · rename_i name ahead
      have token := Token.eq_of_kind ahead
      exact Outcome.single id (⟨name, cursor.current.position⟩ : Ident) ended
        (by simp [ahead]) (congrArg (fun token => [token]) token.symm)
        fun _ => id
    · rename_i different
      apply Outcome.refusedAtOnce ended
      intro written follower others _ same
      exact different written.name (Option.some.inj same).symm

theorem type_readBy : types.ReadBy Prod.fst bound (verdict type) where
  unambiguous := types_unambiguous
  outcome := by
    intro cursor ended _
    have accepted (type : Ty) (ahead : cursor.current.kind = type.kind) :
        types.Outcome Prod.fst cursor (.accepted type cursor.advance) := by
      have inside : cursor.current.kind ≠ .endOfInput := by
        rw [ahead]
        cases type <;> simp [Ty.kind]
      have token := Token.eq_of_kind ahead
      exact Outcome.single Prod.fst (type, cursor.current.position) ended
        inside (congrArg (fun token => [token]) token.symm) fun _ => id
    rw [type, verdict_current_bind]
    split
    · exact accepted .int ‹_›
    · exact accepted .string ‹_›
    · exact accepted .bool ‹_›
    · apply Outcome.refusedAtOnce ended
      intro written follower others _ same
      obtain ⟨type, position⟩ := written
      have kinds : type.kind = cursor.current.kind := Option.some.inj same
      cases type <;> simp_all [Ty.kind]

theorem return_readBy (value : α) :
    empty.ReadBy (fun _ => value) bound (verdict (pure value)) :=
  empty_readBy bound fun _ => value

section Sequence

variable [Nonempty Φ] [Nonempty Ψ] {first : PhraseClass Φ}
  {second : PhraseClass Ψ} {value : Φ → α} {result : Φ × Ψ → β}
  {production : Production α} {next : α → Production β}

theorem readBy_bind (early : first.ReadBy value bound (verdict production))
    (meets : first.Meets second)
    (late : ∀ phrase, second.ReadBy (fun back => result (phrase, back)) bound
      (verdict (next (value phrase)))) :
    (first.followedBy second).ReadBy result bound
      (verdict (production >>= next)) := by
  rw [funext (verdict_bind production next)]
  exact early.followedBy meets (fun _ => Nat.le_add_right ..) late

theorem readBy_expect_bind {kind : TokenKind} {next : Unit → Production β}
    {result : Position × Ψ → β} (inside : kind ≠ .endOfInput)
    (late : ∀ position,
      second.ReadBy (fun back => result (position, back)) bound
        (verdict (next ()))) :
    ((marks kind).followedBy second).ReadBy result bound
      (verdict (expect kind >>= next)) :=
  readBy_bind (expect_readBy inside) (.of_closed fun _ _ => id) late

/-- Behind a token there is one token less to read. -/
theorem readBy_expect_bind_succ {kind : TokenKind}
    {next : Unit → Production β} {result : Position × Ψ → β}
    (inside : kind ≠ .endOfInput)
    (late : ∀ position,
      second.ReadBy (fun back => result (position, back)) bound
        (verdict (next ()))) :
    ((marks kind).followedBy second).ReadBy result (bound + 1)
      (verdict (expect kind >>= next)) := by
  rw [funext (verdict_bind (expect kind) next)]
  exact (expect_readBy inside).followedBy (.of_closed fun _ _ => id)
    (fun _ => Nat.le_refl _) late

end Sequence

section Expression

variable {inner operand : Production Expr}

theorem group_readBy
    (innerRead : expressions.ReadBy ExprPhrase.tree bound (verdict inner)) :
    ((marks .leftParen).followedBy (expressions.followedBy
        ((marks .rightParen).followedBy empty))).ReadBy
      (fun parts => parts.2.1.tree) (bound + 1)
      (verdict (do
        expect .leftParen
        let expression ← inner
        expect .rightParen
        return expression)) := by
  refine readBy_expect_bind_succ (by simp) fun opening => ?_
  refine readBy_bind innerRead (expressions_meet_mark rfl) fun phrase => ?_
  refine readBy_expect_bind (by simp) fun closing => ?_
  exact return_readBy phrase.tree

theorem group_outcome (ended : cursor.Ended) (small : cursor.size < bound + 1)
    (ahead : cursor.current.kind = .leftParen)
    (innerRead : expressions.ReadBy ExprPhrase.tree bound (verdict inner)) :
    operands.Outcome OperandPhrase.tree cursor
      (verdict (do
        advance
        let expression ← inner
        expect .rightParen
        return expression) cursor) := by
  rw [verdict_advance_bind ahead]
  refine ((group_readBy innerRead).outcome cursor ended small).embed
    (fun parts => .group parts.1 parts.2.1 parts.2.2.1) ?_ ?_ ?_ ?_
  · intro parts
    simp [OperandPhrase.tokens]
  · intro parts kind
    simp
  · intro parts rest _
    rfl
  · intro phrase follower others _ same
    cases phrase <;> simp [OperandPhrase.tokens, ahead] at same
    exact ⟨(_, _, _, ()), rfl⟩

/-- Reading an operand needs an expression only behind a parenthesis. -/
theorem operandWith_readBy
    (innerRead : expressions.ReadBy ExprPhrase.tree bound (verdict inner)) :
    operands.ReadBy OperandPhrase.tree (bound + 1)
      (verdict (operandWith inner)) where
  unambiguous := operands_unambiguous
  outcome := by
    intro cursor ended small
    have literal (phrase : OperandPhrase) (kind : TokenKind)
        (inside : kind ≠ .endOfInput) (ahead : cursor.current.kind = kind)
        (tokens : phrase.tokens = [⟨kind, cursor.current.position⟩]) :
        operands.Outcome OperandPhrase.tree cursor
          (.accepted phrase.tree cursor.advance) := by
      rw [← Token.eq_of_kind ahead] at tokens
      exact Outcome.single OperandPhrase.tree phrase ended (ahead ▸ inside)
        tokens fun _ => id
    rw [operandWith, verdict_current_bind]
    split
    · rename_i value ahead
      exact literal (.number value cursor.current.position) _ (by simp) ahead
        rfl
    · rename_i value ahead
      exact literal (.text value cursor.current.position) _ (by simp) ahead
        rfl
    · rename_i name ahead
      exact literal (.named name cursor.current.position) _ (by simp) ahead
        rfl
    · rename_i ahead
      exact group_outcome ended small ahead innerRead
    · rename_i notNumber notText notName notGroup
      apply Outcome.refusedAtOnce ended
      intro phrase follower others _ same
      cases phrase with
      | number value _ => exact notNumber value (Option.some.inj same).symm
      | text value _ => exact notText value (Option.some.inj same).symm
      | named name _ => exact notName name (Option.some.inj same).symm
      | group _ _ _ => exact notGroup (Option.some.inj same).symm

/-- What may stand behind the first operand of an expression. -/
def operatorTails :
    PhraseClass (Option (BinaryOp × Position × OperandPhrase)) where
  tokens
    | none => []
    | some (operator, mark, right) => ⟨operator.kind, mark⟩ :: right.tokens
  Continues
    | none, kind => kind.binaryOp? ≠ none
    | some _, _ => False

/-- An expression from its first operand and what stands behind it. -/
def extended (left : OperandPhrase) :
    Option (BinaryOp × Position × OperandPhrase) → ExprPhrase
  | none => .lone left
  | some (operator, mark, right) => .binary left operator mark right

def extendedTree (left : Expr) (position : Position) :
    Option (BinaryOp × Position × OperandPhrase) → Expr
  | none => .lone left position
  | some (operator, _, right) => .binary operator left right.tree position

theorem operatorTails_unambiguous : operatorTails.Unambiguous := by
  intro left right leftFollower rightFollower _ _ leftStopped rightStopped same
  match left, right with
  | none, none => rfl
  | none, some (operator, mark, right) =>
      simp [operatorTails] at leftStopped same
      simp [same.1, operator.binaryOp?_kind] at leftStopped
  | some (operator, mark, right), none =>
      simp [operatorTails] at rightStopped same
      simp [← same.1, operator.binaryOp?_kind] at rightStopped
  | some (operator, mark, right), some (other, otherMark, otherRight) =>
      simp [operatorTails] at same
      obtain ⟨⟨kinds, rfl⟩, same⟩ := same
      rw [BinaryOp.kind_injective kinds,
        OperandPhrase.eq_of_tokens right otherRight same]

theorem operatorTail_readBy (left : Expr) (position : Position)
    (operandRead :
      operands.ReadBy OperandPhrase.tree bound (verdict operand)) :
    operatorTails.ReadBy (extendedTree left position) bound
      (verdict (do
        match (← current).kind.binaryOp? with
        | none => return .lone left position
        | some operator =>
            advance
            return .binary operator left (← operand) position :
          Production Expr)) where
  unambiguous := operatorTails_unambiguous
  outcome := by
    intro cursor ended small
    rw [verdict_current_bind]
    cases found : cursor.current.kind.binaryOp? with
    | none => exact .accepted none ended rfl (fun more => more found)
    | some operator =>
        have ahead := (BinaryOp.kind_of_binaryOp? found).symm
        have inside : operator.kind ≠ .endOfInput := by
          cases operator <;> simp [BinaryOp.kind]
        have parts : ((marks operator.kind).followedBy
            (operands.followedBy empty)).ReadBy
            (fun parts => .binary operator left parts.2.1.tree position) bound
            (verdict (do
              expect operator.kind
              return .binary operator left (← operand) position :
                Production Expr)) := by
          refine readBy_expect_bind inside fun mark => ?_
          refine readBy_bind operandRead (.of_closed fun _ _ => id)
            fun right => ?_
          exact return_readBy (Expr.binary operator left right.tree position)
        change operatorTails.Outcome _ cursor (verdict (advance >>= _) cursor)
        rw [verdict_advance_bind ahead]
        refine (parts.outcome cursor ended small).embed
          (fun parts => some (operator, parts.1, parts.2.1)) ?_ ?_ ?_ ?_
        · intro parts
          simp [operatorTails]
        · intro parts kind
          simp [operatorTails]
        · intro parts rest _
          rfl
        · intro tail follower others stopped same
          match tail with
          | none =>
              simp [operatorTails] at same stopped
              rw [same, found] at stopped
              cases stopped
          | some (other, mark, right) =>
              have kinds : other.kind = cursor.current.kind :=
                Option.some.inj same
              obtain rfl := BinaryOp.kind_injective (kinds.trans ahead)
              exact ⟨(mark, right, ()), rfl⟩

theorem negation_outcome (ended : cursor.Ended) (small : cursor.size < bound)
    (ahead : cursor.current.kind = .exclamation)
    (operandRead :
      operands.ReadBy OperandPhrase.tree bound (verdict operand)) :
    expressions.Outcome ExprPhrase.tree cursor
      (verdict (do
        advance
        return .negation (← operand) cursor.current.position) cursor) := by
  have parts : ((marks .exclamation).followedBy
      (operands.followedBy empty)).ReadBy
      (fun parts => .negation parts.2.1.tree cursor.current.position) bound
      (verdict (do
        expect .exclamation
        return .negation (← operand) cursor.current.position :
          Production Expr)) := by
    refine readBy_expect_bind (by simp) fun mark => ?_
    refine readBy_bind operandRead (.of_closed fun _ _ => id)
      fun phrase => ?_
    exact return_readBy (Expr.negation phrase.tree cursor.current.position)
  rw [verdict_advance_bind ahead]
  refine (parts.outcome cursor ended small).embed
    (fun parts => .negation parts.1 parts.2.1) ?_ ?_ ?_ ?_
  · intro parts
    simp [ExprPhrase.tokens]
  · intro parts kind
    simp [ExprPhrase.Continues]
  · intro parts rest reading
    rw [Cursor.current_of_remaining reading]
    rfl
  · intro phrase follower others _ same
    cases phrase with
    | negation mark operand => exact ⟨(mark, operand, ()), rfl⟩
    | lone operand =>
        obtain ⟨kind, following, tokens, different⟩ := operand.tokens_eq
        simp [ExprPhrase.tokens, tokens, ahead] at same
        exact absurd same different
    | binary left operator mark right =>
        obtain ⟨kind, following, tokens, different⟩ := left.tokens_eq
        simp [ExprPhrase.tokens, tokens, ahead] at same
        exact absurd same different

theorem expressionWith_readBy
    (operandRead :
      operands.ReadBy OperandPhrase.tree bound (verdict operand)) :
    expressions.ReadBy ExprPhrase.tree bound
      (verdict (expressionWith operand)) where
  unambiguous := expressions_unambiguous
  outcome := by
    intro cursor ended small
    rw [expressionWith, verdict_current_bind]
    by_cases ahead : cursor.current.kind = .exclamation
    · rw [if_pos ahead]
      exact negation_outcome ended small ahead operandRead
    · rw [if_neg ahead]
      have parts : (operands.followedBy operatorTails).ReadBy
          (fun parts =>
            extendedTree parts.1.tree cursor.current.position parts.2) bound
          (verdict (do
            let left ← operand
            match (← current).kind.binaryOp? with
            | none => return .lone left cursor.current.position
            | some operator =>
                advance
                return .binary operator left (← operand)
                  cursor.current.position : Production Expr)) :=
        readBy_bind operandRead (.of_closed fun _ _ => id)
          fun left => operatorTail_readBy left.tree _ operandRead
      refine (parts.outcome cursor ended small).embed
        (fun parts => extended parts.1 parts.2) ?_ ?_ ?_ ?_
      · intro parts
        obtain ⟨left, _ | tail⟩ := parts <;>
          simp [operatorTails, extended, ExprPhrase.tokens]
      · intro parts kind
        obtain ⟨left, _ | tail⟩ := parts <;>
          simp [operatorTails, extended, ExprPhrase.Continues]
      · intro parts rest reading
        obtain ⟨left, tail⟩ := parts
        obtain ⟨kind, following, tokens, _⟩ := left.tokens_eq
        simp only [followedBy_tokens, operands_tokens, tokens] at reading
        rw [Cursor.current_of_remaining reading]
        cases tail <;> rfl
      · intro phrase follower others _ same
        cases phrase with
        | negation mark operand =>
            exact absurd (Option.some.inj same).symm ahead
        | lone operand => exact ⟨(operand, none), rfl⟩
        | binary left operator mark right =>
            exact ⟨(left, some (operator, mark, right)), rfl⟩

/-- Every nested expression stands behind a parenthesis, so as many levels as
there are tokens are enough. -/
theorem expressionWithin_readBy (depth : Nat) :
    expressions.ReadBy ExprPhrase.tree depth
      (verdict (expressionWithin depth)) := by
  induction depth with
  | zero =>
      exact ⟨expressions_unambiguous,
        fun _ _ small => absurd small (Nat.not_lt_zero _)⟩
  | succ depth inner => exact expressionWith_readBy (operandWith_readBy inner)

theorem expression_readBy :
    expressions.ReadBy ExprPhrase.tree bound (verdict expression) where
  unambiguous := expressions_unambiguous
  outcome := by
    intro cursor ended _
    exact (expressionWithin_readBy (cursor.size + 1)).outcome cursor ended
      (Nat.lt_succ_self _)

end Expression

end Production

end TinyImp
