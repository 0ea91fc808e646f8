import TinyImp.Proofs.Grammar.Segments

/-!
# Forms of statements

A statement other than a loop has a form up to its semicolon, which its first
token tells.  It is read from the form alone: what stands behind the form need
not be a semicolon, as long as it is no operator and no assignment, which
could be taken for more of it.  In a form, as in an expression, there is no
token that ends a statement or that opens or closes a loop.
-/

namespace TinyImp

/-- A token that is not taken for more of the statement in front of it. -/
def TokenKind.Detached (kind : TokenKind) : Prop :=
  kind.binaryOp? = none ∧ kind ≠ .assign

theorem TokenKind.ne_semicolon_of_isInside {kind : TokenKind}
    (inside : kind.isInside = true) : kind ≠ .semicolon := by
  intro isSemicolon
  rw [isSemicolon] at inside
  cases inside

mutual

theorem OperandPhrase.inside (phrase : OperandPhrase) :
    ∀ token ∈ phrase.tokens, token.kind.isInside = true := by
  match phrase with
  | .number _ _ | .text _ _ | .named _ _ =>
      simp [OperandPhrase.tokens, TokenKind.isInside]
  | .group _ inner _ =>
      have innerInside := ExprPhrase.inside inner
      simp_all [OperandPhrase.tokens, TokenKind.isInside, or_imp]

theorem ExprPhrase.inside (phrase : ExprPhrase) :
    ∀ token ∈ phrase.tokens, token.kind.isInside = true := by
  match phrase with
  | .lone operand => exact OperandPhrase.inside operand
  | .negation _ operand =>
      have operandInside := OperandPhrase.inside operand
      simp_all [ExprPhrase.tokens, TokenKind.isInside]
  | .binary left operator _ right =>
      have leftInside := OperandPhrase.inside left
      have rightInside := OperandPhrase.inside right
      have operatorInside : operator.kind.isInside = true := by
        cases operator <;> rfl
      simp_all [ExprPhrase.tokens, or_imp]

end

theorem ExprPhrase.initial_inside (initial : Option (Position × ExprPhrase)) :
    ∀ token ∈ ExprPhrase.initialTokens initial,
      token.kind.isInside = true := by
  match initial with
  | none => simp [ExprPhrase.initialTokens]
  | some (_, value) =>
      have valueInside := value.inside
      simp_all [ExprPhrase.initialTokens, TokenKind.isInside]

theorem ExprPhrase.not_initialContinues_of_detached {kind : TokenKind}
    (detached : kind.Detached) (initial : Option (Position × ExprPhrase)) :
    ¬ExprPhrase.InitialContinues initial kind := by
  cases initial with
  | none => exact detached.2
  | some parts => exact parts.2.not_continues_of_plain detached.1

namespace StmtPhrase

open Production

/-- A statement other than a loop: how it is written in front of its
semicolon, and that it is read from there in front of any token that is not
taken for more of it. -/
structure SimpleForm (phrase : StmtPhrase) (opening : Token)
    (following : List Token) (semicolon : Position) : Prop where
  tokens : phrase.tokens =
    (opening :: following) ++ [⟨.semicolon, semicolon⟩]
  inside : ∀ token ∈ opening :: following, token.kind.isInside = true
  read : ∀ {follower : Token}, follower.kind.Detached →
    ∀ {cursor : Cursor} {others : List Token}, cursor.Ended →
      cursor.remaining = (opening :: following) ++ follower :: others →
      ∃ rest, simpleStatement cursor = .ok phrase.tree rest ∧
        rest.remaining = follower :: others

/-- A statement is read up to its semicolon wherever a barrier is ahead. -/
theorem SimpleForm.reads {phrase : StmtPhrase} {opening follower : Token}
    {following others : List Token} {semicolon : Position} {cursor : Cursor}
    (form : phrase.SimpleForm opening following semicolon)
    (detached : follower.kind.Detached)
    (ahead : cursor.remaining = (opening :: following) ++ follower :: others)
    (barrier : BarrierAhead (follower :: others)) :
    ∃ rest, simpleStatement cursor = .ok phrase.tree rest ∧
      rest.remaining = follower :: others :=
  reads_before_barrier simpleStatement_readAlike (form.read detached) ahead
    barrier

/-- A statement has a simple form if its first token chooses a production that
reads its parts. -/
theorem SimpleForm.of_parts {Φ : Type} {first : PhraseClass Φ}
    {value : Position → Φ → Stmt} {form : Position → Production Stmt}
    {parts : Φ} {phrase : StmtPhrase} {opening : Token}
    {following : List Token} {semicolon : Position}
    (formRead : ∀ bound position,
      first.ReadBy (value position) bound (verdict (form position)))
    (chosen : ∀ cursor : Cursor, cursor.current.kind = opening.kind →
      verdict simpleStatement cursor =
        verdict (form cursor.current.position) cursor)
    (stopped : ∀ kind : TokenKind, kind.Detached →
      ¬first.Continues parts kind)
    (begins : first.tokens parts = opening :: following)
    (inside : ∀ token ∈ opening :: following, token.kind.isInside = true)
    (tokens : phrase.tokens =
      (opening :: following) ++ [⟨.semicolon, semicolon⟩])
    (tree : phrase.tree = value opening.position parts) :
    phrase.SimpleForm opening following semicolon := by
  refine ⟨tokens, inside, ?_⟩
  intro follower detached cursor others ended ahead
  have here : cursor.current = opening := Cursor.current_of_remaining ahead
  rw [← begins] at ahead
  obtain ⟨rest, accepted, remaining⟩ :=
    (formRead (cursor.size + 1) opening.position).accepts ended
      (Nat.lt_succ_self _) ahead (stopped _ detached)
  have selected := chosen cursor (congrArg Token.kind here)
  rw [here, accepted, ← tree] at selected
  exact ⟨rest, eq_ok_of_verdict selected, remaining⟩

theorem declare_simpleForm (opening : Position) (name : Ident)
    (colon : Position) (type : Ty) (typeAt : Position)
    (initial : Option (Position × ExprPhrase)) (semicolon : Position) :
    (declare opening name colon type typeAt initial semicolon).SimpleForm
      ⟨.varWord, opening⟩
      (name.token :: ⟨.colon, colon⟩ :: ⟨type.kind, typeAt⟩ ::
        ExprPhrase.initialTokens initial)
      semicolon := by
  let parts : Position × Ident × Position × (Ty × Position) ×
      Option (Position × ExprPhrase) × Unit :=
    (opening, name, colon, (type, typeAt), initial, ())
  have begins : declarations.tokens parts =
      ⟨.varWord, opening⟩ :: name.token :: ⟨.colon, colon⟩ ::
        ⟨type.kind, typeAt⟩ :: ExprPhrase.initialTokens initial := by
    simp [parts, idents, types]
  apply SimpleForm.of_parts declaration_readBy _ _ begins _ _ rfl
  · intro cursor ahead
    rw [simpleStatement, verdict_current_bind]
    simp only [ahead]
    exact verdict_advance_bind ahead _
  · intro kind detached
    have stopped :=
      ExprPhrase.not_initialContinues_of_detached detached initial
    simp [parts, idents, types, stopped]
  · have initialInside := ExprPhrase.initial_inside initial
    have typeInside : type.kind.isInside = true := by cases type <;> rfl
    simp_all [TokenKind.isInside, Ident.token]
  · simp [StmtPhrase.tokens]

theorem assign_simpleForm (target : Ident) (mark : Position)
    (value : ExprPhrase) (semicolon : Position) :
    (assign target mark value semicolon).SimpleForm target.token
      (⟨.assign, mark⟩ :: value.tokens) semicolon := by
  have begins : assignments.tokens (target, mark, value, ()) =
      target.token :: ⟨.assign, mark⟩ :: value.tokens := by
    simp [idents]
  apply SimpleForm.of_parts assignment_readBy _ _ begins _ _ rfl
  · intro cursor ahead
    rw [simpleStatement, verdict_current_bind]
    simp only [ahead, Ident.token]
  · intro kind detached
    have stopped := value.not_continues_of_plain detached.1
    simp [idents, stopped]
  · have valueInside := value.inside
    simp_all [TokenKind.isInside, Ident.token]
  · simp [StmtPhrase.tokens]

theorem read_simpleForm (opening : Position) (target : Ident)
    (semicolon : Position) :
    (read opening target semicolon).SimpleForm ⟨.readWord, opening⟩
      [target.token] semicolon := by
  have begins : readings.tokens (opening, target, ()) =
      [⟨.readWord, opening⟩, target.token] := by
    simp [idents]
  apply SimpleForm.of_parts reading_readBy _ _ begins _ _ rfl
  · intro cursor ahead
    rw [simpleStatement, verdict_current_bind]
    simp only [ahead]
    exact verdict_advance_bind ahead _
  · intro kind detached
    simp [idents]
  · simp [TokenKind.isInside, Ident.token]
  · simp [StmtPhrase.tokens]

theorem print_simpleForm (opening : Position) (value : ExprPhrase)
    (semicolon : Position) :
    (print opening value semicolon).SimpleForm ⟨.printWord, opening⟩
      value.tokens semicolon := by
  have begins : printings.tokens (opening, value, ()) =
      ⟨.printWord, opening⟩ :: value.tokens := by
    simp
  apply SimpleForm.of_parts printing_readBy _ _ begins _ _ rfl
  · intro cursor ahead
    rw [simpleStatement, verdict_current_bind]
    simp only [ahead]
    exact verdict_advance_bind ahead _
  · intro kind detached
    have stopped := value.not_continues_of_plain detached.1
    simp [stopped]
  · have valueInside := value.inside
    simp_all [TokenKind.isInside]
  · simp [StmtPhrase.tokens]

theorem assert_simpleForm (opening leftParen : Position)
    (condition : ExprPhrase) (rightParen semicolon : Position) :
    (assert opening leftParen condition rightParen semicolon).SimpleForm
      ⟨.assertWord, opening⟩
      (⟨.leftParen, leftParen⟩ ::
        (condition.tokens ++ [⟨.rightParen, rightParen⟩])) semicolon := by
  have begins : assertions.tokens
        (opening, leftParen, condition, rightParen, ()) =
      ⟨.assertWord, opening⟩ :: ⟨.leftParen, leftParen⟩ ::
        (condition.tokens ++ [⟨.rightParen, rightParen⟩]) := by
    simp
  apply SimpleForm.of_parts assertion_readBy _ _ begins _ _ rfl
  · intro cursor ahead
    rw [simpleStatement, verdict_current_bind]
    simp only [ahead]
    exact verdict_advance_bind ahead _
  · intro kind detached
    simp
  · have conditionInside := condition.inside
    simp_all [TokenKind.isInside, or_imp]
  · simp [StmtPhrase.tokens]

end StmtPhrase

theorem LoopOpening.ne_semicolon (header : LoopOpening) :
    ∀ token ∈ header.tokens, token.kind ≠ .semicolon := by
  have plain (phrase : ExprPhrase) :
      ∀ token ∈ phrase.tokens, token.kind ≠ .semicolon :=
    fun token member =>
      TokenKind.ne_semicolon_of_isInside (phrase.inside token member)
  have low := plain header.low
  have high := plain header.high
  simp_all [LoopOpening.tokens, Ident.token, or_imp]

end TinyImp
