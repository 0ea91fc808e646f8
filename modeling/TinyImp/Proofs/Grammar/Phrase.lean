import TinyImp.Grammar.Expression
import TinyImp.Token.Basic
import TinyImp.Tree.Basic

/-!
# Phrases

The grammar of the language.  A phrase is a derivation: which alternative was
taken at every step, with every terminal's value and place, down to the marks
that leave no trace in the tree.  Its `tokens` are the word that it derives
and its `tree` is what the word stands for.

    program := stmt stmt*
    stmt    := 'var' IDENT ':' type [':=' expr] ';'
             | IDENT ':=' expr ';'
             | 'for' IDENT 'in' expr '..' expr 'do' stmt* 'end' 'for' ';'
             | 'read' IDENT ';'
             | 'print' expr ';'
             | 'assert' '(' expr ')' ';'
    expr    := operand | '!' operand | operand operator operand
    operand := INT_LITERAL | STRING_LITERAL | IDENT | '(' expr ')'

The grammar is unambiguous: where the token behind a phrase is none that would
be taken for more of it, the tokens have no other phrase in front.
-/

namespace TinyImp

/-- The token that writes an operator. -/
def BinaryOp.kind : BinaryOp → TokenKind
  | .add => .plus
  | .subtract => .minus
  | .multiply => .star
  | .divide => .slash
  | .less => .less
  | .equal => .equal
  | .both => .ampersand

theorem BinaryOp.binaryOp?_kind (operator : BinaryOp) :
    operator.kind.binaryOp? = some operator := by
  cases operator <;> rfl

theorem BinaryOp.kind_of_binaryOp? {kind : TokenKind} {operator : BinaryOp}
    (found : kind.binaryOp? = some operator) : operator.kind = kind := by
  cases kind <;> cases found <;> rfl

theorem BinaryOp.kind_injective {left right : BinaryOp}
    (same : left.kind = right.kind) : left = right := by
  have found := left.binaryOp?_kind
  rw [same, right.binaryOp?_kind] at found
  exact (Option.some.inj found).symm

/-- The token that writes a type. -/
def Ty.kind : Ty → TokenKind
  | .int => .intType
  | .string => .stringType
  | .bool => .boolType

def Ident.token (ident : Ident) : Token :=
  ⟨.ident ident.name, ident.position⟩

mutual

inductive OperandPhrase where
  | number (value : Integer) (position : Position)
  | text (value : String) (position : Position)
  | named (name : String) (position : Position)
  | group (opening : Position) (inner : ExprPhrase) (closing : Position)

inductive ExprPhrase where
  | lone (operand : OperandPhrase)
  | negation (mark : Position) (operand : OperandPhrase)
  | binary (left : OperandPhrase) (operator : BinaryOp) (mark : Position)
      (right : OperandPhrase)

end

mutual

def OperandPhrase.tokens : OperandPhrase → List Token
  | .number value position => [⟨.intLiteral value, position⟩]
  | .text value position => [⟨.stringLiteral value, position⟩]
  | .named name position => [⟨.ident name, position⟩]
  | .group opening inner closing =>
      ⟨.leftParen, opening⟩ :: (inner.tokens ++ [⟨.rightParen, closing⟩])

def ExprPhrase.tokens : ExprPhrase → List Token
  | .lone operand => operand.tokens
  | .negation mark operand => ⟨.exclamation, mark⟩ :: operand.tokens
  | .binary left operator mark right =>
      left.tokens ++ ⟨operator.kind, mark⟩ :: right.tokens

end

/-- The place of the first token of an operand. -/
def OperandPhrase.position : OperandPhrase → Position
  | .number _ position | .text _ position | .named _ position => position
  | .group opening _ _ => opening

mutual

/-- The tree of an operand.  Parentheses leave no node and no place. -/
def OperandPhrase.tree : OperandPhrase → Expr
  | .number value position => .number value position
  | .text value position => .text value position
  | .named name position => .named name position
  | .group _ inner _ => inner.tree

/-- The tree of an expression. -/
def ExprPhrase.tree : ExprPhrase → Expr
  | .lone operand => .lone operand.tree operand.position
  | .negation mark operand => .negation operand.tree mark
  | .binary left operator _ right =>
      .binary operator left.tree right.tree left.position

end

theorem OperandPhrase.tokens_eq (phrase : OperandPhrase) :
    ∃ kind following,
      phrase.tokens = ⟨kind, phrase.position⟩ :: following ∧
        kind ≠ .exclamation := by
  cases phrase <;>
    simp [OperandPhrase.tokens, OperandPhrase.position]

/-- Only a lone operand can be taken for the beginning of something longer. -/
def ExprPhrase.Continues : ExprPhrase → TokenKind → Prop
  | .lone _, kind => kind.binaryOp? ≠ none
  | _, _ => False

/-- The place of the first of some tokens. -/
def Token.firstPlace (tokens : List Token) : Option Position :=
  tokens.head?.map Token.position

/-- An expression stands at its first token, which may be a parenthesis. -/
theorem ExprPhrase.firstPlace_tokens (phrase : ExprPhrase) :
    Token.firstPlace phrase.tokens = some phrase.tree.position := by
  cases phrase with
  | negation _ _ => rfl
  | lone operand =>
      obtain ⟨_, _, tokens, _⟩ := operand.tokens_eq
      simp [ExprPhrase.tokens, tokens, ExprPhrase.tree, Expr.position,
        Token.firstPlace]
  | binary left _ _ _ =>
      obtain ⟨_, _, tokens, _⟩ := left.tokens_eq
      simp [ExprPhrase.tokens, tokens, ExprPhrase.tree, Expr.position,
        Token.firstPlace]

theorem ExprPhrase.not_continues_of_plain {kind : TokenKind}
    (plain : kind.binaryOp? = none) (phrase : ExprPhrase) :
    ¬phrase.Continues kind := by
  cases phrase <;> simp [ExprPhrase.Continues, plain]

theorem OperandPhrase.tokens_ne_negation {operand : OperandPhrase}
    {mark : Position} {others tail : List Token}
    (same : operand.tokens ++ others = ⟨.exclamation, mark⟩ :: tail) :
    False := by
  obtain ⟨kind, following, tokens, different⟩ := operand.tokens_eq
  rw [tokens] at same
  simp at same
  exact different same.1.1

mutual

/-- An operand ends by itself. -/
theorem OperandPhrase.eq_of_tokens (left right : OperandPhrase)
    {leftOthers rightOthers : List Token}
    (same : left.tokens ++ leftOthers = right.tokens ++ rightOthers) :
    left = right := by
  match left, right with
  | .group _ inner closing, .group _ otherInner otherClosing =>
      simp [OperandPhrase.tokens] at same
      obtain ⟨rfl, same⟩ := same
      have inners : inner = otherInner :=
        ExprPhrase.eq_of_tokens inner otherInner
          (inner.not_continues_of_plain rfl)
          (otherInner.not_continues_of_plain rfl) same
      subst inners
      simp at same
      simp [same]
  | .number _ _, other => cases other <;> simp_all [OperandPhrase.tokens]
  | .text _ _, other => cases other <;> simp_all [OperandPhrase.tokens]
  | .named _ _, other => cases other <;> simp_all [OperandPhrase.tokens]
  | .group _ _ _, .number _ _ => simp [OperandPhrase.tokens] at same
  | .group _ _ _, .text _ _ => simp [OperandPhrase.tokens] at same
  | .group _ _ _, .named _ _ => simp [OperandPhrase.tokens] at same

theorem ExprPhrase.eq_of_tokens (left right : ExprPhrase)
    {leftFollower rightFollower : Token} {leftOthers rightOthers : List Token}
    (leftStopped : ¬left.Continues leftFollower.kind)
    (rightStopped : ¬right.Continues rightFollower.kind)
    (same : left.tokens ++ leftFollower :: leftOthers =
      right.tokens ++ rightFollower :: rightOthers) :
    left = right := by
  match left, right with
  | .lone operand, .lone other =>
      rw [OperandPhrase.eq_of_tokens operand other same]
  | .negation mark operand, .negation otherMark other =>
      simp [ExprPhrase.tokens] at same
      rw [OperandPhrase.eq_of_tokens operand other same.2, same.1]
  | .binary operand operator mark second,
      .binary other otherOperator otherMark otherSecond =>
      simp only [ExprPhrase.tokens, List.append_assoc] at same
      obtain rfl := OperandPhrase.eq_of_tokens operand other same
      simp at same
      obtain ⟨⟨kinds, rfl⟩, same⟩ := same
      rw [OperandPhrase.eq_of_tokens second otherSecond same,
        BinaryOp.kind_injective kinds]
  -- the operator behind the one operand stands where the other one stops
  | .lone operand, .binary other operator mark second =>
      simp only [ExprPhrase.tokens, List.append_assoc] at same
      obtain rfl := OperandPhrase.eq_of_tokens operand other same
      simp at same
      simp [ExprPhrase.Continues, same.1, operator.binaryOp?_kind]
        at leftStopped
  | .binary operand operator mark second, .lone other =>
      simp only [ExprPhrase.tokens, List.append_assoc] at same
      obtain rfl := OperandPhrase.eq_of_tokens operand other same
      simp at same
      simp [ExprPhrase.Continues, ← same.1, operator.binaryOp?_kind]
        at rightStopped
  | .lone operand, .negation mark other =>
      exact (OperandPhrase.tokens_ne_negation same).elim
  | .negation mark operand, .lone other =>
      exact (OperandPhrase.tokens_ne_negation same.symm).elim
  | .binary operand operator mark second, .negation otherMark other =>
      simp only [ExprPhrase.tokens, List.append_assoc] at same
      exact (OperandPhrase.tokens_ne_negation same).elim
  | .negation mark operand, .binary other operator otherMark second =>
      simp only [ExprPhrase.tokens, List.append_assoc] at same
      exact (OperandPhrase.tokens_ne_negation same.symm).elim

end

theorem ExprPhrase.eq_of_tokens_before {kind : TokenKind}
    (plain : kind.binaryOp? = none) {left right : ExprPhrase}
    {leftMark rightMark : Position} {leftOthers rightOthers : List Token}
    (same : left.tokens ++ ⟨kind, leftMark⟩ :: leftOthers =
      right.tokens ++ ⟨kind, rightMark⟩ :: rightOthers) :
    left = right :=
  ExprPhrase.eq_of_tokens left right (left.not_continues_of_plain plain)
    (right.not_continues_of_plain plain) same

inductive StmtPhrase where
  | declare (opening : Position) (name : Ident) (colon : Position)
      (type : Ty) (typeAt : Position)
      (initial : Option (Position × ExprPhrase)) (semicolon : Position)
  | assign (target : Ident) (mark : Position) (value : ExprPhrase)
      (semicolon : Position)
  | loop (opening : Position) (index : Ident) (inAt : Position)
      (low : ExprPhrase) (rangeAt : Position) (high : ExprPhrase)
      (doAt : Position) (body : List StmtPhrase)
      (endAt closing semicolon : Position)
  | read (opening : Position) (target : Ident) (semicolon : Position)
  | print (opening : Position) (value : ExprPhrase) (semicolon : Position)
  | assert (opening leftParen : Position) (condition : ExprPhrase)
      (rightParen semicolon : Position)

/-- The tokens of what a declaration may assign. -/
def ExprPhrase.initialTokens : Option (Position × ExprPhrase) → List Token
  | none => []
  | some (mark, value) => ⟨.assign, mark⟩ :: value.tokens

/-- Where nothing is assigned, an assignment would be taken for more. -/
def ExprPhrase.InitialContinues :
    Option (Position × ExprPhrase) → TokenKind → Prop
  | none, kind => kind = .assign
  | some (_, value), kind => value.Continues kind

mutual

def StmtPhrase.tokens : StmtPhrase → List Token
  | .declare opening name colon type typeAt initial semicolon =>
      ⟨.varWord, opening⟩ :: name.token :: ⟨.colon, colon⟩ ::
        ⟨type.kind, typeAt⟩ ::
        (ExprPhrase.initialTokens initial ++ [⟨.semicolon, semicolon⟩])
  | .assign target mark value semicolon =>
      target.token :: ⟨.assign, mark⟩ ::
        (value.tokens ++ [⟨.semicolon, semicolon⟩])
  | .loop opening index inAt low rangeAt high doAt body endAt closing
      semicolon =>
      ⟨.forWord, opening⟩ :: index.token :: ⟨.inWord, inAt⟩ ::
        (low.tokens ++ ⟨.range, rangeAt⟩ ::
          (high.tokens ++ ⟨.doWord, doAt⟩ ::
            (StmtPhrase.tokensList body ++
              [⟨.endWord, endAt⟩, ⟨.forWord, closing⟩,
                ⟨.semicolon, semicolon⟩])))
  | .read opening target semicolon =>
      [⟨.readWord, opening⟩, target.token, ⟨.semicolon, semicolon⟩]
  | .print opening value semicolon =>
      ⟨.printWord, opening⟩ :: (value.tokens ++ [⟨.semicolon, semicolon⟩])
  | .assert opening leftParen condition rightParen semicolon =>
      ⟨.assertWord, opening⟩ :: ⟨.leftParen, leftParen⟩ ::
        (condition.tokens ++
          [⟨.rightParen, rightParen⟩, ⟨.semicolon, semicolon⟩])

def StmtPhrase.tokensList : List StmtPhrase → List Token
  | [] => []
  | phrase :: others => phrase.tokens ++ StmtPhrase.tokensList others

end

theorem StmtPhrase.tokens_eq (phrase : StmtPhrase) :
    ∃ kind position following,
      phrase.tokens = ⟨kind, position⟩ :: following ∧
        kind.startsStatement = true := by
  cases phrase <;>
    simp [StmtPhrase.tokens, Ident.token, TokenKind.startsStatement]

theorem Ident.token_injective {left right : Ident}
    (same : left.token = right.token) : left = right := by
  cases left
  cases right
  simp_all [Ident.token]

theorem Ty.kind_injective {left right : Ty} (same : left.kind = right.kind) :
    left = right := by
  cases left <;> cases right <;> simp_all [Ty.kind]

theorem ExprPhrase.not_initialContinues_semicolon
    (initial : Option (Position × ExprPhrase)) :
    ¬ExprPhrase.InitialContinues initial .semicolon := by
  match initial with
  | none => simp [ExprPhrase.InitialContinues]
  | some (mark, value) => exact value.not_continues_of_plain rfl

theorem ExprPhrase.eq_of_initialTokens
    (left right : Option (Position × ExprPhrase))
    {leftFollower rightFollower : Token} {leftOthers rightOthers : List Token}
    (leftStopped : ¬ExprPhrase.InitialContinues left leftFollower.kind)
    (rightStopped : ¬ExprPhrase.InitialContinues right rightFollower.kind)
    (same : ExprPhrase.initialTokens left ++ leftFollower :: leftOthers =
      ExprPhrase.initialTokens right ++ rightFollower :: rightOthers) :
    left = right := by
  match left, right with
  | none, none => rfl
  | none, some (mark, value) =>
      simp [ExprPhrase.initialTokens] at same
      simp [ExprPhrase.InitialContinues, same.1] at leftStopped
  | some (mark, value), none =>
      simp [ExprPhrase.initialTokens] at same
      simp [ExprPhrase.InitialContinues, ← same.1] at rightStopped
  | some (mark, value), some (otherMark, other) =>
      simp [ExprPhrase.initialTokens] at same
      obtain ⟨rfl, same⟩ := same
      rw [ExprPhrase.eq_of_tokens value other leftStopped rightStopped same]

mutual

/-- A statement ends by itself. -/
theorem StmtPhrase.eq_of_tokens (left right : StmtPhrase)
    {leftOthers rightOthers : List Token}
    (same : left.tokens ++ leftOthers = right.tokens ++ rightOthers) :
    left = right := by
  match left with
  | .declare _ name _ type _ initial _ =>
      cases right with
      | declare _ otherName _ otherType _ otherInitial _ =>
          simp [StmtPhrase.tokens] at same
          obtain ⟨rfl, names, rfl, ⟨types, rfl⟩, same⟩ := same
          obtain rfl := Ident.token_injective names
          obtain rfl := Ty.kind_injective types
          obtain rfl := ExprPhrase.eq_of_initialTokens initial otherInitial
            (ExprPhrase.not_initialContinues_semicolon _)
            (ExprPhrase.not_initialContinues_semicolon _) same
          simp at same
          simp [same]
      | _ => simp [StmtPhrase.tokens, Ident.token] at same
  | .assign target _ value _ =>
      cases right with
      | assign otherTarget _ otherValue _ =>
          simp [StmtPhrase.tokens] at same
          obtain ⟨targets, rfl, same⟩ := same
          obtain rfl := Ident.token_injective targets
          obtain rfl := ExprPhrase.eq_of_tokens_before rfl same
          simp at same
          simp [same]
      | _ => simp [StmtPhrase.tokens, Ident.token] at same
  | .loop _ index _ low _ high _ body _ _ _ =>
      cases right with
      | loop _ otherIndex _ otherLow _ otherHigh _ otherBody _ _ _ =>
          simp [StmtPhrase.tokens] at same
          obtain ⟨rfl, indices, rfl, same⟩ := same
          obtain rfl := Ident.token_injective indices
          obtain rfl := ExprPhrase.eq_of_tokens_before rfl same
          simp at same
          obtain ⟨rfl, same⟩ := same
          obtain rfl := ExprPhrase.eq_of_tokens_before rfl same
          simp at same
          obtain ⟨rfl, same⟩ := same
          obtain rfl := StmtPhrase.eq_of_tokensList body otherBody rfl rfl same
          simp at same
          simp [same]
      | _ => simp [StmtPhrase.tokens, Ident.token] at same
  | .read _ target _ =>
      cases right with
      | read _ otherTarget _ =>
          simp [StmtPhrase.tokens] at same
          obtain ⟨rfl, targets, rfl, _⟩ := same
          rw [Ident.token_injective targets]
      | _ => simp [StmtPhrase.tokens, Ident.token] at same
  | .print _ value _ =>
      cases right with
      | print _ otherValue _ =>
          simp [StmtPhrase.tokens] at same
          obtain ⟨rfl, same⟩ := same
          obtain rfl := ExprPhrase.eq_of_tokens_before rfl same
          simp at same
          simp [same]
      | _ => simp [StmtPhrase.tokens, Ident.token] at same
  | .assert _ _ condition _ _ =>
      cases right with
      | assert _ _ otherCondition _ _ =>
          simp [StmtPhrase.tokens] at same
          obtain ⟨rfl, rfl, same⟩ := same
          obtain rfl := ExprPhrase.eq_of_tokens_before rfl same
          simp at same
          simp [same]
      | _ => simp [StmtPhrase.tokens, Ident.token] at same

/-- A row of statements ends where no statement begins. -/
theorem StmtPhrase.eq_of_tokensList (left right : List StmtPhrase)
    {leftFollower rightFollower : Token} {leftOthers rightOthers : List Token}
    (leftStopped : leftFollower.kind.startsStatement = false)
    (rightStopped : rightFollower.kind.startsStatement = false)
    (same : StmtPhrase.tokensList left ++ leftFollower :: leftOthers =
      StmtPhrase.tokensList right ++ rightFollower :: rightOthers) :
    left = right := by
  match left, right with
  | [], [] => rfl
  | [], other :: _ =>
      obtain ⟨kind, position, following, tokens, starts⟩ := other.tokens_eq
      simp [StmtPhrase.tokensList, tokens] at same
      simp [same.1, starts] at leftStopped
  | phrase :: _, [] =>
      obtain ⟨kind, position, following, tokens, starts⟩ := phrase.tokens_eq
      simp [StmtPhrase.tokensList, tokens] at same
      simp [← same.1, starts] at rightStopped
  | phrase :: rest, other :: otherRest =>
      simp only [StmtPhrase.tokensList, List.append_assoc] at same
      obtain rfl := StmtPhrase.eq_of_tokens phrase other same
      rw [StmtPhrase.eq_of_tokensList rest otherRest leftStopped rightStopped
        (List.append_cancel_left same)]

end

mutual

def StmtPhrase.tree : StmtPhrase → Stmt
  | .declare opening name _ type _ initial _ =>
      .declare name type (initial.map fun part => part.2.tree) opening
  | .assign target _ value _ => .assign target value.tree target.position
  | .loop opening index _ low _ high _ body _ _ _ =>
      .loop index low.tree high.tree (StmtPhrase.treeList body) opening
  | .read opening target _ => .read target opening
  | .print opening value _ => .print value.tree opening
  | .assert opening _ condition _ _ => .assert condition.tree opening

def StmtPhrase.treeList : List StmtPhrase → List Stmt
  | [] => []
  | phrase :: others => phrase.tree :: StmtPhrase.treeList others

end

theorem StmtPhrase.firstPlace_tokens (phrase : StmtPhrase) :
    Token.firstPlace phrase.tokens = some phrase.tree.position := by
  cases phrase <;> rfl

/-- A program is one statement or more. -/
structure ProgramPhrase where
  first : StmtPhrase
  others : List StmtPhrase

def ProgramPhrase.tokens (phrase : ProgramPhrase) : List Token :=
  phrase.first.tokens ++ StmtPhrase.tokensList phrase.others

theorem ProgramPhrase.eq_of_tokens (left right : ProgramPhrase)
    {leftFollower rightFollower : Token} {leftOthers rightOthers : List Token}
    (leftStopped : leftFollower.kind.startsStatement = false)
    (rightStopped : rightFollower.kind.startsStatement = false)
    (same : left.tokens ++ leftFollower :: leftOthers =
      right.tokens ++ rightFollower :: rightOthers) :
    left = right := by
  obtain ⟨first, others⟩ := left
  obtain ⟨otherFirst, otherOthers⟩ := right
  simp only [ProgramPhrase.tokens, List.append_assoc] at same
  obtain rfl := StmtPhrase.eq_of_tokens first otherFirst same
  rw [StmtPhrase.eq_of_tokensList others otherOthers leftStopped rightStopped
    (List.append_cancel_left same)]

def ProgramPhrase.tree (phrase : ProgramPhrase) : Program :=
  phrase.first.tree :: StmtPhrase.treeList phrase.others

/-- Neither a comment nor a piece of text that could not be read. -/
def Token.Legible (token : Token) : Prop :=
  token.kind ≠ .comment ∧ ∀ message, token.kind ≠ .invalid message

mutual

theorem OperandPhrase.legible (phrase : OperandPhrase) :
    ∀ token ∈ phrase.tokens, token.Legible := by
  match phrase with
  | .number _ _ | .text _ _ | .named _ _ =>
      simp [OperandPhrase.tokens, Token.Legible]
  | .group _ inner _ =>
      have innerLegible := ExprPhrase.legible inner
      simp_all [OperandPhrase.tokens, Token.Legible, or_imp, forall_and]

theorem ExprPhrase.legible (phrase : ExprPhrase) :
    ∀ token ∈ phrase.tokens, token.Legible := by
  match phrase with
  | .lone operand => exact OperandPhrase.legible operand
  | .negation _ operand =>
      have operandLegible := OperandPhrase.legible operand
      simp_all [ExprPhrase.tokens, Token.Legible]
  | .binary left operator _ right =>
      have leftLegible := OperandPhrase.legible left
      have rightLegible := OperandPhrase.legible right
      have operatorLegible : operator.kind ≠ .comment ∧
          ∀ message, operator.kind ≠ .invalid message := by
        cases operator <;> simp [BinaryOp.kind]
      simp_all [ExprPhrase.tokens, Token.Legible, or_imp, forall_and]

end

theorem ExprPhrase.initial_legible (initial : Option (Position × ExprPhrase)) :
    ∀ token ∈ ExprPhrase.initialTokens initial, token.Legible := by
  match initial with
  | none => simp [ExprPhrase.initialTokens]
  | some (_, value) =>
      have valueLegible := value.legible
      simp_all [ExprPhrase.initialTokens, Token.Legible]

mutual

theorem StmtPhrase.legible (phrase : StmtPhrase) :
    ∀ token ∈ phrase.tokens, token.Legible := by
  match phrase with
  | .declare _ name _ type _ initial _ =>
      have initialLegible := ExprPhrase.initial_legible initial
      have typeLegible : type.kind ≠ .comment ∧
          ∀ message, type.kind ≠ .invalid message := by
        cases type <;> simp [Ty.kind]
      simp_all [StmtPhrase.tokens, Ident.token, Token.Legible, or_imp,
        forall_and]
  | .assign _ _ value _ =>
      have valueLegible := value.legible
      simp_all [StmtPhrase.tokens, Ident.token, Token.Legible, or_imp,
        forall_and]
  | .loop _ _ _ low _ high _ body _ _ _ =>
      have lowLegible := low.legible
      have highLegible := high.legible
      have bodyLegible := StmtPhrase.legibleList body
      simp_all [StmtPhrase.tokens, Ident.token, Token.Legible, or_imp,
        forall_and]
  | .read _ _ _ =>
      simp [StmtPhrase.tokens, Ident.token, Token.Legible]
  | .print _ value _ =>
      have valueLegible := value.legible
      simp_all [StmtPhrase.tokens, Token.Legible, or_imp, forall_and]
  | .assert _ _ condition _ _ =>
      have conditionLegible := condition.legible
      simp_all [StmtPhrase.tokens, Token.Legible, or_imp, forall_and]

theorem StmtPhrase.legibleList (phrases : List StmtPhrase) :
    ∀ token ∈ StmtPhrase.tokensList phrases, token.Legible := by
  match phrases with
  | [] => simp [StmtPhrase.tokensList]
  | phrase :: others =>
      have phraseLegible := StmtPhrase.legible phrase
      have othersLegible := StmtPhrase.legibleList others
      simp_all [StmtPhrase.tokensList, Token.Legible, or_imp, forall_and]

end

theorem ProgramPhrase.legible (phrase : ProgramPhrase) :
    ∀ token ∈ phrase.tokens, token.Legible :=
  StmtPhrase.legibleList (phrase.first :: phrase.others)

end TinyImp
