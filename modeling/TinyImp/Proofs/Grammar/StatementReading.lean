import TinyImp.Grammar.Statement
import TinyImp.Proofs.Grammar.ExpressionReading

/-!
# Reading statements predictively

Up to its first mismatch a recovering reader does what the production does
that it attempts, so the recovery has no part in the verdict on a statement.
Every form of a statement is told by its first token.  A row of statements is
read as long as one can begin, inside loops as well, and each statement takes
at least one token, so the induction is on the number of tokens left.
-/

namespace TinyImp

open PhraseClass

def initials : PhraseClass (Option (Position × ExprPhrase)) where
  tokens := ExprPhrase.initialTokens
  Continues := ExprPhrase.InitialContinues

def stmtPhrases : PhraseClass StmtPhrase where
  tokens := StmtPhrase.tokens
  Continues _ _ := False

/-- Rows of statements, which go on as long as a statement can begin. -/
def blocks : PhraseClass (List StmtPhrase) where
  tokens := StmtPhrase.tokensList
  Continues _ kind := kind.startsStatement = true

/-- What a declaration assigns, as a part of the tree. -/
def initialTree (initial : Option (Position × ExprPhrase)) : Option Expr :=
  initial.map fun part => part.2.tree

@[simp]
theorem initials_tokens (initial : Option (Position × ExprPhrase)) :
    initials.tokens initial = ExprPhrase.initialTokens initial :=
  rfl

@[simp]
theorem initials_continues (initial : Option (Position × ExprPhrase))
    (kind : TokenKind) :
    initials.Continues initial kind ↔
      ExprPhrase.InitialContinues initial kind :=
  Iff.rfl

@[simp]
theorem stmtPhrases_tokens (phrase : StmtPhrase) :
    stmtPhrases.tokens phrase = phrase.tokens :=
  rfl

@[simp]
theorem stmtPhrases_continues (phrase : StmtPhrase) (kind : TokenKind) :
    stmtPhrases.Continues phrase kind ↔ False :=
  Iff.rfl

@[simp]
theorem blocks_tokens (block : List StmtPhrase) :
    blocks.tokens block = StmtPhrase.tokensList block :=
  rfl

@[simp]
theorem blocks_continues (block : List StmtPhrase) (kind : TokenKind) :
    blocks.Continues block kind ↔ kind.startsStatement = true :=
  Iff.rfl

theorem initials_unambiguous : initials.Unambiguous := by
  intro left right _ _ _ _ leftStopped rightStopped same
  exact ExprPhrase.eq_of_initialTokens left right leftStopped rightStopped same

theorem stmtPhrases_unambiguous : stmtPhrases.Unambiguous := by
  intro left right _ _ _ _ _ _ same
  exact StmtPhrase.eq_of_tokens left right same

theorem blocks_unambiguous : blocks.Unambiguous := by
  intro left right _ _ _ _ leftStopped rightStopped same
  exact StmtPhrase.eq_of_tokensList left right
    (Bool.eq_false_iff.mpr leftStopped) (Bool.eq_false_iff.mpr rightStopped)
    same

instance : Nonempty StmtPhrase :=
  ⟨.read .start ⟨"", .start⟩ .start⟩

variable {Φ Ψ α β : Type} {bound : Nat} {cursor : Cursor}

namespace Production

theorem initial_readBy :
    initials.ReadBy initialTree bound (verdict initial) where
  unambiguous := initials_unambiguous
  outcome := by
    intro cursor ended small
    rw [initial, verdict_current_bind]
    by_cases ahead : cursor.current.kind = .assign
    · have parts : ((marks .assign).followedBy
          (expressions.followedBy empty)).ReadBy
          (fun parts => some parts.2.1.tree) bound
          (verdict (do
            expect .assign
            return some (← expression))) := by
        refine readBy_expect_bind (by simp) fun mark => ?_
        refine readBy_bind expression_readBy (.before_empty _)
          fun value => ?_
        exact return_readBy (some value.tree)
      rw [if_pos ahead, verdict_advance_bind ahead]
      refine (parts.outcome cursor ended small).embed
        (fun parts => some (parts.1, parts.2.1)) ?_ ?_ ?_ ?_
      · intro parts
        simp [ExprPhrase.initialTokens]
      · intro parts kind
        simp [ExprPhrase.InitialContinues]
      · intro parts rest _
        rfl
      · intro phrase follower others stopped same
        cases phrase with
        | none => exact absurd ((Option.some.inj same).trans ahead) stopped
        | some parts => exact ⟨(parts.1, parts.2, ()), rfl⟩
    · rw [if_neg ahead]
      exact .accepted none ended rfl ahead

/-- What is read of a loop before its body. -/
abbrev loopHeaders :=
  (marks .forWord).followedBy <| idents.followedBy <|
    (marks .inWord).followedBy <| expressions.followedBy <|
      (marks .range).followedBy <| expressions.followedBy <|
        (marks .doWord).followedBy empty

/-- What is read of the statements other than loops, up to the semicolon. -/
abbrev declarations :=
  (marks .varWord).followedBy <| idents.followedBy <|
    (marks .colon).followedBy <| types.followedBy <|
      initials.followedBy empty

abbrev assignments :=
  idents.followedBy <| (marks .assign).followedBy <|
    expressions.followedBy empty

abbrev readings :=
  (marks .readWord).followedBy <| idents.followedBy empty

abbrev printings :=
  (marks .printWord).followedBy <| expressions.followedBy empty

abbrev assertions :=
  (marks .assertWord).followedBy <| (marks .leftParen).followedBy <|
    expressions.followedBy <| (marks .rightParen).followedBy empty

theorem loopHeader_readBy (bound : Nat) (position : Position) :
    loopHeaders.ReadBy
      (fun (_, index, _, low, _, high, _) =>
        LoopHeader.mk index low.tree high.tree position) bound
      (verdict (do
        expect .forWord
        let index ← ident
        expect .inWord
        let low ← expression
        expect .range
        let high ← expression
        expect .doWord
        return ⟨index, low, high, position⟩)) := by
  refine readBy_expect_bind (by simp) fun opening => ?_
  refine readBy_bind ident_readBy (.of_closed fun _ _ => id) fun index => ?_
  refine readBy_expect_bind (by simp) fun inAt => ?_
  refine readBy_bind expression_readBy (expressions_meet_mark rfl)
    fun low => ?_
  refine readBy_expect_bind (by simp) fun rangeAt => ?_
  refine readBy_bind expression_readBy (expressions_meet_mark rfl)
    fun high => ?_
  refine readBy_expect_bind (by simp) fun doAt => ?_
  exact return_readBy (LoopHeader.mk index low.tree high.tree position)

theorem declaration_readBy (bound : Nat) (position : Position) :
    declarations.ReadBy
      (fun (_, name, _, (type, _), initial, _) =>
        Stmt.declare name type (initialTree initial) position) bound
      (verdict (do
        expect .varWord
        let name ← ident
        expect .colon
        let type ← type
        return .declare name type (← initial) position)) := by
  refine readBy_expect_bind (by simp) fun opening => ?_
  refine readBy_bind ident_readBy (.of_closed fun _ _ => id) fun name => ?_
  refine readBy_expect_bind (by simp) fun colon => ?_
  refine readBy_bind type_readBy (.of_closed fun _ _ => id) fun type => ?_
  refine readBy_bind initial_readBy (.before_empty _) fun initial => ?_
  exact return_readBy
    (Stmt.declare name type.1 (initialTree initial) position)

theorem assignment_readBy (bound : Nat) (position : Position) :
    assignments.ReadBy
      (fun (target, _, value, _) => Stmt.assign target value.tree position)
      bound
      (verdict (do
        let target ← ident
        expect .assign
        return .assign target (← expression) position)) := by
  refine readBy_bind ident_readBy (.of_closed fun _ _ => id) fun target => ?_
  refine readBy_expect_bind (by simp) fun mark => ?_
  refine readBy_bind expression_readBy (.before_empty _) fun value => ?_
  exact return_readBy (Stmt.assign target value.tree position)

theorem reading_readBy (bound : Nat) (position : Position) :
    readings.ReadBy (fun (_, target, _) => Stmt.read target position) bound
      (verdict (do
        expect .readWord
        return .read (← ident) position)) := by
  refine readBy_expect_bind (by simp) fun opening => ?_
  refine readBy_bind ident_readBy (.of_closed fun _ _ => id) fun target => ?_
  exact return_readBy (Stmt.read target position)

theorem printing_readBy (bound : Nat) (position : Position) :
    printings.ReadBy (fun (_, value, _) => Stmt.print value.tree position)
      bound
      (verdict (do
        expect .printWord
        return .print (← expression) position)) := by
  refine readBy_expect_bind (by simp) fun opening => ?_
  refine readBy_bind expression_readBy (.before_empty _) fun value => ?_
  exact return_readBy (Stmt.print value.tree position)

theorem assertion_readBy (bound : Nat) (position : Position) :
    assertions.ReadBy
      (fun (_, _, condition, _) => Stmt.assert condition.tree position) bound
      (verdict (do
        expect .assertWord
        expect .leftParen
        let condition ← expression
        expect .rightParen
        return .assert condition position)) := by
  refine readBy_expect_bind (by simp) fun opening => ?_
  refine readBy_expect_bind (by simp) fun leftParen => ?_
  refine readBy_bind expression_readBy (expressions_meet_mark rfl)
    fun condition => ?_
  refine readBy_expect_bind (by simp) fun rightParen => ?_
  exact return_readBy (Stmt.assert condition.tree position)

end Production

namespace Recovering

open Production (declarations assignments readings printings assertions
  loopHeaders LoopHeader)

section Sequence

variable [Nonempty Φ] [Nonempty Ψ] {first : PhraseClass Φ}
  {second : PhraseClass Ψ} {value : Φ → α} {result : Φ × Ψ → β}

theorem readBy_bind {reader : Recovering α} {next : α → Recovering β}
    (early : first.ReadBy value bound (verdict reader))
    (meets : first.Meets second)
    (late : ∀ phrase, second.ReadBy (fun back => result (phrase, back)) bound
      (verdict (next (value phrase)))) :
    (first.followedBy second).ReadBy result bound
      (verdict (reader >>= next)) := by
  rw [funext (verdict_bind reader next)]
  exact early.followedBy meets (fun _ => Nat.le_add_right ..) late

theorem readBy_attempt_bind {production : Production α}
    {next : Option α → Recovering β}
    (early : first.ReadBy value bound (Production.verdict production))
    (meets : first.Meets second)
    (late : ∀ phrase, second.ReadBy (fun back => result (phrase, back)) bound
      (verdict (next (some (value phrase))))) :
    (first.followedBy second).ReadBy result bound
      (verdict (attempt production >>= next)) := by
  rw [funext (verdict_attempt_bind production next)]
  exact early.followedBy meets (fun _ => Nat.le_add_right ..) late

theorem return_readBy (value : α) :
    empty.ReadBy (fun _ => value) bound (verdict (pure value)) :=
  empty_readBy bound fun _ => value

end Sequence

theorem verdict_endStatement (cursor : Cursor) :
    verdict endStatement cursor =
      Production.verdict (Production.expect .semicolon) cursor := by
  rw [endStatement, verdict_attempt_bind]
  cases Production.verdict (Production.expect .semicolon) cursor <;> rfl

theorem endStatement_readBy :
    (marks .semicolon).ReadBy (fun _ => ()) bound (verdict endStatement) := by
  rw [funext verdict_endStatement]
  exact Production.expect_readBy (by simp)

/-- A statement other than a loop is what its form says, and a semicolon. -/
theorem simpleStatement_outcome {first : PhraseClass Φ} {value : Φ → Stmt}
    {form : Production Stmt} (written : Φ → Position → StmtPhrase)
    (ended : cursor.Ended)
    (formRead :
      first.ReadBy value (cursor.size + 1) (Production.verdict form))
    (chosen : Production.verdict Production.simpleStatement cursor =
      Production.verdict form cursor)
    (closed : ∀ phrase, ¬first.Continues phrase .semicolon)
    (tokens : ∀ phrase semicolon, (written phrase semicolon).tokens =
      first.tokens phrase ++ [⟨.semicolon, semicolon⟩])
    (trees : ∀ phrase semicolon rest,
      cursor.remaining = first.tokens phrase ++ rest →
      (written phrase semicolon).tree = value phrase)
    (covers : ∀ statement : StmtPhrase,
      Token.firstKind statement.tokens = some cursor.current.kind →
      ∃ phrase semicolon, written phrase semicolon = statement) :
    stmtPhrases.Outcome (fun phrase => some phrase.tree) cursor
      (verdict simpleStatement cursor) := by
  have parts :
      (first.followedBy ((marks .semicolon).followedBy empty)).Outcome
        (fun parts => some (value parts.1)) cursor
        (verdict simpleStatement cursor) := by
    rw [simpleStatement, verdict_attempt_bind, chosen]
    refine Outcome.followedBy formRead.unambiguous ?_
      (formRead.outcome cursor ended (Nat.lt_succ_self _)) ?_
    · intro phrase back token following tokens
      obtain ⟨rfl, _⟩ := List.cons.inj tokens
      exact closed phrase
    · intro phrase rest restEnded _
      have ending : ((marks .semicolon).followedBy empty).ReadBy
          (fun _ => some (value phrase)) (rest.size + 1)
          (verdict (do
            endStatement
            return some (value phrase))) :=
        readBy_bind endStatement_readBy (.of_closed fun _ _ => id)
          fun _ => return_readBy (some (value phrase))
      exact ending.outcome rest restEnded (Nat.lt_succ_self _)
  refine parts.embed (fun parts => written parts.1 parts.2.1) ?_ ?_ ?_ ?_
  · intro parts
    simp [tokens]
  · intro parts kind
    simp
  · intro parts rest reading
    rw [followedBy_tokens, List.append_assoc] at reading
    rw [trees parts.1 parts.2.1 _ reading]
  · intro statement follower others _ same
    obtain ⟨kind, position, following, opening, _⟩ := statement.tokens_eq
    have kinds : Token.firstKind statement.tokens =
        some cursor.current.kind := by
      rw [stmtPhrases_tokens, opening] at same
      rw [opening]
      exact same
    obtain ⟨phrase, semicolon, rfl⟩ := covers statement kinds
    exact ⟨(phrase, semicolon, ()), rfl⟩

theorem declaration_outcome (ended : cursor.Ended)
    (ahead : cursor.current.kind = .varWord) :
    stmtPhrases.Outcome (fun phrase => some phrase.tree) cursor
      (verdict simpleStatement cursor) := by
  apply simpleStatement_outcome
    (fun (opening, name, colon, (type, typeAt), initial, _) semicolon =>
      .declare opening name colon type typeAt initial semicolon) ended
    (Production.declaration_readBy _ cursor.current.position)
  · rw [Production.simpleStatement, Production.verdict_current_bind]
    simp only [ahead]
    exact Production.verdict_advance_bind ahead _
  · intro parts
    simp [idents, types, ExprPhrase.not_initialContinues_semicolon]
  · intro parts semicolon
    simp [StmtPhrase.tokens, idents, types]
  · intro parts semicolon rest reading
    simp [Cursor.current_of_remaining reading]
    rfl
  · intro statement same
    cases statement with
    | declare opening name colon type typeAt initial semicolon =>
        exact ⟨(opening, name, colon, (type, typeAt), initial, ()), semicolon,
          rfl⟩
    | _ => simp [StmtPhrase.tokens, Ident.token, ahead] at same

theorem assignment_outcome {name : String} (ended : cursor.Ended)
    (ahead : cursor.current.kind = .ident name) :
    stmtPhrases.Outcome (fun phrase => some phrase.tree) cursor
      (verdict simpleStatement cursor) := by
  apply simpleStatement_outcome
    (fun (target, mark, value, _) semicolon =>
      .assign target mark value semicolon) ended
    (Production.assignment_readBy _ cursor.current.position)
  · rw [Production.simpleStatement, Production.verdict_current_bind]
    simp only [ahead]
  · intro parts
    have stopped : ¬parts.2.2.1.Continues .semicolon :=
      ExprPhrase.not_continues_of_plain rfl _
    simp [idents, stopped]
  · intro parts semicolon
    simp [StmtPhrase.tokens, idents]
  · intro parts semicolon rest reading
    simp [Cursor.current_of_remaining reading]
    rfl
  · intro statement same
    cases statement with
    | assign target mark value semicolon =>
        exact ⟨(target, mark, value, ()), semicolon, rfl⟩
    | _ => simp [StmtPhrase.tokens, ahead] at same

theorem reading_outcome (ended : cursor.Ended)
    (ahead : cursor.current.kind = .readWord) :
    stmtPhrases.Outcome (fun phrase => some phrase.tree) cursor
      (verdict simpleStatement cursor) := by
  apply simpleStatement_outcome
    (fun (opening, target, _) semicolon => .read opening target semicolon)
    ended (Production.reading_readBy _ cursor.current.position)
  · rw [Production.simpleStatement, Production.verdict_current_bind]
    simp only [ahead]
    exact Production.verdict_advance_bind ahead _
  · intro parts
    simp [idents]
  · intro parts semicolon
    simp [StmtPhrase.tokens, idents]
  · intro parts semicolon rest reading
    simp [Cursor.current_of_remaining reading]
    rfl
  · intro statement same
    cases statement with
    | read opening target semicolon =>
        exact ⟨(opening, target, ()), semicolon, rfl⟩
    | _ => simp [StmtPhrase.tokens, Ident.token, ahead] at same

theorem printing_outcome (ended : cursor.Ended)
    (ahead : cursor.current.kind = .printWord) :
    stmtPhrases.Outcome (fun phrase => some phrase.tree) cursor
      (verdict simpleStatement cursor) := by
  apply simpleStatement_outcome
    (fun (opening, value, _) semicolon => .print opening value semicolon)
    ended (Production.printing_readBy _ cursor.current.position)
  · rw [Production.simpleStatement, Production.verdict_current_bind]
    simp only [ahead]
    exact Production.verdict_advance_bind ahead _
  · intro parts
    have stopped : ¬parts.2.1.Continues .semicolon :=
      ExprPhrase.not_continues_of_plain rfl _
    simp [stopped]
  · intro parts semicolon
    simp [StmtPhrase.tokens]
  · intro parts semicolon rest reading
    simp [Cursor.current_of_remaining reading]
    rfl
  · intro statement same
    cases statement with
    | print opening value semicolon =>
        exact ⟨(opening, value, ()), semicolon, rfl⟩
    | _ => simp [StmtPhrase.tokens, Ident.token, ahead] at same

theorem assertion_outcome (ended : cursor.Ended)
    (ahead : cursor.current.kind = .assertWord) :
    stmtPhrases.Outcome (fun phrase => some phrase.tree) cursor
      (verdict simpleStatement cursor) := by
  apply simpleStatement_outcome
    (fun (opening, leftParen, condition, rightParen, _) semicolon =>
      .assert opening leftParen condition rightParen semicolon) ended
    (Production.assertion_readBy _ cursor.current.position)
  · rw [Production.simpleStatement, Production.verdict_current_bind]
    simp only [ahead]
    exact Production.verdict_advance_bind ahead _
  · intro parts
    simp
  · intro parts semicolon
    simp [StmtPhrase.tokens]
  · intro parts semicolon rest reading
    simp [Cursor.current_of_remaining reading]
    rfl
  · intro statement same
    cases statement with
    | assert opening leftParen condition rightParen semicolon =>
        exact ⟨(opening, leftParen, condition, rightParen, ()), semicolon,
          rfl⟩
    | _ => simp [StmtPhrase.tokens, Ident.token, ahead] at same

/-- Behind the body of a loop. -/
abbrev loopEnds :=
  (marks .endWord).followedBy <| (marks .forWord).followedBy <|
    (marks .semicolon).followedBy empty

theorem loopEnd_readBy (header : LoopHeader) (body : List Stmt) :
    loopEnds.ReadBy
      (fun _ => some (Stmt.loop header.index header.low header.high body
        header.position)) bound (verdict (loopEnd header body)) := by
  refine readBy_attempt_bind (Production.expect_readBy (by simp))
    (.of_closed fun _ _ => id) fun endAt => ?_
  refine readBy_attempt_bind (Production.expect_readBy (by simp))
    (.of_closed fun _ _ => id) fun closing => ?_
  refine readBy_bind endStatement_readBy (.of_closed fun _ _ => id)
    fun semicolon => ?_
  exact return_readBy (some (Stmt.loop header.index header.low header.high
    body header.position))

theorem blocks_meet_loopEnds : blocks.Meets loopEnds := by
  intro block back token following tokens
  obtain ⟨rfl, _⟩ := List.cons.inj tokens
  simp [TokenKind.startsStatement]

/-- The body of a loop is read with fewer tokens left than the loop. -/
theorem loopWith_outcome {body : Recovering (List Stmt)}
    (bodyRead : blocks.ReadBy StmtPhrase.treeList bound (verdict body))
    (ended : cursor.Ended) (small : cursor.size < bound + 1)
    (ahead : cursor.current.kind = .forWord) :
    stmtPhrases.Outcome (fun phrase => some phrase.tree) cursor
      (verdict (loopWith body) cursor) := by
  have header := Production.loopHeader_readBy (bound + 1)
    cursor.current.position
  have parts : (loopHeaders.followedBy
      (blocks.followedBy loopEnds)).Outcome
      (fun ((_, index, _, low, _, high, _), block, _) =>
        some (Stmt.loop index low.tree high.tree (StmtPhrase.treeList block)
          cursor.current.position)) cursor
      (verdict (loopWith body) cursor) := by
    rw [loopWith, verdict_attempt_bind, Production.loopHeader,
      Production.verdict_current_bind]
    refine Outcome.followedBy header.unambiguous ?_
      (header.outcome cursor ended small) ?_
    · exact .of_closed fun _ _ => by simp [idents]
    · intro (opening, index, inAt, low, rangeAt, high, doAt, last) rest
        restEnded reading
      refine (readBy_bind bodyRead blocks_meet_loopEnds fun block =>
        loopEnd_readBy
          ⟨index, low.tree, high.tree, cursor.current.position⟩
          (StmtPhrase.treeList block)).outcome rest restEnded ?_
      have sizes := Cursor.size_of_remaining_append reading
      simp at sizes
      omega
  refine parts.embed
    (fun ((opening, index, inAt, low, rangeAt, high, doAt, _), block, endAt,
        closing, semicolon, _) =>
      .loop opening index inAt low rangeAt high doAt block endAt closing
        semicolon) ?_ ?_ ?_ ?_
  · intro parts
    simp [StmtPhrase.tokens, idents]
  · intro parts kind
    simp
  · intro parts rest reading
    simp [Cursor.current_of_remaining reading]
    rfl
  · intro phrase follower others _ same
    cases phrase with
    | loop opening index inAt low rangeAt high doAt block endAt closing
        semicolon =>
        exact ⟨((opening, index, inAt, low, rangeAt, high, doAt, ()), block,
          endAt, closing, semicolon, ()), rfl⟩
    | _ => simp [StmtPhrase.tokens, Ident.token, ahead] at same

theorem simpleStatement_outcome_of_unfit (ended : cursor.Ended)
    (unfit : cursor.current.kind.startsStatement = false) :
    stmtPhrases.Outcome (fun phrase => some phrase.tree) cursor
      (verdict simpleStatement cursor) := by
  have refused :
      verdict simpleStatement cursor = .refused cursor.current := by
    rw [simpleStatement, verdict_attempt_bind, Production.simpleStatement,
      Production.verdict_current_bind]
    cases ahead : cursor.current.kind <;>
      simp [ahead, TokenKind.startsStatement] at unfit <;> rfl
  rw [refused]
  apply Outcome.refusedAtOnce ended
  intro phrase follower others _ same
  obtain ⟨kind, position, following, tokens, starts⟩ := phrase.tokens_eq
  simp [tokens] at same
  simp [← same, starts] at unfit

theorem statementWith_outcome {body : Recovering (List Stmt)}
    (bodyRead : blocks.ReadBy StmtPhrase.treeList bound (verdict body))
    (ended : cursor.Ended) (small : cursor.size < bound + 1) :
    stmtPhrases.Outcome (fun phrase => some phrase.tree) cursor
      (verdict (statementWith body) cursor) := by
  rw [statementWith, verdict_current_bind]
  by_cases isLoop : cursor.current.kind = .forWord
  · rw [if_pos isLoop]
    exact loopWith_outcome bodyRead ended small isLoop
  · rw [if_neg isLoop]
    cases ahead : cursor.current.kind with
    | varWord => exact declaration_outcome ended ahead
    | ident name => exact assignment_outcome ended ahead
    | readWord => exact reading_outcome ended ahead
    | printWord => exact printing_outcome ended ahead
    | assertWord => exact assertion_outcome ended ahead
    | forWord => exact absurd ahead isLoop
    | _ => exact simpleStatement_outcome_of_unfit ended (by rw [ahead]; rfl)

/-- Every statement takes a token, so a row of statements is read to its end
within as many steps as there are tokens. -/
theorem statementsWithin_readBy (fuel : Nat) :
    blocks.ReadBy StmtPhrase.treeList fuel
      (verdict (statementsWithin fuel)) := by
  induction fuel with
  | zero =>
      exact ⟨blocks_unambiguous,
        fun _ _ small => absurd small (Nat.not_lt_zero _)⟩
  | succ fuel othersRead =>
      refine ⟨blocks_unambiguous, ?_⟩
      intro cursor ended small
      rw [statementsWithin, verdict_current_bind]
      by_cases starts : cursor.current.kind.startsStatement = true
      · rw [if_pos starts]
        have parts : (stmtPhrases.followedBy (blocks.followedBy empty)).Outcome
            (fun (phrase, others, _) =>
              phrase.tree :: StmtPhrase.treeList others) cursor
            (verdict (do
              let statement ← statementWith (statementsWithin fuel)
              let others ← statementsWithin fuel
              return statement.toList ++ others) cursor) := by
          rw [verdict_bind]
          refine Outcome.followedBy stmtPhrases_unambiguous
            (.of_closed fun _ _ => id)
            (statementWith_outcome othersRead ended small) ?_
          intro phrase rest restEnded reading
          refine (readBy_bind othersRead (.before_empty _)
            fun others => return_readBy _).outcome rest restEnded ?_
          -- the statement has left at least one token
          obtain ⟨kind, position, following, tokens, _⟩ := phrase.tokens_eq
          have sizes := Cursor.size_of_remaining_append reading
          simp [tokens] at sizes
          omega
        refine parts.embed (fun (phrase, others, _) => phrase :: others)
          ?_ ?_ ?_ ?_
        · intro parts
          simp [StmtPhrase.tokensList]
        · intro parts kind
          simp
        · intro parts rest _
          rfl
        · intro block follower others stopped same
          cases block with
          | nil =>
              have kinds : follower.kind = cursor.current.kind :=
                Option.some.inj same
              exact absurd (kinds ▸ starts) stopped
          | cons phrase others => exact ⟨(phrase, others, ()), rfl⟩
      · rw [if_neg starts]
        exact .accepted [] ended rfl starts

theorem statements_readBy :
    blocks.ReadBy StmtPhrase.treeList bound (verdict statements) where
  unambiguous := blocks_unambiguous
  outcome := by
    intro cursor ended _
    exact (statementsWithin_readBy (cursor.size + 1)).outcome cursor ended
      (Nat.lt_succ_self _)

theorem statement_readBy :
    stmtPhrases.ReadBy (fun phrase => some phrase.tree) bound
      (verdict statement) where
  unambiguous := stmtPhrases_unambiguous
  outcome := fun _ ended _ =>
    statementWith_outcome statements_readBy ended (Nat.lt_succ_self _)

end Recovering

end TinyImp
