import TinyImp.Proofs.Grammar.Acceptance
import TinyImp.Proofs.Grammar.Provenance
import TinyImp.Proofs.Token.Munch

/-!
# The order of the source

Places in a text are ordered by line and then by column.  Every lexeme takes at
least one character, so the tokens of a text stand at places that grow.  What
is read from them is found on a way that goes forward from token to token:
diagnostics come in the order of the text, and each of them, like each node of
the tree, stands where a token stands.
-/

namespace TinyImp

/-! ## The order of places -/

namespace Position

/-- Places are ordered by line, and on one line by column. -/
instance : LT Position where
  lt left right :=
    left.line < right.line ∨
      left.line = right.line ∧ left.column < right.column

instance : LE Position where
  le left right := left < right ∨ left = right

variable {left middle right : Position}

theorem le_refl (position : Position) : position ≤ position :=
  .inr rfl

theorem le_of_lt (before : left < right) : left ≤ right :=
  .inl before

theorem lt_trans (early : left < middle) (late : middle < right) :
    left < right := by
  change left.line < right.line ∨ _
  change left.line < middle.line ∨ _ at early
  change middle.line < right.line ∨ _ at late
  omega

theorem lt_of_lt_of_le (early : left < middle) (late : middle ≤ right) :
    left < right := by
  rcases late with later | same
  · exact lt_trans early later
  · exact same ▸ early

theorem le_trans (early : left ≤ middle) (late : middle ≤ right) :
    left ≤ right := by
  rcases early with earlier | same
  · exact le_of_lt (lt_of_lt_of_le earlier late)
  · exact same ▸ late

theorem lt_next (position : Position) (character : Char) :
    position < position.next character := by
  rw [next]
  split
  · exact .inl (Nat.lt_succ_self _)
  · exact .inr ⟨rfl, Nat.lt_succ_self _⟩

theorem le_past (position : Position) (text : List Char) :
    position ≤ position.past text := by
  induction text generalizing position with
  | nil => exact le_refl position
  | cons head tail induction =>
      exact le_of_lt (lt_of_lt_of_le (lt_next position head) (induction _))

theorem lt_past (position : Position) {text : List Char}
    (nonempty : text ≠ []) : position < position.past text := by
  cases text with
  | nil => exact absurd rfl nonempty
  | cons head tail =>
      exact lt_of_lt_of_le (lt_next position head) (le_past _ tail)

end Position

/-! ## Tokens -/

namespace Token

theorem le_of_mem_ofLexemes {position : Position} {pieces : List Lexeme}
    {token : Token} (member : token ∈ ofLexemes position pieces) :
    position ≤ token.position := by
  induction pieces generalizing position with
  | nil =>
      rw [List.mem_singleton.1 member]
      exact Position.le_refl position
  | cons piece pieces induction =>
      rw [ofLexemes_cons] at member
      rcases List.mem_append.1 member with here | behind
      · obtain ⟨kind, _, rfl⟩ := Option.map_eq_some_iff.1
          (Option.mem_toList.1 here)
        exact Position.le_refl position
      · exact Position.le_trans (Position.le_past position piece.text)
          (induction behind)

theorem pairwise_ofLexemes {pieces : List Lexeme}
    (visible : ∀ piece ∈ pieces, piece.text ≠ []) (position : Position) :
    (ofLexemes position pieces).Pairwise fun early late =>
      early.position < late.position := by
  induction pieces generalizing position with
  | nil => exact List.pairwise_singleton _ _
  | cons piece pieces induction =>
      obtain ⟨hasText, others⟩ := List.forall_mem_cons.1 visible
      have behind := induction others (position.past piece.text)
      rw [ofLexemes_cons, Lexeme.tokensAt]
      cases piece.kind? with
      | none => exact behind
      | some kind =>
          refine List.pairwise_cons.2 ⟨fun late member => ?_, behind⟩
          exact Position.lt_of_lt_of_le (position.lt_past hasText)
            (le_of_mem_ofLexemes member)

theorem pairwise_scan (source : String) :
    (scan source).Pairwise fun early late =>
      early.position < late.position := by
  refine pairwise_ofLexemes (fun piece member => ?_) .start
  obtain ⟨head, tail, rfl⟩ := exists_first_of_mem member
  obtain ⟨others, spelled, _⟩ := Lexeme.first_text head tail
  rw [spelled]
  exact List.cons_ne_nil head others

end Token

/-! ## Mismatches -/

namespace Cursor

variable {cursor rest : Cursor}

/-- Among tokens at growing places, mismatches are met in that order. -/
theorem Finds.pairwise {mismatches : List Mismatch}
    (finds : cursor.Finds mismatches rest) (ended : cursor.Ended)
    (ordered : cursor.remaining.Pairwise fun early late =>
      early.position < late.position) :
    mismatches.Pairwise fun early late =>
      early.found.position ≤ late.found.position := by
  induction finds with
  | done => exact .nil
  | move reaches _ induction =>
      have within := reaches.within ⟨List.Subset.refl _, ended⟩
      exact induction within.ended (ordered.sublist reaches.suffix.sublist)
  | @meet cursor _ _ _ later induction =>
      refine List.pairwise_cons.2 ⟨?_, induction ended ordered⟩
      -- what is met later is met at the token in view or behind it
      intro mismatch member
      have ahead := later.found_mem ⟨List.Subset.refl _, ended⟩ mismatch member
      rw [ended.remaining_eq] at ahead ordered
      rcases List.mem_cons.1 ahead with here | behind
      · rw [here]
        exact Position.le_refl _
      · exact Position.le_of_lt ((List.pairwise_cons.1 ordered).1 _ behind)

end Cursor

theorem Mismatch.diagnostic_lexical_iff (mismatch : Mismatch) :
    mismatch.diagnostic.stage = .lexical ↔
      mismatch.found.kind = .invalid mismatch.diagnostic.message := by
  unfold Mismatch.diagnostic
  split
  · rename_i invalid
    simp [invalid]
  · rename_i valid
    exact iff_of_false (by simp) (valid _)

/-! ## Trees -/

/-- The places of an expression and of all its parts. -/
def Expr.positions : Expr → List Position
  | .number _ position | .text _ position | .named _ position => [position]
  | .lone operand position | .negation operand position =>
      position :: operand.positions
  | .binary _ left right position =>
      position :: (left.positions ++ right.positions)

mutual

/-- The places of a statement, of the names and expressions in it, and of the
statements inside it. -/
def Stmt.positions : Stmt → List Position
  | .declare name _ initial position =>
      position :: name.position :: initial.elim [] Expr.positions
  | .assign target value position =>
      position :: target.position :: value.positions
  | .loop index low high body position =>
      position :: index.position ::
        (low.positions ++ high.positions ++ Stmt.positionsList body)
  | .read target position => [position, target.position]
  | .print value position | .assert value position =>
      position :: value.positions

def Stmt.positionsList : List Stmt → List Position
  | [] => []
  | statement :: others => statement.positions ++ Stmt.positionsList others

end

section Trees

variable {tokens : List Token}

theorem Ident.DrawnFrom.stands {ident : Ident}
    (drawn : ident.DrawnFrom tokens) :
    Token.StandsAt tokens ident.position :=
  ⟨_, drawn, rfl⟩

theorem Expr.DrawnFrom.stands {expression : Expr}
    (drawn : expression.DrawnFrom tokens) :
    ∀ position ∈ expression.positions, Token.StandsAt tokens position := by
  induction expression with
  | number _ _ | text _ _ | named _ _ =>
      exact List.forall_mem_singleton.2 ⟨_, drawn, rfl⟩
  | lone operand _ induction | negation operand _ induction =>
      exact List.forall_mem_cons.2 ⟨drawn.1, induction drawn.2⟩
  | binary _ left right _ leftInduction rightInduction =>
      refine List.forall_mem_cons.2 ⟨drawn.1, ?_⟩
      exact List.forall_mem_append.2
        ⟨leftInduction drawn.2.1, rightInduction drawn.2.2⟩

mutual

theorem Stmt.DrawnFrom.stands {statement : Stmt}
    (drawn : statement.DrawnFrom tokens) :
    ∀ position ∈ statement.positions, Token.StandsAt tokens position := by
  cases statement with
  | declare name type initial position =>
      obtain ⟨here, nameDrawn, initialDrawn⟩ := drawn
      refine List.forall_mem_cons.2 ⟨here, ?_⟩
      refine List.forall_mem_cons.2 ⟨nameDrawn.stands, ?_⟩
      cases initial with
      | none => exact List.forall_mem_nil _
      | some value => exact (initialDrawn value rfl).stands
  | assign target value position =>
      obtain ⟨here, targetDrawn, valueDrawn⟩ := drawn
      refine List.forall_mem_cons.2 ⟨here, ?_⟩
      exact List.forall_mem_cons.2 ⟨targetDrawn.stands, valueDrawn.stands⟩
  | loop index low high body position =>
      obtain ⟨here, indexDrawn, lowDrawn, highDrawn, bodyDrawn⟩ := drawn
      refine List.forall_mem_cons.2 ⟨here, ?_⟩
      refine List.forall_mem_cons.2 ⟨indexDrawn.stands, ?_⟩
      refine List.forall_mem_append.2 ⟨?_, Stmt.DrawnFromList.stands bodyDrawn⟩
      exact List.forall_mem_append.2 ⟨lowDrawn.stands, highDrawn.stands⟩
  | read target position =>
      refine List.forall_mem_cons.2 ⟨drawn.1, ?_⟩
      exact List.forall_mem_singleton.2 drawn.2.stands
  | print value position | assert value position =>
      exact List.forall_mem_cons.2 ⟨drawn.1, drawn.2.stands⟩

theorem Stmt.DrawnFromList.stands {block : List Stmt}
    (drawn : Stmt.DrawnFromList tokens block) :
    ∀ position ∈ Stmt.positionsList block, Token.StandsAt tokens position := by
  cases block with
  | nil => exact List.forall_mem_nil _
  | cons statement others =>
      exact List.forall_mem_append.2
        ⟨Stmt.DrawnFrom.stands drawn.1, Stmt.DrawnFromList.stands drawn.2⟩

end

end Trees

/-- The tokens of a text stand at growing places.  The diagnostics about it
come in that order, each at a token: at one that could not be read, with its
message, if the diagnostic is lexical, and at another one otherwise.  Every
place in the tree, however much of it could be read, is that of a token. -/
theorem Program.diagnostics_in_source_order (source : String) :
    ((Token.scan source).Pairwise fun early late =>
      early.position < late.position) ∧
    ((diagnostics (Token.scan source)).Pairwise fun early late =>
      early.position ≤ late.position) ∧
    (∀ diagnostic ∈ diagnostics (Token.scan source),
      ∃ token ∈ Token.scan source,
        token.position = diagnostic.position ∧
          (diagnostic.stage = .lexical ↔
            token.kind = .invalid diagnostic.message)) ∧
    ∀ position ∈ Stmt.positionsList (Program.read (Token.scan source)).1,
      ∃ token ∈ Token.scan source, token.position = position := by
  have ended := Token.exists_end_of_scan source
  have ordered := Token.pairwise_scan source
  refine ⟨ordered, ?_, fun diagnostic member => ?_, (read_drawn ended).stands⟩
  · refine List.pairwise_map.2 ?_
    simp only [Mismatch.diagnostic_position]
    exact (read_finds ended).pairwise ended ordered
  · obtain ⟨mismatch, found, rfl⟩ := List.mem_map.1 member
    exact ⟨mismatch.found, read_found ended mismatch found,
      mismatch.diagnostic_position.symm, mismatch.diagnostic_lexical_iff⟩

end TinyImp
