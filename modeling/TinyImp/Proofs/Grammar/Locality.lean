import TinyImp.Proofs.Grammar.Progress

/-!
# Productions stop at barriers

No production leaves a semicolon, an `end` or the end of the input.  So what
stands behind such a token has no part in what is read before it: two streams
that are the same up to there are read alike, with the same value or the same
mismatch, and the same tokens left before the barrier.
-/

namespace TinyImp

/-- The kinds of tokens that no production leaves. -/
def TokenKind.isBarrier : TokenKind → Bool
  | .semicolon | .endWord | .endOfInput => true
  | _ => false

/-- There is a token that no production leaves. -/
def BarrierAhead (tokens : List Token) : Prop :=
  ∃ token ∈ tokens, token.kind.isBarrier = true

theorem TokenKind.isBarrier_of_binaryOp? {kind : TokenKind}
    {operator : BinaryOp} (found : kind.binaryOp? = some operator) :
    kind.isBarrier = false := by
  cases kind <;> cases found <;> rfl

/-- A barrier, and what follows it in each of two streams. -/
structure Seam where
  barrier : Token
  isBarrier : barrier.kind.isBarrier = true
  left : List Token
  right : List Token

/-- Two cursors in front of the same tokens, up to the barrier of a seam. -/
structure Cursor.Beside (seam : Seam) (inner : List Token)
    (left right : Cursor) : Prop where
  leftAhead : left.remaining = inner ++ seam.barrier :: seam.left
  rightAhead : right.remaining = inner ++ seam.barrier :: seam.right

namespace Cursor.Beside

variable {seam : Seam} {inner : List Token} {left right : Cursor}

theorem current_eq (beside : Beside seam inner left right) :
    right.current = left.current := by
  obtain ⟨leftAhead, rightAhead⟩ := beside
  cases inner with
  | nil => simp [current, leftAhead, rightAhead]
  | cons token inner => simp [current, leftAhead, rightAhead]

theorem advance (beside : Beside seam inner left right)
    (passable : left.current.kind.isBarrier = false) :
    ∃ unread, inner = left.current :: unread ∧
      Beside seam unread left.advance right.advance := by
  obtain ⟨leftAhead, rightAhead⟩ := beside
  cases inner with
  | nil =>
      have here : left.current = seam.barrier := by simp [current, leftAhead]
      rw [here, seam.isBarrier] at passable
      cases passable
  | cons token unread =>
      refine ⟨unread, ?_, ?_, ?_⟩
      · simp [current, leftAhead]
      · simp [Cursor.advance, leftAhead]
      · simp [Cursor.advance, rightAhead]

end Cursor.Beside

namespace Production

variable {α β : Type} {seam : Seam} {inner unread : List Token}
  {left right : Cursor} {bound : Nat}

/-- Two readings with the same outcome, and the same tokens left before the
barrier. -/
inductive Alike (seam : Seam) (inner : List Token) :
    EStateM.Result Expected Cursor α → EStateM.Result Expected Cursor α →
      Prop where
  | ok {unread : List Token} {value : α} {left right : Cursor} :
      unread <:+ inner →
      left.Beside seam unread right →
      Alike seam inner (.ok value left) (.ok value right)
  | error {unread : List Token} {expected : Expected} {left right : Cursor} :
      unread <:+ inner →
      left.Beside seam unread right →
      Alike seam inner (.error expected left) (.error expected right)

/-- Two productions that read alike wherever fewer than `bound` tokens stand
before the barrier. -/
def ReadAlike (seam : Seam) (bound : Nat) (first second : Production α) :
    Prop :=
  ∀ inner left right, inner.length < bound →
    left.Beside seam inner right →
    Alike seam inner (first left) (second right)

theorem Alike.mono {first second : EStateM.Result Expected Cursor α}
    (suffix : unread <:+ inner) (alike : Alike seam unread first second) :
    Alike seam inner first second := by
  cases alike with
  | ok unreadSuffix beside => exact .ok (unreadSuffix.trans suffix) beside
  | error unreadSuffix beside => exact .error (unreadSuffix.trans suffix) beside

theorem readAlike_pure (value : α) :
    ReadAlike seam bound (pure value) (pure value) :=
  fun _ _ _ _ beside => .ok List.suffix_rfl beside

theorem readAlike_throw (expected : Expected) :
    ReadAlike seam bound (throw expected : Production α) (throw expected) :=
  fun _ _ _ _ beside => .error List.suffix_rfl beside

theorem ReadAlike.bind {first second : Production α}
    {next other : α → Production β}
    (early : ReadAlike seam bound first second)
    (late : ∀ value, ReadAlike seam bound (next value) (other value)) :
    ReadAlike seam bound (first >>= next) (second >>= other) := by
  intro inner left right short beside
  have alike := early inner left right short beside
  generalize leftOutcome : first left = leftResult at alike
  generalize rightOutcome : second right = rightResult at alike
  cases alike with
  | @ok unread value leftRest rightRest suffix besideRest =>
      rw [Computation.bind_of_ok leftOutcome,
        Computation.bind_of_ok rightOutcome]
      have shorter := suffix.length_le
      exact (late value unread _ _ (by omega) besideRest).mono suffix
  | error suffix besideRest =>
      rw [Computation.bind_of_error leftOutcome,
        Computation.bind_of_error rightOutcome]
      exact .error suffix besideRest

/-- The token in view is the same, and what is done about it may depend on
what it is. -/
theorem readAlike_current_bind {next other : Token → Production β}
    (late : ∀ inner left right, inner.length < bound →
      left.Beside seam inner right →
      Alike seam inner (next left.current left) (other left.current right)) :
    ReadAlike seam bound (current >>= next) (current >>= other) := by
  intro inner left right short beside
  rw [current_bind_apply, current_bind_apply, beside.current_eq]
  exact late inner left right short beside

/-- Behind a token that is no barrier, there is one token less to read. -/
theorem alike_advance_bind_succ {next other : Unit → Production β}
    {kind : TokenKind} (beside : left.Beside seam inner right)
    (short : inner.length < bound + 1) (ahead : left.current.kind = kind)
    (passable : kind.isBarrier = false)
    (late : ReadAlike seam bound (next ()) (other ())) :
    Alike seam inner ((advance >>= next) left)
      ((advance >>= other) right) := by
  rw [← ahead] at passable
  obtain ⟨unread, split, besideBehind⟩ := beside.advance passable
  subst split
  rw [advance_bind_apply, advance_bind_apply]
  have shorter : unread.length < bound := Nat.lt_of_succ_lt_succ short
  exact (late unread _ _ shorter besideBehind).mono (List.suffix_cons ..)

theorem alike_advance_bind {next other : Unit → Production β}
    {kind : TokenKind} (beside : left.Beside seam inner right)
    (short : inner.length < bound) (ahead : left.current.kind = kind)
    (passable : kind.isBarrier = false)
    (late : ReadAlike seam bound (next ()) (other ())) :
    Alike seam inner ((advance >>= next) left) ((advance >>= other) right) :=
  alike_advance_bind_succ beside (Nat.lt_succ_of_lt short) ahead passable late

theorem expect_readAlike {kind : TokenKind}
    (passable : kind.isBarrier = false) :
    ReadAlike seam bound (expect kind) (expect kind) := by
  refine readAlike_current_bind fun inner left right short beside => ?_
  split
  · rename_i ahead
    rw [← ahead] at passable
    obtain ⟨unread, split, besideBehind⟩ := beside.advance passable
    exact .ok (split ▸ List.suffix_cons ..) besideBehind
  · exact readAlike_throw _ inner left right short beside

theorem ident_readAlike : ReadAlike seam bound ident ident := by
  refine readAlike_current_bind fun inner left right short beside => ?_
  cases ahead : left.current.kind with
  | ident name =>
      exact alike_advance_bind beside short ahead rfl (readAlike_pure _)
  | _ => exact readAlike_throw _ inner left right short beside

theorem type_readAlike : ReadAlike seam bound type type := by
  refine readAlike_current_bind fun inner left right short beside => ?_
  cases ahead : left.current.kind with
  | intType | stringType | boolType =>
      exact alike_advance_bind beside short ahead rfl (readAlike_pure _)
  | _ => exact readAlike_throw _ inner left right short beside

theorem operandWith_readAlike {first second : Production Expr}
    (alike : ReadAlike seam bound first second) :
    ReadAlike seam (bound + 1) (operandWith first) (operandWith second) := by
  refine readAlike_current_bind fun inner left right short beside => ?_
  cases ahead : left.current.kind with
  | intLiteral _ | stringLiteral _ | ident _ =>
      exact alike_advance_bind_succ beside short ahead rfl (readAlike_pure _)
  | leftParen =>
      apply alike_advance_bind_succ beside short ahead rfl
      refine alike.bind fun expression => ?_
      exact (expect_readAlike rfl).bind fun _ => readAlike_pure _
  | _ => exact readAlike_throw _ inner left right short beside

theorem expressionWith_readAlike {first second : Production Expr}
    (alike : ReadAlike seam bound first second) :
    ReadAlike seam bound (expressionWith first) (expressionWith second) := by
  refine readAlike_current_bind fun inner left right short beside => ?_
  by_cases ahead : left.current.kind = .exclamation
  · rw [if_pos ahead, if_pos ahead]
    apply alike_advance_bind beside short ahead rfl
    exact alike.bind fun _ => readAlike_pure _
  · rw [if_neg ahead, if_neg ahead]
    refine alike.bind (fun operand => ?_) inner left right short beside
    refine readAlike_current_bind fun inner left right short beside => ?_
    cases found : left.current.kind.binaryOp? with
    | none => exact readAlike_pure _ inner left right short beside
    | some operator =>
        apply alike_advance_bind beside short rfl
          (TokenKind.isBarrier_of_binaryOp? found)
        exact alike.bind fun _ => readAlike_pure _

/-- How many nested parentheses are allowed does not matter, as long as each
of the tokens before the barrier may be one. -/
theorem expressionWithin_readAlike (bound : Nat) {depth more : Nat}
    (enough : bound ≤ depth) (alsoEnough : bound ≤ more) :
    ReadAlike seam bound (expressionWithin depth) (expressionWithin more) := by
  induction bound generalizing depth more with
  | zero => exact fun _ _ _ short => absurd short (Nat.not_lt_zero _)
  | succ bound induction =>
      obtain ⟨depth, rfl⟩ :=
        Nat.exists_eq_add_of_le' (Nat.zero_lt_of_lt enough)
      obtain ⟨more, rfl⟩ :=
        Nat.exists_eq_add_of_le' (Nat.zero_lt_of_lt alsoEnough)
      apply expressionWith_readAlike
      apply operandWith_readAlike
      exact induction (by omega) (by omega)

theorem expression_readAlike : ReadAlike seam bound expression expression := by
  intro inner left right _ beside
  have leftSize : inner.length + 1 ≤ left.size + 1 := by
    simp [Cursor.size, beside.leftAhead]
  have rightSize : inner.length + 1 ≤ right.size + 1 := by
    simp [Cursor.size, beside.rightAhead]
  exact expressionWithin_readAlike _ leftSize rightSize inner left right
    (Nat.lt_succ_self _) beside

theorem initial_readAlike : ReadAlike seam bound initial initial := by
  refine readAlike_current_bind fun inner left right short beside => ?_
  split
  · rename_i ahead
    apply alike_advance_bind beside short ahead rfl
    exact expression_readAlike.bind fun _ => readAlike_pure _
  · exact readAlike_pure _ inner left right short beside

theorem simpleStatement_readAlike :
    ReadAlike seam bound simpleStatement simpleStatement := by
  refine readAlike_current_bind fun inner left right short beside => ?_
  cases ahead : left.current.kind with
  | varWord =>
      apply alike_advance_bind beside short ahead rfl
      refine ident_readAlike.bind fun name => ?_
      refine (expect_readAlike rfl).bind fun _ => ?_
      refine type_readAlike.bind fun type => ?_
      exact initial_readAlike.bind fun _ => readAlike_pure _
  | ident name =>
      refine ident_readAlike.bind (fun target => ?_) inner left right short
        beside
      refine (expect_readAlike rfl).bind fun _ => ?_
      exact expression_readAlike.bind fun _ => readAlike_pure _
  | readWord =>
      apply alike_advance_bind beside short ahead rfl
      exact ident_readAlike.bind fun _ => readAlike_pure _
  | printWord =>
      apply alike_advance_bind beside short ahead rfl
      exact expression_readAlike.bind fun _ => readAlike_pure _
  | assertWord =>
      apply alike_advance_bind beside short ahead rfl
      refine (expect_readAlike rfl).bind fun _ => ?_
      refine expression_readAlike.bind fun condition => ?_
      exact (expect_readAlike rfl).bind fun _ => readAlike_pure _
  | _ => exact readAlike_throw _ inner left right short beside

theorem loopHeader_readAlike :
    ReadAlike seam bound loopHeader loopHeader := by
  refine readAlike_current_bind fun inner left right short beside => ?_
  refine (expect_readAlike rfl).bind (fun _ => ?_) inner left right short beside
  refine ident_readAlike.bind fun index => ?_
  refine (expect_readAlike rfl).bind fun _ => ?_
  refine expression_readAlike.bind fun low => ?_
  refine (expect_readAlike rfl).bind fun _ => ?_
  refine expression_readAlike.bind fun high => ?_
  exact (expect_readAlike rfl).bind fun _ => readAlike_pure _

end Production

end TinyImp
