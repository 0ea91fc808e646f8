import TinyImp.Proofs.Grammar.MissingSemicolons

/-!
# Broken loops

Tokens are balanced if every `for` among them has its own `end for ;`, and
there is no other `end`.  A loop around balanced tokens is skipped through its
own `end for ;`, and not beyond, wherever its header or its body gives up.
The header leaves no token that could change how deep the loops inside are
nested, and whole statements leave whole loops, so that what is still ahead is
balanced again when the skip begins.
-/

namespace TinyImp

/-- Tokens that open and close loops in pairs. -/
inductive Balanced : List Token → Prop where
  | nil : Balanced []
  | plain {token : Token} {others : List Token} :
      token.kind ≠ .forWord →
      token.kind ≠ .endWord →
      token.kind ≠ .endOfInput →
      Balanced others →
      Balanced (token :: others)
  | loop {inner others : List Token}
      (opening endAt forAt semicolon : Position) :
      Balanced inner →
      Balanced others →
      Balanced (⟨.forWord, opening⟩ ::
        (inner ++ (LoopOpening.closing endAt forAt semicolon ++ others)))

namespace Balanced

variable {token : Token} {used unread others : List Token}

theorem tail (noFor : token.kind ≠ .forWord)
    (balanced : Balanced (token :: others)) : Balanced others := by
  cases balanced with
  | plain _ _ _ rest => exact rest
  | loop => exact absurd rfl noFor

theorem prepend (plain : ∀ token ∈ used, token.kind ≠ .forWord ∧
      token.kind ≠ .endWord ∧ token.kind ≠ .endOfInput)
    (balanced : Balanced others) : Balanced (used ++ others) := by
  induction used with
  | nil => exact balanced
  | cons token used induction =>
      obtain ⟨noFor, noEnd, noInput⟩ := plain token (by simp)
      apply Balanced.plain noFor noEnd noInput
      exact induction fun other member => plain other (by simp [member])

theorem head_ne_endWord (balanced : Balanced (token :: others)) :
    token.kind ≠ .endWord := by
  cases balanced with
  | plain _ noEnd => exact noEnd
  | loop => simp

/-- What stands behind tokens that neither open nor close a loop is balanced
if it is balanced with them. -/
theorem behind (inside : ∀ token ∈ used, token.kind.isInside = true)
    (balanced : Balanced (used ++ unread)) : Balanced unread := by
  induction used with
  | nil => exact balanced
  | cons token others induction =>
      have noFor : token.kind ≠ .forWord := by
        intro isFor
        have here := inside token (by simp)
        rw [isFor] at here
        cases here
      apply induction
      · exact fun other member => inside other (by simp [member])
      · exact balanced.tail noFor

end Balanced

namespace Cursor

theorem skipLoopFrom_plain {token : Token} (noFor : token.kind ≠ .forWord)
    (noEnd : token.kind ≠ .endWord) (noInput : token.kind ≠ .endOfInput)
    (depth : Nat) (last : Position) (following : List Token) :
    skipLoopFrom depth last (token :: following) =
      skipLoopFrom depth token.position following := by
  obtain ⟨kind, position⟩ := token
  cases kind <;> first | rfl | contradiction

/-- Balanced tokens are skipped without a change of depth. -/
theorem skipLoopFrom_balanced {inner : List Token} (balanced : Balanced inner)
    (depth : Nat) (last : Position) (following : List Token) :
    ∃ place, skipLoopFrom depth last (inner ++ following) =
      skipLoopFrom depth place following := by
  induction balanced generalizing depth last following with
  | nil => exact ⟨last, rfl⟩
  | @plain token others noFor noEnd noInput _ induction =>
      rw [List.cons_append, skipLoopFrom_plain noFor noEnd noInput]
      exact induction depth token.position following
  | @loop nested others opening endAt forAt semicolon _ _ inner behind =>
      -- one deeper through the loop inside, and back behind its `end for ;`
      obtain ⟨endPlace, within⟩ := inner (depth + 1) opening
        (LoopOpening.closing endAt forAt semicolon ++ (others ++ following))
      obtain ⟨place, after⟩ := behind depth semicolon following
      refine ⟨place, ?_⟩
      calc skipLoopFrom depth last (⟨.forWord, opening⟩ :: (nested ++
              (LoopOpening.closing endAt forAt semicolon ++ others)) ++
            following)
        _ = skipLoopFrom (depth + 1) opening (nested ++
              (LoopOpening.closing endAt forAt semicolon ++
                (others ++ following))) := by
            simp only [List.cons_append, List.append_assoc]
            rfl
        _ = skipLoopFrom (depth + 1) endPlace
              (LoopOpening.closing endAt forAt semicolon ++
                (others ++ following)) := within
        _ = skipLoopFrom depth semicolon (others ++ following) := rfl
        _ = skipLoopFrom depth place following := after

/-- A skip from within a loop ends behind the `end for ;` of the loop. -/
theorem skipLoop_balanced {inner : List Token} (balanced : Balanced inner)
    (endAt forAt semicolon last : Position) (following : List Token) :
    skipLoop ⟨inner ++ (LoopOpening.closing endAt forAt semicolon ++
        following), last⟩ = ⟨following, semicolon⟩ := by
  obtain ⟨place, skipped⟩ := skipLoopFrom_balanced balanced 0 last
    (LoopOpening.closing endAt forAt semicolon ++ following)
  rw [skipLoop, skipped]
  rfl

end Cursor

namespace Recovering

open LoopOpening (closing)

variable {inner others : List Token} {opening endAt forAt semicolon : Position}

/-- A loop whose header is broken is skipped to its own end. -/
theorem statement_of_broken_header (balanced : Balanced inner)
    (broken : ∀ header rest,
      Production.loopHeader (.ofTokens (⟨.forWord, opening⟩ ::
        (inner ++ closing endAt forAt semicolon))) ≠ .ok header rest)
    (last : Position) :
    ∃ mismatch,
      statement ⟨⟨.forWord, opening⟩ ::
          (inner ++ (closing endAt forAt semicolon ++ others)), last⟩ =
        ⟨none, [mismatch], ⟨others, semicolon⟩⟩ := by
  let marks : List Token := [⟨.forWord, forAt⟩, ⟨.semicolon, semicolon⟩]
  let seam : Seam := ⟨⟨.endWord, endAt⟩, rfl, marks ++ others, marks⟩
  let lone : Cursor := .ofTokens (⟨.forWord, opening⟩ ::
    (inner ++ closing endAt forAt semicolon))
  let cursor : Cursor := ⟨⟨.forWord, opening⟩ ::
    (inner ++ (closing endAt forAt semicolon ++ others)), last⟩
  have beside : cursor.Beside seam (⟨.forWord, opening⟩ :: inner) lone :=
    ⟨rfl, rfl⟩
  have alike := Production.loopHeader_readAlike _ cursor lone
    (Nat.lt_succ_self _) beside
  have passes : cursor.advance.Passes _ := Production.loopHeader_passes rfl
  generalize alone : Production.loopHeader lone = loneResult at alike
  generalize outcome : Production.loopHeader cursor = result at alike passes
  cases alike with
  | ok => exact absurd alone (broken _ _)
  | @error unread expected rest loneRest suffix besideRest =>
      -- the header has left no loop open, so what it has not read is balanced
      obtain ⟨used, ahead, inside⟩ := passes
      obtain ⟨remaining, place⟩ := rest
      have unreadAhead : remaining =
          unread ++ (closing endAt forAt semicolon ++ others) :=
        besideRest.leftAhead
      have split : inner = used ++ unread := by
        change inner ++ _ = used ++ remaining at ahead
        rw [unreadAhead, ← List.append_assoc used] at ahead
        exact List.append_cancel_right ahead
      have rest := Balanced.behind inside (split ▸ balanced)
      refine ⟨⟨expected, Cursor.current ⟨remaining, place⟩⟩, ?_⟩
      rw [statement_of_loop_error rfl outcome, unreadAhead,
        Cursor.skipLoop_balanced rest]

/-- Where something else stands in place of the `end` of a loop, the rest of
the loop is skipped. -/
theorem loopEnd_of_balanced (header : Production.LoopHeader)
    (body : List Stmt) {found : Token} {unread : List Token}
    (balanced : Balanced (found :: unread)) (place : Position) :
    loopEnd header body ⟨found :: unread ++
        (closing endAt forAt semicolon ++ others), place⟩ =
      ⟨none, [⟨.token .endWord, found⟩], ⟨others, semicolon⟩⟩ := by
  let cursor : Cursor :=
    ⟨found :: unread ++ (closing endAt forAt semicolon ++ others), place⟩
  have noEnd : cursor.current.kind ≠ .endWord := balanced.head_ne_endWord
  rw [loopEnd_apply, if_neg noEnd, Cursor.skipLoop_balanced balanced]
  rfl

/-- A loop with something in its body that begins no statement is skipped to
its own end. -/
theorem statement_of_broken_body (header : LoopOpening)
    (body : List StmtPhrase) {found : Token} {unread : List Token}
    (balanced : Balanced (found :: unread))
    (unfit : found.kind.startsStatement = false) (last : Position) :
    statement ⟨header.tokens ++ (StmtPhrase.tokensList body ++
        (found :: unread ++ (closing endAt forAt semicolon ++ others))),
      last⟩ =
      ⟨none, [⟨.token .endWord, found⟩], ⟨others, semicolon⟩⟩ := by
  let behind := unread ++ (closing endAt forAt semicolon ++ others)
  let cursor : Cursor := ⟨header.tokens ++
    (StmtPhrase.tokensList body ++ found :: behind), last⟩
  have split : StmtPhrase.tokensList body ++ found :: behind =
      (StmtPhrase.tokensList body ++ found :: unread) ++
        ⟨.endWord, endAt⟩ :: ([⟨.forWord, forAt⟩, ⟨.semicolon, semicolon⟩] ++
          others) := by
    simp [behind, closing]
  have ahead : cursor.remaining = header.tokens ++ _ :=
    congrArg (header.tokens ++ ·) split
  obtain ⟨⟨remaining, doAt⟩, opened, bodyAhead⟩ :=
    loopHeader_opening header ahead
  have barrier : BarrierAhead (found :: behind) :=
    ⟨⟨.endWord, endAt⟩, by simp [behind, closing], rfl⟩
  obtain ⟨place, read⟩ := statements_written body unfit barrier doAt
  change remaining = _ at bodyAhead
  rw [← split] at bodyAhead
  subst bodyAhead
  have ended : loopEnd
        ⟨header.index, header.low.tree, header.high.tree, header.opening⟩
        (StmtPhrase.treeList body) ⟨found :: behind, place⟩ =
      ⟨none, [⟨.token .endWord, found⟩], ⟨others, semicolon⟩⟩ :=
    loopEnd_of_balanced _ _ balanced place
  refine (statement_of_loop_ok rfl opened read).trans ?_
  rw [ended]
  rfl

/-- A loop around balanced tokens is dropped with one mismatch, and reading
goes on right behind its own `end for ;`, if its header is broken, or if
something stands behind whole statements in its body with which no statement
begins.  In the second case that is what the mismatch is about. -/
theorem broken_loop_skipped (balanced : Balanced inner)
    (opening endAt forAt semicolon last : Position) (others : List Token) :
    ((∀ header rest,
        Production.loopHeader (.ofTokens (⟨.forWord, opening⟩ ::
          (inner ++ closing endAt forAt semicolon))) ≠ .ok header rest) →
      ∃ mismatch,
        statement ⟨⟨.forWord, opening⟩ ::
            (inner ++ (closing endAt forAt semicolon ++ others)), last⟩ =
          ⟨none, [mismatch], ⟨others, semicolon⟩⟩) ∧
    ∀ (header : LoopOpening) (body : List StmtPhrase) (found : Token)
      (unread : List Token),
      ⟨.forWord, opening⟩ :: inner =
        header.tokens ++ (StmtPhrase.tokensList body ++ found :: unread) →
      Balanced (found :: unread) →
      found.kind.startsStatement = false →
      statement ⟨⟨.forWord, opening⟩ ::
          (inner ++ (closing endAt forAt semicolon ++ others)), last⟩ =
        ⟨none, [⟨.token .endWord, found⟩], ⟨others, semicolon⟩⟩ := by
  constructor
  · intro broken
    exact statement_of_broken_header balanced broken last
  · intro header body found unread written unreadBalanced unfit
    have whole : ⟨.forWord, opening⟩ ::
          (inner ++ (closing endAt forAt semicolon ++ others)) =
        header.tokens ++ (StmtPhrase.tokensList body ++
          (found :: unread ++ (closing endAt forAt semicolon ++ others))) := by
      rw [← List.cons_append, written]
      simp only [List.append_assoc]
    rw [whole]
    exact statement_of_broken_body header body unreadBalanced unfit last

end Recovering

namespace Program

open LoopOpening (closing)

/-- `) for print end for ;` -/
def strayLoop : List Token :=
  ⟨.rightParen, 3, 1⟩ :: ⟨.forWord, 3, 3⟩ ::
    ([⟨.printWord, 3, 7⟩] ++ (closing ⟨3, 13⟩ ⟨3, 17⟩ ⟨3, 20⟩ ++ []))

/-- `read i ;` -/
def readIndex : StmtPhrase :=
  .read ⟨2, 1⟩ ⟨"i", ⟨2, 6⟩⟩ ⟨2, 7⟩

theorem strayLoop_skipped :
    (∃ mismatch,
      Recovering.statement ⟨⟨.forWord, 1, 1⟩ :: (strayLoop ++
          (closing ⟨4, 1⟩ ⟨4, 5⟩ ⟨4, 8⟩ ++ [lineEnd])), .start⟩ =
        ⟨none, [mismatch], ⟨[lineEnd], ⟨4, 8⟩⟩⟩) ∧
    Recovering.statement ⟨⟨.forWord, 1, 1⟩ ::
        (zeroLoop.tokens.tail ++ readIndex.tokens ++ strayLoop ++
          (closing ⟨4, 1⟩ ⟨4, 5⟩ ⟨4, 8⟩ ++ [lineEnd])), .start⟩ =
      ⟨none, [⟨.token .endWord, ⟨.rightParen, 3, 1⟩⟩],
        ⟨[lineEnd], ⟨4, 8⟩⟩⟩ := by
  have stray : Balanced strayLoop := by
    apply Balanced.plain (by simp) (by simp) (by simp)
    apply Balanced.loop _ _ _ _ _ .nil
    exact .plain (by simp) (by simp) (by simp) .nil
  have behind : Balanced
      (zeroLoop.tokens.tail ++ readIndex.tokens ++ strayLoop) :=
    stray.prepend (by decide)
  constructor
  · apply (Recovering.broken_loop_skipped stray ..).1
    intro header rest opened
    cases opened
  · apply (Recovering.broken_loop_skipped behind ..).2 zeroLoop [readIndex]
      ⟨.rightParen, 3, 1⟩ strayLoop.tail
    · rfl
    · exact stray
    · rfl

end Program

end TinyImp
