import TinyImp.Proofs.Grammar.Failures
import TinyImp.Proofs.Grammar.Forms

/-!
# Missing semicolons

A program from which semicolons are left out is read as if they were there,
with one mismatch for each of them at the token that follows it.  What follows
a statement is the beginning of another one, an `end` or the end of the input.
None of these is taken for more of the statement, and none of them is skipped,
so each statement leaves off where the next one begins, with its semicolon or
without.
-/

namespace TinyImp

namespace TokenKind

/-- The kinds of tokens at which reading goes on after a statement without a
semicolon. -/
def resumes : TokenKind → Bool
  | .endWord | .endOfInput => true
  | kind => kind.startsStatement

theorem resumes_of_startsStatement {kind : TokenKind}
    (starts : kind.startsStatement = true) : kind.resumes = true := by
  cases kind <;> first | rfl | exact starts

theorem detached_of_resumes {kind : TokenKind} (resumes : kind.resumes = true) :
    kind.Detached := by
  cases kind <;> cases resumes <;> simp [Detached, binaryOp?]

theorem ne_semicolon_of_resumes {kind : TokenKind}
    (resumes : kind.resumes = true) : kind ≠ .semicolon := by
  intro isSemicolon
  rw [isSemicolon] at resumes
  cases resumes

end TokenKind

/-- A token of a program, and whether it is left out. -/
structure Slot where
  token : Token
  missing : Bool

namespace Slot

/-- The tokens that are not left out. -/
def present (slots : List Slot) : List Token :=
  (slots.filter fun slot => !slot.missing).map Slot.token

/-- The first token of some slots, or the token behind them. -/
def next (last : Token) : List Slot → Token
  | [] => last
  | slot :: _ => slot.token

/-- For each token that is left out, the one that follows it. -/
def followers (last : Token) : List Slot → List Token
  | [] => []
  | slot :: others =>
      if slot.missing = true then next last others :: followers last others
      else followers last others

/-- Nothing but semicolons is left out. -/
def OnlySemicolons (slots : List Slot) : Prop :=
  ∀ slot ∈ slots, slot.missing = true → slot.token.kind = .semicolon

theorem present_append (front back : List Slot) :
    present (front ++ back) = present front ++ present back := by
  simp [present]

theorem followers_append (last : Token) (front back : List Slot) :
    followers last (front ++ back) =
      followers (next last back) front ++ followers last back := by
  induction front with
  | nil => rfl
  | cons slot others induction =>
      have behind : next last (others ++ back) =
          next (next last back) others := by
        cases others <;> rfl
      simp only [List.cons_append, followers, behind, induction]
      split <;> rfl

theorem present_of_whole {slots : List Slot}
    (whole : ∀ slot ∈ slots, slot.missing = false) :
    present slots = slots.map Slot.token := by
  rw [present, List.filter_eq_self.mpr]
  intro slot member
  simp [whole slot member]

theorem followers_of_whole {slots : List Slot}
    (whole : ∀ slot ∈ slots, slot.missing = false) (last : Token) :
    followers last slots = [] := by
  induction slots with
  | nil => rfl
  | cons slot others induction =>
      have here := whole slot (by simp)
      have later := induction fun other member =>
        whole other (by simp [member])
      simp [followers, here, later]

theorem mem_of_mem_followers {slots : List Slot} {last found : Token}
    (member : found ∈ followers last slots) :
    found ∈ slots.map Slot.token ++ [last] := by
  induction slots with
  | nil => cases member
  | cons slot others induction =>
      have later (member : found ∈ followers last others) :
          found ∈ (slot :: others).map Slot.token ++ [last] :=
        List.mem_cons_of_mem _ (induction member)
      rw [followers] at member
      split at member
      · rcases List.mem_cons.mp member with rfl | member
        · cases others <;> simp [next]
        · exact later member
      · exact later member

/-- Tokens of which none is left out. -/
def filled (tokens : List Token) : List Slot :=
  tokens.map fun token => ⟨token, false⟩

theorem filled_whole (tokens : List Token) :
    ∀ slot ∈ filled tokens, slot.missing = false := by
  simp [filled]

theorem map_token_filled (tokens : List Token) :
    (filled tokens).map Slot.token = tokens := by
  simp [filled, Function.comp_def]

theorem present_filled (tokens : List Token) :
    present (filled tokens) = tokens := by
  rw [present_of_whole (filled_whole tokens), map_token_filled]

theorem not_missing_filled (tokens : List Token) :
    ¬∃ slot ∈ filled tokens, slot.missing = true := by
  simp [filled]

theorem onlySemicolons_filled (tokens : List Token) :
    OnlySemicolons (filled tokens) :=
  fun slot member missing =>
    absurd ⟨slot, member, missing⟩ (not_missing_filled tokens)

/-- Where there is no semicolon, nothing is left out. -/
theorem OnlySemicolons.whole {slots : List Slot} (only : OnlySemicolons slots)
    (none : ∀ token ∈ slots.map Slot.token, token.kind ≠ .semicolon) :
    ∀ slot ∈ slots, slot.missing = false := by
  intro slot member
  rw [Bool.eq_false_iff]
  intro missing
  exact none slot.token (List.mem_map_of_mem member)
    (only slot member missing)

theorem OnlySemicolons.left {front back : List Slot}
    (only : OnlySemicolons (front ++ back)) : OnlySemicolons front :=
  fun slot member => only slot (by simp [member])

theorem OnlySemicolons.right {front back : List Slot}
    (only : OnlySemicolons (front ++ back)) : OnlySemicolons back :=
  fun slot member => only slot (by simp [member])

end Slot

/-- A token that could be read is reported with what was expected. -/
theorem Mismatch.diagnostic_of_legible {mismatch : Mismatch}
    (legible : mismatch.found.Legible) :
    mismatch.diagnostic =
      ⟨.grammar, mismatch.found.position,
        "expected " ++ mismatch.expected.text ++ ", got " ++
          mismatch.found.kind.name⟩ := by
  unfold Mismatch.diagnostic
  split
  · rename_i message invalid
    exact absurd invalid (legible.2 message)
  · rfl

/-- A semicolon was expected in place of this token. -/
def Mismatch.missingSemicolon (found : Token) : Mismatch :=
  ⟨.token .semicolon, found⟩

theorem Mismatch.missingSemicolon_diagnostic {found : Token}
    (legible : found.Legible) :
    (missingSemicolon found).diagnostic =
      ⟨.grammar, found.position,
        "expected SEMI, got " ++ found.kind.name⟩ :=
  diagnostic_of_legible legible

namespace Recovering

open Slot
open Mismatch (missingSemicolon)

variable {follower : Token} {others : List Token}

theorem endStatement_of_resumes (resumes : follower.kind.resumes = true)
    (last : Position) :
    endStatement ⟨follower :: others, last⟩ =
      ⟨(), [missingSemicolon follower], ⟨follower :: others, last⟩⟩ := by
  have noSemicolon := TokenKind.ne_semicolon_of_resumes resumes
  have stays : (Cursor.mk (follower :: others) last).skipStatement =
        ⟨follower :: others, last⟩ ∨
      follower.kind.startsStatement = true := by
    obtain ⟨kind, position⟩ := follower
    cases kind <;> cases resumes <;> first
      | exact .inl rfl
      | exact .inr rfl
  rw [endStatement_apply, Cursor.current, if_neg noSemicolon]
  rcases stays with stays | starts
  · rw [stays, ite_self]
    rfl
  · rw [if_pos starts]
    rfl

/-- Whether the semicolon of a statement is there or not, reading goes on with
the token behind it. -/
theorem endStatement_slot {slot : Slot}
    (isSemicolon : slot.token.kind = .semicolon)
    (resumes : slot.missing = true → follower.kind.resumes = true)
    (others : List Token) (last : Position) :
    ∃ place, endStatement ⟨present [slot] ++ follower :: others, last⟩ =
      ⟨(), (followers follower [slot]).map missingSemicolon,
        ⟨follower :: others, place⟩⟩ := by
  cases missing : slot.missing with
  | true =>
      refine ⟨last, ?_⟩
      simp [present, followers, next, missing,
        endStatement_of_resumes (resumes missing)]
  | false =>
      refine ⟨slot.token.position, ?_⟩
      simp [present, followers, missing, endStatement_apply, Cursor.current,
        isSemicolon, Cursor.advance]

theorem exists_detached_slot {slot : Slot}
    (isSemicolon : slot.token.kind = .semicolon)
    (resumes : slot.missing = true → follower.kind.resumes = true)
    (barrier : BarrierAhead (follower :: others)) :
    ∃ behind following,
      present [slot] ++ follower :: others = behind :: following ∧
        behind.kind.Detached ∧
        BarrierAhead (behind :: following) := by
  cases missing : slot.missing with
  | true =>
      refine ⟨follower, others, ?_, ?_, barrier⟩
      · simp [present, missing]
      · exact TokenKind.detached_of_resumes (resumes missing)
  | false =>
      refine ⟨slot.token, follower :: others, ?_, ?_, slot.token, ?_, ?_⟩
      · simp [present, missing]
      · rw [isSemicolon]
        exact ⟨rfl, by simp⟩
      · simp
      · rw [isSemicolon]
        rfl

/-- A statement other than a loop is read with its semicolon or without. -/
theorem statement_of_simpleForm {phrase : StmtPhrase} {opening : Token}
    {following : List Token} {semicolon : Position}
    (form : phrase.SimpleForm opening following semicolon)
    {slots : List Slot} (written : slots.map Slot.token = phrase.tokens)
    (only : OnlySemicolons slots)
    (resumes : (∃ slot ∈ slots, slot.missing = true) →
      follower.kind.resumes = true)
    (barrier : BarrierAhead (follower :: others))
    (last : Position) :
    ∃ place, statement ⟨present slots ++ follower :: others, last⟩ =
      ⟨some phrase.tree, (followers follower slots).map missingSemicolon,
        ⟨follower :: others, place⟩⟩ := by
  rw [form.tokens] at written
  obtain ⟨inner, ending, rfl, innerWritten, endingWritten⟩ :=
    List.map_eq_append_iff.mp written
  obtain ⟨slot, rfl, slotWritten⟩ := List.map_eq_singleton_iff.mp endingWritten
  have isSemicolon : slot.token.kind = .semicolon := by rw [slotWritten]
  have slotResumes : slot.missing = true → follower.kind.resumes = true :=
    fun missing => resumes ⟨slot, by simp, missing⟩
  have whole : ∀ slot ∈ inner, slot.missing = false := by
    apply only.left.whole
    intro token member
    apply TokenKind.ne_semicolon_of_isInside
    exact form.inside token (innerWritten ▸ member)
  obtain ⟨behind, beyond, split, detached, barrierAhead⟩ :=
    exists_detached_slot isSemicolon slotResumes barrier
  let cursor : Cursor :=
    ⟨(opening :: following) ++ (present [slot] ++ follower :: others), last⟩
  have ahead : cursor.remaining =
      (opening :: following) ++ behind :: beyond := by
    rw [← split]
  have noLoop : cursor.current.kind ≠ .forWord := by
    intro isFor
    have inside := form.inside opening (by simp)
    rw [Cursor.current_of_remaining ahead] at isFor
    rw [isFor] at inside
    cases inside
  obtain ⟨⟨remaining, place⟩, reading, rest⟩ :=
    form.reads detached ahead barrierAhead
  rw [← split] at rest
  obtain ⟨endPlace, ended⟩ :=
    endStatement_slot isSemicolon slotResumes others place
  refine ⟨endPlace, ?_⟩
  rw [present_append, present_of_whole whole, innerWritten, List.append_assoc,
    statement_of_simple noLoop, simpleStatement_of_ok reading,
    followers_append, followers_of_whole whole, List.nil_append]
  change remaining = _ at rest
  rw [rest, ended]

/-- A loop is read with its semicolon or without, if its body is read up to
its `end`. -/
theorem statement_of_header (header : LoopOpening) {inner : List Token}
    {body : List Stmt} {mismatches : List Mismatch}
    {endAt forAt last : Position} {slot : Slot}
    (isSemicolon : slot.token.kind = .semicolon)
    (resumes : slot.missing = true → follower.kind.resumes = true)
    (bodyRead : ∀ others place, ∃ bodyEnd,
      statements ⟨inner ++ ⟨.endWord, endAt⟩ :: others, place⟩ =
        ⟨body, mismatches, ⟨⟨.endWord, endAt⟩ :: others, bodyEnd⟩⟩) :
    ∃ place,
      statement ⟨header.tokens ++ (inner ++ (⟨.endWord, endAt⟩ ::
          ⟨.forWord, forAt⟩ :: (present [slot] ++ follower :: others))),
        last⟩ =
      ⟨some (header.tree body),
        mismatches ++ (followers follower [slot]).map missingSemicolon,
        ⟨follower :: others, place⟩⟩ := by
  let behind := present [slot] ++ follower :: others
  let cursor : Cursor :=
    ⟨header.tokens ++ (inner ++ (⟨.endWord, endAt⟩ ::
      ⟨.forWord, forAt⟩ :: behind)), last⟩
  obtain ⟨⟨remaining, doAt⟩, opened, ahead⟩ :=
    loopHeader_opening header (rfl : cursor.remaining = _)
  obtain ⟨bodyEnd, read⟩ := bodyRead (⟨.forWord, forAt⟩ :: behind) doAt
  obtain ⟨place, ended⟩ := endStatement_slot isSemicolon resumes others forAt
  refine ⟨place, ?_⟩
  change remaining = _ at ahead
  subst ahead
  rw [statement_of_loop_ok rfl opened read, loopEnd_apply]
  simp only [Cursor.current, Cursor.advance, if_true, behind, ended]
  rfl

end Recovering

theorem Slot.exists_next {phrases : List StmtPhrase} {slots : List Slot}
    (written : slots.map Slot.token = StmtPhrase.tokensList phrases)
    (only : OnlySemicolons slots) (follower : Token) (others : List Token) :
    ∃ following,
      present slots ++ follower :: others =
        next follower slots :: following ∧
      (phrases ≠ [] → (next follower slots).kind.startsStatement = true) := by
  cases phrases with
  | nil =>
      obtain rfl := List.map_eq_nil_iff.mp written
      exact ⟨others, rfl, fun nonempty => absurd rfl nonempty⟩
  | cons phrase phrases =>
      obtain ⟨kind, position, following, tokens, starts⟩ := phrase.tokens_eq
      rw [StmtPhrase.tokensList, tokens, List.cons_append] at written
      obtain ⟨slot, back, rfl, here, _⟩ := List.map_eq_cons_iff.mp written
      have isPresent : slot.missing = false := by
        rw [Bool.eq_false_iff]
        intro missing
        have isSemicolon := only slot (by simp) missing
        rw [here] at isSemicolon
        rw [show kind = .semicolon from isSemicolon] at starts
        cases starts
      refine ⟨present back ++ follower :: others, ?_, fun _ => ?_⟩
      · simp [present, isPresent, next]
      · rw [next, here]
        exact starts

namespace Recovering

open Slot
open Mismatch (missingSemicolon)

/-- A loop without some of its semicolons is read as with them, if its body
is. -/
theorem statement_of_loop_slots (header : LoopOpening)
    {body : List StmtPhrase} {endAt forAt semicolon : Position}
    {slots : List Slot} {follower : Token} {others : List Token}
    (written : slots.map Slot.token =
      header.tokens ++ (StmtPhrase.tokensList body ++
        ([⟨.endWord, endAt⟩, ⟨.forWord, forAt⟩] ++
          [⟨.semicolon, semicolon⟩])))
    (only : OnlySemicolons slots)
    (resumes : (∃ slot ∈ slots, slot.missing = true) →
      follower.kind.resumes = true)
    (bodyRead : ∀ inner : List Slot,
      inner.map Slot.token = StmtPhrase.tokensList body →
      OnlySemicolons inner → ∀ others place, ∃ bodyEnd,
        statements ⟨present inner ++ ⟨.endWord, endAt⟩ :: others, place⟩ =
          ⟨StmtPhrase.treeList body,
            (followers ⟨.endWord, endAt⟩ inner).map missingSemicolon,
            ⟨⟨.endWord, endAt⟩ :: others, bodyEnd⟩⟩)
    (last : Position) :
    ∃ place, statement ⟨present slots ++ follower :: others, last⟩ =
      ⟨some (header.tree (StmtPhrase.treeList body)),
        (followers follower slots).map missingSemicolon,
        ⟨follower :: others, place⟩⟩ := by
  obtain ⟨front, _, rfl, frontWritten, written⟩ :=
    List.map_eq_append_iff.mp written
  obtain ⟨inner, _, rfl, innerWritten, written⟩ :=
    List.map_eq_append_iff.mp written
  obtain ⟨marks, _, rfl, marksWritten, written⟩ :=
    List.map_eq_append_iff.mp written
  obtain ⟨slot, rfl, slotWritten⟩ := List.map_eq_singleton_iff.mp written
  have frontWhole : ∀ slot ∈ front, slot.missing = false := by
    apply only.left.whole
    rw [frontWritten]
    exact header.ne_semicolon
  have marksWhole : ∀ slot ∈ marks, slot.missing = false := by
    apply only.right.right.left.whole
    rw [marksWritten]
    simp
  have behindBody : next follower (marks ++ [slot]) = ⟨.endWord, endAt⟩ := by
    obtain ⟨_, _, rfl, here, _⟩ := List.map_eq_cons_iff.mp marksWritten
    exact here
  have isSemicolon : slot.token.kind = .semicolon := by rw [slotWritten]
  have slotResumes : slot.missing = true → follower.kind.resumes = true :=
    fun missing => resumes ⟨slot, by simp, missing⟩
  obtain ⟨place, read⟩ : ∃ place, statement ⟨header.tokens ++ _, last⟩ = _ :=
    statement_of_header header isSemicolon slotResumes
      (bodyRead inner innerWritten only.right.left)
  refine ⟨place, ?_⟩
  simp only [present_append, followers_append, present_of_whole frontWhole,
    present_of_whole marksWhole, followers_of_whole frontWhole,
    followers_of_whole marksWhole, frontWritten, marksWritten, behindBody,
    List.append_assoc, List.nil_append, List.cons_append, List.map_append]
  exact read

mutual

/-- A statement without some of its semicolons is read as with them. -/
theorem statement_without (phrase : StmtPhrase) {slots : List Slot}
    {follower : Token} {others : List Token}
    (written : slots.map Slot.token = phrase.tokens)
    (only : OnlySemicolons slots)
    (resumes : (∃ slot ∈ slots, slot.missing = true) →
      follower.kind.resumes = true)
    (barrier : BarrierAhead (follower :: others))
    (last : Position) :
    ∃ place, statement ⟨present slots ++ follower :: others, last⟩ =
      ⟨some phrase.tree, (followers follower slots).map missingSemicolon,
        ⟨follower :: others, place⟩⟩ := by
  match phrase with
  | .declare .. =>
      exact statement_of_simpleForm (StmtPhrase.declare_simpleForm ..) written
        only resumes barrier last
  | .assign .. =>
      exact statement_of_simpleForm (StmtPhrase.assign_simpleForm ..) written
        only resumes barrier last
  | .read .. =>
      exact statement_of_simpleForm (StmtPhrase.read_simpleForm ..) written
        only resumes barrier last
  | .print .. =>
      exact statement_of_simpleForm (StmtPhrase.print_simpleForm ..) written
        only resumes barrier last
  | .assert .. =>
      exact statement_of_simpleForm (StmtPhrase.assert_simpleForm ..) written
        only resumes barrier last
  | .loop opening index inAt low rangeAt high doAt body endAt forAt
      semicolon =>
      let header : LoopOpening :=
        ⟨opening, index, inAt, low, rangeAt, high, doAt⟩
      have tokens : slots.map Slot.token =
          header.tokens ++ (StmtPhrase.tokensList body ++
            ([⟨.endWord, endAt⟩, ⟨.forWord, forAt⟩] ++
              [⟨.semicolon, semicolon⟩])) := by
        simp [written, StmtPhrase.tokens, LoopOpening.tokens, header]
      apply statement_of_loop_slots header tokens only resumes
      intro inner innerWritten onlyInner behind place
      have isEnd : BarrierAhead (Token.mk .endWord endAt :: behind) :=
        ⟨⟨.endWord, endAt⟩, by simp, rfl⟩
      exact statements_without body innerWritten onlyInner rfl
        (fun _ => rfl) isEnd place

theorem statements_without (phrases : List StmtPhrase) {slots : List Slot}
    {follower : Token} {others : List Token}
    (written : slots.map Slot.token = StmtPhrase.tokensList phrases)
    (only : OnlySemicolons slots)
    (unfit : follower.kind.startsStatement = false)
    (resumes : (∃ slot ∈ slots, slot.missing = true) →
      follower.kind.resumes = true)
    (barrier : BarrierAhead (follower :: others))
    (last : Position) :
    ∃ place, statements ⟨present slots ++ follower :: others, last⟩ =
      ⟨StmtPhrase.treeList phrases,
        (followers follower slots).map missingSemicolon,
        ⟨follower :: others, place⟩⟩ := by
  match phrases with
  | [] =>
      obtain rfl := List.map_eq_nil_iff.mp written
      exact ⟨last, statements_of_unfit unfit⟩
  | phrase :: phrases =>
      obtain ⟨_, ahead, starts⟩ := exists_next written only follower others
      obtain ⟨front, back, rfl, frontWritten, backWritten⟩ :=
        List.map_eq_append_iff.mp written
      obtain ⟨following, behind, startsBehind⟩ :=
        exists_next backWritten only.right follower others
      -- the next statement stands behind the first one, or nothing but the
      -- follower does
      have frontResumes : (∃ slot ∈ front, slot.missing = true) →
          (next follower back).kind.resumes = true := by
        rintro ⟨slot, member, missing⟩
        by_cases nothing : phrases = []
        · subst nothing
          obtain rfl := List.map_eq_nil_iff.mp backWritten
          exact resumes ⟨slot, by simp [member], missing⟩
        · exact TokenKind.resumes_of_startsStatement (startsBehind nothing)
      have backResumes : (∃ slot ∈ back, slot.missing = true) →
          follower.kind.resumes = true := by
        rintro ⟨slot, member, missing⟩
        exact resumes ⟨slot, by simp [member], missing⟩
      have barrierBehind : BarrierAhead (next follower back :: following) := by
        obtain ⟨token, member, isBarrier⟩ := barrier
        rw [← behind]
        exact ⟨token, List.mem_append_right _ member, isBarrier⟩
      obtain ⟨middle, first⟩ := statement_without phrase frontWritten only.left
        frontResumes barrierBehind last
      obtain ⟨place, rest⟩ := statements_without phrases backWritten only.right
        unfit backResumes barrier middle
      refine ⟨place, ?_⟩
      have begins : (Cursor.mk (present (front ++ back) ++
          follower :: others) last).current.kind.startsStatement = true := by
        rw [Cursor.current_of_remaining ahead]
        exact starts (List.cons_ne_nil _ _)
      rw [statements_after_statement begins, present_append,
        List.append_assoc, behind, first, ← behind, rest, followers_append,
        List.map_append]
      rfl

end

/-- A statement is read as it is written. -/
theorem statement_written (phrase : StmtPhrase) {follower : Token}
    {others : List Token} (barrier : BarrierAhead (follower :: others))
    (last : Position) :
    ∃ place, statement ⟨phrase.tokens ++ follower :: others, last⟩ =
      ⟨some phrase.tree, [], ⟨follower :: others, place⟩⟩ := by
  let tokens := phrase.tokens
  have read := statement_without phrase (map_token_filled tokens)
    (onlySemicolons_filled tokens)
    (fun missing => absurd missing (not_missing_filled tokens)) barrier last
  rwa [present_filled, followers_of_whole (filled_whole tokens)] at read

/-- Statements are read as they are written, in front of a token with which no
statement begins. -/
theorem statements_written (phrases : List StmtPhrase) {follower : Token}
    {others : List Token} (unfit : follower.kind.startsStatement = false)
    (barrier : BarrierAhead (follower :: others))
    (last : Position) :
    ∃ place,
      statements ⟨StmtPhrase.tokensList phrases ++ follower :: others, last⟩ =
        ⟨StmtPhrase.treeList phrases, [], ⟨follower :: others, place⟩⟩ := by
  let tokens := StmtPhrase.tokensList phrases
  have read := statements_without phrases (map_token_filled tokens)
    (onlySemicolons_filled tokens) unfit
    (fun missing => absurd missing (not_missing_filled tokens)) barrier last
  rwa [present_filled, followers_of_whole (filled_whole tokens)] at read

end Recovering

namespace Program

open Slot

variable {slots : List Slot} {phrase : ProgramPhrase} {last : Token}

theorem read_present (isEnd : last.kind = .endOfInput)
    (written : slots.map Slot.token = phrase.tokens)
    (only : OnlySemicolons slots) :
    Program.read (present slots ++ [last]) =
      (phrase.tree,
        (followers last slots).map Mismatch.missingSemicolon) := by
  let cursor := Cursor.ofTokens (present slots ++ [last])
  have tokens : slots.map Slot.token =
      StmtPhrase.tokensList (phrase.first :: phrase.others) := written
  obtain ⟨_, ahead, starts⟩ := exists_next tokens only last []
  have begins : cursor.current.kind.startsStatement = true := by
    rw [Cursor.current_of_remaining ahead]
    exact starts (List.cons_ne_nil _ _)
  have unfit : last.kind.startsStatement = false := by
    rw [isEnd]
    rfl
  have resumes : last.kind.resumes = true := by
    rw [isEnd]
    rfl
  have barrier : BarrierAhead [last] := by
    refine ⟨last, List.mem_singleton_self last, ?_⟩
    rw [isEnd]
    rfl
  obtain ⟨place, row⟩ : ∃ place, Recovering.statements cursor = _ :=
    Recovering.statements_without _ tokens only unfit (fun _ => resumes)
      barrier .start
  have ends :
      (Recovering.statements cursor).rest.current.kind = .endOfInput := by
    rw [row]
    exact isEnd
  rw [Program.read, Recovering.program_of_statements begins ends, row]
  rfl

/-- A program without some of its semicolons is read as with them, and each
one that is missing is reported once, at the token that follows it. -/
theorem read_without_semicolons (isEnd : last.kind = .endOfInput)
    (written : slots.map Slot.token = phrase.tokens)
    (only : OnlySemicolons slots) :
    (Program.read (present slots ++ [last])).1 =
        (Program.read (slots.map Slot.token ++ [last])).1 ∧
      diagnostics (present slots ++ [last]) =
        (followers last slots).map fun found =>
          ⟨.grammar, found.position,
            "expected SEMI, got " ++ found.kind.name⟩ := by
  constructor
  · rw [written, ← present_filled phrase.tokens,
      read_present isEnd written only,
      read_present isEnd (map_token_filled _) (onlySemicolons_filled _)]
  · rw [diagnostics, read_present isEnd written only, List.map_map]
    apply List.map_congr_left
    intro found member
    apply Mismatch.missingSemicolon_diagnostic
    have inside := mem_of_mem_followers member
    rw [written] at inside
    rcases List.mem_append.mp inside with inside | isLast
    · exact phrase.legible found inside
    · rw [List.mem_singleton.mp isLast, Token.Legible, isEnd]
      simp

/-- `for i in 0 .. 0 do print i ; end for ; read i ;` -/
def separated : ProgramPhrase :=
  ⟨.loop ⟨1, 1⟩ ⟨"i", ⟨1, 5⟩⟩ ⟨1, 7⟩ (.lone (.number .zero ⟨1, 10⟩)) ⟨1, 12⟩
      (.lone (.number .zero ⟨1, 15⟩)) ⟨1, 17⟩
      [.print ⟨2, 1⟩ (.lone (.named "i" ⟨2, 7⟩)) ⟨2, 9⟩] ⟨3, 1⟩ ⟨3, 5⟩ ⟨3, 9⟩,
    [.read ⟨4, 1⟩ ⟨"i", ⟨4, 6⟩⟩ ⟨4, 8⟩]⟩

/-- The same with every semicolon left out. -/
def unseparated : List Slot :=
  separated.tokens.map fun token => ⟨token, token.kind == .semicolon⟩

theorem unseparated_read :
    (followers lineEnd unseparated).map Token.kind =
        [.endWord, .readWord, .endOfInput] ∧
      (Program.read (present unseparated ++ [lineEnd])).1 =
        (Program.read (unseparated.map Slot.token ++ [lineEnd])).1 ∧
      diagnostics (present unseparated ++ [lineEnd]) =
        (followers lineEnd unseparated).map fun found =>
          ⟨.grammar, found.position,
            "expected SEMI, got " ++ found.kind.name⟩ := by
  have written : unseparated.map Slot.token = separated.tokens := by
    simp [unseparated, Function.comp_def]
  have only : OnlySemicolons unseparated := by
    simp [OnlySemicolons, unseparated]
  exact ⟨by decide, read_without_semicolons rfl written only⟩

end Program

end TinyImp
