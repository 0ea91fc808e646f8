import TinyImp.Proofs.Grammar.Acceptance
import TinyImp.Proofs.Grammar.Locality

/-!
# Independent segments

A segment looks like one statement from outside: it begins as a statement
other than a loop does and ends with its only semicolon, and what stands
between need not make sense.  Wherever the reading of a segment breaks off, it
goes on inside the segment or right behind its semicolon.  So a row of
segments is read as each of them is read alone, at the top of a program and in
the body of a loop.
-/

namespace TinyImp

theorem TokenKind.isBarrier_of_startsStatement {kind : TokenKind}
    (starts : kind.startsStatement = true) : kind.isBarrier = false := by
  cases kind <;> cases starts <;> rfl

/-- A beginning of a statement other than a loop, with anything behind it up to
the next semicolon. -/
structure Segment where
  first : Token
  others : List Token
  semicolon : Position
  starts : first.kind.startsStatement = true
  inside : ∀ token ∈ first :: others, token.kind.isInside = true

namespace Segment

/-- The tokens of a segment in front of its semicolon. -/
def inner (segment : Segment) : List Token :=
  segment.first :: segment.others

def tokens (segment : Segment) : List Token :=
  segment.inner ++ [⟨.semicolon, segment.semicolon⟩]

end Segment

/-- Nothing but the end of the input stands ahead. -/
def Closes (ending : List Token) : Prop :=
  ∀ token ∈ ending.head?, token.kind = .endOfInput

theorem Closes.current_kind {ending : List Token} (closed : Closes ending)
    (last : Position) :
    (Cursor.mk ending last).current.kind = .endOfInput := by
  cases ending with
  | nil => rfl
  | cons token others => exact closed token rfl

theorem Cursor.skipStatementFrom_inside {inner : List Token}
    (inside : ∀ token ∈ inner, token.kind.isInside = true)
    {barrier : Token} (isSemicolon : barrier.kind = .semicolon)
    (last : Position) (following : List Token) :
    skipStatementFrom last (inner ++ barrier :: following) =
      ⟨following, barrier.position⟩ := by
  induction inner generalizing last with
  | nil => simp [skipStatementFrom, isSemicolon]
  | cons token others induction =>
      have here := inside token (by simp)
      have onward := induction
        (fun other member => inside other (by simp [member])) token.position
      rw [List.cons_append, skipStatementFrom]
      cases ahead : token.kind with
      | semicolon | endWord | endOfInput =>
          rw [ahead] at here
          cases here
      | _ => exact onward

namespace Recovering

variable {α : Type} {seam : Seam} {inner unread : List Token}
  {left right : Cursor}

/-- Where two readers go on that have read the same tokens before a semicolon:
both right behind it, or both in front of the same beginning of a statement. -/
inductive GoOn (seam : Seam) (inner : List Token) : Cursor → Cursor → Prop where
  | behind :
      GoOn seam inner ⟨seam.left, seam.barrier.position⟩
        ⟨seam.right, seam.barrier.position⟩
  | before {unread : List Token} {left right : Cursor} :
      unread <:+ inner →
      left.Beside seam unread right →
      left.current.kind.startsStatement = true →
      GoOn seam inner left right

/-- Two recovering readers with the same value and the same mismatches. -/
structure Twins (seam : Seam) (inner : List Token)
    (left right : Recovered α) : Prop where
  value : right.value = left.value
  mismatches : right.mismatches = left.mismatches
  goOn : GoOn seam inner left.rest right.rest

theorem GoOn.mono (suffix : unread <:+ inner)
    (goOn : GoOn seam unread left right) : GoOn seam inner left right := by
  cases goOn with
  | behind => exact .behind
  | before unreadSuffix beside starts =>
      exact .before (unreadSuffix.trans suffix) beside starts

theorem goOn_skipStatement (isSemicolon : seam.barrier.kind = .semicolon)
    (inside : ∀ token ∈ inner, token.kind.isInside = true)
    (beside : left.Beside seam inner right) :
    GoOn seam inner left.skipStatement right.skipStatement := by
  rw [Cursor.skipStatement, Cursor.skipStatement, beside.leftAhead,
    beside.rightAhead, Cursor.skipStatementFrom_inside inside isSemicolon,
    Cursor.skipStatementFrom_inside inside isSemicolon]
  exact .behind

theorem attempt_expect (kind : TokenKind) (cursor : Cursor) :
    attempt (Production.expect kind) cursor =
      if cursor.current.kind = kind then ⟨some (), [], cursor.advance⟩
      else ⟨none, [⟨.token kind, cursor.current⟩], cursor⟩ := by
  rw [attempt, Production.expect_apply]
  by_cases ahead : cursor.current.kind = kind
  · rw [if_pos ahead, if_pos ahead]
  · rw [if_neg ahead, if_neg ahead]

theorem endStatement_apply (cursor : Cursor) :
    endStatement cursor =
      if cursor.current.kind = .semicolon then ⟨(), [], cursor.advance⟩
      else ⟨(), [⟨.token .semicolon, cursor.current⟩],
        if cursor.current.kind.startsStatement = true then cursor
        else cursor.skipStatement⟩ := by
  rw [endStatement]
  by_cases ahead : cursor.current.kind = .semicolon
  · simp [bind, attempt_expect, ahead, pure]
  · by_cases starts : cursor.current.kind.startsStatement = true
    · simp [bind, attempt_expect, ahead, pure, current, starts]
    · simp [bind, attempt_expect, ahead, current, starts, move]

theorem endStatement_twins (isSemicolon : seam.barrier.kind = .semicolon)
    (inside : ∀ token ∈ inner, token.kind.isInside = true)
    (beside : left.Beside seam inner right) :
    Twins seam inner (endStatement left) (endStatement right) := by
  rw [endStatement_apply, endStatement_apply, beside.current_eq]
  by_cases ahead : left.current.kind = .semicolon
  · rw [if_pos ahead, if_pos ahead]
    obtain ⟨leftAhead, rightAhead⟩ := beside
    cases inner with
    | nil =>
        refine ⟨rfl, rfl, ?_⟩
        simp only [Cursor.advance, leftAhead, rightAhead, List.nil_append]
        exact .behind
    | cons token others =>
        have here := inside token (by simp)
        rw [Cursor.current_of_remaining leftAhead] at ahead
        rw [ahead] at here
        cases here
  · rw [if_neg ahead, if_neg ahead]
    by_cases starts : left.current.kind.startsStatement = true
    · rw [if_pos starts, if_pos starts]
      exact ⟨rfl, rfl, .before List.suffix_rfl beside starts⟩
    · rw [if_neg starts, if_neg starts]
      exact ⟨rfl, rfl, goOn_skipStatement isSemicolon inside beside⟩

theorem simpleStatement_of_ok {cursor rest : Cursor} {statement : Stmt}
    (success : Production.simpleStatement cursor = .ok statement rest) :
    simpleStatement cursor =
      ⟨some statement, (endStatement rest).mismatches,
        (endStatement rest).rest⟩ := by
  have attempted : attempt Production.simpleStatement cursor =
      ⟨some statement, [], rest⟩ := by
    rw [attempt, success]
  simp [simpleStatement, bind, attempted, pure]

theorem simpleStatement_of_error {cursor rest : Cursor} {expected : Expected}
    (failed : Production.simpleStatement cursor = .error expected rest) :
    simpleStatement cursor =
      ⟨none, [⟨expected, rest.current⟩], rest.skipStatement⟩ := by
  have attempted : attempt Production.simpleStatement cursor =
      ⟨none, [⟨expected, rest.current⟩], rest⟩ := by
    rw [attempt, failed]
  simp [simpleStatement, bind, attempted, pure, move]

/-- A segment is left neither short of a statement that begins inside it nor
beyond its semicolon. -/
theorem simpleStatement_twins (isSemicolon : seam.barrier.kind = .semicolon)
    (inside : ∀ token ∈ inner, token.kind.isInside = true)
    (beside : left.Beside seam inner right) :
    Twins seam inner (simpleStatement left) (simpleStatement right) := by
  have alike := Production.simpleStatement_readAlike inner left right
    (Nat.lt_succ_self _) beside
  generalize leftOutcome : Production.simpleStatement left = leftResult at alike
  generalize rightOutcome : Production.simpleStatement right = rightResult
    at alike
  cases alike with
  | @ok unread statement leftRest rightRest suffix besideRest =>
      have insideRest : ∀ token ∈ unread, token.kind.isInside = true :=
        fun token member => inside token (suffix.mem member)
      have twins := endStatement_twins isSemicolon insideRest besideRest
      rw [simpleStatement_of_ok leftOutcome, simpleStatement_of_ok rightOutcome]
      exact ⟨rfl, twins.mismatches, twins.goOn.mono suffix⟩
  | @error unread expected leftRest rightRest suffix besideRest =>
      have insideRest : ∀ token ∈ unread, token.kind.isInside = true :=
        fun token member => inside token (suffix.mem member)
      have goOn := goOn_skipStatement isSemicolon insideRest besideRest
      rw [simpleStatement_of_error leftOutcome,
        simpleStatement_of_error rightOutcome, besideRest.current_eq]
      exact ⟨rfl, rfl, goOn.mono suffix⟩

theorem statement_of_simple {cursor : Cursor}
    (noLoop : cursor.current.kind ≠ .forWord) :
    statement cursor = simpleStatement cursor := by
  change (if cursor.current.kind = .forWord then loopWith statements
    else simpleStatement) cursor = _
  rw [if_neg noLoop]

end Recovering

/-- What has been read before, in front of what a reader gives. -/
def Recovered.after {α : Type} (recovered : Recovered (List α))
    (values : List α) (mismatches : List Mismatch) : Recovered (List α) :=
  ⟨values ++ recovered.value, mismatches ++ recovered.mismatches,
    recovered.rest⟩

theorem Recovered.after_after {α : Type} (recovered : Recovered (List α))
    (values earlier : List α) (mismatches earlierMismatches : List Mismatch) :
    (recovered.after values mismatches).after earlier earlierMismatches =
      recovered.after (earlier ++ values)
        (earlierMismatches ++ mismatches) := by
  simp [Recovered.after]

namespace Recovering

variable {seam : Seam} {inner : List Token} {left right cursor : Cursor}

theorem forward_statements : Forward statements :=
  fun cursor => forward_statementsWithin (cursor.size + 1) cursor

theorem statements_after_statement
    (starts : cursor.current.kind.startsStatement = true) :
    statements cursor =
      (statements (statement cursor).rest).after
        (statement cursor).value.toList (statement cursor).mismatches := by
  rw [statements_of_starts starts]
  simp [bind, pure, Recovered.after]

/-- The statements before a semicolon, and the mismatches there, do not depend
on what follows it. -/
theorem statements_beside (isSemicolon : seam.barrier.kind = .semicolon)
    (inside : ∀ token ∈ inner, token.kind.isInside = true)
    (beside : left.Beside seam inner right)
    (starts : left.current.kind.startsStatement = true) :
    ∃ values mismatches,
      statements left =
        (statements ⟨seam.left, seam.barrier.position⟩).after values
          mismatches ∧
      statements right =
        (statements ⟨seam.right, seam.barrier.position⟩).after values
          mismatches := by
  -- every statement leaves a token, so what remains gets shorter
  induction size : left.size using Nat.strongRecOn
    generalizing inner left right with
  | ind bound induction =>
      subst size
      have rightStarts : right.current.kind.startsStatement = true := by
        rw [beside.current_eq]
        exact starts
      have noLoop : left.current.kind ≠ .forWord := by
        obtain ⟨unread, split, _⟩ :=
          beside.advance (TokenKind.isBarrier_of_startsStatement starts)
        have here := inside left.current (by simp [split])
        intro ahead
        rw [ahead] at here
        cases here
      have twins := simpleStatement_twins isSemicolon inside beside
      rw [← statement_of_simple noLoop,
        ← statement_of_simple (beside.current_eq ▸ noLoop)] at twins
      have suffix := statementWith_suffix forward_statements starts
      have shorter : (statement left).rest.size < left.size :=
        size_lt_of_suffix (ne_endOfInput_of_starts starts) suffix
      rw [statements_after_statement starts,
        statements_after_statement rightStarts, twins.value, twins.mismatches]
      obtain ⟨_, _, goOn⟩ := twins
      generalize (statement left).rest = leftRest at goOn shorter
      generalize (statement right).rest = rightRest at goOn
      cases goOn with
      | behind => exact ⟨_, _, rfl, rfl⟩
      | @before unread _ _ unreadSuffix besideRest startsAgain =>
          have insideRest : ∀ token ∈ unread, token.kind.isInside = true :=
            fun token member => inside token (unreadSuffix.mem member)
          obtain ⟨values, mismatches, leftRead, rightRead⟩ :=
            induction _ shorter insideRest besideRest startsAgain rfl
          rw [leftRead, rightRead, Recovered.after_after,
            Recovered.after_after]
          exact ⟨_, _, rfl, rfl⟩

theorem statementsToEnd_of_end (fuel : Nat)
    (ends : (statements cursor).rest.current.kind = .endOfInput) :
    statementsToEnd (fuel + 1) cursor = statements cursor := by
  simp [statementsToEnd, bind, current, ends, pure]

/-- A program whose statements reach the end of the input is what they are. -/
theorem program_of_statements
    (starts : cursor.current.kind.startsStatement = true)
    (ends : (statements cursor).rest.current.kind = .endOfInput) :
    program cursor = statements cursor := by
  rw [statements_after_statement starts] at ends ⊢
  have others := statementsToEnd_of_end (statement cursor).rest.size ends
  simp only [program, bind, size, others]
  simp [pure, Recovered.after]

theorem statements_of_closed {ending : List Token} (closed : Closes ending)
    (last : Position) :
    statements ⟨ending, last⟩ = ⟨[], [], ⟨ending, last⟩⟩ := by
  apply statements_of_unfit
  rw [closed.current_kind]
  rfl

/-- A segment is read as it is read alone, and then what follows it. -/
theorem statements_segment (segment : Segment) {own : List Token}
    (closed : Closes own) (following : List Token) (last : Position) :
    statements ⟨segment.tokens ++ following, last⟩ =
      (statements ⟨following, segment.semicolon⟩).after
        (Program.read (segment.tokens ++ own)).1
        (Program.read (segment.tokens ++ own)).2 := by
  let seam : Seam :=
    ⟨⟨.semicolon, segment.semicolon⟩, rfl, following, own⟩
  let lone := Cursor.ofTokens (segment.tokens ++ own)
  have beside : (Cursor.mk (segment.tokens ++ following) last).Beside seam
      segment.inner lone :=
    ⟨by simp [Segment.tokens, seam],
      by simp [Segment.tokens, Cursor.ofTokens, seam, lone]⟩
  obtain ⟨values, mismatches, together, alone⟩ :=
    statements_beside rfl segment.inside beside segment.starts
  have bare : statements lone =
      ⟨values, mismatches, ⟨own, segment.semicolon⟩⟩ := by
    have nothing := statements_of_closed closed segment.semicolon
    rw [alone]
    simp [seam, nothing, Recovered.after]
  have ends : (statements lone).rest.current.kind = .endOfInput := by
    rw [bare]
    exact closed.current_kind segment.semicolon
  have whole : program lone = statements lone :=
    program_of_statements segment.starts ends
  simp [together, Program.read, whole, bare, seam, lone]

/-- A row of segments is read as each of them is read alone. -/
theorem statements_segments (segments : List Segment)
    {own : Segment → List Token} (closed : ∀ segment, Closes (own segment))
    (following : List Token) (last : Position) :
    ∃ place,
      statements ⟨segments.flatMap Segment.tokens ++ following, last⟩ =
        (statements ⟨following, place⟩).after
          (segments.flatMap fun segment =>
            (Program.read (segment.tokens ++ own segment)).1)
          (segments.flatMap fun segment =>
            (Program.read (segment.tokens ++ own segment)).2) := by
  induction segments generalizing last with
  | nil => exact ⟨last, rfl⟩
  | cons segment segments induction =>
      obtain ⟨place, others⟩ := induction segment.semicolon
      refine ⟨place, ?_⟩
      rw [List.flatMap_cons, List.append_assoc,
        statements_segment segment (closed segment), others,
        Recovered.after_after, List.flatMap_cons, List.flatMap_cons]

end Recovering

/-- A reader accepts the phrase that stands ahead. -/
theorem PhraseClass.ReadBy.accepts {Φ α : Type} {phrases : PhraseClass Φ}
    {value : Φ → α} {bound : Nat} {reader : Cursor → ReadingVerdict α}
    {cursor : Cursor} {phrase : Φ} {follower : Token} {others : List Token}
    (read : phrases.ReadBy value bound reader) (ended : cursor.Ended)
    (small : cursor.size < bound)
    (ahead : cursor.remaining = phrases.tokens phrase ++ follower :: others)
    (stopped : ¬phrases.Continues phrase follower.kind) :
    ∃ rest, reader cursor = .accepted (value phrase) rest ∧
      rest.remaining = follower :: others := by
  have outcome := read.outcome cursor ended small
  generalize reader cursor = verdict at outcome
  cases outcome with
  | @accepted other rest restEnded reading otherStopped =>
      have whole := ahead.symm.trans reading
      have same : phrase = other := by
        rw [restEnded.remaining_eq] at whole
        exact read.unambiguous _ _ _ _ _ _ stopped otherStopped whole
      subst same
      exact ⟨rest, rfl, (List.append_cancel_left whole).symm⟩
  | @refused used following found reading breaks =>
      refine absurd ⟨following, ?_⟩
        (breaks.2 phrase follower others stopped)
      rw [← ahead, reading]
      simp

theorem Production.eq_ok_of_verdict {α : Type} {production : Production α}
    {value : α} {cursor rest : Cursor}
    (accepted : verdict production cursor = .accepted value rest) :
    production cursor = .ok value rest := by
  unfold verdict at accepted
  split at accepted <;> cases accepted
  assumption

/-- What is read where the input has an end is read wherever a barrier is
ahead, since nothing behind the barrier has a part in it. -/
theorem Production.reads_before_barrier {α : Type}
    {production : Production α} {value : α} {front : List Token}
    {follower : Token}
    (alike : ∀ {seam : Seam} {bound : Nat},
      ReadAlike seam bound production production)
    (whole : ∀ {cursor : Cursor} {others : List Token}, cursor.Ended →
      cursor.remaining = front ++ follower :: others →
      ∃ rest, production cursor = .ok value rest ∧
        rest.remaining = follower :: others)
    {cursor : Cursor} {others : List Token}
    (ahead : cursor.remaining = front ++ follower :: others)
    (barrier : BarrierAhead (follower :: others)) :
    ∃ rest, production cursor = .ok value rest ∧
      rest.remaining = follower :: others := by
  obtain ⟨token, member, isBarrier⟩ := barrier
  obtain ⟨inner, behind, split⟩ := List.append_of_mem member
  -- the same tokens up to the barrier, with an end of the input behind it
  let seam : Seam := ⟨token, isBarrier, behind, [⟨.endOfInput, .start⟩]⟩
  let ended : Cursor := .ofTokens (front ++ (inner ++ token :: seam.right))
  obtain ⟨rightOthers, rightSplit⟩ : ∃ rightOthers,
      inner ++ token :: seam.right = follower :: rightOthers := by
    cases inner <;> simp_all
  have hasEnd : ended.Ended :=
    ⟨⟨.endOfInput, .start⟩, by simp [ended, seam, Cursor.ofTokens], rfl⟩
  have written : ended.remaining = front ++ follower :: rightOthers := by
    rw [← rightSplit]
    rfl
  obtain ⟨rest, reading, remaining⟩ := whole hasEnd written
  have beside : cursor.Beside seam (front ++ inner) ended :=
    ⟨by simp [ahead, split, seam], by simp [ended, Cursor.ofTokens, seam]⟩
  have outcome := alike _ cursor ended (Nat.lt_succ_self _) beside
  rw [reading] at outcome
  generalize production cursor = result at outcome
  cases outcome with
  | @ok unread _ leftRest _ suffix besideRest =>
      have same : unread = inner := by
        have whole := besideRest.rightAhead
        rw [remaining, ← rightSplit] at whole
        exact (List.append_cancel_right whole).symm
      refine ⟨leftRest, rfl, ?_⟩
      rw [besideRest.leftAhead, same, split]

/-- A header of a loop as it is written, with the place of each of its
tokens. -/
structure LoopOpening where
  opening : Position
  index : Ident
  inAt : Position
  low : ExprPhrase
  rangeAt : Position
  high : ExprPhrase
  doAt : Position

namespace LoopOpening

def tokens (header : LoopOpening) : List Token :=
  ⟨.forWord, header.opening⟩ :: header.index.token ::
    ⟨.inWord, header.inAt⟩ :: (header.low.tokens ++
      ⟨.range, header.rangeAt⟩ :: (header.high.tokens ++
        [⟨.doWord, header.doAt⟩]))

/-- The loop with this header and body. -/
def tree (header : LoopOpening) (body : List Stmt) : Stmt :=
  .loop header.index header.low.tree header.high.tree body header.opening

/-- The tokens that close a loop. -/
def closing (endAt forAt semicolon : Position) : List Token :=
  [⟨.endWord, endAt⟩, ⟨.forWord, forAt⟩, ⟨.semicolon, semicolon⟩]

/-- The tokens of a loop with this header around those of its body. -/
def around (header : LoopOpening) (body : List Token)
    (endAt forAt semicolon : Position) : List Token :=
  header.tokens ++ body ++ closing endAt forAt semicolon

end LoopOpening

namespace Recovering

/-- A header is read as it is written, if the input has an end. -/
theorem loopHeader_ended (header : LoopOpening) {cursor : Cursor}
    {follower : Token} {others : List Token} (ended : cursor.Ended)
    (ahead : cursor.remaining = header.tokens ++ follower :: others) :
    ∃ rest, Production.loopHeader cursor =
        .ok ⟨header.index, header.low.tree, header.high.tree, header.opening⟩
          rest ∧
      rest.remaining = follower :: others := by
  let parts : Position × Ident × Position × ExprPhrase × Position ×
      ExprPhrase × Position × Unit :=
    (header.opening, header.index, header.inAt, header.low, header.rangeAt,
      header.high, header.doAt, ())
  have tokens : Production.loopHeaders.tokens parts = header.tokens := by
    simp [parts, LoopOpening.tokens, idents]
  have stopped : ¬Production.loopHeaders.Continues parts follower.kind := by
    simp [parts, idents]
  have opening : cursor.current.position = header.opening := by
    rw [Cursor.current_of_remaining ahead]
  obtain ⟨rest, accepted, remaining⟩ :=
    (Production.loopHeader_readBy _ cursor.current.position).accepts ended
      (Nat.lt_succ_self _) (tokens ▸ ahead) stopped
  have verdict : Production.verdict Production.loopHeader cursor =
      .accepted
        ⟨header.index, header.low.tree, header.high.tree, header.opening⟩
        rest := by
    rw [Production.loopHeader, Production.verdict_current_bind, ← opening]
    exact accepted
  exact ⟨rest, Production.eq_ok_of_verdict verdict, remaining⟩

/-- A header is read as it is written, if an `end` stands behind it. -/
theorem loopHeader_opening (header : LoopOpening) {cursor : Cursor}
    {inner behind : List Token} {endAt : Position}
    (ahead : cursor.remaining =
      header.tokens ++ (inner ++ ⟨.endWord, endAt⟩ :: behind)) :
    ∃ rest, Production.loopHeader cursor =
        .ok ⟨header.index, header.low.tree, header.high.tree, header.opening⟩
          rest ∧
      rest.remaining = inner ++ ⟨.endWord, endAt⟩ :: behind := by
  obtain ⟨follower, others, front⟩ : ∃ follower others,
      inner ++ ⟨.endWord, endAt⟩ :: behind = follower :: others := by
    cases inner <;> simp
  have barrier : BarrierAhead (follower :: others) := by
    rw [← front]
    exact ⟨⟨.endWord, endAt⟩, by simp, rfl⟩
  rw [front] at ahead ⊢
  exact Production.reads_before_barrier Production.loopHeader_readAlike
    (loopHeader_ended header) ahead barrier

theorem loopEnd_closing (header : Production.LoopHeader) (body : List Stmt)
    (endAt forAt semicolon last : Position) (following : List Token) :
    loopEnd header body
        ⟨LoopOpening.closing endAt forAt semicolon ++ following, last⟩ =
      ⟨some (.loop header.index header.low header.high body header.position),
        [], ⟨following, semicolon⟩⟩ :=
  rfl

/-- A loop with any segments as its body is kept, with what is read of each of
the segments alone. -/
theorem statement_loop (header : LoopOpening) (segments : List Segment)
    {own : Segment → List Token} (closed : ∀ segment, Closes (own segment))
    (endAt forAt semicolon last : Position) (following : List Token) :
    statement ⟨header.around (segments.flatMap Segment.tokens) endAt forAt
        semicolon ++ following, last⟩ =
      ⟨some (header.tree (segments.flatMap fun segment =>
          (Program.read (segment.tokens ++ own segment)).1)),
        segments.flatMap fun segment =>
          (Program.read (segment.tokens ++ own segment)).2,
        ⟨following, semicolon⟩⟩ := by
  let behind := LoopOpening.closing endAt forAt semicolon ++ following
  let cursor : Cursor :=
    ⟨header.tokens ++ (segments.flatMap Segment.tokens ++ behind), last⟩
  obtain ⟨⟨remaining, doAt⟩, reading, ahead⟩ :=
    loopHeader_opening header (rfl : cursor.remaining = _)
  obtain ⟨place, body⟩ := statements_segments segments closed behind doAt
  have stops : statements ⟨behind, place⟩ = ⟨[], [], ⟨behind, place⟩⟩ :=
    statements_of_unfit rfl
  have opened : attempt Production.loopHeader cursor =
      ⟨some ⟨header.index, header.low.tree, header.high.tree, header.opening⟩,
        [], ⟨remaining, doAt⟩⟩ := by
    rw [attempt, reading]
  have inLoop : statement cursor = loopWith statements cursor := rfl
  change remaining = _ ++ behind at ahead
  rw [LoopOpening.around, List.append_assoc, List.append_assoc, inLoop]
  simp [loopWith, bind, opened, ahead, body, stops, Recovered.after, behind,
    loopEnd_closing, LoopOpening.tree]

end Recovering

namespace Program

variable {ending : List Token} {own : Segment → List Token}

theorem read_row {segments : List Segment} (some : segments ≠ [])
    (closed : Closes ending) (ownClosed : ∀ segment, Closes (own segment)) :
    Program.read (segments.flatMap Segment.tokens ++ ending) =
      (segments.flatMap fun segment =>
          (Program.read (segment.tokens ++ own segment)).1,
        segments.flatMap fun segment =>
          (Program.read (segment.tokens ++ own segment)).2) := by
  let cursor := Cursor.ofTokens (segments.flatMap Segment.tokens ++ ending)
  have starts : cursor.current.kind.startsStatement = true := by
    obtain ⟨segment, others, rfl⟩ := List.exists_cons_of_ne_nil some
    exact segment.starts
  obtain ⟨place, row⟩ : ∃ place, Recovering.statements cursor = _ :=
    Recovering.statements_segments segments ownClosed ending .start
  rw [Recovering.statements_of_closed closed] at row
  have ends :
      (Recovering.statements cursor).rest.current.kind = .endOfInput := by
    rw [row]
    exact closed.current_kind place
  rw [Program.read, Recovering.program_of_statements starts ends, row]
  simp [Recovered.after]

theorem read_loop (segments : List Segment) (closed : Closes ending)
    (ownClosed : ∀ segment, Closes (own segment)) (header : LoopOpening)
    (endAt forAt semicolon : Position) :
    Program.read (header.around (segments.flatMap Segment.tokens) endAt forAt
        semicolon ++ ending) =
      ([header.tree (segments.flatMap fun segment =>
          (Program.read (segment.tokens ++ own segment)).1)],
        segments.flatMap fun segment =>
          (Program.read (segment.tokens ++ own segment)).2) := by
  let cursor := Cursor.ofTokens (header.around
    (segments.flatMap Segment.tokens) endAt forAt semicolon ++ ending)
  have starts : cursor.current.kind.startsStatement = true := rfl
  have loop : Recovering.statement cursor = _ :=
    Recovering.statement_loop header segments ownClosed endAt forAt semicolon
      .start ending
  have row := Recovering.statements_after_statement starts
  rw [loop, Recovering.statements_of_closed closed] at row
  have ends :
      (Recovering.statements cursor).rest.current.kind = .endOfInput := by
    rw [row]
    exact closed.current_kind semicolon
  rw [Program.read, Recovering.program_of_statements starts ends, row]
  simp [Recovered.after]

/-- Segments in a row are read as if each of them were the whole program, and
so they are in the body of a loop. -/
theorem read_segments (segments : List Segment) (closed : Closes ending)
    (ownClosed : ∀ segment, Closes (own segment)) :
    (segments ≠ [] →
      (Program.read (segments.flatMap Segment.tokens ++ ending)).1 =
        segments.flatMap (fun segment =>
          (Program.read (segment.tokens ++ own segment)).1) ∧
      diagnostics (segments.flatMap Segment.tokens ++ ending) =
        segments.flatMap fun segment =>
          diagnostics (segment.tokens ++ own segment)) ∧
    ∀ (header : LoopOpening) (endAt forAt semicolon : Position),
      (Program.read (header.around (segments.flatMap Segment.tokens) endAt
          forAt semicolon ++ ending)).1 =
        [header.tree (segments.flatMap fun segment =>
          (Program.read (segment.tokens ++ own segment)).1)] ∧
      diagnostics (header.around (segments.flatMap Segment.tokens) endAt
          forAt semicolon ++ ending) =
        segments.flatMap fun segment =>
          diagnostics (segment.tokens ++ own segment) := by
  refine ⟨fun some => ⟨?_, ?_⟩, fun header endAt forAt semicolon => ⟨?_, ?_⟩⟩
  · rw [read_row some closed ownClosed]
  · rw [diagnostics, read_row some closed ownClosed, List.map_flatMap]
    rfl
  · rw [read_loop segments closed ownClosed]
  · rw [diagnostics, read_loop segments closed ownClosed, List.map_flatMap]
    rfl

/-- `x := 0 print 0 ;`, two statements without a semicolon between them, and
`print + ;`, which is no statement. -/
def brokenSegments : List Segment :=
  [⟨⟨.ident "x", 1, 1⟩, [⟨.assign, 1, 3⟩, ⟨.intLiteral .zero, 1, 6⟩,
      ⟨.printWord, 1, 8⟩, ⟨.intLiteral .zero, 1, 14⟩], ⟨1, 15⟩, rfl,
      by decide⟩,
    ⟨⟨.printWord, 2, 1⟩, [⟨.plus, 2, 7⟩], ⟨2, 8⟩, rfl, by decide⟩]

/-- The header `for i in 0 .. 0 do`. -/
def zeroLoop : LoopOpening :=
  ⟨⟨1, 1⟩, ⟨"i", ⟨1, 5⟩⟩, ⟨1, 7⟩, .lone (.number .zero ⟨1, 10⟩), ⟨1, 12⟩,
    .lone (.number .zero ⟨1, 15⟩), ⟨1, 17⟩⟩

theorem brokenSegments_read :
    Closes [lineEnd] ∧ brokenSegments ≠ [] ∧
      brokenSegments.map (fun segment =>
        ((Program.read (segment.tokens ++ [])).1.length,
          (diagnostics (segment.tokens ++ [])).length)) = [(2, 1), (0, 1)] ∧
      diagnostics (brokenSegments.flatMap Segment.tokens ++ [lineEnd]) =
        brokenSegments.flatMap (fun segment =>
          diagnostics (segment.tokens ++ [])) ∧
      (Program.read (zeroLoop.around (brokenSegments.flatMap Segment.tokens)
          ⟨3, 1⟩ ⟨3, 5⟩ ⟨3, 8⟩ ++ [lineEnd])).1 =
        [zeroLoop.tree (brokenSegments.flatMap fun segment =>
          (Program.read (segment.tokens ++ [])).1)] := by
  have closed : Closes [lineEnd] := by simp [Closes, lineEnd]
  have ownClosed : ∀ segment : Segment, Closes ((fun _ => []) segment) := by
    simp [Closes]
  have some : brokenSegments ≠ [] := by simp [brokenSegments]
  have read := read_segments brokenSegments closed ownClosed
  exact ⟨closed, some, by decide, (read.1 some).2,
    (read.2 zeroLoop ⟨3, 1⟩ ⟨3, 5⟩ ⟨3, 8⟩).1⟩

end Program

end TinyImp
