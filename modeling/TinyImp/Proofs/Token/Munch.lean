import TinyImp.Token.Stream

/-!
# How a text is cut into lexemes

The first lexeme of a text is a nonempty beginning of it, and cutting goes on
behind it.  The lexeme is as long as it can be, so what follows it in the text
might be expected to matter.  It does not behind a separator: a token is not
changed by a blank that is put behind it, and no lexeme but an unfinished
block comment is changed by a line feed.
-/

namespace TinyImp

/-! ## Classes of characters -/

namespace Lexeme

theorem not_blank_of_digit {head : Char} (digit : head.isDigit = true) :
    isBlank head = false := by
  rw [Bool.eq_false_iff]
  intro blank
  simp only [isBlank, Bool.or_eq_true, beq_iff_eq] at blank
  rcases blank with (((rfl | rfl) | rfl) | rfl) | rfl <;> cases digit

theorem not_blank_of_letter {head : Char} (letter : head.isAlpha = true) :
    isBlank head = false := by
  rw [Bool.eq_false_iff]
  intro blank
  simp only [isBlank, Bool.or_eq_true, beq_iff_eq] at blank
  rcases blank with (((rfl | rfl) | rfl) | rfl) | rfl <;> cases letter

theorem not_digit_of_letter {head : Char} (letter : head.isAlpha = true) :
    head.isDigit = false := by
  rw [Bool.eq_false_iff]
  intro digit
  have atMost : head.val ≤ '9'.val :=
    of_decide_eq_true (Bool.and_eq_true_iff.1 digit).2
  rcases Bool.or_eq_true_iff.1 letter with upper | lower
  · have atLeast : 'A'.val ≤ head.val := (of_decide_eq_true upper).1
    exact absurd (UInt32.le_trans atLeast atMost) (by decide)
  · have atLeast : 'a'.val ≤ head.val :=
      of_decide_eq_true (Bool.and_eq_true_iff.1 lower).1
    exact absurd (UInt32.le_trans atLeast atMost) (by decide)

theorem blank_cases {separator : Char} (blank : isBlank separator = true) :
    separator.isDigit = false ∧ isWordCharacter separator = false ∧
      separator ≠ '/' ∧ separator ≠ '*' ∧ separator ≠ '=' ∧ separator ≠ '.' := by
  simp only [isBlank, Bool.or_eq_true, beq_iff_eq] at blank
  rcases blank with (((rfl | rfl) | rfl) | rfl) | rfl <;> decide

/-! ## The first lexeme by its first character -/

variable {head : Char} {tail : List Char}

theorem first_of_blank (blank : isBlank head = true) :
    first head tail = ⟨head :: tail.takeWhile isBlank, .skipped⟩ := by
  rw [first, if_pos blank]

theorem first_of_digit (digit : head.isDigit = true) :
    first head tail = number (head :: tail.takeWhile Char.isDigit) := by
  rw [first, not_blank_of_digit digit, if_pos digit]
  rfl

theorem first_of_letter (letter : head.isAlpha = true) :
    first head tail = word (head :: tail.takeWhile isWordCharacter) := by
  rw [first, not_blank_of_letter letter, not_digit_of_letter letter,
    if_pos letter]
  rfl

theorem first_of_quote : first '"' tail = string tail :=
  rfl

theorem first_of_sign (visible : isBlank head = false)
    (noDigit : head.isDigit = false) (noLetter : head.isAlpha = false)
    (noQuote : head ≠ '"') : first head tail = sign head tail := by
  rw [first, visible, noDigit, noLetter, if_neg noQuote]
  rfl

/-- The longest symbol or comment is told by two characters. -/
theorem sign_cons (second : Char) :
    sign head (second :: tail) =
      if head = '/' ∧ second = '/' then lineComment tail
      else if head = '/' ∧ second = '*' then blockComment tail
      else if head = ':' ∧ second = '=' then ⟨[':', '='], .token .assign⟩
      else if head = '.' ∧ second = '.' then ⟨['.', '.'], .token .range⟩
      else single head := by
  unfold sign
  split
  · simp_all
  · simp_all
  · simp_all
  · simp_all
  · rename_i noLineComment noBlockComment noAssign noRange
    rw [if_neg, if_neg, if_neg, if_neg]
    · intro given
      obtain ⟨same, rfl⟩ := given
      exact noRange tail same rfl
    · intro given
      obtain ⟨same, rfl⟩ := given
      exact noAssign tail same rfl
    · intro given
      obtain ⟨same, rfl⟩ := given
      exact noBlockComment tail same rfl
    · intro given
      obtain ⟨same, rfl⟩ := given
      exact noLineComment tail same rfl

/-! ## A lexeme is a beginning of the text -/

theorem stringBody_text_prefix (following : List Char) :
    (stringBody following).text <+: following := by
  fun_induction stringBody following with
  | case1 => exact List.nil_prefix
  | case2 rest => exact ⟨rest, rfl⟩
  | case3 head tail _ _ => exact List.nil_prefix
  | case4 _ _ => exact List.prefix_rfl
  | case5 taken rest _ _ _ => exact ⟨taken :: rest, rfl⟩
  | case6 taken rest _ _ _ induction =>
      exact List.cons_prefix_cons.2 ⟨rfl, List.cons_prefix_cons.2 ⟨rfl, induction⟩⟩
  | case7 head tail _ _ _ induction =>
      exact List.cons_prefix_cons.2 ⟨rfl, induction⟩

theorem throughClose?_prefix {following body : List Char}
    (found : throughClose? following = some body) : body <+: following := by
  fun_induction throughClose? following generalizing body with
  | case1 => cases found
  | case2 head tail closes =>
      cases found
      obtain ⟨rfl, slash⟩ := closes
      cases tail with
      | nil => cases slash
      | cons second rest =>
          cases slash
          exact ⟨rest, rfl⟩
  | case3 head tail _ induction =>
      obtain ⟨inner, innerFound, rfl⟩ := Option.map_eq_some_iff.1 found
      exact List.cons_prefix_cons.2 ⟨rfl, induction innerFound⟩

theorem sign_text (head : Char) (tail : List Char) :
    ∃ taken, (sign head tail).text = head :: taken ∧ taken <+: tail := by
  unfold sign
  split
  · rename_i following
    exact ⟨_, rfl, List.cons_prefix_cons.2 ⟨rfl, List.takeWhile_prefix _⟩⟩
  · rename_i following
    unfold blockComment
    cases found : throughClose? following with
    | none => exact ⟨_, rfl, List.prefix_rfl⟩
    | some body =>
        exact ⟨_, rfl, List.cons_prefix_cons.2 ⟨rfl, throughClose?_prefix found⟩⟩
  · rename_i following
    exact ⟨_, rfl, following, rfl⟩
  · rename_i following
    exact ⟨_, rfl, following, rfl⟩
  · exact ⟨[], rfl, List.nil_prefix⟩

/-- A lexeme takes the first character and a beginning of the rest. -/
theorem first_text (head : Char) (tail : List Char) :
    ∃ taken, (first head tail).text = head :: taken ∧ taken <+: tail := by
  by_cases blank : isBlank head = true
  · rw [first_of_blank blank]
    exact ⟨_, rfl, List.takeWhile_prefix _⟩
  by_cases digit : head.isDigit = true
  · rw [first_of_digit digit]
    exact ⟨_, rfl, List.takeWhile_prefix _⟩
  by_cases letter : head.isAlpha = true
  · rw [first_of_letter letter]
    exact ⟨_, rfl, List.takeWhile_prefix _⟩
  by_cases quote : head = '"'
  · subst quote
    exact ⟨_, rfl, stringBody_text_prefix tail⟩
  rw [first_of_sign (Bool.eq_false_iff.2 blank) (Bool.eq_false_iff.2 digit)
    (Bool.eq_false_iff.2 letter) quote]
  exact sign_text head tail

/-- What follows the first lexeme of a text. -/
def behind (head : Char) (tail : List Char) : List Char :=
  tail.drop ((first head tail).text.length - 1)

theorem text_append_behind (head : Char) (tail : List Char) :
    (first head tail).text ++ behind head tail = head :: tail := by
  obtain ⟨taken, text, rest, rfl⟩ := first_text head tail
  rw [behind, text]
  simp

theorem behind_of_text {lexeme : Lexeme} {rest : List Char}
    (cut : first head tail = lexeme) (split : head :: tail = lexeme.text ++ rest) :
    behind head tail = rest := by
  apply List.append_cancel_left
  rw [← split, ← cut]
  exact text_append_behind head tail

theorem length_behind (head : Char) (tail : List Char) :
    (behind head tail).length ≤ tail.length := by
  rw [behind, List.length_drop]
  omega

end Lexeme

theorem lexemesAfter_eq (taken : Nat) (text : List Char) :
    lexemesAfter taken text = lexemes (text.drop taken) := by
  induction text generalizing taken with
  | nil =>
      rw [List.drop_nil, lexemes, lexemesAfter, lexemesAfter]
  | cons head tail induction =>
      cases taken with
      | zero => rfl
      | succ taken =>
          rw [lexemesAfter, induction, List.drop_succ_cons]

/-- Cutting goes on behind the first lexeme. -/
theorem lexemes_cons (head : Char) (tail : List Char) :
    lexemes (head :: tail) =
      Lexeme.first head tail :: lexemes (Lexeme.behind head tail) := by
  rw [lexemes, lexemesAfter, lexemesAfter_eq]
  rfl

/-- Every lexeme of a text is the first one of a rest of the text. -/
theorem exists_first_of_mem {lexeme : Lexeme} {text : List Char}
    (member : lexeme ∈ lexemes text) :
    ∃ head tail, lexeme = Lexeme.first head tail := by
  have anywhere : ∀ taken, lexeme ∈ lexemesAfter taken text →
      ∃ head tail, lexeme = Lexeme.first head tail := by
    clear member
    induction text with
    | nil =>
        intro taken member
        rw [lexemesAfter] at member
        cases member
    | cons head tail induction =>
        intro taken member
        cases taken with
        | succ taken => exact induction taken member
        | zero =>
            rw [lexemesAfter] at member
            rcases List.mem_cons.1 member with same | later
            · exact ⟨head, tail, same⟩
            · exact induction _ later
  exact anywhere 0 member

/-! ## Separators -/

namespace Lexeme

variable {head separator : Char} {tail rest : List Char}

private theorem takeWhile_before {continues : Char → Bool}
    (stops : continues separator = false) (text : List Char) :
    (text ++ separator :: rest).takeWhile continues =
      text.takeWhile continues := by
  induction text with
  | nil => rw [List.nil_append, List.takeWhile_cons, stops]; rfl
  | cons first others induction =>
      rw [List.cons_append, List.takeWhile_cons, List.takeWhile_cons, induction]

theorem stringBody_quote (rest : List Char) :
    stringBody ('"' :: rest) = ⟨['"'], some []⟩ := by
  rw [stringBody.eq_def]
  rfl

theorem stringBody_lineEnd (lineEnd : isLineEnd head = true) :
    stringBody (head :: rest) = ⟨[], none⟩ := by
  have noQuote : head ≠ '"' := by
    intro quote
    rw [quote] at lineEnd
    cases lineEnd
  rw [stringBody.eq_def]
  simp only [if_neg noQuote, if_pos lineEnd]

/-- A backslash takes the next character with it. -/
theorem stringBody_escape {taken : Char} (inLine : isLineEnd taken = false) :
    stringBody ('\\' :: taken :: rest) =
      (stringBody rest).after ['\\', taken] (unescape taken) := by
  rw [stringBody.eq_def]
  simp only [inLine]
  rfl

theorem stringBody_escape_lineEnd {taken : Char}
    (lineEnd : isLineEnd taken = true) :
    stringBody ('\\' :: taken :: rest) = ⟨['\\'], none⟩ := by
  rw [stringBody.eq_def]
  simp only [lineEnd]
  rfl

theorem stringBody_plain (noQuote : head ≠ '"')
    (inLine : isLineEnd head = false) (noBackslash : head ≠ '\\') :
    stringBody (head :: rest) = (stringBody rest).after [head] head := by
  rw [stringBody.eq_def]
  simp only [if_neg noQuote, if_neg noBackslash, inLine]
  rfl

/-- A string literal that is closed does not look beyond its end. -/
theorem stringBody_of_closed {following value : List Char}
    (closed : (stringBody following).value = some value) :
    stringBody (following ++ rest) = stringBody following := by
  fun_induction stringBody following generalizing value with
  | case1 => cases closed
  | case2 tail => exact stringBody_quote (tail ++ rest)
  | case3 head tail _ _ => cases closed
  | case4 _ _ => cases closed
  | case5 taken tail _ _ _ => cases closed
  | case6 taken tail taking _ _ induction =>
      obtain ⟨inner, innerClosed, _⟩ := Option.map_eq_some_iff.1 closed
      rw [List.cons_append, List.cons_append,
        stringBody_escape (Bool.eq_false_iff.2 taking), induction innerClosed]
  | case7 head tail noQuote inLine noBackslash induction =>
      obtain ⟨inner, innerClosed, _⟩ := Option.map_eq_some_iff.1 closed
      rw [List.cons_append,
        stringBody_plain noQuote (Bool.eq_false_iff.2 inLine) noBackslash,
        induction innerClosed]

/-- A string literal does not look beyond the end of the line. -/
theorem stringBody_before_lineEnd (lineEnd : isLineEnd separator = true)
    (following : List Char) :
    stringBody (following ++ separator :: rest) = stringBody following := by
  fun_induction stringBody following with
  | case1 => exact stringBody_lineEnd lineEnd
  | case2 tail => exact stringBody_quote _
  | case3 head tail _ ends => exact stringBody_lineEnd ends
  | case4 _ _ => exact stringBody_escape_lineEnd lineEnd
  | case5 taken tail ends _ _ => exact stringBody_escape_lineEnd ends
  | case6 taken tail taking _ _ induction =>
      rw [List.cons_append, List.cons_append,
        stringBody_escape (Bool.eq_false_iff.2 taking), induction]
  | case7 head tail noQuote inLine noBackslash induction =>
      rw [List.cons_append,
        stringBody_plain noQuote (Bool.eq_false_iff.2 inLine) noBackslash,
        induction]

theorem throughClose?_append {following body : List Char}
    (found : throughClose? following = some body) :
    throughClose? (following ++ rest) = some body := by
  fun_induction throughClose? following generalizing body with
  | case1 => cases found
  | case2 head tail closes =>
      obtain ⟨rfl, slash⟩ := closes
      cases tail with
      | nil => cases slash
      | cons second others =>
          cases slash
          exact found
  | case3 head tail goesOn induction =>
      obtain ⟨inner, innerFound, rfl⟩ := Option.map_eq_some_iff.1 found
      cases tail with
      | nil => cases innerFound
      | cons second others =>
          rw [List.cons_append, List.cons_append, throughClose?, List.head?_cons]
          rw [List.head?_cons] at goesOn
          rw [if_neg goesOn, ← List.cons_append, induction innerFound]
          rfl

theorem lineComment_before_lineFeed (following : List Char) :
    lineComment (following ++ '\n' :: rest) = lineComment following := by
  rw [lineComment, takeWhile_before rfl, lineComment]

theorem blockComment_of_closed {following : List Char}
    (closed : (blockComment following).reading ≠ .flawed .unterminatedComment) :
    blockComment (following ++ rest) = blockComment following := by
  unfold blockComment at closed ⊢
  cases found : throughClose? following with
  | none =>
      rw [found] at closed
      exact absurd rfl closed
  | some body => rw [throughClose?_append found]

theorem string_before {following : List Char}
    (stops : (∃ kind, (string following).reading = .token kind) ∨
      separator = '\n') :
    string (following ++ separator :: rest) = string following := by
  have sameBody :
      stringBody (following ++ separator :: rest) = stringBody following := by
    rcases stops with ⟨kind, token⟩ | rfl
    · cases closed : (stringBody following).value with
      | none =>
          rw [string, closed] at token
          cases token
      | some value => exact stringBody_of_closed closed
    · exact stringBody_before_lineEnd rfl following
  rw [string, sameBody, string]

theorem sign_before (blank : isBlank separator = true)
    (stops : (∃ kind, (sign head tail).reading = .token kind) ∨
      separator = '\n')
    (closed : (sign head tail).reading ≠ .flawed .unterminatedComment) :
    sign head (tail ++ separator :: rest) = sign head tail := by
  obtain ⟨_, _, noSlash, noStar, noEqual, noDot⟩ := blank_cases blank
  cases tail with
  | nil => simp [noSlash, noStar, noEqual, noDot, sign]
  | cons second tail =>
      rw [List.cons_append]
      rw [sign_cons] at stops closed ⊢
      rw [sign_cons]
      split
      · rename_i comment
        rw [if_pos comment] at stops
        rcases stops with ⟨kind, token⟩ | rfl
        · cases token
        · exact lineComment_before_lineFeed tail
      rename_i noLineComment
      split
      · rename_i comment
        rw [if_neg noLineComment, if_pos comment] at closed
        exact blockComment_of_closed closed
      · rfl

/-- A lexeme that is visible ends before a separator: before every blank if it
is a token, and before a line feed unless it is an unfinished block comment. -/
theorem first_before (visible : isBlank head = false)
    (blank : isBlank separator = true)
    (stops : (∃ kind, (first head tail).reading = .token kind) ∨
      separator = '\n')
    (closed : (first head tail).reading ≠ .flawed .unterminatedComment) :
    first head (tail ++ separator :: rest) = first head tail := by
  obtain ⟨noDigit, noWord, _⟩ := blank_cases blank
  by_cases digit : head.isDigit = true
  · rw [first_of_digit digit, first_of_digit digit, takeWhile_before noDigit]
  by_cases letter : head.isAlpha = true
  · rw [first_of_letter letter, first_of_letter letter,
      takeWhile_before noWord]
  by_cases quote : head = '"'
  · subst quote
    exact string_before stops
  have isSign : ∀ tail, first head tail = sign head tail := fun tail =>
    first_of_sign visible (Bool.eq_false_iff.2 digit)
      (Bool.eq_false_iff.2 letter) quote
  rw [isSign] at stops closed
  rw [isSign, isSign]
  exact sign_before blank stops closed

/-- Cutting a text with a separator in it begins as if the text ended there. -/
theorem lexemes_before (visible : isBlank head = false)
    (blank : isBlank separator = true)
    (stops : (∃ kind, (first head tail).reading = .token kind) ∨
      separator = '\n')
    (closed : (first head tail).reading ≠ .flawed .unterminatedComment) :
    lexemes (head :: (tail ++ separator :: rest)) =
      first head tail :: lexemes (behind head tail ++ separator :: rest) := by
  have cut : first head (tail ++ separator :: rest) = first head tail :=
    first_before visible blank stops closed
  have onward : behind head (tail ++ separator :: rest) =
      behind head tail ++ separator :: rest := by
    apply behind_of_text cut
    rw [← List.append_assoc, text_append_behind, List.cons_append]
  rw [lexemes_cons, cut, onward]

end Lexeme

/-! ## The tokens of the lexemes -/

/-- The token that a lexeme gives at a position, if it is not skipped. -/
def Lexeme.tokensAt (position : Position) (lexeme : Lexeme) : List Token :=
  (lexeme.kind?.map (Token.mk · position)).toList

namespace Token

theorem ofLexemes_cons (position : Position) (lexeme : Lexeme)
    (following : List Lexeme) :
    ofLexemes position (lexeme :: following) =
      lexeme.tokensAt position ++
        ofLexemes (position.past lexeme.text) following := by
  rw [ofLexemes, Lexeme.tokensAt]
  cases lexeme.kind? with
  | none => rfl
  | some kind => rfl

/-- A blank at the beginning of a text only moves what follows it. -/
theorem ofLexemes_blank {head : Char} (blank : Lexeme.isBlank head = true)
    (position : Position) (tail : List Char) :
    ofLexemes position (lexemes (head :: tail)) =
      ofLexemes (position.next head) (lexemes tail) := by
  -- Both sides go on behind the blanks, which the tail may begin with too.
  have skip : ∀ position character others,
      Lexeme.isBlank character = true →
      ofLexemes position (lexemes (character :: others)) =
        ofLexemes (position.past (character :: others.takeWhile Lexeme.isBlank))
          (lexemes (others.dropWhile Lexeme.isBlank)) := by
    intro position character others blank
    have cut : Lexeme.first character others =
        ⟨character :: others.takeWhile Lexeme.isBlank, .skipped⟩ :=
      Lexeme.first_of_blank blank
    have rest : Lexeme.behind character others =
        others.dropWhile Lexeme.isBlank := by
      apply Lexeme.behind_of_text cut
      rw [List.cons_append, List.takeWhile_append_dropWhile]
    rw [lexemes_cons, cut, rest, ofLexemes_cons]
    rfl
  rw [skip position head tail blank, Position.past_cons]
  cases tail with
  | nil => rfl
  | cons second others =>
      by_cases again : Lexeme.isBlank second = true
      · rw [skip _ second others again, List.takeWhile_cons_of_pos again,
          List.dropWhile_cons_of_pos again]
      · rw [List.takeWhile_cons_of_neg again, List.dropWhile_cons_of_neg again,
          Position.past_nil]

theorem map_kind_ofLexemes (position : Position) (lexemes : List Lexeme) :
    (ofLexemes position lexemes).map Token.kind =
      lexemes.filterMap Lexeme.kind? ++ [.endOfInput] := by
  induction lexemes generalizing position with
  | nil => rfl
  | cons lexeme following induction =>
      rw [ofLexemes_cons, List.map_append, induction, Lexeme.tokensAt,
        List.filterMap_cons]
      cases lexeme.kind? with
      | none => rfl
      | some kind => rfl

theorem exists_end_of_scan (source : String) :
    ∃ token ∈ scan source, token.kind = .endOfInput := by
  have kinds := map_kind_ofLexemes .start (lexemes source.toList)
  apply List.mem_map.1
  rw [scan, kinds]
  exact List.mem_append_right _ (List.mem_singleton.2 rfl)

end Token

end TinyImp
