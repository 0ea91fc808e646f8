import TinyImp.Proofs.Numerals
import TinyImp.Proofs.Token.Lines

/-!
# Lexemes tile the text

The lexemes of a text stand side by side and cover it: no character is left
out and none is taken twice.  `Lexeme.Fits` says what each of them is, by its
own text and the text behind it and without the scanner: a token is the
longest beginning of what is left that any pattern matches, something to skip
is blanks or a comment, and a flaw is one of five things that can go wrong.
`Lexeme.StandsFor` says which token it gives: none if it is skipped, and for a
flaw one that says in words what is wrong.
-/

namespace TinyImp

namespace Text

/-- The characters that a message writes with a backslash, and what it writes
behind it. -/
def backslashed : List (Char × Char) :=
  [('\x00', '0'), ('\t', 't'), ('\r', 'r'), ('\n', 'n'), ('\\', '\\'),
    ('"', '"'), ('\x27', '\x27')]

/-- A character in a message: with a backslash, as it is, or by its number if
it cannot be seen on its own. -/
def shown (character : Char) : List Char :=
  match backslashed.lookup character with
  | some written => ['\\', written]
  | none =>
      if showsAlone character then [character]
      else '\\' :: 'u' :: '\x7b' :: (Nat.toDigits 16 character.toNat ++ ['\x7d'])

theorem shown_eq_escapedAlone (character : Char) :
    shown character = escapedAlone character := by
  by_cases listed : character ∈ backslashed.map Prod.fst
  · simp only [backslashed, List.map_cons, List.map_nil, List.mem_cons,
      List.not_mem_nil, or_false] at listed
    rcases listed with rfl | rfl | rfl | rfl | rfl | rfl | rfl
    all_goals rfl
  · have unlisted : backslashed.lookup character = none := by
      rw [List.lookup_eq_none_iff]
      intro entry member
      apply bne_iff_ne.2
      rintro rfl
      exact listed (List.mem_map_of_mem member)
    simp only [backslashed, List.map_cons, List.map_nil, List.mem_cons,
      List.not_mem_nil, or_false, not_or] at listed
    simp [shown, unlisted, escapedAlone, escaped, listed, byCodePoint,
      hexDigits]

end Text

/-- More digits than one, the first of them a zero. -/
def LeadingZero (digits : List Char) : Prop :=
  ∃ second others, digits = '0' :: second :: others

/-- All the digits up to where none follows. -/
structure DigitRun (digits rest : List Char) : Prop where
  matched : Pattern.digits.Matches digits
  whole : ∀ next ∈ rest.head?, next.isDigit = false

namespace TokenKind

/-- How the text of a token tells its kind.  A reserved word is no name. -/
inductive WrittenAs : TokenKind → List Char → Prop where
  | fixed {kind : TokenKind} :
      kind ∈ fixedKinds → WrittenAs kind kind.spelling.toList
  | name {name : String} : IsName name → WrittenAs (.ident name) name.toList
  | number {value : Integer} {digits : List Char} :
      Pattern.digits.Matches digits →
      ¬ LeadingZero digits →
      value.value = Integer.placeValue digits →
      WrittenAs (.intLiteral value) digits
  | string {parts : List StringPart} :
      (∀ part ∈ parts, part.Proper) →
      WrittenAs (.stringLiteral (String.ofList (parts.map StringPart.value)))
        (closedString parts)

end TokenKind

/-- Nothing longer than `text` that a pattern matches stands at its place. -/
def Pattern.Longest (text rest : List Char) : Prop :=
  ∀ (pattern : Pattern) (matched : List Char), pattern.Matches matched →
    matched <+: text ++ rest → matched.length ≤ text.length

/-- What a flaw says about a piece of text and the text behind it. -/
def Flaw.Describes : Flaw → List Char → List Char → Prop
  | .unrecognized, text, rest =>
      (∃ character, text = [character]) ∧
        ∀ (pattern : Pattern) (matched : List Char), pattern.Matches matched →
          ¬ matched <+: text ++ rest
  | .leadingZero, text, rest => DigitRun text rest ∧ LeadingZero text
  | .outOfRange, text, rest =>
      DigitRun text rest ∧ ¬ LeadingZero text ∧
        9223372036854775808 ≤ Integer.placeValue text
  | .unterminatedString, text, rest =>
      (∃ line, text = '"' :: line ∧ ∀ character ∈ line,
          character ≠ '\n' ∧ character ≠ '\r') ∧
        (∀ next ∈ rest.head?, next = '\n' ∨ next = '\r') ∧
        ∀ parts, (∀ part ∈ parts, StringPart.Proper part) →
          ¬ closedString parts <+: text ++ rest
  | .unterminatedComment, text, rest =>
      ∃ following, text = '/' :: '*' :: following ∧ rest = [] ∧
        ¬ ['*', '/'] <:+: following

namespace Lexeme

/-- What a lexeme is, told by its text and the text behind it. -/
inductive Fits : Lexeme → List Char → Prop where
  | blanks {text rest : List Char} :
      Pattern.blanks.Matches text →
      (∀ next ∈ rest.head?, next ∉ [' ', '\t', '\r', '\n', '\x0c']) →
      Fits ⟨text, .skipped⟩ rest
  | lineComment {body rest : List Char} :
      '\n' ∉ body →
      (∀ next ∈ rest.head?, next = '\n') →
      Fits ⟨'/' :: '/' :: body, .skipped⟩ rest
  | blockComment {body rest : List Char} :
      ¬ ['*', '/'] <:+: body ++ ['*'] →
      Fits ⟨'/' :: '*' :: (body ++ ['*', '/']), .skipped⟩ rest
  | token {kind : TokenKind} {text rest : List Char} :
      kind.WrittenAs text →
      Pattern.Longest text rest →
      Fits ⟨text, .token kind⟩ rest
  | flawed {flaw : Flaw} {text rest : List Char} :
      flaw.Describes text rest →
      (∀ other : Flaw, other.Describes text rest → other = flaw) →
      Fits ⟨text, .flawed flaw⟩ rest

/-- Pieces that stand side by side, cover a text and are each what they have
to be at their place. -/
inductive Tiles : List Lexeme → List Char → Prop where
  | nil : Tiles [] []
  | cons {lexeme : Lexeme} {following : List Lexeme} {rest : List Char} :
      lexeme.text ≠ [] →
      lexeme.Fits rest →
      Tiles following rest →
      Tiles (lexeme :: following) (lexeme.text ++ rest)

/-- The kind of token that a lexeme stands for, if it is not skipped.  A flaw
stands for an error that says in words what is wrong. -/
inductive StandsFor : Lexeme → Option TokenKind → Prop where
  | skipped {text : List Char} : StandsFor ⟨text, .skipped⟩ none
  | token {text : List Char} {kind : TokenKind} :
      StandsFor ⟨text, .token kind⟩ (some kind)
  | unrecognized {character : Char} :
      StandsFor ⟨[character], .flawed .unrecognized⟩
        (some (.invalid
          s!"unrecognized character '{String.ofList (Text.shown character)}'"))
  | leadingZero {digits : List Char} :
      StandsFor ⟨digits, .flawed .leadingZero⟩
        (some (.invalid
          s!"integer literal {String.ofList digits} has a leading zero"))
  | outOfRange {digits : List Char} :
      StandsFor ⟨digits, .flawed .outOfRange⟩
        (some (.invalid
          s!"integer literal {String.ofList digits} is out of range"))
  | unterminatedString {text : List Char} :
      StandsFor ⟨text, .flawed .unterminatedString⟩
        (some (.invalid "unterminated string literal"))
  | unterminatedComment {text : List Char} :
      StandsFor ⟨text, .flawed .unterminatedComment⟩
        (some (.invalid "unterminated block comment"))

end Lexeme

/-- The place behind a text: the number of its lines, and one more than the
characters of the last of them. -/
def Position.reached (text : List Char) : Position :=
  ⟨1 + text.count '\n', 1 + (text.reverse.takeWhile (· != '\n')).length⟩

/-- The tokens of lexemes that stand side by side behind a text.  Each token is
at the place up to which the text in front of its lexeme reaches. -/
inductive Token.OfPieces : List Char → List Lexeme → List Token → Prop where
  | nil {before : List Char} : OfPieces before [] []
  | skipped {before : List Char} {piece : Lexeme} {pieces : List Lexeme}
      {tokens : List Token} :
      piece.StandsFor none →
      OfPieces (before ++ piece.text) pieces tokens →
      OfPieces before (piece :: pieces) tokens
  | token {before : List Char} {piece : Lexeme} {pieces : List Lexeme}
      {kind : TokenKind} {tokens : List Token} :
      piece.StandsFor (some kind) →
      OfPieces (before ++ piece.text) pieces tokens →
      OfPieces before (piece :: pieces)
        (⟨kind, Position.reached before⟩ :: tokens)

/-! ## A piece of text has one flaw at most -/

theorem DigitRun.head {digits rest : List Char} (run : DigitRun digits rest) :
    ∃ head tail, digits = head :: tail ∧ head.isDigit = true := by
  obtain ⟨⟨nonempty, all⟩, _⟩ := run
  cases digits with
  | nil => exact absurd rfl nonempty
  | cons head tail => exact ⟨head, tail, rfl, all head List.mem_cons_self⟩

namespace Flaw

variable {text rest : List Char}

/-- The first character of a flaw, if any pattern matches there. -/
def Marks : Flaw → Char → Prop
  | .unrecognized, _ => False
  | .leadingZero, head | .outOfRange, head => head.isDigit = true
  | .unterminatedString, head => head = '"'
  | .unterminatedComment, head => head = '/'

theorem Describes.marks {flaw : Flaw} (described : flaw.Describes text rest) :
    (flaw = .unrecognized ∧ ∀ (pattern : Pattern) (matched : List Char),
        pattern.Matches matched → ¬ matched <+: text ++ rest) ∨
      (∃ head tail, text = head :: tail ∧ flaw.Marks head) ∧
        ∃ (pattern : Pattern) (matched : List Char),
          pattern.Matches matched ∧ matched <+: text ++ rest := by
  cases flaw with
  | unrecognized => exact .inl ⟨rfl, described.2⟩
  | leadingZero =>
      exact .inr ⟨described.1.head, .digits, text, described.1.matched,
        List.prefix_append ..⟩
  | outOfRange =>
      exact .inr ⟨described.1.head, .digits, text, described.1.matched,
        List.prefix_append ..⟩
  | unterminatedString =>
      obtain ⟨⟨line, rfl, _⟩, _⟩ := described
      refine .inr ⟨⟨'"', line, rfl, rfl⟩, .string, ['"'], ?_, ?_⟩
      · exact ⟨[], by simp, [], by simp, rfl⟩
      · exact ⟨line ++ rest, rfl⟩
  | unterminatedComment =>
      obtain ⟨following, rfl, _, _⟩ := described
      exact .inr ⟨⟨'/', '*' :: following, rfl, rfl⟩, .commentOpening,
        ['/', '*'], rfl, following ++ rest, rfl⟩

theorem Describes.unique {left right : Flaw}
    (first : left.Describes text rest) (second : right.Describes text rest) :
    left = right := by
  rcases first.marks with ⟨rfl, nothing⟩ | ⟨⟨head, tail, rfl, mark⟩, pattern,
    matched, matching, begins⟩
  · rcases second.marks with ⟨rfl, _⟩ | ⟨_, pattern, matched, matching, begins⟩
    · rfl
    · exact absurd begins (nothing pattern matched matching)
  · rcases second.marks with ⟨rfl, nothing⟩ | ⟨⟨_, _, same, otherMark⟩, _⟩
    · exact absurd begins (nothing pattern matched matching)
    · obtain ⟨rfl, rfl⟩ := List.cons.inj same
      cases left <;> cases right <;> simp_all [Marks, Describes]

end Flaw

/-! ## The first lexeme fits -/

namespace Lexeme

open Pattern TokenKind

variable {head : Char} {tail text rest : List Char}

theorem Fits.of_flaw {flaw : Flaw} (described : flaw.Describes text rest) :
    Fits ⟨text, .flawed flaw⟩ rest :=
  .flawed described fun _ other => other.unique described

theorem longest_of_opens (split : text ++ rest = head :: tail)
    (bounded : ∀ matched, Opens head tail matched →
      matched.length ≤ text.length) : Longest text rest := by
  intro pattern matched matching begins
  rw [split] at begins
  exact bounded matched (matching.opens begins)

theorem head?_dropWhile {continues : Char → Bool} {next : Char}
    (first : next ∈ (text.dropWhile continues).head?) :
    continues next = false := by
  have stops := List.head?_dropWhile_not continues text
  rw [Option.mem_def.1 first] at stops
  exact stops

/-- What follows a lexeme that is a run of characters. -/
theorem behind_of_run {continues : Char → Bool} {lexeme : Lexeme}
    (cut : first head tail = lexeme)
    (run : lexeme.text = head :: tail.takeWhile continues) :
    behind head tail = tail.dropWhile continues := by
  apply behind_of_text cut
  rw [run, List.cons_append, List.takeWhile_append_dropWhile]

theorem fits_of_blank (blank : isBlank head = true) :
    (first head tail).Fits (tail.dropWhile isBlank) := by
  rw [first_of_blank blank]
  refine .blanks ⟨List.cons_ne_nil _ _, ?_⟩ ?_
  · apply List.forall_mem_cons.2 ⟨isBlank_iff.1 blank, ?_⟩
    intro character member
    exact isBlank_iff.1 (List.all_eq_true.1 List.all_takeWhile character member)
  · intro next isNext again
    have stops := head?_dropWhile isNext
    rw [isBlank_iff.2 again] at stops
    cases stops

theorem leadingZero_iff {digits : List Char} :
    LeadingZero digits ↔ 1 < digits.length ∧ digits.head? = some '0' := by
  constructor
  · intro zero
    obtain ⟨second, others, rfl⟩ := zero
    exact ⟨by simp, rfl⟩
  · intro given
    obtain ⟨long, zero⟩ := given
    match digits with
    | first :: second :: others =>
        cases zero
        exact ⟨second, others, rfl⟩

/-- What a row of digits is: it has a leading zero, it is the literal of its
number, or its number is out of range. -/
theorem number_cases {digits : List Char}
    (all : ∀ digit ∈ digits, digit.isDigit = true) :
    LeadingZero digits ∧ number digits = ⟨digits, .flawed .leadingZero⟩ ∨
      ¬ LeadingZero digits ∧
        ((∃ value : Integer, value.value = Integer.placeValue digits ∧
            number digits = ⟨digits, .token (.intLiteral value)⟩) ∨
          9223372036854775808 ≤ Integer.placeValue digits ∧
            number digits = ⟨digits, .flawed .outOfRange⟩) := by
  rw [number]
  by_cases zero : LeadingZero digits
  · rw [if_pos (leadingZero_iff.1 zero)]
    exact .inl ⟨zero, rfl⟩
  · rw [if_neg (fun given => zero (leadingZero_iff.2 given)),
      Integer.decimal_eq_placeValue all]
    refine .inr ⟨zero, ?_⟩
    cases value : Integer.ofInt? (Integer.placeValue digits) with
    | some integer =>
        exact .inl ⟨integer, Integer.ofInt?_eq_some_iff.1 value, rfl⟩
    | none =>
        have outside := Integer.ofInt?_eq_none_iff.1 value
        exact .inr ⟨by omega, rfl⟩

theorem number_fits {digits : List Char} (run : DigitRun digits rest)
    (longest : Longest digits rest) : (number digits).Fits rest := by
  rcases number_cases run.matched.2 with
    ⟨zero, cut⟩ | ⟨noZero, ⟨value, exactly, cut⟩ | ⟨above, cut⟩⟩
  · rw [cut]
    exact .of_flaw ⟨run, zero⟩
  · rw [cut]
    exact .token (.number run.matched noZero exactly) longest
  · rw [cut]
    exact .of_flaw ⟨run, noZero, above⟩

theorem fits_of_digit (digit : head.isDigit = true) :
    (first head tail).Fits (tail.dropWhile Char.isDigit) := by
  have all : ∀ character ∈ head :: tail.takeWhile Char.isDigit,
      character.isDigit = true :=
    List.forall_mem_cons.2 ⟨digit, List.all_eq_true.1 List.all_takeWhile⟩
  rw [first_of_digit digit]
  apply number_fits
  · refine ⟨⟨List.cons_ne_nil _ _, all⟩, ?_⟩
    intro next isNext
    exact head?_dropWhile isNext
  · apply longest_of_opens
    · exact congrArg (head :: ·) List.takeWhile_append_dropWhile
    intro matched opens
    cases opens with
    | digits _ within => exact within.length_le
    | symbol _ _ alone =>
        rw [alone]
        exact Nat.le_add_left ..
    | blanks blank => simp [not_blank_of_digit digit] at blank
    | word letter => simp [not_digit_of_letter letter] at digit
    | string quote => simp [quote] at digit
    | comment slash => simp [slash] at digit
    | assign colon => simp [colon] at digit
    | range dot => simp [dot] at digit

theorem writtenAs_of_reserved? {word : String} {kind : TokenKind}
    (reserved : reserved? word = some kind) : kind.WrittenAs word.toList := by
  unfold reserved? at reserved
  split at reserved
  case h_12 => cases reserved
  all_goals
    cases reserved
    exact .fixed (by decide)

theorem writtenAs_of_symbol? {character : Char} {kind : TokenKind}
    (known : symbol? character = some kind) : kind.WrittenAs [character] := by
  unfold symbol? at known
  split at known
  case h_13 => cases known
  all_goals
    cases known
    exact .fixed (by decide)

theorem word_fits (letter : head.isAlpha = true)
    (others : ∀ character ∈ tail, isWordCharacter character = true)
    (longest : Longest (head :: tail) rest) :
    (word (head :: tail)).Fits rest := by
  have spelled : (String.ofList (head :: tail)).toList = head :: tail :=
    String.toList_ofList
  unfold word
  cases reserved : reserved? (String.ofList (head :: tail)) with
  | some kind =>
      have written := writtenAs_of_reserved? reserved
      rw [spelled] at written
      simp only [reserved]
      exact .token written longest
  | none =>
      have written : (TokenKind.ident (String.ofList (head :: tail))).WrittenAs
          (String.ofList (head :: tail)).toList := by
        refine .name ⟨⟨head, tail, spelled, letter, ?_⟩,
          reserved?_eq_none_iff.1 reserved⟩
        intro character member
        exact isWordCharacter_iff.1 (others character member)
      rw [spelled] at written
      simp only [reserved]
      exact .token written longest

theorem fits_of_letter (letter : head.isAlpha = true) :
    (first head tail).Fits (tail.dropWhile isWordCharacter) := by
  rw [first_of_letter letter]
  apply word_fits letter (List.all_eq_true.1 List.all_takeWhile)
  apply longest_of_opens
  · exact congrArg (head :: ·) List.takeWhile_append_dropWhile
  intro matched opens
  cases opens with
  | word _ within => exact within.length_le
  | symbol _ _ alone =>
      rw [alone]
      exact Nat.le_add_left ..
  | blanks blank => simp [not_blank_of_letter letter] at blank
  | digits digit => simp [not_digit_of_letter letter] at digit
  | string quote => simp [quote] at letter
  | comment slash => simp [slash] at letter
  | assign colon => simp [colon] at letter
  | range dot => simp [dot] at letter

theorem longest_of_quote (split : (string tail).text ++ rest = '"' :: tail) :
    Longest (string tail).text rest := by
  apply longest_of_opens split
  intro matched opens
  cases opens with
  | string _ within => exact within
  | symbol _ _ alone =>
      rw [alone]
      exact Nat.le_add_left ..
  | blanks blank => cases blank
  | digits digit => cases digit
  | word letter => cases letter
  | comment slash => cases slash
  | assign colon => cases colon
  | range dot => cases dot

theorem closed_of_begins {parts : List StringPart}
    (proper : ∀ part ∈ parts, part.Proper)
    (begins : closedString parts <+: '"' :: tail) :
    (stringBody tail).value = some (parts.map StringPart.value) := by
  obtain ⟨_, others, rfl⟩ := List.cons_prefix_cons.1 begins
  rw [List.append_assoc, stringBody_parts proper, List.singleton_append,
    stringBody_quote]
  simp

theorem fits_of_quote (split : (string tail).text ++ rest = '"' :: tail) :
    (string tail).Fits rest := by
  have longest := longest_of_quote split
  cases closed : (stringBody tail).value with
  | some value =>
      obtain ⟨parts, proper, text, rfl⟩ := exists_parts_of_closed closed
      rw [string, closed, text] at longest ⊢
      exact .token (.string proper) longest
  | none =>
      have line := stringBody_text_of_open closed
      have behind : rest =
          tail.dropWhile fun character => !isLineEnd character := by
        have split := (List.cons.inj split).2
        rw [line] at split
        exact List.append_cancel_left
          (split.trans List.takeWhile_append_dropWhile.symm)
      rw [string, closed] at split ⊢
      refine .of_flaw ⟨⟨(stringBody tail).text, rfl, ?_⟩, ?_, ?_⟩
      · intro character member
        rw [line] at member
        have inLine := List.all_eq_true.1 List.all_takeWhile character member
        exact isLineEnd_eq_false_iff.1 (by simpa using inLine)
      · intro next isNext
        rw [behind] at isNext
        have ends := head?_dropWhile isNext
        simpa only [isLineEnd, Bool.not_eq_eq_eq_not, Bool.not_false,
          Bool.or_eq_true, beq_iff_eq] using ends
      · intro parts proper begins
        rw [split] at begins
        rw [closed_of_begins proper begins] at closed
        cases closed

/-! ### Comments and symbols -/

theorem not_infix_of_throughClose? {following : List Char}
    (unclosed : throughClose? following = none) :
    ¬ ['*', '/'] <:+: following := by
  fun_induction throughClose? following with
  | case1 => simp
  | case2 head tail closes => cases unclosed
  | case3 head tail goesOn induction =>
      rw [List.infix_cons_iff]
      intro found
      rcases found with here | later
      · obtain ⟨star, slash⟩ := List.cons_prefix_cons.1 here
        exact goesOn ⟨star.symm, head?_of_begins slash⟩
      · exact induction (Option.map_eq_none_iff.1 unclosed) later

/-- A block comment ends with the first mark that can close it. -/
theorem exists_body_of_throughClose? {following through : List Char}
    (found : throughClose? following = some through) :
    ∃ body, through = body ++ ['*', '/'] ∧
      ¬ ['*', '/'] <:+: body ++ ['*'] := by
  fun_induction throughClose? following generalizing through with
  | case1 => cases found
  | case2 head tail closes =>
      cases found
      exact ⟨[], rfl, by decide⟩
  | case3 head tail goesOn induction =>
      obtain ⟨inner, innerFound, rfl⟩ := Option.map_eq_some_iff.1 found
      obtain ⟨body, rfl, none⟩ := induction innerFound
      refine ⟨head :: body, rfl, ?_⟩
      rw [List.cons_append, List.infix_cons_iff]
      intro earlier
      rcases earlier with here | later
      · -- the slash stands in the body, for the last character is a star
        obtain ⟨star, slash⟩ := List.cons_prefix_cons.1 here
        apply goesOn ⟨star.symm, ?_⟩
        have begins := throughClose?_prefix innerFound
        cases body with
        | nil => simp at slash
        | cons second others =>
            obtain ⟨rfl, _⟩ := List.cons_prefix_cons.1 slash
            exact head?_of_begins begins
      · exact none later

theorem lineComment_fits {following : List Char}
    (split : (lineComment following).text ++ rest = '/' :: '/' :: following) :
    (lineComment following).Fits rest := by
  have behind : rest = following.dropWhile (· != '\n') := by
    have split := (List.cons.inj (List.cons.inj split).2).2
    exact List.append_cancel_left
      (split.trans List.takeWhile_append_dropWhile.symm)
  apply Fits.lineComment
  · intro member
    have inLine := List.all_eq_true.1 List.all_takeWhile _ member
    simp at inLine
  · intro next isNext
    rw [behind] at isNext
    simpa using head?_dropWhile isNext

theorem blockComment_fits {following : List Char}
    (split : (blockComment following).text ++ rest = '/' :: '*' :: following) :
    (blockComment following).Fits rest := by
  unfold blockComment at split ⊢
  cases found : throughClose? following with
  | some through =>
      obtain ⟨body, rfl, none⟩ := exists_body_of_throughClose? found
      exact .blockComment none
  | none =>
      rw [found] at split
      have nothing : rest = [] := by simpa using split
      exact .of_flaw
        ⟨following, rfl, nothing, not_infix_of_throughClose? found⟩

theorem sign_nil (head : Char) : sign head [] = single head := by
  unfold sign
  split <;> simp_all

theorem single_fits (alone : ∀ matched, Opens head rest matched →
    matched = [head] ∧ ∃ kind, symbol? head = some kind) :
    (single head).Fits rest := by
  rw [single]
  cases known : symbol? head with
  | some kind =>
      refine .token (writtenAs_of_symbol? known) (longest_of_opens rfl ?_)
      intro matched opens
      exact Nat.le_of_eq (congrArg List.length (alone matched opens).1)
  | none =>
      refine .of_flaw ⟨⟨head, rfl⟩, ?_⟩
      intro pattern matched matching begins
      obtain ⟨_, kind, found⟩ := alone matched (matching.opens begins)
      rw [known] at found
      cases found

theorem sign_fits (visible : isBlank head = false)
    (noDigit : head.isDigit = false) (noLetter : head.isAlpha = false)
    (noQuote : head ≠ '"') (split : (sign head tail).text ++ rest = head :: tail) :
    (sign head tail).Fits rest := by
  -- a symbol or a flaw of one character, if no second character joins it
  have lone (single : sign head tail = single head)
      (noComment : head = '/' → tail.head? ≠ some '/' ∧ tail.head? ≠ some '*')
      (noAssign : head = ':' → tail.head? ≠ some '=')
      (noRange : head = '.' → tail.head? ≠ some '.') :
      (sign head tail).Fits rest := by
    rw [single] at split ⊢
    obtain rfl : rest = tail := (List.cons.inj split).2
    apply single_fits
    intro matched opens
    cases opens with
    | symbol kind known alone => exact ⟨alone, kind, known⟩
    | blanks blank => simp [visible] at blank
    | digits digit => simp [noDigit] at digit
    | word letter => simp [noLetter] at letter
    | string quote => exact absurd quote noQuote
    | comment slash second =>
        obtain ⟨noLine, noBlock⟩ := noComment slash
        rcases second with line | block
        · exact absurd line noLine
        · exact absurd block noBlock
    | assign colon second => exact absurd second (noAssign colon)
    | range dot second => exact absurd second (noRange dot)
  -- a token of two characters, of which the first begins no comment
  have pair (kind : TokenKind) (first second : Char) (same : head = first)
      (noSlash : first ≠ '/')
      (written : kind.WrittenAs [first, second])
      (cut : sign head tail = ⟨[first, second], .token kind⟩) :
      (sign head tail).Fits rest := by
    rw [cut] at split ⊢
    refine .token written (longest_of_opens split ?_)
    intro matched opens
    cases opens with
    | assign _ _ both => simp [both]
    | range _ _ both => simp [both]
    | symbol _ _ alone => simp [alone]
    | blanks blank => simp [visible] at blank
    | digits digit => simp [noDigit] at digit
    | word letter => simp [noLetter] at letter
    | string quote => exact absurd quote noQuote
    | comment slash => exact absurd (same.symm.trans slash) noSlash
  cases tail with
  | nil => exact lone (sign_nil head) (by simp) (by simp) (by simp)
  | cons second tail =>
      have cut : sign head (second :: tail) = _ := sign_cons second
      by_cases isLine : head = '/' ∧ second = '/'
      · obtain ⟨rfl, rfl⟩ := isLine
        exact lineComment_fits split
      rw [if_neg isLine] at cut
      by_cases isBlock : head = '/' ∧ second = '*'
      · obtain ⟨rfl, rfl⟩ := isBlock
        exact blockComment_fits split
      rw [if_neg isBlock] at cut
      by_cases isAssign : head = ':' ∧ second = '='
      · rw [if_pos isAssign] at cut
        exact pair .assign ':' '=' isAssign.1 (by decide)
          (.fixed (by decide)) cut
      rw [if_neg isAssign] at cut
      by_cases isRange : head = '.' ∧ second = '.'
      · rw [if_pos isRange] at cut
        exact pair .range '.' '.' isRange.1 (by decide)
          (.fixed (by decide)) cut
      rw [if_neg isRange] at cut
      apply lone cut
      · intro slash
        simp only [List.head?_cons, ne_eq, Option.some.injEq]
        exact ⟨fun line => isLine ⟨slash, line⟩,
          fun block => isBlock ⟨slash, block⟩⟩
      · intro colon same
        exact isAssign ⟨colon, Option.some.inj same⟩
      · intro dot same
        exact isRange ⟨dot, Option.some.inj same⟩

/-- The first lexeme of a text is what it has to be in front of the rest. -/
theorem first_fits (head : Char) (tail : List Char) :
    (first head tail).Fits (behind head tail) := by
  have split := text_append_behind head tail
  by_cases blank : isBlank head = true
  · rw [behind_of_run (first_of_blank blank) rfl]
    exact fits_of_blank blank
  by_cases digit : head.isDigit = true
  · rw [behind_of_run (first_of_digit digit) rfl]
    exact fits_of_digit digit
  by_cases letter : head.isAlpha = true
  · rw [behind_of_run (first_of_letter letter) rfl]
    exact fits_of_letter letter
  by_cases quote : head = '"'
  · subst quote
    exact fits_of_quote split
  have visible := Bool.eq_false_iff.2 blank
  have noDigit := Bool.eq_false_iff.2 digit
  have noLetter := Bool.eq_false_iff.2 letter
  rw [first_of_sign visible noDigit noLetter quote] at split ⊢
  exact sign_fits visible noDigit noLetter quote split

theorem tiles_lexemes (text : List Char) : Tiles (lexemes text) text := by
  match text with
  | [] => exact .nil
  | head :: tail =>
      have nonempty : (first head tail).text ≠ [] := by
        obtain ⟨taken, text, _⟩ := first_text head tail
        rw [text]
        exact List.cons_ne_nil _ _
      have tiles := Tiles.cons nonempty (first_fits head tail)
        (tiles_lexemes (behind head tail))
      rw [text_append_behind] at tiles
      rw [lexemes_cons]
      exact tiles
termination_by text.length
decreasing_by exact Nat.lt_succ_of_le (length_behind head tail)

theorem Tiles.flatMap_text {pieces : List Lexeme} {text : List Char}
    (tiles : Tiles pieces text) : pieces.flatMap Lexeme.text = text := by
  induction tiles with
  | nil => rfl
  | cons _ _ _ induction => rw [List.flatMap_cons, induction]

/-! ## The tokens of the pieces -/

theorem StandsFor.kind?_eq {lexeme : Lexeme} {token : Option TokenKind}
    (stands : lexeme.StandsFor token) : lexeme.kind? = token := by
  cases stands with
  | unrecognized =>
      rw [Text.shown_eq_escapedAlone]
      rfl
  | _ => rfl

theorem Fits.exists_standsFor {lexeme : Lexeme} (fits : lexeme.Fits rest) :
    ∃ token, lexeme.StandsFor token := by
  cases fits with
  | blanks | lineComment | blockComment => exact ⟨_, .skipped⟩
  | token => exact ⟨_, .token⟩
  | @flawed flaw text rest described =>
      cases flaw with
      | unrecognized =>
          obtain ⟨⟨character, rfl⟩, _⟩ := described
          exact ⟨_, .unrecognized⟩
      | leadingZero => exact ⟨_, .leadingZero⟩
      | outOfRange => exact ⟨_, .outOfRange⟩
      | unterminatedString => exact ⟨_, .unterminatedString⟩
      | unterminatedComment => exact ⟨_, .unterminatedComment⟩

end Lexeme

theorem Position.reached_eq_past (text : List Char) :
    Position.reached text = Position.start.past text := by
  rw [reached, ← start_past_column]
  exact congrArg (Position.mk · _) (past_line start text).symm

namespace Token

theorem exists_ofPieces {pieces : List Lexeme} {text : List Char}
    (tiles : Lexeme.Tiles pieces text) (before : List Char) :
    ∃ tokens, OfPieces before pieces tokens := by
  induction tiles generalizing before with
  | nil => exact ⟨[], .nil⟩
  | @cons piece pieces rest _ fits _ induction =>
      obtain ⟨others, following⟩ := induction (before ++ piece.text)
      obtain ⟨token, stands⟩ := fits.exists_standsFor
      cases token with
      | none => exact ⟨others, .skipped stands following⟩
      | some kind => exact ⟨_, .token stands following⟩

/-- What is scanned behind a text are the tokens of the pieces there. -/
theorem OfPieces.ofLexemes_eq {before : List Char} {pieces : List Lexeme}
    {tokens : List Token} (given : OfPieces before pieces tokens) :
    ofLexemes (Position.start.past before) pieces =
      tokens ++ [⟨.endOfInput,
        Position.reached (before ++ pieces.flatMap Lexeme.text)⟩] := by
  induction given with
  | @nil before =>
      rw [List.flatMap_nil, List.append_nil, Position.reached_eq_past]
      rfl
  | skipped stands _ induction =>
      rw [ofLexemes, stands.kind?_eq, ← Position.past_append, induction,
        List.flatMap_cons, List.append_assoc]
  | @token before piece pieces kind tokens stands _ induction =>
      rw [ofLexemes, stands.kind?_eq, ← Position.past_append, induction,
        List.flatMap_cons, List.append_assoc, Position.reached_eq_past before]
      rfl

/-- Every text is tiled by pieces that each fit in their place, and its tokens
are those of the pieces and no others, followed by the end of the input. -/
theorem scan_tiles (source : String) :
    Lexeme.Tiles (lexemes source.toList) source.toList ∧
      (lexemes source.toList).flatMap Lexeme.text = source.toList ∧
      ∃ tokens, scan source =
          tokens ++ [⟨.endOfInput, Position.reached source.toList⟩] ∧
        ∀ others, OfPieces [] (lexemes source.toList) others ↔
          others = tokens := by
  have tiles := Lexeme.tiles_lexemes source.toList
  have scanned : ∀ others, OfPieces [] (lexemes source.toList) others →
      scan source =
        others ++ [⟨.endOfInput, Position.reached source.toList⟩] := by
    intro others given
    have whole := given.ofLexemes_eq
    rw [List.nil_append, tiles.flatMap_text] at whole
    exact whole
  obtain ⟨tokens, given⟩ := exists_ofPieces tiles []
  refine ⟨tiles, tiles.flatMap_text, tokens, scanned tokens given, ?_⟩
  intro others
  constructor
  · intro alsoGiven
    have same := scanned others alsoGiven
    rw [scanned tokens given] at same
    exact (List.append_cancel_right same).symm
  · rintro rfl
    exact given

-- A comment ends in front of its line feed, and neither a lone underscore nor a
-- leading zero stops the scanner.
example : scan "a//b\n_07" =
    [⟨.ident "a", ⟨1, 1⟩⟩, ⟨.invalid "unrecognized character '_'", ⟨2, 1⟩⟩,
      ⟨.invalid "integer literal 07 has a leading zero", ⟨2, 2⟩⟩,
      ⟨.endOfInput, ⟨2, 4⟩⟩] := by
  decide +kernel

end Token

end TinyImp
