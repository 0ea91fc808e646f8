import TinyImp.Proofs.Token.Tiling

/-!
# Where a string literal ends

What follows an opening quotation mark is looked at up to the end of the line,
part by part, and the first quotation mark that is no part of an escape closes
the literal.  If there is none, the whole line is a flaw.

How far a literal reaches and what it stands for can be told apart: the one is
the longest text that a pattern matches, and the other is decoded from that
text alone, whatever follows it.  Both end at the same quotation mark.
-/

namespace TinyImp

/-- The characters up to the end of the line. -/
def lineOf (text : List Char) : List Char :=
  text.takeWhile fun character => character != '\n' && character != '\r'

/-- The text from the end of the line on. -/
def beyondLine (text : List Char) : List Char :=
  text.dropWhile fun character => character != '\n' && character != '\r'

/-- What a text behind an opening quotation mark stands for up to the first
quotation mark that no backslash takes along, and the text behind that. -/
def decodeString? : List Char → Option (List Char × List Char)
  | [] => none
  | head :: tail =>
      if head = '"' then some ([], tail)
      else if head = '\\' then
        match tail with
        | [] => none
        | taken :: rest =>
            (decodeString? rest).map
              (Prod.map ((StringPart.escape taken).value :: ·) id)
      else (decodeString? tail).map (Prod.map (head :: ·) id)

/-- The longest beginning of a text that the pattern of string literals
matches. -/
structure StringSlice (slice text : List Char) : Prop where
  matched : Pattern.string.Matches slice
  begins : slice <+: text
  longest : ∀ other, Pattern.string.Matches other → other <+: text →
    other.length ≤ slice.length

theorem lineOf_append_beyondLine (text : List Char) :
    lineOf text ++ beyondLine text = text :=
  List.takeWhile_append_dropWhile

theorem takeWhile_isLineEnd (text : List Char) :
    (text.takeWhile fun character => !Lexeme.isLineEnd character) =
      lineOf text := by
  rw [lineOf]
  congr 1
  funext character
  exact Bool.not_or _ _

/-! ## Decoding -/

theorem decodeString?_part {part : StringPart} (proper : part.Proper)
    (rest : List Char) :
    decodeString? (part.text ++ rest) =
      (decodeString? rest).map (Prod.map (part.value :: ·) id) := by
  cases part with
  | plain character =>
      obtain ⟨noQuote, noBackslash, _⟩ := proper
      change decodeString? (character :: rest) = _
      rw [decodeString?.eq_def]
      simp only [if_neg noQuote, if_neg noBackslash]
      rfl
  | escape taken => rfl

theorem decodeString?_parts {parts : List StringPart}
    (proper : ∀ part ∈ parts, part.Proper) (rest : List Char) :
    decodeString? (partsText parts ++ rest) =
      (decodeString? rest).map
        (Prod.map (parts.map StringPart.value ++ ·) id) := by
  induction parts with
  | nil =>
      change decodeString? rest = _
      cases decodeString? rest with
      | none => rfl
      | some found => rfl
  | cons part parts induction =>
      obtain ⟨partProper, partsProper⟩ := List.forall_mem_cons.1 proper
      have split : partsText (part :: parts) ++ rest =
          part.text ++ (partsText parts ++ rest) :=
        List.append_assoc ..
      rw [split, decodeString?_part partProper, induction partsProper]
      cases decodeString? rest with
      | none => rfl
      | some found => rfl

/-- A closed string literal is decoded to its end. -/
theorem decodeString?_closed {parts : List StringPart}
    (proper : ∀ part ∈ parts, part.Proper) :
    decodeString? (partsText parts ++ ['"']) =
      some (parts.map StringPart.value, []) := by
  rw [decodeString?_parts proper]
  change some (parts.map StringPart.value ++ [], []) = _
  rw [List.append_nil]

theorem decodeString?_open {parts : List StringPart}
    (proper : ∀ part ∈ parts, part.Proper) {ending : List Char}
    (lacking : ending ∈ [[], ['\\']]) :
    decodeString? (partsText parts ++ ending) = none := by
  rw [decodeString?_parts proper]
  simp only [List.mem_cons, List.not_mem_nil, or_false] at lacking
  rcases lacking with rfl | rfl
  · rfl
  · rfl

/-! ## The slice -/

namespace Lexeme

/-- An unclosed string literal is parts, and perhaps a backslash that takes
nothing along. -/
theorem exists_parts_of_open {following : List Char}
    (unclosed : (stringBody following).value = none) :
    ∃ parts : List StringPart, (∀ part ∈ parts, part.Proper) ∧
      ∃ ending ∈ [[], ['\\']],
        (stringBody following).text = partsText parts ++ ending := by
  fun_induction stringBody following with
  | case1 => exact ⟨[], by simp, [], by simp, rfl⟩
  | case2 rest => cases unclosed
  | case3 head tail _ _ => exact ⟨[], by simp, [], by simp, rfl⟩
  | case4 _ _ => exact ⟨[], by simp, ['\\'], by simp, rfl⟩
  | case5 taken rest _ _ _ => exact ⟨[], by simp, ['\\'], by simp, rfl⟩
  | case6 taken rest inLine _ _ induction =>
      obtain ⟨parts, proper, ending, member, text⟩ :=
        induction (Option.map_eq_none_iff.1 unclosed)
      have takenProper : (StringPart.escape taken).Proper :=
        isLineEnd_eq_false_iff.1 (Bool.eq_false_iff.2 inLine)
      refine ⟨.escape taken :: parts, ?_, ending, member, ?_⟩
      · exact List.forall_mem_cons.2 ⟨takenProper, proper⟩
      · rw [StringBody.after, text]
        rfl
  | case7 head tail noQuote inLine noBackslash induction =>
      obtain ⟨parts, proper, ending, member, text⟩ :=
        induction (Option.map_eq_none_iff.1 unclosed)
      have headProper : (StringPart.plain head).Proper :=
        ⟨noQuote, noBackslash,
          isLineEnd_eq_false_iff.1 (Bool.eq_false_iff.2 inLine)⟩
      refine ⟨.plain head :: parts, ?_, ending, member, ?_⟩
      · exact List.forall_mem_cons.2 ⟨headProper, proper⟩
      · rw [StringBody.after, text]
        rfl

theorem string_matches (tail : List Char) :
    Pattern.string.Matches (string tail).text := by
  cases closed : (stringBody tail).value with
  | some value =>
      obtain ⟨parts, proper, text, _⟩ := exists_parts_of_closed closed
      exact ⟨parts, proper, ['"'], by simp, congrArg ('"' :: ·) text⟩
  | none =>
      obtain ⟨parts, proper, ending, member, text⟩ :=
        exists_parts_of_open closed
      refine ⟨parts, proper, ending, ?_, congrArg ('"' :: ·) text⟩
      simp only [List.mem_cons, List.not_mem_nil, or_false] at member ⊢
      rcases member with rfl | rfl
      · exact .inl rfl
      · exact .inr (.inr rfl)

/-- A string literal reaches as far as the pattern matches. -/
theorem stringSlice_string (tail : List Char) :
    StringSlice (string tail).text ('"' :: tail) := by
  have split : (string tail).text ++ behind '"' tail = '"' :: tail :=
    text_append_behind '"' tail
  refine ⟨string_matches tail, ⟨_, split⟩, ?_⟩
  intro other matched begins
  rw [← split] at begins
  exact longest_of_quote split .string other matched begins

/-- The reading of a string literal is decoded from its text alone, and the
decoding ends where the text does. -/
theorem string_reading (tail : List Char) :
    (∃ value, decodeString? ((string tail).text.drop 1) = some (value, []) ∧
        (string tail).reading =
          .token (.stringLiteral (String.ofList value))) ∨
      decodeString? ((string tail).text.drop 1) = none ∧
        (string tail).reading = .flawed .unterminatedString := by
  have dropped : (string tail).text.drop 1 = (stringBody tail).text := rfl
  rw [dropped, string]
  cases closed : (stringBody tail).value with
  | some value =>
      obtain ⟨parts, proper, text, rfl⟩ := exists_parts_of_closed closed
      rw [text]
      exact .inl ⟨_, decodeString?_closed proper, rfl⟩
  | none =>
      obtain ⟨parts, proper, ending, member, text⟩ :=
        exists_parts_of_open closed
      rw [text]
      exact .inr ⟨decodeString?_open proper member, rfl⟩

/-! ## The line -/

/-- A literal that is closed in its line is taken up to there. -/
theorem string_of_closed {tail after : List Char} {parts : List StringPart}
    (proper : ∀ part ∈ parts, part.Proper)
    (line : lineOf tail = partsText parts ++ '"' :: after) :
    string tail = ⟨closedString parts, .token (.stringLiteral
        (String.ofList (parts.map StringPart.value)))⟩ ∧
      behind '"' tail = after ++ beyondLine tail := by
  have split : tail = partsText parts ++ '"' :: (after ++ beyondLine tail) := by
    calc tail
      _ = lineOf tail ++ beyondLine tail :=
          (lineOf_append_beyondLine tail).symm
      _ = partsText parts ++ '"' :: (after ++ beyondLine tail) := by
          rw [line, List.append_assoc, List.cons_append]
  have body : stringBody tail =
      ⟨partsText parts ++ ['"'], some (parts.map StringPart.value)⟩ := by
    apply (congrArg stringBody split).trans
    rw [stringBody_parts proper, stringBody_quote, Option.map_some,
      List.append_nil]
  have whole : string tail = ⟨closedString parts, .token (.stringLiteral
      (String.ofList (parts.map StringPart.value)))⟩ := by
    rw [string, body]
    rfl
  refine ⟨whole, behind_of_text whole ?_⟩
  apply (congrArg ('"' :: ·) split).trans
  rw [closedString, List.cons_append, List.append_assoc,
    List.singleton_append]

/-- A closed literal stands in one line. -/
theorem closed_in_line {parts : List StringPart}
    (proper : ∀ part ∈ parts, part.Proper) :
    ∀ character ∈ partsText parts ++ ['"'],
      (character != '\n' && character != '\r') = true := by
  intro character member
  rw [Bool.and_eq_true, bne_iff_ne, bne_iff_ne]
  rcases List.mem_append.1 member with inParts | isQuote
  · obtain ⟨part, inside, inText⟩ := List.mem_flatMap.1 inParts
    have partProper := proper part inside
    cases part with
    | plain single =>
        obtain rfl := List.mem_singleton.1 inText
        exact partProper.2.2
    | escape taken =>
        rcases List.mem_cons.1 inText with rfl | isTaken
        · decide
        · obtain rfl := List.mem_singleton.1 isTaken
          exact partProper
  · obtain rfl := List.mem_singleton.1 isQuote
    decide

/-- A literal that is not closed in its line is the line. -/
theorem string_of_open {tail : List Char}
    (unclosed : ∀ parts after, (∀ part ∈ parts, StringPart.Proper part) →
      lineOf tail ≠ partsText parts ++ '"' :: after) :
    string tail = ⟨'"' :: lineOf tail, .flawed .unterminatedString⟩ ∧
      behind '"' tail = beyondLine tail := by
  have none : (stringBody tail).value = none := by
    cases closed : (stringBody tail).value with
    | none => rfl
    | some value =>
        obtain ⟨parts, proper, text, _⟩ := exists_parts_of_closed closed
        have begins := stringBody_text_prefix tail
        rw [text] at begins
        obtain ⟨after, line⟩ :=
          Pattern.prefix_takeWhile begins (closed_in_line proper)
        rw [List.append_assoc] at line
        exact absurd line.symm (unclosed parts after proper)
  have whole : string tail =
      ⟨'"' :: lineOf tail, .flawed .unterminatedString⟩ := by
    rw [string, none, stringBody_text_of_open none, takeWhile_isLineEnd]
  refine ⟨whole, behind_of_text whole ?_⟩
  rw [List.cons_append, lineOf_append_beyondLine]

end Lexeme

namespace Token

/-- Behind an opening quotation mark the line is looked at part by part.  The
first quotation mark that is no part of an escape closes the literal, and the
next token is looked for behind it; if there is none the line is a flaw, and
the next token is looked for in the line after it.  What the literal stands
for is decoded from the longest text that the pattern matches there, and the
quotation mark where the decoding ends is the end of that text. -/
theorem ofLexemes_quote (position : Position) (tail : List Char) :
    (∀ parts after, (∀ part ∈ parts, StringPart.Proper part) →
        lineOf tail = partsText parts ++ '"' :: after →
        ofLexemes position (lexemes ('"' :: tail)) =
          ⟨.stringLiteral (String.ofList (parts.map StringPart.value)),
              position⟩ ::
            ofLexemes (position.past (closedString parts))
              (lexemes (after ++ beyondLine tail))) ∧
      ((∀ parts after, (∀ part ∈ parts, StringPart.Proper part) →
          lineOf tail ≠ partsText parts ++ '"' :: after) →
        ofLexemes position (lexemes ('"' :: tail)) =
          ⟨.invalid "unterminated string literal", position⟩ ::
            ofLexemes (position.past ('"' :: lineOf tail))
              (lexemes (beyondLine tail))) ∧
      StringSlice (Lexeme.first '"' tail).text ('"' :: tail) ∧
      ((∃ value,
          decodeString? ((Lexeme.first '"' tail).text.drop 1) =
              some (value, []) ∧
            (Lexeme.first '"' tail).reading =
              .token (.stringLiteral (String.ofList value))) ∨
        decodeString? ((Lexeme.first '"' tail).text.drop 1) = none ∧
          (Lexeme.first '"' tail).reading = .flawed .unterminatedString) := by
  rw [lexemes_cons, ofLexemes_cons, Lexeme.first_of_quote]
  refine ⟨?_, ?_, Lexeme.stringSlice_string tail, Lexeme.string_reading tail⟩
  · intro parts after proper line
    obtain ⟨whole, behind⟩ := Lexeme.string_of_closed proper line
    rw [whole, behind]
    rfl
  · intro unclosed
    obtain ⟨whole, behind⟩ := Lexeme.string_of_open unclosed
    rw [whole, behind]
    rfl

/-- Three letters that stand for another character and one that stands for
itself, behind backslashes.  A quotation mark behind two backslashes closes a
literal, and behind one it does not. -/
theorem ofLexemes_backslashes :
    ofLexemes .start (lexemes ('"' :: "a\\n\\t\\r\\q\\\"\\\\\";\"".toList)) =
        ⟨.stringLiteral "a\n\t\rq\"\\", .start⟩ ::
          ofLexemes ⟨1, 16⟩ (lexemes [';', '"']) ∧
      ofLexemes .start (lexemes ('"' :: "a\\\"\nx".toList)) =
        ⟨.invalid "unterminated string literal", .start⟩ ::
          ofLexemes ⟨1, 5⟩ (lexemes ['\n', 'x']) := by
  constructor
  · have proper : ∀ part ∈ [StringPart.plain 'a', .escape 'n', .escape 't',
        .escape 'r', .escape 'q', .escape '"', .escape '\\'],
        part.Proper := by
      simp [StringPart.Proper]
    exact (ofLexemes_quote .start "a\\n\\t\\r\\q\\\"\\\\\";\"".toList).1 _
      [';', '"'] proper rfl
  · apply (ofLexemes_quote .start "a\\\"\nx".toList).2.1
    intro parts after proper line
    have closed := (Lexeme.string_of_closed proper line).1
    cases congrArg Lexeme.reading closed

end Token

end TinyImp
