import TinyImp.Proofs.Token.Spelling

/-!
# Patterns of lexemes

The rules that the beginning of a text is compared with, said without a
scanner: each pattern is a set of texts.  Which pattern can match at all is
told by the first character, and for symbols and comments by the second.  How
far a pattern can match is bounded by a run of characters of one class, or, in
a string literal, by the first quotation mark that no backslash takes with it.
-/

namespace TinyImp

/-! ## The inside of a string literal -/

/-- A part of a string literal: a character as it is, or a backslash with the
character that it takes along. -/
inductive StringPart where
  | plain (character : Char)
  | escape (taken : Char)

namespace StringPart

def text : StringPart → List Char
  | plain character => [character]
  | escape taken => ['\\', taken]

/-- The letters that stand for another character behind a backslash. -/
def letterEscapes : List (Char × Char) :=
  [('n', '\n'), ('t', '\t'), ('r', '\r')]

/-- The character that a part stands for.  Whatever a backslash takes along
stands for itself, three letters apart. -/
def value : StringPart → Char
  | plain character => character
  | escape taken => (letterEscapes.lookup taken).getD taken

/-- Whether a part can stand in a string literal.  No part reaches beyond the
line, and a quotation mark has to be taken along. -/
def Proper : StringPart → Prop
  | plain character =>
      character ≠ '"' ∧ character ≠ '\\' ∧ character ≠ '\n' ∧ character ≠ '\r'
  | escape taken => taken ≠ '\n' ∧ taken ≠ '\r'

end StringPart

/-- The text of parts in a row. -/
def partsText (parts : List StringPart) : List Char :=
  parts.flatMap StringPart.text

/-- A string literal with its quotation marks. -/
def closedString (parts : List StringPart) : List Char :=
  '"' :: (partsText parts ++ ['"'])

namespace Lexeme

theorem isLineEnd_eq_false_iff {character : Char} :
    isLineEnd character = false ↔ character ≠ '\n' ∧ character ≠ '\r' := by
  simp [isLineEnd]

theorem unescape_eq_value (taken : Char) :
    unescape taken = (StringPart.escape taken).value := by
  unfold unescape
  split
  · rfl
  · rfl
  · rfl
  · rename_i noFeed noTab noReturn
    simp [StringPart.value, StringPart.letterEscapes, List.lookup_cons,
      beq_eq_false_iff_ne.2 noFeed, beq_eq_false_iff_ne.2 noTab,
      beq_eq_false_iff_ne.2 noReturn]

theorem stringBody_part {part : StringPart} (proper : part.Proper)
    (rest : List Char) :
    stringBody (part.text ++ rest) =
      (stringBody rest).after part.text part.value := by
  cases part with
  | plain character =>
      obtain ⟨noQuote, noBackslash, inLine⟩ := proper
      exact stringBody_plain noQuote (isLineEnd_eq_false_iff.2 inLine)
        noBackslash
  | escape taken =>
      rw [← unescape_eq_value]
      exact stringBody_escape (isLineEnd_eq_false_iff.2 proper)

/-- Parts are read one after another, whatever follows them. -/
theorem stringBody_parts {parts : List StringPart}
    (proper : ∀ part ∈ parts, part.Proper) (rest : List Char) :
    stringBody (partsText parts ++ rest) =
      ⟨partsText parts ++ (stringBody rest).text,
        (stringBody rest).value.map (parts.map StringPart.value ++ ·)⟩ := by
  induction parts with
  | nil =>
      have same : (stringBody rest).value.map ([] ++ ·) =
          (stringBody rest).value := by
        simp
      exact congrArg (StringBody.mk _) same.symm
  | cons part parts induction =>
      obtain ⟨partProper, partsProper⟩ := List.forall_mem_cons.1 proper
      have split : partsText (part :: parts) ++ rest =
          part.text ++ (partsText parts ++ rest) :=
        List.append_assoc ..
      rw [split, stringBody_part partProper, induction partsProper,
        StringBody.after]
      simp [partsText, Function.comp_def]

/-- A string literal that is closed is parts between two quotation marks. -/
theorem exists_parts_of_closed {following value : List Char}
    (closed : (stringBody following).value = some value) :
    ∃ parts : List StringPart, (∀ part ∈ parts, part.Proper) ∧
      (stringBody following).text = partsText parts ++ ['"'] ∧
      value = parts.map StringPart.value := by
  fun_induction stringBody following generalizing value with
  | case1 => cases closed
  | case2 rest =>
      cases closed
      exact ⟨[], by simp, rfl, rfl⟩
  | case3 head tail _ _ => cases closed
  | case4 _ _ => cases closed
  | case5 taken rest _ _ _ => cases closed
  | case6 taken rest inLine _ _ induction =>
      obtain ⟨inner, innerClosed, rfl⟩ := Option.map_eq_some_iff.1 closed
      obtain ⟨parts, proper, text, rfl⟩ := induction innerClosed
      have takenProper : (StringPart.escape taken).Proper :=
        isLineEnd_eq_false_iff.1 (Bool.eq_false_iff.2 inLine)
      refine ⟨.escape taken :: parts, ?_, ?_, ?_⟩
      · exact List.forall_mem_cons.2 ⟨takenProper, proper⟩
      · rw [StringBody.after, text]
        rfl
      · rw [unescape_eq_value, List.map_cons]
  | case7 head tail noQuote inLine noBackslash induction =>
      obtain ⟨inner, innerClosed, rfl⟩ := Option.map_eq_some_iff.1 closed
      obtain ⟨parts, proper, text, rfl⟩ := induction innerClosed
      have headProper : (StringPart.plain head).Proper :=
        ⟨noQuote, noBackslash,
          isLineEnd_eq_false_iff.1 (Bool.eq_false_iff.2 inLine)⟩
      refine ⟨.plain head :: parts, ?_, ?_, rfl⟩
      · exact List.forall_mem_cons.2 ⟨headProper, proper⟩
      · rw [StringBody.after, text]
        rfl

/-- A string literal that is not closed takes all that is left of the line. -/
theorem stringBody_text_of_open {following : List Char}
    (unclosed : (stringBody following).value = none) :
    (stringBody following).text =
      following.takeWhile fun character => !isLineEnd character := by
  have backslash : isLineEnd '\\' = false := rfl
  fun_induction stringBody following with
  | case1 => rfl
  | case2 rest => cases unclosed
  | case3 head tail _ ends => simp [ends]
  | case4 _ _ => rfl
  | case5 taken rest ends _ _ => simp [backslash, ends]
  | case6 taken rest inLine _ _ induction =>
      have inner := induction (Option.map_eq_none_iff.1 unclosed)
      simp [StringBody.after, inner, backslash, inLine]
  | case7 head tail noQuote inLine noBackslash induction =>
      have inner := induction (Option.map_eq_none_iff.1 unclosed)
      simp [StringBody.after, inner, inLine]

end Lexeme

/-! ## Patterns -/

/-- The kinds of tokens that are always written alike: the reserved words and
the symbols. -/
def TokenKind.fixedKinds : List TokenKind :=
  [intType, stringType, boolType, varWord, forWord, endWord, inWord, doWord,
    readWord, printWord, assertWord, plus, minus, star, slash, less, equal,
    ampersand, exclamation, assign, range, leftParen, rightParen, semicolon,
    colon]

/-- What the beginning of a text is compared with. -/
inductive Pattern where
  | blanks
  | lineComment
  | commentOpening
  | digits
  | word
  | string
  | fixed

/-- The texts that a pattern matches.  A string literal may lack its closing
quotation mark, and then end in a backslash that takes nothing along. -/
def Pattern.Matches : Pattern → List Char → Prop
  | blanks, text =>
      text ≠ [] ∧ ∀ character ∈ text,
        character ∈ [' ', '\t', '\r', '\n', '\x0c']
  | lineComment, text => ∃ body, text = '/' :: '/' :: body ∧ '\n' ∉ body
  | commentOpening, text => text = ['/', '*']
  | digits, text =>
      text ≠ [] ∧ ∀ character ∈ text, character.isDigit = true
  | word, text =>
      ∃ head tail, text = head :: tail ∧ head.isAlpha = true ∧
        ∀ character ∈ tail, character.isAlphanum = true ∨ character = '_'
  | string, text =>
      ∃ parts, (∀ part ∈ parts, StringPart.Proper part) ∧
        ∃ ending ∈ [[], ['"'], ['\\']],
          text = '"' :: (partsText parts ++ ending)
  | fixed, text =>
      ∃ kind ∈ TokenKind.fixedKinds, text = kind.spelling.toList

namespace Lexeme

theorem isBlank_iff {character : Char} :
    isBlank character = true ↔
      character ∈ [' ', '\t', '\r', '\n', '\x0c'] := by
  simp [isBlank, or_assoc]

theorem isWordCharacter_iff {character : Char} :
    isWordCharacter character = true ↔
      character.isAlphanum = true ∨ character = '_' := by
  simp [isWordCharacter]

end Lexeme

namespace Pattern

open Lexeme TokenKind

/-- How a pattern can match the beginning of `head :: tail`. -/
inductive Opens (head : Char) (tail matched : List Char) : Prop where
  | blanks (blank : isBlank head = true)
  | digits (digit : head.isDigit = true)
      (within : matched <+: head :: tail.takeWhile Char.isDigit)
  | word (letter : head.isAlpha = true)
      (within : matched <+: head :: tail.takeWhile isWordCharacter)
  | string (quote : head = '"')
      (within : matched.length ≤ (Lexeme.string tail).text.length)
  | comment (slash : head = '/')
      (second : tail.head? = some '/' ∨ tail.head? = some '*')
  | assign (colon : head = ':') (second : tail.head? = some '=')
      (both : matched = [':', '='])
  | range (dot : head = '.') (second : tail.head? = some '.')
      (both : matched = ['.', '.'])
  | symbol (kind : TokenKind) (known : symbol? head = some kind)
      (alone : matched = [head])

theorem prefix_takeWhile {continues : Char → Bool} {shorter text : List Char}
    (begins : shorter <+: text)
    (whole : ∀ character ∈ shorter, continues character = true) :
    shorter <+: text.takeWhile continues := by
  obtain ⟨rest, rfl⟩ := begins
  rw [List.takeWhile_append_of_pos whole]
  exact List.prefix_append ..

theorem head?_of_begins {first : Char} {others text : List Char}
    (begins : first :: others <+: text) : text.head? = some first := by
  obtain ⟨rest, rfl⟩ := begins
  rfl

/-- The first quotation mark that no backslash takes along ends a string
literal, so no text that matches goes beyond what is read. -/
theorem length_le_string {parts : List StringPart} {ending tail : List Char}
    (proper : ∀ part ∈ parts, part.Proper)
    (member : ending ∈ [[], ['"'], ['\\']])
    (begins : partsText parts ++ ending <+: tail) :
    ('"' :: (partsText parts ++ ending)).length ≤
      (Lexeme.string tail).text.length := by
  obtain ⟨rest, rfl⟩ := begins
  have reaches : ending.length ≤ (stringBody (ending ++ rest)).text.length := by
    simp only [List.mem_cons, List.not_mem_nil, or_false] at member
    rcases member with rfl | rfl | rfl
    · exact Nat.zero_le _
    · simp [stringBody_quote]
    · cases rest with
      | nil => exact Nat.le_refl 1
      | cons taken others =>
          cases ends : isLineEnd taken with
          | true => simp [stringBody_escape_lineEnd ends]
          | false =>
              rw [List.singleton_append, stringBody_escape ends]
              exact Nat.le_add_left 1 _
  rw [List.append_assoc, Lexeme.string, stringBody_parts proper]
  simp only [List.length_cons, List.length_append]
  omega

theorem fixed_cases {kind : TokenKind} (member : kind ∈ fixedKinds) :
    word.Matches kind.spelling.toList ∨
      kind.spelling.toList = [':', '='] ∨ kind.spelling.toList = ['.', '.'] ∨
      ∃ character, kind.spelling.toList = [character] ∧
        symbol? character = some kind := by
  have reservedWord (head : Char) (tail : List Char)
      (spelled : kind.spelling.toList = head :: tail)
      (letter : head.isAlpha = true)
      (others : tail.all isWordCharacter = true) :
      word.Matches kind.spelling.toList := by
    refine ⟨head, tail, spelled, letter, ?_⟩
    intro character inTail
    exact isWordCharacter_iff.1 (List.all_eq_true.1 others character inTail)
  simp only [fixedKinds, List.mem_cons, List.not_mem_nil, or_false] at member
  rcases member with rfl | rfl | rfl | rfl | rfl | rfl | rfl | rfl | rfl | rfl |
    rfl | rfl | rfl | rfl | rfl | rfl | rfl | rfl | rfl | rfl | rfl | rfl | rfl |
    rfl | rfl
  all_goals first
    | exact .inl (reservedWord _ _ rfl rfl rfl)
    | exact .inr (.inl rfl)
    | exact .inr (.inr (.inl rfl))
    | exact .inr (.inr (.inr ⟨_, rfl, rfl⟩))

theorem Matches.opens_word {head : Char} {tail matched : List Char}
    (matching : word.Matches matched) (begins : matched <+: head :: tail) :
    Opens head tail matched := by
  obtain ⟨first, others, rfl, letter, wordCharacters⟩ := matching
  obtain ⟨rfl, others⟩ := List.cons_prefix_cons.1 begins
  refine .word letter (List.cons_prefix_cons.2 ⟨rfl, ?_⟩)
  apply prefix_takeWhile others
  intro character member
  exact isWordCharacter_iff.2 (wordCharacters character member)

/-- What matches at the beginning of a text is told by its first characters. -/
theorem Matches.opens {pattern : Pattern} {head : Char}
    {tail matched : List Char} (matching : pattern.Matches matched)
    (begins : matched <+: head :: tail) : Opens head tail matched := by
  cases pattern with
  | word => exact matching.opens_word begins
  | blanks =>
      obtain ⟨nonempty, all⟩ := matching
      cases matched with
      | nil => exact absurd rfl nonempty
      | cons first others =>
          obtain ⟨rfl, _⟩ := List.cons_prefix_cons.1 begins
          exact .blanks (isBlank_iff.2 (all first List.mem_cons_self))
  | digits =>
      obtain ⟨nonempty, all⟩ := matching
      cases matched with
      | nil => exact absurd rfl nonempty
      | cons first others =>
          obtain ⟨digit, otherDigits⟩ := List.forall_mem_cons.1 all
          obtain ⟨rfl, others⟩ := List.cons_prefix_cons.1 begins
          refine .digits digit (List.cons_prefix_cons.2 ⟨rfl, ?_⟩)
          exact prefix_takeWhile others otherDigits
  | lineComment =>
      obtain ⟨body, rfl, _⟩ := matching
      obtain ⟨slash, others⟩ := List.cons_prefix_cons.1 begins
      exact .comment slash.symm (.inl (head?_of_begins others))
  | commentOpening =>
      cases matching
      obtain ⟨slash, others⟩ := List.cons_prefix_cons.1 begins
      exact .comment slash.symm (.inr (head?_of_begins others))
  | string =>
      obtain ⟨parts, proper, ending, member, rfl⟩ := matching
      obtain ⟨quote, others⟩ := List.cons_prefix_cons.1 begins
      exact .string quote.symm (length_le_string proper member others)
  | fixed =>
      obtain ⟨kind, member, rfl⟩ := matching
      rcases fixed_cases member with
        isWord | both | both | ⟨character, alone, known⟩
      · exact isWord.opens_word begins
      · rw [both] at begins ⊢
        obtain ⟨colon, others⟩ := List.cons_prefix_cons.1 begins
        exact .assign colon.symm (head?_of_begins others) rfl
      · rw [both] at begins ⊢
        obtain ⟨dot, others⟩ := List.cons_prefix_cons.1 begins
        exact .range dot.symm (head?_of_begins others) rfl
      · rw [alone] at begins ⊢
        obtain ⟨rfl, _⟩ := List.cons_prefix_cons.1 begins
        exact .symbol kind known rfl

end Pattern

end TinyImp
