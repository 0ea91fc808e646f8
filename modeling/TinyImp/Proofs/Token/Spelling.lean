import TinyImp.Proofs.Token.Munch

/-!
# Spelling of tokens

Every kind of token that stands for a piece of text has a spelling.  Tokens
that are spelled with single blanks between them are scanned as they were, and
a text that is scanned without a flaw has only tokens that can be spelled.  So
a text can be replaced by the spelling of its tokens.
-/

namespace TinyImp

namespace TokenKind

def reservedWords : List String :=
  ["int", "string", "bool", "var", "for", "end", "in", "do", "read", "print",
    "assert"]

/-- A name of a variable: a letter, then letters, digits and underscores, and
no reserved word. -/
structure IsName (name : String) : Prop where
  letters : ∃ head tail, name.toList = head :: tail ∧ head.isAlpha = true ∧
    ∀ character ∈ tail, character.isAlphanum = true ∨ character = '_'
  free : name ∉ reservedWords

/-- How a character is written in a string literal. -/
def inLiteral (character : Char) : List Char :=
  if character = '\\' then ['\\', '\\']
  else if character = '"' then ['\\', '"']
  else if character = '\n' then ['\\', 'n']
  else if character = '\r' then ['\\', 'r']
  else [character]

/-- How a token is written.  Kinds that stand for no piece of text have no
spelling. -/
def spelling : TokenKind → String
  | intType => "int"
  | stringType => "string"
  | boolType => "bool"
  | intLiteral value => toString value.value
  | stringLiteral value =>
      String.ofList ('"' :: (value.toList.flatMap inLiteral ++ ['"']))
  | ident name => name
  | plus => "+"
  | minus => "-"
  | star => "*"
  | slash => "/"
  | less => "<"
  | equal => "="
  | ampersand => "&"
  | exclamation => "!"
  | assign => ":="
  | range => ".."
  | leftParen => "("
  | rightParen => ")"
  | semicolon => ";"
  | colon => ":"
  | varWord => "var"
  | forWord => "for"
  | endWord => "end"
  | inWord => "in"
  | doWord => "do"
  | readWord => "read"
  | printWord => "print"
  | assertWord => "assert"
  | comment | endOfInput | invalid _ => ""

/-- The kinds of tokens that can be written. -/
def Spellable : TokenKind → Prop
  | intLiteral value => 0 ≤ value.value
  | ident name => IsName name
  | comment | endOfInput | invalid _ => False
  | _ => True

/-- The spellings of tokens with single blanks between them. -/
def spellings (kinds : List TokenKind) : String :=
  " ".intercalate (kinds.map spelling)

theorem reserved?_eq_none_iff {word : String} :
    reserved? word = none ↔ word ∉ reservedWords := by
  unfold reserved?
  split
  case h_12 => simp_all [reservedWords]
  all_goals simp [reservedWords]

theorem spellable_of_reserved? {word : String} {kind : TokenKind}
    (reserved : reserved? word = some kind) : kind.Spellable := by
  unfold reserved? at reserved
  split at reserved
  case h_12 => cases reserved
  all_goals
    cases reserved
    trivial

theorem spellable_of_symbol? {character : Char} {kind : TokenKind}
    (symbol : symbol? character = some kind) : kind.Spellable := by
  unfold symbol? at symbol
  split at symbol
  case h_13 => cases symbol
  all_goals
    cases symbol
    trivial

end TokenKind

namespace Lexeme

open TokenKind

/-! ## What is scanned can be spelled -/

theorem spellable_of_number {digits : List Char} {kind : TokenKind}
    (token : (number digits).reading = .token kind) : kind.Spellable := by
  unfold number at token
  split at token
  · cases token
  · split at token
    · rename_i value found
      cases token
      have exactly := Integer.ofInt?_eq_some_iff.1 found
      show 0 ≤ value.value
      omega
    · cases token

theorem spellable_of_word {head : Char} {tail : List Char} {kind : TokenKind}
    (letter : head.isAlpha = true)
    (others : ∀ character ∈ tail, isWordCharacter character = true)
    (token : (word (head :: tail)).reading = .token kind) :
    kind.Spellable := by
  unfold word at token
  cases reserved : reserved? (String.ofList (head :: tail)) with
  | some keyword =>
      simp only [reserved] at token
      cases token
      exact spellable_of_reserved? reserved
  | none =>
      simp only [reserved] at token
      cases token
      refine ⟨⟨head, tail, String.toList_ofList, letter, ?_⟩,
        reserved?_eq_none_iff.1 reserved⟩
      intro character member
      simpa [isWordCharacter] using others character member

theorem spellable_of_sign {head : Char} {tail : List Char} {kind : TokenKind}
    (token : (sign head tail).reading = .token kind) : kind.Spellable := by
  unfold sign at token
  split at token
  · cases token
  · unfold blockComment at token
    split at token
    · cases token
    · cases token
  · cases token
    trivial
  · cases token
    trivial
  · unfold single at token
    split at token
    · rename_i found
      cases token
      exact spellable_of_symbol? found
    · cases token

theorem spellable_of_first {head : Char} {tail : List Char} {kind : TokenKind}
    (token : (first head tail).reading = .token kind) : kind.Spellable := by
  by_cases blank : isBlank head = true
  · rw [first_of_blank blank] at token
    cases token
  by_cases digit : head.isDigit = true
  · rw [first_of_digit digit] at token
    exact spellable_of_number token
  by_cases letter : head.isAlpha = true
  · rw [first_of_letter letter] at token
    exact spellable_of_word letter (List.all_eq_true.1 List.all_takeWhile) token
  by_cases quote : head = '"'
  · subst quote
    rw [first_of_quote, string] at token
    split at token
    · cases token
      trivial
    · cases token
  rw [first_of_sign (Bool.eq_false_iff.2 blank) (Bool.eq_false_iff.2 digit)
    (Bool.eq_false_iff.2 letter) quote] at token
  exact spellable_of_sign token

/-! ## What is spelled is scanned -/

/-- A text is cut as one visible lexeme, a token of this kind. -/
def Spells (text : List Char) (kind : TokenKind) : Prop :=
  ∃ head tail, text = head :: tail ∧ isBlank head = false ∧
    first head tail = ⟨head :: tail, .token kind⟩

theorem stringBody_inLiteral (character : Char) (rest : List Char) :
    stringBody (inLiteral character ++ rest) =
      (stringBody rest).after (inLiteral character) character := by
  unfold inLiteral
  split
  · rename_i same
    rw [same]
    exact stringBody_escape rfl
  split
  · rename_i same
    rw [same]
    exact stringBody_escape rfl
  split
  · rename_i same
    rw [same]
    exact stringBody_escape rfl
  split
  · rename_i same
    rw [same]
    exact stringBody_escape rfl
  · rename_i noBackslash noQuote noLineFeed noReturn
    exact stringBody_plain noQuote (by simp [isLineEnd, noLineFeed, noReturn])
      noBackslash

theorem stringBody_literal (value : List Char) :
    stringBody (value.flatMap inLiteral ++ ['"']) =
      ⟨value.flatMap inLiteral ++ ['"'], some value⟩ := by
  induction value with
  | nil => rfl
  | cons character value induction =>
      rw [List.flatMap_cons, List.append_assoc, stringBody_inLiteral, induction]
      rfl

theorem spells_string (value : String) :
    Spells (stringLiteral value).spelling.toList (.stringLiteral value) := by
  refine ⟨'"', value.toList.flatMap inLiteral ++ ['"'], String.toList_ofList,
    rfl, ?_⟩
  rw [first_of_quote, string, stringBody_literal]
  simp only [String.ofList_toList]

private theorem takeWhile_eq_self {continues : Char → Bool} {text : List Char}
    (whole : ∀ character ∈ text, continues character = true) :
    text.takeWhile continues = text := by
  have taken : (text ++ []).takeWhile continues = text ++ [] :=
    List.takeWhile_append_of_pos whole
  rwa [List.append_nil] at taken

theorem spells_name {name : String} (isName : IsName name) :
    Spells name.toList (.ident name) := by
  obtain ⟨⟨head, tail, letters, letter, others⟩, free⟩ := isName
  refine ⟨head, tail, letters, not_blank_of_letter letter, ?_⟩
  have whole : tail.takeWhile isWordCharacter = tail := by
    apply takeWhile_eq_self
    intro character member
    simpa [isWordCharacter] using others character member
  rw [first_of_letter letter, whole, word, ← letters, String.ofList_toList]
  simp only [reserved?_eq_none_iff.2 free, Option.getD_none]

/-- The decimal text of a number has no leading zero. -/
theorem head?_toDigits_ne {number : Nat} (positive : 0 < number) :
    (Nat.toDigits 10 number).head? ≠ some '0' := by
  induction number using Nat.strongRecOn with
  | ind number induction =>
      by_cases small : number < 10
      · have nonzero : ∀ digit : Fin 10, 0 < digit.val →
            digit.val.digitChar ≠ '0' := by
          decide
        rw [Nat.toDigits_of_lt_base small]
        intro zero
        exact nonzero ⟨number, small⟩ positive (Option.some.inj zero)
      · have large : 10 ≤ number := Nat.le_of_not_lt small
        rw [Nat.toDigits_of_base_le (by decide) large, List.head?_append]
        cases digits : Nat.toDigits 10 (number / 10) with
        | nil => exact absurd digits Nat.toDigits_ne_nil
        | cons first others =>
            have shorter := induction (number / 10) (by omega) (by omega)
            rw [digits] at shorter
            exact shorter

theorem decimal_toDigits (number : Nat) :
    Integer.decimal (Nat.toDigits 10 number) = number := by
  apply Eq.trans _ Nat.ofDigitChars_ten_toDigits
  rw [Nat.ofDigitChars_eq_foldl]
  rfl

theorem number_toDigits {natural : Nat} {value : Integer}
    (same : value.value = natural) :
    number (Nat.toDigits 10 natural) =
      ⟨Nat.toDigits 10 natural, .token (.intLiteral value)⟩ := by
  have noLeadingZero : ¬ (1 < (Nat.toDigits 10 natural).length ∧
      (Nat.toDigits 10 natural).head? = some '0') := by
    intro given
    obtain ⟨long, zero⟩ := given
    by_cases positive : 0 < natural
    · exact head?_toDigits_ne positive zero
    · rw [Nat.eq_zero_of_not_pos positive] at long
      exact absurd long (by decide)
  rw [number, if_neg noLeadingZero, decimal_toDigits, ← same,
    Integer.ofInt?_value]

theorem spells_number {value : Integer} (natural : 0 ≤ value.value) :
    Spells (toString value.value).toList (.intLiteral value) := by
  obtain ⟨number, same⟩ := Int.eq_ofNat_of_zero_le natural
  have text : (toString value.value).toList = Nat.toDigits 10 number := by
    rw [same]
    exact (congrArg String.toList Nat.repr_eq_ofList_toDigits).trans
      String.toList_ofList
  have isDigits : ∀ character ∈ Nat.toDigits 10 number,
      character.isDigit = true := by
    intro character member
    exact Nat.isDigit_of_mem_toDigits (by decide) (by decide) member
  have cut := number_toDigits same
  rw [text]
  cases digits : Nat.toDigits 10 number with
  | nil => exact absurd digits Nat.toDigits_ne_nil
  | cons head tail =>
      rw [digits] at isDigits cut
      obtain ⟨digit, others⟩ := List.forall_mem_cons.1 isDigits
      refine ⟨head, tail, rfl, not_blank_of_digit digit, ?_⟩
      rw [first_of_digit digit, takeWhile_eq_self others, cut]

/-- The spelling of a token is cut as that token. -/
theorem spells_spelling {kind : TokenKind} (spellable : kind.Spellable) :
    Spells kind.spelling.toList kind := by
  cases kind with
  | intLiteral value => exact spells_number spellable
  | stringLiteral value => exact spells_string value
  | ident name => exact spells_name spellable
  | comment => exact spellable.elim
  | endOfInput => exact spellable.elim
  | invalid message => exact spellable.elim
  | _ => exact ⟨_, _, rfl, rfl, rfl⟩

end Lexeme

namespace Token

open TokenKind Lexeme

/-- A token that is spelled before a blank is scanned, and what follows the
blank is scanned on its own. -/
theorem map_kind_ofLexemes_spelled {text : List Char} {kind : TokenKind}
    (spells : Spells text kind) (position : Position) (rest : List Char) :
    (ofLexemes position (lexemes (text ++ ' ' :: rest))).map Token.kind =
      kind ::
        (ofLexemes ((position.past text).next ' ') (lexemes rest)).map
          Token.kind := by
  obtain ⟨head, tail, rfl, visible, cut⟩ := spells
  have token : (first head tail).reading = .token kind := by
    rw [cut]
  have nothing : behind head tail = [] := by
    apply behind_of_text cut
    rw [List.append_nil]
  rw [List.cons_append,
    lexemes_before visible rfl (.inl ⟨kind, token⟩) (by rw [token]; exact nofun),
    nothing, ofLexemes_cons, List.nil_append, ofLexemes_blank rfl, cut]
  rfl

theorem map_kind_ofLexemes_spelled_last {text : List Char} {kind : TokenKind}
    (spells : Spells text kind) (position : Position) :
    (ofLexemes position (lexemes text)).map Token.kind =
      [kind, .endOfInput] := by
  obtain ⟨head, tail, rfl, _, cut⟩ := spells
  have nothing : behind head tail = [] := by
    apply behind_of_text cut
    rw [List.append_nil]
  rw [lexemes_cons, nothing, cut]
  rfl

theorem map_kind_ofLexemes_spellings (kinds : List TokenKind)
    (spellable : ∀ kind ∈ kinds, kind.Spellable) (position : Position) :
    (ofLexemes position (lexemes (spellings kinds).toList)).map Token.kind =
      kinds ++ [.endOfInput] := by
  rw [spellings, String.toList_intercalate, List.map_map]
  induction kinds generalizing position with
  | nil => rfl
  | cons kind others induction =>
      obtain ⟨firstSpellable, othersSpellable⟩ :=
        List.forall_mem_cons.1 spellable
      have spells := spells_spelling firstSpellable
      cases others with
      | nil =>
          rw [List.map_singleton, List.intercalate_singleton]
          exact map_kind_ofLexemes_spelled_last spells position
      | cons next others =>
          rw [List.map_cons, List.map_cons, List.intercalate_cons_cons,
            List.append_assoc]
          have onward := induction othersSpellable
            ((position.past kind.spelling.toList).next ' ')
          apply (map_kind_ofLexemes_spelled spells position _).trans
          exact congrArg (kind :: ·) onward

/-- The tokens of a text are flaws or can be spelled, up to the end of the
input. -/
theorem exists_kinds_scan (source : String) :
    ∃ kinds, (scan source).map Token.kind = kinds ++ [.endOfInput] ∧
      ∀ kind ∈ kinds, (∃ message, kind = .invalid message) ∨ kind.Spellable := by
  refine ⟨_, map_kind_ofLexemes .start (lexemes source.toList), ?_⟩
  intro kind member
  obtain ⟨lexeme, inText, given⟩ := List.mem_filterMap.1 member
  obtain ⟨head, tail, rfl⟩ := exists_first_of_mem inText
  unfold kind? at given
  split at given
  · cases given
  · rename_i token
    cases given
    exact .inr (spellable_of_first token)
  · cases given
    exact .inl ⟨_, rfl⟩

/-- Tokens that are spelled with single blanks between them are scanned as they
were.  If a text is scanned without a flaw, all its tokens up to the end of the
input can be spelled, and the spelling has the same tokens. -/
theorem scan_spellings_round_trip :
    (∀ kinds : List TokenKind, (∀ kind ∈ kinds, kind.Spellable) →
      (scan (spellings kinds)).map Token.kind = kinds ++ [.endOfInput]) ∧
      ∀ source : String,
        (∀ token ∈ scan source, ∀ message, token.kind ≠ .invalid message) →
          ∃ kinds, (scan source).map Token.kind = kinds ++ [.endOfInput] ∧
            (∀ kind ∈ kinds, kind.Spellable) ∧
            (scan (spellings kinds)).map Token.kind =
              (scan source).map Token.kind := by
  have round : ∀ kinds : List TokenKind, (∀ kind ∈ kinds, kind.Spellable) →
      (scan (spellings kinds)).map Token.kind = kinds ++ [.endOfInput] := by
    intro kinds spellable
    exact map_kind_ofLexemes_spellings kinds spellable .start
  refine ⟨round, ?_⟩
  intro source flawless
  obtain ⟨kinds, scanned, judged⟩ := exists_kinds_scan source
  have spellable : ∀ kind ∈ kinds, kind.Spellable := by
    intro kind member
    have among : kind ∈ (scan source).map Token.kind := by
      rw [scanned]
      exact List.mem_append_left _ member
    obtain ⟨token, inScan, rfl⟩ := List.mem_map.1 among
    rcases judged token.kind member with ⟨message, flaw⟩ | fine
    · exact absurd flaw (flawless token inScan message)
    · exact fine
  exact ⟨kinds, scanned, spellable, by rw [round kinds spellable, scanned]⟩

/-- A name that begins with a reserved word, signs that would run together, and
a string with what has to be escaped. -/
def awkwardKinds : List TokenKind :=
  [.ident "format", .colon, .equal, .slash, .star, .intLiteral .zero,
    .stringLiteral "\"/*\\\n"]

theorem awkwardKinds_round_trip :
    (scan (spellings awkwardKinds)).map Token.kind =
        awkwardKinds ++ [.endOfInput] ∧
      ∃ kinds, (scan "x:=y/*z*/+1").map Token.kind = kinds ++ [.endOfInput] ∧
        (∀ kind ∈ kinds, kind.Spellable) ∧
        (scan (spellings kinds)).map Token.kind =
          (scan "x:=y/*z*/+1").map Token.kind := by
  have name : IsName "format" :=
    ⟨⟨'f', ['o', 'r', 'm', 'a', 't'], rfl, rfl, by simp⟩, by decide⟩
  have spellable : ∀ kind ∈ awkwardKinds, kind.Spellable := by
    simp [awkwardKinds, Spellable, name, Integer.zero]
  have scanned : (scan "x:=y/*z*/+1").map Token.kind =
      [.ident "x", .assign, .ident "y", .plus, .intLiteral ⟨1, by decide, by decide⟩,
        .endOfInput] := by
    decide +kernel
  refine ⟨scan_spellings_round_trip.1 awkwardKinds spellable,
    scan_spellings_round_trip.2 _ ?_⟩
  intro token member message
  have among : token.kind ∈ (scan "x:=y/*z*/+1").map Token.kind :=
    List.mem_map_of_mem member
  rw [scanned] at among
  intro flaw
  rw [flaw] at among
  simp at among

end Token

end TinyImp
