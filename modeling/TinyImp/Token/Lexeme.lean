import TinyImp.Text.Quoted
import TinyImp.Token.Basic

/-!
# Lexemes

A source text is cut into lexemes: each is a nonempty stretch of the text with
its reading, which is a token, something to skip or a flaw.  `Lexeme.first`
takes the longest lexeme at the head of a text, and `lexemes` goes on behind
it, so that the lexemes of a text, put together, are the text again.
-/

namespace TinyImp

inductive Flaw where
  | unrecognized
  | leadingZero
  | outOfRange
  | unterminatedString
  | unterminatedComment
deriving DecidableEq, Repr

def Flaw.message : Flaw → List Char → String
  | .unrecognized, [] => "unrecognized input"
  | .unrecognized, character :: _ =>
      s!"unrecognized character '{String.ofList (Text.escapedAlone character)}'"
  | .leadingZero, text =>
      s!"integer literal {String.ofList text} has a leading zero"
  | .outOfRange, text =>
      s!"integer literal {String.ofList text} is out of range"
  | .unterminatedString, _ => "unterminated string literal"
  | .unterminatedComment, _ => "unterminated block comment"

inductive Reading where
  | skipped
  | token (kind : TokenKind)
  | flawed (flaw : Flaw)
deriving DecidableEq

structure Lexeme where
  text : List Char
  reading : Reading
deriving DecidableEq

namespace Lexeme

/-- Characters between tokens. -/
def isBlank (character : Char) : Bool :=
  character == ' ' || character == '\t' || character == '\r' ||
    character == '\n' || character == '\x0c'

/-- Characters of a word after its first letter. -/
def isWordCharacter (character : Char) : Bool :=
  character.isAlphanum || character == '_'

/-- Characters that no string literal holds as they are. -/
def isLineEnd (character : Char) : Bool :=
  character == '\n' || character == '\r'

/-- A row of digits.  It has no leading zero, and its value is in range. -/
def number (digits : List Char) : Lexeme where
  text := digits
  reading :=
    if 1 < digits.length ∧ digits.head? = some '0' then
      .flawed .leadingZero
    else
      match Integer.ofInt? (Integer.decimal digits) with
      | some value => .token (.intLiteral value)
      | none => .flawed .outOfRange

/-- A word: reserved, or else the name of a variable. -/
def word (letters : List Char) : Lexeme where
  text := letters
  reading :=
    let spelling := String.ofList letters
    .token ((TokenKind.reserved? spelling).getD (.ident spelling))

/-- What follows the opening quotation mark of a string literal: the text it
takes, and the string it stands for if it is closed. -/
structure StringBody where
  text : List Char
  value : Option (List Char)
deriving DecidableEq

/-- The body with `spelling` in front, which stands for `character`. -/
def StringBody.after (body : StringBody) (spelling : List Char)
    (character : Char) : StringBody where
  text := spelling ++ body.text
  value := body.value.map (character :: ·)

def unescape : Char → Char
  | 'n' => '\n'
  | 't' => '\t'
  | 'r' => '\r'
  | other => other

/-- Reads up to and including the first quotation mark that no backslash
takes with it, and not beyond the end of the line. -/
def stringBody : List Char → StringBody
  | [] => ⟨[], none⟩
  | head :: tail =>
      if head = '"' then ⟨['"'], some []⟩
      else if isLineEnd head then ⟨[], none⟩
      else if head = '\\' then
        match tail with
        | [] => ⟨['\\'], none⟩
        | taken :: rest =>
            if isLineEnd taken then ⟨['\\'], none⟩
            else (stringBody rest).after ['\\', taken] (unescape taken)
      else (stringBody tail).after [head] head

/-- A string literal, given what follows its opening quotation mark. -/
def string (following : List Char) : Lexeme where
  text := '"' :: (stringBody following).text
  reading :=
    match (stringBody following).value with
    | some value => .token (.stringLiteral (String.ofList value))
    | none => .flawed .unterminatedString

/-- The text through the first `*/`, if there is one. -/
def throughClose? : List Char → Option (List Char)
  | [] => none
  | head :: tail =>
      if head = '*' ∧ tail.head? = some '/' then some ['*', '/']
      else (throughClose? tail).map (head :: ·)

def blockComment (following : List Char) : Lexeme :=
  match throughClose? following with
  | some body => ⟨'/' :: '*' :: body, .skipped⟩
  | none => ⟨'/' :: '*' :: following, .flawed .unterminatedComment⟩

def lineComment (following : List Char) : Lexeme :=
  ⟨'/' :: '/' :: following.takeWhile (· != '\n'), .skipped⟩

def single (character : Char) : Lexeme where
  text := [character]
  reading :=
    match TokenKind.symbol? character with
    | some kind => .token kind
    | none => .flawed .unrecognized

/-- The longest symbol or comment at the head of a text. -/
def sign : Char → List Char → Lexeme
  | '/', '/' :: following => lineComment following
  | '/', '*' :: following => blockComment following
  | ':', '=' :: _ => ⟨[':', '='], .token .assign⟩
  | '.', '.' :: _ => ⟨['.', '.'], .token .range⟩
  | head, _ => single head

/-- The longest lexeme at the head of a text. -/
def first (head : Char) (tail : List Char) : Lexeme :=
  if isBlank head then ⟨head :: tail.takeWhile isBlank, .skipped⟩
  else if head.isDigit then number (head :: tail.takeWhile Char.isDigit)
  else if head.isAlpha then word (head :: tail.takeWhile isWordCharacter)
  else if head = '"' then string tail
  else sign head tail

/-- The kind of token that a lexeme gives, if it is not skipped. -/
def kind? (lexeme : Lexeme) : Option TokenKind :=
  match lexeme.reading with
  | .skipped => none
  | .token kind => some kind
  | .flawed flaw => some (.invalid (flaw.message lexeme.text))

end Lexeme

/-- The lexemes of a text from which the first `taken` characters have been
taken already. -/
def lexemesAfter : Nat → List Char → List Lexeme
  | _, [] => []
  | taken + 1, _ :: tail => lexemesAfter taken tail
  | 0, head :: tail =>
      let lexeme := Lexeme.first head tail
      lexeme :: lexemesAfter (lexeme.text.length - 1) tail

def lexemes (text : List Char) : List Lexeme :=
  lexemesAfter 0 text

end TinyImp
