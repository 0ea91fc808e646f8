import TinyImp.Integer
import TinyImp.Position

/-!
# Tokens

The kinds of tokens of the language, the names under which messages speak of
them, and tokens with the place where they begin.  What the scanner could not
read is a token too: its kind carries the message to report, so that the
reader of the tokens decides when to speak of it.
-/

namespace TinyImp

/-- What a token is, with the value of a literal or the name of a variable. -/
inductive TokenKind where
  | intType
  | stringType
  | boolType
  | intLiteral (value : Integer)
  | stringLiteral (value : String)
  | ident (name : String)
  | plus
  | minus
  | star
  | slash
  | less
  | equal
  | ampersand
  | exclamation
  | assign
  | range
  | leftParen
  | rightParen
  | semicolon
  | colon
  | comment
  | varWord
  | forWord
  | endWord
  | inWord
  | doWord
  | readWord
  | printWord
  | assertWord
  | endOfInput
  | invalid (message : String)
deriving DecidableEq

namespace TokenKind

def name : TokenKind → String
  | intType => "INT"
  | stringType => "STRING"
  | boolType => "BOOL"
  | intLiteral _ => "INT_LITERAL"
  | stringLiteral _ => "STRING_LITERAL"
  | ident _ => "IDENT"
  | plus => "PLUS"
  | minus => "MINUS"
  | star => "MULTIPLY"
  | slash => "DIVIDE"
  | less => "LT"
  | equal => "EQ"
  | ampersand => "AND"
  | exclamation => "NOT"
  | assign => "ASSIGN"
  | range => "RANGE"
  | leftParen => "LPAREN"
  | rightParen => "RPAREN"
  | semicolon => "SEMI"
  | colon => "COLON"
  | comment => "COMMENT"
  | varWord => "VAR"
  | forWord => "FOR"
  | endWord => "END"
  | inWord => "IN"
  | doWord => "DO"
  | readWord => "READ"
  | printWord => "PRINT"
  | assertWord => "ASSERT"
  | endOfInput => "EOF"
  | invalid _ => "ERROR"

/-- Whether a statement can begin with a token of this kind. -/
def startsStatement : TokenKind → Bool
  | varWord | ident _ | forWord | readWord | printWord | assertWord => true
  | _ => false

def reserved? : String → Option TokenKind
  | "int" => some intType
  | "string" => some stringType
  | "bool" => some boolType
  | "var" => some varWord
  | "for" => some forWord
  | "end" => some endWord
  | "in" => some inWord
  | "do" => some doWord
  | "read" => some readWord
  | "print" => some printWord
  | "assert" => some assertWord
  | _ => none

/-- The kind of a token that is this one character. -/
def symbol? : Char → Option TokenKind
  | '+' => some plus
  | '-' => some minus
  | '*' => some star
  | '/' => some slash
  | '<' => some less
  | '=' => some equal
  | '&' => some ampersand
  | '!' => some exclamation
  | '(' => some leftParen
  | ')' => some rightParen
  | ';' => some semicolon
  | ':' => some colon
  | _ => none

end TokenKind

/-- A token and the place of its first character. -/
structure Token where
  kind : TokenKind
  position : Position
deriving DecidableEq

end TinyImp
