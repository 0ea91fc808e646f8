import TinyImp.Diagnostic
import TinyImp.Grammar.Cursor
import TinyImp.Tree.Basic

/-!
# Productions

A production reads a part of a program from the tokens in front of it, with
one token of lookahead.  It fails at the first token that does not fit and
leaves that token in view, so a failure is one mismatch: what was expected and
the token found there.
-/

namespace TinyImp

/-- What the grammar allows at a place. -/
inductive Expected where
  | statement
  | type
  | operand
  | ident
  | token (kind : TokenKind)
deriving DecidableEq

def Expected.text : Expected → String
  | .statement => "a statement"
  | .type => "a type"
  | .operand => "an operand"
  | .ident => "IDENT"
  | .token kind => kind.name

/-- A token that stands where something else was expected. -/
structure Mismatch where
  expected : Expected
  found : Token
deriving DecidableEq

/-- A token that could not be read speaks for itself; any other is reported
with what was expected in its place. -/
def Mismatch.diagnostic (mismatch : Mismatch) : Diagnostic :=
  match mismatch.found.kind with
  | .invalid message => ⟨.lexical, mismatch.found.position, message⟩
  | kind =>
      ⟨.grammar, mismatch.found.position,
        s!"expected {mismatch.expected.text}, got {kind.name}"⟩

/-- A reader of a part of a program. -/
abbrev Production := EStateM Expected Cursor

namespace Production

def current : Production Token :=
  return (← get).current

def advance : Production Unit :=
  modify Cursor.advance

/-- Leaves the token in view if it is of this kind. -/
def expect (kind : TokenKind) : Production Unit := do
  if (← current).kind = kind then
    advance
  else
    throw (.token kind)

def ident : Production Ident := do
  let token ← current
  match token.kind with
  | .ident name =>
      advance
      return ⟨name, token.position⟩
  | _ => throw .ident

def type : Production Ty := do
  match (← current).kind with
  | .intType =>
      advance
      return .int
  | .stringType =>
      advance
      return .string
  | .boolType =>
      advance
      return .bool
  | _ => throw .type

end Production

end TinyImp
