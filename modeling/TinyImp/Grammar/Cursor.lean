import TinyImp.Token.Basic

/-!
# Cursors

A place in a stream of tokens.  One token is in view.  A stream that is used
up shows the end of the input at the place of the token that was left last,
so the stream need not contain an end of its own; a stream that does is never
left beyond it by the skips defined here.
-/

namespace TinyImp

/-- The tokens still to be read, and the place of the token left last. -/
structure Cursor where
  remaining : List Token
  last : Position
deriving DecidableEq

namespace Cursor

def ofTokens (tokens : List Token) : Cursor :=
  ⟨tokens, .start⟩

def current (cursor : Cursor) : Token :=
  match cursor.remaining with
  | [] => ⟨.endOfInput, cursor.last⟩
  | token :: _ => token

def advance (cursor : Cursor) : Cursor :=
  match cursor.remaining with
  | [] => cursor
  | token :: following => ⟨following, token.position⟩

def size (cursor : Cursor) : Nat :=
  cursor.remaining.length

/-- Leaves tokens until a semicolon has been left or an `end` or the end of
the input is in view. -/
def skipStatementFrom (last : Position) : List Token → Cursor
  | [] => ⟨[], last⟩
  | token :: following =>
      match token.kind with
      | .endOfInput | .endWord => ⟨token :: following, last⟩
      | .semicolon => ⟨following, token.position⟩
      | _ => skipStatementFrom token.position following

/-- Skips the rest of a statement, in front of the `end` of a loop around it
if there is one. -/
def skipStatement (cursor : Cursor) : Cursor :=
  skipStatementFrom cursor.last cursor.remaining

/-- Leaves tokens until the `end for ;` that closes `depth` loops inside and
the loop around them has been left, or the end of the input is in view. -/
def skipLoopFrom (depth : Nat) (last : Position) : List Token → Cursor
  | [] => ⟨[], last⟩
  | token :: following =>
      match token.kind with
      | .endOfInput => ⟨token :: following, last⟩
      | .forWord => skipLoopFrom (depth + 1) token.position following
      | .endWord =>
          match following with
          | [] => ⟨[], token.position⟩
          | second :: behind =>
              if second.kind = .forWord then
                match behind with
                | [] => ⟨[], second.position⟩
                | third :: others =>
                    if third.kind = .semicolon then
                      match depth with
                      | 0 => ⟨others, third.position⟩
                      | inner + 1 => skipLoopFrom inner third.position others
                    else
                      skipLoopFrom depth second.position (third :: others)
              else
                skipLoopFrom depth token.position (second :: behind)
      | _ => skipLoopFrom depth token.position following

/-- Skips the rest of a loop through its own `end for ;`, stepping over the
loops inside it. -/
def skipLoop (cursor : Cursor) : Cursor :=
  skipLoopFrom 0 cursor.last cursor.remaining

end Cursor

end TinyImp
