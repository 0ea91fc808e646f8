import TinyImp.Grammar.Expression
import TinyImp.Grammar.Recovery

/-!
# Reading statements

A statement ends with a semicolon.  If only the semicolon is missing, the
statement is kept.  A statement that is broken in any other way is dropped:
the rest of a simple statement is skipped, and a loop whose header or body is
broken is skipped through its own `end for ;`.
-/

namespace TinyImp

namespace Production

def initial : Production (Option Expr) := do
  if (← current).kind = .assign then
    advance
    return some (← expression)
  else
    return none

/-- Reads a statement other than a loop, up to its semicolon. -/
def simpleStatement : Production Stmt := do
  let token ← current
  match token.kind with
  | .varWord =>
      advance
      let name ← ident
      expect .colon
      let type ← type
      return .declare name type (← initial) token.position
  | .ident _ =>
      let target ← ident
      expect .assign
      return .assign target (← expression) token.position
  | .readWord =>
      advance
      return .read (← ident) token.position
  | .printWord =>
      advance
      return .print (← expression) token.position
  | .assertWord =>
      advance
      expect .leftParen
      let condition ← expression
      expect .rightParen
      return .assert condition token.position
  | _ => throw .statement

/-- What stands before the body of a loop. -/
structure LoopHeader where
  index : Ident
  low : Expr
  high : Expr
  position : Position

/-- Reads the header of a loop through its `do`. -/
def loopHeader : Production LoopHeader := do
  let token ← current
  expect .forWord
  let index ← ident
  expect .inWord
  let low ← expression
  expect .range
  let high ← expression
  expect .doWord
  return ⟨index, low, high, token.position⟩

end Production

namespace Recovering

open Production (LoopHeader)

/-- Reads the semicolon of a statement.  If it is missing and no statement
begins in its place, what is left of the statement is skipped. -/
def endStatement : Recovering Unit := do
  match ← attempt (Production.expect .semicolon) with
  | some _ => pure ()
  | none =>
      if (← current).kind.startsStatement then
        pure ()
      else
        move Cursor.skipStatement

def simpleStatement : Recovering (Option Stmt) := do
  match ← attempt Production.simpleStatement with
  | some statement =>
      endStatement
      return some statement
  | none =>
      move Cursor.skipStatement
      return none

def loopEnd (header : LoopHeader) (body : List Stmt) :
    Recovering (Option Stmt) := do
  match ← attempt (Production.expect .endWord) with
  | none =>
      move Cursor.skipLoop
      return none
  | some _ =>
      match ← attempt (Production.expect .forWord) with
      | none =>
          move Cursor.skipStatement
          return none
      | some _ =>
          endStatement
          return some
            (.loop header.index header.low header.high body header.position)

/-- Reads a loop, given how to read its body. -/
def loopWith (body : Recovering (List Stmt)) :
    Recovering (Option Stmt) := do
  match ← attempt Production.loopHeader with
  | none =>
      move Cursor.skipLoop
      return none
  | some header => loopEnd header (← body)

/-- Reads a statement, given how to read the body of a loop.  There is no
value if the statement was broken. -/
def statementWith (body : Recovering (List Stmt)) :
    Recovering (Option Stmt) := do
  if (← current).kind = .forWord then
    loopWith body
  else
    simpleStatement

/-- Reads statements as long as one can begin, in steps bounded by `fuel`.
Each statement leaves at least one token, so the number of tokens is a bound
that is never reached. -/
def statementsWithin : Nat → Recovering (List Stmt)
  | 0 => return []
  | fuel + 1 => do
      if (← current).kind.startsStatement then
        let statement ← statementWith (statementsWithin fuel)
        let others ← statementsWithin fuel
        return statement.toList ++ others
      else
        return []

def statements : Recovering (List Stmt) := do
  statementsWithin ((← size) + 1)

def statement : Recovering (Option Stmt) :=
  statementWith statements

end Recovering

end TinyImp
