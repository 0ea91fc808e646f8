import TinyImp.Grammar.Statement

/-!
# Reading programs

A program is one statement or more up to the end of the input.  Tokens that
begin no statement are reported once and skipped like the rest of a broken
statement; an `end` that closes nothing is skipped with them.
-/

namespace TinyImp

namespace Recovering

/-- Leaves tokens that begin no statement. -/
def skipStray : Recovering Unit := do
  mismatch (.token .endOfInput)
  if (← current).kind = .endWord then
    move Cursor.advance
  move Cursor.skipStatement

/-- Reads statements up to the end of the input, with at most `fuel` stretches
of stray tokens between them. -/
def statementsToEnd : Nat → Recovering (List Stmt)
  | 0 => return []
  | fuel + 1 => do
      let read ← statements
      if (← current).kind = .endOfInput then
        return read
      else
        skipStray
        return read ++ (← statementsToEnd fuel)

def program : Recovering Program := do
  let first ← statement
  let others ← statementsToEnd ((← size) + 1)
  return first.toList ++ others

end Recovering

/-- The program that a stream of tokens stands for, as far as it can be read,
and the mismatches on the way. -/
def Program.read (tokens : List Token) : Program × List Mismatch :=
  let recovered := Recovering.program (Cursor.ofTokens tokens)
  (recovered.value, recovered.mismatches)

end TinyImp
