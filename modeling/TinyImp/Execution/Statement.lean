import TinyImp.Execution.Machine

/-!
# Execution

Statements are executed one after another until one of them stops the run.
The bounds of a loop are evaluated once, before its first round, and the index
is bound anew at the start of every round.
-/

namespace TinyImp

open Execution

mutual

def Stmt.execute : Stmt → Execution Unit
  | .declare name type initial _ => do
      let value ← match initial with
        | some value => evaluate value
        | none => pure (Value.zero type)
      put name.name value
  | .assign target value _ => do
      put target.name (← evaluate value)
  | .loop index low high body _ => do
      let first ← evaluateInt low
      let bound ← evaluateInt high
      let round := fun value => do
        put index.name (.int value)
        Stmt.executeList body
      forEach round (bound.value - first.value).toNat first
  | .read target position => readInto target position
  | .print value position => do
      write (← evaluate value).text position
  | .assert condition position => do
      demand (← evaluate condition) position

def Stmt.executeList : List Stmt → Execution Unit
  | [] => pure ()
  | statement :: others => do
      record (.executed statement)
      statement.execute
      Stmt.executeList others

end

def Program.execute (program : Program) : Execution Unit := do
  record (.executing program.length)
  Stmt.executeList program

/-- Executes a program and flushes its output. -/
def Program.complete (program : Program) : Execution Unit := do
  program.execute
  flush .start

end TinyImp
