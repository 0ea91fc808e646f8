import TinyImp.Typing.Inference

/-!
# Type checking

A value has to have the type of the variable it is given to, loops run over
integers, a boolean cannot be read, and only a boolean can be asserted.  Every
statement is checked, whatever was found before it.
-/

namespace TinyImp

open Checked (require)

mutual

def Stmt.check (symbols : SymbolTable) : Stmt → Checked Unit
  | .declare name type initial position =>
      match initial with
      | none => pure ()
      | some value => do
          let valueType ← value.infer symbols
          require (valueType == type)
            (.assigned name.name type valueType) position
  | .assign target value position => do
      let targetType ← symbols.declaredType target.name
      let valueType ← value.infer symbols
      require (valueType == targetType)
        (.assigned target.name targetType valueType) position
  | .loop index low high body position => do
      let indexType ← symbols.declaredType index.name
      let lowType ← low.infer symbols
      let highType ← high.infer symbols
      require (indexType == .int) (.index indexType) position
      require (lowType == .int) (.lowerBound lowType) position
      require (highType == .int) (.upperBound highType) position
      Stmt.checkList symbols body
  | .read target position => do
      let targetType ← symbols.declaredType target.name
      require (targetType != .bool)
        (.readTarget target.name targetType) position
  | .print value _ => do
      let _ ← value.infer symbols
  | .assert condition position => do
      let type ← condition.infer symbols
      require (type == .bool) (.condition type) position

def Stmt.checkList (symbols : SymbolTable) : List Stmt → Checked Unit
  | [] => pure ()
  | statement :: others => do
      statement.check symbols
      Stmt.checkList symbols others

end

/-- Checks a program against the types that its variables are declared
with. -/
def Program.check (symbols : SymbolTable) (program : Program) :
    Checked Unit :=
  Stmt.checkList symbols program

end TinyImp
