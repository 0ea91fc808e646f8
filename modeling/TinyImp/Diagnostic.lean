import TinyImp.Position

/-!
# Diagnostics

A problem found before a program runs: the stage that found it, the place and
a message of one line.
-/

namespace TinyImp

inductive Stage where
  | lexical
  | grammar
  | scope
  | typing
deriving DecidableEq, Repr

def Stage.name : Stage → String
  | .lexical => "lexical"
  | .grammar => "syntax"
  | .scope => "scope"
  | .typing => "type"

structure Diagnostic where
  stage : Stage
  position : Position
  message : String
deriving DecidableEq

def Diagnostic.line (diagnostic : Diagnostic) : String :=
  s!"{diagnostic.position.text}: {diagnostic.stage.name} error: {diagnostic.message}"

end TinyImp
