import TinyImp.Execution.Statement
import TinyImp.Grammar.Program
import TinyImp.Scope.Analysis
import TinyImp.Token.Stream
import TinyImp.Typing.Check

/-!
# Jobs

A job takes a source text through all stages: it is read, its names and its
types are judged, and if nothing was found it is run.  The first stage that
finds anything ends the job with all that it found.  Each problem, or the
failure of the run, is written to the sink as one line after what the program
has printed.
-/

namespace TinyImp

inductive Verdict where
  | success
  | rejected (stage : Stage) (diagnostics : List Diagnostic)
  | failed (failure : Failure)
deriving DecidableEq

namespace Verdict

def isSuccess : Verdict → Bool
  | success => true
  | rejected _ _ | failed _ => false

def exitCode (verdict : Verdict) : Nat :=
  if verdict.isSuccess then 0 else 1

def diagnostics : Verdict → List Diagnostic
  | rejected _ diagnostics => diagnostics
  | success | failed _ => []

end Verdict

/-- Where the output of a job goes, and what is recorded about it. -/
structure Outlet where
  sink : Sink := {}
  journal : Journal := {}

namespace Outlet

def record (outlet : Outlet) (event : Event) : Outlet :=
  { outlet with journal := outlet.journal.record event }

/-- Writes a line of its own and flushes it.  If that fails, it is recorded
and nothing else. -/
def emit (outlet : Outlet) (line : String) : Outlet :=
  let written := do
    Sink.write (textBytes (line ++ "\n"))
    Sink.flush
  match written outlet.sink with
  | .ok _ sink => { outlet with sink }
  | .error error sink => { outlet with sink }.record (.unwritten error)

end Outlet

/-- What is left of a job: its verdict unless a fault came in between, and
what it wrote and recorded. -/
structure Ending where
  verdict : Except Fault Verdict
  outlet : Outlet

/-- The stage that the mismatches of a source are reported under. -/
def readingStage (diagnostics : List Diagnostic) : Stage :=
  if diagnostics.any (·.stage == .lexical) then .lexical else .grammar

/-- A source text and the name that it is known by. -/
structure Job where
  source : String
  name : String := "<input>"

namespace Job

/-- Ends a job with what a stage found. -/
def reject (stage : Stage) (diagnostics : List Diagnostic)
    (outlet : Outlet) : Ending where
  verdict := .ok (.rejected stage diagnostics)
  outlet :=
    diagnostics.foldl (fun outlet diagnostic => outlet.emit diagnostic.line)
      (outlet.record (.rejected stage diagnostics.length))

/-- Runs a program in which nothing was found. -/
def launch (program : Program) (input : List UInt8) (outlet : Outlet) :
    Ending :=
  let machine : Machine :=
    { input, sink := outlet.sink, journal := outlet.journal }
  match program.complete machine with
  | .ok _ machine =>
      ⟨.ok .success, ⟨machine.sink, machine.journal⟩⟩
  | .error (.failure failure) machine =>
      let outlet := Outlet.mk machine.sink machine.journal
      ⟨.ok (.failed failure),
        (outlet.record (.stopped failure)).emit failure.line⟩
  | .error (.fault fault) machine =>
      ⟨.error fault, ⟨machine.sink, machine.journal⟩⟩

/-- Judges the types of a program, and runs it if nothing is found. -/
def judgeTypes (program : Program) (symbols : SymbolTable)
    (input : List UInt8) (outlet : Outlet) : Ending :=
  let checked := program.check symbols
  match checked.result with
  | .error fault => ⟨.error fault, outlet⟩
  | .ok _ =>
      let outlet := outlet.record (.typesJudged checked.errors.length)
      if checked.errors.isEmpty then
        launch program input outlet
      else
        reject .typing (checked.errors.map TypeError.diagnostic) outlet

/-- Judges the names of a program, and goes on if nothing is found. -/
def judgeNames (program : Program) (input : List UInt8)
    (outlet : Outlet) : Ending :=
  let scoping := program.scoping
  let outlet := outlet.record
    (.namesJudged scoping.symbols.size scoping.errors.length)
  if scoping.errors.isEmpty then
    judgeTypes program scoping.symbols input outlet
  else
    reject .scope (scoping.errors.map ScopeError.diagnostic) outlet

def run (job : Job) (input : List UInt8) (outlet : Outlet) : Ending :=
  let outlet := outlet.record (.running job.name job.source.utf8ByteSize)
  let (program, mismatches) := Program.read (Token.scan job.source)
  let outlet := outlet.record (.grammarJudged program.length mismatches.length)
  if mismatches.isEmpty then
    judgeNames program input outlet
  else
    let diagnostics := mismatches.map Mismatch.diagnostic
    reject (readingStage diagnostics) diagnostics outlet

end Job

end TinyImp
