import TinyImp.Diagnostic
import TinyImp.Execution.Failure
import TinyImp.Tree.Outline

/-!
# Journals

What is recorded while a program is judged and run.  Each event has a level,
and a journal keeps the events that are at least as severe as its threshold.
An event is kept as it is and put into words only when it is shown.
-/

namespace TinyImp

inductive Level where
  | error
  | warn
  | info
  | debug
  | trace
deriving DecidableEq, Repr

namespace Level

def name : Level → String
  | error => "ERROR"
  | warn => "WARN"
  | info => "INFO"
  | debug => "DEBUG"
  | trace => "TRACE"

/-- How far a level is from the most severe one. -/
def rank : Level → Nat
  | error => 0
  | warn => 1
  | info => 2
  | debug => 3
  | trace => 4

end Level

/-- What a journal can tell. -/
inductive Event where
  | running (name : String) (bytes : Nat)
  | grammarJudged (statements errors : Nat)
  | namesJudged (symbols errors : Nat)
  | typesJudged (errors : Nat)
  | executing (statements : Nat)
  | executed (statement : Stmt)
  | stopped (failure : Failure)
  | rejected (stage : Stage) (errors : Nat)
  | unwritten (error : ChannelError)
  | finished (name : String) (status : Nat)

namespace Event

def level : Event → Level
  | unwritten _ => .error
  | finished _ _ => .info
  | executed _ => .trace
  | running _ _ | grammarJudged _ _ | namesJudged _ _ | typesJudged _
  | executing _ | stopped _ | rejected _ _ => .debug

def text : Event → String
  | running name bytes => s!"running {name} ({bytes} bytes)"
  | grammarJudged statements errors =>
      s!"parsed {statements} top-level statements with {errors} errors"
  | namesJudged symbols errors =>
      s!"scope analysis declared {symbols} symbols with {errors} errors"
  | typesJudged errors => s!"type checking found {errors} errors"
  | executing statements => s!"executing {statements} top-level statements"
  | executed statement =>
      s!"{statement.position.text}: {statement.outline}"
  | stopped failure => s!"run stopped: {failure.line}"
  | rejected stage errors => s!"{stage.name} stage reported {errors} errors"
  | unwritten error => s!"could not write to the output: {error.message}"
  | finished name status => s!"{name} finished with exit code {status}"

end Event

/-- The events so far.  Without a threshold nothing is kept. -/
structure Journal where
  threshold : Option Level := none
  events : Array Event := #[]

/-- Whether a journal keeps the events of a level. -/
def Journal.keeps (journal : Journal) (level : Level) : Bool :=
  journal.threshold.any fun threshold => level.rank ≤ threshold.rank

def Journal.record (journal : Journal) (event : Event) : Journal :=
  if journal.keeps event.level then
    { journal with events := journal.events.push event }
  else
    journal

end TinyImp
