import TinyImp.Execution.Expression
import TinyImp.Journal
import TinyImp.Text.Blank

/-!
# The machine

The state of a running program and the steps that change it.  A step that
fails leaves the variables as they were; a failed read has used up its line,
and a failed write has written what fits.
-/

namespace TinyImp

structure Machine where
  store : Store := .empty
  input : List UInt8 := []
  sink : Sink := {}
  journal : Journal := {}

/-- A computation that changes the machine and may stop. -/
abbrev Execution := EStateM Stop Machine

namespace Execution

def fail {α : Type} (cause : FailureCause) (position : Position) :
    Execution α :=
  throw (.failed cause position)

def fault {α : Type} (fault : Fault) : Execution α :=
  throw (.fault fault)

/-- Goes on with a value unless there is none. -/
def ofExcept {α : Type} : Except Stop α → Execution α
  | .ok value => pure value
  | .error stop => throw stop

def record (event : Event) : Execution Unit :=
  modify fun machine =>
    { machine with journal := machine.journal.record event }

def evaluate (expression : Expr) : Execution Value := do
  ofExcept (expression.evaluate (← get).store)

def evaluateInt (expression : Expr) : Execution Integer := do
  ofExcept (expression.evaluateInt (← get).store)

def put (name : String) (value : Value) : Execution Unit :=
  modify fun machine =>
    { machine with store := machine.store.set name value }

/-- Does something with the sink, at a place to blame if it fails. -/
def channel (action : EStateM ChannelError Sink Unit) (position : Position) :
    Execution Unit := fun machine =>
  match action machine.sink with
  | .ok _ sink => .ok () { machine with sink }
  | .error error sink =>
      .error (.failed (.channel error) position) { machine with sink }

def write (text : String) (position : Position) : Execution Unit :=
  channel (Sink.write (textBytes text)) position

def flush (position : Position) : Execution Unit :=
  channel Sink.flush position

/-- Takes the next line of the input, with its line end. -/
def readLine (position : Position) : Execution String := do
  let machine ← get
  let (line, rest) := splitLine machine.input
  set { machine with input := rest }
  match bytesText? line with
  | none => fail (.channel .notText) position
  | some text =>
      if line.isEmpty then
        fail .inputExhausted position
      else
        return text

/-- The value that a line stands for in a variable of this value's type. -/
def readValue (target : Ident) (line : String) (position : Position) :
    Value → Execution Value
  | .int _ =>
      let trimmed := Text.trim line.toList
      match Integer.read? trimmed with
      | some value => return .int value
      | none => fail (.invalidInput (String.ofList trimmed)) position
  | .string _ => return .string (String.ofList (withoutLineEnd line.toList))
  | .bool _ => fault (.readIntoBool target.name)

/-- Reads a line into a variable.  The value that the variable has tells how
the line is read. -/
def readInto (target : Ident) (position : Position) : Execution Unit := do
  let line ← readLine position
  let present ← ofExcept ((← get).store.lookup target.name)
  put target.name (← readValue target line position present)

/-- Stops unless a value is true. -/
def demand (value : Value) (position : Position) : Execution Unit :=
  match value with
  | .bool true => pure ()
  | .bool false => fail .assertionFailed position
  | other => fault (.assertedValue other)

/-- Does something for `count` integers in a row. -/
def forEach (body : Integer → Execution Unit) : Nat → Integer → Execution Unit
  | 0, _ => pure ()
  | count + 1, index => do
      body index
      forEach body count index.next

end Execution

end TinyImp
