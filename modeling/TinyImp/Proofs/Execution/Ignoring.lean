import TinyImp.Proofs.Execution.Effect

/-!
# What tasks leave alone

Only read statements have to do with the input and only print statements with
the sink.  Any other task goes the same way whatever the input and the sink
are, and leaves them as they are.
-/

namespace TinyImp

open Execution TinyImp.Computation

variable {α β : Type}

namespace Execution

/-- The machine that an execution ends with. -/
def ending : EStateM.Result Stop Machine α → Machine
  | .ok _ machine | .error _ machine => machine

/-- The same outcome with another machine. -/
def onMachine (change : Machine → Machine) :
    EStateM.Result Stop Machine α → EStateM.Result Stop Machine α
  | .ok value machine => .ok value (change machine)
  | .error stop machine => .error stop (change machine)

/-- An execution that goes the same way in a changed machine. -/
def Ignores (change : Machine → Machine) (action : Execution α) : Prop :=
  ∀ machine, action (change machine) = onMachine change (action machine)

variable {change : Machine → Machine}

/-- What follows two executions with the same outcome does not tell them apart
if it ignores the change between them. -/
theorem onMachine_bind {first : Execution α} {next : α → Execution β}
    {machine changed : Machine}
    (early : first changed = onMachine change (first machine))
    (late : ∀ value, Ignores change (next value)) :
    (first >>= next) changed = onMachine change ((first >>= next) machine) := by
  cases outcome : first machine with
  | ok value middle =>
      rw [outcome] at early
      rw [bind_of_ok early, bind_of_ok outcome]
      exact late value middle
  | error stop middle =>
      rw [outcome] at early
      rw [bind_of_error early, bind_of_error outcome]
      rfl

theorem Ignores.bind {first : Execution α} {next : α → Execution β}
    (early : Ignores change first)
    (late : ∀ value, Ignores change (next value)) :
    Ignores change (first >>= next) :=
  fun machine => onMachine_bind (early machine) late

theorem ignores_pure (value : α) : Ignores change (pure value) :=
  fun _ => rfl

theorem ignores_throw (stop : Stop) :
    Ignores change (throw stop : Execution α) :=
  fun _ => rfl

end Execution

/-- The machine with an event recorded. -/
def Machine.recorded (machine : Machine) (event : Event) : Machine :=
  { machine with journal := machine.journal.record event }

/-- The machine with another input and another sink. -/
def Machine.reroute (input : List UInt8 → List UInt8) (sink : Sink → Sink)
    (machine : Machine) : Machine :=
  { machine with input := input machine.input, sink := sink machine.sink }

namespace Execution

variable {input : List UInt8 → List UInt8} {sink : Sink → Sink}

theorem ignores_record (event : Event) :
    Ignores (.reroute input sink) (record event) :=
  fun _ => rfl

theorem ignores_put (name : String) (value : Value) :
    Ignores (.reroute input sink) (put name value) :=
  fun _ => rfl

/-- What is computed from the variables has nothing to do with the
channels. -/
theorem ignores_ofStore (compute : Store → Except Stop α) :
    Ignores (.reroute input sink)
      (do ofExcept (compute (← get).store)) := by
  intro machine
  change ofExcept (compute machine.store) (machine.reroute input sink) =
    onMachine _ (ofExcept (compute machine.store) machine)
  cases compute machine.store <;> rfl

theorem ignores_evaluate (expression : Expr) :
    Ignores (.reroute input sink) (evaluate expression) :=
  ignores_ofStore fun store => expression.evaluate store

theorem ignores_evaluateInt (expression : Expr) :
    Ignores (.reroute input sink) (evaluateInt expression) :=
  ignores_ofStore fun store => expression.evaluateInt store

theorem ignores_readLine (position : Position) :
    Ignores (.reroute id sink) (readLine position) := by
  intro machine
  have same : (machine.reroute id sink).input = machine.input := rfl
  rw [readLine_apply, readLine_apply, same]
  cases bytesText? (splitLine machine.input).1 with
  | none => rfl
  | some text => cases (splitLine machine.input).1.isEmpty <;> rfl

theorem ignores_readValue (target : Ident) (line : String)
    (position : Position) (present : Value) :
    Ignores (.reroute input sink)
      (readValue target line position present) := by
  cases present with
  | int number =>
      rw [readValue]
      cases Integer.read? (Text.trim line.toList) with
      | some value => exact ignores_pure _
      | none => exact ignores_throw _
  | string text => exact ignores_pure _
  | bool truth => exact ignores_throw _

theorem ignores_assignLine (target : Ident) (position : Position)
    (line : String) :
    Ignores (.reroute input sink) (assignLine target position line) := by
  refine (ignores_ofStore fun store => store.lookup target.name).bind
    fun present => ?_
  exact (ignores_readValue target line position present).bind fun value =>
    ignores_put target.name value

theorem ignores_readInto (target : Ident) (position : Position) :
    Ignores (.reroute id sink) (readInto target position) := by
  rw [readInto_eq]
  exact (ignores_readLine position).bind (ignores_assignLine target position)

theorem ignores_write (text : String) (position : Position) :
    Ignores (.reroute input id) (write text position) := by
  intro machine
  have same : (machine.reroute input id).sink = machine.sink := rfl
  rw [write, channel, channel, same]
  cases Sink.write (textBytes text) machine.sink <;> rfl

theorem ignores_demand (value : Value) (position : Position) :
    Ignores (.reroute input sink) (demand value position) := by
  cases value with
  | int number => exact ignores_throw _
  | string text => exact ignores_throw _
  | bool truth =>
      cases truth with
      | true => exact ignores_pure _
      | false => exact ignores_throw _

end Execution

namespace Task

/-- Whether a task performs a print statement. -/
def isPrint : Task → Bool
  | .perform _ (.print _ _) => true
  | _ => false

/-- Whether a task performs a read statement. -/
def isRead : Task → Bool
  | .perform _ (.read _ _) => true
  | _ => false

variable {input : List UInt8 → List UInt8} {sink : Sink → Sink}

theorem ignores_perform {address : Address} {statement : Stmt}
    (reads : (perform address statement).isRead = true → input = id)
    (prints : (perform address statement).isPrint = true → sink = id) :
    Ignores (.reroute input sink) (statement.perform address) := by
  cases statement with
  | declare name type initial position =>
      cases initial with
      | none => exact (ignores_put _ _).bind fun _ => ignores_pure _
      | some value =>
          refine Ignores.bind ?_ fun _ => ignores_pure _
          exact (ignores_evaluate value).bind fun value => ignores_put _ value
  | assign target value position =>
      refine Ignores.bind ?_ fun _ => ignores_pure _
      exact (ignores_evaluate value).bind fun value => ignores_put _ value
  | loop index low high body position =>
      refine (ignores_evaluateInt low).bind fun first => ?_
      exact (ignores_evaluateInt high).bind fun bound => ignores_pure _
  | read target position =>
      rw [reads rfl, Stmt.perform_read]
      exact (ignores_readInto target position).bind fun _ => ignores_pure _
  | print value position =>
      rw [prints rfl]
      refine Ignores.bind ?_ fun _ => ignores_pure _
      exact (ignores_evaluate value).bind fun shown =>
        ignores_write shown.text position
  | assert condition position =>
      refine Ignores.bind ?_ fun _ => ignores_pure _
      exact (ignores_evaluate condition).bind fun value =>
        ignores_demand value position

/-- A task goes the same way whatever the channels are that it has nothing to
do with. -/
theorem ignores_run {task : Task}
    (reads : task.isRead = true → input = id)
    (prints : task.isPrint = true → sink = id) :
    Ignores (.reroute input sink) task.run := by
  cases task with
  | perform address statement =>
      exact (ignores_record _).bind fun _ => ignores_perform reads prints
  | rounds address index body count value =>
      cases count with
      | zero => exact ignores_pure _
      | succ count => exact (ignores_put _ _).bind fun _ => ignores_pure _

end Task

end TinyImp
