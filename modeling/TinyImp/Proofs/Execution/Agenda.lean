import TinyImp.Execution.Statement
import TinyImp.Proofs.Computation
import TinyImp.Proofs.Tree.Address

/-!
# Runs as agendas of tasks

A run is cut into tasks that each change at most one variable.  What is still
to be done is an agenda: statements to perform, each with the place where it
stands in the program, and loops with rounds left.  Performing the first task
of the agenda puts the tasks that it leads to in its place.

`Program.execute_yields` says that executing a program and working off its
agenda come to the same end, and `Program.execute_eq_error_of_steps` that an
agenda which stops tells how the execution ends.
-/

namespace TinyImp

open Execution TinyImp.Computation

/-- A part of a run. -/
inductive Task where
  | perform (address : Address) (statement : Stmt)
  | rounds (address : Address) (index : Ident) (body : List Stmt)
      (count : Nat) (value : Integer)

namespace Task

def address : Task → Address
  | perform address _ | rounds address _ _ _ _ => address

/-- The tasks of statements that stand in a row from `number` on. -/
def blockFrom (outer : Address) : Nat → List Stmt → List Task
  | _, [] => []
  | number, statement :: others =>
      perform (outer ++ [number]) statement ::
        blockFrom outer (number + 1) others

def block (outer : Address) (statements : List Stmt) : List Task :=
  blockFrom outer 0 statements

end Task

/-- Performs a statement as far as it is a single step, and gives the tasks
that are left of it.  Only a loop leaves any. -/
def Stmt.perform (address : Address) : Stmt → Execution (List Task)
  | .loop index low high body _ => do
      let first ← evaluateInt low
      let bound ← evaluateInt high
      return [.rounds address index body
        (bound.value - first.value).toNat first]
  | statement => do
      statement.execute
      return []

/-- Performs a task and gives the tasks that take its place. -/
def Task.run : Task → Execution (List Task)
  | .perform address statement => do
      record (.executed statement)
      statement.perform address
  | .rounds _ _ _ 0 _ => return []
  | .rounds address index body (count + 1) value => do
      put index.name (.int value)
      return Task.block address body ++
        [.rounds address index body count value.next]

/-- A run that has come so far: what is still to be done, and the machine. -/
structure Config where
  agenda : List Task
  machine : Machine

/-- One configuration leads to another by performing the tasks of `trace`. -/
inductive Steps : Config → List Task → Config → Prop where
  | refl (config : Config) : Steps config [] config
  | next {task : Task} {tasks rest trace : List Task}
      {machine later : Machine} {final : Config} :
      task.run machine = .ok tasks later →
      Steps ⟨tasks ++ rest, later⟩ trace final →
      Steps ⟨task :: rest, machine⟩ (task :: trace) final

/-- How a run ends in which `rest` is left for later: with all before it done,
or at a task that stops. -/
def Config.Yields (config : Config) (rest : List Task) :
    EStateM.Result Stop Machine Unit → Prop
  | .ok _ machine => ∃ trace, Steps config trace ⟨rest, machine⟩
  | .error stop machine => ∃ trace task others before,
      Steps config trace ⟨task :: others, before⟩ ∧
        task.run before = .error stop machine

/-- The configuration in which the execution of a program begins. -/
def Program.start (program : Program) (machine : Machine) : Config where
  agenda := Task.block [] program
  machine :=
    { machine with journal := machine.journal.record (.executing program.length) }

/-- The machines that an execution passes through, the one that it stops with
included. -/
inductive Program.Reaches (program : Program) (machine : Machine) :
    Machine → Prop where
  | during {trace agenda : List Task} {reached : Machine} :
      Steps (program.start machine) trace ⟨agenda, reached⟩ →
      Reaches program machine reached
  | stopped {trace rest : List Task} {task : Task} {stop : Stop}
      {before reached : Machine} :
      Steps (program.start machine) trace ⟨task :: rest, before⟩ →
      task.run before = .error stop reached →
      Reaches program machine reached

namespace Steps

theorem trans {first second third : Config} {early late : List Task}
    (before : Steps first early second) (after : Steps second late third) :
    Steps first (early ++ late) third := by
  induction before with
  | refl config => exact after
  | next success _ induction => exact .next success (induction after)

/-- Of two runs from one configuration, one goes on where the other is. -/
theorem comparable {start left right : Config} {early late : List Task}
    (leftRun : Steps start early left) (rightRun : Steps start late right) :
    (∃ more, Steps left more right) ∨ ∃ more, Steps right more left := by
  induction leftRun generalizing late with
  | refl config => exact .inl ⟨late, rightRun⟩
  | next success run induction =>
      cases rightRun with
      | refl config => exact .inr ⟨_, .next success run⟩
      | next again rightRun =>
          rw [success] at again
          cases again
          exact induction rightRun

theorem eq_of_stopped {task : Task} {rest trace : List Task}
    {machine later : Machine} {stop : Stop} {final : Config}
    (failed : task.run machine = .error stop later)
    (steps : Steps ⟨task :: rest, machine⟩ trace final) :
    final = ⟨task :: rest, machine⟩ := by
  cases steps with
  | refl config => rfl
  | next success _ =>
      rw [failed] at success
      cases success

end Steps

namespace Config

/-- What `first` yields up to `middle` and `middle` up to `rest` is what
`first` yields up to `rest`. -/
theorem Yields.bind {first : Config} {middle rest : List Task}
    {action : Execution Unit} {next : Unit → Execution Unit}
    {machine : Machine}
    (early : first.Yields middle (action machine))
    (late : ∀ later, Config.Yields ⟨middle, later⟩ rest (next () later)) :
    first.Yields rest ((action >>= next) machine) := by
  cases outcome : action machine with
  | error stop later =>
      rw [bind_of_error outcome]
      rw [outcome] at early
      exact early
  | ok value later =>
      rw [bind_of_ok outcome]
      rw [outcome] at early
      obtain ⟨trace, steps⟩ := early
      have following := late later
      cases ending : next () later with
      | ok value final =>
          rw [ending] at following
          obtain ⟨more, further⟩ := following
          exact ⟨trace ++ more, steps.trans further⟩
      | error stop final =>
          rw [ending] at following
          obtain ⟨more, task, others, before, further, failed⟩ := following
          exact ⟨trace ++ more, task, others, before, steps.trans further,
            failed⟩

theorem Yields.of_step {task : Task} {tasks rest others : List Task}
    {machine later : Machine} {outcome : EStateM.Result Stop Machine Unit}
    (success : task.run machine = .ok tasks later)
    (following : Config.Yields ⟨tasks ++ others, later⟩ rest outcome) :
    Config.Yields ⟨task :: others, machine⟩ rest outcome := by
  cases outcome with
  | ok value final =>
      obtain ⟨trace, steps⟩ := following
      exact ⟨_, .next success steps⟩
  | error stop final =>
      obtain ⟨trace, failing, remaining, before, steps, failed⟩ := following
      exact ⟨_, failing, remaining, before, .next success steps, failed⟩

theorem Yields.of_stop {task : Task} {rest others : List Task}
    {machine later : Machine} {stop : Stop}
    (failed : task.run machine = .error stop later) :
    Config.Yields ⟨task :: others, machine⟩ rest (.error stop later) :=
  ⟨[], task, others, machine, .refl _, failed⟩

end Config

/-- Executes the body of a loop for one value of its index. -/
def Stmt.round (index : Ident) (body : List Stmt) (value : Integer) :
    Execution Unit := do
  put index.name (.int value)
  Stmt.executeList body

private theorem rounds_yields {body : List Stmt}
    (bodyYields : ∀ outer rest machine,
      Config.Yields ⟨Task.block outer body ++ rest, machine⟩ rest
        (Stmt.executeList body machine))
    (address : Address) (index : Ident) (rest : List Task)
    (count : Nat) (value : Integer) (machine : Machine) :
    Config.Yields ⟨.rounds address index body count value :: rest, machine⟩
      rest (forEach (Stmt.round index body) count value machine) := by
  induction count generalizing value machine with
  | zero =>
      have performed : (Task.rounds address index body 0 value).run machine =
          .ok [] machine := rfl
      exact .of_step performed ⟨[], .refl _⟩
  | succ count induction =>
      let bound : Machine :=
        { machine with store := machine.store.set index.name (.int value) }
      have performed : (Task.rounds address index body (count + 1) value).run
          machine = .ok (Task.block address body ++
            [.rounds address index body count value.next]) bound := rfl
      refine .of_step performed ?_
      rw [List.append_assoc]
      have unrolled : forEach (Stmt.round index body) (count + 1) value machine =
          (Stmt.executeList body >>= fun _ =>
            forEach (Stmt.round index body) count value.next) bound := rfl
      rw [unrolled]
      exact (bodyYields address _ bound).bind fun later =>
        induction value.next later

private theorem single_yields {address : Address} {statement : Stmt}
    (single : statement.perform address =
      statement.execute >>= fun _ => pure [])
    (rest : List Task) (machine : Machine) :
    Config.Yields ⟨.perform address statement :: rest, machine⟩ rest
      ((record (.executed statement) >>= fun _ => statement.execute)
        machine) := by
  have performed : (Task.perform address statement).run machine =
      ((record (.executed statement) >>= fun _ => statement.execute) >>=
        fun _ => pure []) machine := by
    rw [Task.run, single, bind_assoc]
  cases outcome :
      (record (.executed statement) >>= fun _ => statement.execute) machine with
  | ok value later =>
      rw [bind_of_ok outcome] at performed
      exact .of_step performed ⟨[], .refl _⟩
  | error stop later =>
      rw [bind_of_error outcome] at performed
      exact .of_stop performed

mutual

/-- Performing a statement yields what executing it yields. -/
theorem Stmt.perform_yields (statement : Stmt) (address : Address)
    (rest : List Task) (machine : Machine) :
    Config.Yields ⟨.perform address statement :: rest, machine⟩ rest
      ((record (.executed statement) >>= fun _ => statement.execute)
        machine) := by
  cases statement with
  | loop index low high body position =>
      let recorded : Machine :=
        { machine with
          journal := machine.journal.record
            (.executed (.loop index low high body position)) }
      have performed :
          (Task.perform address (.loop index low high body position)).run
            machine =
          (evaluateInt low >>= fun first => evaluateInt high >>= fun bound =>
            pure [Task.rounds address index body
              (bound.value - first.value).toNat first]) recorded := rfl
      have executed :
          (record (.executed (.loop index low high body position)) >>= fun _ =>
            (Stmt.loop index low high body position).execute) machine =
          (evaluateInt low >>= fun first => evaluateInt high >>= fun bound =>
            forEach (Stmt.round index body)
              (bound.value - first.value).toNat first) recorded := by
        rw [Stmt.execute]
        rfl
      rw [executed]
      cases lowOutcome : evaluateInt low recorded with
      | error stop later =>
          rw [bind_of_error lowOutcome] at performed ⊢
          exact .of_stop performed
      | ok first afterLow =>
          rw [bind_of_ok lowOutcome] at performed ⊢
          cases highOutcome : evaluateInt high afterLow with
          | error stop later =>
              rw [bind_of_error highOutcome] at performed ⊢
              exact .of_stop performed
          | ok bound afterHigh =>
              rw [bind_of_ok highOutcome] at performed ⊢
              refine .of_step performed ?_
              exact rounds_yields
                (fun outer rest machine =>
                  Stmt.blockFrom_yields body outer 0 rest machine)
                address index rest _ first afterHigh
  | declare name type initial position => exact single_yields rfl rest machine
  | assign target value position => exact single_yields rfl rest machine
  | read target position => exact single_yields rfl rest machine
  | print value position => exact single_yields rfl rest machine
  | assert condition position => exact single_yields rfl rest machine

theorem Stmt.blockFrom_yields (block : List Stmt) (outer : Address)
    (number : Nat) (rest : List Task) (machine : Machine) :
    Config.Yields ⟨Task.blockFrom outer number block ++ rest, machine⟩ rest
      (Stmt.executeList block machine) := by
  cases block with
  | nil => exact ⟨[], .refl _⟩
  | cons statement others =>
      have unrolled : Stmt.executeList (statement :: others) machine =
          ((record (.executed statement) >>= fun _ => statement.execute) >>=
            fun _ => Stmt.executeList others) machine := by
        rw [Stmt.executeList, bind_assoc]
      rw [unrolled]
      exact (Stmt.perform_yields statement (outer ++ [number]) _ machine).bind
        fun later => Stmt.blockFrom_yields others outer (number + 1) rest later

end

namespace Program

/-- Working off the agenda of a program ends as executing the program does. -/
theorem execute_yields (program : Program) (machine : Machine) :
    (program.start machine).Yields [] (program.execute machine) := by
  have yields := Stmt.blockFrom_yields program [] 0 []
    (program.start machine).machine
  rw [List.append_nil] at yields
  exact yields

/-- If working off the agenda comes to its end, then so does executing the
program. -/
theorem execute_eq_ok_of_steps {program : Program} {machine final : Machine}
    {trace : List Task}
    (steps : Steps (program.start machine) trace ⟨[], final⟩) :
    program.execute machine = .ok () final := by
  have yields := program.execute_yields machine
  cases outcome : program.execute machine with
  | ok value other =>
      rw [outcome] at yields
      obtain ⟨whole, finished⟩ := yields
      rcases steps.comparable finished with ⟨more, further⟩ | ⟨more, further⟩
      · cases further
        rfl
      · cases further
        rfl
  | error stop other =>
      rw [outcome] at yields
      obtain ⟨whole, task, others, before, stopped, failed⟩ := yields
      rcases steps.comparable stopped with ⟨more, further⟩ | ⟨more, further⟩
      · cases further
      · cases further.eq_of_stopped failed

/-- If working off the agenda comes to a task that stops, then executing the
program ends with that stop. -/
theorem execute_eq_error_of_steps {program : Program}
    {machine before later : Machine} {trace rest : List Task} {task : Task}
    {stop : Stop}
    (steps : Steps (program.start machine) trace ⟨task :: rest, before⟩)
    (failed : task.run before = .error stop later) :
    program.execute machine = .error stop later := by
  have yields := program.execute_yields machine
  cases outcome : program.execute machine with
  | ok value final =>
      rw [outcome] at yields
      obtain ⟨whole, finished⟩ := yields
      rcases steps.comparable finished with ⟨more, further⟩ | ⟨more, further⟩
      · cases further.eq_of_stopped failed
      · cases further
  | error other final =>
      rw [outcome] at yields
      obtain ⟨whole, failing, others, state, stopped, failedThere⟩ := yields
      have same : (⟨failing :: others, state⟩ : Config) =
          ⟨task :: rest, before⟩ := by
        rcases steps.comparable stopped with ⟨more, further⟩ | ⟨more, further⟩
        · exact further.eq_of_stopped failed
        · exact (further.eq_of_stopped failedThere).symm
      cases same
      rw [failed] at failedThere
      cases failedThere
      rfl

end Program

end TinyImp
