import TinyImp.Proofs.Execution.Agenda

/-!
# What a task does to the variables

`Task.Effect` has one case for every way in which a task can succeed, and
`Task.Refusal` one for every way in which it can stop.  All that later modules
say about runs is derived from these two, so that none of them unfolds the
machine again.
-/

namespace TinyImp

open Execution TinyImp.Computation

/-- The expressions that a statement evaluates itself, not counting those of
the statements inside it. -/
def Stmt.operands : Stmt → List Expr
  | .declare _ _ initial _ => initial.toList
  | .loop _ low high _ _ => [low, high]
  | .read _ _ => []
  | .assign _ value _ | .print value _ | .assert value _ => [value]

/-- How a task can succeed: the tasks that take its place and the variables
after it. -/
inductive Task.Effect (store : Store) : Task → List Task → Store → Prop where
  | declare {address : Address} {name : Ident} {type : Ty}
      {position : Position} :
      Effect store (.perform address (.declare name type none position)) []
        (store.set name.name (.zero type))
  | declareAs {address : Address} {name : Ident} {type : Ty} {initial : Expr}
      {position : Position} {value : Value} :
      initial.evaluate store = .ok value →
      Effect store
        (.perform address (.declare name type (some initial) position)) []
        (store.set name.name value)
  | assign {address : Address} {target : Ident} {expression : Expr}
      {position : Position} {value : Value} :
      expression.evaluate store = .ok value →
      Effect store (.perform address (.assign target expression position)) []
        (store.set target.name value)
  | loop {address : Address} {index : Ident} {low high : Expr}
      {body : List Stmt} {position : Position} {first bound : Integer} :
      low.evaluateInt store = .ok first →
      high.evaluateInt store = .ok bound →
      Effect store (.perform address (.loop index low high body position))
        [.rounds address index body (bound.value - first.value).toNat first]
        store
  | read {address : Address} {target : Ident} {position : Position}
      {present value : Value} :
      store.get? target.name = some present →
      value.type = present.type →
      Effect store (.perform address (.read target position)) []
        (store.set target.name value)
  | print {address : Address} {expression : Expr} {position : Position}
      {value : Value} :
      expression.evaluate store = .ok value →
      Effect store (.perform address (.print expression position)) [] store
  | assert {address : Address} {condition : Expr} {position : Position} :
      condition.evaluate store = .ok (.bool true) →
      Effect store (.perform address (.assert condition position)) [] store
  | leave {address : Address} {index : Ident} {body : List Stmt}
      {value : Integer} :
      Effect store (.rounds address index body 0 value) [] store
  | enter {address : Address} {index : Ident} {body : List Stmt}
      {count : Nat} {value : Integer} :
      Effect store (.rounds address index body (count + 1) value)
        (Task.block address body ++
          [.rounds address index body count value.next])
        (store.set index.name (.int value))

/-- How a task can stop. -/
inductive Task.Refusal (store : Store) : Task → Stop → Prop where
  | failure {task : Task} (failure : Failure) :
      Refusal store task (.failure failure)
  | operand {address : Address} {statement : Stmt} {expression : Expr}
      {stop : Stop} :
      expression ∈ statement.operands →
      expression.evaluate store = .error stop →
      Refusal store (.perform address statement) stop
  | bound {address : Address} {index : Ident} {low high expression : Expr}
      {body : List Stmt} {position : Position} {value : Value} :
      expression = low ∨ expression = high →
      expression.evaluate store = .ok value →
      value.type ≠ .int →
      Refusal store (.perform address (.loop index low high body position))
        (.fault (.boundValue expression.position value))
  | condition {address : Address} {condition : Expr} {position : Position}
      {value : Value} :
      condition.evaluate store = .ok value →
      value.type ≠ .bool →
      Refusal store (.perform address (.assert condition position))
        (.fault (.assertedValue value))
  | unboundTarget {address : Address} {target : Ident} {position : Position} :
      store.get? target.name = none →
      Refusal store (.perform address (.read target position))
        (.fault (.unboundVariable target.name))
  | boolTarget {address : Address} {target : Ident} {position : Position}
      {value : Bool} :
      store.get? target.name = some (.bool value) →
      Refusal store (.perform address (.read target position))
        (.fault (.readIntoBool target.name))

namespace Execution

theorem evaluate_apply (expression : Expr) (machine : Machine) :
    evaluate expression machine =
      ofExcept (expression.evaluate machine.store) machine :=
  rfl

theorem evaluateInt_apply (expression : Expr) (machine : Machine) :
    evaluateInt expression machine =
      ofExcept (expression.evaluateInt machine.store) machine :=
  rfl

theorem evaluate_of_ok {expression : Expr} {machine : Machine} {value : Value}
    (success : expression.evaluate machine.store = .ok value) :
    evaluate expression machine = .ok value machine := by
  rw [evaluate_apply, success]
  rfl

theorem evaluate_of_error {expression : Expr} {machine : Machine} {stop : Stop}
    (failed : expression.evaluate machine.store = .error stop) :
    evaluate expression machine = .error stop machine := by
  rw [evaluate_apply, failed]
  rfl

theorem evaluateInt_of_ok {expression : Expr} {machine : Machine}
    {value : Integer}
    (success : expression.evaluateInt machine.store = .ok value) :
    evaluateInt expression machine = .ok value machine := by
  rw [evaluateInt_apply, success]
  rfl

theorem evaluateInt_of_error {expression : Expr} {machine : Machine}
    {stop : Stop}
    (failed : expression.evaluateInt machine.store = .error stop) :
    evaluateInt expression machine = .error stop machine := by
  rw [evaluateInt_apply, failed]
  rfl

theorem channel_outcome (action : EStateM ChannelError Sink Unit)
    (position : Position) (machine : Machine) :
    ∃ later, later.store = machine.store ∧
      (channel action position machine = .ok () later ∨
        ∃ failure,
          channel action position machine = .error (.failure failure) later) := by
  unfold channel
  cases action machine.sink with
  | ok _ sink => exact ⟨{ machine with sink }, rfl, .inl rfl⟩
  | error error sink => exact ⟨{ machine with sink }, rfl, .inr ⟨_, rfl⟩⟩

/-- The machine after the next line of the input has been taken. -/
def takeLine (machine : Machine) : Machine :=
  { machine with input := (splitLine machine.input).2 }

/-- Whether there is a line left in the input and it is a text. -/
def hasLine (machine : Machine) : Bool :=
  !(splitLine machine.input).1.isEmpty &&
    (bytesText? (splitLine machine.input).1).isSome

theorem readLine_apply (position : Position) (machine : Machine) :
    readLine position machine =
      match bytesText? (splitLine machine.input).1 with
      | none => .error (.failed (.channel .notText) position)
          (takeLine machine)
      | some text =>
          if (splitLine machine.input).1.isEmpty then
            .error (.failed .inputExhausted position) (takeLine machine)
          else .ok text (takeLine machine) := by
  have present : (get : Execution Machine) machine = .ok machine machine := rfl
  rw [readLine, bind_of_ok present, takeLine]
  obtain ⟨line, rest⟩ := splitLine machine.input
  dsimp only
  cases bytesText? line with
  | none => rfl
  | some text => cases line.isEmpty <;> rfl

theorem readLine_outcome (position : Position) (machine : Machine) :
    (hasLine machine = true ∧
        ∃ line, readLine position machine = .ok line (takeLine machine)) ∨
      (hasLine machine = false ∧
        ∃ failure, readLine position machine =
          .error (.failure failure) (takeLine machine)) := by
  rw [readLine_apply, hasLine]
  cases bytesText? (splitLine machine.input).1 with
  | none => exact .inr ⟨Bool.and_false _, _, rfl⟩
  | some text =>
      cases (splitLine machine.input).1.isEmpty with
      | true => exact .inr ⟨rfl, _, rfl⟩
      | false => exact .inl ⟨rfl, text, rfl⟩

/-- Sets a variable to what a line stands for. -/
def assignLine (target : Ident) (position : Position) (line : String) :
    Execution Unit := do
  let present ← (do ofExcept ((← get).store.lookup target.name))
  put target.name (← readValue target line position present)

theorem readInto_eq (target : Ident) (position : Position) :
    readInto target position =
      readLine position >>= fun line => assignLine target position line := by
  simp only [readInto, assignLine, bind_assoc]

theorem readInto_of_line (target : Ident) {line : String}
    {position : Position} {machine : Machine}
    (taken : readLine position machine = .ok line (takeLine machine)) :
    readInto target position machine =
      (ofExcept (machine.store.lookup target.name) >>= fun present =>
        readValue target line position present >>= put target.name)
        (takeLine machine) := by
  rw [readInto, bind_of_ok taken]
  rfl

/-- What is read for a variable has the type of the value that it holds;
reading into a boolean is a fault. -/
theorem readValue_outcome (target : Ident) (line : String)
    (position : Position) (present : Value) (machine : Machine) :
    (∃ value, readValue target line position present machine =
        .ok value machine ∧ value.type = present.type) ∨
      (∃ failure, readValue target line position present machine =
        .error (.failure failure) machine) ∨
      ((∃ truth, present = .bool truth) ∧
        readValue target line position present machine =
          .error (.fault (.readIntoBool target.name)) machine) := by
  cases present with
  | int number =>
      rw [readValue]
      cases Integer.read? (Text.trim line.toList) with
      | some value => exact .inl ⟨.int value, rfl, rfl⟩
      | none => exact .inr (.inl ⟨_, rfl⟩)
  | string text => exact .inl ⟨_, rfl, rfl⟩
  | bool truth => exact .inr (.inr ⟨⟨truth, rfl⟩, rfl⟩)

end Execution

theorem Expr.evaluateInt_outcome (store : Store) (expression : Expr) :
    (∃ value, expression.evaluate store = .ok (.int value) ∧
        expression.evaluateInt store = .ok value) ∨
      (∃ stop, expression.evaluate store = .error stop ∧
        expression.evaluateInt store = .error stop) ∨
      (∃ value, expression.evaluate store = .ok value ∧ value.type ≠ .int ∧
        expression.evaluateInt store =
          .error (.fault (.boundValue expression.position value))) := by
  cases evaluated : expression.evaluate store with
  | error stop =>
      refine .inr (.inl ⟨stop, rfl, ?_⟩)
      rw [Expr.evaluateInt, evaluated]
      rfl
  | ok value =>
      cases value with
      | int number =>
          refine .inl ⟨number, rfl, ?_⟩
          rw [Expr.evaluateInt, evaluated]
          rfl
      | string text =>
          refine .inr (.inr ⟨.string text, rfl, nofun, ?_⟩)
          rw [Expr.evaluateInt, evaluated]
          rfl
      | bool truth =>
          refine .inr (.inr ⟨.bool truth, rfl, nofun, ?_⟩)
          rw [Expr.evaluateInt, evaluated]
          rfl

/-- What an outcome of a task says about the variables. -/
def Task.Explains (task : Task) (store : Store) :
    EStateM.Result Stop Machine (List Task) → Prop
  | .ok tasks later => task.Effect store tasks later.store
  | .error stop later => later.store = store ∧ task.Refusal store stop

private theorem explains_of_evaluate {address : Address} {statement : Stmt}
    {expression : Expr} {next : Value → Execution Unit} {machine : Machine}
    (single : statement.perform address =
      statement.execute >>= fun _ => pure [])
    (executed : statement.execute = evaluate expression >>= next)
    (operand : expression ∈ statement.operands)
    (success : ∀ value later, expression.evaluate machine.store = .ok value →
      next value machine = .ok () later →
      (Task.perform address statement).Effect machine.store [] later.store)
    (stopped : ∀ value stop later,
      expression.evaluate machine.store = .ok value →
      next value machine = .error stop later →
      later.store = machine.store ∧
        (Task.perform address statement).Refusal machine.store stop) :
    (Task.perform address statement).Explains machine.store
      (statement.perform address machine) := by
  rw [single, executed]
  cases evaluated : expression.evaluate machine.store with
  | error stop =>
      rw [bind_of_error (bind_of_error (evaluate_of_error evaluated))]
      exact ⟨rfl, .operand operand evaluated⟩
  | ok value =>
      cases outcome : next value machine with
      | ok done later =>
          have ran : (evaluate expression >>= next) machine = .ok () later := by
            rw [bind_of_ok (evaluate_of_ok evaluated), outcome]
          rw [bind_of_ok ran]
          exact success value later evaluated outcome
      | error stop later =>
          have ran : (evaluate expression >>= next) machine =
              .error stop later := by
            rw [bind_of_ok (evaluate_of_ok evaluated), outcome]
          rw [bind_of_error ran]
          exact stopped value stop later evaluated outcome

theorem Stmt.perform_read (address : Address) (target : Ident)
    (position : Position) :
    (Stmt.read target position).perform address =
      (readInto target position >>= fun _ => pure []) := by
  rw [Stmt.perform, Stmt.execute]
  intro _ _ _ _ _ same
  cases same

private theorem perform_read_explained (address : Address) (target : Ident)
    (position : Position) (machine : Machine) :
    (Task.perform address (.read target position)).Explains machine.store
      ((Stmt.read target position).perform address machine) := by
  rw [Stmt.perform_read]
  rcases readLine_outcome position machine with
    ⟨_, line, taken⟩ | ⟨_, failure, failed⟩
  · have continued := readInto_of_line target taken
    cases bound : machine.store.get? target.name with
    | none =>
        have missing : machine.store.lookup target.name =
            .error (.fault (.unboundVariable target.name)) := by
          rw [Store.lookup, bound]
        rw [missing] at continued
        rw [bind_of_error continued]
        exact ⟨rfl, .unboundTarget bound⟩
    | some present =>
        have found : machine.store.lookup target.name = .ok present := by
          rw [Store.lookup, bound]
        rw [found] at continued
        change _ = (readValue target line position present >>=
          put target.name) (takeLine machine) at continued
        rcases readValue_outcome target line position present
            (takeLine machine) with
          ⟨value, read, sameType⟩ | ⟨failure, failed⟩ | ⟨⟨truth, rfl⟩, refused⟩
        · rw [bind_of_ok read] at continued
          rw [bind_of_ok continued]
          exact .read bound sameType
        · rw [bind_of_error failed] at continued
          rw [bind_of_error continued]
          exact ⟨rfl, .failure failure⟩
        · rw [bind_of_error refused] at continued
          rw [bind_of_error continued]
          exact ⟨rfl, .boolTarget bound⟩
  · have stopped : readInto target position machine =
        .error (.failure failure) (takeLine machine) :=
      bind_of_error failed
    rw [bind_of_error stopped]
    exact ⟨rfl, .failure failure⟩

private theorem perform_loop_explained (address : Address) (index : Ident)
    (low high : Expr) (body : List Stmt) (position : Position)
    (machine : Machine) :
    (Task.perform address (.loop index low high body position)).Explains
      machine.store
      ((Stmt.loop index low high body position).perform address machine) := by
  rw [Stmt.perform]
  rcases low.evaluateInt_outcome machine.store with
    ⟨first, _, lowValue⟩ | ⟨stop, failed, lowStop⟩ |
      ⟨value, lowValue, notInt, lowStop⟩
  · rw [bind_of_ok (evaluateInt_of_ok lowValue)]
    rcases high.evaluateInt_outcome machine.store with
      ⟨bound, _, highValue⟩ | ⟨stop, failed, highStop⟩ |
        ⟨value, highValue, notInt, highStop⟩
    · rw [bind_of_ok (evaluateInt_of_ok highValue)]
      exact .loop lowValue highValue
    · rw [bind_of_error (evaluateInt_of_error highStop)]
      exact ⟨rfl, .operand (by simp [Stmt.operands]) failed⟩
    · rw [bind_of_error (evaluateInt_of_error highStop)]
      exact ⟨rfl, .bound (.inr rfl) highValue notInt⟩
  · rw [bind_of_error (evaluateInt_of_error lowStop)]
    exact ⟨rfl, .operand (by simp [Stmt.operands]) failed⟩
  · rw [bind_of_error (evaluateInt_of_error lowStop)]
    exact ⟨rfl, .bound (.inl rfl) lowValue notInt⟩

/-- Every outcome of performing a statement is one of the cases of
`Task.Effect` and `Task.Refusal`. -/
theorem Stmt.perform_explained (address : Address) (statement : Stmt)
    (machine : Machine) :
    (Task.perform address statement).Explains machine.store
      (statement.perform address machine) := by
  cases statement with
  | declare name type initial position =>
      cases initial with
      | none => exact .declare
      | some value =>
          refine explains_of_evaluate rfl rfl List.mem_cons_self ?_ ?_
          · intro value later evaluated bound
            cases bound
            exact .declareAs evaluated
          · intro value stop later evaluated failed
            cases failed
  | assign target value position =>
      refine explains_of_evaluate rfl rfl List.mem_cons_self ?_ ?_
      · intro value later evaluated bound
        cases bound
        exact .assign evaluated
      · intro value stop later evaluated failed
        cases failed
  | loop index low high body position =>
      exact perform_loop_explained address index low high body position machine
  | read target position =>
      exact perform_read_explained address target position machine
  | print value position =>
      refine explains_of_evaluate rfl rfl List.mem_cons_self ?_ ?_
      · intro value later evaluated written
        obtain ⟨other, same, ⟨success⟩ | ⟨failure, failed⟩⟩ :=
          channel_outcome (Sink.write (textBytes value.text)) position machine
        · rw [write, success] at written
          cases written
          rw [same]
          exact .print evaluated
        · rw [write, failed] at written
          cases written
      · intro value stop later evaluated refused
        obtain ⟨other, same, ⟨success⟩ | ⟨failure, failed⟩⟩ :=
          channel_outcome (Sink.write (textBytes value.text)) position machine
        · rw [write, success] at refused
          cases refused
        · rw [write, failed] at refused
          cases refused
          exact ⟨same, .failure failure⟩
  | assert condition position =>
      refine explains_of_evaluate rfl rfl List.mem_cons_self ?_ ?_
      · intro value later evaluated demanded
        cases value with
        | int number => cases demanded
        | string text => cases demanded
        | bool truth =>
            cases truth with
            | true =>
                cases demanded
                exact .assert evaluated
            | false => cases demanded
      · intro value stop later evaluated refused
        cases value with
        | int number =>
            cases refused
            exact ⟨rfl, .condition evaluated nofun⟩
        | string text =>
            cases refused
            exact ⟨rfl, .condition evaluated nofun⟩
        | bool truth =>
            cases truth with
            | true => cases refused
            | false =>
                cases refused
                exact ⟨rfl, .failure _⟩

namespace Task

theorem run_explained (task : Task) (machine : Machine) :
    task.Explains machine.store (task.run machine) := by
  cases task with
  | perform address statement => exact statement.perform_explained address _
  | rounds address index body count value =>
      cases count with
      | zero => exact .leave
      | succ count => exact .enter

theorem effect_of_run {task : Task} {machine later : Machine}
    {tasks : List Task} (success : task.run machine = .ok tasks later) :
    task.Effect machine.store tasks later.store := by
  have explained := task.run_explained machine
  rw [success] at explained
  exact explained

theorem refusal_of_run {task : Task} {machine later : Machine} {stop : Stop}
    (failed : task.run machine = .error stop later) :
    later.store = machine.store ∧ task.Refusal machine.store stop := by
  have explained := task.run_explained machine
  rw [failed] at explained
  exact explained

end Task

end TinyImp
