import TinyImp.Proofs.Execution.Effect

/-!
# Variables that a step looks up

The names that are looked up while a task is performed, as far as it comes.
A task stops at an unbound variable exactly if it looks up a name that is not
bound.
-/

namespace TinyImp

open Execution TinyImp.Computation

/-- The names that are looked up while an expression is evaluated: what stands
behind an operand that stops is not reached. -/
def Expr.lookups (store : Store) : Expr → List String
  | .number _ _ | .text _ _ => []
  | .named name _ => [name]
  | .lone operand _ | .negation operand _ => operand.lookups store
  | .binary _ left right _ =>
      left.lookups store ++
        match left.evaluate store with
        | .ok _ => right.lookups store
        | .error _ => []

/-- The names that are looked up while a statement is performed.  The target
of a read is looked up after its line has been taken. -/
def Stmt.lookups (machine : Machine) : Stmt → List String
  | .declare _ _ initial _ => initial.elim [] (Expr.lookups machine.store)
  | .loop _ low high _ _ =>
      low.lookups machine.store ++
        match low.evaluateInt machine.store with
        | .ok _ => high.lookups machine.store
        | .error _ => []
  | .read target _ => if hasLine machine then [target.name] else []
  | .assign _ value _ | .print value _ | .assert value _ =>
      value.lookups machine.store

theorem Expr.lookups_subset_names {store : Store} {name : String}
    (expression : Expr) (member : name ∈ expression.lookups store) :
    name ∈ expression.names := by
  induction expression with
  | number value position => exact member
  | text value position => exact member
  | named other position => exact member
  | lone operand position induction => exact induction member
  | negation operand position induction => exact induction member
  | binary operator left right position leftInduction rightInduction =>
      rcases List.mem_append.1 member with inLeft | inRight
      · exact List.mem_append.2 (.inl (leftInduction inLeft))
      · split at inRight
        · exact List.mem_append.2 (.inr (rightInduction inRight))
        · cases inRight

theorem Stmt.lookups_subset_consults {machine : Machine} {name : String}
    (statement : Stmt) (member : name ∈ statement.lookups machine) :
    name ∈ statement.consults := by
  cases statement with
  | declare ident type initial position =>
      cases initial with
      | none => exact member
      | some value => exact value.lookups_subset_names member
  | loop index low high body position =>
      rcases List.mem_append.1 member with inLow | inHigh
      · exact List.mem_append.2 (.inl (low.lookups_subset_names inLow))
      · split at inHigh
        · exact List.mem_append.2 (.inr (high.lookups_subset_names inHigh))
        · cases inHigh
  | read target position =>
      simp only [Stmt.lookups] at member
      split at member
      · exact member
      · cases member
  | assign target value position => exact value.lookups_subset_names member
  | print value position => exact value.lookups_subset_names member
  | assert condition position => exact condition.lookups_subset_names member

theorem Value.ofResult_ne_fault (result : Option Integer) (position : Position)
    (fault : Fault) : Value.ofResult result position ≠ .error (.fault fault) := by
  cases result <;> exact nofun

theorem BinaryOp.apply_ne_unbound (operator : BinaryOp) (left right : Value)
    (position : Position) (name : String) :
    operator.apply left right position ≠
      .error (.fault (.unboundVariable name)) := by
  intro stopped
  unfold BinaryOp.apply at stopped
  split at stopped
  · exact Value.ofResult_ne_fault _ _ _ stopped
  · cases stopped
  · exact Value.ofResult_ne_fault _ _ _ stopped
  · exact Value.ofResult_ne_fault _ _ _ stopped
  · split at stopped
    · cases stopped
    · exact Value.ofResult_ne_fault _ _ _ stopped
  · cases stopped
  · split at stopped
    · cases stopped
    · cases stopped
  · split at stopped
    · cases stopped
    · cases stopped
  · cases stopped

theorem Value.negate_ne_unbound (value : Value) (name : String) :
    value.negate ≠ .error (.fault (.unboundVariable name)) := by
  cases value <;> exact nofun

theorem Store.lookup_eq_unbound_iff {store : Store} {looked name : String} :
    store.lookup looked = .error (.fault (.unboundVariable name)) ↔
      name = looked ∧ store.get? name = none := by
  unfold Store.lookup
  cases bound : store.get? looked with
  | some value =>
      constructor
      · intro absurdity
        cases absurdity
      · intro given
        obtain ⟨rfl, absent⟩ := given
        rw [bound] at absent
        cases absent
  | none =>
      constructor
      · intro stopped
        cases stopped
        exact ⟨rfl, bound⟩
      · intro given
        obtain ⟨rfl, _⟩ := given
        rfl

namespace Expr

theorem evaluate_negation_of_ok {store : Store} {operand : Expr}
    {position : Position} {value : Value}
    (success : operand.evaluate store = .ok value) :
    (Expr.negation operand position).evaluate store = value.negate := by
  rw [Expr.evaluate, success]
  rfl

theorem evaluate_negation_of_error {store : Store} {operand : Expr}
    {position : Position} {stop : Stop}
    (failed : operand.evaluate store = .error stop) :
    (Expr.negation operand position).evaluate store = .error stop := by
  rw [Expr.evaluate, failed]
  rfl

theorem evaluate_binary_of_ok {store : Store} {operator : BinaryOp}
    {left right : Expr} {position : Position} {first second : Value}
    (leftSuccess : left.evaluate store = .ok first)
    (rightSuccess : right.evaluate store = .ok second) :
    (Expr.binary operator left right position).evaluate store =
      operator.apply first second position := by
  rw [Expr.evaluate, leftSuccess, rightSuccess]
  rfl

theorem evaluate_binary_of_left_error {store : Store} {operator : BinaryOp}
    {left right : Expr} {position : Position} {stop : Stop}
    (failed : left.evaluate store = .error stop) :
    (Expr.binary operator left right position).evaluate store =
      .error stop := by
  rw [Expr.evaluate, failed]
  rfl

theorem evaluate_binary_of_right_error {store : Store} {operator : BinaryOp}
    {left right : Expr} {position : Position} {first : Value} {stop : Stop}
    (leftSuccess : left.evaluate store = .ok first)
    (failed : right.evaluate store = .error stop) :
    (Expr.binary operator left right position).evaluate store =
      .error stop := by
  rw [Expr.evaluate, leftSuccess, failed]
  rfl

/-- The evaluation of an expression stops at an unbound variable exactly if it
looks up a name that is not bound. -/
theorem evaluate_eq_unbound_iff {store : Store} {name : String}
    (expression : Expr) :
    expression.evaluate store = .error (.fault (.unboundVariable name)) ↔
      name ∈ expression.lookups store ∧ store.get? name = none := by
  induction expression with
  | number value position =>
      constructor
      · intro absurdity
        cases absurdity
      · intro given
        obtain ⟨absurdity, _⟩ := given
        cases absurdity
  | text value position =>
      constructor
      · intro absurdity
        cases absurdity
      · intro given
        obtain ⟨absurdity, _⟩ := given
        cases absurdity
  | named looked position =>
      rw [Expr.evaluate, Store.lookup_eq_unbound_iff, Expr.lookups,
        List.mem_singleton]
  | lone operand position induction => exact induction
  | negation operand position induction =>
      rw [Expr.lookups, ← induction]
      cases evaluated : operand.evaluate store with
      | ok value =>
          rw [evaluate_negation_of_ok evaluated]
          constructor
          · intro stopped
            exact absurd stopped (value.negate_ne_unbound name)
          · intro absurdity
            cases absurdity
      | error stop => rw [evaluate_negation_of_error evaluated]
  | binary operator left right position leftInduction rightInduction =>
      rw [Expr.lookups, List.mem_append, or_and_right, ← leftInduction]
      cases leftEvaluated : left.evaluate store with
      | error stop =>
          rw [evaluate_binary_of_left_error leftEvaluated]
          simp
      | ok first =>
          simp only [reduceCtorEq, false_or]
          rw [← rightInduction]
          cases rightEvaluated : right.evaluate store with
          | error stop =>
              rw [evaluate_binary_of_right_error leftEvaluated rightEvaluated]
          | ok second =>
              rw [evaluate_binary_of_ok leftEvaluated rightEvaluated]
              constructor
              · intro stopped
                exact absurd stopped
                  (operator.apply_ne_unbound first second position name)
              · intro absurdity
                cases absurdity

end Expr

theorem Expr.evaluateInt_eq_unbound_iff {store : Store} {name : String}
    (expression : Expr) :
    expression.evaluateInt store = .error (.fault (.unboundVariable name)) ↔
      expression.evaluate store = .error (.fault (.unboundVariable name)) := by
  rcases expression.evaluateInt_outcome store with
    ⟨value, evaluated, outcome⟩ | ⟨stop, evaluated, outcome⟩ |
      ⟨value, evaluated, _, outcome⟩
  · rw [evaluated, outcome]
    constructor <;> exact nofun
  · rw [evaluated, outcome]
    simp only [Except.error.injEq]
  · rw [evaluated, outcome]
    constructor <;> exact nofun

def Stmt.StopsUnbound (address : Address) (statement : Stmt)
    (machine : Machine) (name : String) : Prop :=
  ∃ later, statement.perform address machine =
    .error (.fault (.unboundVariable name)) later

private theorem stopsUnbound_iff_of_evaluate {address : Address}
    {statement : Stmt} {expression : Expr} {next : Value → Execution Unit}
    {machine : Machine} {name : String}
    (single : statement.perform address =
      statement.execute >>= fun _ => pure [])
    (executed : statement.execute = evaluate expression >>= next)
    (never : ∀ value later, next value machine ≠
      .error (.fault (.unboundVariable name)) later) :
    statement.StopsUnbound address machine name ↔
      name ∈ expression.lookups machine.store ∧
        machine.store.get? name = none := by
  rw [← expression.evaluate_eq_unbound_iff, Stmt.StopsUnbound, single, executed]
  cases evaluated : expression.evaluate machine.store with
  | error stop =>
      rw [bind_of_error (bind_of_error (evaluate_of_error evaluated))]
      constructor
      · intro given
        obtain ⟨later, stopped⟩ := given
        cases stopped
        rfl
      · intro stopped
        cases stopped
        exact ⟨machine, rfl⟩
  | ok value =>
      constructor
      · intro given
        obtain ⟨later, stopped⟩ := given
        rcases bind_eq_error_iff.1 stopped with early | ⟨_, middle, _, late⟩
        · rw [bind_of_ok (evaluate_of_ok evaluated)] at early
          exact absurd early (never value later)
        · cases late
      · intro absurdity
        cases absurdity

private theorem stopsUnbound_loop_iff (address : Address) (index : Ident)
    (low high : Expr) (body : List Stmt) (position : Position)
    (machine : Machine) (name : String) :
    (Stmt.loop index low high body position).StopsUnbound address machine
        name ↔
      name ∈ (Stmt.loop index low high body position).lookups machine ∧
        machine.store.get? name = none := by
  rw [Stmt.StopsUnbound, Stmt.perform, Stmt.lookups, List.mem_append,
    or_and_right, ← low.evaluate_eq_unbound_iff,
    ← low.evaluateInt_eq_unbound_iff]
  cases lowOutcome : low.evaluateInt machine.store with
  | error stop =>
      rw [bind_of_error (evaluateInt_of_error lowOutcome)]
      constructor
      · intro given
        obtain ⟨later, stopped⟩ := given
        cases stopped
        exact .inl rfl
      · intro given
        rcases given with stopped | ⟨absurdity, _⟩
        · cases stopped
          exact ⟨machine, rfl⟩
        · cases absurdity
  | ok first =>
      rw [bind_of_ok (evaluateInt_of_ok lowOutcome)]
      simp only [reduceCtorEq, false_or]
      rw [← high.evaluate_eq_unbound_iff, ← high.evaluateInt_eq_unbound_iff]
      cases highOutcome : high.evaluateInt machine.store with
      | error stop =>
          rw [bind_of_error (evaluateInt_of_error highOutcome)]
          constructor
          · intro given
            obtain ⟨later, stopped⟩ := given
            cases stopped
            rfl
          · intro stopped
            cases stopped
            exact ⟨machine, rfl⟩
      | ok bound =>
          rw [bind_of_ok (evaluateInt_of_ok highOutcome)]
          constructor
          · intro given
            obtain ⟨later, absurdity⟩ := given
            cases absurdity
          · intro absurdity
            cases absurdity

private theorem stopsUnbound_read_iff (address : Address) (target : Ident)
    (position : Position) (machine : Machine) (name : String) :
    (Stmt.read target position).StopsUnbound address machine name ↔
      name ∈ (Stmt.read target position).lookups machine ∧
        machine.store.get? name = none := by
  rw [Stmt.StopsUnbound, Stmt.perform_read, Stmt.lookups]
  rcases readLine_outcome position machine with
    ⟨present, line, taken⟩ | ⟨missing, failure, failed⟩
  · rw [if_pos present, List.mem_singleton, ← Store.lookup_eq_unbound_iff]
    have continued := readInto_of_line target taken
    cases found : machine.store.lookup target.name with
    | error stop =>
        rw [found] at continued
        rw [bind_of_error continued]
        constructor
        · intro given
          obtain ⟨later, stopped⟩ := given
          cases stopped
          rfl
        · intro stopped
          cases stopped
          exact ⟨_, rfl⟩
    | ok value =>
        rw [found] at continued
        change _ = (readValue target line position value >>=
          put target.name) (takeLine machine) at continued
        constructor
        · intro given
          obtain ⟨later, stopped⟩ := given
          rcases readValue_outcome target line position value
              (takeLine machine) with
            ⟨result, read, _⟩ | ⟨failure, failed⟩ | ⟨_, refused⟩
          · rw [bind_of_ok read] at continued
            rw [bind_of_ok continued] at stopped
            cases stopped
          · rw [bind_of_error failed] at continued
            rw [bind_of_error continued] at stopped
            cases stopped
          · rw [bind_of_error refused] at continued
            rw [bind_of_error continued] at stopped
            cases stopped
        · intro absurdity
          cases absurdity
  · rw [missing]
    have stopped : readInto target position machine =
        .error (.failure failure) (takeLine machine) :=
      bind_of_error failed
    rw [bind_of_error stopped]
    constructor
    · intro given
      obtain ⟨later, absurdity⟩ := given
      cases absurdity
    · intro given
      obtain ⟨absurdity, _⟩ := given
      cases absurdity

namespace Stmt

/-- The step that a statement begins with stops at an unbound variable exactly
if it looks up a name that is not bound. -/
theorem stopsUnbound_iff (address : Address) (statement : Stmt)
    (machine : Machine) (name : String) :
    statement.StopsUnbound address machine name ↔
      name ∈ statement.lookups machine ∧ machine.store.get? name = none := by
  cases statement with
  | declare ident type initial position =>
      cases initial with
      | none =>
          constructor
          · intro given
            obtain ⟨later, absurdity⟩ := given
            cases absurdity
          · intro given
            obtain ⟨absurdity, _⟩ := given
            cases absurdity
      | some value =>
          refine stopsUnbound_iff_of_evaluate rfl rfl ?_
          intro value later stopped
          cases stopped
  | assign target value position =>
      refine stopsUnbound_iff_of_evaluate rfl rfl ?_
      intro value later stopped
      cases stopped
  | loop index low high body position =>
      exact stopsUnbound_loop_iff address index low high body position machine
        name
  | read target position =>
      exact stopsUnbound_read_iff address target position machine name
  | print value position =>
      refine stopsUnbound_iff_of_evaluate rfl rfl ?_
      intro value later stopped
      obtain ⟨other, _, success | ⟨failure, failed⟩⟩ :=
        channel_outcome (Sink.write (textBytes value.text)) position machine
      · rw [write, success] at stopped
        cases stopped
      · rw [write, failed] at stopped
        cases stopped
  | assert condition position =>
      refine stopsUnbound_iff_of_evaluate rfl rfl ?_
      intro value later stopped
      cases value with
      | int number => cases stopped
      | string text => cases stopped
      | bool truth => cases truth <;> cases stopped

end Stmt

namespace Task

def lookups (machine : Machine) : Task → List String
  | perform _ statement => statement.lookups machine
  | rounds _ _ _ _ _ => []

/-- A task stops at an unbound variable exactly if it looks up a name that is
not bound. -/
theorem stops_unbound_iff {task : Task} {machine : Machine} {name : String} :
    (∃ later, task.run machine =
        .error (.fault (.unboundVariable name)) later) ↔
      name ∈ task.lookups machine ∧ machine.store.get? name = none := by
  cases task with
  | perform address statement =>
      let recorded : Machine :=
        { machine with journal := machine.journal.record (.executed statement) }
      have same : statement.lookups recorded = statement.lookups machine := by
        cases statement <;> rfl
      rw [lookups, ← same]
      exact statement.stopsUnbound_iff address recorded name
  | rounds address index body count value =>
      constructor
      · intro given
        obtain ⟨later, stopped⟩ := given
        cases count <;> cases stopped
      · intro given
        obtain ⟨absurdity, _⟩ := given
        cases absurdity

end Task

end TinyImp
