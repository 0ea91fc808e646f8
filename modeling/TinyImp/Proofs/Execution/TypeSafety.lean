import TinyImp.Proofs.Execution.Lookup
import TinyImp.Proofs.Scope.Declaration
import TinyImp.Proofs.Typing.Judgement

/-!
# Types along a run

A program is accepted if neither its names nor its types give an error.  While
an accepted program runs, every bound variable is declared and holds a value
of its declared type.  So a run never stops at a value of the wrong type: it
can only fail, or look up a variable that is not bound.
-/

namespace TinyImp

/-- Nothing is found in a program before it runs. -/
def Program.Accepted (program : Program) : Prop :=
  program.scoping.errors = [] ∧
    program.check program.scoping.symbols = ⟨[], .ok ()⟩

/-- Every bound variable is declared and holds a value of its type. -/
def Store.Typed (symbols : SymbolTable) (store : Store) : Prop :=
  ∀ name value, store.get? name = some value →
    symbols.typeOf? name = some value.type

/-- What stops a run of an accepted program: a failure, or a variable that is
not bound. -/
def Stop.Tolerable : Stop → Prop
  | .failure _ => True
  | .fault reason => ∃ name, reason = .unboundVariable name

namespace Store

theorem typed_empty (symbols : SymbolTable) :
    Typed symbols (Bindings.empty : Store) := by
  intro name value bound
  cases bound

theorem Typed.set {symbols : SymbolTable} {store : Store} {name : String}
    {value : Value} (typed : store.Typed symbols)
    (declared : symbols.typeOf? name = some value.type) :
    Typed symbols (store.set name value) := by
  intro other present bound
  rw [Bindings.get?_set] at bound
  split at bound
  · rename_i same
    cases bound
    rw [same]
    exact declared
  · exact typed other present bound

end Store

/-- What evaluating an expression of a type can come to. -/
def Expr.Safe (type : Ty) : Except Stop Value → Prop
  | .ok value => value.type = type
  | .error stop => stop.Tolerable

namespace Value

theorem exists_int {value : Value} (isInt : value.type = .int) :
    ∃ number, value = .int number := by
  cases value with
  | int number => exact ⟨number, rfl⟩
  | string text => cases isInt
  | bool truth => cases isInt

theorem exists_string {value : Value} (isString : value.type = .string) :
    ∃ text, value = .string text := by
  cases value with
  | int number => cases isString
  | string text => exact ⟨text, rfl⟩
  | bool truth => cases isString

theorem exists_bool {value : Value} (isBool : value.type = .bool) :
    ∃ truth, value = .bool truth := by
  cases value with
  | int number => cases isBool
  | string text => cases isBool
  | bool truth => exact ⟨truth, rfl⟩

theorem exists_compare? {left right : Value} (same : left.type = right.type) :
    ∃ order, left.compare? right = some order := by
  cases left <;> cases right <;>
    first | exact ⟨_, rfl⟩ | cases same

theorem safe_ofResult (result : Option Integer) (position : Position) :
    Expr.Safe .int (ofResult result position) := by
  cases result with
  | none => exact True.intro
  | some value => rfl

end Value

/-- An operator gives a value of its result type on operands of its operand
type, unless it fails. -/
theorem BinaryOp.UsedAt.safe {operator : BinaryOp} {type result : Ty}
    (used : operator.UsedAt type result) {left right : Value}
    (leftType : left.type = type) (rightType : right.type = type)
    (position : Position) :
    Expr.Safe result (operator.apply left right position) := by
  cases used with
  | addInt =>
      obtain ⟨first, rfl⟩ := Value.exists_int leftType
      obtain ⟨second, rfl⟩ := Value.exists_int rightType
      exact Value.safe_ofResult _ _
  | addString =>
      obtain ⟨first, rfl⟩ := Value.exists_string leftType
      obtain ⟨second, rfl⟩ := Value.exists_string rightType
      rfl
  | subtract =>
      obtain ⟨first, rfl⟩ := Value.exists_int leftType
      obtain ⟨second, rfl⟩ := Value.exists_int rightType
      exact Value.safe_ofResult _ _
  | multiply =>
      obtain ⟨first, rfl⟩ := Value.exists_int leftType
      obtain ⟨second, rfl⟩ := Value.exists_int rightType
      exact Value.safe_ofResult _ _
  | divide =>
      obtain ⟨first, rfl⟩ := Value.exists_int leftType
      obtain ⟨second, rfl⟩ := Value.exists_int rightType
      rw [BinaryOp.apply]
      split
      · exact True.intro
      · exact Value.safe_ofResult _ _
  | both =>
      obtain ⟨first, rfl⟩ := Value.exists_bool leftType
      obtain ⟨second, rfl⟩ := Value.exists_bool rightType
      rfl
  | less =>
      obtain ⟨order, compared⟩ :=
        Value.exists_compare? (leftType.trans rightType.symm)
      have applied : BinaryOp.less.apply left right position =
          .ok (.bool (order == .lt)) := by
        simp only [BinaryOp.apply, compared]
      rw [applied]
      rfl
  | equal =>
      have applied : BinaryOp.equal.apply left right position =
          .ok (.bool (left = right)) := by
        simp only [BinaryOp.apply, leftType.trans rightType.symm, if_true]
      rw [applied]
      rfl

/-- Evaluating an expression of a type in a typed store gives a value of that
type, fails, or comes to a variable that is not bound. -/
theorem Expr.HasType.safe {symbols : SymbolTable} {store : Store}
    {expression : Expr} {type : Ty} (typed : store.Typed symbols)
    (hasType : expression.HasType symbols type) :
    Expr.Safe type (expression.evaluate store) := by
  induction hasType with
  | number => rfl
  | text => rfl
  | @named name position type declared =>
      rw [Expr.evaluate, Store.lookup]
      cases bound : store.get? name with
      | none => exact ⟨name, rfl⟩
      | some value =>
          have known := typed name value bound
          rw [declared] at known
          exact (Option.some.inj known).symm
  | lone _ induction => exact induction
  | @negation operand position _ induction =>
      cases evaluated : operand.evaluate store with
      | error stop =>
          rw [evaluate_negation_of_error evaluated]
          rw [evaluated] at induction
          exact induction
      | ok value =>
          rw [evaluated] at induction
          obtain ⟨truth, rfl⟩ := Value.exists_bool induction
          rw [evaluate_negation_of_ok evaluated]
          rfl
  | @binary operator left right position type result _ _ used leftInduction
      rightInduction =>
      cases leftEvaluated : left.evaluate store with
      | error stop =>
          rw [evaluate_binary_of_left_error leftEvaluated]
          rw [leftEvaluated] at leftInduction
          exact leftInduction
      | ok first =>
          rw [leftEvaluated] at leftInduction
          cases rightEvaluated : right.evaluate store with
          | error stop =>
              rw [evaluate_binary_of_right_error leftEvaluated rightEvaluated]
              rw [rightEvaluated] at rightInduction
              exact rightInduction
          | ok second =>
              rw [rightEvaluated] at rightInduction
              rw [evaluate_binary_of_ok leftEvaluated rightEvaluated]
              exact used.safe leftInduction rightInduction position

theorem Stmt.Located.wellTyped {symbols : SymbolTable} {block : List Stmt}
    {address : Address} {statement : Stmt}
    (located : Stmt.Located block address statement)
    (wellTyped : ∀ statement ∈ block, statement.WellTyped symbols) :
    statement.WellTyped symbols := by
  induction located with
  | head => exact wellTyped _ List.mem_cons_self
  | body inner induction =>
      cases wellTyped _ List.mem_cons_self with
      | loop _ _ _ body => exact induction body
  | tail later induction =>
      exact induction fun statement member =>
        wellTyped statement (List.mem_cons_of_mem _ member)

theorem Stmt.WellTyped.operand {symbols : SymbolTable} {statement : Stmt}
    {expression : Expr} (wellTyped : statement.WellTyped symbols)
    (member : expression ∈ statement.operands) :
    ∃ type, expression.HasType symbols type := by
  cases wellTyped with
  | declare => cases member
  | declareAs hasType =>
      cases List.mem_singleton.1 member
      exact ⟨_, hasType⟩
  | assign declared hasType =>
      cases List.mem_singleton.1 member
      exact ⟨_, hasType⟩
  | loop declared lowType highType body =>
      rcases List.mem_cons.1 member with rfl | later
      · exact ⟨_, lowType⟩
      · cases List.mem_singleton.1 later
        exact ⟨_, highType⟩
  | read declared notBool => cases member
  | print hasType =>
      cases List.mem_singleton.1 member
      exact ⟨_, hasType⟩
  | assert hasType =>
      cases List.mem_singleton.1 member
      exact ⟨_, hasType⟩

namespace Program.Accepted

variable {program : Program}

theorem wellTyped (accepted : program.Accepted) {address : Address}
    {statement : Stmt} (located : Stmt.Located program address statement) :
    statement.WellTyped program.scoping.symbols :=
  located.wellTyped (Stmt.wellTyped_of_checkList program accepted.2)

theorem typeOf?_declare (accepted : program.Accepted) {address : Address}
    {name : Ident} {type : Ty} {initial : Option Expr} {position : Position}
    (located : Stmt.Located program address
      (.declare name type initial position)) :
    program.scoping.symbols.typeOf? name.name = some type := by
  obtain ⟨_, entered⟩ := located.get?_declare accepted.1
  change (program.scoping.symbols.get? name.name).map Symbol.type = some type
  rw [Program.scoping, entered]
  rfl

end Program.Accepted

/-- The task comes from the statement of the program at its address. -/
def Task.Belongs (program : Program) : Task → Prop
  | .perform address statement => Stmt.Located program address statement
  | .rounds address index body _ _ => ∃ low high position,
      Stmt.Located program address (.loop index low high body position)

namespace Task

variable {program : Program}

theorem mem_blockFrom {outer : Address} {number : Nat} {block : List Stmt}
    {task : Task} (member : task ∈ blockFrom outer number block) :
    ∃ offset statement,
      task = .perform (outer ++ [number + offset]) statement ∧
        Stmt.Located block [offset] statement := by
  induction block generalizing number with
  | nil => cases member
  | cons first others induction =>
      rcases List.mem_cons.1 member with same | later
      · exact ⟨0, first, same, .head⟩
      · obtain ⟨offset, statement, same, located⟩ := induction later
        refine ⟨offset + 1, statement, ?_, .tail located⟩
        rw [same, Nat.add_right_comm, Nat.add_assoc]

theorem belongs_start {task : Task} (member : task ∈ block [] program) :
    task.Belongs program := by
  obtain ⟨offset, statement, rfl, located⟩ := mem_blockFrom member
  rw [Nat.zero_add]
  exact located

theorem Effect.belongs {store later : Store} {task : Task} {tasks : List Task}
    (effect : task.Effect store tasks later) (belongs : task.Belongs program) :
    ∀ next ∈ tasks, next.Belongs program := by
  intro next member
  cases effect with
  | loop _ _ =>
      cases List.mem_singleton.1 member
      exact ⟨_, _, _, belongs⟩
  | enter =>
      obtain ⟨low, high, position, located⟩ := belongs
      rcases List.mem_append.1 member with inBody | last
      · obtain ⟨offset, statement, rfl, inner⟩ := mem_blockFrom inBody
        rw [Nat.zero_add]
        exact located.inside inner
      · cases List.mem_singleton.1 last
        exact ⟨low, high, position, located⟩
  | declare => cases member
  | declareAs _ => cases member
  | assign _ => cases member
  | read _ _ => cases member
  | print _ => cases member
  | assert _ => cases member
  | leave => cases member

/-- A task of an accepted program keeps every variable at its declared
type. -/
theorem Effect.typed {store later : Store} {task : Task} {tasks : List Task}
    (accepted : program.Accepted) (effect : task.Effect store tasks later)
    (belongs : task.Belongs program)
    (typed : store.Typed program.scoping.symbols) :
    later.Typed program.scoping.symbols := by
  cases effect with
  | declare =>
      refine typed.set ?_
      rw [Value.type_zero]
      exact accepted.typeOf?_declare belongs
  | declareAs evaluated =>
      cases accepted.wellTyped belongs with
      | declareAs hasType =>
          have safe := hasType.safe typed
          rw [evaluated] at safe
          refine typed.set ?_
          rw [safe]
          exact accepted.typeOf?_declare belongs
  | assign evaluated =>
      cases accepted.wellTyped belongs with
      | assign declared hasType =>
          have safe := hasType.safe typed
          rw [evaluated] at safe
          refine typed.set ?_
          rw [safe]
          exact declared
  | read bound sameType =>
      refine typed.set ?_
      rw [sameType]
      exact typed _ _ bound
  | enter =>
      obtain ⟨low, high, position, located⟩ := belongs
      cases accepted.wellTyped located with
      | loop declared _ _ _ => exact typed.set declared
  | loop _ _ => exact typed
  | print _ => exact typed
  | assert _ => exact typed
  | leave => exact typed

/-- A task of an accepted program does not stop at a value of the wrong
type. -/
theorem Refusal.tolerable {store : Store} {task : Task} {stop : Stop}
    (accepted : program.Accepted) (refusal : task.Refusal store stop)
    (belongs : task.Belongs program)
    (typed : store.Typed program.scoping.symbols) : stop.Tolerable := by
  cases refusal with
  | failure failure => exact True.intro
  | operand member evaluated =>
      obtain ⟨type, hasType⟩ := (accepted.wellTyped belongs).operand member
      have safe := hasType.safe typed
      rw [evaluated] at safe
      exact safe
  | bound side evaluated notInt =>
      cases accepted.wellTyped belongs with
      | loop _ lowType highType _ =>
          rcases side with rfl | rfl
          · have safe := lowType.safe typed
            rw [evaluated] at safe
            exact absurd safe notInt
          · have safe := highType.safe typed
            rw [evaluated] at safe
            exact absurd safe notInt
  | condition evaluated notBool =>
      cases accepted.wellTyped belongs with
      | assert hasType =>
          have safe := hasType.safe typed
          rw [evaluated] at safe
          exact absurd safe notBool
  | unboundTarget absent => exact ⟨_, rfl⟩
  | boolTarget bound =>
      cases accepted.wellTyped belongs with
      | read declared notBool =>
          have known := typed _ _ bound
          rw [declared] at known
          exact absurd (Option.some.inj known) notBool

end Task

/-- All tasks belong to the program, and the variables have their types. -/
structure Config.Sound (program : Program) (config : Config) : Prop where
  belongs : ∀ task ∈ config.agenda, task.Belongs program
  typed : config.machine.store.Typed program.scoping.symbols

namespace Config.Sound

variable {program : Program}

theorem start (program : Program) {machine : Machine}
    (fresh : machine.store = .empty) :
    Config.Sound program (program.start machine) where
  belongs _ member := Task.belongs_start member
  typed := by
    change machine.store.Typed program.scoping.symbols
    rw [fresh]
    exact Store.typed_empty _

theorem next {task : Task} {tasks rest : List Task} {machine later : Machine}
    (accepted : program.Accepted)
    (sound : Config.Sound program ⟨task :: rest, machine⟩)
    (success : task.run machine = .ok tasks later) :
    Config.Sound program ⟨tasks ++ rest, later⟩ := by
  have effect := Task.effect_of_run success
  have belongs : task.Belongs program := sound.belongs task List.mem_cons_self
  constructor
  · intro other member
    rcases List.mem_append.1 member with new | old
    · exact effect.belongs belongs other new
    · exact sound.belongs other (List.mem_cons_of_mem _ old)
  · exact effect.typed accepted belongs sound.typed

/-- A run of an accepted program keeps what its first configuration has. -/
theorem steps {first last : Config} {trace : List Task}
    (accepted : program.Accepted) (sound : Config.Sound program first)
    (steps : Steps first trace last) : Config.Sound program last := by
  induction steps with
  | refl config => exact sound
  | next success _ induction => exact induction (sound.next accepted success)

end Config.Sound

end TinyImp
