import TinyImp.Proofs.Execution.TypeSafety
import TinyImp.Proofs.Typing.Decision

/-!
# Exact arithmetic

Beside evaluation stands arithmetic without bounds: integers of any size,
division that rounds toward zero, strings in the order of their code points.
An operation offends if it divides by zero or if its exact result is no
integer of the language.  Evaluation gives the exact value if no operation
offends, and otherwise stops at the first one that does, where operands come
before their operation and left before right.  No result is ever wrapped
around.
-/

namespace TinyImp

/-! ## Values without bounds -/

/-- A value in which integers have no bounds. -/
inductive Exact where
  | int (value : Int)
  | string (value : String)
  | bool (value : Bool)
deriving DecidableEq

namespace Exact

/-- Whether this is a value of the language, in which integers are between
`-2^63` and `2^63 - 1`. -/
def inRange : Exact → Bool
  | int value => -9223372036854775808 ≤ value ∧ value ≤ 9223372036854775807
  | string _ | bool _ => true

def negate? : Exact → Option Exact
  | bool value => some (bool !value)
  | int _ | string _ => none

end Exact

def Value.exact : Value → Exact
  | .int value => .int value.value
  | .string value => .string value
  | .bool value => .bool value

theorem Value.inRange_exact (value : Value) :
    value.exact.inRange = true := by
  cases value with
  | int value =>
      have low := value.least_le
      have high := value.lt_bound
      simp only [exact, Exact.inRange, decide_eq_true_eq]
      omega
  | string value | bool value => rfl

def codePoints (text : String) : List Nat :=
  text.toList.map Char.toNat

/-- The exact result of an operation.  There is none for a division by zero,
and none for operands of the wrong types. -/
def BinaryOp.ideal? : BinaryOp → Exact → Exact → Option Exact
  | .add, .int left, .int right => some (.int (left + right))
  | .add, .string left, .string right => some (.string (left ++ right))
  | .subtract, .int left, .int right => some (.int (left - right))
  | .multiply, .int left, .int right => some (.int (left * right))
  | .divide, .int left, .int right =>
      if right = 0 then none else some (.int (left.tdiv right))
  | .less, .int left, .int right => some (.bool (left < right))
  | .less, .string left, .string right =>
      some (.bool (codePoints left < codePoints right))
  | .less, .bool left, .bool right => some (.bool (!left && right))
  | .equal, .int left, .int right => some (.bool (left = right))
  | .equal, .string left, .string right => some (.bool (left = right))
  | .equal, .bool left, .bool right => some (.bool (left = right))
  | .both, .bool left, .bool right => some (.bool (left && right))
  | _, _, _ => none

/-- The exact value of an expression, unless it divides by zero. -/
def Expr.ideal? (store : Store) : Expr → Option Exact
  | .number value _ => some (.int value.value)
  | .text value _ => some (.string value)
  | .named name _ => (store.get? name).map Value.exact
  | .lone operand _ => operand.ideal? store
  | .negation operand _ => do
      (← operand.ideal? store).negate?
  | .binary operator left right _ => do
      operator.ideal? (← left.ideal? store) (← right.ideal? store)

/-! ## Operations -/

/-- An operation on exact operands.  An operand that divides by zero has no
value. -/
structure Operation where
  operator : BinaryOp
  left : Option Exact
  right : Option Exact
  position : Position

namespace Operation

def result (operation : Operation) : Option Exact := do
  operation.operator.ideal? (← operation.left) (← operation.right)

def dividesByZero (operation : Operation) : Bool :=
  operation.operator = .divide ∧ operation.right = some (.int 0)

def exceeds (operation : Operation) : Bool :=
  operation.result.any (!·.inRange)

def offends (operation : Operation) : Bool :=
  operation.dividesByZero || operation.exceeds

def cause (operation : Operation) : FailureCause :=
  if operation.dividesByZero then .divisionByZero else .overflow

/-- What comes of an operation: its exact result, or a failure if it
offends. -/
inductive Settles (operation : Operation) (type : Ty) :
    Except Stop Value → Prop where
  | value {value : Value} :
      value.type = type →
      operation.result = some value.exact →
      operation.offends = false →
      Settles operation type (.ok value)
  | stop :
      operation.offends = true →
      Settles operation type
        (.error (.failed operation.cause operation.position))

variable {operation : Operation}

theorem settles_value {value : Value} {type : Ty}
    (noDivision : operation.operator ≠ .divide) (typed : value.type = type)
    (result : operation.result = some value.exact) :
    Settles operation type (.ok value) := by
  refine .value typed result ?_
  simp [offends, dividesByZero, exceeds, noDivision, result,
    Value.inRange_exact]

/-- An integer result is refused exactly if it is out of range. -/
theorem settles_ofInt? {number : Int}
    (nonzero : operation.dividesByZero = false)
    (result : operation.result = some (.int number)) :
    Settles operation .int
      (Value.ofResult (Integer.ofInt? number) operation.position) := by
  cases given : Integer.ofInt? number with
  | some value =>
      have same := Integer.ofInt?_eq_some_iff.1 given
      rw [← same] at result
      refine .value rfl result ?_
      have inRange : (Exact.int value.value).inRange = true :=
        Value.inRange_exact (.int value)
      simp [offends, nonzero, exceeds, result, inRange]
  | none =>
      have outOfRange := Integer.ofInt?_eq_none_iff.1 given
      have beyond : (Exact.int number).inRange = false := by
        simp only [Exact.inRange, decide_eq_false_iff_not]
        omega
      have offending : operation.offends = true := by
        simp [offends, exceeds, result, beyond]
      have overflow : operation.cause = .overflow := by
        rw [cause, nonzero]
        rfl
      have stop : Settles operation .int _ := .stop offending
      rw [overflow] at stop
      exact stop

end Operation

/-! ## Orders -/

theorem Integer.compare_value_eq_lt (left right : Integer) :
    (compare left.value right.value == .lt) =
      decide (left.value < right.value) := by
  rw [Bool.eq_iff_iff, beq_iff_eq, Int.compare_eq_lt, decide_eq_true_eq]

theorem map_toNat_lt_iff {left right : List Char} :
    left.map Char.toNat < right.map Char.toNat ↔ left < right := by
  induction left generalizing right with
  | nil => cases right <;> simp
  | cons head tail induction =>
      cases right with
      | nil => simp
      | cons other others =>
          rw [List.map_cons, List.map_cons, List.cons_lt_cons_iff,
            List.cons_lt_cons_iff, induction, Char.toNat_inj, Char.lt_def,
            UInt32.lt_iff_toNat_lt]
          rfl

theorem compare_string_eq_lt (left right : String) :
    (compare left right == .lt) =
      decide (codePoints left < codePoints right) := by
  have order : compare left right = .lt ↔ left < right :=
    compareOfLessAndEq_eq_lt
  rw [Bool.eq_iff_iff, beq_iff_eq, order, decide_eq_true_eq, codePoints,
    codePoints, map_toNat_lt_iff, String.lt_iff]

theorem compare_bool_eq_lt (left right : Bool) :
    (compare left right == .lt) = (!left && right) := by
  cases left <;> cases right <;> rfl

/-- Values of one type are equal exactly if they are as exact values. -/
theorem BinaryOp.ideal?_equal {left right : Value}
    (same : left.type = right.type) :
    BinaryOp.equal.ideal? left.exact right.exact =
      some (.bool (left = right)) := by
  cases left with
  | int first =>
      obtain ⟨second, rfl⟩ := Value.exists_int same.symm
      simp [ideal?, Value.exact, Integer.ext_iff]
  | string first =>
      obtain ⟨second, rfl⟩ := Value.exists_string same.symm
      simp [ideal?, Value.exact]
  | bool first =>
      obtain ⟨second, rfl⟩ := Value.exists_bool same.symm
      simp [ideal?, Value.exact]

/-! ## Evaluation -/

open Operation

/-- An operator that is used at a type does to values of that type what is
exact, or it offends and fails. -/
theorem BinaryOp.UsedAt.settles {operator : BinaryOp} {type result : Ty}
    (used : operator.UsedAt type result) {left right : Value}
    (leftType : left.type = type) (rightType : right.type = type)
    (position : Position) :
    Settles ⟨operator, some left.exact, some right.exact, position⟩ result
      (operator.apply left right position) := by
  cases used with
  | addInt | subtract | multiply =>
      obtain ⟨first, rfl⟩ := Value.exists_int leftType
      obtain ⟨second, rfl⟩ := Value.exists_int rightType
      exact settles_ofInt? rfl rfl
  | addString =>
      obtain ⟨first, rfl⟩ := Value.exists_string leftType
      obtain ⟨second, rfl⟩ := Value.exists_string rightType
      exact settles_value (by simp) rfl rfl
  | divide =>
      obtain ⟨first, rfl⟩ := Value.exists_int leftType
      obtain ⟨second, rfl⟩ := Value.exists_int rightType
      rw [BinaryOp.apply]
      by_cases isZero : second = .zero
      · rw [if_pos isZero, isZero]
        exact .stop rfl
      · have nonzero : second.value ≠ 0 :=
          fun same => isZero (Integer.ext same)
        rw [if_neg isZero]
        apply settles_ofInt?
        · simp [dividesByZero, Value.exact, nonzero]
        · simp [Operation.result, Value.exact, BinaryOp.ideal?, nonzero]
  | both =>
      obtain ⟨first, rfl⟩ := Value.exists_bool leftType
      obtain ⟨second, rfl⟩ := Value.exists_bool rightType
      exact settles_value (by simp) rfl rfl
  | less type =>
      cases type with
      | int =>
          obtain ⟨first, rfl⟩ := Value.exists_int leftType
          obtain ⟨second, rfl⟩ := Value.exists_int rightType
          refine settles_value (by simp) rfl ?_
          rw [Value.exact, Integer.compare_value_eq_lt]
          rfl
      | string =>
          obtain ⟨first, rfl⟩ := Value.exists_string leftType
          obtain ⟨second, rfl⟩ := Value.exists_string rightType
          refine settles_value (by simp) rfl ?_
          rw [Value.exact, compare_string_eq_lt]
          rfl
      | bool =>
          obtain ⟨first, rfl⟩ := Value.exists_bool leftType
          obtain ⟨second, rfl⟩ := Value.exists_bool rightType
          refine settles_value (by simp) rfl ?_
          rw [Value.exact, compare_bool_eq_lt]
          rfl
  | equal type =>
      rw [BinaryOp.apply, if_pos (leftType.trans rightType.symm)]
      refine settles_value (by simp) rfl ?_
      exact ideal?_equal (leftType.trans rightType.symm)

namespace Expr

variable {store : Store}

/-- The operations of an expression, operands before their operation and left
before right. -/
def operations (store : Store) : Expr → List Operation
  | .number _ _ | .text _ _ | .named _ _ => []
  | .lone operand _ | .negation operand _ => operand.operations store
  | .binary operator left right position =>
      left.operations store ++ right.operations store ++
        [⟨operator, left.ideal? store, right.ideal? store, position⟩]

/-- What comes of an expression: its exact value if no operation offends, and
otherwise the failure of the first one that does. -/
inductive Settles (store : Store) (expression : Expr) (type : Ty) :
    Except Stop Value → Prop where
  | value {value : Value} :
      value.type = type →
      expression.ideal? store = some value.exact →
      (expression.operations store).find? offends = none →
      Settles store expression type (.ok value)
  | stop {operation : Operation} :
      (expression.operations store).find? offends = some operation →
      Settles store expression type
        (.error (.failed operation.cause operation.position))

/-- Both operands have been evaluated, and the operation comes last. -/
theorem settles_binary {operator : BinaryOp} {left right : Expr}
    {position : Position} {first second : Value} {result : Ty}
    (leftExact : left.ideal? store = some first.exact)
    (rightExact : right.ideal? store = some second.exact)
    (leftQuiet : (left.operations store).find? offends = none)
    (rightQuiet : (right.operations store).find? offends = none)
    (settles : Operation.Settles
      ⟨operator, some first.exact, some second.exact, position⟩ result
      (operator.apply first second position)) :
    Settles store (.binary operator left right position) result
      (operator.apply first second position) := by
  have last : (operations store (.binary operator left right position)).find?
      offends =
        [Operation.mk operator (some first.exact) (some second.exact)
          position].find? offends := by
    rw [operations, List.find?_append, List.find?_append, leftQuiet,
      rightQuiet, leftExact, rightExact]
    rfl
  generalize operator.apply first second position = outcome at settles
  cases settles with
  | value typed exact quiet =>
      refine .value typed ?_ ?_
      · rw [ideal?, leftExact, rightExact]
        exact exact
      · rw [last, List.find?_cons_of_neg (by simp [quiet]), List.find?_nil]
  | stop offending =>
      have found := last.trans (List.find?_cons_of_pos offending)
      exact .stop found

/-- An expression that has a type, with all its names bound to values of their
types, is evaluated exactly. -/
theorem HasType.settles {symbols : SymbolTable} {expression : Expr}
    {type : Ty} (hasType : expression.HasType symbols type)
    (bound : ∀ name ∈ expression.names, ∃ value,
      store.get? name = some value ∧
        symbols.typeOf? name = some value.type) :
    Settles store expression type (expression.evaluate store) := by
  induction hasType with
  | number => exact .value rfl rfl rfl
  | text => exact .value rfl rfl rfl
  | @named name position type declared =>
      obtain ⟨value, found, known⟩ := bound name (List.mem_singleton.2 rfl)
      have typed : value.type = type := by
        rw [declared] at known
        exact (Option.some.inj known).symm
      have looked : (Expr.named name position).evaluate store = .ok value := by
        rw [evaluate, Store.lookup, found]
      rw [looked]
      refine .value typed ?_ rfl
      rw [ideal?, found]
      rfl
  | @lone operand position type _ induction =>
      have inner := induction bound
      rw [evaluate]
      generalize operand.evaluate store = outcome at inner
      cases inner with
      | value typed exact quiet => exact .value typed exact quiet
      | stop found => exact .stop found
  | @negation operand position _ induction =>
      have inner := induction bound
      generalize evaluated : operand.evaluate store = outcome at inner
      cases inner with
      | @value value typed exact quiet =>
          obtain ⟨truth, rfl⟩ := Value.exists_bool typed
          rw [evaluate_negation_of_ok evaluated]
          refine .value rfl ?_ quiet
          rw [ideal?, exact]
          rfl
      | stop found =>
          rw [evaluate_negation_of_error evaluated]
          exact .stop found
  | @binary operator left right position type result _ _ used leftInduction
      rightInduction =>
      obtain ⟨leftBound, rightBound⟩ := List.forall_mem_append.1 bound
      have leftInner := leftInduction leftBound
      have rightInner := rightInduction rightBound
      -- a failure on the left hides the operations on the right, and both hide
      -- the operation itself, which comes last
      generalize leftEvaluated : left.evaluate store = outcome at leftInner
      cases leftInner with
      | @stop operation found =>
          rw [evaluate_binary_of_left_error leftEvaluated]
          apply Settles.stop
          rw [operations, List.find?_append, List.find?_append, found]
          rfl
      | @value first leftTyped leftExact leftQuiet =>
          generalize rightEvaluated : right.evaluate store = outcome
            at rightInner
          cases rightInner with
          | @stop operation found =>
              rw [evaluate_binary_of_right_error leftEvaluated rightEvaluated]
              apply Settles.stop
              rw [operations, List.find?_append, List.find?_append, leftQuiet,
                found]
              rfl
          | @value second rightTyped rightExact rightQuiet =>
              rw [evaluate_binary_of_ok leftEvaluated rightEvaluated]
              exact settles_binary leftExact rightExact leftQuiet rightQuiet
                (used.settles leftTyped rightTyped position)

/-- Evaluation refines exact arithmetic.  It gives a value exactly if no
operation divides by zero or has an integer result out of range, and then the
value is the exact one.  Otherwise it fails at the first operation that does,
with a division by zero if it is one and with an overflow if it is not. -/
theorem evaluate_refines_exact {symbols : SymbolTable} {expression : Expr}
    (bound : ∀ name ∈ expression.names, ∃ value,
      store.get? name = some value ∧
        symbols.typeOf? name = some value.type)
    (clean : (expression.infer symbols).errors = []) :
    ((∃ value, expression.evaluate store = .ok value) ↔
      ∀ operation ∈ expression.operations store,
        operation.dividesByZero = false ∧ operation.exceeds = false) ∧
    (∀ value, expression.evaluate store = .ok value →
      expression.ideal? store = some value.exact) ∧
    ∀ operation,
      (expression.operations store).find? offends = some operation →
        expression.evaluate store =
          .error (.failed operation.cause operation.position) := by
  have known : ∀ name ∈ expression.names, symbols.contains name = true := by
    intro name member
    obtain ⟨value, _, declared⟩ := bound name member
    obtain ⟨symbol, entered, _⟩ := Option.map_eq_some_iff.1 declared
    exact SymbolTable.contains_iff.2 ⟨symbol, entered⟩
  obtain ⟨type, inferred⟩ := expression.exists_infer_result known
  have hasType := hasType_of_infer
    ((Checked.errors_eq_nil_iff inferred).1 clean)
  have settles := hasType.settles bound
  generalize expression.evaluate store = outcome at settles
  cases settles with
  | @value value _ exact quiet =>
      have all := List.find?_eq_none.1 quiet
      refine ⟨⟨fun _ operation member => ?_, fun _ => ⟨value, rfl⟩⟩, ?_, ?_⟩
      · simpa [offends] using all operation member
      · rintro _ ⟨⟩
        exact exact
      · intro operation found
        rw [quiet] at found
        cases found
  | @stop first found =>
      refine ⟨⟨?_, fun all => ?_⟩, ?_, ?_⟩
      · rintro ⟨value, ⟨⟩⟩
      · obtain ⟨divides, exceeds⟩ := all first (List.mem_of_find?_eq_some found)
        have offending := List.find?_some found
        simp [offends, divides, exceeds] at offending
      · rintro value ⟨⟩
      · intro operation also
        rw [found] at also
        cases also
        rfl

/-- The least integer is declared as `x`. -/
def leastTable : SymbolTable :=
  SymbolTable.declare .empty "x" ⟨.int, ⟨1, 1⟩⟩

def leastStore : Store :=
  Bindings.set .empty "x" (.int ⟨-9223372036854775808, by decide, by decide⟩)

/-- `(x / (0 - 1)) = (1 / 0)` -/
def twoQuotients : Expr :=
  .binary .equal
    (.binary .divide (.named "x" ⟨2, 2⟩)
      (.binary .subtract (.number .zero ⟨2, 7⟩)
        (.number ⟨1, by decide, by decide⟩ ⟨2, 11⟩) ⟨2, 7⟩) ⟨2, 2⟩)
    (.binary .divide (.number ⟨1, by decide, by decide⟩ ⟨2, 18⟩)
      (.number .zero ⟨2, 22⟩) ⟨2, 18⟩) ⟨2, 1⟩

theorem twoQuotients_overflows :
    (∀ name ∈ twoQuotients.names, ∃ value,
      leastStore.get? name = some value ∧
        leastTable.typeOf? name = some value.type) ∧
      (twoQuotients.infer leastTable).errors = [] ∧
      twoQuotients.evaluate leastStore =
        .error (.failed .overflow ⟨2, 2⟩) := by
  have bound : ∀ name ∈ twoQuotients.names, ∃ value,
      leastStore.get? name = some value ∧
        leastTable.typeOf? name = some value.type := by
    intro name member
    rw [List.mem_singleton.1 member]
    exact ⟨_, rfl, rfl⟩
  have clean : (twoQuotients.infer leastTable).errors = [] := rfl
  obtain ⟨_, _, stops⟩ := evaluate_refines_exact bound clean
  exact ⟨bound, clean, stops _ rfl⟩

end Expr

end TinyImp
