import TinyImp.Proofs.Execution.Exactness

/-!
# Inference and evaluation agree

Inference looks at the types of operands and goes on behind an error with a
type that it makes up.  Evaluation looks at the values and stops at the first
operands that it cannot use.  Where every variable holds a value of its
declared type the two judge alike: only an expression that has a type can come
to a value, which then is of that type, and evaluation comes to a fault only in
an expression in which inference finds something.
-/

namespace TinyImp

namespace Value

variable {left right value : Value}

theorem type_of_ofResult {result : Option Integer} {position : Position}
    (success : ofResult result position = .ok value) : value.type = .int := by
  cases result with
  | none => cases success
  | some number =>
      cases success
      rfl

theorem type_eq_of_compare? {order : Ordering}
    (compared : left.compare? right = some order) :
    left.type = right.type := by
  cases left <;> cases right <;> first | rfl | cases compared

theorem type_of_negate {operand : Value}
    (success : operand.negate = .ok value) :
    operand.type = .bool ∧ value.type = .bool := by
  cases operand with
  | bool truth =>
      cases success
      exact ⟨rfl, rfl⟩
  | int _ | string _ => cases success

end Value

/-- An operator comes to a value only where the rules of typing let it be used,
and the value has the type that they give it. -/
theorem BinaryOp.usedAt_of_apply {operator : BinaryOp}
    {left right value : Value} {position : Position}
    (success : operator.apply left right position = .ok value) :
    left.type = right.type ∧ operator.UsedAt left.type value.type := by
  have arithmetic {result : Option Integer}
      (used : operator.UsedAt .int .int)
      (success : Value.ofResult result position = .ok value) :
      operator.UsedAt .int value.type := by
    rw [Value.type_of_ofResult success]
    exact used
  unfold BinaryOp.apply at success
  split at success
  case h_1 => exact ⟨rfl, arithmetic .addInt success⟩
  case h_2 =>
    cases success
    exact ⟨rfl, .addString⟩
  case h_3 => exact ⟨rfl, arithmetic .subtract success⟩
  case h_4 => exact ⟨rfl, arithmetic .multiply success⟩
  case h_5 =>
    split at success
    · cases success
    · exact ⟨rfl, arithmetic .divide success⟩
  case h_6 =>
    cases success
    exact ⟨rfl, .both⟩
  case h_7 =>
    split at success
    · rename_i same
      cases success
      exact ⟨same, .equal _⟩
    · cases success
  case h_8 =>
    split at success
    · rename_i compared
      cases success
      exact ⟨Value.type_eq_of_compare? compared, .less _⟩
    · cases success
  case h_9 => cases success

namespace Expr

variable {symbols : SymbolTable} {store : Store} {expression : Expr}

/-- Every name in an expression is bound to a value of the type that it is
declared with. -/
def Supplied (symbols : SymbolTable) (store : Store) (expression : Expr) :
    Prop :=
  ∀ name ∈ expression.names, ∃ value,
    store.get? name = some value ∧ symbols.typeOf? name = some value.type

theorem Supplied.known (supplied : expression.Supplied symbols store) :
    ∀ name ∈ expression.names, symbols.contains name = true := by
  intro name member
  obtain ⟨value, _, declared⟩ := supplied name member
  obtain ⟨symbol, entered, _⟩ := Option.map_eq_some_iff.1 declared
  exact SymbolTable.contains_iff.2 ⟨symbol, entered⟩

/-- An expression that comes to a value has the type of the value. -/
theorem hasType_of_evaluate {value : Value}
    (supplied : expression.Supplied symbols store)
    (evaluated : expression.evaluate store = .ok value) :
    expression.HasType symbols value.type := by
  induction expression generalizing value with
  | number number position =>
      cases evaluated
      exact .number
  | text text position =>
      cases evaluated
      exact .text
  | named name position =>
      obtain ⟨present, found, declared⟩ :=
        supplied name (List.mem_singleton.2 rfl)
      rw [evaluate, Store.lookup, found] at evaluated
      cases evaluated
      exact .named declared
  | lone operand position induction =>
      apply HasType.lone
      exact induction supplied evaluated
  | negation operand position induction =>
      cases inner : operand.evaluate store with
      | error stop =>
          rw [evaluate_negation_of_error inner] at evaluated
          cases evaluated
      | ok truth =>
          rw [evaluate_negation_of_ok inner] at evaluated
          obtain ⟨isBool, resultBool⟩ := Value.type_of_negate evaluated
          have operandTyped := induction supplied inner
          rw [isBool] at operandTyped
          rw [resultBool]
          exact .negation operandTyped
  | binary operator left right position leftInduction rightInduction =>
      obtain ⟨leftSupplied, rightSupplied⟩ := List.forall_mem_append.1 supplied
      cases leftInner : left.evaluate store with
      | error stop =>
          rw [evaluate_binary_of_left_error leftInner] at evaluated
          cases evaluated
      | ok first =>
          cases rightInner : right.evaluate store with
          | error stop =>
              rw [evaluate_binary_of_right_error leftInner rightInner]
                at evaluated
              cases evaluated
          | ok second =>
              rw [evaluate_binary_of_ok leftInner rightInner] at evaluated
              obtain ⟨same, used⟩ := BinaryOp.usedAt_of_apply evaluated
              have leftTyped := leftInduction leftSupplied leftInner
              have rightTyped := rightInduction rightSupplied rightInner
              rw [← same] at rightTyped
              exact .binary leftTyped rightTyped used

/-- An expression that has a type does not come to a fault. -/
theorem HasType.evaluate_ne_fault {type : Ty}
    (hasType : expression.HasType symbols type)
    (supplied : expression.Supplied symbols store) (fault : Fault) :
    expression.evaluate store ≠ .error (.fault fault) := by
  have settles := hasType.settles supplied
  intro faulty
  rw [faulty] at settles
  cases settles

/-- Inference and evaluation judge an expression alike, with its names bound to
values of their types.  If evaluation comes to a value, inference finds nothing
and gives the type of the value.  If it comes to a fault, inference finds
something.  And an expression in which inference finds something, for all that
it goes on to some type, stops evaluation. -/
theorem infer_agrees_evaluate (supplied : expression.Supplied symbols store) :
    (∀ value, expression.evaluate store = .ok value →
        (expression.infer symbols).errors = [] ∧
          (expression.infer symbols).result = .ok value.type) ∧
      (∀ fault, expression.evaluate store = .error (.fault fault) →
        (expression.infer symbols).errors ≠ []) ∧
      ∃ type, (expression.infer symbols).result = .ok type ∧
        ((expression.infer symbols).errors ≠ [] →
          ∃ stop, expression.evaluate store = .error stop) := by
  have accepted : ∀ value, expression.evaluate store = .ok value →
      (expression.infer symbols).errors = [] ∧
        (expression.infer symbols).result = .ok value.type := by
    intro value evaluated
    apply Checked.clean_iff.1
    exact (hasType_of_evaluate supplied evaluated).infer
  obtain ⟨type, inferred⟩ := expression.exists_infer_result supplied.known
  refine ⟨accepted, ?_, type, inferred, ?_⟩
  · intro fault faulty clean
    have hasType : expression.HasType symbols type := by
      apply hasType_of_infer
      exact (Checked.errors_eq_nil_iff inferred).1 clean
    exact hasType.evaluate_ne_fault supplied fault faulty
  · intro found
    cases evaluated : expression.evaluate store with
    | error stop => exact ⟨stop, rfl⟩
    | ok value => exact absurd (accepted value evaluated).1 found

/-- The variables of `counterAndText` as they are declared. -/
def counterAndTextStore : Store :=
  (Bindings.set .empty "i" (.int .zero)).set "s" (.string "")

/-- Inference takes the comparison for a boolean all the same, and evaluation
does not get as far as that. -/
theorem mixedComparison_stops :
    mixedComparison.Supplied counterAndText counterAndTextStore ∧
      mixedComparison.evaluate counterAndTextStore =
        .error (.fault (.unsupported .add (.int .zero) (.string ""))) ∧
      (mixedComparison.infer counterAndText).result = .ok .bool ∧
      (mixedComparison.infer counterAndText).errors ≠ [] := by
  have supplied :
      mixedComparison.Supplied counterAndText counterAndTextStore := by
    intro name member
    rcases List.mem_cons.1 member with rfl | later
    · exact ⟨_, rfl, rfl⟩
    · cases List.mem_singleton.1 later
      exact ⟨_, rfl, rfl⟩
  have faulty : mixedComparison.evaluate counterAndTextStore =
      .error (.fault (.unsupported .add (.int .zero) (.string ""))) := rfl
  obtain ⟨_, rejected, _⟩ := infer_agrees_evaluate supplied
  exact ⟨supplied, faulty, rfl, rejected _ faulty⟩

end Expr

end TinyImp
