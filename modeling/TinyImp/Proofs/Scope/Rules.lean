import TinyImp.Proofs.Scope.Declaration
import TinyImp.Proofs.Tree.Preorder

/-!
# Scope errors by place

The rules of scope, said without an analysis that goes through the program.
The place of a statement alone decides which names are declared there, by the
declarations that come before it in the order of the text, and which names are
indices there, by the loops whose bodies it stands in.  Every occurrence of a
name has a rule to obey, and the analysis finds exactly the occurrences that
break theirs, in the order of the text.

The analysis itself knows neither places nor loops around: it has a table and
a set of locked indices that change on the way.  `Stmt.Agrees` is the
invariant that ties the two together.
-/

namespace TinyImp

/-- Whether a statement is the declaration of a name. -/
def Stmt.declares (name : String) : Stmt → Bool
  | .declare ident _ _ _ => ident.name == name
  | _ => false

/-- Whether a statement is a loop over a name. -/
def Stmt.runsOver (name : String) : Stmt → Bool
  | .loop index _ _ _ _ => index.name == name
  | _ => false

namespace Program

/-- Whether a declaration of the name comes before the address in the order of
the text. -/
def declaredBefore (program : Program) (address : Address) (name : String) :
    Bool :=
  program.places.any fun place =>
    decide (place.address < address) && place.statement.declares name

/-- Whether the name is the index of a loop with the address in its body. -/
def indexAround (program : Program) (address : Address) (name : String) :
    Bool :=
  program.places.any fun place =>
    decide (place.address.Around address) && place.statement.runsOver name

end Program

/-- The occurrences of names in an expression from left to right, each as the
error that it is if it breaks its rule. -/
def Expr.occurrences : Expr → List ScopeError
  | .number _ _ | .text _ _ => []
  | .named name position => [⟨.undeclared, name, position⟩]
  | .lone operand _ | .negation operand _ => operand.occurrences
  | .binary _ left right _ => left.occurrences ++ right.occurrences

/-- The occurrences of names in a statement, without those in the statements
inside it.  A name that is given a value occurs twice: it has to be declared,
and it must not be an index there. -/
def Stmt.occurrences : Stmt → List ScopeError
  | .declare name _ initial position =>
      initial.elim [] Expr.occurrences ++ [⟨.redeclared, name.name, position⟩]
  | .assign target value position =>
      ⟨.undeclared, target.name, target.position⟩ ::
        ⟨.assignedIndex, target.name, position⟩ :: value.occurrences
  | .loop index low high _ _ =>
      ⟨.undeclared, index.name, index.position⟩ ::
        ⟨.reusedIndex, index.name, index.position⟩ ::
        (low.occurrences ++ high.occurrences)
  | .read target position =>
      [⟨.undeclared, target.name, target.position⟩,
        ⟨.readIndex, target.name, position⟩]
  | .print value _ | .assert value _ => value.occurrences

/-- Whether an occurrence breaks its rule where the names `declared` are
declared and the names `index` are indices. -/
def ScopeError.broken (declared index : String → Bool)
    (occurrence : ScopeError) : Bool :=
  match occurrence.rule with
  | .undeclared => !declared occurrence.name
  | .redeclared => declared occurrence.name
  | .assignedIndex | .readIndex | .reusedIndex => index occurrence.name

/-- What is reported about an occurrence that breaks its rule. -/
inductive ScopeError.ReportedAs : ScopeError → Diagnostic → Prop where
  | undeclared {name : String} {position : Position} :
      ReportedAs ⟨.undeclared, name, position⟩
        ⟨.scope, position, s!"variable {name} used before declaration"⟩
  | redeclared {name : String} {position : Position} :
      ReportedAs ⟨.redeclared, name, position⟩
        ⟨.scope, position, s!"redeclaration of variable {name}"⟩
  | assignedIndex {name : String} {position : Position} :
      ReportedAs ⟨.assignedIndex, name, position⟩
        ⟨.scope, position, s!"cannot modify loop index {name} during loop"⟩
  | readIndex {name : String} {position : Position} :
      ReportedAs ⟨.readIndex, name, position⟩
        ⟨.scope, position, s!"cannot read into loop index {name} during loop"⟩
  | reusedIndex {name : String} {position : Position} :
      ReportedAs ⟨.reusedIndex, name, position⟩
        ⟨.scope, position,
          s!"loop index {name} is already in use by an enclosing loop"⟩

/-- The occurrences in a statement that break their rules at its place. -/
def Place.violations (declared index : Address → String → Bool)
    (place : Place) : List ScopeError :=
  place.statement.occurrences.filter
    (ScopeError.broken (declared place.address) (index place.address))

namespace Program

/-- The occurrences in a program that break their rules. -/
def violations (program : Program) : List ScopeError :=
  program.places.flatMap
    (Place.violations program.declaredBefore program.indexAround)

/-- A program obeys the rules of scope. -/
structure WellScoped (program : Program) : Prop where
  /-- Every name that is used is declared before, in the order of the text. -/
  declared : ∀ address statement,
    Stmt.Located program address statement →
      ∀ name ∈ statement.uses, ∃ declaration,
        Stmt.Declares program declaration name ∧ declaration < address
  /-- No name is declared twice. -/
  once : ∀ first second name, Stmt.Declares program first name →
    Stmt.Declares program second name → first = second
  /-- In the body of a loop its index is given no other value. -/
  kept : ∀ loop name address statement, Stmt.RunsOver program loop name →
    loop.Around address → Stmt.Located program address statement →
      statement.sets ≠ some name

end Program

namespace Address

theorem succ_lt_succ_iff {early late : Nat} {first second : Address} :
    (early + 1) :: first < (late + 1) :: second ↔
      early :: first < late :: second := by
  rw [List.cons_lt_cons_iff, List.cons_lt_cons_iff, Nat.add_lt_add_iff_right,
    Nat.add_right_cancel_iff]

theorem around_succ_iff {early late : Nat} {loop address : Address} :
    Around ((early + 1) :: loop) ((late + 1) :: address) ↔
      Around (early :: loop) (late :: address) := by
  constructor
  · intro around
    obtain rfl : late = early := Nat.succ.inj (head_eq_of_around around)
    exact around_cons_iff.2 (around_cons_iff.1 around)
  · intro around
    obtain rfl : late = early := head_eq_of_around around
    exact around_cons_iff.2 (around_cons_iff.1 around)

end Address

namespace Stmt

theorem declares_iff {block : List Stmt} {address : Address} {name : String} :
    Declares block address name ↔
      ∃ statement, Located block address statement ∧
        statement.declares name = true := by
  constructor
  · intro given
    obtain ⟨ident, type, initial, position, located, same⟩ := given
    exact ⟨_, located, beq_iff_eq.2 same⟩
  · intro given
    obtain ⟨statement, located, same⟩ := given
    cases statement with
    | declare ident type initial position =>
        exact ⟨ident, type, initial, position, located, beq_iff_eq.1 same⟩
    | _ => cases same

theorem runsOver_iff {block : List Stmt} {address : Address} {name : String} :
    RunsOver block address name ↔
      ∃ statement, Located block address statement ∧
        statement.runsOver name = true := by
  constructor
  · intro given
    obtain ⟨index, low, high, body, position, located, same⟩ := given
    exact ⟨_, located, beq_iff_eq.2 same⟩
  · intro given
    obtain ⟨statement, located, same⟩ := given
    cases statement with
    | loop index low high body position =>
        exact ⟨index, low, high, body, position, located, beq_iff_eq.1 same⟩
    | _ => cases same

variable {first : Stmt} {others body : List Stmt} {index : Ident}
  {low high : Expr} {position : Position} {name : String}

theorem not_declares_before_first {declaration : Address}
    (declares : Declares (first :: others) declaration name) :
    ¬ declaration < [0] := by
  cases declaration with
  | nil => exact absurd rfl declares.ne_nil
  | cons number rest =>
      rw [List.cons_lt_cons_iff]
      intro given
      rcases given with less | ⟨_, less⟩
      · exact Nat.not_lt_zero _ less
      · exact List.not_lt_nil _ less

/-- Before a later statement of a block come the declarations in the first one
and those that come before it in the rest of the block. -/
theorem declares_before_succ_iff {offset : Nat} {rest : Address} :
    (∃ declaration, Declares (first :: others) declaration name ∧
        declaration < (offset + 1) :: rest) ↔
      (∃ early, Declares [first] (0 :: early) name) ∨
        ∃ declaration, Declares others declaration name ∧
          declaration < offset :: rest := by
  constructor
  · intro given
    obtain ⟨declaration, ⟨ident, type, initial, place, located, same⟩, before⟩ :=
      given
    cases located with
    | head => exact .inl ⟨[], ident, _, _, _, .head, same⟩
    | body inner => exact .inl ⟨_, ident, _, _, _, .body inner, same⟩
    | tail later =>
        exact .inr ⟨_, ⟨ident, _, _, _, later, same⟩,
          Address.succ_lt_succ_iff.1 before⟩
  · intro given
    rcases given with ⟨early, ident, type, initial, place, located, same⟩ |
      ⟨declaration, declares, before⟩
    · refine ⟨0 :: early,
        ⟨ident, type, initial, place, located_zero_iff.2 located, same⟩, ?_⟩
      exact List.cons_lt_cons_iff.2 (.inl (Nat.succ_pos offset))
    · cases declaration with
      | nil => exact absurd rfl declares.ne_nil
      | cons number deeper =>
          exact ⟨_, declares.tail, Address.succ_lt_succ_iff.2 before⟩

/-- Before a statement in the body of the first loop come only declarations in
that body. -/
theorem declares_before_body_iff {address : Address} :
    (∃ declaration,
        Declares (.loop index low high body position :: others) declaration
          name ∧ declaration < 0 :: address) ↔
      ∃ declaration, Declares body declaration name ∧ declaration < address := by
  constructor
  · intro given
    obtain ⟨declaration, ⟨ident, type, initial, place, located, same⟩, before⟩ :=
      given
    cases located with
    | body inner =>
        exact ⟨_, ⟨ident, _, _, _, inner, same⟩,
          List.cons_lt_cons_self.1 before⟩
    | tail later =>
        rcases List.cons_lt_cons_iff.1 before with less | ⟨equal, _⟩
        · exact absurd less (Nat.not_lt_zero _)
        · exact absurd equal (Nat.succ_ne_zero _)
  · intro given
    obtain ⟨declaration, declares, before⟩ := given
    exact ⟨_, declares.body, List.cons_lt_cons_self.2 before⟩

theorem not_runsOver_around_first {loop : Address}
    (runsOver : RunsOver (first :: others) loop name) : ¬ loop.Around [0] := by
  obtain ⟨_, _, _, _, _, located, _⟩ := runsOver
  intro given
  obtain ⟨number, rest, same⟩ := given
  cases loop with
  | nil => exact absurd rfl located.ne_nil
  | cons head deeper =>
      have lengths := congrArg List.length same
      simp only [List.length_cons, List.length_append, List.length_nil] at lengths
      omega

theorem runsOver_around_succ_iff {offset : Nat} {rest : Address} :
    (∃ loop, RunsOver (first :: others) loop name ∧
        loop.Around ((offset + 1) :: rest)) ↔
      ∃ loop, RunsOver others loop name ∧ loop.Around (offset :: rest) := by
  constructor
  · intro given
    obtain ⟨loop, ⟨index, low, high, body, place, located, same⟩, around⟩ :=
      given
    cases located with
    | head => cases Address.head_eq_of_around around
    | body inner => cases Address.head_eq_of_around around
    | tail later =>
        exact ⟨_, ⟨index, low, high, body, place, later, same⟩,
          Address.around_succ_iff.1 around⟩
  · intro given
    obtain ⟨loop, ⟨index, low, high, body, place, located, same⟩, around⟩ :=
      given
    cases loop with
    | nil => exact absurd rfl located.ne_nil
    | cons number deeper =>
        exact ⟨_, ⟨index, low, high, body, place, .tail located, same⟩,
          Address.around_succ_iff.2 around⟩

theorem runsOver_around_body_iff {offset : Nat} {rest : Address} :
    (∃ loop, RunsOver (.loop index low high body position :: others) loop name ∧
        loop.Around (0 :: offset :: rest)) ↔
      index.name = name ∨
        ∃ loop, RunsOver body loop name ∧ loop.Around (offset :: rest) := by
  constructor
  · intro given
    obtain ⟨loop, ⟨index, low, high, body, place, located, same⟩, around⟩ :=
      given
    cases located with
    | head => exact .inl same
    | body inner =>
        exact .inr ⟨_, ⟨index, low, high, body, place, inner, same⟩,
          Address.around_cons_iff.1 around⟩
    | tail later => cases Address.head_eq_of_around around
  · intro given
    rcases given with same |
      ⟨loop, ⟨index, low, high, body, place, located, same⟩, around⟩
    · exact ⟨[0], ⟨index, low, high, body, position, .head, same⟩, offset, rest,
        rfl⟩
    · exact ⟨0 :: loop, ⟨index, low, high, body, place, .body located, same⟩,
        Address.around_cons_iff.2 around⟩

mutual

/-- A statement leaves the indices locked that were locked before it. -/
theorem locked_scoping (statement : Stmt) (locked : List String)
    (symbols : SymbolTable) :
    (statement.scoping locked symbols).locked = locked := by
  cases statement with
  | loop index low high body position =>
      rw [Stmt.scoping, locked_scopingList body]
      by_cases already : locked.contains index.name = true
      · rw [if_pos already, List.insert_of_mem (List.contains_iff_mem.1 already)]
      · have fresh : index.name ∉ locked := fun member =>
          already (List.contains_iff_mem.2 member)
        rw [if_neg already, List.insert_of_not_mem fresh, List.erase_cons_head]
  | declare name type initial position => rfl
  | assign target value position => rfl
  | read target position => rfl
  | print value position => rfl
  | assert condition position => rfl

theorem locked_scopingList (block : List Stmt) (locked : List String)
    (symbols : SymbolTable) :
    (Stmt.scopingList locked symbols block).locked = locked := by
  cases block with
  | nil => rfl
  | cons first others =>
      rw [Stmt.scopingList, locked_scopingList others, locked_scoping first]

end

/-- What `declared` and `index` say about the addresses of a block, whose
statements are counted from `number`: the table and the locked indices before
the block, and what the block itself adds. -/
structure Agrees (block : List Stmt) (number : Nat) (locked : List String)
    (symbols : SymbolTable) (declared index : Address → String → Bool) :
    Prop where
  declared_iff : ∀ offset rest name,
    declared ((number + offset) :: rest) name = true ↔
      symbols.contains name = true ∨
        ∃ declaration, Declares block declaration name ∧
          declaration < offset :: rest
  index_iff : ∀ offset rest name,
    index ((number + offset) :: rest) name = true ↔
      name ∈ locked ∨
        ∃ loop, RunsOver block loop name ∧ loop.Around (offset :: rest)

namespace Agrees

variable {number : Nat} {locked : List String} {symbols : SymbolTable}
  {declared around : Address → String → Bool}

theorem declared_eq
    (agrees : Agrees (first :: others) number locked symbols declared around) :
    declared [number] = symbols.contains := by
  funext name
  rw [Bool.eq_iff_iff]
  apply (agrees.declared_iff 0 [] name).trans
  apply or_iff_left
  intro given
  obtain ⟨declaration, declares, before⟩ := given
  exact not_declares_before_first declares before

theorem index_eq
    (agrees : Agrees (first :: others) number locked symbols declared around) :
    around [number] = locked.contains := by
  funext name
  rw [Bool.eq_iff_iff, List.contains_iff_mem]
  apply (agrees.index_iff 0 [] name).trans
  apply or_iff_left
  intro given
  obtain ⟨loop, runsOver, inside⟩ := given
  exact not_runsOver_around_first runsOver inside

theorem tail
    (agrees : Agrees (first :: others) number locked symbols declared around) :
    Agrees others (number + 1) (first.scoping locked symbols).locked
      (first.scoping locked symbols).symbols declared around := by
  constructor
  · intro offset rest name
    rw [Nat.add_right_comm, Nat.add_assoc, agrees.declared_iff,
      declares_before_succ_iff, contains_scoping_iff, or_assoc]
  · intro offset rest name
    rw [Nat.add_right_comm, Nat.add_assoc, agrees.index_iff,
      runsOver_around_succ_iff, locked_scoping]

theorem loopBody
    (agrees : Agrees (.loop index low high body position :: others) number
      locked symbols declared around) :
    Agrees body 0 (locked.insert index.name) symbols
      (fun address => declared (number :: address))
      (fun address => around (number :: address)) := by
  constructor
  · intro offset rest name
    rw [Nat.zero_add, ← declares_before_body_iff]
    exact agrees.declared_iff 0 (offset :: rest) name
  · intro offset rest name
    rw [Nat.zero_add, List.mem_insert_iff, or_assoc, or_left_comm,
      @eq_comm _ name index.name, ← runsOver_around_body_iff]
    exact agrees.index_iff 0 (offset :: rest) name

end Agrees

end Stmt

namespace ScopeError

variable {declared index : String → Bool}

theorem flagged_eq_nil_iff {holds : Bool} {error : ScopeError} :
    flagged holds error = [] ↔ holds = false := by
  cases holds with
  | false => exact ⟨fun _ => rfl, fun _ => rfl⟩
  | true => exact ⟨nofun, nofun⟩

theorem filter_broken_cons (occurrence : ScopeError)
    (others : List ScopeError) :
    (occurrence :: others).filter (broken declared index) =
      flagged (occurrence.broken declared index) occurrence ++
        others.filter (broken declared index) := by
  rw [List.filter_cons, flagged]
  split
  · rfl
  · rfl

theorem reportedAs_diagnostic (error : ScopeError) :
    error.ReportedAs error.diagnostic := by
  obtain ⟨rule, name, position⟩ := error
  cases rule with
  | undeclared => exact .undeclared
  | redeclared => exact .redeclared
  | assignedIndex => exact .assignedIndex
  | readIndex => exact .readIndex
  | reusedIndex => exact .reusedIndex

end ScopeError

open ScopeError

theorem Expr.scopeErrors_eq (symbols : SymbolTable) (index : String → Bool)
    (expression : Expr) :
    expression.scopeErrors symbols =
      expression.occurrences.filter (broken symbols.contains index) := by
  induction expression with
  | number value position => rfl
  | text value position => rfl
  | named name position =>
      rw [Expr.occurrences, filter_broken_cons, List.filter_nil,
        List.append_nil]
      rfl
  | lone operand position induction => exact induction
  | negation operand position induction => exact induction
  | binary operator left right position leftInduction rightInduction =>
      rw [Expr.scopeErrors, Expr.occurrences, List.filter_append,
        leftInduction, rightInduction]

namespace Stmt

section Own

variable (locked : List String) (symbols : SymbolTable)

/-- The errors in the header of a loop come before those in its body. -/
theorem loop_scoping_errors (index : Ident) (low high : Expr)
    (body : List Stmt) (position : Position) :
    ((Stmt.loop index low high body position).scoping locked symbols).errors =
      (Stmt.loop index low high body position).occurrences.filter
          (broken symbols.contains locked.contains) ++
        (Stmt.scopingList (locked.insert index.name) symbols body).errors := by
  rw [Stmt.scoping, Stmt.occurrences, filter_broken_cons, filter_broken_cons,
    List.filter_append, ← Expr.scopeErrors_eq, ← Expr.scopeErrors_eq]
  simp only [List.append_assoc]
  rfl

theorem declare_scoping_errors (name : Ident) (type : Ty)
    (initial : Option Expr) (position : Position) :
    ((Stmt.declare name type initial position).scoping locked symbols).errors =
      (Stmt.declare name type initial position).occurrences.filter
        (broken symbols.contains locked.contains) := by
  rw [Stmt.scoping, Stmt.occurrences, List.filter_append, filter_broken_cons,
    List.filter_nil, List.append_nil]
  cases initial with
  | none => rfl
  | some value => exact congrArg (· ++ _) (value.scopeErrors_eq symbols _)

theorem assign_scoping_errors (target : Ident) (value : Expr)
    (position : Position) :
    ((Stmt.assign target value position).scoping locked symbols).errors =
      (Stmt.assign target value position).occurrences.filter
        (broken symbols.contains locked.contains) := by
  rw [Stmt.scoping, Stmt.occurrences, filter_broken_cons, filter_broken_cons,
    ← Expr.scopeErrors_eq, ← List.append_assoc]
  rfl

theorem read_scoping_errors (target : Ident) (position : Position) :
    ((Stmt.read target position).scoping locked symbols).errors =
      (Stmt.read target position).occurrences.filter
        (broken symbols.contains locked.contains) := by
  rw [Stmt.scoping, Stmt.occurrences, filter_broken_cons, filter_broken_cons,
    List.filter_nil, List.append_nil]
  rfl

end Own

/-- A statement without statements inside it is judged at its own place. -/
private theorem violations_of_flat {statement : Stmt} {others : List Stmt}
    {number : Nat} {locked : List String} {symbols : SymbolTable}
    {declared index : Address → String → Bool}
    (agrees : Agrees (statement :: others) number locked symbols declared index)
    (flat : statement.places = [⟨[], statement⟩]) :
    (statement.places.map (Place.within number)).flatMap
        (Place.violations declared index) =
      statement.occurrences.filter
        (broken symbols.contains locked.contains) := by
  rw [flat, List.map_singleton, List.flatMap_singleton, Place.violations,
    Place.within, agrees.declared_eq, agrees.index_eq]

mutual

/-- The analysis of a statement finds what is broken at its places. -/
theorem scoping_errors_eq (statement : Stmt) {others : List Stmt}
    {number : Nat} {locked : List String} {symbols : SymbolTable}
    {declared index : Address → String → Bool}
    (agrees : Agrees (statement :: others) number locked symbols declared
      index) :
    (statement.scoping locked symbols).errors =
      (statement.places.map (Place.within number)).flatMap
        (Place.violations declared index) := by
  cases statement with
  | loop loopIndex low high body position =>
      rw [loop_scoping_errors, scopingList_errors_eq body agrees.loopBody,
        Stmt.places, List.map_cons, List.flatMap_cons, List.flatMap_map,
        Place.violations, Place.within, agrees.declared_eq, agrees.index_eq]
      rfl
  | declare name type initial position =>
      rw [violations_of_flat agrees rfl, declare_scoping_errors]
  | assign target value position =>
      rw [violations_of_flat agrees rfl, assign_scoping_errors]
  | read target position =>
      rw [violations_of_flat agrees rfl, read_scoping_errors]
  | print value position =>
      rw [violations_of_flat agrees rfl]
      exact value.scopeErrors_eq symbols _
  | assert condition position =>
      rw [violations_of_flat agrees rfl]
      exact condition.scopeErrors_eq symbols _

theorem scopingList_errors_eq (block : List Stmt) {number : Nat}
    {locked : List String} {symbols : SymbolTable}
    {declared index : Address → String → Bool}
    (agrees : Agrees block number locked symbols declared index) :
    (Stmt.scopingList locked symbols block).errors =
      (Stmt.placesFrom number block).flatMap
        (Place.violations declared index) := by
  cases block with
  | nil => rfl
  | cons first others =>
      rw [Stmt.scopingList, Stmt.placesFrom, List.flatMap_append,
        ← scoping_errors_eq first agrees,
        ← scopingList_errors_eq others agrees.tail]

end

end Stmt

namespace Program

variable {program : Program} {address : Address} {name : String}

theorem declaredBefore_iff :
    program.declaredBefore address name = true ↔
      ∃ declaration, Stmt.Declares program declaration name ∧
        declaration < address := by
  rw [declaredBefore, List.any_eq_true]
  constructor
  · intro given
    obtain ⟨place, member, both⟩ := given
    obtain ⟨before, declares⟩ := Bool.and_eq_true_iff.1 both
    exact ⟨place.address,
      Stmt.declares_iff.2 ⟨_, mem_places_iff.1 member, declares⟩,
      of_decide_eq_true before⟩
  · intro given
    obtain ⟨declaration, declares, before⟩ := given
    obtain ⟨statement, located, declares⟩ := Stmt.declares_iff.1 declares
    exact ⟨⟨declaration, statement⟩, mem_places_iff.2 located,
      Bool.and_eq_true_iff.2 ⟨decide_eq_true before, declares⟩⟩

theorem indexAround_iff :
    program.indexAround address name = true ↔
      ∃ loop, Stmt.RunsOver program loop name ∧ loop.Around address := by
  rw [indexAround, List.any_eq_true]
  constructor
  · intro given
    obtain ⟨place, member, both⟩ := given
    obtain ⟨around, runsOver⟩ := Bool.and_eq_true_iff.1 both
    exact ⟨place.address,
      Stmt.runsOver_iff.2 ⟨_, mem_places_iff.1 member, runsOver⟩,
      of_decide_eq_true around⟩
  · intro given
    obtain ⟨loop, runsOver, around⟩ := given
    obtain ⟨statement, located, runsOver⟩ := Stmt.runsOver_iff.1 runsOver
    exact ⟨⟨loop, statement⟩, mem_places_iff.2 located,
      Bool.and_eq_true_iff.2 ⟨decide_eq_true around, runsOver⟩⟩

theorem agrees_start (program : Program) :
    Stmt.Agrees program 0 [] .empty program.declaredBefore
      program.indexAround := by
  constructor
  · intro offset rest name
    rw [Nat.zero_add, declaredBefore_iff]
    exact (or_iff_right nofun).symm
  · intro offset rest name
    rw [Nat.zero_add, indexAround_iff]
    exact (or_iff_right List.not_mem_nil).symm

theorem scoping_errors_eq_violations (program : Program) :
    program.scoping.errors = program.violations :=
  Stmt.scopingList_errors_eq program program.agrees_start

end Program

/-- No name in an expression breaks its rule if all of them are declared. -/
theorem Expr.filter_broken_eq_nil_iff {declared index : String → Bool}
    (expression : Expr) :
    expression.occurrences.filter (broken declared index) = [] ↔
      ∀ name ∈ expression.names, declared name = true := by
  induction expression with
  | number value position => simp [Expr.occurrences, Expr.names]
  | text value position => simp [Expr.occurrences, Expr.names]
  | named name position => simp [Expr.occurrences, Expr.names, broken]
  | lone operand position induction => exact induction
  | negation operand position induction => exact induction
  | binary operator left right position leftInduction rightInduction =>
      rw [Expr.occurrences, List.filter_append, List.append_eq_nil_iff,
        leftInduction, rightInduction, Expr.names, List.forall_mem_append]

/-- A name that is given a value has to be declared and no index. -/
private theorem setting_iff {declared index : String → Bool} {rule : ScopeRule}
    {name : String} {position place : Position} {names : List String}
    {occurrences : List ScopeError}
    (locks : ScopeError.broken declared index ⟨rule, name, place⟩ = index name)
    (used : occurrences.filter (broken declared index) = [] ↔
      ∀ other ∈ names, declared other = true) :
    (⟨.undeclared, name, position⟩ :: ⟨rule, name, place⟩ ::
        occurrences).filter (broken declared index) = [] ↔
      (∀ other ∈ name :: names, declared other = true) ∧
        (∀ other, false = true → declared other = false) ∧
        ∀ other, some name = some other → index other = false := by
  have parts : (⟨.undeclared, name, position⟩ :: ⟨rule, name, place⟩ ::
        occurrences).filter (broken declared index) = [] ↔
      declared name = true ∧ index name = false ∧
        ∀ other ∈ names, declared other = true := by
    rw [filter_broken_cons, filter_broken_cons, List.append_eq_nil_iff,
      List.append_eq_nil_iff, flagged_eq_nil_iff, flagged_eq_nil_iff, locks,
      used, broken, Bool.not_eq_false']
  rw [parts]
  constructor
  · intro given
    obtain ⟨nameDeclared, noIndex, namesDeclared⟩ := given
    refine ⟨List.forall_mem_cons.2 ⟨nameDeclared, namesDeclared⟩, nofun, ?_⟩
    intro other same
    cases same
    exact noIndex
  · intro given
    obtain ⟨allDeclared, _, noIndex⟩ := given
    obtain ⟨nameDeclared, namesDeclared⟩ := List.forall_mem_cons.1 allDeclared
    exact ⟨nameDeclared, noIndex name rfl, namesDeclared⟩

/-- What it is for a statement to break no rule: the names it uses are
declared, the name it declares is not, and the name it sets is no index. -/
theorem Stmt.filter_broken_eq_nil_iff {declared index : String → Bool}
    (statement : Stmt) :
    statement.occurrences.filter (broken declared index) = [] ↔
      (∀ name ∈ statement.uses, declared name = true) ∧
        (∀ name, statement.declares name = true → declared name = false) ∧
        ∀ name, statement.sets = some name → index name = false := by
  cases statement with
  | declare ident type initial position =>
      have used : (initial.elim [] Expr.occurrences).filter
            (broken declared index) = [] ↔
          ∀ name ∈ initial.elim [] Expr.names, declared name = true := by
        cases initial with
        | none => simp
        | some value => exact value.filter_broken_eq_nil_iff
      rw [Stmt.occurrences, List.filter_append, List.append_eq_nil_iff, used,
        filter_broken_cons, List.append_eq_nil_iff, flagged_eq_nil_iff]
      simp [broken, Stmt.uses, Stmt.declares, Stmt.sets]
  | assign target value position =>
      exact setting_iff rfl value.filter_broken_eq_nil_iff
  | loop loopIndex low high body position =>
      refine setting_iff rfl ?_
      rw [List.filter_append, List.append_eq_nil_iff,
        low.filter_broken_eq_nil_iff, high.filter_broken_eq_nil_iff,
        List.forall_mem_append]
  | read target position => exact setting_iff rfl (by simp)
  | print value position =>
      rw [Stmt.occurrences, value.filter_broken_eq_nil_iff]
      simp [Stmt.uses, Stmt.declares, Stmt.sets]
  | assert condition position =>
      rw [Stmt.occurrences, condition.filter_broken_eq_nil_iff]
      simp [Stmt.uses, Stmt.declares, Stmt.sets]

namespace Program

theorem violations_eq_nil_iff {program : Program} :
    program.violations = [] ↔
      ∀ address statement, Stmt.Located program address statement →
        (∀ name ∈ statement.uses,
            program.declaredBefore address name = true) ∧
          (∀ name, statement.declares name = true →
            program.declaredBefore address name = false) ∧
          ∀ name, statement.sets = some name →
            program.indexAround address name = false := by
  rw [violations, List.flatMap_eq_nil_iff]
  constructor
  · intro unbroken address statement located
    exact statement.filter_broken_eq_nil_iff.1
      (unbroken ⟨address, statement⟩ (mem_places_iff.2 located))
  · intro obeyed place member
    exact place.statement.filter_broken_eq_nil_iff.2
      (obeyed place.address place.statement (mem_places_iff.1 member))

theorem violations_eq_nil_iff_wellScoped {program : Program} :
    program.violations = [] ↔ program.WellScoped := by
  rw [violations_eq_nil_iff]
  constructor
  · intro obeyed
    constructor
    · intro address statement located name member
      exact declaredBefore_iff.1
        ((obeyed address statement located).1 name member)
    · intro first second name
      have notBefore : ∀ early late, Stmt.Declares program early name →
          Stmt.Declares program late name → ¬ early < late := by
        intro early late declares again before
        obtain ⟨statement, located, declared⟩ := Stmt.declares_iff.1 again
        have fresh := (obeyed late statement located).2.1 name declared
        rw [declaredBefore_iff.2 ⟨early, declares, before⟩] at fresh
        cases fresh
      intro declares again
      rcases Std.lt_trichotomy first second with before | same | after
      · exact absurd before (notBefore first second declares again)
      · exact same
      · exact absurd after (notBefore second first again declares)
    · intro loop name address statement runsOver around located sets
      have free := (obeyed address statement located).2.2 name sets
      rw [indexAround_iff.2 ⟨loop, runsOver, around⟩] at free
      cases free
  · intro wellScoped address statement located
    refine ⟨?_, ?_, ?_⟩
    · intro name member
      exact declaredBefore_iff.2
        (wellScoped.declared address statement located name member)
    · intro name declares
      apply Bool.eq_false_iff.2
      intro known
      obtain ⟨declaration, earlier, before⟩ := declaredBefore_iff.1 known
      have same := wellScoped.once declaration address name earlier
        (Stmt.declares_iff.2 ⟨statement, located, declares⟩)
      rw [same] at before
      exact List.lt_irrefl address before
    · intro name sets
      apply Bool.eq_false_iff.2
      intro known
      obtain ⟨loop, runsOver, around⟩ := indexAround_iff.1 known
      exact wellScoped.kept loop name address statement runsOver around located
        sets

/-- The scope analysis finds the occurrences that break their rules, judged by
their places alone and in the order of the text, in which the addresses grow,
and reports each of them in the words of its rule.  It finds nothing exactly if
the program obeys the rules of scope. -/
theorem scope_diagnostics_by_place (program : Program) :
    program.scoping.errors = program.violations ∧
      (∀ violation ∈ program.violations,
        violation.ReportedAs violation.diagnostic) ∧
      program.places.Pairwise
        (fun early late => early.address < late.address) ∧
      (program.scoping.errors = [] ↔ program.WellScoped) := by
  have found := program.scoping_errors_eq_violations
  refine ⟨found, ?_, program.pairwise_address_places, ?_⟩
  · intro violation _
    exact violation.reportedAs_diagnostic
  · rw [found]
    exact violations_eq_nil_iff_wellScoped

-- A loop inside over the same index is an error, and behind it the index still
-- belongs to the loop around; behind that one it is free again.
example :
    let zero := Expr.number .zero ⟨1, 1⟩
    let give := Stmt.assign ⟨"i", ⟨1, 1⟩⟩ zero ⟨1, 1⟩
    let inner := Stmt.loop ⟨"i", ⟨1, 1⟩⟩ zero zero [] ⟨1, 1⟩
    let outer := Stmt.loop ⟨"i", ⟨1, 1⟩⟩ zero zero [inner, give] ⟨1, 1⟩
    (violations [.declare ⟨"i", ⟨1, 1⟩⟩ .int none ⟨1, 1⟩, outer, give]).map
        ScopeError.rule =
      [.reusedIndex, .assignedIndex] := by
  decide

end Program

end TinyImp
