import TinyImp.Proofs.Scope.Declaration
import TinyImp.Typing.Check

/-!
# How a check of types ends

Inference and checking go on behind every error.  Only a name that the table
does not know stops them, and the names are looked up in the order of the
text, so the first name that is missing decides how a check ends:
`Program.check_endsAt` says this for every table.

The table of a program has every name that is declared anywhere in it, in
whatever order.  Checked against its own table, a program therefore comes to
its end unless it uses a name that it declares nowhere.
-/

namespace TinyImp

/-- The first of these names that the table does not know. -/
def SymbolTable.missing? (symbols : SymbolTable) (names : List String) :
    Option String :=
  names.find? fun name => !symbols.contains name

namespace SymbolTable

variable {symbols : SymbolTable}

theorem missing?_append (early late : List String) :
    symbols.missing? (early ++ late) =
      (symbols.missing? early).or (symbols.missing? late) :=
  List.find?_append

theorem missing?_cons (name : String) (names : List String) :
    symbols.missing? (name :: names) =
      (symbols.missing? [name]).or (symbols.missing? names) :=
  missing?_append [name] names

theorem missing?_eq_none_iff {names : List String} :
    symbols.missing? names = none ↔
      ∀ name ∈ names, symbols.contains name = true := by
  simp [missing?]

theorem missing?_eq_some_iff {names : List String} {name : String} :
    symbols.missing? names = some name ↔
      symbols.contains name = false ∧
        ∃ early late, names = early ++ name :: late ∧
          ∀ known ∈ early, symbols.contains known = true := by
  simp [missing?, List.find?_eq_some_iff_append]

end SymbolTable

namespace Checked

variable {α β : Type}

/-- A check that stops at the missing name if there is one, and comes to an
answer if there is none. -/
def EndsAt (checked : Checked α) : Option String → Prop
  | none => ∃ answer, checked.result = .ok answer
  | some name => checked.result = .error (.missingSymbol name)

theorem endsAt_pure (value : α) : (pure value : Checked α).EndsAt none :=
  ⟨value, rfl⟩

theorem endsAt_require (holds : Bool) (rule : TypeRule) (position : Position) :
    (require holds rule position).EndsAt none :=
  ⟨(), rfl⟩

theorem EndsAt.bind {first : Checked α} {next : α → Checked β}
    {early late : Option String} (before : first.EndsAt early)
    (behind : ∀ value, (next value).EndsAt late) :
    (first >>= next).EndsAt (early.or late) := by
  obtain ⟨errors, result⟩ := first
  cases early with
  | some name =>
      cases before
      rfl
  | none =>
      obtain ⟨value, answered⟩ := before
      cases answered
      have ends := behind value
      cases late with
      | none => exact ends
      | some name => exact ends

/-- What always comes to an answer does not change where a check ends. -/
theorem EndsAt.bind_answer {first : Checked α} {next : α → Checked β}
    {missing : Option String} (before : first.EndsAt missing)
    (behind : ∀ value, (next value).EndsAt none) :
    (first >>= next).EndsAt missing := by
  have ends := before.bind behind
  rwa [Option.or_none] at ends

theorem EndsAt.result_eq_error_iff {checked : Checked α}
    {missing : Option String} (ends : checked.EndsAt missing) {fault : Fault} :
    checked.result = .error fault ↔
      ∃ name, missing = some name ∧ fault = .missingSymbol name := by
  cases missing with
  | none =>
      obtain ⟨answer, answered⟩ := ends
      simp [answered]
  | some name =>
      have stopped : checked.result = .error (.missingSymbol name) := ends
      simp [stopped, eq_comm]

theorem EndsAt.result_eq_ok {checked : Checked Unit}
    (ends : checked.EndsAt none) : checked.result = .ok () := by
  obtain ⟨_, answered⟩ := ends
  exact answered

end Checked

open Checked SymbolTable

variable (symbols : SymbolTable)

theorem SymbolTable.declaredType_endsAt (name : String) :
    (symbols.declaredType name).EndsAt (symbols.missing? [name]) := by
  unfold SymbolTable.declaredType SymbolTable.typeOf?
  cases found : symbols.get? name with
  | none =>
      have unknown : symbols.missing? [name] = some name := by
        simp [missing?, Bindings.contains, found]
      rw [unknown]
      rfl
  | some symbol =>
      have known : symbols.missing? [name] = none := by
        simp [missing?, Bindings.contains, found]
      rw [known]
      exact endsAt_pure symbol.type

/-- Inference ends at the first name in the expression that is missing. -/
theorem Expr.infer_endsAt (expression : Expr) :
    (expression.infer symbols).EndsAt (symbols.missing? expression.names) := by
  induction expression with
  | number value position => exact endsAt_pure _
  | text value position => exact endsAt_pure _
  | named name position => exact symbols.declaredType_endsAt name
  | lone operand position induction => exact induction
  | negation operand position induction =>
      refine induction.bind_answer fun type => ?_
      exact (endsAt_require _ _ _).bind_answer fun _ => endsAt_pure _
  | binary operator left right position leftInduction rightInduction =>
      rw [Expr.names, missing?_append]
      refine leftInduction.bind fun leftType => ?_
      refine rightInduction.bind_answer fun rightType => ?_
      refine (endsAt_require _ _ _).bind_answer fun _ => ?_
      exact (endsAt_require _ _ _).bind_answer fun _ => endsAt_pure _

mutual

/-- The check of a statement ends at the first name in it that is missing. -/
theorem Stmt.check_endsAt (statement : Stmt) :
    (statement.check symbols).EndsAt
      (symbols.missing? statement.mentions) := by
  cases statement with
  | declare name type initial position =>
      cases initial with
      | none => exact endsAt_pure _
      | some value =>
          exact (value.infer_endsAt symbols).bind_answer fun _ => endsAt_require _ _ _
  | assign target value position =>
      have names : (Stmt.assign target value position).mentions =
          target.name :: value.names := rfl
      rw [names, missing?_cons]
      refine (symbols.declaredType_endsAt _).bind fun targetType => ?_
      exact (value.infer_endsAt symbols).bind_answer fun _ => endsAt_require _ _ _
  | loop index low high body position =>
      rw [Stmt.mentions, Stmt.uses, List.cons_append, missing?_cons,
        List.append_assoc, missing?_append, missing?_append]
      refine (symbols.declaredType_endsAt _).bind fun indexType => ?_
      refine (low.infer_endsAt symbols).bind fun lowType => ?_
      refine (high.infer_endsAt symbols).bind fun highType => ?_
      -- The three requirements on the header come to an answer in any case.
      refine (endsAt_require _ _ _).bind fun _ => ?_
      refine (endsAt_require _ _ _).bind fun _ => ?_
      exact (endsAt_require _ _ _).bind fun _ => Stmt.checkList_endsAt body
  | read target position =>
      refine (symbols.declaredType_endsAt _).bind_answer fun _ => ?_
      exact endsAt_require _ _ _
  | print value position =>
      exact (value.infer_endsAt symbols).bind_answer fun _ => endsAt_pure _
  | assert condition position =>
      exact (condition.infer_endsAt symbols).bind_answer fun _ => endsAt_require _ _ _

theorem Stmt.checkList_endsAt (statements : List Stmt) :
    (Stmt.checkList symbols statements).EndsAt
      (symbols.missing? (Stmt.mentionsList statements)) := by
  cases statements with
  | nil => exact endsAt_pure _
  | cons first others =>
      rw [Stmt.mentionsList, missing?_append]
      exact (Stmt.check_endsAt first).bind fun _ =>
        Stmt.checkList_endsAt others

end

variable {symbols}

/-- Inference comes to an answer, right or made up, if the table knows the
names in the expression. -/
theorem Expr.exists_infer_result (expression : Expr)
    (known : ∀ name ∈ expression.names, symbols.contains name = true) :
    ∃ type, (expression.infer symbols).result = .ok type := by
  have ends := expression.infer_endsAt symbols
  rw [missing?_eq_none_iff.2 known] at ends
  exact ends

/-- A check comes to its end if the table knows the names that are used. -/
theorem Stmt.checkList_result (statements : List Stmt)
    (known : ∀ name ∈ Stmt.mentionsList statements,
      symbols.contains name = true) :
    (Stmt.checkList symbols statements).result = .ok () := by
  have ends := Stmt.checkList_endsAt symbols statements
  rw [missing?_eq_none_iff.2 known] at ends
  exact ends.result_eq_ok

namespace Program

variable {program : Program}

theorem check_endsAt (program : Program) (symbols : SymbolTable) :
    (program.check symbols).EndsAt
      (symbols.missing? (Stmt.mentionsList program)) :=
  Stmt.checkList_endsAt symbols program

/-- The judgement of types has no fault behind a clean judgement of names. -/
theorem check_result_of_scoped (clean : program.scoping.errors = []) :
    (program.check program.scoping.symbols).result = .ok () :=
  Stmt.checkList_result program fun _ member =>
    Stmt.contains_of_mentionsList program clean member

/-- The table of a program knows a name exactly if it is declared somewhere in
the program. -/
theorem contains_scoping_iff {name : String} :
    program.scoping.symbols.contains name = true ↔
      ∃ address, Stmt.Declares program address name := by
  have nothing : (Bindings.empty : SymbolTable).contains name = false := rfl
  rw [Program.scoping, Stmt.contains_scopingList_iff, nothing]
  exact or_iff_right Bool.false_ne_true

theorem not_contains_scoping_iff {name : String} :
    program.scoping.symbols.contains name = false ↔
      ∀ address, ¬ Stmt.Declares program address name := by
  rw [← Bool.not_eq_true, contains_scoping_iff, not_exists]

/-- Checked against its own table, a program stops exactly if it uses a name
that it declares nowhere, and it stops at the first such name.  Neither a
program in whose names nothing is found stops, nor one that only uses names
before it declares them. -/
theorem check_stops_iff_undeclared (program : Program) :
    let checked := program.check program.scoping.symbols
    ((∃ name, checked.result = .error (.missingSymbol name)) ↔
        ∃ name ∈ Stmt.mentionsList program,
          ∀ address, ¬ Stmt.Declares program address name) ∧
      (∀ fault, checked.result = .error fault ↔
        ∃ early name late, fault = .missingSymbol name ∧
          Stmt.mentionsList program = early ++ name :: late ∧
          (∀ address, ¬ Stmt.Declares program address name) ∧
          ∀ known ∈ early, ∃ address, Stmt.Declares program address known) ∧
      (program.scoping.errors = [] → checked.result = .ok ()) ∧
      ((∀ name ∈ Stmt.mentionsList program,
          ∃ address, Stmt.Declares program address name) →
        checked.result = .ok ()) := by
  intro checked
  have ends : checked.EndsAt _ := program.check_endsAt program.scoping.symbols
  refine ⟨⟨?_, ?_⟩, fun fault => ?_, check_result_of_scoped, fun declared => ?_⟩
  · intro given
    obtain ⟨name, stopped⟩ := given
    obtain ⟨_, missing, same⟩ := ends.result_eq_error_iff.1 stopped
    cases same
    obtain ⟨unknown, early, late, split, _⟩ := missing?_eq_some_iff.1 missing
    refine ⟨name, ?_, not_contains_scoping_iff.1 unknown⟩
    rw [split]
    exact List.mem_append_cons_self
  · intro given
    obtain ⟨name, member, undeclared⟩ := given
    cases missing : program.scoping.symbols.missing?
        (Stmt.mentionsList program) with
    | some first =>
        exact ⟨first, ends.result_eq_error_iff.2 ⟨first, missing, rfl⟩⟩
    | none =>
        have known := missing?_eq_none_iff.1 missing name member
        rw [not_contains_scoping_iff.2 undeclared] at known
        cases known
  · simp only [ends.result_eq_error_iff, missing?_eq_some_iff,
      not_contains_scoping_iff, contains_scoping_iff]
    constructor
    · intro given
      obtain ⟨name, ⟨undeclared, early, late, split, known⟩, same⟩ := given
      exact ⟨early, name, late, same, split, undeclared, known⟩
    · intro given
      obtain ⟨early, name, late, same, split, undeclared, known⟩ := given
      exact ⟨name, ⟨undeclared, early, late, split, known⟩, same⟩
  · exact Stmt.checkList_result program fun name member =>
      contains_scoping_iff.2 (declared name member)

/-- A loop reads into a variable that is declared behind the loop only. -/
def lateDeclaration : Program :=
  [.declare ⟨"i", ⟨1, 5⟩⟩ .int none ⟨1, 1⟩,
    .loop ⟨"i", ⟨2, 5⟩⟩ (.lone (.number .zero ⟨2, 10⟩) ⟨2, 10⟩)
      (.lone (.named "x" ⟨2, 13⟩) ⟨2, 13⟩)
      [.read ⟨"x", ⟨3, 8⟩⟩ ⟨3, 3⟩] ⟨2, 1⟩,
    .declare ⟨"x", ⟨5, 5⟩⟩ .int none ⟨5, 1⟩]

theorem lateDeclaration_checked :
    lateDeclaration.scoping.errors ≠ [] ∧
      (lateDeclaration.check lateDeclaration.scoping.symbols).result =
        .ok () := by
  obtain ⟨_, _, _, ended⟩ := check_stops_iff_undeclared lateDeclaration
  refine ⟨by decide, ended fun name member => ?_⟩
  have used : name = "i" ∨ name = "x" ∨ name = "x" := by
    simpa [lateDeclaration, Stmt.mentionsList, Stmt.mentions, Stmt.uses,
      Expr.names] using member
  rcases used with rfl | rfl | rfl
  · exact ⟨[0], _, _, _, _, .head, rfl⟩
  · exact ⟨[2], _, _, _, _, .tail (.tail .head), rfl⟩
  · exact ⟨[2], _, _, _, _, .tail (.tail .head), rfl⟩

end Program

end TinyImp
