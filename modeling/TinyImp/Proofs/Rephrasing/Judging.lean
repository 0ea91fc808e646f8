import TinyImp.Proofs.Rephrasing.Basic

/-!
# Rephrased programs are judged alike

The analysis of names and the check of types find the same in a rephrased
program, at the places where it has been moved to.  Nothing that they do
depends on a place: places go into the table and into the errors, and nothing
is ever looked up or compared by them.
-/

namespace TinyImp

open ScopeError (flagged)

variable {place : Position → Position}

theorem ScopeError.map_flagged (broken : Bool) (error : ScopeError) :
    (flagged broken error).map (ScopeError.relocate place) =
      flagged broken (error.relocate place) := by
  cases broken <;> rfl

namespace SymbolTable

variable (symbols : SymbolTable) (name : String)

theorem contains_relocate :
    (symbols.relocate place).contains name = symbols.contains name :=
  Bindings.contains_map _ symbols name

theorem typeOf?_relocate :
    (symbols.relocate place).typeOf? name = symbols.typeOf? name := by
  rw [typeOf?, relocate, Bindings.get?_map, Option.map_map]
  rfl

theorem declare_relocate (type : Ty) (position : Position) :
    (symbols.relocate place).declare name ⟨type, place position⟩ =
      (symbols.declare name ⟨type, position⟩).relocate place := by
  rw [declare, declare, contains_relocate]
  split
  · rfl
  · exact (Bindings.map_set (Symbol.relocate place) symbols name
      ⟨type, position⟩).symm

theorem use_relocate (position : Position) :
    (symbols.relocate place).use name (place position) =
      (symbols.use name position).map (ScopeError.relocate place) := by
  rw [use, use, contains_relocate, ScopeError.map_flagged]
  rfl

theorem declaredType_relocate :
    (symbols.relocate place).declaredType name =
      (symbols.declaredType name).relocate place := by
  rw [declaredType, declaredType, typeOf?_relocate]
  split <;> rfl

end SymbolTable

namespace Checked

variable {α β : Type}

theorem relocate_pure (value : α) :
    (pure value : Checked α).relocate place = pure value :=
  rfl

theorem relocate_require (holds : Bool) (rule : TypeRule)
    (position : Position) :
    (require holds rule position).relocate place =
      require holds rule (place position) := by
  cases holds <;> rfl

theorem relocate_bind (first : Checked α) (next : α → Checked β) :
    (first >>= next).relocate place =
      first.relocate place >>= fun value => (next value).relocate place := by
  obtain ⟨errors, result⟩ := first
  cases result with
  | error fault => rfl
  | ok value => simp [bind, relocate]

end Checked

namespace Rephrasing

variable (rephrasing : Rephrasing)

mutual

/-- In a rephrased statement the same is found about names. -/
theorem scoping_statement (statement : Stmt) (locked : List String)
    (symbols : SymbolTable) :
    (rephrasing.statement statement).scoping locked
        (symbols.relocate rephrasing.place) =
      (statement.scoping locked symbols).relocate rephrasing.place := by
  cases statement with
  | declare name type initial position =>
      simp only [statement_declare, Stmt.scoping, Scoping.relocate,
        List.map_append, ScopeError.map_flagged,
        SymbolTable.contains_relocate, SymbolTable.declare_relocate]
      cases initial with
      | none => rfl
      | some value =>
          simp only [Option.map_some, Option.elim_some,
            rephrasing.scopeErrors_phrase]
          rfl
  | assign target value position =>
      simp only [statement_assign, Stmt.scoping, Scoping.relocate,
        List.map_append, ScopeError.map_flagged,
        rephrasing.scopeErrors_phrase, Ident.relocate,
        SymbolTable.use_relocate]
      rfl
  | loop index low high body position =>
      have inner := scoping_block body (locked.insert index.name) symbols
      simp only [statement_loop, Stmt.scoping, List.map_append,
        ScopeError.map_flagged, rephrasing.scopeErrors_phrase,
        Ident.relocate, SymbolTable.use_relocate, inner, Scoping.relocate]
      rfl
  | read target position =>
      simp only [statement_read, Stmt.scoping, Scoping.relocate,
        List.map_append, ScopeError.map_flagged, Ident.relocate,
        SymbolTable.use_relocate]
      rfl
  | print value position =>
      simp only [statement_print, Stmt.scoping, Scoping.relocate,
        rephrasing.scopeErrors_phrase]
  | assert condition position =>
      simp only [statement_assert, Stmt.scoping, Scoping.relocate,
        rephrasing.scopeErrors_phrase]

theorem scoping_block (block : List Stmt) (locked : List String)
    (symbols : SymbolTable) :
    Stmt.scopingList locked (symbols.relocate rephrasing.place)
        (rephrasing.program block) =
      (Stmt.scopingList locked symbols block).relocate rephrasing.place := by
  cases block with
  | nil => rfl
  | cons statement others =>
      have early := scoping_statement statement locked symbols
      have late := scoping_block others (statement.scoping locked symbols).locked
        (statement.scoping locked symbols).symbols
      simp only [program_cons, Stmt.scopingList, early, Scoping.relocate]
      simp only [late, Scoping.relocate, List.map_append]

end

/-- In a rephrased program the same is found about names. -/
theorem scoping_program (program : Program) :
    (rephrasing.program program).scoping =
      program.scoping.relocate rephrasing.place :=
  rephrasing.scoping_block program [] .empty

variable (symbols : SymbolTable)

mutual

/-- In a rephrased statement the same is found about types. -/
theorem check_statement (statement : Stmt) :
    (rephrasing.statement statement).check
        (symbols.relocate rephrasing.place) =
      (statement.check symbols).relocate rephrasing.place := by
  cases statement with
  | declare name type initial position =>
      cases initial with
      | none => rfl
      | some value =>
          simp only [statement_declare, Stmt.check, Option.map_some,
            rephrasing.infer_phrase, Checked.relocate_bind,
            Checked.relocate_require, Ident.relocate]
  | assign target value position =>
      simp only [statement_assign, Stmt.check, Ident.relocate,
        SymbolTable.declaredType_relocate, rephrasing.infer_phrase,
        Checked.relocate_bind, Checked.relocate_require]
  | loop index low high body position =>
      have inner := check_block body
      simp only [statement_loop, Stmt.check, Ident.relocate,
        SymbolTable.declaredType_relocate, rephrasing.infer_phrase,
        Checked.relocate_bind, Checked.relocate_require, inner]
  | read target position =>
      simp only [statement_read, Stmt.check, Ident.relocate,
        SymbolTable.declaredType_relocate, Checked.relocate_bind,
        Checked.relocate_require]
  | print value position =>
      simp only [statement_print, Stmt.check, rephrasing.infer_phrase,
        Checked.relocate_bind, Checked.relocate_pure]
  | assert condition position =>
      simp only [statement_assert, Stmt.check, rephrasing.infer_phrase,
        Checked.relocate_bind, Checked.relocate_require]

theorem check_block (block : List Stmt) :
    Stmt.checkList (symbols.relocate rephrasing.place)
        (rephrasing.program block) =
      (Stmt.checkList symbols block).relocate rephrasing.place := by
  cases block with
  | nil => rfl
  | cons statement others =>
      have first := check_statement statement
      have rest := check_block others
      simp only [program_cons, Stmt.checkList, Checked.relocate_bind, first,
        rest]

end

/-- In a rephrased program the same is found about types. -/
theorem check_program (program : Program) :
    (rephrasing.program program).check (symbols.relocate rephrasing.place) =
      (program.check symbols).relocate rephrasing.place :=
  rephrasing.check_block symbols program

end Rephrasing

end TinyImp
