import TinyImp.Proofs.Execution.Binding

/-!
# Runs of accepted programs

What the analyses before a run promise about the run.  Types are kept in every
machine that a run passes through.  The one fault that is left is a variable
that is not bound, and it comes up exactly where a run looks up a variable
before any of its tasks has bound it; the program then declares the variable
in the body of a loop and uses it outside.
-/

namespace TinyImp

namespace Program

/-- What holds of the execution of a program if it keeps its types. -/
structure TypeSound (program : Program) (machine : Machine) : Prop where
  /-- Every bound variable is declared and holds a value of its type. -/
  typed : ∀ reached, program.Reaches machine reached →
    reached.store.Typed program.scoping.symbols
  /-- A fault is a variable that is not bound.  It is declared once, in the
  body of a loop that the statement which looks it up stands outside of. -/
  fault_unbound : ∀ fault final,
    program.execute machine = .error (.fault fault) final →
      ∃ name access declaration,
        fault = .unboundVariable name ∧
          program.ComesToUnbound machine access name ∧
          Stmt.Declares program declaration name ∧
          (∀ other, Stmt.Declares program other name → other = declaration) ∧
          Stmt.OutOfLoop program declaration access
  /-- There is no fault if no declaration stands in the body of a loop. -/
  no_fault :
    (∀ declaration name, Stmt.Declares program declaration name →
      declaration.length = 1) →
    ∀ fault final, program.execute machine ≠ .error (.fault fault) final

private theorem length_ne_one {block : List Stmt}
    {declaration access : Address}
    (out : Stmt.OutOfLoop block declaration access) :
    declaration.length ≠ 1 := by
  obtain ⟨loop, _, _, _, _, _, located, ⟨number, rest, rfl⟩, _⟩ := out
  cases loop with
  | nil => exact absurd rfl located.ne_nil
  | cons first others =>
      simp only [List.cons_append, List.length_cons, List.length_append]
      omega

namespace Accepted

variable {program : Program} {machine : Machine}

theorem typed_of_reaches (accepted : program.Accepted)
    (fresh : machine.store = .empty) {reached : Machine}
    (reaches : program.Reaches machine reached) :
    reached.store.Typed program.scoping.symbols := by
  have sound := Config.Sound.start program fresh
  cases reaches with
  | during steps => exact (sound.steps accepted steps).typed
  | stopped steps failed =>
      rw [(Task.refusal_of_run failed).1]
      exact (sound.steps accepted steps).typed

/-- A fault of an accepted program is a variable that is not bound. -/
theorem eq_unbound_of_fault (accepted : program.Accepted)
    (fresh : machine.store = .empty) {fault : Fault} {final : Machine}
    (stopped : program.execute machine = .error (.fault fault) final) :
    ∃ name, fault = .unboundVariable name := by
  have yields := program.execute_yields machine
  rw [stopped] at yields
  obtain ⟨trace, task, rest, before, steps, failed⟩ := yields
  have sound := (Config.Sound.start program fresh).steps accepted steps
  exact (Task.refusal_of_run failed).2.tolerable accepted
    (sound.belongs _ List.mem_cons_self) sound.typed

/-- The variable of a fault is declared once, out of reach of the statement
that looks it up. -/
theorem declares_of_fault (accepted : program.Accepted)
    (fresh : machine.store = .empty) {fault : Fault} {final : Machine}
    (stopped : program.execute machine = .error (.fault fault) final) :
    ∃ name access declaration,
      fault = .unboundVariable name ∧
        program.ComesToUnbound machine access name ∧
        Stmt.Declares program declaration name ∧
        (∀ other, Stmt.Declares program other name → other = declaration) ∧
        Stmt.OutOfLoop program declaration access := by
  obtain ⟨name, rfl⟩ := accepted.eq_unbound_of_fault fresh stopped
  obtain ⟨access, comes⟩ := execute_eq_unbound_iff.1 ⟨final, stopped⟩
  obtain ⟨declaration, declares, out⟩ := accepted.outOfLoop fresh comes
  refine ⟨name, access, declaration, rfl, comes, declares, ?_, out⟩
  intro other again
  exact again.unique declares accepted.1

end Accepted

/-- The execution of an accepted program keeps its types. -/
theorem accepted_execution_typeSound (program : Program) (machine : Machine)
    (accepted : program.Accepted) (fresh : machine.store = .empty) :
    program.TypeSound machine := by
  constructor
  · intro reached reaches
    exact accepted.typed_of_reaches fresh reaches
  · intro fault final stopped
    exact accepted.declares_of_fault fresh stopped
  · intro flat fault final stopped
    obtain ⟨name, access, declaration, _, _, declares, _, out⟩ :=
      accepted.declares_of_fault fresh stopped
    exact length_ne_one out (flat declaration name declares)

/-- A program that declares a variable in a loop without rounds and prints it
behind the loop. -/
def skippedDeclaration : Program :=
  [.declare ⟨"i", ⟨1, 5⟩⟩ .int none ⟨1, 1⟩,
    .loop ⟨"i", ⟨2, 5⟩⟩ (.lone (.number .zero ⟨2, 10⟩) ⟨2, 10⟩)
      (.lone (.number .zero ⟨2, 13⟩) ⟨2, 13⟩)
      [.declare ⟨"x", ⟨3, 7⟩⟩ .int none ⟨3, 3⟩] ⟨2, 1⟩,
    .print (.lone (.named "x" ⟨5, 7⟩) ⟨5, 7⟩) ⟨5, 1⟩]

theorem skippedDeclaration_accepted : skippedDeclaration.Accepted :=
  ⟨rfl, rfl⟩

theorem skippedDeclaration_typeSound :
    skippedDeclaration.Accepted ∧ skippedDeclaration.TypeSound {} :=
  ⟨skippedDeclaration_accepted,
    accepted_execution_typeSound skippedDeclaration {}
      skippedDeclaration_accepted rfl⟩

/-- A name is used inside of every loop that it is declared in. -/
def UsedInLoops (program : Program) (name : String) : Prop :=
  ∀ access statement, Stmt.Located program access statement →
    name ∈ statement.consults →
    ∀ declaration, Stmt.Declares program declaration name →
      ¬ Stmt.OutOfLoop program declaration access

/-- Before a run has come anywhere else, a variable is bound by one of its
tasks or not at all. -/
theorem get?_eq_none_iff_of_steps {program : Program}
    {machine before : Machine} {trace agenda : List Task} {name : String}
    (fresh : machine.store = .empty)
    (steps : Steps (program.start machine) trace ⟨agenda, before⟩) :
    before.store.get? name = none ↔ ∀ task ∈ trace, task.binds ≠ some name := by
  have bound := steps.contains_iff name
  have nothing : (program.start machine).machine.store.contains name = false := by
    change machine.store.contains name = false
    rw [fresh]
    rfl
  rw [nothing] at bound
  simp only [Bool.false_eq_true, false_or, Bindings.contains,
    Option.isSome_iff_ne_none] at bound
  constructor
  · intro absent task member binds
    exact bound.2 ⟨task, member, binds⟩ absent
  · intro never
    cases found : before.store.get? name with
    | none => rfl
    | some value =>
        obtain ⟨task, member, binds⟩ :=
          bound.1 (by rw [found]; exact Option.some_ne_none value)
        exact absurd binds (never task member)

/-- When the execution of an accepted program stops at a variable that is not
bound: exactly if it comes to a statement that looks the variable up, outside
of a loop that it is declared in, before any task has bound it.  So it never
does for a variable that is used inside of every loop it is declared in. -/
theorem accepted_execution_unbound_iff (program : Program) (machine : Machine)
    (name : String) (accepted : program.Accepted)
    (fresh : machine.store = .empty) :
    ((∃ final, program.execute machine =
        .error (.fault (.unboundVariable name)) final) ↔
      ∃ trace access statement rest before declaration,
        Steps (program.start machine) trace
            ⟨.perform access statement :: rest, before⟩ ∧
          name ∈ statement.lookups before ∧
          (∀ task ∈ trace, task.binds ≠ some name) ∧
          Stmt.Declares program declaration name ∧
          Stmt.OutOfLoop program declaration access) ∧
      (program.UsedInLoops name → ∀ final, program.execute machine ≠
        .error (.fault (.unboundVariable name)) final) := by
  constructor
  · rw [execute_eq_unbound_iff]
    constructor
    · intro given
      obtain ⟨access, comes⟩ := given
      obtain ⟨declaration, declares, out⟩ := accepted.outOfLoop fresh comes
      obtain ⟨trace, statement, rest, before, steps, member, absent⟩ := comes
      exact ⟨trace, access, statement, rest, before, declaration, steps, member,
        (get?_eq_none_iff_of_steps fresh steps).1 absent, declares, out⟩
    · intro given
      obtain ⟨trace, access, statement, rest, before, _, steps, member, never,
        _, _⟩ := given
      exact ⟨access, trace, statement, rest, before, steps, member,
        (get?_eq_none_iff_of_steps fresh steps).2 never⟩
  · intro used final stopped
    obtain ⟨access, comes⟩ := execute_eq_unbound_iff.1 ⟨final, stopped⟩
    obtain ⟨declaration, declares, out⟩ := accepted.outOfLoop fresh comes
    obtain ⟨trace, statement, rest, before, steps, member, _⟩ := comes
    have sound := (Config.Sound.start program fresh).steps accepted steps
    exact used access statement (sound.belongs _ List.mem_cons_self)
      (statement.lookups_subset_consults member) declaration declares out

theorem skippedDeclaration_comesToUnbound :
    skippedDeclaration.Accepted ∧
      ∃ trace access statement rest before declaration,
        Steps (skippedDeclaration.start {}) trace
            ⟨.perform access statement :: rest, before⟩ ∧
          "x" ∈ statement.lookups before ∧
          (∀ task ∈ trace, task.binds ≠ some "x") ∧
          Stmt.Declares skippedDeclaration declaration "x" ∧
          Stmt.OutOfLoop skippedDeclaration declaration access :=
  ⟨skippedDeclaration_accepted,
    (accepted_execution_unbound_iff skippedDeclaration {} "x"
      skippedDeclaration_accepted rfl).1.1 ⟨_, rfl⟩⟩

/-- An accepted program can stop at a variable that is not bound. -/
theorem skippedDeclaration_stops :
    skippedDeclaration.Accepted ∧
      ∃ final, skippedDeclaration.execute {} =
        .error (.fault (.unboundVariable "x")) final :=
  ⟨skippedDeclaration_accepted, _, rfl⟩

end Program

end TinyImp
