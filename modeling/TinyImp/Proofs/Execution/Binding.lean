import TinyImp.Proofs.Execution.TypeSafety

/-!
# Variables that are bound when they are looked up

A declaration that stands before a statement, in its block or in one around
it, has been performed when the run comes to the statement.  So a run of an
accepted program looks up a variable that is not bound only where the program
declares it in the body of a loop and uses it outside of that loop.
-/

namespace TinyImp

open Execution TinyImp.Computation

namespace Address

theorem Leads.of_append_zero {early outer : Address}
    (leads : Leads early (outer ++ [0])) : Leads early outer := by
  induction outer generalizing early with
  | nil =>
      cases leads with
      | sibling before => exact absurd before (Nat.not_lt_zero _)
      | deeper inner => cases inner
  | cons number outer induction =>
      cases leads with
      | sibling before => exact .sibling before
      | deeper inner => exact .deeper (induction inner)

theorem Leads.of_append_succ {early outer : Address} {number : Nat}
    (leads : Leads early (outer ++ [number + 1])) :
    Leads early (outer ++ [number]) ∨ early = outer ++ [number] := by
  induction outer generalizing early with
  | nil =>
      cases leads with
      | sibling before =>
          rcases Nat.lt_succ_iff_lt_or_eq.1 before with earlier | same
          · exact .inl (.sibling earlier)
          · exact .inr (by rw [same]; rfl)
      | deeper inner => cases inner
  | cons first outer induction =>
      cases leads with
      | sibling before => exact .inl (.sibling before)
      | deeper inner =>
          rcases induction inner with earlier | same
          · exact .inl (.deeper earlier)
          · exact .inr (by rw [same]; rfl)

end Address

theorem Bindings.contains_set_iff {α : Type} (bindings : Bindings α)
    {name other : String} {value : α} :
    (bindings.set name value).contains other = true ↔
      bindings.contains other = true ∨ some name = some other := by
  rw [Bindings.contains, Bindings.get?_set, Bindings.contains,
    Option.some.injEq]
  by_cases same : other = name
  · simp [same]
  · simp [same, Ne.symm same]

namespace Task

/-- The task performs a declaration of a name. -/
def Declaring (task : Task) (name : String) : Prop :=
  ∃ address ident type initial position,
    task = .perform address (.declare ident type initial position) ∧
      ident.name = name

/-- What is declared before a task of the agenda, in its block or in one
around it, is bound already or will be by a task in front of it. -/
def Covered (program : Program) : (String → Prop) → List Task → Prop
  | _, [] => True
  | bound, task :: rest =>
      (∀ declaration name, Stmt.Declares program declaration name →
        declaration.Leads task.address → bound name) ∧
      Covered program (fun name => bound name ∨ task.Declaring name) rest

namespace Covered

variable {program : Program}

theorem mono {small large : String → Prop} {tasks : List Task}
    (covered : Covered program small tasks)
    (subset : ∀ name, small name → large name) :
    Covered program large tasks := by
  induction tasks generalizing small large with
  | nil => exact True.intro
  | cons task rest induction =>
      obtain ⟨first, others⟩ := covered
      refine ⟨?_, ?_⟩
      · intro declaration name declares leads
        exact subset name (first declaration name declares leads)
      · refine induction others ?_
        intro name given
        rcases given with before | declaring
        · exact .inl (subset name before)
        · exact .inr declaring

theorem append {bound : String → Prop} {left right : List Task}
    (leftCovered : Covered program bound left)
    (rightCovered : Covered program bound right) :
    Covered program bound (left ++ right) := by
  induction left generalizing bound with
  | nil => exact rightCovered
  | cons task rest induction =>
      obtain ⟨first, others⟩ := leftCovered
      refine ⟨first, induction others ?_⟩
      exact rightCovered.mono fun name before => .inl before

theorem blockFrom {bound : String → Prop} {outer : Address} {number : Nat}
    {block : List Stmt}
    (located : ∀ offset statement, Stmt.Located block [offset] statement →
      Stmt.Located program (outer ++ [number + offset]) statement)
    (leading : ∀ declaration name, Stmt.Declares program declaration name →
      declaration.Leads (outer ++ [number]) → bound name) :
    Covered program bound (Task.blockFrom outer number block) := by
  induction block generalizing bound number with
  | nil => exact True.intro
  | cons first others induction =>
      refine ⟨leading, induction ?_ ?_⟩
      · intro offset statement inner
        have place := located (offset + 1) statement (.tail inner)
        rw [Nat.add_right_comm, Nat.add_assoc]
        exact place
      · intro declaration name declares leads
        rcases leads.of_append_succ with earlier | same
        · exact .inl (leading declaration name declares earlier)
        · -- the declaration is the first statement of the block itself
          subst same
          obtain ⟨ident, type, initial, position, place, named⟩ := declares
          have here : first = .declare ident type initial position :=
            (located 0 first .head).unique place
          exact .inr ⟨_, ident, type, initial, position, by rw [here], named⟩

end Covered

def binds : Task → Option String
  | perform _ (.declare name _ _ _) => some name.name
  | perform _ (.assign target _ _) | perform _ (.read target _) =>
      some target.name
  | rounds _ index _ (_ + 1) _ => some index.name
  | _ => none

/-- After a task the variables are bound that were bound before, and the one
that it binds. -/
theorem Effect.contains_iff {store later : Store} {task : Task}
    {tasks : List Task} (effect : task.Effect store tasks later)
    (name : String) :
    later.contains name = true ↔
      store.contains name = true ∨ task.binds = some name := by
  cases effect with
  | declare => exact store.contains_set_iff
  | declareAs _ => exact store.contains_set_iff
  | assign _ => exact store.contains_set_iff
  | read _ _ => exact store.contains_set_iff
  | enter => exact store.contains_set_iff
  | loop _ _ => exact (or_iff_left nofun).symm
  | print _ => exact (or_iff_left nofun).symm
  | assert _ => exact (or_iff_left nofun).symm
  | leave => exact (or_iff_left nofun).symm

theorem Declaring.binds {task : Task} {name : String}
    (declaring : task.Declaring name) : task.binds = some name := by
  obtain ⟨address, ident, type, initial, position, rfl, rfl⟩ := declaring
  rfl

theorem Effect.covered {program : Program} {store later : Store} {task : Task}
    {tasks : List Task} {bound : String → Prop}
    (effect : task.Effect store tasks later) (belongs : task.Belongs program)
    (leading : ∀ declaration name, Stmt.Declares program declaration name →
      declaration.Leads task.address → bound name) :
    Covered program bound tasks := by
  cases effect with
  | loop _ _ => exact ⟨leading, True.intro⟩
  | enter =>
      obtain ⟨low, high, position, located⟩ := belongs
      apply Covered.append
      · apply Covered.blockFrom
        · intro offset statement inner
          rw [Nat.zero_add]
          exact located.inside inner
        · intro declaration name declares leads
          exact leading declaration name declares leads.of_append_zero
      · exact ⟨leading, True.intro⟩
  | declare => exact True.intro
  | declareAs _ => exact True.intro
  | assign _ => exact True.intro
  | read _ _ => exact True.intro
  | print _ => exact True.intro
  | assert _ => exact True.intro
  | leave => exact True.intro

end Task

/-- The agenda is covered by the variables that are bound. -/
def Config.Covered (program : Program) (config : Config) : Prop :=
  Task.Covered program (fun name => config.machine.store.contains name = true)
    config.agenda

namespace Config.Covered

variable {program : Program}

theorem start (machine : Machine) :
    Config.Covered program (program.start machine) := by
  apply Task.Covered.blockFrom
  · intro offset statement located
    rw [Nat.zero_add]
    exact located
  · intro declaration name _ leads
    cases leads with
    | sibling before => exact absurd before (Nat.not_lt_zero _)
    | deeper inner => cases inner

theorem next {task : Task} {tasks rest : List Task} {machine later : Machine}
    (covered : Config.Covered program ⟨task :: rest, machine⟩)
    (belongs : task.Belongs program)
    (success : task.run machine = .ok tasks later) :
    Config.Covered program ⟨tasks ++ rest, later⟩ := by
  have effect := Task.effect_of_run success
  obtain ⟨leading, others⟩ := covered
  apply Task.Covered.append
  · apply effect.covered belongs
    intro declaration name declares leads
    have before := leading declaration name declares leads
    exact (effect.contains_iff name).2 (.inl before)
  · refine others.mono ?_
    intro name given
    rcases given with before | declaring
    · exact (effect.contains_iff name).2 (.inl before)
    · exact (effect.contains_iff name).2 (.inr declaring.binds)

theorem steps {first last : Config} {trace : List Task}
    (accepted : program.Accepted) (sound : first.Sound program)
    (covered : first.Covered program) (steps : Steps first trace last) :
    last.Covered program := by
  induction steps with
  | refl config => exact covered
  | next success _ induction =>
      have belongs := sound.belongs _ List.mem_cons_self
      exact induction (sound.next accepted success)
        (covered.next belongs success)

end Config.Covered

/-- After a run the variables are bound that were bound before, and those that
its tasks have bound. -/
theorem Steps.contains_iff {first last : Config} {trace : List Task}
    (steps : Steps first trace last) (name : String) :
    last.machine.store.contains name = true ↔
      first.machine.store.contains name = true ∨
        ∃ task ∈ trace, task.binds = some name := by
  induction steps with
  | refl config =>
      constructor
      · exact .inl
      · intro given
        rcases given with before | ⟨task, member, _⟩
        · exact before
        · cases member
  | next success _ induction =>
      rw [induction, (Task.effect_of_run success).contains_iff name]
      simp only [List.mem_cons, exists_eq_or_imp, or_assoc]

namespace Program

/-- The execution comes to the statement at `access`, which looks up `name`
while it is not bound. -/
def ComesToUnbound (program : Program) (machine : Machine) (access : Address)
    (name : String) : Prop :=
  ∃ trace statement rest before,
    Steps (program.start machine) trace
        ⟨.perform access statement :: rest, before⟩ ∧
      name ∈ statement.lookups before ∧ before.store.get? name = none

/-- An execution stops at an unbound variable exactly if it comes to a
statement that looks it up. -/
theorem execute_eq_unbound_iff {program : Program} {machine : Machine}
    {name : String} :
    (∃ final, program.execute machine =
        .error (.fault (.unboundVariable name)) final) ↔
      ∃ access, program.ComesToUnbound machine access name := by
  constructor
  · intro given
    obtain ⟨final, stopped⟩ := given
    have yields := program.execute_yields machine
    rw [stopped] at yields
    obtain ⟨trace, task, rest, before, steps, failed⟩ := yields
    obtain ⟨member, absent⟩ := Task.stops_unbound_iff.1 ⟨final, failed⟩
    cases task with
    | perform access statement =>
        exact ⟨access, trace, statement, rest, before, steps, member, absent⟩
    | rounds address index body count value => cases member
  · intro given
    obtain ⟨access, trace, statement, rest, before, steps, member,
      absent⟩ := given
    have looked : name ∈ (Task.perform access statement).lookups before := member
    obtain ⟨final, failed⟩ := Task.stops_unbound_iff.2 ⟨looked, absent⟩
    exact ⟨final, execute_eq_error_of_steps steps failed⟩

namespace Accepted

variable {program : Program} {machine : Machine}

/-- An unbound variable is declared in the body of a loop that the statement
which looks it up stands outside of. -/
theorem outOfLoop (accepted : program.Accepted)
    (fresh : machine.store = .empty) {access : Address} {name : String}
    (comes : program.ComesToUnbound machine access name) :
    ∃ declaration, Stmt.Declares program declaration name ∧
      Stmt.OutOfLoop program declaration access := by
  obtain ⟨trace, statement, rest, before, steps, member, absent⟩ := comes
  have sound := Config.Sound.start program fresh
  have located : Stmt.Located program access statement :=
    (sound.steps accepted steps).belongs _ List.mem_cons_self
  obtain ⟨leading, _⟩ := (Config.Covered.start machine).steps accepted sound steps
  rcases located.declared accepted.1
      (statement.lookups_subset_consults member) with
    impossible | ⟨declaration, declares, leads | out⟩
  · cases impossible
  · have bound : before.store.contains name = true :=
      leading declaration name declares leads
    rw [Bindings.contains, absent] at bound
    cases bound
  · exact ⟨declaration, declares, out⟩

end Accepted

end Program

end TinyImp
