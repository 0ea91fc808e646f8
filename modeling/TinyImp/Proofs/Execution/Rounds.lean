import TinyImp.Proofs.Execution.Binding
import TinyImp.Proofs.Scope.Rules

/-!
# Rounds of loops

The bounds of a loop are evaluated once, when a run comes to the loop.  Its
body is executed once for every integer from the lower bound on and below the
upper one, in this order, until a round stops.

That the index keeps its integer throughout a round is promised by the scope
analysis, which looks at the text alone: in the body of a loop no statement
gives the index a value, and the loop comes behind the only declaration of its
index.  Every task of a round belongs to a statement in the body, so the
promise holds along the run, at any depth of loops inside.
-/

namespace TinyImp

open Execution TinyImp.Computation

/-- As many integers in a row, from `first` on. -/
def Integer.rowFrom (first : Int) (count : Nat) : List Int :=
  (List.range count).map fun offset : Nat => first + offset

/-- The integers from `first` on and below `bound`. -/
def Integer.upTo (first bound : Integer) : List Int :=
  Integer.rowFrom first.value (bound.value - first.value).toNat

namespace Integer

theorem rowFrom_succ (first : Int) (count : Nat) :
    rowFrom first (count + 1) = first :: rowFrom (first + 1) count := by
  simp only [rowFrom, List.range_succ_eq_map, List.map_cons, List.map_map]
  congr 1
  · simp
  · apply List.map_congr_left
    intro offset _
    simp only [Function.comp_apply, Nat.succ_eq_add_one, Int.natCast_add]
    omega

theorem getLast?_upTo {first bound : Integer}
    (some : first.value < bound.value) :
    (first.upTo bound).getLast? = .some (bound.value - 1) := by
  obtain ⟨count, many⟩ : ∃ count : Nat,
      (bound.value - first.value).toNat = count + 1 :=
    Nat.exists_eq_succ_of_ne_zero (by omega)
  rw [upTo, rowFrom, many, List.range_succ, List.map_append,
    List.map_singleton, List.getLast?_concat]
  congr 1
  omega

theorem upTo_eq_nil {first bound : Integer}
    (none : bound.value ≤ first.value) : first.upTo bound = [] := by
  have nothing : (bound.value - first.value).toNat = 0 := by omega
  rw [upTo, nothing]
  rfl

theorem value_next {integer : Integer}
    (small : integer.value + 1 < 9223372036854775808) :
    integer.next.value = integer.value + 1 := by
  have large := integer.least_le
  have inRange : ofInt? (integer.value + 1) =
      some ⟨integer.value + 1, by omega, small⟩ :=
    ofInt?_eq_some_iff.2 rfl
  rw [next, inRange, Option.getD_some]

end Integer

/-- The body of a loop is executed for some integers in a row.  Each round
binds the index and begins where the round before it has ended, and a round
that stops ends the loop. -/
inductive Stmt.Rounds (index : Ident) (body : List Stmt) :
    List Int → Machine → EStateM.Result Stop Machine Unit → Prop where
  | done {machine : Machine} : Rounds index body [] machine (.ok () machine)
  | next {value : Integer} {numbers : List Int} {machine middle : Machine}
      {ending : EStateM.Result Stop Machine Unit} :
      Stmt.round index body value machine = .ok () middle →
      Rounds index body numbers middle ending →
      Rounds index body (value.value :: numbers) machine ending
  | stopped {value : Integer} {numbers : List Int} {machine later : Machine}
      {stop : Stop} :
      Stmt.round index body value machine = .error stop later →
      Rounds index body (value.value :: numbers) machine (.error stop later)

namespace Stmt

theorem forEach_rounds (index : Ident) (body : List Stmt) (count : Nat)
    (first : Integer) (machine : Machine)
    (fits : first.value + count < 9223372036854775808) :
    Rounds index body (Integer.rowFrom first.value count) machine
      (forEach (Stmt.round index body) count first machine) := by
  induction count generalizing first machine with
  | zero => exact .done
  | succ count induction =>
      rw [Integer.rowFrom_succ]
      cases outcome : Stmt.round index body first machine with
      | error stop later =>
          rw [forEach, bind_of_error outcome]
          exact .stopped outcome
      | ok done middle =>
          rw [forEach, bind_of_ok outcome]
          apply Rounds.next outcome
          have value : first.next.value = first.value + 1 :=
            Integer.value_next (by omega)
          rw [← value]
          apply induction
          omega

/-- The integers of the rounds depend on the bounds alone, and none of them is
beyond the greatest integer. -/
theorem execute_loop_rounds {index : Ident} {low high : Expr}
    {body : List Stmt} {position : Position} {machine : Machine}
    {first bound : Integer}
    (lowValue : low.evaluateInt machine.store = .ok first)
    (highValue : high.evaluateInt machine.store = .ok bound) :
    Rounds index body (first.upTo bound) machine
      ((Stmt.loop index low high body position).execute machine) := by
  have executed : (Stmt.loop index low high body position).execute machine =
      forEach (Stmt.round index body) (bound.value - first.value).toNat first
        machine := by
    rw [Stmt.execute, bind_of_ok (evaluateInt_of_ok lowValue),
      bind_of_ok (evaluateInt_of_ok highValue)]
    rfl
  rw [executed]
  apply forEach_rounds
  have below := bound.lt_bound
  have small := first.lt_bound
  omega

end Stmt

namespace Address

theorem Around.append {loop address : Address} (around : loop.Around address)
    (more : Address) : loop.Around (address ++ more) := by
  obtain ⟨number, rest, rfl⟩ := around
  exact ⟨number, rest ++ more, by simp⟩

theorem around_append_cons (loop : Address) (number : Nat) (rest : Address) :
    loop.Around (loop ++ number :: rest) :=
  ⟨number, rest, rfl⟩

/-- A loop comes before the statements in its body. -/
theorem Around.lt {loop address : Address} (around : loop.Around address) :
    loop < address := by
  obtain ⟨number, rest, rfl⟩ := around
  induction loop with
  | nil => exact List.nil_lt_cons _ _
  | cons first others induction => exact List.cons_lt_cons_self.2 induction

theorem Around.ne {loop address : Address} (around : loop.Around address) :
    address ≠ loop := by
  intro same
  have before := around.lt
  rw [same] at before
  exact List.lt_irrefl loop before

end Address

namespace Task

/-- The integer of the round that a task begins for the loop at `loop`. -/
def begins (loop : Address) : Task → Option Integer
  | rounds address _ _ (_ + 1) value =>
      if address = loop then some value else none
  | _ => none

/-- The integers of the rounds that were begun for a loop, in order. -/
def begun (loop : Address) (trace : List Task) : List Integer :=
  trace.filterMap (begins loop)

theorem begun_cons_of_ne {loop : Address} {task : Task}
    (elsewhere : task.address ≠ loop) (trace : List Task) :
    begun loop (task :: trace) = begun loop trace := by
  apply List.filterMap_cons_none
  cases task with
  | perform address statement => rfl
  | rounds address index body count value =>
      cases count with
      | zero => rfl
      | succ count => exact if_neg elsewhere

theorem begun_cons_round (loop : Address) (index : Ident) (body : List Stmt)
    (count : Nat) (value : Integer) (trace : List Task) :
    begun loop (rounds loop index body (count + 1) value :: trace) =
      value :: begun loop trace := by
  apply List.filterMap_cons_some
  exact if_pos rfl

/-- A task leaves every variable alone but the one that it binds. -/
theorem Effect.get?_of_binds_ne {store later : Store} {task : Task}
    {tasks : List Task} {name : String}
    (effect : task.Effect store tasks later) (other : task.binds ≠ some name) :
    later.get? name = store.get? name := by
  have unchanged {bound : String} {value : Value}
      (different : some bound ≠ some name) :
      (store.set bound value).get? name = store.get? name := by
    rw [Bindings.get?_set, if_neg]
    intro same
    apply different
    rw [same]
  cases effect with
  | declare => exact unchanged other
  | declareAs _ => exact unchanged other
  | assign _ => exact unchanged other
  | read _ _ => exact unchanged other
  | enter => exact unchanged other
  | loop _ _ => rfl
  | print _ => rfl
  | assert _ => rfl
  | leave => rfl

/-- A loop with rounds left begins the next one, and is over otherwise. -/
theorem Effect.rounds_cases {address : Address} {index : Ident}
    {body : List Stmt} {count : Nat} {value : Integer} {store later : Store}
    {tasks : List Task}
    (effect : (rounds address index body count value).Effect store tasks
      later) :
    (count = 0 ∧ tasks = [] ∧ later = store) ∨
      ∃ remaining, count = remaining + 1 ∧
        tasks = block address body ++
          [rounds address index body remaining value.next] ∧
        later = store.set index.name (.int value) := by
  cases effect with
  | leave => exact .inl ⟨rfl, rfl, rfl⟩
  | enter => exact .inr ⟨_, rfl, rfl, rfl⟩

/-- A loop is entered with the bounds that it has then. -/
theorem Effect.loop_cases {address : Address} {index : Ident}
    {low high : Expr} {body : List Stmt} {position : Position}
    {first bound : Integer} {store later : Store} {tasks : List Task}
    (effect : (perform address (.loop index low high body position)).Effect
      store tasks later)
    (lowValue : low.evaluateInt store = .ok first)
    (highValue : high.evaluateInt store = .ok bound) :
    tasks = [rounds address index body (bound.value - first.value).toNat
        first] ∧ later = store := by
  cases effect with
  | loop lowAgain highAgain =>
      rw [lowValue] at lowAgain
      rw [highValue] at highAgain
      cases lowAgain
      cases highAgain
      exact ⟨rfl, rfl⟩

/-- The tasks that a task leads to are at its address or in the body there. -/
theorem Effect.around {loop : Address} {store later : Store} {task : Task}
    {tasks : List Task} (effect : task.Effect store tasks later)
    (around : loop.Around task.address) :
    ∀ next ∈ tasks, loop.Around next.address := by
  intro next member
  cases effect with
  | loop _ _ =>
      cases List.mem_singleton.1 member
      exact around
  | enter =>
      rcases List.mem_append.1 member with inBody | last
      · obtain ⟨offset, statement, rfl, _⟩ := mem_blockFrom inBody
        exact around.append _
      · cases List.mem_singleton.1 last
        exact around
  | declare => cases member
  | declareAs _ => cases member
  | assign _ => cases member
  | read _ _ => cases member
  | print _ => cases member
  | assert _ => cases member
  | leave => cases member

/-- The tasks of the body of a loop stand in it. -/
theorem block_inside {program : Program} {address : Address} {index : Ident}
    {low high : Expr} {body : List Stmt} {position : Position}
    (located : Stmt.Located program address
      (.loop index low high body position)) :
    ∀ task ∈ Task.block address body,
      task.Belongs program ∧ address.Around task.address := by
  intro task member
  obtain ⟨offset, statement, rfl, inner⟩ := mem_blockFrom member
  rw [Nat.zero_add]
  exact ⟨located.inside inner, Address.around_append_cons _ _ _⟩

end Task

namespace Program.WellScoped

variable {program : Program}

/-- No task of a statement in the body of a loop binds the index. -/
theorem binds_ne (wellScoped : program.WellScoped) {address : Address}
    {index : Ident} {low high : Expr} {body : List Stmt} {position : Position}
    (located : Stmt.Located program address
      (.loop index low high body position))
    {task : Task} (belongs : task.Belongs program)
    (around : address.Around task.address) :
    task.binds ≠ some index.name := by
  have runsOver : Stmt.RunsOver program address index.name :=
    ⟨index, low, high, body, position, located, rfl⟩
  have kept {inner : Address} {statement : Stmt}
      (inside : address.Around inner)
      (there : Stmt.Located program inner statement) :
      statement.sets ≠ some index.name :=
    wellScoped.kept address index.name inner statement runsOver inside there
  cases task with
  | rounds inner innerIndex innerBody count value =>
      obtain ⟨innerLow, innerHigh, innerPosition, there⟩ := belongs
      cases count with
      | zero => simp [Task.binds]
      | succ count => exact kept around there
  | perform inner statement =>
      cases statement with
      | declare name type initial place =>
          intro binds
          have named : name.name = index.name := Option.some.inj binds
          -- the index is declared before the loop, so not in its body
          obtain ⟨declaration, declares, before⟩ :=
            wellScoped.declared address _ located index.name
              List.mem_cons_self
          have same : inner = declaration :=
            wellScoped.once inner declaration index.name
              ⟨name, type, initial, place, belongs, named⟩ declares
          subst same
          exact List.lt_irrefl address (List.lt_trans around.lt before)
      | assign target value place => exact kept around belongs
      | read target place => exact kept around belongs
      | loop _ _ _ _ _ => simp [Task.binds]
      | print _ _ => simp [Task.binds]
      | assert _ _ => simp [Task.binds]

end Program.WellScoped

/-- Working off an agenda with more behind it is working off the agenda alone,
and then what is behind it. -/
theorem Steps.split {agenda rest trace : List Task} {machine : Machine}
    {config : Config} (steps : Steps ⟨agenda ++ rest, machine⟩ trace config) :
    (∃ inner, config.agenda = inner ++ rest ∧
        Steps ⟨agenda, machine⟩ trace ⟨inner, config.machine⟩) ∨
      ∃ during after ending, trace = during ++ after ∧
        Steps ⟨agenda, machine⟩ during ⟨[], ending⟩ ∧
        Steps ⟨rest, ending⟩ after config := by
  generalize begun : (⟨agenda ++ rest, machine⟩ : Config) = start at steps
  induction steps generalizing agenda machine with
  | refl config =>
      subst begun
      exact .inl ⟨agenda, rfl, .refl _⟩
  | @next task tasks others trace before later final success further
      induction =>
      cases agenda with
      | nil =>
          cases begun
          exact .inr ⟨[], _, before, rfl, .refl _, .next success further⟩
      | cons first agenda =>
          cases begun
          have onward : (⟨(tasks ++ agenda) ++ rest, later⟩ : Config) =
              ⟨tasks ++ (agenda ++ rest), later⟩ := by
            rw [List.append_assoc]
          rcases induction onward with ⟨inner, left, steps⟩ |
            ⟨during, after, ending, split, steps, beyond⟩
          · exact .inl ⟨inner, left, .next success steps⟩
          · refine .inr ⟨task :: during, after, ending, ?_,
              .next success steps, beyond⟩
            rw [split, List.cons_append]

theorem Steps.append {agenda inner trace : List Task}
    {machine reached : Machine}
    (steps : Steps ⟨agenda, machine⟩ trace ⟨inner, reached⟩)
    (rest : List Task) :
    Steps ⟨agenda ++ rest, machine⟩ trace ⟨inner ++ rest, reached⟩ := by
  generalize begun : (⟨agenda, machine⟩ : Config) = start at steps
  generalize ended : (⟨inner, reached⟩ : Config) = final at steps
  induction steps generalizing agenda machine with
  | refl config =>
      subst begun
      cases ended
      exact .refl _
  | @next task tasks others trace before later final success further
      induction =>
      cases begun
      have onward := induction rfl ended
      rw [List.append_assoc] at onward
      exact .next success onward

/-- All that a run has to do comes from statements of the program. -/
theorem Steps.belongs {program : Program} {first last : Config}
    {trace : List Task} (steps : Steps first trace last)
    (belongs : ∀ task ∈ first.agenda, task.Belongs program) :
    ∀ task ∈ last.agenda, task.Belongs program := by
  induction steps with
  | refl config => exact belongs
  | next success _ induction =>
      apply induction
      intro task member
      rcases List.mem_append.1 member with new | old
      · exact (Task.effect_of_run success).belongs
          (belongs _ List.mem_cons_self) task new
      · exact belongs task (List.mem_cons_of_mem _ old)

/-- What the tasks `trace` of a loop with rounds for `numbers` have come to,
when the tasks `left` are still to be done for the loop. -/
structure LoopCount (loop : Address) (index : Ident) (numbers : List Int)
    (before : Machine) (trace left : List Task) (reached : Machine) :
    Prop where
  /-- The rounds are begun in order, none left out. -/
  begun : (Task.begun loop trace).map Integer.value <+: numbers
  /-- The index holds the integer of the round that was begun last. -/
  index_eq : reached.store.get? index.name =
    ((Task.begun loop trace).getLast?.map Value.int).or
      (before.store.get? index.name)
  /-- When nothing is left to be done, all the rounds were begun. -/
  finished : left = [] → (Task.begun loop trace).map Integer.value = numbers

/-- How far a loop has come that was entered with the machine `before` and with
the bounds `first` and `bound`. -/
structure LoopProgress (loop : Address) (index : Ident) (first bound : Integer)
    (before : Machine) (trace left : List Task) (reached : Machine) : Prop
    extends
      LoopCount loop index (first.upTo bound) before trace left reached where
  /-- A task that stops leaves the index as it is. -/
  index_stopped : ∀ task rest stop later, left = task :: rest →
    task.run reached = .error stop later →
      later.store.get? index.name = reached.store.get? index.name
  /-- Behind the loop the index holds the greatest integer below the bound. -/
  index_behind : left = [] → first.value < bound.value →
    ∃ last : Integer, last.value = bound.value - 1 ∧
      reached.store.get? index.name = some (.int last)
  /-- A loop without rounds leaves the index as it was. -/
  index_unchanged : left = [] → bound.value ≤ first.value →
    reached.store.get? index.name = before.store.get? index.name

section Loop

variable {program : Program} {address : Address} {index : Ident}
  {low high : Expr} {body : List Stmt} {position : Position}

/-- The tasks of a round stand in the body of the loop, so the index changes
only where the next round begins. -/
theorem Steps.rounds_begun (wellScoped : program.WellScoped)
    (located : Stmt.Located program address
      (.loop index low high body position))
    {start final : Config} {trace inner : List Task} {count : Nat}
    {value : Integer} (steps : Steps start trace final)
    (ahead : start.agenda =
      inner ++ [.rounds address index body count value])
    (inside : ∀ task ∈ inner,
      task.Belongs program ∧ address.Around task.address)
    (fits : value.value + count < 9223372036854775808) :
    LoopCount address index (Integer.rowFrom value.value count) start.machine
      trace final.agenda final.machine := by
  induction steps generalizing inner count value with
  | refl config =>
      refine ⟨List.nil_prefix, rfl, ?_⟩
      intro nothing
      rw [ahead] at nothing
      simp at nothing
  | @next task tasks rest trace before later final success further induction =>
      have effect := Task.effect_of_run success
      cases inner with
      | cons first others =>
          cases ahead
          obtain ⟨belongs, around⟩ := inside task List.mem_cons_self
          have stays : ∀ next ∈ tasks ++ others,
              next.Belongs program ∧ address.Around next.address := by
            intro next member
            rcases List.mem_append.1 member with new | old
            · exact ⟨effect.belongs belongs next new,
                effect.around around next new⟩
            · exact inside next (List.mem_cons_of_mem _ old)
          have onward :=
            induction (List.append_assoc tasks others _).symm stays fits
          have kept : later.store.get? index.name =
              before.store.get? index.name :=
            effect.get?_of_binds_ne
              (wellScoped.binds_ne located belongs around)
          have same := Task.begun_cons_of_ne around.ne trace
          constructor
          · rw [same]
            exact onward.begun
          · rw [same, ← kept]
            exact onward.index_eq
          · rw [same]
            exact onward.finished
      | nil =>
          cases ahead
          rcases effect.rounds_cases with
            ⟨rfl, rfl, same⟩ | ⟨remaining, rfl, rfl, bound⟩
          · cases further
            refine ⟨List.nil_prefix, ?_, fun _ => rfl⟩
            rw [same]
            rfl
          · have next : value.next.value = value.value + 1 :=
              Integer.value_next (by omega)
            have onward := induction (List.append_nil _)
              (Task.block_inside located) (by omega)
            have entered : later.store.get? index.name = some (.int value) := by
              rw [bound, Bindings.get?_set, if_pos rfl]
            have row := Integer.rowFrom_succ value.value remaining
            rw [← next] at row
            have begun := Task.begun_cons_round address index body remaining
              value trace
            constructor
            · rw [begun, row]
              exact (List.prefix_cons_inj value.value).2 onward.begun
            · rw [begun, onward.index_eq, entered, List.getLast?_cons]
              cases (Task.begun address trace).getLast? with
              | none => rfl
              | some last => rfl
            · intro nothing
              rw [begun, row, List.map_cons, onward.finished nothing]

theorem LoopCount.progress {first bound : Integer} {before reached : Machine}
    {trace left : List Task}
    (count : LoopCount address index (first.upTo bound) before trace left
      reached) :
    LoopProgress address index first bound before trace left reached where
  toLoopCount := count
  index_stopped := by
    intro task rest stop later _ failed
    rw [(Task.refusal_of_run failed).1]
  index_behind := by
    intro nothing some
    have last := congrArg List.getLast? (count.finished nothing)
    rw [List.getLast?_map, Integer.getLast?_upTo some,
      Option.map_eq_some_iff] at last
    obtain ⟨value, isLast, same⟩ := last
    refine ⟨value, same, ?_⟩
    rw [count.index_eq, isLast]
    rfl
  index_unchanged := by
    intro nothing none
    have all := count.finished nothing
    rw [Integer.upTo_eq_nil none, List.map_eq_nil_iff] at all
    rw [count.index_eq, all]
    rfl

/-- While a loop is worked off, the tasks performed and the index tell the
same about how far it has come. -/
theorem Steps.loopProgress (wellScoped : program.WellScoped)
    (located : Stmt.Located program address
      (.loop index low high body position))
    {trace left : List Task} {before reached : Machine}
    {first bound : Integer}
    (lowValue : low.evaluateInt before.store = .ok first)
    (highValue : high.evaluateInt before.store = .ok bound)
    (steps : Steps
      ⟨[.perform address (.loop index low high body position)], before⟩ trace
      ⟨left, reached⟩) :
    LoopProgress address index first bound before trace left reached := by
  apply LoopCount.progress
  cases steps with
  | refl => exact ⟨List.nil_prefix, rfl, by simp⟩
  | @next task tasks rest trace machine later final success further =>
      obtain ⟨rfl, same⟩ :=
        (Task.effect_of_run success).loop_cases lowValue highValue
      have below := bound.lt_bound
      have small := first.lt_bound
      have rounds := further.rounds_begun wellScoped located
        (List.nil_append _) (List.forall_mem_nil _) (by omega)
      refine ⟨rounds.begun, ?_, rounds.finished⟩
      rw [← same]
      exact rounds.index_eq

end Loop

/-- The machine after the execution of a statement has been recorded. -/
def Machine.recording (machine : Machine) (statement : Stmt) : Machine :=
  { machine with journal := machine.journal.record (.executed statement) }

namespace Program

/-- What a loop does when a run of an accepted program comes to it.  Its body
is executed for the integers between the bounds that it has then, in a row and
until a round stops, and the run goes on behind it if none does.  At every
task until then, at any depth, the index holds the integer of the round, and
behind the loop that of the last round. -/
theorem loop_counts_up (program : Program) (machine : Machine)
    {address : Address} {index : Ident} {low high : Expr} {body : List Stmt}
    {position : Position} {earlier rest : List Task} {before : Machine}
    {first bound : Integer} (accepted : program.Accepted)
    (comes : Steps (program.start machine) earlier
      ⟨.perform address (.loop index low high body position) :: rest, before⟩)
    (lowValue : low.evaluateInt before.store = .ok first)
    (highValue : high.evaluateInt before.store = .ok bound) :
    (∃ outcome,
      Stmt.Rounds index body (first.upTo bound)
          (before.recording (.loop index low high body position)) outcome ∧
        Config.Yields
          ⟨.perform address (.loop index low high body position) :: rest,
            before⟩ rest outcome) ∧
      ∀ trace config,
        Steps ⟨.perform address (.loop index low high body position) :: rest,
          before⟩ trace config →
        (∃ left, config.agenda = left ++ rest ∧
          LoopProgress address index first bound before trace left
            config.machine) ∨
        ∃ during after ending, trace = during ++ after ∧
          Steps ⟨.perform address (.loop index low high body position) :: rest,
            before⟩ during ⟨rest, ending⟩ ∧
          LoopProgress address index first bound before during [] ending ∧
          Steps ⟨rest, ending⟩ after config := by
  have wellScoped : program.WellScoped := by
    apply violations_eq_nil_iff_wellScoped.1
    rw [← scoping_errors_eq_violations]
    exact accepted.1
  have located : Stmt.Located program address
      (.loop index low high body position) :=
    comes.belongs (fun _ => Task.belongs_start) _ List.mem_cons_self
  let entered := before.recording (.loop index low high body position)
  have rounds : Stmt.Rounds index body (first.upTo bound) entered
      ((Stmt.loop index low high body position).execute entered) := by
    apply Stmt.execute_loop_rounds
    · exact lowValue
    · exact highValue
  refine ⟨⟨_, rounds, Stmt.perform_yields _ address rest before⟩, ?_⟩
  intro trace config steps
  have ahead : Steps
      ⟨[.perform address (.loop index low high body position)] ++ rest, before⟩
      trace config := steps
  rcases ahead.split with
    ⟨left, agenda, alone⟩ | ⟨during, after, ending, split, alone, beyond⟩
  · exact .inl ⟨left, agenda,
      alone.loopProgress wellScoped located lowValue highValue⟩
  · exact .inr ⟨during, after, ending, split, alone.append rest,
      alone.loopProgress wellScoped located lowValue highValue, beyond⟩

/-- The statement `n := n + n;`. -/
def doubling : Stmt :=
  .assign ⟨"n", ⟨4, 3⟩⟩
    (.binary .add (.named "n" ⟨4, 8⟩) (.named "n" ⟨4, 12⟩) ⟨4, 8⟩) ⟨4, 3⟩

/-- A loop up to `n`, which grows in every round. -/
def movingBound : Stmt :=
  .loop ⟨"i", ⟨3, 5⟩⟩ (.lone (.number .zero ⟨3, 10⟩) ⟨3, 10⟩)
    (.lone (.named "n" ⟨3, 13⟩) ⟨3, 13⟩) [doubling] ⟨3, 1⟩

/-- The loop behind the declarations of `n`, which is two, and of its index. -/
def movingBoundProgram : Program :=
  [.declare ⟨"n", ⟨1, 5⟩⟩ .int
      (some (.lone (.number ⟨2, by decide, by decide⟩ ⟨1, 16⟩) ⟨1, 16⟩))
      ⟨1, 1⟩,
    .declare ⟨"i", ⟨2, 5⟩⟩ .int none ⟨2, 1⟩, movingBound]

theorem movingBound_counts_up :
    movingBoundProgram.Accepted ∧
      ∃ earlier before outcome,
        Steps (movingBoundProgram.start {}) earlier
          ⟨[.perform [2] movingBound], before⟩ ∧
        before.store.get? "n" = some (.int ⟨2, by decide, by decide⟩) ∧
        Stmt.Rounds ⟨"i", ⟨3, 5⟩⟩ [doubling] [0, 1]
          (before.recording movingBound) outcome ∧
        Config.Yields ⟨[.perform [2] movingBound], before⟩ [] outcome := by
  have accepted : movingBoundProgram.Accepted := ⟨rfl, rfl⟩
  have comes : Steps (movingBoundProgram.start {}) _ _ :=
    .next rfl (.next rfl (.refl _))
  obtain ⟨⟨outcome, rounds, yields⟩, _⟩ :=
    loop_counts_up movingBoundProgram {} accepted comes rfl rfl
  exact ⟨accepted, _, _, outcome, comes, rfl, rounds, yields⟩

end Program

end TinyImp
