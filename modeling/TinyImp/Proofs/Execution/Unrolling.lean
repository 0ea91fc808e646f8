import TinyImp.Proofs.Execution.Input
import TinyImp.Proofs.Execution.Output
import TinyImp.Proofs.Execution.Rounds

/-!
# Runs as flat sequences of steps

Unrolling the loops of a program gives a flat sequence of steps: statements
without statements inside them, loops that are entered, and indices that are
bound for a round.  Which sequence it is depends on the bounds of the loops,
and these are only known when a run comes to them; the sequence is faithful to
a run if it has them right wherever the run comes.

Executing a program is performing the steps of such a sequence one by one, up
to the first that stops.  The sequence goes on behind that step with all the
statements that follow in the program, and nothing of that has any effect.
-/

namespace TinyImp

open Execution TinyImp.Computation

def Stmt.isLoop : Stmt → Bool
  | .loop _ _ _ _ _ => true
  | .declare _ _ _ _ | .assign _ _ _ | .read _ _ | .print _ _
  | .assert _ _ => false

/-- A step of a run. -/
inductive Action where
  /-- Executes a statement without statements inside it. -/
  | perform (statement : Stmt) (plain : statement.isLoop = false)
  /-- Evaluates the bounds of a loop, which is unrolled for the integers from
  `first` on and below `bound`. -/
  | enter (index : Ident) (low high : Expr) (body : List Stmt)
      (position : Position) (first bound : Integer)
  /-- Binds the index of a loop for one round. -/
  | bind (index : Ident) (value : Integer)

/-- A round of a loop: the integer that the index is bound to, and the steps
that the body is unrolled to for this round. -/
structure Round where
  value : Integer
  actions : List Action

namespace Action

def run : Action → Execution Unit
  | perform statement _ => do
      record (.executed statement)
      statement.execute
  | enter index low high body position _ _ => do
      record (.executed (.loop index low high body position))
      let _ ← evaluateInt low
      let _ ← evaluateInt high
  | bind index value => put index.name (.int value)

/-- Performs steps one after another, up to the first that stops. -/
def runAll (actions : List Action) : Execution Unit :=
  actions.forM run

/-- The variable that a step names as the one to change. -/
def target : Action → Option String
  | perform statement _ =>
      match statement with
      | .declare name _ _ _ => some name.name
      | .assign target _ _ | .read target _ => some target.name
      | .loop _ _ _ _ _ | .print _ _ | .assert _ _ => none
  | enter _ _ _ _ _ _ _ => none
  | bind index _ => some index.name

def isRead : Action → Bool
  | perform (.read _ _) _ => true
  | _ => false

/-- A loop is unrolled for the bounds that it has with these variables, if they
have values. -/
def Suits (store : Store) : Action → Prop
  | enter _ low high _ _ first bound =>
      ∀ lowest highest, low.evaluateInt store = .ok lowest →
        high.evaluateInt store = .ok highest →
        lowest = first ∧ highest = bound
  | perform _ _ | bind _ _ => True

/-- Every loop that is reached by performing the steps before it is unrolled
for the bounds that it has then. -/
def Faithful (machine : Machine) : List Action → Prop
  | [] => True
  | action :: others =>
      action.Suits machine.store ∧
        ∀ later, action.run machine = .ok () later → Faithful later others

end Action

/-- The steps of a round. -/
def Round.unrolled (index : Ident) (round : Round) : List Action :=
  .bind index round.value :: round.actions

/-- The flat sequences of steps that a block can be unrolled to.  A loop has a
round for every integer between its bounds, and its body may be unrolled
otherwise in every round. -/
inductive Stmt.Unrolls : List Stmt → List Action → Prop where
  | nil : Unrolls [] []
  | plain {statement : Stmt} {others : List Stmt} {late : List Action}
      (plain : statement.isLoop = false) :
      Unrolls others late →
      Unrolls (statement :: others) (.perform statement plain :: late)
  | loop {index : Ident} {low high : Expr} {body others : List Stmt}
      {position : Position} {first bound : Integer} {rounds : List Round}
      {late : List Action} :
      rounds.map (·.value.value) = first.upTo bound →
      (∀ round ∈ rounds, Unrolls body round.actions) →
      Unrolls others late →
      Unrolls (.loop index low high body position :: others)
        (.enter index low high body position first bound ::
          (rounds.flatMap (Round.unrolled index) ++ late))

/-! ## Sequences -/

namespace Action

variable {action : Action} {early late others : List Action}
  {machine middle later : Machine}

theorem Suits.of_ok {store : Store} {index : Ident} {low high : Expr}
    {body : List Stmt} {position : Position} {first bound : Integer}
    (lowValue : low.evaluateInt store = .ok first)
    (highValue : high.evaluateInt store = .ok bound) :
    Suits store (enter index low high body position first bound) := by
  intro lowest highest foundLow foundHigh
  rw [lowValue] at foundLow
  rw [highValue] at foundHigh
  cases foundLow
  cases foundHigh
  exact ⟨rfl, rfl⟩

theorem runAll_cons (action : Action) (others : List Action) :
    runAll (action :: others) = action.run >>= fun _ => runAll others :=
  rfl

theorem runAll_append (early late : List Action) :
    runAll (early ++ late) = runAll early >>= fun _ => runAll late :=
  List.forM_append

theorem Faithful.next (suits : action.Suits machine.store)
    (success : action.run machine = .ok () later)
    (rest : Faithful later others) : Faithful machine (action :: others) := by
  refine ⟨suits, ?_⟩
  intro other again
  rw [success] at again
  cases again
  exact rest

/-- Behind a step that stops a sequence may go on in any way. -/
theorem Faithful.of_stop {stop : Stop} (suits : action.Suits machine.store)
    (failed : action.run machine = .error stop later) :
    Faithful machine (action :: others) := by
  refine ⟨suits, ?_⟩
  intro other success
  rw [failed] at success
  cases success

theorem faithful_append_iff :
    Faithful machine (early ++ late) ↔
      Faithful machine early ∧
        ∀ later, runAll early machine = .ok () later → Faithful later late := by
  induction early generalizing machine with
  | nil =>
      constructor
      · intro faithful
        refine ⟨True.intro, ?_⟩
        intro later done
        cases done
        exact faithful
      · intro given
        exact given.2 machine rfl
  | cons action early induction =>
      constructor
      · intro faithful
        obtain ⟨suits, onward⟩ := faithful
        refine ⟨⟨suits, ?_⟩, ?_⟩
        · intro middle success
          exact (induction.1 (onward middle success)).1
        · intro later done
          rw [runAll_cons] at done
          cases outcome : action.run machine with
          | error stop middle =>
              rw [bind_of_error outcome] at done
              cases done
          | ok value middle =>
              rw [bind_of_ok outcome] at done
              exact (induction.1 (onward middle outcome)).2 later done
      · intro given
        obtain ⟨⟨suits, onward⟩, behind⟩ := given
        refine ⟨suits, ?_⟩
        intro middle success
        apply induction.2
        refine ⟨onward middle success, ?_⟩
        intro later done
        apply behind
        rw [runAll_cons, bind_of_ok success]
        exact done

/-- The second part only has to be faithful to the run as it goes on behind
the first. -/
theorem Faithful.append (first : Faithful machine early)
    (second : Faithful (ending (runAll early machine)) late) :
    Faithful machine (early ++ late) := by
  apply faithful_append_iff.2
  refine ⟨first, ?_⟩
  intro later done
  rw [done] at second
  exact second

end Action

/-! ## Execution -/

theorem eq_ok_of_evaluateInt {expression : Expr} {value : Integer}
    {machine later : Machine}
    (success : evaluateInt expression machine = .ok value later) :
    expression.evaluateInt machine.store = .ok value ∧ machine = later := by
  cases outcome : expression.evaluateInt machine.store with
  | error stop =>
      rw [evaluateInt_of_error outcome] at success
      cases success
  | ok found =>
      rw [evaluateInt_of_ok outcome] at success
      cases success
      exact ⟨rfl, rfl⟩

namespace Stmt

variable {index : Ident} {low high : Expr} {body others : List Stmt}
  {position : Position} {machine : Machine} {rounds : List Round}

/-- The rounds of a loop are performed one after another. -/
theorem forEach_eq_runAll {count : Nat} {value : Integer}
    (numbers : rounds.map (·.value.value) =
      Integer.rowFrom value.value count)
    (fits : value.value + count < 9223372036854775808)
    (unrolled : ∀ round ∈ rounds, ∀ machine,
      Action.Faithful machine round.actions →
        Stmt.executeList body machine = Action.runAll round.actions machine)
    (faithful : Action.Faithful machine
      (rounds.flatMap (Round.unrolled index))) :
    forEach (Stmt.round index body) count value machine =
      Action.runAll (rounds.flatMap (Round.unrolled index)) machine := by
  induction count generalizing value machine rounds with
  | zero =>
      have none : rounds = [] := List.map_eq_nil_iff.1 numbers
      subst none
      rfl
  | succ count induction =>
      rw [Integer.rowFrom_succ] at numbers
      obtain ⟨round, rest, rfl, same, row⟩ := List.map_eq_cons_iff.1 numbers
      obtain ⟨bodyUnrolled, restUnrolled⟩ := List.forall_mem_cons.1 unrolled
      obtain ⟨number, actions⟩ := round
      obtain rfl : number = value := Integer.ext same
      have next : number.next.value = number.value + 1 :=
        Integer.value_next (by omega)
      rw [← next] at row
      let bound : Machine :=
        { machine with store := machine.store.set index.name (.int number) }
      have entered : Action.Faithful bound
          (actions ++ rest.flatMap (Round.unrolled index)) :=
        faithful.2 bound rfl
      obtain ⟨bodyFaithful, restFaithful⟩ :=
        Action.faithful_append_iff.1 entered
      calc forEach (Stmt.round index body) (count + 1) number machine
        _ = (Stmt.executeList body >>= fun _ =>
              forEach (Stmt.round index body) count number.next) bound := rfl
        _ = (Action.runAll actions >>= fun _ =>
              forEach (Stmt.round index body) count number.next) bound :=
            bind_congr_first (bodyUnrolled bound bodyFaithful)
        _ = (Action.runAll actions >>= fun _ =>
              Action.runAll (rest.flatMap (Round.unrolled index))) bound := by
            apply Computation.bind_congr
            intro _ later done
            exact induction row (by omega) restUnrolled
              (restFaithful later done)
        _ = Action.runAll (actions ++ rest.flatMap (Round.unrolled index))
              bound := by
            rw [Action.runAll_append]

/-- A loop is entered, and then its rounds are performed. -/
theorem execute_loop_eq_runAll {first bound : Integer}
    (numbers : rounds.map (·.value.value) = first.upTo bound)
    (unrolled : ∀ round ∈ rounds, ∀ machine,
      Action.Faithful machine round.actions →
        Stmt.executeList body machine = Action.runAll round.actions machine)
    (faithful : Action.Faithful machine
      (.enter index low high body position first bound ::
        rounds.flatMap (Round.unrolled index))) :
    (record (.executed (.loop index low high body position)) >>= fun _ =>
        (Stmt.loop index low high body position).execute) machine =
      Action.runAll (.enter index low high body position first bound ::
        rounds.flatMap (Round.unrolled index)) machine := by
  obtain ⟨suits, onward⟩ := faithful
  let entered := machine.recorded
    (.executed (.loop index low high body position))
  let enter := Action.enter index low high body position first bound
  have executed :
      (record (.executed (.loop index low high body position)) >>= fun _ =>
        (Stmt.loop index low high body position).execute) machine =
      (evaluateInt low >>= fun first => evaluateInt high >>= fun bound =>
        forEach (Stmt.round index body) (bound.value - first.value).toNat
          first) entered := by
    rw [Stmt.execute]
    rfl
  have performed :
      (enter.run >>= fun _ =>
        Action.runAll (rounds.flatMap (Round.unrolled index))) machine =
      (evaluateInt low >>= fun _ => evaluateInt high >>= fun _ =>
        Action.runAll (rounds.flatMap (Round.unrolled index))) entered := by
    simp only [enter, Action.run, bind_assoc, pure_bind]
    rfl
  rw [executed, Action.runAll_cons, performed]
  apply Computation.bind_congr
  intro lowest _ lowDone
  obtain ⟨lowValue, rfl⟩ := eq_ok_of_evaluateInt lowDone
  apply Computation.bind_congr
  intro highest _ highDone
  obtain ⟨highValue, rfl⟩ := eq_ok_of_evaluateInt highDone
  -- Both bounds have values, so the loop was unrolled for just these.
  obtain ⟨rfl, rfl⟩ := suits lowest highest lowValue highValue
  have entry : enter.run machine = .ok () entered := by
    change (evaluateInt low >>= fun _ => evaluateInt high >>= fun _ =>
      pure ()) entered = _
    rw [bind_of_ok lowDone, bind_of_ok highDone]
    rfl
  have below := highest.lt_bound
  have small := lowest.lt_bound
  exact forEach_eq_runAll numbers (by omega) unrolled (onward entered entry)

/-- Executing a block is performing the steps that it is unrolled to. -/
theorem Unrolls.executeList_eq {block : List Stmt} {actions : List Action}
    (unrolls : Stmt.Unrolls block actions)
    (faithful : Action.Faithful machine actions) :
    Stmt.executeList block machine = Action.runAll actions machine := by
  induction unrolls generalizing machine with
  | nil => rfl
  | @plain statement others late plain _ induction =>
      have unfolded : Stmt.executeList (statement :: others) =
          (Action.perform statement plain).run >>= fun _ =>
            Stmt.executeList others := by
        rw [Stmt.executeList]
        exact (bind_assoc ..).symm
      rw [unfolded, Action.runAll_cons]
      apply Computation.bind_congr
      intro _ later done
      exact induction (faithful.2 later done)
  | @loop index low high body others position first bound rounds late numbers
      _ _ bodyInduction induction =>
      have unfolded : Stmt.executeList
            (.loop index low high body position :: others) =
          (record (.executed (.loop index low high body position)) >>= fun _ =>
            (Stmt.loop index low high body position).execute) >>= fun _ =>
            Stmt.executeList others := by
        rw [Stmt.executeList, bind_assoc]
      rw [← List.cons_append] at faithful ⊢
      obtain ⟨loopFaithful, onward⟩ := Action.faithful_append_iff.1 faithful
      have looped := execute_loop_eq_runAll numbers
        (fun round member machine faithful =>
          bodyInduction round member faithful) loopFaithful
      rw [unfolded, Action.runAll_append, bind_congr_first looped]
      apply Computation.bind_congr
      intro _ later done
      exact induction (onward later done)

/-! ## Existence -/

theorem exists_suits (store : Store) (index : Ident) (low high : Expr)
    (body : List Stmt) (position : Position) :
    ∃ first bound, (Action.enter index low high body position first
      bound).Suits store := by
  cases lowValue : low.evaluateInt store with
  | error stop =>
      refine ⟨.zero, .zero, ?_⟩
      intro lowest highest found
      rw [lowValue] at found
      cases found
  | ok first =>
      cases highValue : high.evaluateInt store with
      | error stop =>
          refine ⟨.zero, .zero, ?_⟩
          intro lowest highest _ found
          rw [highValue] at found
          cases found
      | ok bound => exact ⟨first, bound, .of_ok lowValue highValue⟩

/-- If the body can be unrolled for every machine, then each round can be
unrolled for the machine that the rounds before it lead to. -/
theorem exists_rounds (index : Ident) {body : List Stmt}
    (unrollable : ∀ machine, ∃ actions,
      Stmt.Unrolls body actions ∧ Action.Faithful machine actions)
    (count : Nat) (value : Integer)
    (fits : value.value + count < 9223372036854775808) (machine : Machine) :
    ∃ rounds : List Round,
      rounds.map (·.value.value) = Integer.rowFrom value.value count ∧
        (∀ round ∈ rounds, Stmt.Unrolls body round.actions) ∧
        Action.Faithful machine (rounds.flatMap (Round.unrolled index)) := by
  induction count generalizing value machine with
  | zero => exact ⟨[], rfl, List.forall_mem_nil _, True.intro⟩
  | succ count induction =>
      let bound : Machine :=
        { machine with store := machine.store.set index.name (.int value) }
      obtain ⟨actions, unrolls, faithful⟩ := unrollable bound
      have next : value.next.value = value.value + 1 :=
        Integer.value_next (by omega)
      -- The next round begins where this one ends.  Should this one stop, the
      -- next is not reached, and any way to unroll it will do.
      obtain ⟨rounds, numbers, unrolled, onward⟩ :=
        induction value.next (by omega) (ending (Action.runAll actions bound))
      refine ⟨⟨value, actions⟩ :: rounds, ?_, ?_, ?_⟩
      · rw [List.map_cons, numbers, next, Integer.rowFrom_succ]
      · exact List.forall_mem_cons.2 ⟨unrolls, unrolled⟩
      · exact .next True.intro rfl (faithful.append onward)

theorem exists_unrolled_of_plain {statement : Stmt}
    (plain : statement.isLoop = false) (machine : Machine) :
    ∃ early, Action.Faithful machine early ∧
      ∀ others late, Stmt.Unrolls others late →
        Stmt.Unrolls (statement :: others) (early ++ late) := by
  refine ⟨[.perform statement plain], ⟨True.intro, ?_⟩, ?_⟩
  · intro later _
    exact True.intro
  · intro others late unrolls
    exact .plain plain unrolls

mutual

theorem exists_unrolled (statement : Stmt) (machine : Machine) :
    ∃ early, Action.Faithful machine early ∧
      ∀ others late, Stmt.Unrolls others late →
        Stmt.Unrolls (statement :: others) (early ++ late) := by
  cases statement with
  | loop index low high body position =>
      obtain ⟨first, bound, suits⟩ :=
        exists_suits machine.store index low high body position
      have below := bound.lt_bound
      have small := first.lt_bound
      obtain ⟨rounds, numbers, unrolled, faithful⟩ :=
        exists_rounds index (exists_unrolls body)
          (bound.value - first.value).toNat first (by omega)
          (ending ((Action.enter index low high body position first bound).run
            machine))
      refine ⟨.enter index low high body position first bound ::
        rounds.flatMap (Round.unrolled index), ?_, ?_⟩
      · refine ⟨suits, ?_⟩
        intro later entered
        rw [entered] at faithful
        exact faithful
      · intro others late unrolls
        exact .loop numbers unrolled unrolls
  | declare | assign | read | print | assert =>
      exact exists_unrolled_of_plain rfl machine

/-- Every block can be unrolled so that the steps are faithful to a run. -/
theorem exists_unrolls (block : List Stmt) (machine : Machine) :
    ∃ actions, Stmt.Unrolls block actions ∧
      Action.Faithful machine actions := by
  cases block with
  | nil => exact ⟨[], .nil, True.intro⟩
  | cons statement others =>
      obtain ⟨early, faithful, unrolled⟩ := exists_unrolled statement machine
      obtain ⟨late, unrolls, onward⟩ :=
        exists_unrolls others (ending (Action.runAll early machine))
      exact ⟨early ++ late, unrolled others late unrolls,
        faithful.append onward⟩

end

end Stmt

/-! ## Single steps -/

theorem Sink.push_nil (sink : Sink) : sink.push [] = sink := by
  simp [Sink.push]

/-- A print statement that stops has written part of its text at most. -/
theorem Task.output_of_print_error {address : Address} {value : Expr}
    {position : Position} {before after : Machine} {stop : Stop}
    (failed : (Task.perform address (.print value position)).run before =
      .error stop after) :
    ∃ bytes, after.sink = before.sink.push bytes ∧
      (bytes = [] ∨ ∃ shown, value.evaluate before.store = .ok shown ∧
        bytes <+: textBytes shown.text ∧
        bytes.length < (textBytes shown.text).length) := by
  rw [Task.run_print] at failed
  cases evaluated : value.evaluate before.store with
  | error cause =>
      rw [evaluated] at failed
      cases failed
      exact ⟨[], before.sink.push_nil.symm, .inl rfl⟩
  | ok shown =>
      rw [evaluated] at failed
      dsimp only at failed
      rw [Sink.write_apply] at failed
      by_cases full : (before.sink.fitting (textBytes shown.text)).length <
          (textBytes shown.text).length
      · rw [if_pos full] at failed
        cases failed
        exact ⟨_, rfl, .inr ⟨shown, rfl, before.sink.fitting_begins _, full⟩⟩
      · rw [if_neg full] at failed
        cases failed

namespace Action

variable {action : Action} {before after : Machine} {stop : Stop}

/-- The task that a step amounts to, at no place in particular. -/
def task : Action → Task
  | perform statement _ => .perform [] statement
  | enter index low high body position _ _ =>
      .perform [] (.loop index low high body position)
  | bind index value => .rounds [] index [] 1 value

theorem run_eq_task_run (action : Action) :
    action.run = action.task.run >>= fun _ => pure () := by
  cases action with
  | bind => rfl
  | enter =>
      simp only [run, task, Task.run, Stmt.perform, bind_assoc, pure_bind]
  | perform statement plain =>
      cases statement with
      | loop => cases plain
      | declare | assign | read | print | assert =>
          simp only [run, task, Task.run, Stmt.perform, bind_assoc, pure_bind,
            bind_pure_unit]

theorem task_run_of_ok (success : action.run before = .ok () after) :
    ∃ tasks, action.task.run before = .ok tasks after := by
  rw [run_eq_task_run] at success
  cases outcome : action.task.run before with
  | ok tasks later =>
      rw [bind_of_ok outcome] at success
      cases success
      exact ⟨tasks, rfl⟩
  | error stop later =>
      rw [bind_of_error outcome] at success
      cases success

theorem task_run_of_error (failed : action.run before = .error stop after) :
    action.task.run before = .error stop after := by
  rw [run_eq_task_run] at failed
  rcases bind_eq_error_iff.1 failed with failed | ⟨_, _, _, failed⟩
  · exact failed
  · cases failed

theorem binds_task (action : Action) : action.task.binds = action.target := by
  cases action with
  | enter | bind => rfl
  | perform statement => cases statement <;> rfl

theorem isRead_task (action : Action) :
    action.task.isRead = action.isRead := by
  cases action with
  | enter | bind => rfl
  | perform statement => cases statement <;> rfl

theorem exists_eq_print (prints : action.task.isPrint = true) :
    ∃ value position plain,
      action = .perform (.print value position) plain := by
  cases action with
  | enter | bind => cases prints
  | perform statement plain =>
      cases statement with
      | print value position => exact ⟨value, position, plain, rfl⟩
      | _ => cases prints

/-- What a step that stops has done.  The variables are as before; at most one
line of the input is gone, and only if the step reads; and what has been
written is at most a part of what the step was to print. -/
structure Interrupted (action : Action) (before after : Machine) : Prop where
  store : after.store = before.store
  input : ∃ lines, WholeLines after.input lines ∧
    before.input = lines.flatten ++ after.input ∧
    lines.length ≤ if action.isRead then 1 else 0
  output : ∃ bytes, after.sink = before.sink.push bytes ∧
    (bytes = [] ∨ ∃ value position plain shown,
      action = .perform (.print value position) plain ∧
        value.evaluate before.store = .ok shown ∧
        bytes <+: textBytes shown.text ∧
        bytes.length < (textBytes shown.text).length)

theorem Interrupted.of_run (failed : action.run before = .error stop after) :
    action.Interrupted before after := by
  have stopped := task_run_of_error failed
  refine ⟨(Task.refusal_of_run stopped).1, ?_, ?_⟩
  · obtain ⟨lines, takes, whole⟩ := action.task.exists_takes before
    have count := takes.count
    have input := takes.input
    rw [stopped] at whole input
    refine ⟨lines, whole, input, ?_⟩
    rw [count, isRead_task]
    cases action.isRead <;> cases exhausted (action.task.run before) <;> simp
  · cases prints : action.task.isPrint with
    | false =>
        have same := (Task.silent_run prints).ending_sink before
        rw [stopped] at same
        exact ⟨[], same.trans before.sink.push_nil.symm, .inl rfl⟩
    | true =>
        obtain ⟨value, position, plain, rfl⟩ := exists_eq_print prints
        obtain ⟨bytes, grown, part⟩ := Task.output_of_print_error stopped
        refine ⟨bytes, grown, part.imp_right ?_⟩
        rintro ⟨shown, evaluated, begins, shorter⟩
        exact ⟨value, position, plain, shown, rfl, evaluated, begins, shorter⟩

/-- A step that succeeds leaves every variable alone but its target. -/
theorem get?_of_run {name : String}
    (success : action.run before = .ok () after)
    (other : action.target ≠ some name) :
    after.store.get? name = before.store.get? name := by
  obtain ⟨tasks, done⟩ := task_run_of_ok success
  apply (Task.effect_of_run done).get?_of_binds_ne
  rw [binds_task]
  exact other

theorem runAll_of_stop {early late : List Action} {machine : Machine}
    (done : runAll early machine = .ok () before)
    (failed : action.run before = .error stop after) :
    runAll (early ++ action :: late) machine = .error stop after := by
  rw [runAll_append, bind_of_ok done, runAll_cons, bind_of_error failed]

end Action

namespace Program

/-- A program can be unrolled so that the steps are faithful to its run, and
executing it is then performing the steps one by one, up to the first that
stops.  A step before that leaves every variable alone but its target; the one
that stops changes no variable at all, and the machine that it leaves is the
one that the execution ends with. -/
theorem execute_unrolled (program : Program) (machine : Machine) :
    (∃ actions, Stmt.Unrolls program actions ∧
        Action.Faithful (program.start machine).machine actions) ∧
      ∀ actions, Stmt.Unrolls program actions →
        Action.Faithful (program.start machine).machine actions →
        program.execute machine =
            Action.runAll actions (program.start machine).machine ∧
          ∀ early action late before, actions = early ++ action :: late →
            Action.runAll early (program.start machine).machine =
              .ok () before →
            (∀ after, action.run before = .ok () after →
              ∀ name, action.target ≠ some name →
                after.store.get? name = before.store.get? name) ∧
            ∀ stop after, action.run before = .error stop after →
              program.execute machine = .error stop after ∧
                action.Interrupted before after := by
  refine ⟨Stmt.exists_unrolls program _, ?_⟩
  intro actions unrolls faithful
  have executed : program.execute machine =
      Action.runAll actions (program.start machine).machine :=
    unrolls.executeList_eq faithful
  refine ⟨executed, ?_⟩
  rintro early action late before rfl done
  constructor
  · intro after success name other
    exact Action.get?_of_run success other
  · intro stop after failed
    rw [executed]
    exact ⟨Action.runAll_of_stop done failed, .of_run failed⟩

/-- The statement `print "ab";`. -/
def printTwoLetters : Stmt :=
  .print (.lone (.text "ab" ⟨2, 9⟩) ⟨2, 9⟩) ⟨2, 3⟩

/-- The statement `i := 0;`. -/
def resetIndex : Stmt :=
  .assign ⟨"i", ⟨4, 1⟩⟩ (.lone (.number .zero ⟨4, 6⟩) ⟨4, 6⟩) ⟨4, 1⟩

/-- A loop of two rounds that each print two letters, and a statement behind
it. -/
def printTwice : Program :=
  [.loop ⟨"i", ⟨1, 5⟩⟩ (.lone (.number .zero ⟨1, 10⟩) ⟨1, 10⟩)
    (.lone (.number Integer.zero.next.next ⟨1, 13⟩) ⟨1, 13⟩)
    [printTwoLetters] ⟨1, 1⟩, resetIndex]

/-- The steps of the loop up to the last. -/
def printTwiceEarly : List Action :=
  [.enter ⟨"i", ⟨1, 5⟩⟩ (.lone (.number .zero ⟨1, 10⟩) ⟨1, 10⟩)
      (.lone (.number Integer.zero.next.next ⟨1, 13⟩) ⟨1, 13⟩)
      [printTwoLetters] ⟨1, 1⟩ .zero Integer.zero.next.next,
    .bind ⟨"i", ⟨1, 5⟩⟩ .zero, .perform printTwoLetters rfl,
    .bind ⟨"i", ⟨1, 5⟩⟩ Integer.zero.next]

def printTwiceActions : List Action :=
  printTwiceEarly ++ .perform printTwoLetters rfl ::
    [.perform resetIndex rfl]

theorem printTwice_unrolls : Stmt.Unrolls printTwice printTwiceActions := by
  have rounds : ∀ round ∈
      [Round.mk .zero [.perform printTwoLetters rfl],
        ⟨Integer.zero.next, [.perform printTwoLetters rfl]⟩],
      Stmt.Unrolls [printTwoLetters] round.actions := by
    refine List.forall_mem_cons.2 ⟨.plain rfl .nil, ?_⟩
    exact List.forall_mem_singleton.2 (.plain rfl .nil)
  exact .loop rfl rounds (.plain rfl .nil)

/-- With room for three bytes the second round stops in the middle of its
text, and the statement behind the loop is not executed. -/
theorem printTwice_stops :
    ∃ before after,
      Stmt.Unrolls printTwice printTwiceActions ∧
        (Action.perform printTwoLetters rfl).Interrupted before after ∧
        before.sink.written = #[97, 98] ∧
        after.sink.written = #[97, 98, 97] ∧
        after.store.get? "i" = some (.int Integer.zero.next) ∧
        printTwice.execute { sink := { capacity := some 3 } } =
          .error (.failed (.channel .sinkFull) ⟨2, 3⟩) after := by
  have faithful : Action.Faithful
      (printTwice.start { sink := { capacity := some 3 } }).machine
      printTwiceActions :=
    .next (.of_ok rfl rfl) rfl (.next True.intro rfl (.next True.intro rfl
      (.next True.intro rfl (.of_stop True.intro rfl))))
  obtain ⟨_, behind⟩ :=
    (execute_unrolled printTwice { sink := { capacity := some 3 } }).2
      printTwiceActions printTwice_unrolls faithful
  obtain ⟨_, stopped⟩ := behind printTwiceEarly
    (.perform printTwoLetters rfl) [.perform resetIndex rfl] _ rfl rfl
  obtain ⟨executed, interrupted⟩ := stopped
    (.failed (.channel .sinkFull) ⟨2, 3⟩) _ rfl
  exact ⟨_, _, printTwice_unrolls, interrupted, rfl, rfl, rfl, executed⟩

end Program

end TinyImp
