import TinyImp.Proofs.Execution.Ignoring

/-!
# Input

Input is taken line by line and nothing of it is lost.  A read statement takes
the next line, also if it cannot do anything with it, and finds the input
exhausted only if there is nothing left to take; no other task touches the
input.  A line that ends with its line feed is taken the same way whatever
follows it, so what has not been read yet has no part in what has happened.
-/

namespace TinyImp

open Execution TinyImp.Computation

/-- The byte that ends a line. -/
def lineFeed : UInt8 := 10

/-- A line with its line feed, the only one in it. -/
def Ended (line : List UInt8) : Prop :=
  ∃ text, lineFeed ∉ text ∧ line = text ++ [lineFeed]

/-- Lines that stand in a row before `rest`.  All of them have their line
feed, save for a last one that ends the input. -/
inductive WholeLines (rest : List UInt8) : List (List UInt8) → Prop where
  | none : WholeLines rest []
  | ended {line : List UInt8} {lines : List (List UInt8)} :
      Ended line →
      WholeLines rest lines →
      WholeLines rest (line :: lines)
  | last {line : List UInt8} :
      line ≠ [] →
      lineFeed ∉ line →
      rest = [] →
      WholeLines rest [line]

section Splitting

theorem splitLine_lineFeed (bytes : List UInt8) :
    splitLine (lineFeed :: bytes) = ([lineFeed], bytes) :=
  rfl

theorem splitLine_cons_of_ne {byte : UInt8} (other : byte ≠ lineFeed)
    (bytes : List UInt8) :
    splitLine (byte :: bytes) =
      (byte :: (splitLine bytes).1, (splitLine bytes).2) :=
  if_neg other

theorem splitLine_append_rest (input : List UInt8) :
    (splitLine input).1 ++ (splitLine input).2 = input := by
  induction input with
  | nil => rfl
  | cons byte bytes induction =>
      by_cases ends : byte = lineFeed
      · rw [ends, splitLine_lineFeed, List.singleton_append]
      · rw [splitLine_cons_of_ne ends, List.cons_append, induction]

/-- A line that ends with its line feed is split off whatever follows it. -/
theorem splitLine_of_ended {line : List UInt8} (ended : Ended line)
    (rest : List UInt8) : splitLine (line ++ rest) = (line, rest) := by
  obtain ⟨text, unbroken, rfl⟩ := ended
  induction text with
  | nil => rfl
  | cons byte text induction =>
      rw [List.mem_cons, not_or] at unbroken
      have other : byte ≠ lineFeed := fun same => unbroken.1 same.symm
      rw [List.cons_append, List.cons_append, splitLine_cons_of_ne other,
        induction unbroken.2]

/-- A line that is split off has its line feed, or all of the input is one
line without any. -/
theorem splitLine_ended_or (input : List UInt8) :
    Ended (splitLine input).1 ∨
      (lineFeed ∉ input ∧ splitLine input = (input, [])) := by
  induction input with
  | nil => exact .inr ⟨List.not_mem_nil, rfl⟩
  | cons byte bytes induction =>
      by_cases ends : byte = lineFeed
      · rw [ends, splitLine_lineFeed]
        exact .inl ⟨[], List.not_mem_nil, rfl⟩
      · rw [splitLine_cons_of_ne ends]
        rcases induction with ⟨text, unbroken, line⟩ | ⟨unbroken, all⟩
        · refine .inl ⟨byte :: text, ?_, congrArg (byte :: ·) line⟩
          exact List.not_mem_cons_of_ne_of_not_mem (Ne.symm ends) unbroken
        · refine .inr ⟨?_, by rw [all]⟩
          exact List.not_mem_cons_of_ne_of_not_mem (Ne.symm ends) unbroken

/-- What is split off from some input is a whole line. -/
theorem wholeLines_splitLine {input : List UInt8} (more : input ≠ []) :
    WholeLines (splitLine input).2 [(splitLine input).1] := by
  rcases splitLine_ended_or input with ended | ⟨unbroken, all⟩
  · exact .ended ended .none
  · rw [all]
    exact .last more unbroken rfl

theorem splitLine_eq_nil_iff (input : List UInt8) :
    (splitLine input).1 = [] ↔ input = [] := by
  constructor
  · intro empty
    cases input with
    | nil => rfl
    | cons byte bytes =>
        by_cases ends : byte = lineFeed
        · rw [ends, splitLine_lineFeed] at empty
          cases empty
        · rw [splitLine_cons_of_ne ends] at empty
          cases empty
  · intro empty
    rw [empty]
    rfl

end Splitting

namespace WholeLines

variable {rest : List UInt8} {early late : List (List UInt8)}

theorem eq_nil_of_flatten (lines : WholeLines rest late)
    (empty : late.flatten = []) : late = [] := by
  cases lines with
  | none => rfl
  | ended ended _ =>
      obtain ⟨text, unbroken, rfl⟩ := ended
      simp at empty
  | last some unbroken isLast =>
      rw [List.flatten_singleton] at empty
      exact absurd empty some

/-- Lines in a row before other lines in a row. -/
theorem append (first : WholeLines (late.flatten ++ rest) early)
    (second : WholeLines rest late) : WholeLines rest (early ++ late) := by
  induction first with
  | none => exact second
  | ended ended _ induction => exact .ended ended induction
  | last some unbroken isLast =>
      -- Nothing follows a line without a line feed, so no line does.
      obtain ⟨noLine, noRest⟩ := List.append_eq_nil_iff.1 isLast
      rw [second.eq_nil_of_flatten noLine]
      exact .last some unbroken noRest

/-- If the last byte of some lines is a line feed, then they all have theirs. -/
theorem ended_of_getLast? (lines : WholeLines rest early)
    (closed : early.flatten = [] ∨ early.flatten.getLast? = some lineFeed) :
    ∀ line ∈ early, Ended line := by
  induction lines with
  | none => exact List.forall_mem_nil _
  | @ended line lines ended whole induction =>
      refine List.forall_mem_cons.2 ⟨ended, induction ?_⟩
      rw [List.flatten_cons] at closed
      by_cases more : lines.flatten = []
      · exact .inl more
      · rcases closed with empty | closed
        · exact .inl (List.append_eq_nil_iff.1 empty).2
        · rw [List.getLast?_append, List.getLast?_eq_some_getLast more] at closed
          rw [List.getLast?_eq_some_getLast more]
          exact .inr closed
  | @last line some unbroken isLast =>
      rw [List.flatten_singleton] at closed
      rcases closed with empty | closed
      · exact absurd empty some
      · exact absurd (List.mem_of_getLast? closed) unbroken

end WholeLines

/-- Whether a run has stopped for want of input. -/
def Stop.isExhaustion : Stop → Bool
  | .failure ⟨.inputExhausted, _⟩ => true
  | _ => false

namespace Execution

variable {α β : Type}

/-- Whether an execution ends for want of input. -/
def exhausted : EStateM.Result Stop Machine α → Bool
  | .ok _ _ => false
  | .error stop _ => stop.isExhaustion

/-- Only the first of two executions can stop for want of input if the second
one never does. -/
theorem exhausted_bind {first : Execution α} {next : α → Execution β}
    (late : ∀ value later, exhausted (next value later) = false)
    (machine : Machine) :
    exhausted ((first >>= next) machine) = exhausted (first machine) := by
  cases outcome : first machine with
  | ok value middle =>
      rw [bind_of_ok outcome]
      exact late value middle
  | error stop middle =>
      rw [bind_of_error outcome]
      rfl

theorem exhausted_readValue (target : Ident) (line : String)
    (position : Position) (present : Value) (machine : Machine) :
    exhausted (readValue target line position present machine) = false := by
  cases present with
  | int number =>
      rw [readValue]
      cases Integer.read? (Text.trim line.toList) <;> rfl
  | string text => rfl
  | bool truth => rfl

/-- What is done with a line never stops for want of input. -/
theorem exhausted_assignLine (target : Ident) (position : Position)
    (line : String) (machine : Machine) :
    exhausted (assignLine target position line machine) = false := by
  have looked : exhausted
      (ofExcept (machine.store.lookup target.name) machine) = false := by
    rw [Store.lookup]
    cases machine.store.get? target.name <;> rfl
  rw [assignLine, exhausted_bind]
  · exact looked
  · intro present later
    rw [exhausted_bind]
    · exact exhausted_readValue target line position present later
    · exact fun _ _ => rfl

/-- The input is exhausted if and only if there is nothing left of it. -/
theorem exhausted_readLine (position : Position) (machine : Machine) :
    exhausted (readLine position machine) = machine.input.isEmpty := by
  have same : machine.input.isEmpty = (splitLine machine.input).1.isEmpty := by
    rw [Bool.eq_iff_iff, List.isEmpty_iff, List.isEmpty_iff,
      splitLine_eq_nil_iff]
  rw [readLine_apply, same]
  cases (splitLine machine.input).1 with
  | nil => rfl
  | cons byte bytes => cases bytesText? (byte :: bytes) <;> rfl

/-- A line that ends with its line feed is taken the same way whatever follows
it. -/
theorem readLine_replaced {line rest : List UInt8} {machine : Machine}
    (ended : Ended line) (ahead : machine.input = line ++ rest)
    (position : Position) (other : List UInt8) :
    readLine position { machine with input := line ++ other } =
      onMachine (.reroute (fun _ => other) id)
        (readLine position machine) := by
  have here : splitLine machine.input = (line, rest) := by
    rw [ahead, splitLine_of_ended ended]
  have there : splitLine (line ++ other) = (line, other) :=
    splitLine_of_ended ended other
  rw [readLine_apply, readLine_apply]
  simp only [takeLine, here, there]
  cases bytesText? line with
  | none => rfl
  | some text => cases line.isEmpty <;> rfl

/-- Whatever ignores all inputs leaves the input as it is. -/
theorem ending_input {action : Execution α}
    (ignores : ∀ input, Ignores (.reroute (fun _ => input) id) action)
    (machine : Machine) :
    (ending (action machine)).input = machine.input := by
  have unmoved : action machine =
      onMachine (.reroute (fun _ => machine.input) id) (action machine) :=
    ignores machine.input machine
  rw [unmoved]
  cases action machine <;> rfl

end Execution

namespace Task

variable {task : Task} {machine : Machine}

/-- The lines that a task takes from the input: one if it reads and the input
is not exhausted, and none otherwise. -/
structure Takes (task : Task) (machine : Machine)
    (lines : List (List UInt8)) : Prop where
  count : lines.length =
    if task.isRead && !exhausted (task.run machine) then 1 else 0
  input : machine.input =
    lines.flatten ++ (ending (task.run machine)).input

theorem exists_eq_read (reads : task.isRead = true) :
    ∃ address target position,
      task = .perform address (.read target position) := by
  cases task with
  | rounds => cases reads
  | perform address statement =>
      cases statement with
      | read target position => exact ⟨address, target, position, rfl⟩
      | _ => cases reads

theorem ignores_input (other : task.isRead = false) (input : List UInt8) :
    Ignores (.reroute (fun _ => input) id) task.run := by
  apply ignores_run
  · intro reads
    rw [other] at reads
    cases reads
  · exact fun _ => rfl

/-- A read statement takes a line and then does something with it. -/
theorem run_read (address : Address) (target : Ident) (position : Position)
    (machine : Machine) :
    (perform address (.read target position)).run machine =
      (readLine position >>= fun line =>
        assignLine target position line >>= fun _ => pure [])
        (machine.recorded (.executed (.read target position))) := by
  have recorded : record (.executed (.read target position)) machine =
      .ok () (machine.recorded (.executed (.read target position))) := rfl
  rw [run, bind_of_ok recorded, Stmt.perform_read, readInto_eq, bind_assoc]

theorem ignores_afterLine (target : Ident) (position : Position)
    (line : String) (input : List UInt8) :
    Ignores (.reroute (fun _ => input) id)
      (assignLine target position line >>= fun _ =>
        (pure [] : Execution (List Task))) :=
  (ignores_assignLine target position line).bind fun _ => ignores_pure []

section Read

variable (address : Address) (target : Ident) (position : Position)
  (machine : Machine)

/-- A read statement takes the first line of the input, whatever becomes of
it. -/
theorem input_run_read :
    (ending ((perform address (.read target position)).run machine)).input =
      (splitLine machine.input).2 := by
  rw [run_read]
  let ready := machine.recorded (.executed (.read target position))
  rcases readLine_outcome position ready with
    ⟨_, line, taken⟩ | ⟨_, failure, failed⟩
  · rw [bind_of_ok taken,
      ending_input (ignores_afterLine target position line)]
    rfl
  · rw [bind_of_error failed]
    rfl

theorem exhausted_run_read :
    exhausted ((perform address (.read target position)).run machine) =
      machine.input.isEmpty := by
  rw [run_read, exhausted_bind]
  · exact exhausted_readLine position _
  · intro line later
    rw [exhausted_bind]
    · exact exhausted_assignLine target position line later
    · exact fun _ _ => rfl

theorem run_read_replaced {line rest : List UInt8} (ended : Ended line)
    (ahead : machine.input = line ++ rest) (other : List UInt8) :
    (perform address (.read target position)).run
        { machine with input := line ++ other } =
      onMachine (fun later => { later with input := other })
        ((perform address (.read target position)).run machine) := by
  have aheadToo :
      (machine.recorded (.executed (.read target position))).input =
        line ++ rest := ahead
  rw [run_read, run_read]
  exact onMachine_bind (readLine_replaced ended aheadToo position other)
    fun line => ignores_afterLine target position line other

end Read

/-- A task takes no line or one whole line. -/
theorem exists_takes (task : Task) (machine : Machine) :
    ∃ lines, task.Takes machine lines ∧
      WholeLines (ending (task.run machine)).input lines := by
  cases reads : task.isRead with
  | false =>
      refine ⟨[], ⟨?_, ?_⟩, .none⟩
      · simp [reads]
      · rw [ending_input (ignores_input reads)]
        rfl
  | true =>
      obtain ⟨address, target, position, rfl⟩ := exists_eq_read reads
      have left := input_run_read address target position machine
      have stopped := exhausted_run_read address target position machine
      -- A read statement fails for want of input exactly if there is none.
      by_cases empty : machine.input = []
      · refine ⟨[], ⟨?_, ?_⟩, .none⟩
        · simp [stopped, empty]
        · rw [left, empty]
          rfl
      · refine ⟨[(splitLine machine.input).1], ⟨?_, ?_⟩, ?_⟩
        · simp [reads, stopped, empty]
        · rw [left, List.flatten_singleton, splitLine_append_rest]
        · rw [left]
          exact wholeLines_splitLine empty

/-- What a task does depends on the lines that it takes, and not on what
follows them. -/
theorem Takes.replay {lines : List (List UInt8)}
    (takes : task.Takes machine lines) (ended : ∀ line ∈ lines, Ended line)
    (found : exhausted (task.run machine) = false) (other : List UInt8) :
    task.run { machine with input := lines.flatten ++ other } =
      onMachine (fun later => { later with input := other })
        (task.run machine) := by
  have count := takes.count
  cases reads : task.isRead with
  | false =>
      simp only [reads, Bool.false_and, Bool.false_eq_true, if_false,
        List.length_eq_zero_iff] at count
      rw [count]
      exact ignores_input reads other machine
  | true =>
      simp only [reads, found, Bool.not_false, Bool.and_true, if_true,
        List.length_eq_one_iff] at count
      obtain ⟨line, rfl⟩ := count
      have ahead := takes.input
      rw [List.flatten_singleton] at ahead ⊢
      obtain ⟨address, target, position, rfl⟩ := exists_eq_read reads
      exact run_read_replaced address target position machine
        (ended line (List.mem_singleton_self line)) ahead other

end Task

/-- One configuration leads to another, and the tasks on the way take
`lines`. -/
inductive Takes : Config → List (List UInt8) → Config → Prop where
  | refl (config : Config) : Takes config [] config
  | next {task : Task} {tasks rest : List Task} {machine later : Machine}
      {early late : List (List UInt8)} {final : Config} :
      task.run machine = .ok tasks later →
      task.Takes machine early →
      Takes ⟨tasks ++ rest, later⟩ late final →
      Takes ⟨task :: rest, machine⟩ (early ++ late) final

/-- How a run ends whose tasks have taken `lines`: with all of the program
done, or at a task that stops, which may have taken the last of them. -/
def Program.Takes (program : Program) (machine : Machine)
    (lines : List (List UInt8)) : EStateM.Result Stop Machine Unit → Prop
  | .ok _ final => TinyImp.Takes (program.start machine) lines ⟨[], final⟩
  | .error stop final => ∃ task others before early last,
      TinyImp.Takes (program.start machine) early ⟨task :: others, before⟩ ∧
        task.run before = .error stop final ∧
        task.Takes before last ∧
        lines = early ++ last

/-- The configuration with another input. -/
def Config.withInput (config : Config) (input : List UInt8) : Config :=
  ⟨config.agenda, { config.machine with input }⟩

/-- A run takes whole lines from the input and leaves the rest. -/
theorem Steps.takes {first last : Config} {trace : List Task}
    (steps : Steps first trace last) :
    ∃ lines, Takes first lines last ∧
      first.machine.input = lines.flatten ++ last.machine.input ∧
      WholeLines last.machine.input lines := by
  induction steps with
  | refl config => exact ⟨[], .refl config, rfl, .none⟩
  | @next task tasks rest trace machine later final success _ induction =>
      obtain ⟨late, takes, left, whole⟩ := induction
      obtain ⟨early, taken, wholeEarly⟩ := task.exists_takes machine
      have input := taken.input
      rw [success] at input wholeEarly
      change later.input = _ at left
      change machine.input = _ ++ later.input at input
      change WholeLines later.input early at wholeEarly
      rw [left] at input wholeEarly
      refine ⟨early ++ late, .next success taken takes, ?_,
        wholeEarly.append whole⟩
      rw [List.flatten_append, List.append_assoc]
      exact input

/-- A run goes the same way whatever follows the lines that it takes. -/
theorem Takes.replay {first last : Config} {lines : List (List UInt8)}
    (takes : Takes first lines last) (ended : ∀ line ∈ lines, Ended line)
    (other : List UInt8) :
    ∃ trace, Steps (first.withInput (lines.flatten ++ other)) trace
      (last.withInput other) := by
  induction takes with
  | refl config => exact ⟨[], .refl _⟩
  | @next task tasks rest machine later early late final success taken _
      induction =>
      obtain ⟨earlyEnded, lateEnded⟩ := List.forall_mem_append.1 ended
      obtain ⟨trace, steps⟩ := induction lateEnded
      have found : exhausted (task.run machine) = false := by
        rw [success]
        rfl
      have same := taken.replay earlyEnded found (late.flatten ++ other)
      rw [success] at same
      rw [List.flatten_append, List.append_assoc]
      exact ⟨task :: trace, .next same steps⟩

namespace Program

variable {machine : Machine} {program : Program}

theorem execute_takes (program : Program) (machine : Machine) :
    ∃ lines, program.Takes machine lines (program.execute machine) ∧
      machine.input =
        lines.flatten ++ (ending (program.execute machine)).input ∧
      WholeLines (ending (program.execute machine)).input lines := by
  have yields := program.execute_yields machine
  cases outcome : program.execute machine with
  | ok done final =>
      rw [outcome] at yields
      obtain ⟨trace, steps⟩ := yields
      exact steps.takes
  | error stop final =>
      rw [outcome] at yields
      obtain ⟨trace, task, others, before, steps, failed⟩ := yields
      obtain ⟨early, takes, left, whole⟩ := steps.takes
      obtain ⟨last, taken, wholeLast⟩ := task.exists_takes before
      have input := taken.input
      rw [failed] at input wholeLast
      change before.input = _ ++ final.input at input
      change WholeLines final.input last at wholeLast
      change machine.input = _ ++ before.input at left
      change WholeLines before.input early at whole
      rw [input] at left whole
      refine ⟨early ++ last, ⟨task, others, before, early, last, takes, failed,
        taken, rfl⟩, ?_, whole.append wholeLast⟩
      rw [List.flatten_append, List.append_assoc]
      exact left

/-- An execution goes the same way whatever follows the lines that it
takes. -/
theorem Takes.replay {lines : List (List UInt8)}
    (takes : program.Takes machine lines (program.execute machine))
    (ended : ∀ line ∈ lines, Ended line)
    (found : exhausted (program.execute machine) = false)
    (other : List UInt8) :
    program.execute { machine with input := lines.flatten ++ other } =
      onMachine (fun later => { later with input := other })
        (program.execute machine) := by
  cases outcome : program.execute machine with
  | ok done final =>
      rw [outcome] at takes
      obtain ⟨trace, steps⟩ := TinyImp.Takes.replay takes ended other
      exact execute_eq_ok_of_steps steps
  | error stop final =>
      rw [outcome] at takes found
      obtain ⟨task, others, before, early, last, taken, failed, lastTaken,
        rfl⟩ := takes
      obtain ⟨earlyEnded, lastEnded⟩ := List.forall_mem_append.1 ended
      obtain ⟨trace, steps⟩ := taken.replay earlyEnded (last.flatten ++ other)
      have foundThere : exhausted (task.run before) = false := by
        rw [failed]
        exact found
      have failedToo := lastTaken.replay lastEnded foundThere other
      rw [failed] at failedToo
      rw [List.flatten_append, List.append_assoc]
      exact execute_eq_error_of_steps steps failedToo

/-- Input is taken in whole lines, one for each read statement that finds any
input, and nothing that has not been read has a part in a run. -/
theorem execute_takes_lines (program : Program) (machine : Machine) :
    (∃ lines, program.Takes machine lines (program.execute machine) ∧
      machine.input =
        lines.flatten ++ (ending (program.execute machine)).input ∧
      WholeLines (ending (program.execute machine)).input lines) ∧
    ∀ consumed,
      machine.input =
        consumed ++ (ending (program.execute machine)).input →
      exhausted (program.execute machine) = false →
      consumed = [] ∨ consumed.getLast? = some lineFeed →
      ∀ other, program.execute { machine with input := consumed ++ other } =
        onMachine (fun later => { later with input := other })
          (program.execute machine) := by
  obtain ⟨lines, takes, left, whole⟩ := program.execute_takes machine
  refine ⟨⟨lines, takes, left, whole⟩, ?_⟩
  intro consumed leftToo found closed other
  have same : lines.flatten = consumed :=
    List.append_cancel_right (left.symm.trans leftToo)
  rw [← same] at closed ⊢
  exact takes.replay (whole.ended_of_getLast? closed) found other

/-- Reads a number and prints it. -/
def echoNumber : Program :=
  [.declare ⟨"n", ⟨1, 5⟩⟩ .int none ⟨1, 1⟩,
    .read ⟨"n", ⟨2, 6⟩⟩ ⟨2, 1⟩,
    .print (.lone (.named "n" ⟨3, 7⟩) ⟨3, 7⟩) ⟨3, 1⟩]

theorem echoNumber_replaced :
    echoNumber.execute { input := textBytes "41\n" ++ textBytes "x" } =
      onMachine (fun later => { later with input := textBytes "x" })
        (echoNumber.execute { input := textBytes "41\n7" }) := by
  let machine : Machine := { input := textBytes "41\n7" }
  have consumed : machine.input = textBytes "41\n" ++
      (ending (echoNumber.execute machine)).input := by decide +kernel
  have found : exhausted (echoNumber.execute machine) = false := by
    decide +kernel
  have closed : (textBytes "41\n").getLast? = some lineFeed := by
    decide +kernel
  exact (echoNumber.execute_takes_lines machine).2 _ consumed found
    (.inr closed) (textBytes "x")

end Program

end TinyImp
