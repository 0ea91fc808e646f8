import TinyImp.Proofs.Execution.Ignoring

/-!
# Output

Only printing touches the sink: every other task ignores it and leaves it as
it is.  So a run with room for a limited number of bytes goes as the run with
room for all of them, up to the print statement whose output does not fit, and
what has been written then are the first bytes of the whole output.
-/

namespace TinyImp

open Execution TinyImp.Computation

variable {α : Type} {machine : Machine} {limit : Nat}

namespace Sink

/-- A sink that never fails. -/
structure Free (sink : Sink) : Prop where
  unlimited : sink.capacity = none
  flushing : sink.flushes = true

/-- The sink with all of `bytes` written to it. -/
def push (sink : Sink) (bytes : List UInt8) : Sink :=
  { sink with written := sink.written ++ bytes.toArray }

/-- The sink with room for `limit` bytes only, and of what was written what
fits into that. -/
def cut (sink : Sink) (limit : Nat) : Sink :=
  { sink with
    written := (sink.written.toList.take limit).toArray
    capacity := some limit }

theorem Free.push {sink : Sink} (free : sink.Free) (bytes : List UInt8) :
    (sink.push bytes).Free :=
  ⟨free.unlimited, free.flushing⟩

theorem push_push (sink : Sink) (bytes more : List UInt8) :
    (sink.push bytes).push more = sink.push (bytes ++ more) := by
  simp [push]

theorem size_push (sink : Sink) (bytes : List UInt8) :
    (sink.push bytes).written.size = sink.written.size + bytes.length := by
  simp [push]

theorem written_push (sink : Sink) (bytes : List UInt8) :
    (sink.push bytes).written.toList = sink.written.toList ++ bytes := by
  simp [push]

theorem written_cut (sink : Sink) (limit : Nat) :
    (sink.cut limit).written.toList = sink.written.toList.take limit := by
  simp [cut]

/-- What lies beyond the room that there is does not matter. -/
theorem cut_eq_of_begins {shorter longer : Sink} (shorterFree : shorter.Free)
    (longerFree : longer.Free)
    (begins : shorter.written.toList <+: longer.written.toList)
    (full : limit ≤ shorter.written.size) :
    shorter.cut limit = longer.cut limit := by
  obtain ⟨more, whole⟩ := begins
  have first : longer.written.toList.take limit =
      shorter.written.toList.take limit := by
    rw [← whole]
    exact List.take_append_of_le_length (by simpa using full)
  simp only [cut, first, shorterFree.flushing, longerFree.flushing]

theorem write_apply (bytes : List UInt8) (sink : Sink) :
    write bytes sink =
      if (sink.fitting bytes).length < bytes.length then
        .error .sinkFull (sink.push (sink.fitting bytes))
      else .ok () (sink.push (sink.fitting bytes)) := by
  change (if (sink.fitting bytes).length < bytes.length then
    throw .sinkFull else pure () : EStateM ChannelError Sink Unit)
      (sink.push (sink.fitting bytes)) = _
  split <;> rfl

theorem fitting_begins (sink : Sink) (bytes : List UInt8) :
    sink.fitting bytes <+: bytes := by
  rw [fitting]
  split
  · exact List.prefix_rfl
  · exact List.take_prefix _ _

theorem fitting_of_free {sink : Sink} (free : sink.Free)
    (bytes : List UInt8) : sink.fitting bytes = bytes := by
  simp [fitting, free.unlimited]

theorem write_of_free {sink : Sink} (free : sink.Free) (bytes : List UInt8) :
    write bytes sink = .ok () (sink.push bytes) := by
  rw [write_apply, fitting_of_free free, if_neg (Nat.lt_irrefl _)]

theorem fitting_cut (sink : Sink) (limit : Nat) (bytes : List UInt8) :
    (sink.cut limit).fitting bytes =
      bytes.take (limit - sink.written.size) := by
  have room : limit - min limit sink.written.size =
      limit - sink.written.size := by omega
  simp [fitting, cut, room]

/-- What fits is what would have been left of the whole. -/
theorem push_fitting_cut (sink : Sink) (limit : Nat) (bytes : List UInt8) :
    (sink.cut limit).push ((sink.cut limit).fitting bytes) =
      (sink.push bytes).cut limit := by
  rw [fitting_cut]
  simp [push, cut, List.take_append]

theorem write_cut (sink : Sink) (limit : Nat) (bytes : List UInt8) :
    write bytes (sink.cut limit) =
      if limit - sink.written.size < bytes.length then
        .error .sinkFull ((sink.push bytes).cut limit)
      else .ok () ((sink.push bytes).cut limit) := by
  have short : min (limit - sink.written.size) bytes.length < bytes.length ↔
      limit - sink.written.size < bytes.length := by omega
  rw [write_apply, push_fitting_cut, fitting_cut, List.length_take]
  simp only [short]

end Sink

/-- The machine with room for `limit` bytes of output only. -/
def Machine.cut (machine : Machine) (limit : Nat) : Machine :=
  { machine with sink := machine.sink.cut limit }

namespace Execution

/-- An execution that has nothing to do with the sink. -/
def Silent (action : Execution α) : Prop :=
  ∀ machine sink, action { machine with sink } =
    onMachine (fun later => { later with sink }) (action machine)

theorem Silent.ending_sink {action : Execution α} (silent : Silent action)
    (machine : Machine) : (ending (action machine)).sink = machine.sink := by
  have unmoved : action machine =
      onMachine (fun later => { later with sink := machine.sink })
        (action machine) :=
    silent machine machine.sink
  rw [unmoved]
  cases action machine <;> rfl

theorem Silent.apply_cut {action : Execution α} (silent : Silent action)
    (machine : Machine) (limit : Nat) :
    action (machine.cut limit) =
      onMachine (fun later => later.cut limit) (action machine) := by
  have moved : action (machine.cut limit) = _ :=
    silent machine (machine.sink.cut limit)
  have same := silent.ending_sink machine
  rw [moved, ← same]
  cases action machine <;> rfl

end Execution

namespace Task

/-- What a task prints, with the variables as they are before it. -/
def output (store : Store) : Task → List UInt8
  | .perform _ (.print value _) =>
      match value.evaluate store with
      | .ok shown => textBytes shown.text
      | .error _ => []
  | _ => []

theorem exists_eq_print {task : Task} (prints : task.isPrint = true) :
    ∃ address value position,
      task = .perform address (.print value position) := by
  cases task with
  | rounds => cases prints
  | perform address statement =>
      cases statement with
      | print value position => exact ⟨address, value, position, rfl⟩
      | _ => cases prints

theorem output_of_not_print {task : Task} (other : task.isPrint = false)
    (store : Store) : task.output store = [] := by
  cases task with
  | rounds => rfl
  | perform address statement =>
      cases statement with
      | print => cases other
      | _ => rfl

theorem silent_run {task : Task} (other : task.isPrint = false) :
    Silent task.run := by
  intro machine sink
  have ignores : Ignores (.reroute id fun _ => sink) task.run := by
    apply ignores_run
    · exact fun _ => rfl
    · intro prints
      rw [other] at prints
      cases prints
  exact ignores machine

/-- A print statement writes the value of its expression. -/
theorem run_print (address : Address) (value : Expr) (position : Position)
    (machine : Machine) :
    (perform address (.print value position)).run machine =
      match value.evaluate machine.store with
      | .error stop =>
          .error stop (machine.recorded (.executed (.print value position)))
      | .ok shown =>
          match Sink.write (textBytes shown.text) machine.sink with
          | .ok _ sink =>
              .ok []
                { machine.recorded (.executed (.print value position)) with
                  sink }
          | .error error sink =>
              .error (.failed (.channel error) position)
                { machine.recorded (.executed (.print value position)) with
                  sink } := by
  let ready := machine.recorded (.executed (.print value position))
  have performed : (perform address (.print value position)).run machine =
      ((evaluate value >>= fun shown => write shown.text position) >>=
        fun _ => pure []) ready := rfl
  rw [performed]
  cases evaluated : value.evaluate machine.store with
  | error stop =>
      have failed : evaluate value ready = .error stop ready :=
        evaluate_of_error evaluated
      rw [bind_of_error (bind_of_error failed)]
  | ok shown =>
      have success : evaluate value ready = .ok shown ready :=
        evaluate_of_ok evaluated
      have writing : write shown.text position ready =
          match Sink.write (textBytes shown.text) machine.sink with
          | .ok _ sink => .ok () { ready with sink }
          | .error error sink =>
              .error (.failed (.channel error) position)
                { ready with sink } := rfl
      rw [bind_assoc, bind_of_ok success]
      dsimp only
      cases outcome : Sink.write (textBytes shown.text) machine.sink with
      | ok done sink =>
          rw [outcome] at writing
          rw [bind_of_ok writing]
          rfl
      | error error sink =>
          rw [outcome] at writing
          rw [bind_of_error writing]

section Step

variable {task : Task}

/-- A task in a machine whose sink never fails writes its output. -/
theorem ending_run (free : machine.sink.Free) (task : Task) :
    (ending (task.run machine)).sink =
      machine.sink.push (task.output machine.store) := by
  cases prints : task.isPrint with
  | false =>
      rw [output_of_not_print prints, (silent_run prints).ending_sink]
      simp [Sink.push]
  | true =>
      obtain ⟨address, value, position, rfl⟩ := exists_eq_print prints
      rw [run_print, output]
      cases value.evaluate machine.store with
      | error stop => simp [ending, Machine.recorded, Sink.push]
      | ok shown => simp [ending, Sink.write_of_free free]

theorem sink_of_run_ok (free : machine.sink.Free) {tasks : List Task}
    {later : Machine} (success : task.run machine = .ok tasks later) :
    later.sink = machine.sink.push (task.output machine.store) := by
  have grown := ending_run free task
  rw [success] at grown
  exact grown

theorem sink_of_run_error (free : machine.sink.Free) {stop : Stop}
    {later : Machine} (failed : task.run machine = .error stop later) :
    later.sink = machine.sink.push (task.output machine.store) := by
  have grown := ending_run free task
  rw [failed] at grown
  exact grown

/-- A task whose output fits does the same in a machine with limited room. -/
theorem run_cut (free : machine.sink.Free)
    (fits : machine.sink.written.size +
      (task.output machine.store).length ≤ limit) :
    task.run (machine.cut limit) =
      onMachine (fun later => later.cut limit) (task.run machine) := by
  cases prints : task.isPrint with
  | false => exact (silent_run prints).apply_cut machine limit
  | true =>
      obtain ⟨address, value, position, rfl⟩ := exists_eq_print prints
      have store : (machine.cut limit).store = machine.store := rfl
      have sink : (machine.cut limit).sink = machine.sink.cut limit := rfl
      rw [run_print, run_print, store, sink]
      rw [output] at fits
      cases evaluated : value.evaluate machine.store with
      | error stop => rfl
      | ok shown =>
          simp only [evaluated] at fits
          have room : ¬limit - machine.sink.written.size <
              (textBytes shown.text).length := by omega
          simp only [Sink.write_of_free free, Sink.write_cut, if_neg room]
          rfl

/-- A task whose output does not fit is a print statement, and it fails with
as much of the output as there is room for. -/
theorem run_beyond (room : machine.sink.written.size ≤ limit)
    (beyond : limit <
      machine.sink.written.size + (task.output machine.store).length) :
    ∃ address value position stopped,
      task = .perform address (.print value position) ∧
        task.run (machine.cut limit) =
          .error (.failed (.channel .sinkFull) position) stopped ∧
        stopped.sink =
          (machine.sink.push (task.output machine.store)).cut limit := by
  cases prints : task.isPrint with
  | false =>
      rw [output_of_not_print prints, List.length_nil] at beyond
      omega
  | true =>
      obtain ⟨address, value, position, rfl⟩ := exists_eq_print prints
      have store : (machine.cut limit).store = machine.store := rfl
      have sink : (machine.cut limit).sink = machine.sink.cut limit := rfl
      rw [run_print, store, sink, output]
      rw [output] at beyond
      cases evaluated : value.evaluate machine.store with
      | error stop =>
          simp only [evaluated, List.length_nil] at beyond
          omega
      | ok shown =>
          simp only [evaluated] at beyond
          have short : limit - machine.sink.written.size <
              (textBytes shown.text).length := by omega
          simp only [Sink.write_cut, if_pos short]
          exact ⟨address, value, position, _, rfl, rfl, rfl⟩

end Step

end Task

/-- The configuration with room for `limit` bytes of output only. -/
def Config.cut (config : Config) (limit : Nat) : Config :=
  ⟨config.agenda, config.machine.cut limit⟩

namespace Steps

variable {first last : Config} {trace : List Task}

theorem free (steps : Steps first trace last)
    (free : first.machine.sink.Free) : last.machine.sink.Free := by
  induction steps with
  | refl config => exact free
  | @next task tasks rest trace machine later final success _ induction =>
      apply induction
      change later.sink.Free
      rw [Task.sink_of_run_ok free success]
      exact free.push _

/-- What has been written stays. -/
theorem written_begins (steps : Steps first trace last)
    (free : first.machine.sink.Free) :
    first.machine.sink.written.toList <+:
      last.machine.sink.written.toList := by
  induction steps with
  | refl config => exact List.prefix_refl _
  | @next task tasks rest trace machine later final success _ induction =>
      have sink := Task.sink_of_run_ok free success
      have further : later.sink.written.toList <+: _ :=
        induction (by change later.sink.Free; rw [sink]; exact free.push _)
      rw [sink, Sink.written_push] at further
      exact (List.prefix_append _ _).trans further

theorem size_le (steps : Steps first trace last)
    (free : first.machine.sink.Free) :
    first.machine.sink.written.size ≤ last.machine.sink.written.size := by
  simpa using (steps.written_begins free).length_le

/-- A run whose output fits goes the same way with limited room. -/
theorem cut (steps : Steps first trace last)
    (free : first.machine.sink.Free)
    (fits : last.machine.sink.written.size ≤ limit) :
    Steps (first.cut limit) trace (last.cut limit) := by
  induction steps with
  | refl config => exact .refl _
  | @next task tasks rest trace machine later final success run induction =>
      have sink := Task.sink_of_run_ok free success
      have laterFree : later.sink.Free := by
        rw [sink]
        exact free.push _
      have size : later.sink.written.size ≤ final.machine.sink.written.size :=
        run.size_le laterFree
      rw [sink, Sink.size_push] at size
      have same := Task.run_cut free (Nat.le_trans size fits)
      rw [success] at same
      exact .next same (induction laterFree fits)

/-- A run whose output does not fit comes to a task whose output is the first
that does not. -/
theorem crosses (steps : Steps first trace last)
    (free : first.machine.sink.Free)
    (room : first.machine.sink.written.size ≤ limit)
    (beyond : limit < last.machine.sink.written.size) :
    ∃ early task others before,
      Steps first early ⟨task :: others, before⟩ ∧
        before.sink.written.size ≤ limit ∧
        limit < before.sink.written.size +
          (task.output before.store).length ∧
        before.sink.written.toList ++ task.output before.store <+:
          last.machine.sink.written.toList := by
  induction steps with
  | refl config => omega
  | @next task tasks rest trace machine later final success run induction =>
      have sink := Task.sink_of_run_ok free success
      have laterFree : later.sink.Free := by
        rw [sink]
        exact free.push _
      by_cases fits : later.sink.written.size ≤ limit
      · obtain ⟨early, crossing, others, before, further, crossed⟩ :=
          induction laterFree fits beyond
        exact ⟨task :: early, crossing, others, before,
          .next success further, crossed⟩
      · have begins := run.written_begins laterFree
        change later.sink.written.toList <+: _ at begins
        rw [sink, Sink.written_push] at begins
        rw [sink, Sink.size_push] at fits
        exact ⟨[], task, rest, machine, .refl _, room,
          Nat.lt_of_not_le fits, begins⟩

end Steps

namespace Program

variable {program : Program}

/-- An execution whose output fits is the same with limited room. -/
theorem execute_cut (free : machine.sink.Free)
    (fits : (ending (program.execute machine)).sink.written.size ≤ limit) :
    program.execute (machine.cut limit) =
      onMachine (fun later => later.cut limit) (program.execute machine) := by
  have yields := program.execute_yields machine
  cases outcome : program.execute machine with
  | ok done final =>
      rw [outcome] at yields fits
      obtain ⟨trace, steps⟩ := yields
      have same : Steps (program.start (machine.cut limit)) trace
          ⟨[], final.cut limit⟩ := steps.cut free fits
      exact execute_eq_ok_of_steps same
  | error stop final =>
      rw [outcome] at yields fits
      obtain ⟨trace, task, others, before, steps, failed⟩ := yields
      have beforeFree := steps.free free
      have sink := Task.sink_of_run_error beforeFree failed
      change final.sink.written.size ≤ limit at fits
      rw [sink, Sink.size_push] at fits
      have same : Steps (program.start (machine.cut limit)) trace
          ⟨task :: others, before.cut limit⟩ :=
        steps.cut free (Nat.le_trans (Nat.le_add_right _ _) fits)
      have failedToo := Task.run_cut beforeFree fits
      rw [failed] at failedToo
      exact execute_eq_error_of_steps same failedToo

/-- A run comes to a print statement at `position` whose output is the first
that does not fit into `limit` bytes. -/
def Overflows (program : Program) (machine : Machine) (limit : Nat)
    (position : Position) : Prop :=
  ∃ trace address value others before shown,
    Steps (program.start machine) trace
        ⟨.perform address (.print value position) :: others, before⟩ ∧
      value.evaluate before.store = .ok shown ∧
      before.sink.written.size ≤ limit ∧
      limit < before.sink.written.size + (textBytes shown.text).length

theorem free_ending_execute (free : machine.sink.Free) :
    (ending (program.execute machine)).sink.Free := by
  have yields := program.execute_yields machine
  cases outcome : program.execute machine with
  | ok done final =>
      rw [outcome] at yields
      obtain ⟨trace, steps⟩ := yields
      exact steps.free free
  | error stop final =>
      rw [outcome] at yields
      obtain ⟨trace, task, others, before, steps, failed⟩ := yields
      have beforeFree := steps.free free
      change final.sink.Free
      rw [Task.sink_of_run_error beforeFree failed]
      exact beforeFree.push _

/-- If the whole output does not fit, the execution comes to a task whose
output is the first that does not. -/
theorem exists_crossing (free : machine.sink.Free)
    (room : machine.sink.written.size ≤ limit)
    (beyond : limit < (ending (program.execute machine)).sink.written.size) :
    ∃ trace task others before,
      Steps (program.start machine) trace ⟨task :: others, before⟩ ∧
        before.sink.written.size ≤ limit ∧
        limit < before.sink.written.size +
          (task.output before.store).length ∧
        before.sink.written.toList ++ task.output before.store <+:
          (ending (program.execute machine)).sink.written.toList := by
  have yields := program.execute_yields machine
  cases outcome : program.execute machine with
  | ok done final =>
      rw [outcome] at yields beyond
      obtain ⟨trace, steps⟩ := yields
      exact steps.crosses free room beyond
  | error stop final =>
      rw [outcome] at yields beyond
      obtain ⟨trace, task, others, before, steps, failed⟩ := yields
      change limit < final.sink.written.size at beyond
      change ∃ trace task others before, _ ∧ _ ∧ _ ∧
        _ <+: final.sink.written.toList
      have sink : final.sink = _ :=
        Task.sink_of_run_error (steps.free free) failed
      rw [sink, Sink.written_push]
      rw [sink, Sink.size_push] at beyond
      by_cases fits : before.sink.written.size ≤ limit
      · exact ⟨trace, task, others, before, steps, fits, beyond,
          List.prefix_refl _⟩
      · obtain ⟨early, crossing, rest, middle, earlier, within, crossed,
          begins⟩ := steps.crosses free room (Nat.lt_of_not_le fits)
        exact ⟨early, crossing, rest, middle, earlier, within, crossed,
          begins.trans (List.prefix_append _ _)⟩

/-- Where the output first does not fit, the execution with limited room
fails, and it has written the first bytes of the whole output. -/
theorem execute_beyond (free : machine.sink.Free)
    (room : machine.sink.written.size ≤ limit)
    (beyond : limit < (ending (program.execute machine)).sink.written.size) :
    ∃ position stopped,
      program.Overflows machine limit position ∧
        program.execute (machine.cut limit) =
          .error (.failed (.channel .sinkFull) position) stopped ∧
        stopped.sink = (ending (program.execute machine)).sink.cut limit := by
  obtain ⟨trace, task, others, before, steps, fits, crossed, begins⟩ :=
    exists_crossing free room beyond
  obtain ⟨address, value, position, stopped, rfl, failed, sink⟩ :=
    Task.run_beyond fits crossed
  have same : Steps (program.start (machine.cut limit)) trace
      ⟨.perform address (.print value position) :: others,
        before.cut limit⟩ :=
    steps.cut free fits
  refine ⟨position, stopped, ?_, execute_eq_error_of_steps same failed, ?_⟩
  · rw [Task.output] at crossed
    cases evaluated : value.evaluate before.store with
    | error stop =>
        simp only [evaluated, List.length_nil] at crossed
        omega
    | ok shown =>
        simp only [evaluated] at crossed
        exact ⟨trace, address, value, others, before, shown, steps, evaluated,
          fits, crossed⟩
  · rw [sink]
    apply Sink.cut_eq_of_begins ((steps.free free).push _)
      (free_ending_execute free)
    · rwa [Sink.written_push]
    · rw [Sink.size_push]
      exact Nat.le_of_lt crossed

end Program

/-! ## The whole output of a run -/

/-- One configuration leads to another, and the tasks on the way print
`bytes`. -/
inductive Prints : Config → List UInt8 → Config → Prop where
  | refl (config : Config) : Prints config [] config
  | next {task : Task} {tasks rest : List Task} {machine later : Machine}
      {bytes : List UInt8} {final : Config} :
      task.run machine = .ok tasks later →
      Prints ⟨tasks ++ rest, later⟩ bytes final →
      Prints ⟨task :: rest, machine⟩ (task.output machine.store ++ bytes) final

/-- How a run ends whose print statements have printed `bytes`: with all of
the program done, or at a task that stops. -/
def Program.Prints (program : Program) (machine : Machine)
    (bytes : List UInt8) : EStateM.Result Stop Machine Unit → Prop
  | .ok _ final => TinyImp.Prints (program.start machine) bytes ⟨[], final⟩
  | .error stop final => ∃ task others before,
      TinyImp.Prints (program.start machine) bytes ⟨task :: others, before⟩ ∧
        task.run before = .error stop final

/-- A sink that never fails has what was printed on the way behind what it had
before. -/
theorem Steps.prints {first last : Config} {trace : List Task}
    (steps : Steps first trace last) (free : first.machine.sink.Free) :
    ∃ bytes, Prints first bytes last ∧
      last.machine.sink = first.machine.sink.push bytes := by
  induction steps with
  | refl config => exact ⟨[], .refl config, by simp [Sink.push]⟩
  | @next task tasks rest trace machine later final success _ induction =>
      have sink := Task.sink_of_run_ok free success
      have laterFree : later.sink.Free := by
        rw [sink]
        exact free.push _
      obtain ⟨bytes, prints, grown⟩ := induction laterFree
      refine ⟨_, .next success prints, ?_⟩
      rw [grown, sink, Sink.push_push]

end TinyImp
