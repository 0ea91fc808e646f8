import TinyImp.Proofs.Job.Stages

/-!
# Jobs with limited room for output

A sink with limited room only cuts off the output of a job.  What the stages
find does not depend on the sink, so lines about problems are cut off and
nothing else.  A program that prints no more than there is room for comes to
its usual end; otherwise it fails at the print statement that passes the
limit, and the line about that failure finds no room.
-/

namespace TinyImp

variable {limit : Nat}

namespace Outlet

variable {bounded free : Outlet}

theorem emit_cut (freeSink : free.sink.Free)
    (same : bounded.sink = free.sink.cut limit) (line : String) :
    (bounded.emit line).sink = (free.emit line).sink.cut limit := by
  have flushes : bounded.sink.flushes = true := by
    rw [same]
    exact freeSink.flushing
  rw [emit_sink flushes, same, Sink.push_fitting_cut,
    emit_sink_of_free freeSink]

/-- After one line that did not fit, no further line leaks into the sink. -/
theorem emits_cut (freeSink : free.sink.Free)
    (same : bounded.sink = free.sink.cut limit)
    (problems : List Diagnostic) :
    (problems.foldl (fun outlet problem => outlet.emit problem.line)
        bounded).sink =
      (problems.foldl (fun outlet problem => outlet.emit problem.line)
        free).sink.cut limit := by
  induction problems generalizing bounded free with
  | nil => exact same
  | cons problem problems induction =>
      have later := emit_free freeSink problem.line
      have sameLater := emit_cut freeSink same problem.line
      rw [List.foldl_cons, List.foldl_cons]
      exact induction later sameLater

end Outlet

namespace Job

open Execution

theorem reject_cut {sink : Sink} (free : sink.Free) (stage : Stage)
    (problems : List Diagnostic) (journal : Journal) :
    (reject stage problems ⟨sink.cut limit, journal⟩).outlet.sink =
      (reject stage problems ⟨sink, journal⟩).outlet.sink.cut limit :=
  Outlet.emits_cut free rfl problems

theorem conclude_cut {result : EStateM.Result Stop Machine Unit}
    (free : (ending result).sink.Free) :
    (conclude (onMachine (fun later => later.cut limit) result)).verdict =
        (conclude result).verdict ∧
      (conclude (onMachine (fun later => later.cut limit) result)
          ).outlet.sink =
        (conclude result).outlet.sink.cut limit := by
  cases result with
  | ok done final => exact ⟨rfl, rfl⟩
  | error stop final =>
      cases stop with
      | fault fault => exact ⟨rfl, rfl⟩
      | failure failure =>
          let outlet : Outlet :=
            ⟨final.sink, final.journal.record (.stopped failure)⟩
          have same : (Outlet.mk (final.cut limit).sink
              ((final.cut limit).journal.record (.stopped failure))).sink =
            outlet.sink.cut limit := rfl
          have outletFree : outlet.sink.Free := free
          have emitted := Outlet.emit_cut outletFree same failure.line
          rw [onMachine, conclude_failure, conclude_failure]
          exact ⟨rfl, emitted⟩

/-- At its end a job adds to what the program has printed. -/
theorem exists_conclude_push {result : EStateM.Result Stop Machine Unit}
    (free : (ending result).sink.Free) :
    ∃ bytes, (conclude result).outlet.sink =
      (ending result).sink.push bytes := by
  cases result with
  | ok done final => exact ⟨[], by simp [conclude, ending, Sink.push]⟩
  | error stop final =>
      cases stop with
      | fault fault => exact ⟨[], by simp [conclude, ending, Sink.push]⟩
      | failure failure => exact ⟨_, conclude_failure_sink free failure⟩

section Launch

variable {program : Program} {machine : Machine}

/-- A program whose output fits ends a job as it does with room for all. -/
theorem conclude_cut_of_fits (free : machine.sink.Free)
    (fits : (ending (program.execute machine)).sink.written.size ≤ limit) :
    (conclude (program.execute (machine.cut limit))).verdict =
        (conclude (program.execute machine)).verdict ∧
      (conclude (program.execute (machine.cut limit))).outlet.sink =
        (conclude (program.execute machine)).outlet.sink.cut limit := by
  rw [Program.execute_cut free fits]
  exact conclude_cut (Program.free_ending_execute free)

/-- A program whose output does not fit fails, and what the job would have
added to the whole output has no part in what is written. -/
theorem conclude_cut_of_beyond (free : machine.sink.Free)
    (room : machine.sink.written.size ≤ limit)
    (beyond : limit < (ending (program.execute machine)).sink.written.size) :
    (∃ position, program.Overflows machine limit position ∧
      (conclude (program.execute (machine.cut limit))).verdict =
        .ok (.failed ⟨.channel .sinkFull, position⟩)) ∧
      (conclude (program.execute (machine.cut limit))).outlet.sink =
        (conclude (program.execute machine)).outlet.sink.cut limit := by
  obtain ⟨position, stopped, overflows, failed, sink⟩ :=
    Program.execute_beyond free room beyond
  have endingFree : (ending (program.execute machine)).sink.Free :=
    Program.free_ending_execute free
  obtain ⟨added, wholeSink⟩ := exists_conclude_push endingFree
  generalize program.execute machine = result at *
  have unmoved (bytes : List UInt8) :
      ((ending result).sink.push bytes).cut limit =
        (ending result).sink.cut limit := by
    symm
    apply Sink.cut_eq_of_begins endingFree (endingFree.push bytes)
    · rw [Sink.written_push]
      exact List.prefix_append _ _
    · exact Nat.le_of_lt beyond
  rw [failed]
  refine ⟨⟨position, overflows, rfl⟩, ?_⟩
  let whole : Outlet := ⟨(ending result).sink, stopped.journal⟩
  have line : (conclude (.error (.failed (.channel .sinkFull) position)
      stopped)).outlet.sink = (whole.emit _).sink.cut limit :=
    Outlet.emit_cut endingFree sink _
  rw [line, Outlet.emit_sink_of_free endingFree, unmoved, wholeSink, unmoved]

theorem flushes_execute_cut (free : machine.sink.Free)
    (room : machine.sink.written.size ≤ limit) :
    (ending (program.execute (machine.cut limit))).sink.flushes = true := by
  have endingFree : (ending (program.execute machine)).sink.Free :=
    Program.free_ending_execute free
  by_cases fits :
      (ending (program.execute machine)).sink.written.size ≤ limit
  · rw [Program.execute_cut free fits]
    cases outcome : program.execute machine with
    | ok done final => exact (outcome ▸ endingFree).flushing
    | error stop final => exact (outcome ▸ endingFree).flushing
  · obtain ⟨position, stopped, _, failed, sink⟩ :=
      Program.execute_beyond free room (Nat.lt_of_not_le fits)
    rw [failed]
    change stopped.sink.flushes = true
    rw [sink]
    exact endingFree.flushing

end Launch

theorem run_of_clean_cut {job : Job} (clean : job.Clean)
    (input : List UInt8) (journal : Journal) (limit : Nat) :
    job.run input ⟨({} : Sink).cut limit, journal⟩ =
      conclude (job.program.execute
        ((job.machine input journal).cut limit)) := by
  have shape : (job.machine input journal).cut limit =
      { input, sink := ({} : Sink).cut limit,
        journal := job.typesJournal journal } := rfl
  have flushes : (ending (job.program.execute
      ((job.machine input journal).cut limit))).sink.flushes = true :=
    flushes_execute_cut (job.machine_free input journal) (Nat.zero_le limit)
  rw [shape] at flushes ⊢
  rw [run_of_clean clean, launch_eq_conclude flushes]

theorem printed_begins {job : Job} (clean : job.Clean)
    (input : List UInt8) (journal : Journal) :
    job.printed input journal <+:
      (job.run input { journal }).outlet.sink.written.toList := by
  obtain ⟨added, sink⟩ := exists_conclude_push
    (Program.free_ending_execute (job.machine_free input journal))
  rw [printed_of_clean clean, run_of_clean_free clean, sink,
    Sink.written_push]
  exact List.prefix_append _ _

/-- A job with room for `limit` bytes of output writes the first `limit` bytes
of what it would write.  Its verdict is the same if the program prints no more
than that; otherwise the program fails at the print statement whose output is
the first that does not fit. -/
theorem run_truncates (job : Job) (input : List UInt8) (journal : Journal)
    (limit : Nat) :
    let free := job.run input { journal }
    let bounded :=
      job.run input { sink := { capacity := some limit }, journal }
    job.printed input journal <+: free.outlet.sink.written.toList ∧
      bounded.outlet.sink.written.toList =
        free.outlet.sink.written.toList.take limit ∧
      ((job.printed input journal).length ≤ limit →
        bounded.verdict = free.verdict) ∧
      (limit < (job.printed input journal).length →
        job.Clean ∧ ∃ position,
          job.program.Overflows (job.machine input journal) limit position ∧
            bounded.verdict =
              .ok (.failed ⟨.channel .sinkFull, position⟩)) := by
  have free : ({} : Sink).Free := ⟨rfl, rfl⟩
  have small : ({ capacity := some limit } : Sink) = ({} : Sink).cut limit := by
    simp [Sink.cut]
  intro unlimited bounded
  simp only [unlimited, bounded, small]
  rcases job.finds_or_clean with ⟨stage, problems, finds⟩ | clean
  · obtain ⟨later, rejected⟩ := run_of_finds finds journal
    rw [rejected, rejected, printed_of_finds finds, reject_cut free]
    rw [Sink.written_cut]
    refine ⟨List.nil_prefix, rfl, fun _ => rfl, fun beyond => ?_⟩
    exact absurd beyond (Nat.not_lt_zero limit)
  · have machineFree := job.machine_free input journal
    have begins := printed_begins clean input journal
    rw [run_of_clean_free clean] at begins ⊢
    rw [run_of_clean_cut clean]
    refine ⟨begins, ?_⟩
    rw [printed_of_clean clean, Array.length_toList]
    by_cases fits : (ending (job.program.execute
        (job.machine input journal))).sink.written.size ≤ limit
    · obtain ⟨verdict, sink⟩ := conclude_cut_of_fits machineFree fits
      rw [sink, Sink.written_cut]
      refine ⟨rfl, fun _ => verdict, fun beyond => ?_⟩
      exact absurd beyond (Nat.not_lt.2 fits)
    · obtain ⟨failed, sink⟩ := conclude_cut_of_beyond machineFree
        (Nat.zero_le limit) (Nat.lt_of_not_le fits)
      rw [sink, Sink.written_cut]
      exact ⟨rfl, fun within => absurd within fits, fun _ => ⟨clean, failed⟩⟩

/-- A program that prints one byte and then three. -/
def growingOutput : Job where
  source := "print 1; print \"two\"; assert (1 = 2);"

theorem growingOutput_truncated :
    2 < (growingOutput.printed [] {}).length ∧
      ∃ position,
        (growingOutput.run [] { sink := { capacity := some 2 } }).verdict =
          .ok (.failed ⟨.channel .sinkFull, position⟩) := by
  have beyond : 2 < (growingOutput.printed [] {}).length := by decide +kernel
  obtain ⟨_, _, _, failed⟩ := run_truncates growingOutput [] {} 2
  obtain ⟨_, position, _, verdict⟩ := failed beyond
  exact ⟨beyond, position, verdict⟩

end Job

end TinyImp
