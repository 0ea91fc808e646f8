import TinyImp.Job
import TinyImp.Proofs.Execution.Output
import TinyImp.Proofs.Grammar.Acceptance
import TinyImp.Proofs.Typing.Decision

/-!
# Stages of a job

What each stage finds depends on the source alone.  If nothing is found in the
names of a program, the judgement of its types comes to its end, so there is
no fault before the program runs.  A job therefore ends with what the first
stage finds that finds anything, or launches the program.
-/

namespace TinyImp

namespace Job

/-- The program that is read from the source. -/
def program (job : Job) : Program :=
  (Program.read (Token.scan job.source)).1

/-- What is found while the source is read. -/
def grammarProblems (job : Job) : List Diagnostic :=
  Program.diagnostics (Token.scan job.source)

/-- What is found about the names of the program. -/
def scopeProblems (job : Job) : List Diagnostic :=
  job.program.scoping.errors.map ScopeError.diagnostic

/-- What is found about the types of the program. -/
def typeProblems (job : Job) : List Diagnostic :=
  (job.program.check job.program.scoping.symbols).errors.map
    TypeError.diagnostic

/-- No stage finds anything. -/
structure Clean (job : Job) : Prop where
  grammar : job.grammarProblems = []
  scope : job.scopeProblems = []
  typing : job.typeProblems = []

instance (job : Job) : Decidable job.Clean :=
  decidable_of_iff (job.grammarProblems = [] ∧ job.scopeProblems = [] ∧
    job.typeProblems = [])
    ⟨fun ⟨grammar, scope, typing⟩ => ⟨grammar, scope, typing⟩,
      fun clean => ⟨clean.grammar, clean.scope, clean.typing⟩⟩

/-- What the first stage finds that finds anything. -/
inductive Finds (job : Job) : Stage → List Diagnostic → Prop where
  | grammar :
      job.grammarProblems ≠ [] →
      Finds job (readingStage job.grammarProblems) job.grammarProblems
  | scope :
      job.grammarProblems = [] →
      job.scopeProblems ≠ [] →
      Finds job .scope job.scopeProblems
  | typing :
      job.grammarProblems = [] →
      job.scopeProblems = [] →
      job.typeProblems ≠ [] →
      Finds job .typing job.typeProblems

/-- The journal after the source has been read. -/
def readJournal (job : Job) (journal : Journal) : Journal :=
  (journal.record (.running job.name job.source.utf8ByteSize)).record
    (.grammarJudged job.program.length job.grammarProblems.length)

/-- The journal after the names have been judged. -/
def namesJournal (job : Job) (journal : Journal) : Journal :=
  (job.readJournal journal).record
    (.namesJudged job.program.scoping.symbols.size job.scopeProblems.length)

/-- The journal after the types have been judged, with which the program is
launched. -/
def typesJournal (job : Job) (journal : Journal) : Journal :=
  (job.namesJournal journal).record (.typesJudged job.typeProblems.length)

variable {job : Job}

theorem finds_or_clean (job : Job) :
    (∃ stage problems, job.Finds stage problems) ∨ job.Clean := by
  by_cases grammar : job.grammarProblems = []
  · by_cases scope : job.scopeProblems = []
    · by_cases typing : job.typeProblems = []
      · exact .inr ⟨grammar, scope, typing⟩
      · exact .inl ⟨_, _, .typing grammar scope typing⟩
    · exact .inl ⟨_, _, .scope grammar scope⟩
  · exact .inl ⟨_, _, .grammar grammar⟩

theorem run_apply (job : Job) (journal : Journal) (input : List UInt8)
    (sink : Sink) :
    job.run input ⟨sink, journal⟩ =
      if job.grammarProblems = [] then
        judgeNames job.program input ⟨sink, job.readJournal journal⟩
      else reject (readingStage job.grammarProblems) job.grammarProblems
        ⟨sink, job.readJournal journal⟩ := by
  simp only [run, grammarProblems, Program.diagnostics, readJournal,
    Outlet.record, List.isEmpty_iff, List.map_eq_nil_iff, List.length_map]
  rfl

theorem judgeNames_apply (job : Job) (journal : Journal)
    (input : List UInt8) (sink : Sink) :
    judgeNames job.program input ⟨sink, job.readJournal journal⟩ =
      if job.scopeProblems = [] then
        judgeTypes job.program job.program.scoping.symbols input
          ⟨sink, job.namesJournal journal⟩
      else reject .scope job.scopeProblems
        ⟨sink, job.namesJournal journal⟩ := by
  simp only [judgeNames, scopeProblems, namesJournal, Outlet.record,
    List.isEmpty_iff, List.map_eq_nil_iff, List.length_map]

theorem judgeTypes_apply (named : job.scopeProblems = [])
    (journal : Journal) (input : List UInt8) (sink : Sink) :
    judgeTypes job.program job.program.scoping.symbols input
        ⟨sink, job.namesJournal journal⟩ =
      if job.typeProblems = [] then
        launch job.program input ⟨sink, job.typesJournal journal⟩
      else reject .typing job.typeProblems
        ⟨sink, job.typesJournal journal⟩ := by
  have ended := Program.check_result_of_scoped (List.map_eq_nil_iff.1 named)
  simp only [judgeTypes, ended, typeProblems, typesJournal, Outlet.record,
    List.isEmpty_iff, List.map_eq_nil_iff, List.length_map]

/-- The first stage that finds anything ends the job, whatever the input. -/
theorem run_of_finds {stage : Stage} {problems : List Diagnostic}
    (finds : job.Finds stage problems) (journal : Journal) :
    ∃ later, ∀ input sink,
      job.run input ⟨sink, journal⟩ = reject stage problems ⟨sink, later⟩ := by
  cases finds with
  | grammar found =>
      refine ⟨job.readJournal journal, fun input sink => ?_⟩
      rw [run_apply, if_neg found]
  | scope read found =>
      refine ⟨job.namesJournal journal, fun input sink => ?_⟩
      rw [run_apply, if_pos read, judgeNames_apply, if_neg found]
  | typing read named found =>
      refine ⟨job.typesJournal journal, fun input sink => ?_⟩
      rw [run_apply, if_pos read, judgeNames_apply, if_pos named,
        judgeTypes_apply named, if_neg found]

/-- A program in which nothing is found is launched. -/
theorem run_of_clean (clean : job.Clean) (journal : Journal)
    (input : List UInt8) (sink : Sink) :
    job.run input ⟨sink, journal⟩ =
      launch job.program input ⟨sink, job.typesJournal journal⟩ := by
  rw [run_apply, if_pos clean.grammar, judgeNames_apply, if_pos clean.scope,
    judgeTypes_apply clean.scope, if_pos clean.typing]

section Success

variable {input : List UInt8} {sink : Sink} {journal : Journal}

theorem launch_of_completed {program : Program} {later : Machine}
    (completed : program.complete { input, sink, journal } = .ok () later) :
    launch program input ⟨sink, journal⟩ =
      ⟨.ok .success, ⟨later.sink, later.journal⟩⟩ := by
  simp only [launch, completed]

theorem completed_of_launch {program : Program}
    (success : (launch program input ⟨sink, journal⟩).verdict =
      .ok .success) :
    ∃ later, program.complete { input, sink, journal } = .ok () later := by
  rw [launch] at success
  split at success
  · exact ⟨_, by assumption⟩
  · cases success
  · cases success

theorem clean_of_success {job : Job}
    (success : (job.run input ⟨sink, journal⟩).verdict = .ok .success) :
    job.Clean := by
  rcases job.finds_or_clean with ⟨stage, problems, finds⟩ | clean
  · obtain ⟨later, rejected⟩ := run_of_finds finds journal
    rw [rejected] at success
    cases success
  · exact clean

end Success

/-- The machine that the program of a job starts on, with room for all that it
prints. -/
def machine (job : Job) (input : List UInt8) (journal : Journal) : Machine :=
  { input, journal := job.typesJournal journal }

/-- What the print statements of the program write, if it is launched at
all. -/
def printed (job : Job) (input : List UInt8) (journal : Journal) :
    List UInt8 :=
  if job.Clean then
    (Execution.ending (job.program.execute (job.machine input journal))
      ).sink.written.toList
  else []

end Job

theorem Sink.flush_of_flushes {sink : Sink} (flushes : sink.flushes = true) :
    flush sink = .ok () sink := by
  change (if (!sink.flushes) = true then throw .flushRefused
    else pure () : EStateM ChannelError Sink Unit) sink = _
  rw [flushes]
  rfl

namespace Outlet

variable {outlet : Outlet}

/-- The bytes of a line of its own. -/
def lineBytes (line : String) : List UInt8 :=
  textBytes (line ++ "\n")

theorem write_flush {sink : Sink} (flushes : sink.flushes = true)
    (bytes : List UInt8) :
    (Sink.write bytes >>= fun _ => Sink.flush) sink =
      if (sink.fitting bytes).length < bytes.length then
        .error .sinkFull (sink.push (sink.fitting bytes))
      else .ok () (sink.push (sink.fitting bytes)) := by
  have outcome := Sink.write_apply bytes sink
  by_cases short : (sink.fitting bytes).length < bytes.length
  · rw [if_pos short] at outcome
    rw [Computation.bind_of_error outcome, if_pos short]
  · rw [if_neg short] at outcome
    rw [Computation.bind_of_ok outcome, if_neg short]
    exact Sink.flush_of_flushes flushes

/-- A line is written as far as there is room for it. -/
theorem emit_sink (flushes : outlet.sink.flushes = true) (line : String) :
    (outlet.emit line).sink =
      outlet.sink.push (outlet.sink.fitting (lineBytes line)) := by
  have written := write_flush flushes (lineBytes line)
  rw [lineBytes] at written ⊢
  split at written
  · simp only [emit, written, record]
  · simp only [emit, written]

/-- A sink that never fails takes the whole of a line. -/
theorem emit_sink_of_free (free : outlet.sink.Free) (line : String) :
    (outlet.emit line).sink = outlet.sink.push (lineBytes line) := by
  rw [emit_sink free.flushing, Sink.fitting_of_free free]

theorem emit_free (free : outlet.sink.Free) (line : String) :
    (outlet.emit line).sink.Free := by
  rw [emit_sink_of_free free]
  exact free.push _

end Outlet

namespace Job

variable {job : Job}

theorem complete_of_flushes {program : Program} {machine : Machine}
    (flushes :
      (Execution.ending (program.execute machine)).sink.flushes = true) :
    program.complete machine = program.execute machine := by
  rw [Program.complete]
  cases outcome : program.execute machine with
  | error stop final => rw [Computation.bind_of_error outcome]
  | ok done final =>
      have flushed : final.sink.flush = .ok () final.sink := by
        rw [outcome] at flushes
        exact Sink.flush_of_flushes flushes
      rw [Computation.bind_of_ok outcome, Execution.flush, Execution.channel,
        flushed]

/-- How a job ends whose program has been executed. -/
def conclude : EStateM.Result Stop Machine Unit → Ending
  | .ok _ machine => ⟨.ok .success, ⟨machine.sink, machine.journal⟩⟩
  | .error (.failure failure) machine =>
      ⟨.ok (.failed failure),
        (Outlet.mk machine.sink (machine.journal.record (.stopped failure))
          ).emit failure.line⟩
  | .error (.fault fault) machine =>
      ⟨.error fault, ⟨machine.sink, machine.journal⟩⟩

theorem conclude_failure (failure : Failure) (machine : Machine) :
    conclude (.error (.failure failure) machine) =
      ⟨.ok (.failed failure),
        (Outlet.mk machine.sink (machine.journal.record (.stopped failure))
          ).emit failure.line⟩ :=
  rfl

/-- A failure adds its line to what the program has written. -/
theorem conclude_failure_sink {machine : Machine}
    (free : machine.sink.Free) (failure : Failure) :
    (conclude (.error (.failure failure) machine)).outlet.sink =
      machine.sink.push (Outlet.lineBytes failure.line) := by
  let outlet : Outlet :=
    ⟨machine.sink, machine.journal.record (.stopped failure)⟩
  have outletFree : outlet.sink.Free := free
  rw [conclude_failure]
  exact Outlet.emit_sink_of_free outletFree failure.line

theorem launch_eq_conclude {program : Program} {input : List UInt8}
    {sink : Sink} {journal : Journal}
    (flushes : (Execution.ending
      (program.execute { input, sink, journal })).sink.flushes = true) :
    launch program input ⟨sink, journal⟩ =
      conclude (program.execute { input, sink, journal }) := by
  rw [launch, complete_of_flushes flushes]
  split <;> simp [conclude, *, Outlet.record]

theorem printed_of_finds {stage : Stage} {problems : List Diagnostic}
    (finds : job.Finds stage problems) (input : List UInt8)
    (journal : Journal) : job.printed input journal = [] := by
  refine if_neg fun clean => ?_
  cases finds with
  | grammar found => exact found clean.grammar
  | scope _ found => exact found clean.scope
  | typing _ _ found => exact found clean.typing

theorem printed_of_clean (clean : job.Clean) (input : List UInt8)
    (journal : Journal) :
    job.printed input journal =
      (Execution.ending (job.program.execute (job.machine input journal))
        ).sink.written.toList :=
  if_pos clean

theorem machine_free (job : Job) (input : List UInt8) (journal : Journal) :
    (job.machine input journal).sink.Free :=
  ⟨rfl, rfl⟩

/-- A job in which nothing is found ends as the execution of its program
does. -/
theorem run_of_clean_free (clean : job.Clean) (input : List UInt8)
    (journal : Journal) :
    job.run input { journal } =
      conclude (job.program.execute (job.machine input journal)) := by
  have free : (Execution.ending
      (job.program.execute (job.machine input journal))).sink.Free :=
    Program.free_ending_execute (job.machine_free input journal)
  rw [machine] at free ⊢
  rw [run_of_clean clean, launch_eq_conclude free.flushing]

end Job

end TinyImp
