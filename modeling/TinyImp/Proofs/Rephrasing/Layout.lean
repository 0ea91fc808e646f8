import TinyImp.Proofs.Grammar.Relocation
import TinyImp.Proofs.Job.Stages
import TinyImp.Proofs.Rephrasing.Judging
import TinyImp.Proofs.Rephrasing.Running

/-!
# Layout

Where a token stands decides nothing: places are only ever reported.  Two
streams of tokens of the same kinds are read as the same program up to its
places.  From there on the two programs have the same symbols and the same
problems up to places, and they run alike.  So two sources that differ in
their layout only print the same.
-/

namespace TinyImp

open Execution

/-- Every place is forgotten by taking the start for it. -/
def Position.toStart (_ : Position) : Position :=
  .start

def Program.unplaced (program : Program) : Program :=
  program.relocate Position.toStart

def SymbolTable.unplaced (symbols : SymbolTable) : SymbolTable :=
  symbols.relocate Position.toStart

def Diagnostic.unplaced (diagnostic : Diagnostic) : Diagnostic :=
  { diagnostic with position := .start }

def Stop.unplaced : Stop → Stop
  | .failure ⟨cause, _⟩ => .failure ⟨cause, .start⟩
  | .fault broken => .fault broken.unplaced

section Moving

variable (place : Position → Position)

theorem Expr.scopeErrors_relocate (symbols : SymbolTable)
    (expression : Expr) :
    (expression.relocate place).scopeErrors (symbols.relocate place) =
      (expression.scopeErrors symbols).map (ScopeError.relocate place) := by
  induction expression with
  | number value position => rfl
  | text value position => rfl
  | named name position => exact symbols.use_relocate name position
  | lone operand position induction => exact induction
  | negation operand position induction => exact induction
  | binary operator left right position leftInduction rightInduction =>
      rw [relocate, scopeErrors, leftInduction, rightInduction, scopeErrors,
        List.map_append]

theorem Expr.infer_relocate (symbols : SymbolTable) (expression : Expr) :
    (expression.relocate place).infer (symbols.relocate place) =
      (expression.infer symbols).relocate place := by
  induction expression with
  | number value position => rfl
  | text value position => rfl
  | named name position => exact symbols.declaredType_relocate name
  | lone operand position induction => exact induction
  | negation operand position induction =>
      simp only [relocate, infer, induction, Checked.relocate_bind,
        Checked.relocate_require, Checked.relocate_pure]
  | binary operator left right position leftInduction rightInduction =>
      simp only [relocate, infer, leftInduction, rightInduction,
        Checked.relocate_bind, Checked.relocate_require,
        Checked.relocate_pure]

theorem Value.ofResult_unplaced (result : Option Integer)
    (position other : Position) :
    (ofResult result position).mapError Stop.unplaced =
      (ofResult result other).mapError Stop.unplaced := by
  cases result <;> rfl

/-- An operator gives the same wherever it stands. -/
theorem BinaryOp.apply_unplaced (operator : BinaryOp) (left right : Value)
    (position other : Position) :
    (operator.apply left right position).mapError Stop.unplaced =
      (operator.apply left right other).mapError Stop.unplaced := by
  rw [apply.eq_def operator left right position]
  split
  · exact Value.ofResult_unplaced _ _ _
  · rfl
  · exact Value.ofResult_unplaced _ _ _
  · exact Value.ofResult_unplaced _ _ _
  · rw [apply]
    split
    · rfl
    · exact Value.ofResult_unplaced _ _ _
  · rfl
  · rfl
  · rfl
  · rw [apply]
    all_goals assumption

theorem Expr.evaluate_relocate (store : Store) (expression : Expr) :
    ((expression.relocate place).evaluate store).mapError Stop.unplaced =
      (expression.evaluate store).mapError Stop.unplaced := by
  induction expression with
  | number value position => rfl
  | text value position => rfl
  | named name position => rfl
  | lone operand position induction => exact induction
  | negation operand position induction =>
      exact mapError_bind induction fun value => rfl
  | binary operator left right position leftInduction rightInduction =>
      refine mapError_bind leftInduction fun leftValue => ?_
      refine mapError_bind rightInduction fun rightValue => ?_
      exact operator.apply_unplaced leftValue rightValue _ _

/-- The same program at other places. -/
def Rephrasing.moving : Rephrasing where
  place := place
  phrase := Expr.relocate place
  forget := Stop.unplaced
  scopeErrors_phrase := Expr.scopeErrors_relocate place
  infer_phrase := Expr.infer_relocate place
  evaluate_phrase := Expr.evaluate_relocate place
  forget_failed := fun _ _ => rfl
  forget_bound := fun _ _ _ => rfl

end Moving

/-- Problems that are the same once their places are forgotten are reported as
the same up to their places. -/
theorem Diagnostic.map_unplaced {α : Type} {move : α → α}
    {diagnostic : α → Diagnostic}
    (moved : ∀ problem, diagnostic (move problem) =
      (diagnostic problem).unplaced)
    {left right : List α} (same : left.map move = right.map move) :
    (left.map diagnostic).map unplaced =
      (right.map diagnostic).map unplaced := by
  have reported := congrArg (List.map diagnostic) same
  simpa only [List.map_map, Function.comp_def, moved] using reported

theorem ScopeError.diagnostic_relocate (error : ScopeError) :
    (error.relocate Position.toStart).diagnostic =
      error.diagnostic.unplaced :=
  rfl

theorem TypeError.diagnostic_relocate (error : TypeError) :
    (error.relocate Position.toStart).diagnostic =
      error.diagnostic.unplaced :=
  rfl

theorem Mismatch.diagnostic_relocate (mismatch : Mismatch) :
    (mismatch.relocate Position.toStart).diagnostic =
      mismatch.diagnostic.unplaced := by
  obtain ⟨expected, kind, position⟩ := mismatch
  cases kind <;> rfl

namespace Program

/-- What two programs have in common that differ in their places only. -/
structure TreatedAlike (left right : Program) : Prop where
  symbols : left.scoping.symbols.unplaced = right.scoping.symbols.unplaced
  scopeErrors :
    (left.scoping.errors.map ScopeError.diagnostic).map
        Diagnostic.unplaced =
      (right.scoping.errors.map ScopeError.diagnostic).map
        Diagnostic.unplaced
  typeErrors :
    ((left.check left.scoping.symbols).errors.map TypeError.diagnostic).map
        Diagnostic.unplaced =
      ((right.check right.scoping.symbols).errors.map TypeError.diagnostic
        ).map Diagnostic.unplaced
  typing : (left.check left.scoping.symbols).result =
    (right.check right.scoping.symbols).result
  execution : ∀ machine, Agree Journal.SameUntraced Stop.unplaced
    (left.execute machine) (right.execute machine)

variable {left right : Program} (same : left.unplaced = right.unplaced)

include same

theorem scoping_sameUnplaced :
    left.scoping.relocate Position.toStart =
      right.scoping.relocate Position.toStart := by
  let moving := Rephrasing.moving Position.toStart
  have leftMoved : left.unplaced.scoping = _ := moving.scoping_program left
  have rightMoved : right.unplaced.scoping = _ := moving.scoping_program right
  rw [same, rightMoved] at leftMoved
  exact leftMoved.symm

theorem check_sameUnplaced :
    (left.check left.scoping.symbols).relocate Position.toStart =
      (right.check right.scoping.symbols).relocate Position.toStart := by
  let moving := Rephrasing.moving Position.toStart
  have table : left.scoping.symbols.unplaced =
      right.scoping.symbols.unplaced :=
    congrArg Scoping.symbols (scoping_sameUnplaced same)
  have leftMoved :
      left.unplaced.check left.scoping.symbols.unplaced = _ :=
    moving.check_program left.scoping.symbols left
  have rightMoved :
      right.unplaced.check right.scoping.symbols.unplaced = _ :=
    moving.check_program right.scoping.symbols right
  rw [same, table, rightMoved] at leftMoved
  exact leftMoved.symm

theorem parallel_execute_sameUnplaced {link : Journal → Journal → Prop}
    (lasting : Journal.Lasting link) :
    Parallel link Stop.unplaced left.execute right.execute := by
  -- Both run alongside the one program that is left without any places.
  let moving := Rephrasing.moving Position.toStart
  have leftParallel : Parallel link Stop.unplaced left.execute
      left.unplaced.execute := moving.parallel_execute lasting left
  have rightParallel : Parallel link Stop.unplaced right.execute
      right.unplaced.execute := moving.parallel_execute lasting right
  rw [← same] at rightParallel
  exact leftParallel.join lasting rightParallel

theorem parallel_complete_sameUnplaced {link : Journal → Journal → Prop}
    (lasting : Journal.Lasting link) :
    Parallel link Stop.unplaced left.complete right.complete :=
  (parallel_execute_sameUnplaced same lasting).bind fun _ =>
    parallel_channel (fun _ => rfl) Sink.flush

/-- Two programs that differ in their places only are treated alike. -/
theorem treatedAlike : left.TreatedAlike right where
  symbols := congrArg Scoping.symbols (scoping_sameUnplaced same)
  scopeErrors :=
    Diagnostic.map_unplaced ScopeError.diagnostic_relocate
      (congrArg Scoping.errors (scoping_sameUnplaced same))
  typeErrors :=
    Diagnostic.map_unplaced TypeError.diagnostic_relocate
      (congrArg Checked.errors (check_sameUnplaced same))
  typing := congrArg (fun checked => checked.result) (check_sameUnplaced same)
  execution := by
    intro machine
    have lasting := Journal.lasting_sameUntraced
    exact parallel_execute_sameUnplaced same lasting machine machine
      (.refl lasting machine)

end Program

section SameKinds

variable {left right : List Token}
  (same : left.map Token.kind = right.map Token.kind)

include same

theorem Token.map_relocate_toStart :
    left.map (Token.relocate Position.toStart) =
      right.map (Token.relocate Position.toStart) := by
  have rebuilt (tokens : List Token) :
      tokens.map (Token.relocate Position.toStart) =
        (tokens.map Token.kind).map fun kind => ⟨kind, .start⟩ := by
    rw [List.map_map]
    rfl
  rw [rebuilt, rebuilt, same]

theorem Program.read_sameKinds :
    (read left).1.unplaced = (read right).1.unplaced ∧
      (diagnostics left).map Diagnostic.unplaced =
        (diagnostics right).map Diagnostic.unplaced := by
  have begins : Position.toStart .start = .start := rfl
  have leftRead := read_relocate begins left
  have rightRead := read_relocate begins right
  rw [Token.map_relocate_toStart same, rightRead] at leftRead
  refine ⟨(congrArg Prod.fst leftRead).symm, ?_⟩
  exact Diagnostic.map_unplaced Mismatch.diagnostic_relocate
    (congrArg Prod.snd leftRead).symm

end SameKinds

namespace Job

variable {input : List UInt8} {sink : Sink} {journal other : Journal}
  {first second : Job}
  (same : (Token.scan first.source).map Token.kind =
    (Token.scan second.source).map Token.kind)

include same

theorem clean_of_sameKinds (clean : first.Clean) : second.Clean := by
  obtain ⟨programs, problems⟩ := Program.read_sameKinds same
  have alike := Program.treatedAlike programs
  have nothing {left right : List Diagnostic} (found : left = [])
      (same : left.map Diagnostic.unplaced =
        right.map Diagnostic.unplaced) : right = [] := by
    rw [found] at same
    exact List.map_eq_nil_iff.1 same.symm
  exact ⟨nothing clean.grammar problems, nothing clean.scope alike.scopeErrors,
    nothing clean.typing alike.typeErrors⟩

/-- A job that succeeds also succeeds with another layout, and prints the
same. -/
theorem run_of_sameKinds
    (success : (first.run input ⟨sink, journal⟩).verdict = .ok .success) :
    (second.run input ⟨sink, other⟩).verdict = .ok .success ∧
      (second.run input ⟨sink, other⟩).outlet.sink =
        (first.run input ⟨sink, journal⟩).outlet.sink := by
  have clean := clean_of_success success
  have cleanToo := clean_of_sameKinds same clean
  rw [run_of_clean clean] at success ⊢
  rw [run_of_clean cleanToo]
  obtain ⟨later, completed⟩ := completed_of_launch success
  -- The two journals tell of different sources, so nothing is asked of them.
  have programs := (Program.read_sameKinds same).1
  have agree := Program.parallel_complete_sameUnplaced programs
    Journal.lasting_true
    { input, sink, journal := first.typesJournal journal }
    { input, sink, journal := second.typesJournal other }
    ⟨rfl, rfl, rfl, trivial⟩
  rw [← program, completed, ← program] at agree
  generalize completedToo : second.program.complete _ = outcome at agree
  cases agree with
  | ok alike =>
      rw [launch_of_completed completed, launch_of_completed completedToo]
      exact ⟨rfl, alike.sink.symm⟩

end Job

namespace Program

/-- Where tokens stand has no part in how they are read, judged and executed,
and two sources of tokens of the same kinds print the same. -/
theorem layout_irrelevant :
    (∀ left right : List Token, left.map Token.kind = right.map Token.kind →
      (read left).1.unplaced = (read right).1.unplaced ∧
        (diagnostics left).map Diagnostic.unplaced =
          (diagnostics right).map Diagnostic.unplaced ∧
        (read left).1.TreatedAlike (read right).1) ∧
    ∀ (first second : Job) (input : List UInt8) (sink : Sink)
      (journal other : Journal),
      (Token.scan first.source).map Token.kind =
        (Token.scan second.source).map Token.kind →
      (first.run input ⟨sink, journal⟩).verdict = .ok .success →
      (second.run input ⟨sink, other⟩).verdict = .ok .success ∧
        (second.run input ⟨sink, other⟩).outlet.sink =
          (first.run input ⟨sink, journal⟩).outlet.sink := by
  refine ⟨?_, ?_⟩
  · intro left right same
    obtain ⟨programs, problems⟩ := read_sameKinds same
    exact ⟨programs, problems, treatedAlike programs⟩
  · intro first second input sink journal other same success
    exact Job.run_of_sameKinds same success

end Program

/-- A source on one line. -/
def Job.oneLine : Job where
  source := "var a : int; read a; print a + 1;"

/-- The same tokens over several lines, with comments between them. -/
def Job.spreadOut : Job where
  source := "var a\n  : int; // a number\nread a;\nprint a /* and */ + 1\n;"

theorem Program.spreadOut_alike :
    (read (Token.scan Job.oneLine.source)).1.TreatedAlike
        (read (Token.scan Job.spreadOut.source)).1 ∧
      (Job.spreadOut.run (textBytes "41\n") {}).outlet.sink =
        (Job.oneLine.run (textBytes "41\n") {}).outlet.sink := by
  have kinds : (Token.scan Job.oneLine.source).map Token.kind =
      (Token.scan Job.spreadOut.source).map Token.kind := by decide +kernel
  have ended : (Job.oneLine.run (textBytes "41\n") {}).verdict.toOption =
      some .success := by decide +kernel
  have success : (Job.oneLine.run (textBytes "41\n") {}).verdict =
      .ok .success := by
    cases verdict : (Job.oneLine.run (textBytes "41\n") {}).verdict with
    | ok verdict =>
        rw [verdict] at ended
        exact congrArg Except.ok (Option.some.inj ended)
    | error fault =>
        rw [verdict] at ended
        cases ended
  exact ⟨(layout_irrelevant.1 _ _ kinds).2.2,
    (layout_irrelevant.2 .oneLine .spreadOut _ {} {} {} kinds success).2⟩

end TinyImp
