import TinyImp.Proofs.Execution.Effect
import TinyImp.Proofs.Rephrasing.Basic

/-!
# Rephrased programs are executed alike

Two machines are alike if they have the same variables, the same input and
the same sink.  Two executions are parallel if from machines that are alike
they come to the same value, or to stops that are the same once some details
are forgotten, with machines that are alike again.  A rephrased program is
parallel to the program itself.

Only the journals may tell the two runs apart, as a statement is recorded as
it is written when it is executed.  How far they may differ is left open here:
any relation between journals will do that outlasts what is recorded.
-/

namespace TinyImp

open Execution TinyImp.Computation

variable {α β : Type} {link : Journal → Journal → Prop}
  {forget : Stop → Stop}

namespace Journal

/-- An equivalence of journals that lasts while the same events are recorded
in both of them, save for the statements that are executed. -/
structure Lasting (link : Journal → Journal → Prop) : Prop where
  equivalence : Equivalence link
  record : ∀ {left right : Journal} (event : Event), link left right →
    link (left.record event) (right.record event)
  executed : ∀ {left right : Journal} (statement other : Stmt),
    link left right →
    link (left.record (.executed statement)) (right.record (.executed other))

/-- The events other than the statements that were executed. -/
def untraced (journal : Journal) : List Event :=
  journal.events.toList.filter fun event => event.level ≠ .trace

/-- Two journals that tell the same, save for the statements that were
executed. -/
structure SameUntraced (left right : Journal) : Prop where
  threshold : left.threshold = right.threshold
  untraced : left.untraced = right.untraced

theorem threshold_record (journal : Journal) (event : Event) :
    (journal.record event).threshold = journal.threshold := by
  rw [record]
  split <;> rfl

theorem untraced_record (journal : Journal) (event : Event) :
    (journal.record event).untraced =
      journal.untraced ++
        if journal.keeps event.level ∧ event.level ≠ .trace then [event]
        else [] := by
  rw [record]
  by_cases kept : journal.keeps event.level = true
  · rw [if_pos kept]
    by_cases traced : event.level = .trace
    · simp [untraced, traced]
    · simp [untraced, kept, traced]
  · simp [kept]

theorem lasting_sameUntraced : Lasting SameUntraced where
  equivalence :=
    { refl := fun _ => ⟨rfl, rfl⟩
      symm := fun same => ⟨same.threshold.symm, same.untraced.symm⟩
      trans := fun early late =>
        ⟨early.threshold.trans late.threshold,
          early.untraced.trans late.untraced⟩ }
  record := by
    intro left right event same
    have keeps : left.keeps event.level = right.keeps event.level := by
      rw [keeps, keeps, same.threshold]
    refine ⟨?_, ?_⟩
    · rw [threshold_record, threshold_record, same.threshold]
    · rw [untraced_record, untraced_record, same.untraced, keeps]
  executed := by
    intro left right statement other same
    refine ⟨?_, ?_⟩
    · rw [threshold_record, threshold_record, same.threshold]
    · simp [untraced_record, same.untraced, Event.level]

/-- Nothing is asked of the journals. -/
theorem lasting_true : Lasting fun _ _ => True where
  equivalence := ⟨fun _ => trivial, fun _ => trivial, fun _ _ => trivial⟩
  record := fun _ _ => trivial
  executed := fun _ _ _ => trivial

end Journal

/-- Two machines that differ in their journals at most, and in these as `link`
allows. -/
structure Machine.Alike (link : Journal → Journal → Prop)
    (left right : Machine) : Prop where
  store : left.store = right.store
  input : left.input = right.input
  sink : left.sink = right.sink
  journal : link left.journal right.journal

namespace Machine.Alike

variable {left right common : Machine}

theorem refl (lasting : Journal.Lasting link) (machine : Machine) :
    machine.Alike link machine :=
  ⟨rfl, rfl, rfl, lasting.equivalence.refl machine.journal⟩

theorem join (lasting : Journal.Lasting link)
    (early : left.Alike link common) (late : right.Alike link common) :
    left.Alike link right where
  store := early.store.trans late.store.symm
  input := early.input.trans late.input.symm
  sink := early.sink.trans late.sink.symm
  journal := lasting.equivalence.trans early.journal
    (lasting.equivalence.symm late.journal)

end Machine.Alike

namespace Execution

/-- Two outcomes that are the same, save for what `forget` takes from a stop
and for the journals. -/
inductive Agree (link : Journal → Journal → Prop) (forget : Stop → Stop) :
    EStateM.Result Stop Machine α → EStateM.Result Stop Machine α →
      Prop where
  | ok {value : α} {left right : Machine} :
      left.Alike link right →
      Agree link forget (.ok value left) (.ok value right)
  | error {stop other : Stop} {left right : Machine} :
      forget stop = forget other →
      left.Alike link right →
      Agree link forget (.error stop left) (.error other right)

theorem Agree.join {first second third : EStateM.Result Stop Machine α}
    (lasting : Journal.Lasting link)
    (early : Agree link forget first third)
    (late : Agree link forget second third) :
    Agree link forget first second := by
  cases early with
  | ok leftAlike =>
      cases late with
      | ok rightAlike => exact .ok (leftAlike.join lasting rightAlike)
  | error leftSame leftAlike =>
      cases late with
      | error rightSame rightAlike =>
          exact .error (leftSame.trans rightSame.symm)
            (leftAlike.join lasting rightAlike)

/-- Two executions that agree wherever the machines are alike. -/
def Parallel (link : Journal → Journal → Prop) (forget : Stop → Stop)
    (first second : Execution α) : Prop :=
  ∀ left right, left.Alike link right →
    Agree link forget (first left) (second right)

/-- Two executions are parallel if both are to a third one. -/
theorem Parallel.join {first second third : Execution α}
    (lasting : Journal.Lasting link)
    (early : Parallel link forget first third)
    (late : Parallel link forget second third) :
    Parallel link forget first second := by
  intro left right alike
  have leftAgrees := early left right alike
  have rightAgrees := late right right (.refl lasting right)
  exact leftAgrees.join lasting rightAgrees

theorem parallel_pure (value : α) :
    Parallel link forget (pure value) (pure value) :=
  fun _ _ alike => .ok alike

theorem parallel_throw {stop other : Stop}
    (same : forget stop = forget other) :
    Parallel link forget (throw stop : Execution α) (throw other) :=
  fun _ _ alike => .error same alike

theorem Parallel.bind {first second : Execution α}
    {next other : α → Execution β}
    (early : Parallel link forget first second)
    (late : ∀ value, Parallel link forget (next value) (other value)) :
    Parallel link forget (first >>= next) (second >>= other) := by
  intro left right alike
  have agree := early left right alike
  generalize leftOutcome : first left = leftResult at agree
  generalize rightOutcome : second right = rightResult at agree
  cases agree with
  | ok alikeThen =>
      rw [bind_of_ok leftOutcome, bind_of_ok rightOutcome]
      exact late _ _ _ alikeThen
  | error same alikeThen =>
      rw [bind_of_error leftOutcome, bind_of_error rightOutcome]
      exact .error same alikeThen

theorem parallel_record (lasting : Journal.Lasting link) (event : Event) :
    Parallel link forget (record event) (record event) := by
  intro left right alike
  exact .ok ⟨alike.store, alike.input, alike.sink,
    lasting.record event alike.journal⟩

theorem parallel_executed (lasting : Journal.Lasting link)
    (statement other : Stmt) :
    Parallel link forget (record (.executed statement))
      (record (.executed other)) := by
  intro left right alike
  exact .ok ⟨alike.store, alike.input, alike.sink,
    lasting.executed statement other alike.journal⟩

theorem parallel_put (name : String) (value : Value) :
    Parallel link forget (put name value) (put name value) := by
  intro left right alike
  refine .ok ⟨?_, alike.input, alike.sink, alike.journal⟩
  exact congrArg (fun store => Bindings.set store name value) alike.store

theorem parallel_ofExcept {first second : Except Stop α}
    (same : first.mapError forget = second.mapError forget) :
    Parallel link forget (ofExcept first) (ofExcept second) := by
  cases first with
  | ok value =>
      cases second with
      | ok other =>
          cases same
          exact parallel_pure value
      | error other => cases same
  | error stop =>
      cases second with
      | ok other => cases same
      | error other => exact parallel_throw (Except.error.inj same)

/-- What is computed from the same variables. -/
theorem parallel_ofStore (compute other : Store → Except Stop α)
    (same : ∀ store, (compute store).mapError forget =
      (other store).mapError forget) :
    Parallel link forget (do ofExcept (compute (← get).store))
      (do ofExcept (other (← get).store)) := by
  intro left right alike
  have agree : Agree link forget (ofExcept (compute left.store) left)
      (ofExcept (other left.store) right) :=
    parallel_ofExcept (same left.store) left right alike
  change Agree link forget (ofExcept (compute left.store) left)
    (ofExcept (other right.store) right)
  rwa [← alike.store]

section Placed

variable {position other : Position}
  (placed : ∀ cause, forget (.failed cause position) =
    forget (.failed cause other))

include placed

theorem parallel_fail (cause : FailureCause) :
    Parallel link forget (fail cause position : Execution α)
      (fail cause other) :=
  parallel_throw (placed cause)

theorem parallel_channel (action : EStateM ChannelError Sink Unit) :
    Parallel link forget (channel action position)
      (channel action other) := by
  intro left right alike
  rw [channel, channel, ← alike.sink]
  cases action left.sink with
  | ok done sink =>
      exact .ok ⟨alike.store, alike.input, rfl, alike.journal⟩
  | error error sink =>
      exact .error (placed (.channel error))
        ⟨alike.store, alike.input, rfl, alike.journal⟩

theorem parallel_readLine :
    Parallel link forget (readLine position) (readLine other) := by
  intro left right alike
  have taken : (takeLine left).Alike link (takeLine right) :=
    ⟨alike.store, congrArg (fun input => (splitLine input).2) alike.input,
      alike.sink, alike.journal⟩
  rw [readLine_apply, readLine_apply, ← alike.input]
  cases bytesText? (splitLine left.input).1 with
  | none => exact .error (placed (.channel .notText)) taken
  | some text =>
      cases (splitLine left.input).1.isEmpty with
      | true => exact .error (placed .inputExhausted) taken
      | false => exact .ok taken

theorem parallel_readValue {target same : Ident}
    (named : target.name = same.name) (line : String) (present : Value) :
    Parallel link forget (readValue target line position present)
      (readValue same line other present) := by
  cases present with
  | int number =>
      rw [readValue, readValue]
      cases Integer.read? (Text.trim line.toList) with
      | some value => exact parallel_pure _
      | none => exact parallel_fail placed _
  | string text => exact parallel_pure _
  | bool truth =>
      rw [readValue, readValue, named]
      exact parallel_throw rfl

theorem parallel_readInto {target same : Ident}
    (named : target.name = same.name) :
    Parallel link forget (readInto target position)
      (readInto same other) := by
  rw [readInto_eq, readInto_eq]
  refine (parallel_readLine placed).bind fun line => ?_
  rw [assignLine, assignLine, named]
  refine (parallel_ofStore (fun store => store.lookup same.name)
    (fun store => store.lookup same.name) fun store => rfl).bind
      fun present => ?_
  refine (parallel_readValue placed named line present).bind fun value => ?_
  exact parallel_put same.name value

theorem parallel_demand (value : Value) :
    Parallel link forget (demand value position) (demand value other) := by
  cases value with
  | int number => exact parallel_throw rfl
  | string text => exact parallel_throw rfl
  | bool truth =>
      cases truth with
      | true => exact parallel_pure ()
      | false => exact parallel_fail placed _

end Placed

theorem parallel_forEach {body other : Integer → Execution Unit}
    (rounds : ∀ value, Parallel link forget (body value) (other value))
    (count : Nat) (index : Integer) :
    Parallel link forget (forEach body count index)
      (forEach other count index) := by
  induction count generalizing index with
  | zero => exact parallel_pure ()
  | succ count induction =>
      exact (rounds index).bind fun _ => induction index.next

end Execution

namespace Rephrasing

variable (rephrasing : Rephrasing)

theorem evaluateInt_phrase (store : Store) (expression : Expr) :
    ((rephrasing.phrase expression).evaluateInt store).mapError
        rephrasing.forget =
      (expression.evaluateInt store).mapError rephrasing.forget := by
  rw [Expr.evaluateInt, Expr.evaluateInt]
  apply mapError_bind (rephrasing.evaluate_phrase store expression)
  intro value
  cases value with
  | int number => rfl
  | string text =>
      exact congrArg Except.error (rephrasing.forget_bound _ _ _)
  | bool truth =>
      exact congrArg Except.error (rephrasing.forget_bound _ _ _)

variable {rephrasing}

theorem parallel_evaluate (expression : Expr) :
    Parallel link rephrasing.forget (evaluate expression)
      (evaluate (rephrasing.phrase expression)) :=
  parallel_ofStore (fun store => expression.evaluate store)
    (fun store => (rephrasing.phrase expression).evaluate store)
    fun store => (rephrasing.evaluate_phrase store expression).symm

theorem parallel_evaluateInt (expression : Expr) :
    Parallel link rephrasing.forget (evaluateInt expression)
      (evaluateInt (rephrasing.phrase expression)) :=
  parallel_ofStore (fun store => expression.evaluateInt store)
    (fun store => (rephrasing.phrase expression).evaluateInt store)
    fun store => (rephrasing.evaluateInt_phrase store expression).symm

theorem placed (position : Position) (cause : FailureCause) :
    rephrasing.forget (.failed cause position) =
      rephrasing.forget (.failed cause (rephrasing.place position)) :=
  (rephrasing.forget_failed cause position).symm

mutual

/-- A rephrased statement is executed alike. -/
theorem parallel_statement (lasting : Journal.Lasting link)
    (statement : Stmt) :
    Parallel link rephrasing.forget statement.execute
      (rephrasing.statement statement).execute := by
  cases statement with
  | declare name type initial position =>
      rw [statement_declare]
      cases initial with
      | none =>
          rw [Option.map_none, Stmt.execute, Stmt.execute]
          exact (parallel_pure _).bind fun value => parallel_put _ value
      | some initial =>
          rw [Option.map_some, Stmt.execute, Stmt.execute]
          exact (parallel_evaluate initial).bind fun value =>
            parallel_put _ value
  | assign target value position =>
      rw [statement_assign, Stmt.execute, Stmt.execute]
      exact (parallel_evaluate value).bind fun value => parallel_put _ value
  | loop index low high body position =>
      rw [statement_loop, Stmt.execute, Stmt.execute]
      refine (parallel_evaluateInt low).bind fun first => ?_
      refine (parallel_evaluateInt high).bind fun bound => ?_
      refine parallel_forEach (fun value => ?_) _ first
      exact (parallel_put _ _).bind fun _ => parallel_block lasting body
  | read target position =>
      rw [statement_read, Stmt.execute, Stmt.execute]
      exact parallel_readInto (placed position) rfl
  | print value position =>
      rw [statement_print, Stmt.execute, Stmt.execute]
      exact (parallel_evaluate value).bind fun shown =>
        parallel_channel (placed position) _
  | assert condition position =>
      rw [statement_assert, Stmt.execute, Stmt.execute]
      exact (parallel_evaluate condition).bind fun value =>
        parallel_demand (placed position) value

theorem parallel_block (lasting : Journal.Lasting link)
    (block : List Stmt) :
    Parallel link rephrasing.forget (Stmt.executeList block)
      (Stmt.executeList (rephrasing.program block)) := by
  cases block with
  | nil => exact parallel_pure ()
  | cons statement others =>
      rw [program_cons, Stmt.executeList, Stmt.executeList]
      refine (parallel_executed lasting _ _).bind fun _ => ?_
      refine (parallel_statement lasting statement).bind fun _ => ?_
      exact parallel_block lasting others

end

variable (rephrasing)

/-- A rephrased program is executed alike. -/
theorem parallel_execute (lasting : Journal.Lasting link)
    (program : Program) :
    Parallel link rephrasing.forget program.execute
      (rephrasing.program program).execute := by
  rw [Program.execute, Program.execute, length_program]
  exact (parallel_record lasting _).bind fun _ =>
    parallel_block lasting program

end Rephrasing

end TinyImp
