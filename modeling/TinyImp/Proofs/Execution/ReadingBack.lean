import TinyImp.Proofs.Execution.Input
import TinyImp.Proofs.Execution.Output
import TinyImp.Proofs.Numerals
import TinyImp.Proofs.Text.OneLine
import TinyImp.Proofs.Text.Trimming

/-!
# Reading back what was printed

Printing and reading have conventions of their own: an integer is printed
without a plus sign or leading zeros and read with both allowed and white space
around it, and a string is printed as it is and read up to the end of its line.
What is printed is read back all the same.  Beyond that, an integer is read
from a line if and only if the line is a numeral in range between white space.
-/

namespace TinyImp

open Execution TinyImp.Computation

/-- The bytes that a print statement writes for a value. -/
def Value.Prints (value : Value) (printed : List UInt8) : Prop :=
  ∃ (expression : Expr) (position : Position) (machine later : Machine),
    expression.evaluate machine.store = .ok value ∧
      (Stmt.print expression position).execute machine = .ok () later ∧
      later.sink = machine.sink.push printed

/-- White space within a line. -/
def Text.Blank (text : String) : Prop :=
  ∀ character ∈ text.toList,
    Text.isWhiteSpace character = true ∧ character ≠ '\n'

/-- How a line can end in front of `rest`. -/
inductive LineEnd (rest : List UInt8) : String → Prop where
  | lineFeed : LineEnd rest "\n"
  | carriageReturn : LineEnd rest "\r\n"
  | endOfInput : rest = [] → LineEnd rest ""

/-- The next line of the input is `line`, and `rest` follows it. -/
structure Machine.Offers (machine : Machine) (line : String)
    (rest : List UInt8) : Prop where
  input : machine.input = textBytes line ++ rest
  whole : WholeLines rest [textBytes line]

/-- The machine after a variable has got a value from the input, of which
`rest` is left. -/
def Machine.received (machine : Machine) (target : Ident) (value : Value)
    (rest : List UInt8) : Machine :=
  { machine with input := rest, store := machine.store.set target.name value }

/-! ## Bytes -/

theorem textBytes_append (left right : String) :
    textBytes (left ++ right) = textBytes left ++ textBytes right := by
  rw [textBytes_eq, String.toList_append, List.flatMap_append, ← textBytes_eq,
    ← textBytes_eq]

theorem bytesText?_textBytes (text : String) :
    bytesText? (textBytes text) = some text := by
  have valid : (ByteArray.mk (textBytes text).toArray).IsValidUTF8 :=
    text.isValidUTF8
  rw [bytesText?, String.fromUTF8?, dif_pos valid]
  rfl

theorem textBytes_ne_nil {text : String} (nonempty : text ≠ "") :
    textBytes text ≠ [] := by
  intro empty
  have same : bytesText? (textBytes text) = bytesText? (textBytes "") :=
    congrArg bytesText? empty
  rw [bytesText?_textBytes, bytesText?_textBytes] at same
  exact nonempty (Option.some.inj same)

namespace Sink

theorem push_injective {sink : Sink} {left right : List UInt8}
    (same : sink.push left = sink.push right) : left = right := by
  have written := congrArg (·.written.toList) same
  simp only [written_push] at written
  exact List.append_cancel_left written

end Sink

/-- A print statement writes the text of its value. -/
theorem execute_print {expression : Expr} {machine : Machine} {value : Value}
    (evaluated : expression.evaluate machine.store = .ok value)
    (position : Position) :
    (Stmt.print expression position).execute machine =
      channel (Sink.write (textBytes value.text)) position machine := by
  rw [Stmt.execute, bind_of_ok (evaluate_of_ok evaluated)]
  rfl

theorem Value.prints_text (value : Value) :
    value.Prints (textBytes value.text) := by
  let machine : Machine := { store := Bindings.empty.set "x" value }
  have evaluated : (Expr.named "x" .start).evaluate machine.store =
      .ok value := by
    change Store.lookup machine.store "x" = _
    rw [Store.lookup, Bindings.get?_set, if_pos rfl]
  refine ⟨.named "x" .start, .start, machine,
    { machine with sink := machine.sink.push (textBytes value.text) },
    evaluated, ?_, rfl⟩
  rw [execute_print evaluated, channel, Sink.write_of_free ⟨rfl, rfl⟩]

/-- What a print statement writes is the text of the value, and all of it. -/
theorem Value.Prints.eq_text {value : Value} {printed : List UInt8}
    (prints : value.Prints printed) : printed = textBytes value.text := by
  obtain ⟨expression, position, machine, later, evaluated, success, written⟩ :=
    prints
  rw [execute_print evaluated, channel, Sink.write_apply] at success
  by_cases full : (machine.sink.fitting (textBytes value.text)).length <
      (textBytes value.text).length
  · rw [if_pos full] at success
    cases success
  · rw [if_neg full] at success
    cases success
    have begins := machine.sink.fitting_begins (textBytes value.text)
    have whole := begins.eq_of_length_le (Nat.le_of_not_lt full)
    rw [Sink.push_injective written.symm, whole]

theorem Value.prints_iff {value : Value} {printed : List UInt8} :
    value.Prints printed ↔ printed = textBytes value.text := by
  constructor
  · exact Prints.eq_text
  · rintro rfl
    exact value.prints_text

/-! ## Lines -/

section Lines

variable {line rest : List UInt8}

/-- A whole line is split off from what follows it. -/
theorem splitLine_of_whole (whole : WholeLines rest [line]) :
    splitLine (line ++ rest) = (line, rest) := by
  cases whole with
  | ended ended _ => exact splitLine_of_ended ended rest
  | last _ unbroken isLast =>
      rw [isLast, List.append_nil]
      rcases splitLine_ended_or line with ⟨text, _, split⟩ | ⟨_, split⟩
      · have among : lineFeed ∈ (splitLine line).1 ++ (splitLine line).2 := by
          rw [split]
          simp
        rw [splitLine_append_rest] at among
        exact absurd among unbroken
      · exact split

theorem ne_nil_of_whole (whole : WholeLines rest [line]) : line ≠ [] := by
  intro empty
  have none := whole.eq_nil_of_flatten (by rw [List.flatten_singleton, empty])
  cases none

theorem wholeLines_of_lineEnd {body ending : String} (oneLine : OneLine body)
    (nonempty : body ++ ending ≠ "") (ends : LineEnd rest ending) :
    WholeLines rest [textBytes (body ++ ending)] := by
  have unbroken : lineFeed ∉ textBytes body := lineFeed_notMem_textBytes oneLine
  cases ends with
  | lineFeed =>
      rw [textBytes_append]
      exact .ended ⟨textBytes body, unbroken, rfl⟩ .none
  | carriageReturn =>
      rw [textBytes_append]
      refine .ended ⟨textBytes body ++ [13], ?_, ?_⟩ .none
      · have other : lineFeed ≠ 13 := by decide
        simp only [List.mem_append, List.mem_singleton, unbroken, other,
          or_self, not_false_eq_true]
      · rw [List.append_assoc]
        rfl
  | endOfInput isLast =>
      rw [String.append_empty] at nonempty ⊢
      exact .last (textBytes_ne_nil nonempty) unbroken isLast

end Lines

section Read

variable {target : Ident} {position : Position} {machine : Machine}
  {line : String} {rest : List UInt8} (offers : machine.Offers line rest)

include offers

theorem execute_read {present : Value}
    (bound : machine.store.get? target.name = some present) :
    (Stmt.read target position).execute machine =
      (readValue target line position present >>= put target.name)
        { machine with input := rest } := by
  have split := splitLine_of_whole offers.whole
  rw [← offers.input] at split
  have taken : readLine position machine = .ok line (takeLine machine) := by
    have nonempty : (textBytes line).isEmpty = false := by
      simpa using ne_nil_of_whole offers.whole
    rw [readLine_apply, split]
    simp only [bytesText?_textBytes, nonempty]
    rfl
  have looked : Execution.ofExcept (machine.store.lookup target.name)
      (takeLine machine) = .ok present (takeLine machine) := by
    rw [Store.lookup, bound]
    rfl
  have left : takeLine machine = { machine with input := rest } := by
    rw [takeLine, split]
  rw [Stmt.execute, readInto_of_line target taken, bind_of_ok looked, left]

/-- A line that is a numeral between white space is read as its integer. -/
theorem execute_read_int {present value : Integer} {core : List Char}
    (bound : machine.store.get? target.name = some (.int present))
    (trimmed : Text.Trimmed line.toList core)
    (numeral : Integer.Numeral core value.value) :
    (Stmt.read target position).execute machine =
      .ok () (machine.received target (.int value) rest) := by
  have found := Integer.read?_eq_some_iff.2 numeral
  rw [execute_read offers bound, readValue]
  simp only [trimmed.trim_eq, found]
  rfl

/-- A line that is no such numeral is refused, and only the line is lost. -/
theorem execute_read_refused {present : Integer} {core : List Char}
    (bound : machine.store.get? target.name = some (.int present))
    (trimmed : Text.Trimmed line.toList core)
    (none : ∀ value : Integer, ¬ Integer.Numeral core value.value) :
    (Stmt.read target position).execute machine =
      .error (.failed (.invalidInput (String.ofList core)) position)
        { machine with input := rest } := by
  have refused : Integer.read? core = .none := by
    cases read : Integer.read? core with
    | none => rfl
    | some value => exact absurd (Integer.read?_eq_some_iff.1 read) (none value)
  rw [execute_read offers bound, readValue]
  simp only [trimmed.trim_eq, refused]
  rfl

/-- An integer is read if and only if the line has a numeral in range. -/
theorem execute_read_ok_iff {present : Integer} {core : List Char}
    (bound : machine.store.get? target.name = some (.int present))
    (trimmed : Text.Trimmed line.toList core) :
    (∃ later, (Stmt.read target position).execute machine = .ok () later) ↔
      ∃ value : Integer, Integer.Numeral core value.value := by
  constructor
  · rintro ⟨later, succeeded⟩
    by_contra none
    rw [execute_read_refused offers bound trimmed (not_exists.1 none)]
      at succeeded
    cases succeeded
  · rintro ⟨value, numeral⟩
    exact ⟨_, execute_read_int offers bound trimmed numeral⟩

theorem execute_read_string {present : String}
    (bound : machine.store.get? target.name = some (.string present)) :
    (Stmt.read target position).execute machine =
      .ok () (machine.received target
        (.string (String.ofList (withoutLineEnd line.toList))) rest) := by
  rw [execute_read offers bound]
  rfl

end Read

/-! ## The ends of a line -/

theorem withoutLineEnd_lineFeed {text : List Char}
    (noReturn : text.getLast? ≠ some '\r') :
    withoutLineEnd (text ++ ['\n']) = text := by
  rw [← List.head?_reverse] at noReturn
  rw [withoutLineEnd, List.reverse_append, List.reverse_singleton,
    List.singleton_append]
  split
  · rename_i others same
    rw [(List.cons.inj same).2] at noReturn
    exact absurd rfl noReturn
  · rename_i others _ same
    rw [← (List.cons.inj same).2, List.reverse_reverse]
  · rename_i _ other
    exact absurd rfl (other text.reverse)

theorem withoutLineEnd_append {text ending : String}
    (noReturn : text.toList.getLast? ≠ some '\r')
    (ends : ending ∈ ["\n", "\r\n"]) :
    withoutLineEnd (text ++ ending).toList = text.toList := by
  simp only [List.mem_cons, List.not_mem_nil, or_false] at ends
  rw [String.toList_append]
  rcases ends with rfl | rfl
  · exact withoutLineEnd_lineFeed noReturn
  · simp [withoutLineEnd]

theorem LineEnd.of_mem {rest : List UInt8} {ending : String}
    (ends : ending ∈ ["\n", "\r\n"]) : LineEnd rest ending := by
  simp only [List.mem_cons, List.not_mem_nil, or_false] at ends
  rcases ends with rfl | rfl
  · exact .lineFeed
  · exact .carriageReturn

/-- There is no white space in a numeral. -/
theorem Integer.Numeral.solid {text : List Char} {number : Int}
    (numeral : Numeral text number) :
    ∀ character ∈ text, Text.isWhiteSpace character = false := by
  have ofDigits {digits : List Char} (matched : Pattern.digits.Matches digits) :
      ∀ digit ∈ digits, Text.isWhiteSpace digit = false :=
    fun digit member => Text.isWhiteSpace_of_digit (matched.2 digit member)
  cases numeral with
  | unsigned matched => exact ofDigits matched
  | positive matched =>
      exact List.forall_mem_cons.2 ⟨by decide, ofDigits matched⟩
  | negative matched =>
      exact List.forall_mem_cons.2 ⟨by decide, ofDigits matched⟩

/-! ## Reading back -/

section ReadingBack

variable {machine : Machine} {rest : List UInt8} {target : Ident}
  {position : Position} {ending : String}

theorem Text.Blank.oneLine {text : String} (blank : Text.Blank text) :
    OneLine text :=
  fun member => (blank _ member).2 rfl

theorem LineEnd.whiteSpace (ends : LineEnd rest ending) :
    ∀ character ∈ ending.toList, Text.isWhiteSpace character = true := by
  have feed : Text.isWhiteSpace '\n' = true := rfl
  have carriage : Text.isWhiteSpace '\r' = true := rfl
  cases ends with
  | lineFeed => simp [feed]
  | carriageReturn => simp [feed, carriage]
  | endOfInput _ => simp

/-- The text of an integer is read back, also between white space. -/
theorem execute_read_text {number present : Integer} {before behind : String}
    (blankBefore : Text.Blank before) (blankBehind : Text.Blank behind)
    (ends : LineEnd rest ending)
    (bound : machine.store.get? target.name = some (.int present))
    (input : machine.input =
      textBytes (before ++ number.text ++ behind ++ ending) ++ rest) :
    (Stmt.read target position).execute machine =
      .ok () (machine.received target (.int number) rest) := by
  have numeral := number.numeral_text
  have oneLine : OneLine (before ++ number.text ++ behind) := by
    rw [oneLine_append, oneLine_append]
    refine ⟨⟨blankBefore.oneLine, ?_⟩, blankBehind.oneLine⟩
    intro member
    exact absurd (numeral.solid _ member) (by decide)
  have nonempty : before ++ number.text ++ behind ++ ending ≠ "" := by
    have digits : number.text ≠ "" := by
      intro empty
      exact numeral.ne_nil (String.toList_eq_nil_iff.2 empty)
    simp [digits]
  have trimmed : Text.Trimmed
      (before ++ number.text ++ behind ++ ending).toList number.text.toList := by
    refine ⟨⟨before.toList, behind.toList ++ ending.toList, ?_, ?_, ?_⟩, ?_, ?_⟩
    · simp only [String.toList_append, List.append_assoc]
    · exact fun character member => (blankBefore character member).1
    · exact List.forall_mem_append.2
        ⟨fun character member => (blankBehind character member).1,
          ends.whiteSpace⟩
    · exact fun first isFirst => numeral.solid first (List.mem_of_head? isFirst)
    · exact fun last isLast => numeral.solid last (List.mem_of_getLast? isLast)
  exact execute_read_int
    ⟨input, wholeLines_of_lineEnd oneLine nonempty ends⟩ bound trimmed numeral

/-- A string without a line end of its own is read back from its line. -/
theorem execute_read_line {text present : String} (oneLine : OneLine text)
    (noReturn : text.toList.getLast? ≠ some '\r')
    (ends : ending ∈ ["\n", "\r\n"])
    (bound : machine.store.get? target.name = some (.string present))
    (input : machine.input = textBytes (text ++ ending) ++ rest) :
    (Stmt.read target position).execute machine =
      .ok () (machine.received target (.string text) rest) := by
  have nonempty : text ++ ending ≠ "" := by
    have more : ending ≠ "" := by
      rintro rfl
      simp at ends
    simp [more]
  have offers : machine.Offers (text ++ ending) rest :=
    ⟨input, wholeLines_of_lineEnd oneLine nonempty (.of_mem ends)⟩
  rw [execute_read_string offers bound, withoutLineEnd_append noReturn ends,
    String.ofList_toList]

end ReadingBack

/-- Reading undoes printing.  The text that is printed for an integer is read
back from a line, with or without white space around it and however the line
ends, and so is the text of a string that has no line end of its own.  Of other
lines, an integer is read from the numerals in range between white space and
from nothing else; a line that is refused is named without that white space,
and all variables stay as they are. -/
theorem Stmt.read_undoes_print (target : Ident) (position : Position)
    (machine : Machine) (rest : List UInt8) :
    (∀ (value : Value) (printed : List UInt8),
        value.Prints printed ↔ printed = textBytes value.text) ∧
      (∀ (number present : Integer) (printed : List UInt8)
          (before behind ending : String),
        (Value.int number).Prints printed →
        Text.Blank before →
        Text.Blank behind →
        LineEnd rest ending →
        machine.store.get? target.name = some (.int present) →
        machine.input = textBytes before ++ printed ++ textBytes behind ++
          textBytes ending ++ rest →
        (Stmt.read target position).execute machine =
          .ok () (machine.received target (.int number) rest)) ∧
      (∀ (text present : String) (printed : List UInt8) (ending : String),
        (Value.string text).Prints printed →
        OneLine text →
        text.toList.getLast? ≠ some '\r' →
        ending ∈ ["\n", "\r\n"] →
        machine.store.get? target.name = some (.string present) →
        machine.input = printed ++ textBytes ending ++ rest →
        (Stmt.read target position).execute machine =
          .ok () (machine.received target (.string text) rest)) ∧
      ∀ (line : String) (present : Integer),
        machine.Offers line rest →
        machine.store.get? target.name = some (.int present) →
        ∃ core, Text.Trimmed line.toList core ∧
          ((∃ later, (Stmt.read target position).execute machine =
              .ok () later) ↔
            ∃ number, Integer.Numeral core number ∧
              -9223372036854775808 ≤ number ∧
              number ≤ 9223372036854775807) ∧
          (∀ value : Integer, Integer.Numeral core value.value →
            (Stmt.read target position).execute machine =
              .ok () (machine.received target (.int value) rest)) ∧
          ((∀ later, (Stmt.read target position).execute machine ≠
              .ok () later) →
            (Stmt.read target position).execute machine =
              .error (.failed (.invalidInput (String.ofList core)) position)
                { machine with input := rest }) := by
  refine ⟨fun _ _ => Value.prints_iff, ?_, ?_, ?_⟩
  · intro number present printed before behind ending prints blankBefore
      blankBehind ends bound input
    rw [prints.eq_text, Value.text, ← textBytes_append, ← textBytes_append,
      ← textBytes_append] at input
    exact execute_read_text blankBefore blankBehind ends bound input
  · intro text present printed ending prints oneLine noReturn ends bound input
    rw [prints.eq_text, Value.text, ← textBytes_append] at input
    exact execute_read_line oneLine noReturn ends bound input
  · intro line present offers bound
    have trimmed := Text.trimmed_trim line.toList
    have succeeds : (∃ later, (Stmt.read target position).execute machine =
        .ok () later) ↔ _ := execute_read_ok_iff offers bound trimmed
    refine ⟨Text.trim line.toList, trimmed, succeeds.trans ?_, ?_, ?_⟩
    · constructor
      · rintro ⟨value, numeral⟩
        have below := value.lt_bound
        exact ⟨value.value, numeral, value.least_le, by omega⟩
      · rintro ⟨number, numeral, low, high⟩
        exact ⟨⟨number, low, by omega⟩, numeral⟩
    · exact fun value numeral => execute_read_int offers bound trimmed numeral
    · intro failed
      apply execute_read_refused offers bound trimmed
      intro value numeral
      obtain ⟨later, succeeded⟩ := succeeds.2 ⟨value, numeral⟩
      exact failed later succeeded

/-- A machine with one variable and this input. -/
def Machine.reading (present : Value) (input : String) : Machine where
  store := Bindings.empty.set "x" present
  input := textBytes input

/-- The least integer is read back between white space, and a string with a
carriage return inside it; the first integer that is too large is refused. -/
theorem Stmt.extremes_read_back :
    (∃ least : Integer, least.value = -9223372036854775808 ∧
      (Stmt.read ⟨"x", .start⟩ .start).execute
          (.reading (.int .zero) "\u00a0-9223372036854775808\t\r\n7") =
        .ok () ((Machine.reading (.int .zero)
          "\u00a0-9223372036854775808\t\r\n7").received ⟨"x", .start⟩
            (.int least) (textBytes "7"))) ∧
      (Stmt.read ⟨"x", .start⟩ .start).execute
          (.reading (.string "") "a\rb\r\n") =
        .ok () ((Machine.reading (.string "") "a\rb\r\n").received
          ⟨"x", .start⟩ (.string "a\rb") []) ∧
      (Stmt.read ⟨"x", .start⟩ .start).execute
          (.reading (.int .zero) " 9223372036854775808") =
        .error (.failed (.invalidInput "9223372036854775808") .start)
          { Machine.reading (.int .zero) " 9223372036854775808" with
            input := [] } := by
  refine ⟨?_, ?_, ?_⟩
  · let machine := Machine.reading (.int .zero)
      "\u00a0-9223372036854775808\t\r\n7"
    have space : Text.isWhiteSpace '\u00a0' = true := rfl
    have tab : Text.isWhiteSpace '\t' = true := rfl
    refine ⟨⟨-9223372036854775808, by decide, by decide⟩, rfl, ?_⟩
    exact (Stmt.read_undoes_print ⟨"x", .start⟩ .start machine
      (textBytes "7")).2.1 _ .zero _ "\u00a0" "\t" "\r\n" (Value.prints_text _)
      (by simp [Text.Blank, space]) (by simp [Text.Blank, tab])
      .carriageReturn rfl (by decide +kernel)
  · let machine := Machine.reading (.string "") "a\rb\r\n"
    exact (Stmt.read_undoes_print ⟨"x", .start⟩ .start machine
      []).2.2.1 "a\rb" "" _ "\r\n" (Value.prints_text _)
      (by decide) (by decide) (by decide) rfl (by decide +kernel)
  · let machine := Machine.reading (.int .zero) " 9223372036854775808"
    have offers : machine.Offers " 9223372036854775808" [] :=
      ⟨by decide +kernel, .last (by decide +kernel) (by decide +kernel) rfl⟩
    obtain ⟨core, trimmed, readable, _, refused⟩ :=
      (Stmt.read_undoes_print ⟨"x", .start⟩ .start machine []).2.2.2
        " 9223372036854775808" .zero offers rfl
    obtain rfl := trimmed.trim_eq
    apply refused
    intro later succeeded
    obtain ⟨number, numeral, low, high⟩ := readable.1 ⟨later, succeeded⟩
    let value : Integer := ⟨number, low, by omega⟩
    have read : Integer.read? (Text.trim " 9223372036854775808".toList) =
        some value := Integer.read?_eq_some_iff.2 numeral
    have none : Integer.read? (Text.trim " 9223372036854775808".toList) =
        .none := by decide
    rw [none] at read
    cases read

end TinyImp
