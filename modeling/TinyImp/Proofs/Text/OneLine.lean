import TinyImp.Execution.Failure
import TinyImp.Grammar.Production
import TinyImp.Proofs.Tree.Naming
import TinyImp.Token.Lexeme

/-!
# Texts of one line

No message has a line feed in it.  Characters and texts that come from outside
are shown quoted, and quoting writes a line feed as two other characters; a
name or a row of digits has none to begin with.  In bytes a line feed is the
byte ten and no other character has that byte, so the lines of an output can
be told apart by it.
-/

namespace TinyImp

/-- A text without a line feed. -/
def OneLine (text : String) : Prop :=
  '\n' ∉ text.toList

instance (text : String) : Decidable (OneLine text) :=
  inferInstanceAs (Decidable ('\n' ∉ text.toList))

@[simp]
theorem oneLine_append {left right : String} :
    OneLine (left ++ right) ↔ OneLine left ∧ OneLine right := by
  simp [OneLine]

@[simp]
theorem oneLine_toString {text : String} :
    OneLine (toString text) ↔ OneLine text :=
  Iff.rfl

@[simp]
theorem oneLine_ofList {characters : List Char} :
    OneLine (String.ofList characters) ↔ '\n' ∉ characters := by
  simp [OneLine]

theorem digitChar_ne_lineFeed (digit : Nat) : digit.digitChar ≠ '\n' := by
  by_cases small : digit < 16
  · have each : ∀ digit < 16, Nat.digitChar digit ≠ '\n' := by decide
    exact each digit small
  · simp (disch := omega) only [Nat.digitChar, if_neg]
    decide

theorem lineFeed_notMem_toDigits {base : Nat} (large : 1 < base)
    (number : Nat) : '\n' ∉ Nat.toDigits base number := by
  induction number using Nat.strongRecOn with
  | ind number induction =>
      rw [Nat.toDigits_eq_if large]
      split
      · simp [(digitChar_ne_lineFeed number).symm]
      · have smaller : number / base < number :=
          Nat.div_lt_self (by omega) large
        simp [induction _ smaller, (digitChar_ne_lineFeed _).symm]

@[simp]
theorem oneLine_repr (number : Nat) : OneLine number.repr := by
  simp [OneLine, lineFeed_notMem_toDigits]

namespace Text

theorem lineFeed_notMem_escaped (character : Char) :
    '\n' ∉ escaped character := by
  have codePoint : '\n' ∉ byCodePoint character := by
    simp [byCodePoint, hexDigits, lineFeed_notMem_toDigits]
  unfold escaped
  split
  · decide
  split
  · decide
  split
  · decide
  split
  · decide
  rename_i other
  split
  · decide
  split
  · simpa using fun same => other same.symm
  · exact codePoint

theorem lineFeed_notMem_escapedAlone (character : Char) :
    '\n' ∉ escapedAlone character := by
  unfold escapedAlone
  split
  · rename_i mark
    rcases mark with rfl | rfl <;> decide
  · exact lineFeed_notMem_escaped character

theorem lineFeed_notMem_escapedWithin (character : Char) :
    '\n' ∉ escapedWithin character := by
  unfold escapedWithin
  split
  · decide
  · exact lineFeed_notMem_escaped character

/-- A quoted text is of one line, whatever the text is. -/
@[simp]
theorem oneLine_quoted (text : String) : OneLine (quoted text) := by
  rw [quoted, oneLine_ofList]
  simp [lineFeed_notMem_escapedWithin]

end Text

@[simp]
theorem Position.oneLine_text (position : Position) :
    OneLine position.text := by
  simp +decide [Position.text]

@[simp]
theorem TokenKind.oneLine_name (kind : TokenKind) : OneLine kind.name := by
  cases kind <;> simp [TokenKind.name, OneLine]

@[simp]
theorem Ty.oneLine_name (type : Ty) : OneLine type.name := by
  cases type <;> decide

@[simp]
theorem BinaryOp.oneLine_name (operator : BinaryOp) :
    OneLine operator.name := by
  cases operator <;> decide

@[simp]
theorem Stage.oneLine_name (stage : Stage) : OneLine stage.name := by
  cases stage <;> decide

@[simp]
theorem Expected.oneLine_text (expected : Expected) :
    OneLine expected.text := by
  cases expected with
  | token kind => exact kind.oneLine_name
  | statement | type | operand | ident => decide

@[simp]
theorem ChannelError.oneLine_message (error : ChannelError) :
    OneLine error.message := by
  cases error <;> decide

@[simp]
theorem FailureCause.oneLine_message (cause : FailureCause) :
    OneLine cause.message := by
  unfold FailureCause.message
  cases cause <;> simp +decide

/-- The line about a failure is of one line, whatever was given as input. -/
theorem Failure.oneLine_line (failure : Failure) : OneLine failure.line := by
  simp +decide [Failure.line]

theorem Diagnostic.oneLine_line {diagnostic : Diagnostic}
    (message : OneLine diagnostic.message) : OneLine diagnostic.line := by
  simp +decide [Diagnostic.line, message]

/-- The message about a flaw is of one line unless it shows a text that is
not: only digits are shown as they stand. -/
theorem Flaw.oneLine_message (flaw : Flaw) {text : List Char}
    (digits : flaw = .leadingZero ∨ flaw = .outOfRange → '\n' ∉ text) :
    OneLine (flaw.message text) := by
  unfold Flaw.message
  cases flaw with
  | unrecognized =>
      cases text with
      | nil => decide
      | cons character others =>
          simp +decide [Text.lineFeed_notMem_escapedAlone]
  | leadingZero => simp +decide [digits (.inl rfl)]
  | outOfRange => simp +decide [digits (.inr rfl)]
  | unterminatedString | unterminatedComment => simp +decide

theorem Mismatch.oneLine_message (mismatch : Mismatch)
    (found : ∀ message, mismatch.found.kind = .invalid message →
      OneLine message) :
    OneLine mismatch.diagnostic.message := by
  unfold Mismatch.diagnostic
  split
  · rename_i message kind
    exact found message kind
  · simp +decide

theorem ScopeError.oneLine_message {error : ScopeError}
    (name : OneLine error.name) : OneLine error.message := by
  unfold ScopeError.message
  split <;> simp +decide [name]

theorem TypeRule.oneLine_message {rule : TypeRule}
    (names : ∀ name ∈ rule.names, OneLine name) : OneLine rule.message := by
  unfold TypeRule.message
  cases rule with
  | assigned name _ _ | readTarget name _ =>
      have named := names name List.mem_cons_self
      simp +decide [named]
  | negated _ | unmatched _ _ _ | operand _ _ | index _ | lowerBound _
  | upperBound _ | condition _ => simp +decide

/-! ## Lines in bytes -/

theorem textBytes_eq (text : String) :
    textBytes text = text.toList.flatMap String.utf8EncodeChar := by
  have encoded : text.toByteArray = text.toList.utf8Encode := by
    rw [← String.toByteArray_ofList, String.ofList_toList]
  rw [textBytes, String.toUTF8, encoded, List.utf8Encode]
  simp

/-- No character but the line feed is written with its byte: all others of a
single byte have another one, and longer ones have only bytes from 128 on. -/
theorem eq_lineFeed_of_mem {character : Char}
    (member : 10 ∈ String.utf8EncodeChar character) : character = '\n' := by
  have lineFeed : (10 : UInt8).toNat = 10 := rfl
  have codePoint : character.val.toNat = 10 := by
    simp only [String.utf8EncodeChar] at member
    repeat' split at member
    all_goals
      simp only [List.mem_cons, List.not_mem_nil, or_false,
        ← UInt8.toNat_inj, UInt8.toNat_ofNat'] at member
      omega
  exact Char.ext (UInt32.toNat_inj.1 codePoint)

theorem lineFeed_notMem_textBytes {text : String} (oneLine : OneLine text) :
    10 ∉ textBytes text := by
  rw [textBytes_eq]
  intro member
  obtain ⟨character, inText, inBytes⟩ := List.mem_flatMap.1 member
  rw [eq_lineFeed_of_mem inBytes] at inText
  exact oneLine inText

end TinyImp
