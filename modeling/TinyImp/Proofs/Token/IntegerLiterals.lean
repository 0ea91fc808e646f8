import TinyImp.Proofs.Token.Tiling

/-!
# Integer literals

Digits up to where none follows are one lexeme, whatever they are.  It is the
literal of their number unless it has a leading zero or the number is out of
range, and of these two flaws the leading zero comes first.
-/

namespace TinyImp

open Integer

namespace Lexeme

variable {digits rest : List Char}

/-- The kind of token that digits in a row are. -/
inductive NumberKind (digits : List Char) : TokenKind → Prop where
  | literal {value : Integer} :
      ¬ LeadingZero digits →
      value.value = placeValue digits →
      NumberKind digits (.intLiteral value)
  | leadingZero :
      LeadingZero digits →
      NumberKind digits
        (.invalid s!"integer literal {String.ofList digits} has a leading zero")
  | outOfRange :
      ¬ LeadingZero digits →
      9223372036854775807 < placeValue digits →
      NumberKind digits
        (.invalid s!"integer literal {String.ofList digits} is out of range")

theorem exists_numberKind (all : ∀ digit ∈ digits, digit.isDigit = true) :
    ∃ kind, (number digits).kind? = some kind ∧ NumberKind digits kind := by
  rcases number_cases all with
    ⟨zero, cut⟩ | ⟨noZero, ⟨value, exactly, cut⟩ | ⟨above, cut⟩⟩
  · rw [cut]
    exact ⟨_, rfl, .leadingZero zero⟩
  · rw [cut]
    exact ⟨_, rfl, .literal noZero exactly⟩
  · rw [cut]
    exact ⟨_, rfl, .outOfRange noZero above⟩

/-- All digits up to where none follows are the first lexeme. -/
theorem lexemes_digits (run : DigitRun digits rest) :
    lexemes (digits ++ rest) = number digits :: lexemes rest := by
  obtain ⟨head, tail, rfl, digit⟩ := run.head
  obtain ⟨⟨_, all⟩, whole⟩ := run
  have stops : rest.takeWhile Char.isDigit = [] := by
    cases rest with
    | nil => rfl
    | cons next others =>
        apply List.takeWhile_cons_of_neg
        rw [whole next rfl]
        exact Bool.false_ne_true
  have taken : (tail ++ rest).takeWhile Char.isDigit = tail := by
    rw [List.takeWhile_append_of_pos (List.forall_mem_cons.1 all).2, stops,
      List.append_nil]
  have cut : first head (tail ++ rest) = number (head :: tail) := by
    rw [first_of_digit digit, taken]
  rw [List.cons_append, lexemes_cons, cut, behind_of_text cut rfl]

theorem leadingZero_message_ne (digits : String) :
    s!"integer literal {digits} has a leading zero" ≠
      s!"integer literal {digits} is out of range" := by
  intro same
  have ending : " has a leading zero" = " is out of range" :=
    (String.append_right_inj _).1 same
  exact absurd ending (by decide)

namespace NumberKind

variable {kind : TokenKind} (numberKind : NumberKind digits kind)

include numberKind

theorem literal_iff :
    (∃ value, kind = .intLiteral value) ↔
      ¬ LeadingZero digits ∧ placeValue digits ≤ 9223372036854775807 := by
  cases numberKind with
  | @literal value plain exactly =>
      have below := value.lt_bound
      exact ⟨fun _ => ⟨plain, by omega⟩, fun _ => ⟨value, rfl⟩⟩
  | leadingZero zero => simp [zero]
  | outOfRange plain above => simp [above]

theorem leadingZero_iff :
    kind = .invalid
        s!"integer literal {String.ofList digits} has a leading zero" ↔
      LeadingZero digits := by
  cases numberKind with
  | literal plain exactly => simp [plain]
  | leadingZero zero => simp [zero]
  | outOfRange plain above =>
      rw [TokenKind.invalid.injEq]
      exact ⟨fun same => absurd same.symm (leadingZero_message_ne _),
        fun zero => absurd zero plain⟩

theorem outOfRange_iff :
    kind = .invalid
        s!"integer literal {String.ofList digits} is out of range" ↔
      ¬ (¬ LeadingZero digits ∧ placeValue digits ≤ 9223372036854775807) ∧
        ¬ LeadingZero digits := by
  cases numberKind with
  | @literal value plain exactly =>
      have below := value.lt_bound
      have inRange : placeValue digits ≤ 9223372036854775807 := by omega
      simp [plain, inRange]
  | leadingZero zero =>
      rw [TokenKind.invalid.injEq]
      exact ⟨fun same => absurd same (leadingZero_message_ne _),
        fun given => absurd zero given.2⟩
  | outOfRange plain above => simp [plain, above]

end NumberKind

/-- A row of digits has no leading zero if it is a zero alone or begins with
another digit. -/
theorem not_leadingZero_iff (nonempty : digits ≠ []) :
    ¬ LeadingZero digits ↔ digits = ['0'] ∨ digits.head? ≠ some '0' := by
  cases digits with
  | nil => exact absurd rfl nonempty
  | cons head tail =>
      cases tail with
      | nil => simp [LeadingZero, em]
      | cons second others => simp [LeadingZero]

end Lexeme

namespace Token

open Lexeme

/-- Digits up to where none follows are scanned as one token, and what follows
them as if it stood alone.  The token is the literal of their number if this is
in range and they have no leading zero; it is a flaw that names them if they
have one, in range or not, and another flaw otherwise. -/
theorem scan_digits_first (digits rest : String)
    (run : DigitRun digits.toList rest.toList) :
    ∃ lexeme kind others,
      lexemes (digits ++ rest).toList = lexeme :: lexemes rest.toList ∧
        lexeme.text = digits.toList ∧ lexeme.kind? = some kind ∧
        scan (digits ++ rest) = ⟨kind, .start⟩ :: others ∧
        others.map Token.kind = (scan rest).map Token.kind ∧
        ((∃ value, kind = .intLiteral value) ↔
          (digits = "0" ∨ digits.toList.head? ≠ some '0') ∧
            placeValue digits.toList ≤ 9223372036854775807) ∧
        (∀ value, kind = .intLiteral value →
          value.value = placeValue digits.toList) ∧
        (kind = .invalid s!"integer literal {digits} has a leading zero" ↔
          1 < digits.length ∧ digits.toList.head? = some '0') ∧
        (kind = .invalid s!"integer literal {digits} is out of range" ↔
          ¬ ((digits = "0" ∨ digits.toList.head? ≠ some '0') ∧
              placeValue digits.toList ≤ 9223372036854775807) ∧
            ¬ (1 < digits.length ∧ digits.toList.head? = some '0')) := by
  have text : (digits ++ rest).toList = digits.toList ++ rest.toList :=
    String.toList_append
  have cut := lexemes_digits run
  obtain ⟨kind, given, numberKind⟩ := exists_numberKind run.matched.2
  have scanned : scan (digits ++ rest) = ⟨kind, .start⟩ ::
      ofLexemes (Position.start.past digits.toList) (lexemes rest.toList) := by
    rw [scan, text, cut, ofLexemes_cons, tokensAt, given]
    rfl
  have zeroAlone : digits = "0" ↔ digits.toList = ['0'] :=
    String.toList_inj.symm
  have tooLarge := numberKind.outOfRange_iff
  have zeroLed := numberKind.leadingZero_iff
  rw [String.ofList_toList] at tooLarge zeroLed
  rw [zeroAlone, ← not_leadingZero_iff run.matched.1, ← String.length_toList,
    ← leadingZero_iff, text]
  refine ⟨_, kind, _, cut, rfl, given, scanned, ?_, numberKind.literal_iff, ?_,
    zeroLed, tooLarge⟩
  · rw [scan, map_kind_ofLexemes, map_kind_ofLexemes]
  · rintro value rfl
    cases numberKind with
    | literal _ exactly => exact exactly

/-- The last number in range, the first that is too large, and the same with a
leading zero, each in front of a range. -/
theorem scan_around_limit :
    (∃ value others,
        scan ("9223372036854775807" ++ "..7") =
            ⟨.intLiteral value, .start⟩ :: others ∧
          value.value = 9223372036854775807 ∧
          others.map Token.kind = (scan "..7").map Token.kind) ∧
      (∃ others,
        scan ("9223372036854775808" ++ "..7") =
            ⟨.invalid "integer literal 9223372036854775808 is out of range",
              .start⟩ :: others ∧
          others.map Token.kind = (scan "..7").map Token.kind) ∧
      ∃ others,
        scan ("09223372036854775808" ++ "..7") =
            ⟨.invalid
              "integer literal 09223372036854775808 has a leading zero",
              .start⟩ :: others ∧
          others.map Token.kind = (scan "..7").map Token.kind := by
  refine ⟨?_, ?_, ?_⟩
  · obtain ⟨_, _, others, _, _, _, scanned, kinds, inRange, exactly, _⟩ :=
      scan_digits_first "9223372036854775807" "..7"
        ⟨⟨by decide, by simp⟩, by simp⟩
    obtain ⟨value, rfl⟩ := inRange.2 (by decide)
    exact ⟨value, others, scanned, exactly value rfl, kinds⟩
  · obtain ⟨_, _, others, _, _, _, scanned, kinds, _, _, _, tooLarge⟩ :=
      scan_digits_first "9223372036854775808" "..7"
        ⟨⟨by decide, by simp⟩, by simp⟩
    rw [tooLarge.2 (by decide)] at scanned
    exact ⟨others, scanned, kinds⟩
  · obtain ⟨_, _, others, _, _, _, scanned, kinds, _, _, zeroLed, _⟩ :=
      scan_digits_first "09223372036854775808" "..7"
        ⟨⟨by decide, by simp⟩, by simp⟩
    rw [zeroLed.2 (by decide)] at scanned
    exact ⟨others, scanned, kinds⟩

end Token

end TinyImp
