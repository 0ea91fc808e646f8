import TinyImp.Proofs.Token.Tiling
import TinyImp.Text.Blank

/-!
# Texts without the white space at their ends

Trimming takes white space away from both ends of a text and nothing else, and
leaves a text that neither begins nor ends with any.
-/

namespace TinyImp.Text

/-- What is left of a text without the white space at its two ends. -/
structure Trimmed (text core : List Char) : Prop where
  framed : ∃ before behind, text = before ++ (core ++ behind) ∧
    (∀ character ∈ before, isWhiteSpace character = true) ∧
    ∀ character ∈ behind, isWhiteSpace character = true
  opens : ∀ first ∈ core.head?, isWhiteSpace first = false
  closes : ∀ last ∈ core.getLast?, isWhiteSpace last = false

/-- No visible character of the first block is white space. -/
theorem isWhiteSpace_of_visible {character : Char}
    (low : 33 ≤ character.toNat) (high : character.toNat ≤ 126) :
    isWhiteSpace character = false := by
  simp [isWhiteSpace, whiteSpace, Ranges.contains]
  omega

theorem isWhiteSpace_of_digit {digit : Char} (isDigit : digit.isDigit = true) :
    isWhiteSpace digit = false := by
  have bounds := Bool.and_eq_true_iff.1 isDigit
  have low : 48 ≤ digit.toNat := of_decide_eq_true bounds.1
  have high : digit.toNat ≤ 57 := of_decide_eq_true bounds.2
  exact isWhiteSpace_of_visible (by omega) (by omega)

theorem dropWhile_eq_self {text : List Char}
    (opens : ∀ first ∈ text.head?, isWhiteSpace first = false) :
    text.dropWhile isWhiteSpace = text := by
  cases text with
  | nil => rfl
  | cons first others =>
      apply List.dropWhile_cons_of_neg
      rw [opens first rfl]
      exact Bool.false_ne_true

theorem trimEnd_append {text behind : List Char}
    (closes : ∀ last ∈ text.getLast?, isWhiteSpace last = false)
    (blank : ∀ character ∈ behind, isWhiteSpace character = true) :
    trimEnd (text ++ behind) = text := by
  have blankReversed : ∀ character ∈ behind.reverse,
      isWhiteSpace character = true := by
    intro character member
    exact blank character (List.mem_reverse.1 member)
  rw [← List.head?_reverse] at closes
  rw [trimEnd, List.reverse_append,
    List.dropWhile_append_of_pos blankReversed, dropWhile_eq_self closes,
    List.reverse_reverse]

theorem trimEnd_append_rest (text : List Char) :
    trimEnd text ++ (text.reverse.takeWhile isWhiteSpace).reverse = text := by
  rw [trimEnd, ← List.reverse_append, List.takeWhile_append_dropWhile,
    List.reverse_reverse]

theorem Trimmed.trim_eq {text core : List Char} (trimmed : Trimmed text core) :
    trim text = core := by
  obtain ⟨⟨before, behind, rfl, blankBefore, blankBehind⟩, opens, closes⟩ :=
    trimmed
  rw [trim, List.dropWhile_append_of_pos blankBefore]
  cases core with
  | nil =>
      have nothing : (behind ++ []).dropWhile isWhiteSpace = [] :=
        List.dropWhile_append_of_pos blankBehind
      rw [List.append_nil] at nothing
      rw [List.nil_append, nothing]
      rfl
  | cons first others =>
      have kept : (first :: others ++ behind).dropWhile isWhiteSpace =
          first :: others ++ behind := dropWhile_eq_self opens
      rw [kept, trimEnd_append closes blankBehind]

theorem trimmed_trim (text : List Char) : Trimmed text (trim text) := by
  let opened := text.dropWhile isWhiteSpace
  refine ⟨⟨text.takeWhile isWhiteSpace,
    (opened.reverse.takeWhile isWhiteSpace).reverse, ?_, ?_, ?_⟩, ?_, ?_⟩
  · rw [trim, trimEnd_append_rest, List.takeWhile_append_dropWhile]
  · exact List.all_eq_true.1 List.all_takeWhile
  · intro character member
    exact List.all_eq_true.1 List.all_takeWhile character
      (List.mem_reverse.1 member)
  · -- What is left begins as the text does behind its first white space.
    intro first isFirst
    have begins : (trimEnd opened).head? = some first := isFirst
    have same : first ∈ opened.head? := by
      rw [← trimEnd_append_rest opened, List.head?_append, begins]
      rfl
    exact Lexeme.head?_dropWhile same
  · intro last isLast
    rw [trim, trimEnd, List.getLast?_reverse] at isLast
    exact Lexeme.head?_dropWhile isLast

end TinyImp.Text
