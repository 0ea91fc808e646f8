import Mathlib.Data.List.Induction
import TinyImp.Proofs.Token.Lines
import TinyImp.Report.Span

/-!
# Offsets, positions and spans

A place in a text can be given by its offset in bytes, by its position or by
the number of characters before it.  A position is found from an offset in a
table of the bytes at which lines begin, or character by character on the way
through the text: both give the same.  The span of a position counts the
characters of whole lines before it, and leads back to the character that the
position came from.
-/

namespace TinyImp

/-- The number of bytes of a text. -/
def byteSize (text : List Char) : Nat :=
  (String.ofList text).utf8ByteSize

/-- The characters of a text that begins at the byte `offset`, each with the
byte at which it begins. -/
def withOffsets (offset : Nat) : List Char → List (Nat × Char)
  | [] => []
  | head :: tail => (offset, head) :: withOffsets (offset + head.utf8Size) tail

/-- The bytes at which lines begin, if a line begins behind each of these line
feeds. -/
def startsBehind (characters : List (Nat × Char)) : List Nat :=
  (characters.filter (·.2 == '\n')).map (·.1 + 1)

/-- The bytes at which the lines of a text begin. -/
def lineStarts (text : List Char) : List Nat :=
  0 :: startsBehind (withOffsets 0 text)

/-- The position of a byte, found in the table of the lines: the last line that
begins no later than there, and as many columns as characters of the line
begin before it. -/
def Position.ofOffset (source : List Char) (offset : Nat) : Position :=
  let starts := lineStarts source
  let line := (starts.takeWhile (· ≤ offset)).length
  let lineStart := starts.getD (line - 1) 0
  ⟨line, (withOffsets 0 source).countP
    (fun entry => lineStart ≤ entry.1 && entry.1 < offset) + 1⟩

/-! ## Sizes in bytes -/

theorem byteSize_append (left right : List Char) :
    byteSize (left ++ right) = byteSize left + byteSize right := by
  rw [byteSize, String.ofList_append, String.utf8ByteSize_append]
  rfl

theorem byteSize_singleton (character : Char) :
    byteSize [character] = character.utf8Size := by
  rw [byteSize, ← String.singleton_eq_ofList, String.utf8ByteSize_singleton]

theorem byteSize_cons (head : Char) (tail : List Char) :
    byteSize (head :: tail) = head.utf8Size + byteSize tail := by
  rw [← List.singleton_append, byteSize_append, byteSize_singleton]

theorem withOffsets_append (offset : Nat) (left right : List Char) :
    withOffsets offset (left ++ right) =
      withOffsets offset left ++ withOffsets (offset + byteSize left) right := by
  induction left generalizing offset with
  | nil => rfl
  | cons head tail induction =>
      rw [List.cons_append, withOffsets, withOffsets, induction, byteSize_cons,
        Nat.add_assoc, List.cons_append]

theorem bounds_of_mem_withOffsets {offset : Nat} {text : List Char}
    {entry : Nat × Char} (member : entry ∈ withOffsets offset text) :
    offset ≤ entry.1 ∧ entry.1 < offset + byteSize text := by
  induction text generalizing offset with
  | nil => cases member
  | cons head tail induction =>
      have positive := head.utf8Size_pos
      rw [byteSize_cons]
      rcases List.mem_cons.1 member with rfl | later
      · exact ⟨Nat.le_refl offset, by dsimp only; omega⟩
      · have bounds := induction later
        omega

theorem startsBehind_append (left right : List (Nat × Char)) :
    startsBehind (left ++ right) = startsBehind left ++ startsBehind right := by
  rw [startsBehind, List.filter_append, List.map_append]
  rfl

theorem bounds_of_mem_startsBehind {offset start : Nat} {text : List Char}
    (member : start ∈ startsBehind (withOffsets offset text)) :
    offset < start ∧ start ≤ offset + byteSize text := by
  obtain ⟨entry, among, rfl⟩ := List.mem_map.1 member
  have bounds := bounds_of_mem_withOffsets (List.mem_filter.1 among).1
  omega

theorem le_byteSize_of_mem_lineStarts {start : Nat} {text : List Char}
    (member : start ∈ lineStarts text) : start ≤ byteSize text := by
  rcases List.mem_cons.1 member with rfl | later
  · exact Nat.zero_le _
  · have bounds := bounds_of_mem_startsBehind later
    omega

theorem lineStarts_append (before after : List Char) :
    lineStarts (before ++ after) = lineStarts before ++
      startsBehind (withOffsets (byteSize before) after) := by
  rw [lineStarts, withOffsets_append, startsBehind_append, Nat.zero_add]
  rfl

/-! ## The table of the lines -/

namespace Position

/-- The byte at which the last line of a text begins. -/
def lastStart (text : List Char) : Nat :=
  (lineStarts text).getLast (List.cons_ne_nil _ _)

/-- The position behind a text, as it is found in the table. -/
def behind (text : List Char) : Position :=
  ⟨(lineStarts text).length,
    (withOffsets 0 text).countP (fun entry => lastStart text ≤ entry.1) + 1⟩

theorem takeWhile_lineStarts (before after : List Char) :
    (lineStarts (before ++ after)).takeWhile (· ≤ byteSize before) =
      lineStarts before := by
  have early : ∀ start ∈ lineStarts before,
      decide (start ≤ byteSize before) = true := by
    intro start member
    exact decide_eq_true (le_byteSize_of_mem_lineStarts member)
  have late : ∀ start ∈ startsBehind (withOffsets (byteSize before) after),
      ¬ start ≤ byteSize before := by
    intro start member
    have bounds := bounds_of_mem_startsBehind member
    omega
  rw [lineStarts_append, List.takeWhile_append_of_pos early]
  cases starts : startsBehind (withOffsets (byteSize before) after) with
  | nil => exact List.append_nil _
  | cons first others =>
      rw [starts] at late
      simp [late first List.mem_cons_self]

theorem getD_lineStarts (before after : List Char) :
    (lineStarts (before ++ after)).getD ((lineStarts before).length - 1) 0 =
      lastStart before := by
  have nonempty : lineStarts before ≠ [] := List.cons_ne_nil _ _
  have inside : (lineStarts before).length - 1 < (lineStarts before).length :=
    Nat.sub_one_lt (nonempty ∘ List.length_eq_zero_iff.1)
  rw [lineStarts_append, List.getD_eq_getElem?_getD,
    List.getElem?_append_left inside, ← List.getLast?_eq_getElem?,
    List.getLast?_eq_some_getLast nonempty, Option.getD_some]
  rfl

/-- What follows a place in a text has no part in its position. -/
theorem ofOffset_append (before after : List Char) :
    ofOffset (before ++ after) (byteSize before) = behind before := by
  have late : (withOffsets (byteSize before) after).countP
      (fun entry => lastStart before ≤ entry.1 &&
        entry.1 < byteSize before) = 0 := by
    apply List.countP_eq_zero.2
    intro entry member
    have bounds := bounds_of_mem_withOffsets member
    simp only [Bool.and_eq_true, decide_eq_true_eq]
    omega
  have early : (withOffsets 0 before).countP
      (fun entry => lastStart before ≤ entry.1 &&
        entry.1 < byteSize before) =
      (withOffsets 0 before).countP (fun entry => lastStart before ≤ entry.1) := by
    apply List.countP_congr
    intro entry member
    have bounds := bounds_of_mem_withOffsets member
    simp only [Bool.and_eq_true, decide_eq_true_eq]
    omega
  rw [ofOffset]
  simp only [takeWhile_lineStarts, getD_lineStarts]
  rw [withOffsets_append, List.countP_append, Nat.zero_add, late, early]
  rfl

theorem lastStart_le (text : List Char) : lastStart text ≤ byteSize text :=
  le_byteSize_of_mem_lineStarts (List.getLast_mem _)

/-- A line feed begins a line, and any other character is one column more. -/
theorem behind_append_one (text : List Char) (character : Char) :
    behind (text ++ [character]) = (behind text).next character := by
  have onward : withOffsets 0 (text ++ [character]) =
      withOffsets 0 text ++ [(byteSize text, character)] := by
    rw [withOffsets_append, Nat.zero_add]
    rfl
  rw [next]
  by_cases lineFeed : character = '\n'
  · have starts : lineStarts (text ++ [character]) =
        lineStarts text ++ [byteSize text + 1] := by
      rw [lineStarts_append, lineFeed]
      rfl
    have last : lastStart (text ++ [character]) = byteSize text + 1 := by
      simp only [lastStart, starts, List.getLast_concat]
    have none : (withOffsets 0 (text ++ [character])).countP
        (fun entry => byteSize text + 1 ≤ entry.1) = 0 := by
      apply List.countP_eq_zero.2
      intro entry member
      have bounds := bounds_of_mem_withOffsets member
      rw [byteSize_append, lineFeed] at bounds
      have one : byteSize ['\n'] = 1 := rfl
      simp only [decide_eq_true_eq]
      omega
    rw [if_pos lineFeed, behind, last, none, starts, List.length_append]
    rfl
  · have starts : lineStarts (text ++ [character]) = lineStarts text := by
      rw [lineStarts_append]
      simp [startsBehind, withOffsets, lineFeed]
    have last : lastStart (text ++ [character]) = lastStart text := by
      simp only [lastStart, starts]
    have one : [(byteSize text, character)].countP
        (fun entry => lastStart text ≤ entry.1) = 1 := by
      simp [lastStart_le]
    rw [if_neg lineFeed, behind, last, starts, onward, List.countP_append, one]
    rfl

theorem behind_eq_past (text : List Char) : behind text = start.past text := by
  induction text using List.reverseRecOn with
  | nil => rfl
  | append_singleton text character induction =>
      rw [behind_append_one, induction, past_append]
      rfl

end Position

/-! ## The lines between line feeds -/

section Lines

variable {line : List Char}

theorem exists_linesBetween (text : List Char) :
    ∃ first others, linesBetween text = first :: others := by
  cases text with
  | nil => exact ⟨[], [], rfl⟩
  | cons head tail =>
      rw [linesBetween]
      by_cases lineFeed : head = '\n'
      · exact ⟨[], linesBetween tail, if_pos lineFeed⟩
      · rw [if_neg lineFeed]
        cases linesBetween tail with
        | nil => exact ⟨[head], [], rfl⟩
        | cons first others => exact ⟨head :: first, others, rfl⟩

theorem linesBetween_cons_of_ne {head : Char} (other : head ≠ '\n')
    (tail : List Char) :
    ∃ first others, linesBetween tail = first :: others ∧
      linesBetween (head :: tail) = (head :: first) :: others := by
  obtain ⟨first, others, split⟩ := exists_linesBetween tail
  refine ⟨first, others, split, ?_⟩
  rw [linesBetween, if_neg other, split]

theorem linesBetween_append_lineFeed (unbroken : '\n' ∉ line)
    (rest : List Char) :
    linesBetween (line ++ '\n' :: rest) = line :: linesBetween rest := by
  induction line with
  | nil => rfl
  | cons head line induction =>
      rw [List.mem_cons, not_or] at unbroken
      obtain ⟨first, others, split, joined⟩ :=
        linesBetween_cons_of_ne (Ne.symm unbroken.1) (line ++ '\n' :: rest)
      rw [induction unbroken.2] at split
      cases split
      exact joined

/-- The first line of a text begins as the text does. -/
theorem exists_linesBetween_append (unbroken : '\n' ∉ line)
    (rest : List Char) :
    ∃ more others, linesBetween (line ++ rest) = (line ++ more) :: others := by
  induction line with
  | nil => exact exists_linesBetween rest
  | cons head line induction =>
      rw [List.mem_cons, not_or] at unbroken
      obtain ⟨more, others, split⟩ := induction unbroken.2
      obtain ⟨first, others, same, joined⟩ :=
        linesBetween_cons_of_ne (Ne.symm unbroken.1) (line ++ rest)
      rw [split] at same
      cases same
      exact ⟨more, others, joined⟩

end Lines

namespace Position

/-- The characters before a position are those that were passed on the way to
it.  The way begins in the line of that number, behind the characters of
`line`. -/
theorem offsetIn_past {line : List Char} (unbroken : '\n' ∉ line)
    (before after : List Char) (number : Nat) :
    ((Position.mk number (line.length + 1)).past before).offsetIn number
        (linesBetween (line ++ (before ++ after))) =
      line.length + before.length := by
  -- A character that is passed joins `line`; a line feed leaves it behind.
  induction before generalizing line number with
  | nil =>
      obtain ⟨more, others, split⟩ :=
        exists_linesBetween_append unbroken ([] ++ after)
      rw [split, past_nil, offsetIn, if_pos rfl, List.length_append]
      simp
  | cons head tail induction =>
      rw [past_cons, next, List.cons_append]
      by_cases lineFeed : head = '\n'
      · have further : number ≠
            ((Position.mk (number + 1) 1).past tail).line := by
          rw [past_line]
          dsimp only
          omega
        have rest := induction List.not_mem_nil (number + 1)
        rw [if_pos lineFeed, lineFeed, linesBetween_append_lineFeed unbroken,
          offsetIn, if_neg further]
        simp only [List.nil_append, List.length_nil, Nat.zero_add] at rest
        rw [rest, List.length_cons]
        omega
      · have longer : '\n' ∉ line ++ [head] := by
          simp [unbroken, Ne.symm lineFeed]
        have joined : (line ++ [head]).length + tail.length =
            line.length + (head :: tail).length := by
          simp only [List.length_append, List.length_cons, List.length_nil]
          omega
        have rest := induction longer number
        rw [joined, List.append_assoc, List.length_append] at rest
        rw [if_neg lineFeed]
        exact rest

theorem offsetIn_start_past (before after : List Char) :
    (start.past before).offsetIn 1 (linesBetween (before ++ after)) =
      before.length := by
  have counted := offsetIn_past List.not_mem_nil before after 1
  simp only [List.length_nil, Nat.zero_add, List.nil_append] at counted
  exact counted

/-- The span of a place in a text is the next character, or the last one if
there is no next. -/
theorem span_start_past (before after : List Char) :
    (start.past before).span (before ++ after) =
      if before.length < (before ++ after).length then
        ⟨before.length, before.length + 1⟩
      else if 0 < (before ++ after).length then
        ⟨(before ++ after).length - 1, (before ++ after).length⟩
      else ⟨0, 0⟩ := by
  rw [span, spanIn, offsetIn_start_past]
  split
  · rw [Span.mk.injEq]
    omega
  · have whole : before.length ≤ (before ++ after).length := by simp
    split
    · rw [Span.mk.injEq]
      omega
    · rw [Span.mk.injEq]
      omega

/-- Every position has a span within the text, and it is one character if the
text has any. -/
theorem span_within (position : Position) (source : List Char) :
    (position.span source).start ≤ (position.span source).stop ∧
      (position.span source).stop ≤ source.length ∧
      ((position.span source).start < (position.span source).stop ↔
        source ≠ []) := by
  rw [span, spanIn, ← List.length_pos_iff]
  dsimp only
  omega

/-- A place between two characters of a text divides it in two. -/
theorem exists_split (source : String) (place : source.Pos) :
    ∃ before after, source.toList = before ++ after ∧
      place.offset.byteIdx = byteSize before := by
  obtain ⟨whole, offset⟩ := place.splits
  refine ⟨(source.sliceTo place).copy.toList,
    (source.sliceFrom place).copy.toList, ?_, ?_⟩
  · exact (congrArg String.toList whole).trans String.toList_append
  · rw [offset, byteSize, String.ofList_toList]
    rfl

/-- A place between two characters of a text, given by its offset in bytes, has
the position that is reached by going through the text before it: it counts the
line feeds, and the characters since the last of them.  The span of this
position begins with the character at the place; behind the last character it is
that one.  The span of any position whatsoever lies within the text and is not
empty unless the text is. -/
theorem spans_undo_offsets (source : String) :
    (∀ place : source.Pos, ∃ before after,
      source.toList = before ++ after ∧
        place.offset.byteIdx = byteSize before ∧
        ofOffset source.toList place.offset.byteIdx = start.past before ∧
        (start.past before).line = 1 + before.count '\n' ∧
        (start.past before).column =
          1 + (before.reverse.takeWhile (· != '\n')).length ∧
        (start.past before).span source.toList =
          if before.length < source.length then
            ⟨before.length, before.length + 1⟩
          else if 0 < source.length then ⟨source.length - 1, source.length⟩
          else ⟨0, 0⟩) ∧
      ∀ position : Position,
        (position.span source.toList).start ≤
            (position.span source.toList).stop ∧
          (position.span source.toList).stop ≤ source.length ∧
          ((position.span source.toList).start <
              (position.span source.toList).stop ↔ source ≠ "") := by
  have length : source.length = source.toList.length :=
    String.length_toList.symm
  constructor
  · intro place
    obtain ⟨before, after, whole, offset⟩ := exists_split source place
    refine ⟨before, after, whole, offset, ?_, past_line start before,
      start_past_column before, ?_⟩
    · rw [offset, whole, ofOffset_append, behind_eq_past]
    · rw [length, whole, span_start_past]
  · intro position
    have within := span_within position source.toList
    rw [ne_eq, String.toList_eq_nil_iff] at within
    rw [length]
    exact within

example : ofOffset "é\nx".toList 3 = ⟨2, 1⟩ ∧
    (Position.mk 2 1).span "é\nx".toList = ⟨2, 3⟩ := by
  decide +kernel

end Position

end TinyImp
