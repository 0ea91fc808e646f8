import TinyImp.Grammar.Recovery
import TinyImp.Proofs.Computation

/-!
# Predictive reading

A reader with one token of lookahead decides at every token whether the part
of the grammar that it reads can still be completed.  A part of the grammar is
a class of phrases here, and the verdict of a reader is what it has said up to
its first mismatch.  `PhraseClass.Outcome` ties the two together: an accepted
stretch of tokens is a phrase of the class, and a token is refused exactly
where the tokens before it begin a phrase and the tokens up to it begin none.
This is closed under reading one part after another, so it is shown for each
production from the parts that the production names.
-/

namespace TinyImp

/-- An end of the input is still ahead. -/
def Cursor.Ended (cursor : Cursor) : Prop :=
  ∃ token ∈ cursor.remaining, token.kind = .endOfInput

namespace Cursor

variable {cursor rest : Cursor} {token : Token} {following : List Token}

theorem current_of_remaining (ahead : cursor.remaining = token :: following) :
    cursor.current = token := by
  simp [current, ahead]

theorem Ended.remaining_eq (ended : cursor.Ended) :
    cursor.remaining = cursor.current :: cursor.advance.remaining := by
  obtain ⟨remaining, last⟩ := cursor
  cases remaining with
  | nil =>
      obtain ⟨token, member, _⟩ := ended
      cases member
  | cons token following => rfl

theorem Ended.advance (ended : cursor.Ended)
    (inside : cursor.current.kind ≠ .endOfInput) :
    cursor.advance.Ended := by
  obtain ⟨token, member, isEnd⟩ := ended
  rw [Ended.remaining_eq ⟨token, member, isEnd⟩] at member
  rcases List.mem_cons.mp member with here | later
  · subst here
    exact absurd isEnd inside
  · exact ⟨token, later, isEnd⟩

theorem size_of_remaining_append {used : List Token}
    (reading : cursor.remaining = used ++ rest.remaining) :
    cursor.size = used.length + rest.size := by
  simp [size, reading]

end Cursor

/-- The kind of the first of some tokens. -/
def Token.firstKind (tokens : List Token) : Option TokenKind :=
  tokens.head?.map Token.kind

@[simp]
theorem Token.firstKind_cons (token : Token) (following : List Token) :
    Token.firstKind (token :: following) = some token.kind :=
  rfl

/-- What a reader has said when it is through, or has met the first token that
it does not take. -/
inductive ReadingVerdict (α : Type) where
  | accepted (value : α) (rest : Cursor)
  | refused (found : Token)

namespace ReadingVerdict

variable {α β : Type}

/-- The verdict of a reader that goes on behind what was accepted. -/
def andThen (verdict : ReadingVerdict α) (next : α → Cursor → ReadingVerdict β) :
    ReadingVerdict β :=
  match verdict with
  | .accepted value rest => next value rest
  | .refused found => .refused found

end ReadingVerdict

namespace Production

variable {α β : Type}

def verdict (production : Production α) (cursor : Cursor) : ReadingVerdict α :=
  match production cursor with
  | .ok value rest => .accepted value rest
  | .error _ rest => .refused rest.current

theorem verdict_bind (first : Production α) (next : α → Production β)
    (cursor : Cursor) :
    verdict (first >>= next) cursor =
      (verdict first cursor).andThen fun value => verdict (next value) := by
  unfold verdict
  cases outcome : first cursor with
  | ok value rest => rw [Computation.bind_of_ok outcome]; rfl
  | error expected rest => rw [Computation.bind_of_error outcome]; rfl

theorem verdict_current_bind (next : Token → Production β) (cursor : Cursor) :
    verdict (current >>= next) cursor = verdict (next cursor.current) cursor :=
  rfl

theorem expect_apply (kind : TokenKind) (cursor : Cursor) :
    expect kind cursor =
      if cursor.current.kind = kind then .ok () cursor.advance
      else .error (.token kind) cursor := by
  change (if cursor.current.kind = kind then advance
    else throw (.token kind) : Production Unit) cursor = _
  split <;> rfl

/-- To leave a token that is known is to expect it. -/
theorem verdict_advance_bind {cursor : Cursor} {kind : TokenKind}
    (ahead : cursor.current.kind = kind) (next : Unit → Production β) :
    verdict (advance >>= next) cursor =
      verdict (expect kind >>= next) cursor := by
  have expected : expect kind cursor = advance cursor := by
    rw [expect_apply, if_pos ahead]
    rfl
  rw [verdict_bind, verdict_bind, verdict, verdict, expected]

end Production

namespace Recovering

variable {α β : Type}

def verdict (reader : Recovering α) (cursor : Cursor) : ReadingVerdict α :=
  match (reader cursor).mismatches with
  | [] => .accepted (reader cursor).value (reader cursor).rest
  | mismatch :: _ => .refused mismatch.found

theorem verdict_bind (first : Recovering α) (next : α → Recovering β)
    (cursor : Cursor) :
    verdict (first >>= next) cursor =
      (verdict first cursor).andThen fun value => verdict (next value) := by
  unfold verdict
  change (match (first cursor).mismatches ++ _ with
    | [] => _ | mismatch :: _ => _) = _
  cases (first cursor).mismatches <;> rfl

theorem verdict_current_bind (next : Token → Recovering β) (cursor : Cursor) :
    verdict (current >>= next) cursor = verdict (next cursor.current) cursor :=
  rfl

theorem verdict_size_bind (next : Nat → Recovering β) (cursor : Cursor) :
    verdict (size >>= next) cursor = verdict (next cursor.size) cursor :=
  rfl

/-- What a recovering reader does after a failed attempt is beyond its
verdict. -/
theorem verdict_attempt_bind (production : Production α)
    (next : Option α → Recovering β) (cursor : Cursor) :
    verdict (attempt production >>= next) cursor =
      (Production.verdict production cursor).andThen fun value =>
        verdict (next (some value)) := by
  rw [verdict_bind]
  unfold verdict Production.verdict attempt
  cases production cursor <;> rfl

end Recovering

/-- A class of phrases: the tokens that each is written with, and the kinds of
tokens that behind a phrase are taken for more of it. -/
structure PhraseClass (Φ : Type) where
  tokens : Φ → List Token
  Continues : Φ → TokenKind → Prop

namespace PhraseClass

variable {Φ Ψ Θ α β : Type}

/-- The used tokens begin a phrase, and together with the token found behind
them they begin no phrase, whatever may follow it. -/
def Breaks (phrases : PhraseClass Φ) (used : List Token) (found : Token) :
    Prop :=
  (∃ phrase, used <+: phrases.tokens phrase) ∧
    ∀ phrase follower others, ¬phrases.Continues phrase follower.kind →
      ¬used ++ [found] <+: phrases.tokens phrase ++ follower :: others

/-- The tokens of a stream tell which phrase it begins with. -/
def Unambiguous (phrases : PhraseClass Φ) : Prop :=
  ∀ left right leftFollower rightFollower leftOthers rightOthers,
    ¬phrases.Continues left leftFollower.kind →
    ¬phrases.Continues right rightFollower.kind →
    phrases.tokens left ++ leftFollower :: leftOthers =
      phrases.tokens right ++ rightFollower :: rightOthers →
    left = right

/-- The class of the phrase without tokens. -/
def empty : PhraseClass Unit where
  tokens _ := []
  Continues _ _ := False

/-- A class of phrases of one token. -/
def single (token : Φ → Token) : PhraseClass Φ where
  tokens phrase := [token phrase]
  Continues _ _ := False

/-- Phrases of one class behind phrases of another. -/
def followedBy (first : PhraseClass Φ) (second : PhraseClass Ψ) :
    PhraseClass (Φ × Ψ) where
  tokens pair := first.tokens pair.1 ++ second.tokens pair.2
  Continues pair kind :=
    second.Continues pair.2 kind ∨
      second.tokens pair.2 = [] ∧ first.Continues pair.1 kind

@[simp]
theorem empty_tokens (phrase : Unit) : empty.tokens phrase = [] :=
  rfl

@[simp]
theorem empty_continues (phrase : Unit) (kind : TokenKind) :
    empty.Continues phrase kind ↔ False :=
  Iff.rfl

@[simp]
theorem single_tokens (token : Φ → Token) (phrase : Φ) :
    (single token).tokens phrase = [token phrase] :=
  rfl

@[simp]
theorem single_continues (token : Φ → Token) (phrase : Φ) (kind : TokenKind) :
    (single token).Continues phrase kind ↔ False :=
  Iff.rfl

@[simp]
theorem followedBy_tokens (first : PhraseClass Φ) (second : PhraseClass Ψ)
    (pair : Φ × Ψ) :
    (first.followedBy second).tokens pair =
      first.tokens pair.1 ++ second.tokens pair.2 :=
  rfl

@[simp]
theorem followedBy_continues (first : PhraseClass Φ) (second : PhraseClass Ψ)
    (pair : Φ × Ψ) (kind : TokenKind) :
    (first.followedBy second).Continues pair kind ↔
      second.Continues pair.2 kind ∨
        second.tokens pair.2 = [] ∧ first.Continues pair.1 kind :=
  Iff.rfl

/-- No phrase of the second class begins with a token that a phrase of the
first class would take. -/
def Meets (first : PhraseClass Φ) (second : PhraseClass Ψ) : Prop :=
  ∀ front back token following, second.tokens back = token :: following →
    ¬first.Continues front token.kind

theorem Meets.of_closed {first : PhraseClass Φ} {second : PhraseClass Ψ}
    (closed : ∀ phrase kind, ¬first.Continues phrase kind) :
    first.Meets second :=
  fun front _ token _ _ => closed front token.kind

theorem Meets.before_empty (first : PhraseClass Φ) : first.Meets empty :=
  fun _ _ _ _ tokens => nomatch tokens

theorem single_unambiguous {token : Φ → Token}
    (injective : ∀ left right, token left = token right → left = right) :
    (single token).Unambiguous := by
  intro left right _ _ _ _ _ _ same
  exact injective left right (List.cons.inj same).1

section Sequence

variable {first : PhraseClass Φ} {second : PhraseClass Ψ}

/-- Behind a first phrase stands a token that it does not take, be it the
first token of the second phrase or what follows an empty one. -/
theorem Meets.follower {pair : Φ × Ψ} {follower : Token}
    (meets : first.Meets second)
    (stopped : ¬(first.followedBy second).Continues pair follower.kind)
    (others : List Token) :
    ∃ next following,
      second.tokens pair.2 ++ follower :: others = next :: following ∧
        ¬first.Continues pair.1 next.kind := by
  cases tokens : second.tokens pair.2 with
  | nil =>
      exact ⟨follower, others, rfl, fun more => stopped (.inr ⟨tokens, more⟩)⟩
  | cons next following =>
      exact ⟨next, following ++ follower :: others, rfl,
        meets pair.1 pair.2 next following tokens⟩

theorem Unambiguous.followedBy (firstClear : first.Unambiguous)
    (secondClear : second.Unambiguous) (meets : first.Meets second) :
    (first.followedBy second).Unambiguous := by
  intro left right leftFollower rightFollower leftOthers rightOthers
    leftStopped rightStopped same
  obtain ⟨leftNext, leftRest, leftTail, leftFree⟩ :=
    meets.follower leftStopped leftOthers
  obtain ⟨rightNext, rightRest, rightTail, rightFree⟩ :=
    meets.follower rightStopped rightOthers
  simp only [PhraseClass.followedBy, List.append_assoc] at same
  have fronts : left.1 = right.1 := by
    rw [leftTail, rightTail] at same
    exact firstClear _ _ _ _ _ _ leftFree rightFree same
  rw [fronts] at same
  have backs : left.2 = right.2 :=
    secondClear _ _ _ _ _ _ (fun more => leftStopped (.inl more))
      (fun more => rightStopped (.inl more)) (List.append_cancel_left same)
  exact Prod.ext fronts backs

theorem Breaks.inFirst [Nonempty Ψ] {used : List Token} {found : Token}
    (meets : first.Meets second) (breaks : first.Breaks used found) :
    (first.followedBy second).Breaks used found := by
  obtain ⟨⟨front, begun⟩, refused⟩ := breaks
  obtain ⟨back⟩ := ‹Nonempty Ψ›
  refine ⟨⟨(front, back), begun.trans (List.prefix_append ..)⟩, ?_⟩
  intro pair follower others stopped begins
  obtain ⟨next, following, tail, free⟩ := meets.follower stopped others
  simp only [followedBy, List.append_assoc, tail] at begins
  exact refused pair.1 next following free begins

/-- The tokens before the second phrase are those of one first phrase only, so
what breaks the second phrase breaks the two in a row. -/
theorem Breaks.inSecond {front : Φ} {used following behind : List Token}
    {found next : Token} (clear : first.Unambiguous)
    (meets : first.Meets second) (free : ¬first.Continues front next.kind)
    (ahead : used ++ found :: following = next :: behind)
    (breaks : second.Breaks used found) :
    (first.followedBy second).Breaks (first.tokens front ++ used) found := by
  obtain ⟨⟨back, begun⟩, refused⟩ := breaks
  refine ⟨⟨(front, back), (List.prefix_append_right_inj _).mpr begun⟩, ?_⟩
  intro pair follower others stopped begins
  obtain ⟨unread, whole⟩ := begins
  obtain ⟨other, otherFollowing, tail, otherFree⟩ :=
    meets.follower stopped others
  simp only [followedBy, List.append_assoc] at whole
  have nextAhead : ∃ others, used ++ ([found] ++ unread) = next :: others := by
    cases used <;> simp_all
  have fronts : front = pair.1 := by
    obtain ⟨_, nextAhead⟩ := nextAhead
    rw [nextAhead, tail] at whole
    exact clear _ _ _ _ _ _ free otherFree whole
  rw [← fronts] at whole
  refine refused pair.2 follower others (fun more => stopped (.inl more))
    ⟨unread, ?_⟩
  rw [List.append_assoc]
  exact List.append_cancel_left whole

end Sequence

/-- What a verdict on the tokens in front of a cursor has to say about the
phrases of a class, which stand for values. -/
inductive Outcome (phrases : PhraseClass Φ) (value : Φ → α)
    (cursor : Cursor) : ReadingVerdict α → Prop where
  | accepted (phrase : Φ) {rest : Cursor} (ended : rest.Ended)
      (reading : cursor.remaining = phrases.tokens phrase ++ rest.remaining)
      (stopped : ¬phrases.Continues phrase rest.current.kind) :
      Outcome phrases value cursor (.accepted (value phrase) rest)
  | refused {used following : List Token} {found : Token}
      (reading : cursor.remaining = used ++ found :: following)
      (breaks : phrases.Breaks used found) :
      Outcome phrases value cursor (.refused found)

/-- The class can be read with one token of lookahead, and a reader does so
wherever fewer than `bound` tokens are left. -/
structure ReadBy (phrases : PhraseClass Φ) (value : Φ → α) (bound : Nat)
    (reader : Cursor → ReadingVerdict α) : Prop where
  unambiguous : phrases.Unambiguous
  outcome : ∀ cursor, cursor.Ended → cursor.size < bound →
    phrases.Outcome value cursor (reader cursor)

section Outcome

variable {first : PhraseClass Φ} {second : PhraseClass Ψ} {value : Φ → α}
  {cursor : Cursor} {verdict : ReadingVerdict α}
  {next : α → Cursor → ReadingVerdict β} {result : Φ × Ψ → β} {bound : Nat}

theorem empty_readBy (bound : Nat) (value : Unit → α) :
    empty.ReadBy value bound fun cursor => .accepted (value ()) cursor where
  unambiguous := fun _ _ _ _ _ _ _ _ _ => rfl
  outcome := fun _ ended _ => .accepted () ended rfl id

theorem Outcome.single (value : Φ → α) (phrase : Φ) (ended : cursor.Ended)
    (inside : cursor.current.kind ≠ .endOfInput)
    (tokens : first.tokens phrase = [cursor.current])
    (closed : ∀ kind, ¬first.Continues phrase kind) :
    first.Outcome value cursor (.accepted (value phrase) cursor.advance) := by
  refine .accepted phrase (ended.advance inside) ?_ (closed _)
  rw [ended.remaining_eq, tokens]
  rfl

theorem Outcome.refusedAtOnce [Nonempty Φ] (ended : cursor.Ended)
    (unfit : ∀ phrase follower others,
      ¬first.Continues phrase follower.kind →
      Token.firstKind (first.tokens phrase ++ follower :: others) ≠
        some cursor.current.kind) :
    first.Outcome value cursor (.refused cursor.current) := by
  obtain ⟨some⟩ := ‹Nonempty Φ›
  refine .refused ended.remaining_eq ⟨⟨some, List.nil_prefix⟩, ?_⟩
  intro phrase follower others stopped begins
  obtain ⟨unread, whole⟩ := begins
  apply unfit phrase follower others stopped
  rw [← whole]
  rfl

/-- Reading one part after another. -/
theorem Outcome.followedBy [Nonempty Ψ] (clear : first.Unambiguous)
    (meets : first.Meets second) (early : first.Outcome value cursor verdict)
    (late : ∀ phrase rest, rest.Ended →
      cursor.remaining = first.tokens phrase ++ rest.remaining →
      second.Outcome (fun back => result (phrase, back)) rest
        (next (value phrase) rest)) :
    (first.followedBy second).Outcome result cursor (verdict.andThen next) := by
  cases early with
  | refused reading breaks => exact .refused reading (breaks.inFirst meets)
  | @accepted front middle ended reading stopped =>
      change (first.followedBy second).Outcome result cursor
        (next (value front) middle)
      have outcome := late front middle ended reading
      generalize next (value front) middle = last at outcome
      cases outcome with
      | @accepted back rest restEnded readingBack stoppedBack =>
          refine .accepted (front, back) restEnded ?_ ?_
          · rw [reading, readingBack]
            exact (List.append_assoc ..).symm
          · intro more
            rcases more with more | ⟨none, more⟩
            · exact stoppedBack more
            -- the token in view is still the one that stopped the first part
            · rw [none, List.nil_append] at readingBack
              have ahead := readingBack.trans restEnded.remaining_eq
              rw [← Cursor.current_of_remaining ahead] at more
              exact stopped more
      | @refused used following found readingBack breaks =>
          have whole : cursor.remaining =
              (first.tokens front ++ used) ++ found :: following := by
            rw [reading, readingBack, List.append_assoc]
          refine .refused whole ?_
          exact breaks.inSecond clear meets stopped
            (readingBack.symm.trans ended.remaining_eq)

/-- A verdict on one class is a verdict on a larger one, if no other phrase of
the larger class begins with the token in view. -/
theorem Outcome.embed {small : PhraseClass Ψ} {large : PhraseClass Φ}
    {smallValue : Ψ → α} (outcome : small.Outcome smallValue cursor verdict)
    (embed : Ψ → Φ)
    (tokens : ∀ phrase, large.tokens (embed phrase) = small.tokens phrase)
    (continues : ∀ phrase kind,
      large.Continues (embed phrase) kind ↔ small.Continues phrase kind)
    (values : ∀ phrase rest, cursor.remaining = small.tokens phrase ++ rest →
      value (embed phrase) = smallValue phrase)
    (covers : ∀ phrase follower others,
      ¬large.Continues phrase follower.kind →
      Token.firstKind (large.tokens phrase ++ follower :: others) =
        some cursor.current.kind →
      ∃ part, embed part = phrase) :
    large.Outcome value cursor verdict := by
  cases outcome with
  | @accepted part rest ended reading stopped =>
      rw [← values part _ reading]
      refine .accepted (embed part) ended ?_ ?_
      · rw [tokens, reading]
      · exact fun more => stopped ((continues ..).mp more)
  | @refused used following found reading breaks =>
      obtain ⟨⟨part, begun⟩, refused⟩ := breaks
      refine .refused reading ⟨⟨embed part, by rwa [tokens]⟩, ?_⟩
      intro phrase follower others stopped begins
      obtain ⟨unread, whole⟩ := begins
      have ahead : Token.firstKind (used ++ [found] ++ unread) =
          some cursor.current.kind := by
        cases used <;> simp [Cursor.current_of_remaining reading]
      rw [whole] at ahead
      obtain ⟨other, rfl⟩ := covers phrase follower others stopped ahead
      rw [tokens] at whole
      exact refused other follower others
        (fun more => stopped ((continues ..).mpr more)) ⟨unread, whole⟩

/-- Reading one part after another, wherever few enough tokens are left; the
first part may leave fewer of them to the second. -/
theorem ReadBy.followedBy [Nonempty Φ] [Nonempty Ψ]
    {reader : Cursor → ReadingVerdict α} {later : Nat}
    (early : first.ReadBy value bound reader) (meets : first.Meets second)
    (fewer : ∀ phrase, bound ≤ later + (first.tokens phrase).length)
    (late : ∀ phrase, second.ReadBy (fun back => result (phrase, back)) later
      (next (value phrase))) :
    (first.followedBy second).ReadBy result bound
      fun cursor => (reader cursor).andThen next where
  unambiguous := by
    obtain ⟨some⟩ := ‹Nonempty Φ›
    exact early.unambiguous.followedBy (late some).unambiguous meets
  outcome := by
    intro cursor ended small
    refine Outcome.followedBy early.unambiguous meets
      (early.outcome cursor ended small) ?_
    intro phrase rest restEnded reading
    apply (late phrase).outcome rest restEnded
    have sizes := Cursor.size_of_remaining_append reading
    have := fewer phrase
    omega

end Outcome

end PhraseClass

end TinyImp
