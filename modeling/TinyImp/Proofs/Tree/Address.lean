import TinyImp.Tree.Basic

/-!
# Addresses of statements

Statements are found in a block by their addresses, so two statements that
look alike are told apart.  An address also says which loops a statement
stands in and which statements have been passed on the way to it.
-/

namespace TinyImp

/-- Where a statement stands in a block: the numbers of the loops around it,
from the outside in, and then its own number. -/
abbrev Address := List Nat

/-- The names in an expression, from left to right. -/
def Expr.names : Expr → List String
  | .number _ _ | .text _ _ => []
  | .named name _ => [name]
  | .lone operand _ | .negation operand _ => operand.names
  | .binary _ left right _ => left.names ++ right.names

/-- The names whose values a statement looks up itself, not counting those of
the statements inside it. -/
def Stmt.consults : Stmt → List String
  | .declare _ _ initial _ => initial.elim [] Expr.names
  | .loop _ low high _ _ => low.names ++ high.names
  | .read target _ => [target.name]
  | .assign _ value _ | .print value _ | .assert value _ => value.names

/-- The names that a statement itself uses, in the order of the text.  A name
that is only declared is not used. -/
def Stmt.uses : Stmt → List String
  | .declare _ _ initial _ => initial.elim [] Expr.names
  | .assign target value _ => target.name :: value.names
  | .loop index low high _ _ => index.name :: (low.names ++ high.names)
  | .read target _ => [target.name]
  | .print value _ | .assert value _ => value.names

/-- The name that a statement itself gives a value, other than by declaring
it. -/
def Stmt.sets : Stmt → Option String
  | .assign target _ _ | .read target _ => some target.name
  | .loop index _ _ _ _ => some index.name
  | .declare _ _ _ _ | .print _ _ | .assert _ _ => none

mutual

/-- The names that a statement uses with the statements inside it. -/
def Stmt.mentions : Stmt → List String
  | .loop index low high body position =>
      (Stmt.loop index low high body position).uses ++ Stmt.mentionsList body
  | statement => statement.uses

def Stmt.mentionsList : List Stmt → List String
  | [] => []
  | statement :: others => statement.mentions ++ Stmt.mentionsList others

end

/-- The statement that stands at an address of a block. -/
inductive Stmt.Located : List Stmt → Address → Stmt → Prop where
  | head {statement : Stmt} {others : List Stmt} :
      Located (statement :: others) [0] statement
  | body {index : Ident} {low high : Expr} {body others : List Stmt}
      {position : Position} {address : Address} {statement : Stmt} :
      Located body address statement →
      Located (.loop index low high body position :: others) (0 :: address)
        statement
  | tail {first : Stmt} {others : List Stmt} {number : Nat}
      {address : Address} {statement : Stmt} :
      Located others (number :: address) statement →
      Located (first :: others) ((number + 1) :: address) statement

/-- The statement at an address of a block declares a name. -/
def Stmt.Declares (block : List Stmt) (address : Address) (name : String) :
    Prop :=
  ∃ ident type initial position,
    Stmt.Located block address (.declare ident type initial position) ∧
      ident.name = name

/-- The statement at an address of a block is a loop over a name. -/
def Stmt.RunsOver (block : List Stmt) (address : Address) (name : String) :
    Prop :=
  ∃ index low high body position,
    Stmt.Located block address (.loop index low high body position) ∧
      index.name = name

namespace Address

/-- The statement at `address` stands in the body of the loop at `loop`. -/
def Around (loop address : Address) : Prop :=
  ∃ number rest, address = loop ++ number :: rest

/-- The statement at the first address stands before the one at the second,
in the same block or in a block around it. -/
inductive Leads : Address → Address → Prop where
  | sibling {early late : Nat} {rest : Address} :
      early < late → Leads [early] (late :: rest)
  | deeper {number : Nat} {early late : Address} :
      Leads early late → Leads (number :: early) (number :: late)

theorem Leads.succ {early late : Nat} {first second : Address}
    (leads : Leads (early :: first) (late :: second)) :
    Leads ((early + 1) :: first) ((late + 1) :: second) := by
  cases leads with
  | sibling before => exact .sibling (Nat.succ_lt_succ before)
  | deeper inner => exact .deeper inner

theorem around_cons_iff {number : Nat} {loop address : Address} :
    Around (number :: loop) (number :: address) ↔ Around loop address := by
  constructor
  · intro given
    obtain ⟨next, rest, same⟩ := given
    exact ⟨next, rest, (List.cons.inj same).2⟩
  · intro given
    obtain ⟨next, rest, rfl⟩ := given
    exact ⟨next, rest, rfl⟩

instance (loop address : Address) : Decidable (Around loop address) :=
  decidable_of_iff (loop <+: address ∧ loop.length < address.length) <| by
    constructor
    · intro given
      obtain ⟨⟨rest, rfl⟩, longer⟩ := given
      cases rest with
      | nil => simp at longer
      | cons number rest => exact ⟨number, rest, rfl⟩
    · intro given
      obtain ⟨number, rest, rfl⟩ := given
      exact ⟨List.prefix_append loop (number :: rest), by simp⟩

theorem head_eq_of_around {early late : Nat} {loop address : Address}
    (around : Around (early :: loop) (late :: address)) : late = early := by
  obtain ⟨next, rest, same⟩ := around
  exact (List.cons.inj same).1

end Address

/-- The statement at `declaration` stands in the body of a loop that the
statement at `access` stands outside of. -/
def Stmt.OutOfLoop (block : List Stmt) (declaration access : Address) : Prop :=
  ∃ loop index low high body position,
    Stmt.Located block loop (.loop index low high body position) ∧
      loop.Around declaration ∧ ¬ loop.Around access

namespace Stmt

theorem Located.ne_nil {block : List Stmt} {address : Address}
    {statement : Stmt} (located : Located block address statement) :
    address ≠ [] := by
  cases located <;> exact nofun

theorem Located.unique {block : List Stmt} {address : Address}
    {left right : Stmt} (first : Located block address left)
    (second : Located block address right) : left = right := by
  induction first with
  | head =>
      cases second with
      | head => rfl
      | body inner => exact absurd rfl inner.ne_nil
  | body inner induction =>
      cases second with
      | head => exact absurd rfl inner.ne_nil
      | body other => exact induction other
  | tail inner induction =>
      cases second with
      | tail other => exact induction other

/-- What stands at or in the first statement does not depend on the others. -/
theorem located_zero_iff {first : Stmt} {others : List Stmt} {rest : Address}
    {statement : Stmt} :
    Located (first :: others) (0 :: rest) statement ↔
      Located [first] (0 :: rest) statement := by
  constructor
  · intro located
    cases located with
    | head => exact .head
    | body inner => exact .body inner
  · intro located
    cases located with
    | head => exact .head
    | body inner => exact .body inner

theorem Located.inside {block body : List Stmt} {outer address : Address}
    {index : Ident} {low high : Expr} {position : Position} {statement : Stmt}
    (loop : Located block outer (.loop index low high body position))
    (inner : Located body address statement) :
    Located block (outer ++ address) statement := by
  generalize found : Stmt.loop index low high body position = enclosing at loop
  induction loop with
  | head =>
      subst found
      exact .body inner
  | body _ induction => exact .body (induction found)
  | tail _ induction => exact .tail (induction found)

theorem Declares.body {index : Ident} {low high : Expr}
    {body others : List Stmt} {position : Position} {address : Address}
    {name : String} (inner : Declares body address name) :
    Declares (.loop index low high body position :: others) (0 :: address)
      name := by
  obtain ⟨ident, type, initial, place, located, same⟩ := inner
  exact ⟨ident, type, initial, place, .body located, same⟩

theorem Declares.tail {first : Stmt} {others : List Stmt} {number : Nat}
    {rest : Address} {name : String}
    (later : Declares others (number :: rest) name) :
    Declares (first :: others) ((number + 1) :: rest) name := by
  obtain ⟨ident, type, initial, place, located, same⟩ := later
  exact ⟨ident, type, initial, place, .tail located, same⟩

theorem Declares.ne_nil {block : List Stmt} {address : Address} {name : String}
    (declares : Declares block address name) : address ≠ [] := by
  obtain ⟨_, _, _, _, located, _⟩ := declares
  exact located.ne_nil

theorem exists_declares_cons_iff {first : Stmt} {others : List Stmt}
    {name : String} :
    (∃ address, Declares (first :: others) address name) ↔
      (∃ address, Declares [first] (0 :: address) name) ∨
        ∃ address, Declares others address name := by
  constructor
  · intro given
    obtain ⟨address, ident, type, initial, position, located, same⟩ := given
    cases located with
    | head => exact .inl ⟨[], ident, type, initial, position, .head, same⟩
    | body inner =>
        exact .inl ⟨_, ident, type, initial, position, .body inner, same⟩
    | tail later => exact .inr ⟨_, ident, type, initial, position, later, same⟩
  · intro given
    rcases given with ⟨address, ident, type, initial, position, located, same⟩ |
      ⟨address, declares⟩
    · cases located with
      | head => exact ⟨[0], ident, type, initial, position, .head, same⟩
      | body inner => exact ⟨_, ident, type, initial, position, .body inner, same⟩
    · cases address with
      | nil => exact absurd rfl declares.ne_nil
      | cons number rest => exact ⟨_, declares.tail⟩

theorem OutOfLoop.body {index : Ident} {low high : Expr}
    {body others : List Stmt} {position : Position}
    {declaration access : Address} (out : OutOfLoop body declaration access) :
    OutOfLoop (.loop index low high body position :: others)
      (0 :: declaration) (0 :: access) := by
  obtain ⟨loop, index', low', high', body', position', located, around,
    outside⟩ := out
  refine ⟨0 :: loop, index', low', high', body', position', .body located, ?_, ?_⟩
  · exact Address.around_cons_iff.2 around
  · intro inside
    exact outside (Address.around_cons_iff.1 inside)

theorem OutOfLoop.tail {first : Stmt} {others : List Stmt} {early late : Nat}
    {declaration access : Address}
    (out : OutOfLoop others (early :: declaration) (late :: access)) :
    OutOfLoop (first :: others) ((early + 1) :: declaration)
      ((late + 1) :: access) := by
  obtain ⟨loop, index', low', high', body', position', located, around,
    outside⟩ := out
  cases loop with
  | nil => exact absurd rfl located.ne_nil
  | cons number loop =>
      have same : early = number := Address.head_eq_of_around around
      subst same
      refine ⟨(early + 1) :: loop, index', low', high', body', position',
        .tail located, ?_, ?_⟩
      · exact Address.around_cons_iff.2 (Address.around_cons_iff.1 around)
      · intro inside
        have same : late = early :=
          Nat.succ.inj (Address.head_eq_of_around inside)
        subst same
        exact outside
          (Address.around_cons_iff.2 (Address.around_cons_iff.1 inside))

/-- What is declared in the first statement of a block leads to every later
one, unless it is declared in the body of a loop there. -/
theorem Declares.leads_or_outOfLoop {first : Stmt} {others : List Stmt}
    {early : Address} {name : String} {number : Nat} {rest : Address}
    (declares : Declares [first] (0 :: early) name) :
    Declares (first :: others) (0 :: early) name ∧
      (Address.Leads (0 :: early) ((number + 1) :: rest) ∨
        OutOfLoop (first :: others) (0 :: early) ((number + 1) :: rest)) := by
  obtain ⟨ident, type, initial, position, located, same⟩ := declares
  cases located with
  | head =>
      exact ⟨⟨ident, type, initial, position, .head, same⟩,
        .inl (.sibling (Nat.succ_pos number))⟩
  | body inner =>
      refine ⟨⟨ident, type, initial, position, .body inner, same⟩, .inr ?_⟩
      refine ⟨[0], _, _, _, _, _, .head, ?_, ?_⟩
      · cases early with
        | nil => exact absurd rfl inner.ne_nil
        | cons next more => exact ⟨next, more, rfl⟩
      · intro inside
        cases Address.head_eq_of_around inside

end Stmt

end TinyImp
