import TinyImp.Proofs.Tree.Address

/-!
# The order of the text

`Program.places` goes through a program in the order of the text: a loop comes
before the statements in its body, and these before what follows the loop.
Every statement is met once, and the addresses grow on the way in the
lexicographic order of lists.  So that order says which of two statements
comes first, without going through the program.
-/

namespace TinyImp

/-- A statement and where it stands. -/
structure Place where
  address : Address
  statement : Stmt

/-- A place in a statement, seen from the block in which `number` statements
come before that statement. -/
def Place.within (number : Nat) (place : Place) : Place :=
  ⟨number :: place.address, place.statement⟩

mutual

/-- The places of a statement, which stands at the empty address itself, and of
all statements inside it. -/
def Stmt.places : Stmt → List Place
  | .loop index low high body position =>
      ⟨[], .loop index low high body position⟩ :: Stmt.placesFrom 0 body
  | statement => [⟨[], statement⟩]

/-- The places of statements that stand in a row from `number` on. -/
def Stmt.placesFrom (number : Nat) : List Stmt → List Place
  | [] => []
  | statement :: others =>
      statement.places.map (Place.within number) ++
        Stmt.placesFrom (number + 1) others

end

/-- The statements of a program in the order of the text. -/
def Program.places (program : Program) : List Place :=
  Stmt.placesFrom 0 program

namespace Stmt

private theorem mem_singleton_place_iff {statement : Stmt} {place : Place}
    (flat : ∀ index low high body position,
      statement ≠ .loop index low high body position) :
    place ∈ [(⟨[], statement⟩ : Place)] ↔
      Located [statement] (0 :: place.address) place.statement := by
  obtain ⟨address, inner⟩ := place
  rw [List.mem_singleton, Place.mk.injEq]
  constructor
  · intro given
    obtain ⟨rfl, rfl⟩ := given
    exact .head
  · intro located
    cases located with
    | head => exact ⟨rfl, rfl⟩
    | body within => exact absurd rfl (flat _ _ _ _ _)

mutual

theorem mem_places_iff (statement : Stmt) (place : Place) :
    place ∈ statement.places ↔
      Located [statement] (0 :: place.address) place.statement := by
  cases statement with
  | loop index low high body position =>
      obtain ⟨address, inner⟩ := place
      rw [Stmt.places, List.mem_cons, Place.mk.injEq, mem_placesFrom_iff body]
      constructor
      · intro given
        rcases given with ⟨rfl, rfl⟩ | ⟨offset, rest, same, located⟩
        · exact .head
        · rw [same, Nat.zero_add]
          exact .body located
      · intro located
        cases located with
        | head => exact .inl ⟨rfl, rfl⟩
        | body within =>
            cases address with
            | nil => exact absurd rfl within.ne_nil
            | cons offset rest =>
                exact .inr ⟨offset, rest, by rw [Nat.zero_add], within⟩
  | declare name type initial position =>
      exact mem_singleton_place_iff (by simp)
  | assign target value position =>
      exact mem_singleton_place_iff (by simp)
  | read target position =>
      exact mem_singleton_place_iff (by simp)
  | print value position =>
      exact mem_singleton_place_iff (by simp)
  | assert condition position =>
      exact mem_singleton_place_iff (by simp)

theorem mem_placesFrom_iff (block : List Stmt) (number : Nat) (place : Place) :
    place ∈ Stmt.placesFrom number block ↔
      ∃ offset rest, place.address = (number + offset) :: rest ∧
        Located block (offset :: rest) place.statement := by
  cases block with
  | nil =>
      constructor
      · intro member
        cases member
      · intro given
        obtain ⟨_, _, _, located⟩ := given
        cases located
  | cons first others =>
      rw [Stmt.placesFrom, List.mem_append, List.mem_map,
        mem_placesFrom_iff others]
      constructor
      · intro given
        rcases given with ⟨inner, member, rfl⟩ | ⟨offset, rest, same, located⟩
        · have located := (mem_places_iff first inner).1 member
          exact ⟨0, inner.address, rfl, located_zero_iff.2 located⟩
        · refine ⟨offset + 1, rest, ?_, .tail located⟩
          rw [same, Nat.add_right_comm, Nat.add_assoc]
      · intro given
        obtain ⟨offset, rest, same, located⟩ := given
        cases offset with
        | zero =>
            obtain ⟨address, statement⟩ := place
            cases same
            refine .inl ⟨⟨rest, statement⟩, ?_, rfl⟩
            exact (mem_places_iff first _).2 (located_zero_iff.1 located)
        | succ offset =>
            cases located with
            | tail later =>
                refine .inr ⟨offset, rest, ?_, later⟩
                rw [same, Nat.add_right_comm, Nat.add_assoc]

end

mutual

theorem pairwise_places (statement : Stmt) :
    statement.places.Pairwise fun early late => early.address < late.address := by
  cases statement with
  | loop index low high body position =>
      rw [Stmt.places, List.pairwise_cons]
      refine ⟨?_, pairwise_placesFrom body 0⟩
      intro place member
      obtain ⟨offset, rest, same, _⟩ := (mem_placesFrom_iff body 0 place).1 member
      rw [same]
      exact List.nil_lt_cons _ _
  | declare name type initial position => exact List.pairwise_singleton _ _
  | assign target value position => exact List.pairwise_singleton _ _
  | read target position => exact List.pairwise_singleton _ _
  | print value position => exact List.pairwise_singleton _ _
  | assert condition position => exact List.pairwise_singleton _ _

theorem pairwise_placesFrom (block : List Stmt) (number : Nat) :
    (Stmt.placesFrom number block).Pairwise
      fun early late => early.address < late.address := by
  cases block with
  | nil => exact .nil
  | cons first others =>
      rw [Stmt.placesFrom, List.pairwise_append]
      refine ⟨?_, pairwise_placesFrom others (number + 1), ?_⟩
      · rw [List.pairwise_map]
        refine (pairwise_places first).imp ?_
        intro early late before
        exact List.cons_lt_cons_self.2 before
      · intro early inFirst late inOthers
        obtain ⟨inner, _, rfl⟩ := List.mem_map.1 inFirst
        obtain ⟨offset, rest, same, _⟩ :=
          (mem_placesFrom_iff others (number + 1) late).1 inOthers
        rw [same]
        apply List.cons_lt_cons_iff.2
        left
        omega

end

end Stmt

namespace Program

variable {program : Program}

theorem mem_places_iff {place : Place} :
    place ∈ program.places ↔
      Stmt.Located program place.address place.statement := by
  rw [places, Stmt.mem_placesFrom_iff]
  constructor
  · intro given
    obtain ⟨offset, rest, same, located⟩ := given
    rw [same, Nat.zero_add]
    exact located
  · intro located
    obtain ⟨address, statement⟩ := place
    cases address with
    | nil => exact absurd rfl located.ne_nil
    | cons offset rest =>
        exact ⟨offset, rest, by rw [Nat.zero_add], located⟩

/-- The addresses grow in the order of the text. -/
theorem pairwise_address_places (program : Program) :
    program.places.Pairwise fun early late => early.address < late.address :=
  Stmt.pairwise_placesFrom program 0

end Program

end TinyImp
