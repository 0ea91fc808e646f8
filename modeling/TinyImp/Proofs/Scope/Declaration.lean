import TinyImp.Proofs.Tree.Address
import TinyImp.Scope.Analysis

/-!
# Declarations without scope errors

A block in which the scope analysis finds nothing declares every name once,
and the table has each name with the type it is declared with.  Every name
that a statement looks up is declared before it in the text: in its block or
in one around it, or in the body of a loop that the statement stands outside
of.
-/

namespace TinyImp

namespace SymbolTable

theorem contains_iff {symbols : SymbolTable} {name : String} :
    symbols.contains name = true ↔ ∃ symbol, symbols.get? name = some symbol :=
  Option.isSome_iff_exists

theorem get?_declare_of_absent {symbols : SymbolTable} {name : String}
    (absent : symbols.contains name = false) (symbol : Symbol)
    (other : String) :
    (symbols.declare name symbol).get? other =
      if other = name then some symbol else symbols.get? other := by
  rw [declare, absent]
  exact symbols.get?_set name other symbol

theorem get?_declare_of_some {symbols : SymbolTable} {name other : String}
    {symbol present : Symbol} (declared : symbols.get? other = some present) :
    (symbols.declare name symbol).get? other = some present := by
  cases known : symbols.contains name with
  | true =>
      rw [declare, known]
      exact declared
  | false =>
      rw [get?_declare_of_absent known]
      split
      · rename_i same
        subst same
        rw [contains_iff.2 ⟨present, declared⟩] at known
        cases known
      · exact declared

theorem contains_declare {symbols : SymbolTable} {name other : String}
    {symbol : Symbol} :
    (symbols.declare name symbol).contains other = true ↔
      symbols.contains other = true ∨ other = name := by
  cases known : symbols.contains name with
  | true =>
      rw [declare, known]
      constructor
      · exact .inl
      · intro given
        rcases given with present | same
        · exact present
        · rw [same]
          exact known
  | false =>
      simp only [contains_iff, get?_declare_of_absent known]
      by_cases same : other = name
      · simp [same]
      · simp [same]

end SymbolTable

namespace Stmt

private theorem iff_or_declares {statement : Stmt} {name : String}
    {present : Prop}
    (plain : ∀ address ident type initial position,
      ¬ Located [statement] (0 :: address)
        (.declare ident type initial position)) :
    present ↔ present ∨ ∃ address, Declares [statement] (0 :: address) name := by
  constructor
  · exact .inl
  · intro given
    rcases given with holds |
      ⟨address, ident, type, initial, position, located, _⟩
    · exact holds
    · exact absurd located (plain address ident type initial position)

mutual

/-- A name is in the table after a statement if it was there before or is
declared by the statement. -/
theorem contains_scoping_iff (statement : Stmt) (locked : List String)
    (symbols : SymbolTable) (name : String) :
    (statement.scoping locked symbols).symbols.contains name = true ↔
      symbols.contains name = true ∨
        ∃ address, Declares [statement] (0 :: address) name := by
  cases statement with
  | declare ident type initial position =>
      rw [Stmt.scoping, SymbolTable.contains_declare]
      constructor
      · intro given
        rcases given with present | same
        · exact .inl present
        · exact .inr ⟨[], ident, type, initial, position, .head, same.symm⟩
      · intro given
        rcases given with present |
          ⟨address, ident, type, initial, position, located, same⟩
        · exact .inl present
        · cases located
          exact .inr same.symm
  | loop index low high body position =>
      rw [Stmt.scoping, contains_scopingList_iff body]
      constructor
      · intro given
        rcases given with present | ⟨address, declares⟩
        · exact .inl present
        · exact .inr ⟨address, declares.body⟩
      · intro given
        rcases given with present |
          ⟨address, ident, type, initial, position, located, same⟩
        · exact .inl present
        · cases located with
          | body inner =>
              exact .inr ⟨address, ident, type, initial, position, inner, same⟩
  | assign target value position => exact iff_or_declares nofun
  | read target position => exact iff_or_declares nofun
  | print value position => exact iff_or_declares nofun
  | assert condition position => exact iff_or_declares nofun

theorem contains_scopingList_iff (block : List Stmt) (locked : List String)
    (symbols : SymbolTable) (name : String) :
    (Stmt.scopingList locked symbols block).symbols.contains name = true ↔
      symbols.contains name = true ∨
        ∃ address, Declares block address name := by
  cases block with
  | nil =>
      rw [Stmt.scopingList]
      constructor
      · exact .inl
      · intro given
        rcases given with present |
          ⟨address, ident, type, initial, position, located, same⟩
        · exact present
        · cases located
  | cons first others =>
      rw [Stmt.scopingList, contains_scopingList_iff others,
        contains_scoping_iff first, exists_declares_cons_iff, or_assoc]

end

mutual

theorem get?_scoping_of_some (statement : Stmt) (locked : List String)
    {symbols : SymbolTable} {name : String} {symbol : Symbol}
    (present : symbols.get? name = some symbol) :
    (statement.scoping locked symbols).symbols.get? name = some symbol := by
  cases statement with
  | declare ident type initial position =>
      exact SymbolTable.get?_declare_of_some present
  | loop index low high body position =>
      rw [Stmt.scoping]
      exact get?_scopingList_of_some body _ present
  | assign target value position => exact present
  | read target position => exact present
  | print value position => exact present
  | assert condition position => exact present

theorem get?_scopingList_of_some (block : List Stmt) (locked : List String)
    {symbols : SymbolTable} {name : String} {symbol : Symbol}
    (present : symbols.get? name = some symbol) :
    (Stmt.scopingList locked symbols block).symbols.get? name =
      some symbol := by
  cases block with
  | nil =>
      rw [Stmt.scopingList]
      exact present
  | cons first others =>
      rw [Stmt.scopingList]
      exact get?_scopingList_of_some others _
        (get?_scoping_of_some first locked present)

end

theorem scopingList_cons_errors {first : Stmt} {others : List Stmt}
    {locked : List String} {symbols : SymbolTable}
    (clean : (Stmt.scopingList locked symbols (first :: others)).errors = []) :
    (first.scoping locked symbols).errors = [] ∧
      (Stmt.scopingList (first.scoping locked symbols).locked
        (first.scoping locked symbols).symbols others).errors = [] := by
  rw [Stmt.scopingList] at clean
  exact List.append_eq_nil_iff.1 clean

theorem scoping_loop_errors {index : Ident} {low high : Expr}
    {body : List Stmt} {position : Position} {locked : List String}
    {symbols : SymbolTable}
    (clean : ((Stmt.loop index low high body position).scoping locked
      symbols).errors = []) :
    (Stmt.scopingList (locked.insert index.name) symbols body).errors =
      [] := by
  rw [Stmt.scoping] at clean
  exact (List.append_eq_nil_iff.1 clean).2

/-- A declaration is the first of its name, and the table has it. -/
theorem Located.get?_declare {block : List Stmt} {address : Address}
    {name : Ident} {type : Ty} {initial : Option Expr} {position : Position}
    {locked : List String} {symbols : SymbolTable}
    (located : Located block address (.declare name type initial position))
    (clean : (Stmt.scopingList locked symbols block).errors = []) :
    symbols.contains name.name = false ∧
      (Stmt.scopingList locked symbols block).symbols.get? name.name =
        some ⟨type, position⟩ := by
  generalize found : Stmt.declare name type initial position = statement
    at located
  induction located generalizing locked symbols with
  | head =>
      subst found
      obtain ⟨firstClean, _⟩ := scopingList_cons_errors clean
      rw [Stmt.scoping] at firstClean
      have absent : symbols.contains name.name = false := by
        have unflagged := (List.append_eq_nil_iff.1 firstClean).2
        cases known : symbols.contains name.name with
        | false => rfl
        | true =>
            rw [known] at unflagged
            cases unflagged
      refine ⟨absent, ?_⟩
      rw [Stmt.scopingList]
      apply get?_scopingList_of_some
      rw [Stmt.scoping, SymbolTable.get?_declare_of_absent absent, if_pos rfl]
  | body inner induction =>
      obtain ⟨firstClean, _⟩ := scopingList_cons_errors clean
      obtain ⟨absent, entered⟩ :=
        induction (scoping_loop_errors firstClean) found
      refine ⟨absent, ?_⟩
      rw [Stmt.scopingList, Stmt.scoping]
      exact get?_scopingList_of_some _ _ entered
  | @tail first others number rest statement later induction =>
      obtain ⟨_, othersClean⟩ := scopingList_cons_errors clean
      obtain ⟨absent, entered⟩ := induction othersClean found
      refine ⟨?_, ?_⟩
      · cases known : symbols.contains name.name with
        | false => rfl
        | true =>
            rw [(contains_scoping_iff first locked symbols name.name).2
              (.inl known)] at absent
            cases absent
      · rw [Stmt.scopingList]
        exact entered

theorem Declares.absent {block : List Stmt} {address : Address} {name : String}
    {locked : List String} {symbols : SymbolTable}
    (declares : Declares block address name)
    (clean : (Stmt.scopingList locked symbols block).errors = []) :
    symbols.contains name = false := by
  obtain ⟨ident, type, initial, position, located, rfl⟩ := declares
  exact (located.get?_declare clean).1

theorem Declares.not_again {first : Stmt} {others : List Stmt}
    {early late : Address} {name : String} {locked : List String}
    {symbols : SymbolTable}
    (declares : Declares [first] (0 :: early) name)
    (again : Declares others late name)
    (clean : (Stmt.scopingList locked symbols (first :: others)).errors = []) :
    False := by
  have absent := again.absent (scopingList_cons_errors clean).2
  rw [(contains_scoping_iff first locked symbols name).2
    (.inr ⟨early, declares⟩)] at absent
  cases absent

/-- Every name is declared at one place only. -/
theorem Declares.unique {block : List Stmt} {left right : Address}
    {name : String} {locked : List String} {symbols : SymbolTable}
    (first : Declares block left name) (second : Declares block right name)
    (clean : (Stmt.scopingList locked symbols block).errors = []) :
    left = right := by
  obtain ⟨ident, type, initial, position, located, same⟩ := first
  obtain ⟨ident', type', initial', position', located', same'⟩ := second
  generalize found : Stmt.declare ident type initial position = statement
    at located
  induction located generalizing right locked symbols with
  | head =>
      subst found
      cases located' with
      | head => rfl
      | tail later =>
          exact (Declares.not_again ⟨ident, _, _, _, .head, same⟩
            ⟨ident', _, _, _, later, same'⟩ clean).elim
  | body inner induction =>
      subst found
      cases located' with
      | body inner' =>
          have bodyClean :=
            scoping_loop_errors (scopingList_cons_errors clean).1
          rw [induction bodyClean inner' rfl]
      | tail later =>
          exact (Declares.not_again ⟨ident, _, _, _, .body inner, same⟩
            ⟨ident', _, _, _, later, same'⟩ clean).elim
  | tail later induction =>
      subst found
      cases located' with
      | head =>
          exact (Declares.not_again ⟨ident', _, _, _, .head, same'⟩
            ⟨ident, _, _, _, later, same⟩ clean).elim
      | body inner' =>
          exact (Declares.not_again ⟨ident', _, _, _, .body inner', same'⟩
            ⟨ident, _, _, _, later, same⟩ clean).elim
      | tail later' =>
          have othersClean := (scopingList_cons_errors clean).2
          have equal := induction othersClean later' rfl
          cases equal
          rfl

theorem contains_of_use {symbols : SymbolTable} {name : String}
    {position : Position} (clean : symbols.use name position = []) :
    symbols.contains name = true := by
  cases known : symbols.contains name with
  | true => rfl
  | false =>
      rw [SymbolTable.use, known] at clean
      cases clean

end Stmt

theorem Expr.contains_of_scopeErrors {symbols : SymbolTable} {name : String}
    (expression : Expr) (clean : expression.scopeErrors symbols = [])
    (member : name ∈ expression.names) : symbols.contains name = true := by
  induction expression with
  | number value position => cases member
  | text value position => cases member
  | named other position =>
      rw [List.mem_singleton.1 member]
      exact Stmt.contains_of_use clean
  | lone operand position induction => exact induction clean member
  | negation operand position induction => exact induction clean member
  | binary operator left right position leftInduction rightInduction =>
      obtain ⟨leftClean, rightClean⟩ := List.append_eq_nil_iff.1 clean
      rcases List.mem_append.1 member with inLeft | inRight
      · exact leftInduction leftClean inLeft
      · exact rightInduction rightClean inRight

namespace Stmt

/-- The names that a statement looks up are declared before it if nothing is
found in the statement. -/
theorem contains_of_consults {statement : Stmt} {locked : List String}
    {symbols : SymbolTable} {name : String}
    (clean : (statement.scoping locked symbols).errors = [])
    (member : name ∈ statement.consults) : symbols.contains name = true := by
  cases statement with
  | declare ident type initial position =>
      rw [Stmt.scoping] at clean
      cases initial with
      | none => cases member
      | some value =>
          exact value.contains_of_scopeErrors
            (List.append_eq_nil_iff.1 clean).1 member
  | assign target value position =>
      rw [Stmt.scoping] at clean
      exact value.contains_of_scopeErrors
        (List.append_eq_nil_iff.1 clean).2 member
  | loop index low high body position =>
      rw [Stmt.scoping] at clean
      obtain ⟨bounds, highClean⟩ :=
        List.append_eq_nil_iff.1 (List.append_eq_nil_iff.1 clean).1
      rcases List.mem_append.1 member with inLow | inHigh
      · exact low.contains_of_scopeErrors
          (List.append_eq_nil_iff.1 bounds).2 inLow
      · exact high.contains_of_scopeErrors highClean inHigh
  | read target position =>
      rw [Stmt.scoping] at clean
      rw [List.mem_singleton.1 member]
      exact contains_of_use (List.append_eq_nil_iff.1 clean).1
  | print value position => exact value.contains_of_scopeErrors clean member
  | assert condition position =>
      exact condition.contains_of_scopeErrors clean member

/-- The names that a statement uses are declared before it if nothing is found
in the statement. -/
theorem contains_of_uses {statement : Stmt} {locked : List String}
    {symbols : SymbolTable} {name : String}
    (clean : (statement.scoping locked symbols).errors = [])
    (member : name ∈ statement.uses) : symbols.contains name = true := by
  cases statement with
  | assign target value position =>
      rcases List.mem_cons.1 member with here | inValue
      · rw [Stmt.scoping] at clean
        rw [here]
        have target := (List.append_eq_nil_iff.1 clean).1
        exact contains_of_use (List.append_eq_nil_iff.1 target).1
      · exact contains_of_consults clean inValue
  | loop index low high body position =>
      rcases List.mem_cons.1 member with here | inBounds
      · rw [Stmt.scoping] at clean
        rw [here]
        have highest := (List.append_eq_nil_iff.1 clean).1
        have bounds := (List.append_eq_nil_iff.1 highest).1
        have indices := (List.append_eq_nil_iff.1 bounds).1
        exact contains_of_use (List.append_eq_nil_iff.1 indices).1
      · exact contains_of_consults clean inBounds
  | declare _ _ _ _ | read _ _ | print _ _ | assert _ _ =>
      exact contains_of_consults clean member

mutual

/-- The table after a statement has all the names in it if nothing is found in
the statement. -/
theorem contains_of_mentions (statement : Stmt) {locked : List String}
    {symbols : SymbolTable} {name : String}
    (clean : (statement.scoping locked symbols).errors = [])
    (member : name ∈ statement.mentions) :
    (statement.scoping locked symbols).symbols.contains name = true := by
  cases statement with
  | loop index low high body position =>
      rw [Stmt.mentions] at member
      rcases List.mem_append.1 member with used | inBody
      · exact (contains_scoping_iff _ _ _ _).2
          (.inl (contains_of_uses clean used))
      · rw [Stmt.scoping]
        exact contains_of_mentionsList body (scoping_loop_errors clean) inBody
  | declare _ _ _ _ | assign _ _ _ | read _ _ | print _ _ | assert _ _ =>
      exact (contains_scoping_iff _ _ _ _).2
        (.inl (contains_of_uses clean member))

theorem contains_of_mentionsList (block : List Stmt) {locked : List String}
    {symbols : SymbolTable} {name : String}
    (clean : (Stmt.scopingList locked symbols block).errors = [])
    (member : name ∈ Stmt.mentionsList block) :
    (Stmt.scopingList locked symbols block).symbols.contains name = true := by
  cases block with
  | nil => cases member
  | cons first others =>
      obtain ⟨firstClean, othersClean⟩ := scopingList_cons_errors clean
      rw [Stmt.scopingList]
      rcases List.mem_append.1 member with inFirst | inOthers
      · exact (contains_scopingList_iff _ _ _ _).2
          (.inl (contains_of_mentions first firstClean inFirst))
      · exact contains_of_mentionsList others othersClean inOthers

end

/-- A name that is looked up in a block was declared before the block, or is
declared in the block: before the statement that looks it up, or in the body
of a loop around which that statement does not stand. -/
theorem Located.declared {block : List Stmt} {access : Address}
    {statement : Stmt} {locked : List String} {symbols : SymbolTable}
    {name : String} (located : Located block access statement)
    (clean : (Stmt.scopingList locked symbols block).errors = [])
    (member : name ∈ statement.consults) :
    symbols.contains name = true ∨
      ∃ declaration, Declares block declaration name ∧
        (declaration.Leads access ∨ OutOfLoop block declaration access) := by
  induction located generalizing locked symbols with
  | head =>
      exact .inl (contains_of_consults (scopingList_cons_errors clean).1 member)
  | body inner induction =>
      have bodyClean := scoping_loop_errors (scopingList_cons_errors clean).1
      rcases induction bodyClean member with
        before | ⟨declaration, declares, leads | out⟩
      · exact .inl before
      · exact .inr ⟨0 :: declaration, declares.body, .inl (.deeper leads)⟩
      · exact .inr ⟨0 :: declaration, declares.body, .inr out.body⟩
  | @tail first others number rest statement later induction =>
      rcases induction (scopingList_cons_errors clean).2 member with
        before | ⟨declaration, declares, place⟩
      · rcases (contains_scoping_iff first locked symbols name).1 before with
          earlier | ⟨early, declares⟩
        · exact .inl earlier
        · exact .inr ⟨0 :: early, declares.leads_or_outOfLoop⟩
      · cases declaration with
        | nil => exact absurd rfl declares.ne_nil
        | cons early deeper =>
            refine .inr ⟨(early + 1) :: deeper, declares.tail, ?_⟩
            rcases place with leads | out
            · exact .inl leads.succ
            · exact .inr out.tail

end Stmt

end TinyImp
