import TinyImp.Proofs.Scope.Rules

/-!
# First declarations

A program may declare a name several times, in any of its loops.  What the
scope analysis makes of that depends on the order of the text alone: the table
holds the first declaration of every name, in that order, and every other
declaration is an error where it stands.

The analysis meets the declarations one after another and asks the table.
`Stmt.Agrees` says that the table then holds what is declared before the
place, so the declarations that it enters are those with none before them.
-/

namespace TinyImp

/-- A declaration in a program. -/
structure Declaration where
  address : Address
  name : String
  symbol : Symbol

namespace Declaration

def entry (declaration : Declaration) : String × Symbol :=
  (declaration.name, declaration.symbol)

/-- The error that a declaration is if its name is declared before it. -/
def redeclaration (declaration : Declaration) : ScopeError :=
  ⟨.redeclared, declaration.name, declaration.symbol.declaredAt⟩

end Declaration

/-- The declaration that stands at a place. -/
def Place.declaration? (place : Place) : Option Declaration :=
  match place.statement with
  | .declare name type _ position =>
      some ⟨place.address, name.name, ⟨type, position⟩⟩
  | .assign _ _ _ | .loop _ _ _ _ _ | .read _ _ | .print _ _
  | .assert _ _ => none

/-- What the table gets at a place: a declaration, if its name is not declared
before. -/
def Place.entered? (declared : Address → String → Bool) (place : Place) :
    Option (String × Symbol) :=
  (place.declaration?.filter fun declaration =>
    !declared declaration.address declaration.name).map Declaration.entry

namespace Program

/-- The declarations of a program at any depth, in the order of the text. -/
def declarations (program : Program) : List Declaration :=
  program.places.filterMap Place.declaration?

/-- The declarations of a name that is not declared before them. -/
def firstDeclarations (program : Program) : List Declaration :=
  program.declarations.filter fun declaration =>
    !program.declaredBefore declaration.address declaration.name

/-- The declarations of a name that is declared before them. -/
def redeclarations (program : Program) : List Declaration :=
  program.declarations.filter fun declaration =>
    program.declaredBefore declaration.address declaration.name

end Program

/-! ## The table -/

private theorem setEntries_of_absent {α : Type} {name : String}
    {entries : List (String × α)}
    (absent : ∀ entry ∈ entries, (name != entry.1) = true) (value : α) :
    Bindings.setEntries name value entries = entries ++ [(name, value)] := by
  induction entries with
  | nil => rfl
  | cons entry entries induction =>
      obtain ⟨different, others⟩ := List.forall_mem_cons.1 absent
      rw [Bindings.setEntries, if_neg (bne_iff_ne.1 different).symm,
        induction others, List.cons_append]

/-- A name that is declared for the first time comes behind all others. -/
theorem SymbolTable.entries_declare (symbols : SymbolTable) (name : String)
    (symbol : Symbol) :
    (symbols.declare name symbol).entries =
      symbols.entries ++
        if symbols.contains name then [] else [(name, symbol)] := by
  rw [SymbolTable.declare]
  cases known : symbols.contains name with
  | true => exact (List.append_nil _).symm
  | false =>
      apply setEntries_of_absent
      apply List.lookup_eq_none_iff.1
      apply Option.isNone_iff_eq_none.1
      exact Option.isSome_eq_false_iff.1 known

theorem Place.entered?_declare (declared : Address → String → Bool)
    (address : Address) (name : Ident) (type : Ty) (initial : Option Expr)
    (position : Position) :
    Place.entered? declared ⟨address, .declare name type initial position⟩ =
      if declared address name.name then none
      else some (name.name, ⟨type, position⟩) := by
  rw [Place.entered?, Place.declaration?, Option.filter_some]
  cases declared address name.name with
  | true => rfl
  | false => rfl

theorem Place.entered?_within (declared : Address → String → Bool)
    (number : Nat) (place : Place) :
    (place.within number).entered? declared =
      place.entered? fun address => declared (number :: address) := by
  obtain ⟨address, statement⟩ := place
  cases statement with
  | declare => rw [Place.within, Place.entered?_declare, Place.entered?_declare]
  | assign | loop | read | print | assert => rfl

namespace Stmt

mutual

/-- A statement adds the declarations to the table that have none before
them. -/
theorem scoping_entries_eq (statement : Stmt) {others : List Stmt}
    {number : Nat} {locked : List String} {symbols : SymbolTable}
    {declared index : Address → String → Bool}
    (agrees : Agrees (statement :: others) number locked symbols declared
      index) :
    (statement.scoping locked symbols).symbols.entries =
      symbols.entries ++
        (statement.places.map (Place.within number)).filterMap
          (Place.entered? declared) := by
  cases statement with
  | declare name type initial position =>
      have flat : (Stmt.declare name type initial position).places =
          [⟨[], .declare name type initial position⟩] := rfl
      rw [Stmt.scoping, SymbolTable.entries_declare, ← agrees.declared_eq,
        flat, List.map_singleton, List.filterMap_cons, Place.within,
        Place.entered?_declare]
      cases declared [number] name.name with
      | true => rfl
      | false => rfl
  | loop loopIndex low high body position =>
      rw [Stmt.scoping, scopingList_entries_eq body agrees.loopBody,
        Stmt.places, List.map_cons, List.filterMap_cons, List.filterMap_map]
      congr 2
      funext place
      exact (Place.entered?_within declared number place).symm
  | assign | read | print | assert => exact (List.append_nil _).symm

theorem scopingList_entries_eq (block : List Stmt) {number : Nat}
    {locked : List String} {symbols : SymbolTable}
    {declared index : Address → String → Bool}
    (agrees : Agrees block number locked symbols declared index) :
    (Stmt.scopingList locked symbols block).symbols.entries =
      symbols.entries ++
        (Stmt.placesFrom number block).filterMap (Place.entered? declared) := by
  cases block with
  | nil => exact (List.append_nil _).symm
  | cons first others =>
      rw [Stmt.scopingList, Stmt.placesFrom, List.filterMap_append,
        scopingList_entries_eq others agrees.tail,
        scoping_entries_eq first agrees, List.append_assoc]

end

end Stmt

namespace Program

theorem symbols_entries_eq (program : Program) :
    program.scoping.symbols.entries =
      program.firstDeclarations.map Declaration.entry := by
  have added := Stmt.scopingList_entries_eq program program.agrees_start
  rw [firstDeclarations, declarations, List.filter_filterMap,
    List.map_filterMap]
  exact added

end Program

/-! ## The order of the declarations -/

namespace Place

theorem address_of_declaration? {place : Place} {declaration : Declaration}
    (declares : place.declaration? = some declaration) :
    declaration.address = place.address := by
  obtain ⟨address, statement⟩ := place
  cases statement with
  | declare => cases declares; rfl
  | assign | loop | read | print | assert => cases declares

theorem declares_iff (place : Place) {name : String} :
    place.statement.declares name = true ↔
      ∃ declaration, place.declaration? = some declaration ∧
        declaration.name = name := by
  obtain ⟨address, statement⟩ := place
  cases statement with
  | declare ident type initial position =>
      constructor
      · intro same
        exact ⟨_, rfl, beq_iff_eq.1 same⟩
      · rintro ⟨declaration, declares, same⟩
        cases declares
        exact beq_iff_eq.2 same
  | assign | loop | read | print | assert =>
      constructor
      · intro declares
        cases declares
      · rintro ⟨declaration, declares, _⟩
        cases declares

end Place

namespace Program

variable {program : Program} {name : String}

theorem declares_iff_exists_declaration {address : Address} :
    Stmt.Declares program address name ↔
      ∃ declaration ∈ program.declarations,
        declaration.address = address ∧ declaration.name = name := by
  rw [Stmt.declares_iff]
  constructor
  · rintro ⟨statement, located, declares⟩
    let place : Place := ⟨address, statement⟩
    have member : place ∈ program.places := mem_places_iff.2 located
    obtain ⟨declaration, stands, same⟩ := place.declares_iff.1 declares
    exact ⟨declaration, List.mem_filterMap.2 ⟨place, member, stands⟩,
      Place.address_of_declaration? stands, same⟩
  · rintro ⟨declaration, member, rfl, same⟩
    obtain ⟨place, inside, stands⟩ := List.mem_filterMap.1 member
    rw [Place.address_of_declaration? stands]
    exact ⟨place.statement, mem_places_iff.1 inside,
      place.declares_iff.2 ⟨declaration, stands, same⟩⟩

theorem declaredBefore_iff_exists_declaration {address : Address} :
    program.declaredBefore address name = true ↔
      ∃ declaration ∈ program.declarations,
        declaration.name = name ∧ declaration.address < address := by
  rw [declaredBefore_iff]
  constructor
  · rintro ⟨earlier, declares, before⟩
    obtain ⟨declaration, member, rfl, same⟩ :=
      declares_iff_exists_declaration.1 declares
    exact ⟨declaration, member, same, before⟩
  · rintro ⟨declaration, member, same, before⟩
    exact ⟨declaration.address,
      declares_iff_exists_declaration.2 ⟨declaration, member, rfl, same⟩,
      before⟩

theorem pairwise_declarations (program : Program) :
    program.declarations.Pairwise
      fun early late => early.address < late.address := by
  apply program.pairwise_address_places.filterMap
  intro early late before first isFirst second isSecond
  rw [Place.address_of_declaration? isFirst,
    Place.address_of_declaration? isSecond]
  exact before

/-- Of the declarations of a name the first is entered. -/
theorem find?_firstDeclarations (program : Program) (name : String) :
    program.firstDeclarations.find? (·.name == name) =
      program.declarations.find? (·.name == name) := by
  rw [firstDeclarations, List.find?_filter]
  cases found : program.declarations.find? (·.name == name) with
  | none =>
      apply List.find?_eq_none.2
      intro declaration member both
      exact List.find?_eq_none.1 found declaration member
        (of_decide_eq_true both).2
  | some declaration =>
      obtain ⟨same, early, late, split, others⟩ :=
        List.find?_eq_some_iff_append.1 found
      have fresh : program.declaredBefore declaration.address
          declaration.name = false := by
        apply Bool.eq_false_iff.2
        intro known
        obtain ⟨earlier, member, alike, before⟩ :=
          declaredBefore_iff_exists_declaration.1 known
        -- An earlier declaration of the name would stand before this one in
        -- the list, where there is none.
        have ordered := program.pairwise_declarations
        rw [split, List.pairwise_append, List.pairwise_cons] at ordered
        rw [split, List.mem_append, List.mem_cons] at member
        rcases member with inEarly | rfl | inLate
        · have other := others earlier inEarly
          rw [alike, same] at other
          cases other
        · exact List.lt_irrefl _ before
        · exact List.lt_asymm before (ordered.2.1.1 earlier inLate)
      apply List.find?_eq_some_iff_append.2
      refine ⟨decide_eq_true ⟨?_, same⟩, early, late, split, ?_⟩
      · rw [fresh]
        rfl
      · intro other member
        have different := others other member
        rw [Bool.not_eq_true'] at different ⊢
        apply decide_eq_false
        rw [different]
        exact fun both => Bool.noConfusion both.2

/-- No two of the declarations that are entered have one name. -/
theorem nodup_firstDeclarations (program : Program) :
    (program.firstDeclarations.map Declaration.name).Nodup := by
  rw [List.Nodup, List.pairwise_map, firstDeclarations, List.pairwise_filter]
  -- Of two declarations of one name the later has the earlier before it.
  apply program.pairwise_declarations.imp_of_mem
  intro early late member _ before _ fresh same
  have known : program.declaredBefore late.address late.name = true :=
    declaredBefore_iff_exists_declaration.2 ⟨early, member, same, before⟩
  rw [known] at fresh
  cases fresh

end Program

/-! ## Redeclarations -/

theorem Expr.rule_of_mem_occurrences (expression : Expr) :
    ∀ occurrence ∈ expression.occurrences,
      occurrence.rule = .undeclared := by
  induction expression with
  | number value position => exact List.forall_mem_nil _
  | text value position => exact List.forall_mem_nil _
  | named name position => exact List.forall_mem_singleton.2 rfl
  | lone operand position induction => exact induction
  | negation operand position induction => exact induction
  | binary operator left right position leftInduction rightInduction =>
      exact List.forall_mem_append.2 ⟨leftInduction, rightInduction⟩

/-- Whether an error is the second declaration of a name, or a later one. -/
def ScopeError.isRedeclaration (error : ScopeError) : Bool :=
  error.rule == .redeclared

theorem Expr.filter_isRedeclaration (expression : Expr) :
    expression.occurrences.filter ScopeError.isRedeclaration = [] := by
  apply List.filter_eq_nil_iff.2
  intro occurrence member
  rw [ScopeError.isRedeclaration,
    expression.rule_of_mem_occurrences occurrence member]
  decide

namespace Place

/-- Of the names that occur at a place only the one that is declared there can
be declared twice. -/
theorem filter_isRedeclaration_occurrences (place : Place) :
    place.statement.occurrences.filter ScopeError.isRedeclaration =
      (place.declaration?.map Declaration.redeclaration).toList := by
  obtain ⟨address, statement⟩ := place
  cases statement with
  | declare name type initial position =>
      change List.filter _ (initial.elim [] Expr.occurrences ++ _) = _
      rw [List.filter_append]
      cases initial with
      | none => rfl
      | some value =>
          change List.filter _ value.occurrences ++ _ = _
          rw [value.filter_isRedeclaration]
          rfl
  | assign target value position => exact value.filter_isRedeclaration
  | loop index low high body position =>
      change List.filter _ (low.occurrences ++ high.occurrences) = _
      rw [List.filter_append, low.filter_isRedeclaration,
        high.filter_isRedeclaration]
      rfl
  | read target position => rfl
  | print value position => exact value.filter_isRedeclaration
  | assert condition position => exact condition.filter_isRedeclaration

theorem filter_isRedeclaration_violations
    (declared index : Address → String → Bool) (place : Place) :
    (place.violations declared index).filter ScopeError.isRedeclaration =
      ((place.declaration?.filter fun declaration =>
        declared declaration.address declaration.name).map
          Declaration.redeclaration).toList := by
  have commuted : (place.violations declared index).filter
        ScopeError.isRedeclaration =
      (place.statement.occurrences.filter ScopeError.isRedeclaration).filter
        (ScopeError.broken (declared place.address) (index place.address)) := by
    rw [violations, List.filter_filter, List.filter_filter]
    simp only [Bool.and_comm]
  rw [commuted, filter_isRedeclaration_occurrences]
  cases stands : place.declaration? with
  | none => rfl
  | some declaration =>
      rw [← address_of_declaration? stands, Option.filter_some]
      change List.filter _ [declaration.redeclaration] = _
      rw [ScopeError.filter_broken_cons]
      change ScopeError.flagged
        (declared declaration.address declaration.name) _ ++ [] = _
      cases declared declaration.address declaration.name with
      | true => rfl
      | false => rfl

end Place

theorem redeclared_violations_eq (declared index : Address → String → Bool)
    (places : List Place) :
    (places.flatMap (Place.violations declared index)).filter
        ScopeError.isRedeclaration =
      ((places.filterMap Place.declaration?).filter fun declaration =>
        declared declaration.address declaration.name).map
          Declaration.redeclaration := by
  rw [List.filter_flatMap, List.filter_filterMap, List.map_filterMap]
  induction places with
  | nil => rfl
  | cons place places induction =>
      rw [List.flatMap_cons, List.filterMap_cons, induction,
        Place.filter_isRedeclaration_violations]
      cases place.declaration?.filter _ with
      | none => rfl
      | some declaration => rfl

theorem Declaration.lookup_entries (declarations : List Declaration)
    (name : String) :
    (declarations.map Declaration.entry).lookup name =
      (declarations.find? (·.name == name)).map Declaration.symbol := by
  induction declarations with
  | nil => rfl
  | cons declaration declarations induction =>
      rw [List.map_cons, List.find?_cons, Declaration.entry, List.lookup_cons,
        induction, BEq.comm]
      cases declaration.name == name with
      | true => rfl
      | false => rfl

namespace Program

theorem redeclared_errors_eq (program : Program) :
    program.scoping.errors.filter ScopeError.isRedeclaration =
      program.redeclarations.map Declaration.redeclaration := by
  rw [scoping_errors_eq_violations]
  exact redeclared_violations_eq _ _ _

theorem length_redeclarations_add (program : Program) :
    program.redeclarations.length + program.firstDeclarations.length =
      program.declarations.length := by
  rw [redeclarations, firstDeclarations, ← List.countP_eq_length_filter,
    ← List.countP_eq_length_filter,
    List.length_eq_countP_add_countP fun declaration : Declaration =>
      program.declaredBefore declaration.address declaration.name]
  simp only [Bool.not_eq_true, Bool.decide_eq_false]

theorem symbols_get?_eq (program : Program) (name : String) :
    program.scoping.symbols.get? name =
      (program.firstDeclarations.find? (·.name == name)).map
        Declaration.symbol := by
  rw [Bindings.get?, symbols_entries_eq, Declaration.lookup_entries]

theorem size_symbols (program : Program) :
    program.scoping.symbols.size = program.firstDeclarations.length := by
  rw [Bindings.size, symbols_entries_eq, List.length_map]

theorem contains_symbols_iff (program : Program) (name : String) :
    program.scoping.symbols.contains name = true ↔
      ∃ address, Stmt.Declares program address name := by
  rw [scoping, Stmt.contains_scopingList_iff]
  apply or_iff_right
  intro known
  cases known

theorem mem_names_firstDeclarations_iff (program : Program) (name : String) :
    name ∈ program.firstDeclarations.map Declaration.name ↔
      program.scoping.symbols.contains name = true := by
  rw [Bindings.contains, symbols_get?_eq, Option.isSome_map, List.find?_isSome,
    List.mem_map]
  simp only [beq_iff_eq]

/-- The table of a program holds the first declaration of every name that is
declared in it, at any depth and with or without other errors, and nothing
else.  Every other declaration is an error where it stands, in the order of
the text. -/
theorem scoping_keeps_first_declarations (program : Program) :
    (∀ name, program.scoping.symbols.contains name = true ↔
        ∃ address, Stmt.Declares program address name) ∧
      (∀ name, program.scoping.symbols.get? name =
        (program.declarations.find? (·.name == name)).map
          Declaration.symbol) ∧
      (∃ names : List String, names.Nodup ∧
        (∀ name, name ∈ names ↔ ∃ address, Stmt.Declares program address name) ∧
        program.scoping.symbols.size = names.length) ∧
      program.scoping.errors.filter ScopeError.isRedeclaration =
        program.redeclarations.map Declaration.redeclaration ∧
      (program.scoping.errors.filter ScopeError.isRedeclaration).length +
          program.scoping.symbols.size =
        program.declarations.length := by
  refine ⟨program.contains_symbols_iff, ?_, ?_, program.redeclared_errors_eq,
    ?_⟩
  · intro name
    rw [symbols_get?_eq, find?_firstDeclarations]
  · refine ⟨program.firstDeclarations.map Declaration.name,
      program.nodup_firstDeclarations, ?_, ?_⟩
    · intro name
      rw [mem_names_firstDeclarations_iff, contains_symbols_iff]
    · rw [size_symbols, List.length_map]
  · rw [redeclared_errors_eq, List.length_map, size_symbols,
      length_redeclarations_add]

-- A declaration in a loop counts as the first, and the one behind the loop is
-- an error that leaves the table as it is.
example :
    let zero := Expr.number .zero ⟨1, 1⟩
    let inside := Stmt.declare ⟨"x", ⟨2, 7⟩⟩ .int none ⟨2, 3⟩
    let again := Stmt.declare ⟨"x", ⟨4, 5⟩⟩ .string none ⟨4, 1⟩
    let program := [.loop ⟨"i", ⟨1, 5⟩⟩ zero zero [inside] ⟨1, 1⟩, again]
    (scoping program).symbols.get? "x" = some ⟨.int, ⟨2, 3⟩⟩ ∧
      (redeclarations program).map Declaration.redeclaration =
        [⟨.redeclared, "x", ⟨4, 1⟩⟩] := by
  decide

end Program

end TinyImp
