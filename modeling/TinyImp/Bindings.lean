/-!
# Bindings

A finite map from names to values that keeps the order in which the names were
bound first.  Binding a name again replaces its value in place.  The one law
that matters is `get?_set`: after `set`, the name has the new value and every
other name has what it had.
-/

namespace TinyImp

/-- Values bound to names. -/
structure Bindings (α : Type) where
  entries : List (String × α)

namespace Bindings

variable {α : Type}

def empty : Bindings α := ⟨[]⟩

def get? (bindings : Bindings α) (name : String) : Option α :=
  bindings.entries.lookup name

def contains (bindings : Bindings α) (name : String) : Bool :=
  (bindings.get? name).isSome

def size (bindings : Bindings α) : Nat :=
  bindings.entries.length

/-- The entries after `name` has been bound to `value`. -/
def setEntries (name : String) (value : α) :
    List (String × α) → List (String × α)
  | [] => [(name, value)]
  | entry :: others =>
      if entry.1 = name then (name, value) :: others
      else entry :: setEntries name value others

def set (bindings : Bindings α) (name : String) (value : α) : Bindings α :=
  ⟨setEntries name value bindings.entries⟩

@[simp]
theorem get?_empty (name : String) :
    (empty : Bindings α).get? name = none :=
  rfl

private theorem lookup_entry (key other : String) (value : α)
    (entries : List (String × α)) :
    ((key, value) :: entries).lookup other =
      if other = key then some value else entries.lookup other := by
  by_cases same : other = key
  · simp [same]
  · have different : (other == key) = false := beq_false_of_ne same
    simp [List.lookup_cons, same, different]

private theorem lookup_setEntries (name other : String) (value : α)
    (entries : List (String × α)) :
    (setEntries name value entries).lookup other =
      if other = name then some value else entries.lookup other := by
  induction entries with
  | nil => rw [setEntries, lookup_entry]
  | cons entry entries induction =>
      obtain ⟨key, previous⟩ := entry
      by_cases found : key = name
      · subst found
        simp only [setEntries, if_pos, lookup_entry]
        split
        · rfl
        · rfl
      · simp only [setEntries, if_neg found, lookup_entry, induction]
        by_cases same : other = key
        · simp [same, found]
        · simp [same]

theorem get?_set (bindings : Bindings α) (name other : String) (value : α) :
    (bindings.set name value).get? other =
      if other = name then some value else bindings.get? other :=
  lookup_setEntries name other value bindings.entries

end Bindings

end TinyImp
