import TinyImp.Grammar.Production

/-!
# Recovery

Reading a program does not stop at a mismatch.  A recovering reader always
gives a value and a place to go on from, together with the mismatches that it
met on its way, in the order in which it met them.
-/

namespace TinyImp

/-- What a recovering reader gives. -/
structure Recovered (α : Type) where
  value : α
  mismatches : List Mismatch
  rest : Cursor

/-- A reader that goes on after a mismatch. -/
def Recovering (α : Type) : Type :=
  Cursor → Recovered α

namespace Recovering

instance : Monad Recovering where
  pure value := fun cursor => ⟨value, [], cursor⟩
  bind reader next := fun cursor =>
    let early := reader cursor
    let late := next early.value early.rest
    ⟨late.value, early.mismatches ++ late.mismatches, late.rest⟩

def current : Recovering Token :=
  fun cursor => ⟨cursor.current, [], cursor⟩

def size : Recovering Nat :=
  fun cursor => ⟨cursor.size, [], cursor⟩

def move (skip : Cursor → Cursor) : Recovering Unit :=
  fun cursor => ⟨(), [], skip cursor⟩

/-- Notes that the token in view is not what was expected. -/
def mismatch (expected : Expected) : Recovering Unit :=
  fun cursor => ⟨(), [⟨expected, cursor.current⟩], cursor⟩

/-- Reads with a production.  Where it fails, that is the one mismatch, and
there is no value. -/
def attempt {α : Type} (production : Production α) :
    Recovering (Option α) :=
  fun cursor =>
    match production cursor with
    | .ok value rest => ⟨some value, [], rest⟩
    | .error expected rest => ⟨none, [⟨expected, rest.current⟩], rest⟩

end Recovering

end TinyImp
