/-!
# Ranges of code points

A class of characters is given by the code points it holds, as a list of
inclusive ranges in ascending order.
-/

namespace TinyImp.Text

/-- Inclusive ranges of code points. -/
abbrev Ranges := List (Nat × Nat)

/-- Whether a character lies in one of the ranges.  The first range that
begins behind the character settles that it lies in none. -/
def Ranges.contains : Ranges → Char → Bool
  | [], _ => false
  | (low, high) :: others, character =>
      if character.toNat < low then false
      else character.toNat ≤ high || Ranges.contains others character

end TinyImp.Text
