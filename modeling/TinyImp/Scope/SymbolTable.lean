import TinyImp.Bindings
import TinyImp.Tree.Basic

/-!
# Symbol tables

The declared variables of a program: each name with the type and the place of
its first declaration.  A second declaration of a name changes nothing.
-/

namespace TinyImp

structure Symbol where
  type : Ty
  declaredAt : Position
deriving DecidableEq

abbrev SymbolTable := Bindings Symbol

namespace SymbolTable

/-- Enters a declaration, unless the name is declared already. -/
def declare (symbols : SymbolTable) (name : String) (symbol : Symbol) :
    SymbolTable :=
  if symbols.contains name then symbols else symbols.set name symbol

def typeOf? (symbols : SymbolTable) (name : String) : Option Ty :=
  (symbols.get? name).map Symbol.type

end SymbolTable

end TinyImp
