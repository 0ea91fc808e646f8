import TinyImp.Token.Lexeme

/-!
# Token streams

The tokens of a source are its lexemes without the skipped ones, each at the
place where its text begins, and one token for the end of the input.
-/

namespace TinyImp.Token

def ofLexemes : Position → List Lexeme → List Token
  | position, [] => [⟨.endOfInput, position⟩]
  | position, lexeme :: following =>
      let others := ofLexemes (position.past lexeme.text) following
      match lexeme.kind? with
      | some kind => ⟨kind, position⟩ :: others
      | none => others

/-- The tokens of a source text, the end of the input included. -/
def scan (source : String) : List Token :=
  ofLexemes .start (lexemes source.toList)

/-- The first `count` tokens of a source text, where the end of the input is
repeated for ever. -/
def scanFirst (source : String) (count : Nat) : List Token :=
  let tokens := scan source
  tokens.take count ++
    List.replicate (count - tokens.length)
      ⟨.endOfInput, Position.start.past source.toList⟩

end TinyImp.Token
