import TinyImp.Text.Extender
import TinyImp.Text.Ignorable
import TinyImp.Text.Printable

/-!
# Quoted text

Messages show characters and texts in a form that stays on one line and hides
nothing: line ends, tabs and the backslash are written as backslash sequences,
and a character that cannot be seen on its own is written by its code point.
-/

namespace TinyImp.Text

/-- The lower-case hexadecimal digits of a number, without leading zeros. -/
def hexDigits (number : Nat) : List Char :=
  Nat.toDigits 16 number

/-- A character by its code point, in braces after a backslash and a `u`. -/
def byCodePoint (character : Char) : List Char :=
  '\\' :: 'u' :: '\x7b' :: (hexDigits character.toNat ++ ['\x7d'])

/-- The half-width voiced sound marks: extenders that are letters. -/
def soundMarks : Ranges := [(0xff9e, 0xff9f)]

/-- Whether a character can be seen on its own: it is printable, leaves a mark,
and needs no character before it, unless it is a letter. -/
def showsAlone (character : Char) : Bool :=
  isPrintable character && !isIgnorable character &&
    (!isExtender character || soundMarks.contains character)

/-- A character as a message shows it, a quotation mark apart. -/
def escaped (character : Char) : List Char :=
  if character = '\x00' then ['\\', '0']
  else if character = '\t' then ['\\', 't']
  else if character = '\r' then ['\\', 'r']
  else if character = '\n' then ['\\', 'n']
  else if character = '\\' then ['\\', '\\']
  else if showsAlone character then [character]
  else byCodePoint character

/-- A character as it stands alone in a message, with both quotation marks
escaped. -/
def escapedAlone (character : Char) : List Char :=
  if character = '"' ∨ character = '\x27' then ['\\', character]
  else escaped character

/-- A character as it stands inside a quoted text, with the double quotation
mark escaped. -/
def escapedWithin (character : Char) : List Char :=
  if character = '"' then ['\\', '"'] else escaped character

def quoted (text : String) : String :=
  String.ofList ('"' :: (text.toList.flatMap escapedWithin ++ ['"']))

end TinyImp.Text
