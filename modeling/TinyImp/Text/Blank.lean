import TinyImp.Text.Ranges

/-!
# White space

The characters with the Unicode property `White_Space`, and texts without the
white space at their ends.
-/

namespace TinyImp.Text

/-- Code points with the property `White_Space`. -/
def whiteSpace : Ranges :=
   [(0x9, 0xd), (0x20, 0x20), (0x85, 0x85), (0xa0, 0xa0), (0x1680, 0x1680),
    (0x2000, 0x200a), (0x2028, 0x2029), (0x202f, 0x202f), (0x205f, 0x205f),
    (0x3000, 0x3000)]

def isWhiteSpace (character : Char) : Bool :=
  whiteSpace.contains character

/-- The text up to its last character that is not white space. -/
def trimEnd (text : List Char) : List Char :=
  (text.reverse.dropWhile isWhiteSpace).reverse

def trim (text : List Char) : List Char :=
  trimEnd (text.dropWhile isWhiteSpace)

end TinyImp.Text
