/-!
Blank characters and trimming.  A character is blank when Unicode lists it under
`White_Space`; `trim` drops the blanks at both ends and leaves the inner ones.
-/

namespace GameCatalog.Blank

/-- The characters that Unicode lists under `White_Space`. -/
def isBlank (character : Char) : Bool :=
  let code := character.toNat
  (0x09 ≤ code && code ≤ 0x0D) || code == 0x20 || code == 0x85 || code == 0xA0 ||
    code == 0x1680 || (0x2000 ≤ code && code ≤ 0x200A) || code == 0x2028 ||
    code == 0x2029 || code == 0x202F || code == 0x205F || code == 0x3000

def trimEnd (characters : List Char) : List Char :=
  (characters.reverse.dropWhile isBlank).reverse

/-- Drops the blanks at both ends. -/
def trimChars (characters : List Char) : List Char :=
  trimEnd (characters.dropWhile isBlank)

/-- Drops the blanks at both ends of a string. -/
def trim (text : String) : String :=
  String.ofList (trimChars text.toList)

end GameCatalog.Blank
