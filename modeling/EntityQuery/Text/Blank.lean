/-!
# White space

The characters of the Unicode property `White_Space`, and trimming by a class of characters.
-/

set_option autoImplicit false

namespace EntityQuery.Text

/-- The twenty-five characters with the Unicode property `White_Space`. -/
def isBlank (symbol : Char) : Bool :=
  let code := symbol.toNat
  (0x09 ≤ code && code ≤ 0x0D) || code == 0x20 || code == 0x85 || code == 0xA0 ||
    code == 0x1680 || (0x2000 ≤ code && code ≤ 0x200A) || code == 0x2028 || code == 0x2029 ||
    code == 0x202F || code == 0x205F || code == 0x3000

def trimBoth (drops : Char → Bool) (text : List Char) : List Char :=
  ((text.dropWhile drops).reverse.dropWhile drops).reverse

def trim (text : List Char) : List Char := trimBoth isBlank text

def trimString (text : String) : String := String.ofList (trim text.toList)

def trimFront (text : List Char) : List Char := text.dropWhile isBlank

end EntityQuery.Text
