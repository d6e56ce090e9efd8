/-!
# White space

The Unicode property "white space" and what is decided by it: the blank texts, and the text between
its outer white space.
-/

namespace PageBuilder.Text

def isSpace (c : Char) : Bool :=
  let n := c.toNat
  (0x09 ≤ n && n ≤ 0x0D) || n == 0x20 || n == 0x85 || n == 0xA0 || n == 0x1680
    || (0x2000 ≤ n && n ≤ 0x200A) || n == 0x2028 || n == 0x2029 || n == 0x202F || n == 0x205F
    || n == 0x3000

/-- Whether a text has no character other than white space. -/
def isBlank (text : String) : Bool := text.toList.all isSpace

/-- A text without the white space at its start. -/
def trimStart (text : List Char) : List Char := text.dropWhile isSpace

/-- A text without the white space at its end. -/
def trimEnd (text : List Char) : List Char := (text.reverse.dropWhile isSpace).reverse

/-- A text without the white space at both ends. -/
def trim (text : List Char) : List Char := trimEnd (trimStart text)

end PageBuilder.Text
