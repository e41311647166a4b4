/-! # Blanks around a header value

`strip` removes the blanks at both ends of a text.  A blank is any white-space
character of Unicode, the control characters among them (tab to carriage return,
the four information separators, next line) included.
-/

namespace EntityHeaders.Text

/-- Whether the code point `n` is white space. -/
def isBlankCode (n : Nat) : Bool :=
  (0x09 ≤ n && n ≤ 0x0D) || (0x1C ≤ n && n ≤ 0x20) || n == 0x85 || n == 0xA0 ||
    n == 0x1680 || (0x2000 ≤ n && n ≤ 0x200A) || n == 0x2028 || n == 0x2029 ||
    n == 0x202F || n == 0x205F || n == 0x3000

def isBlank (c : Char) : Bool :=
  isBlankCode c.toNat

def stripStart (text : List Char) : List Char :=
  text.dropWhile isBlank

def stripEnd (text : List Char) : List Char :=
  (text.reverse.dropWhile isBlank).reverse

/-- The text without the blanks at either end. -/
def strip (text : List Char) : List Char :=
  stripEnd (stripStart text)

end EntityHeaders.Text
