/-!
# Blanks

The characters that count as blank around a number, and trimming and padding with blanks. Widths
count characters.
-/

namespace Multigrad.Text

/-- The white space of the character database. -/
def isBlank (c : Char) : Bool :=
  let n := c.toNat
  (9 ≤ n && n ≤ 13) || n == 32 || n == 0x85 || n == 0xa0 || n == 0x1680 ||
    (0x2000 ≤ n && n ≤ 0x200a) || n == 0x2028 || n == 0x2029 || n == 0x202f || n == 0x205f ||
    n == 0x3000

def trim (chars : List Char) : List Char :=
  ((chars.dropWhile isBlank).reverse.dropWhile isBlank).reverse

def blanks (count : Nat) : String := String.ofList (List.replicate count ' ')

def padLeft (width : Nat) (text : String) : String := blanks (width - text.length) ++ text

def padRight (width : Nat) (text : String) : String := text ++ blanks (width - text.length)

end Multigrad.Text
