import DebugControl.Text.Cut

/-!
# White space and lines

`isBlank` is the Unicode property White_Space. `trim` removes blank characters at both ends, and
`lines` are the lines of a text, each without the line feed that ends it and one carriage return
before that.
-/

namespace DebugControl.Text

def isBlank (c : Char) : Bool :=
  let n := c.toNat
  (9 ≤ n && n ≤ 13) || n == 0x20 || n == 0x85 || n == 0xA0 || n == 0x1680 ||
    (0x2000 ≤ n && n ≤ 0x200A) || n == 0x2028 || n == 0x2029 || n == 0x202F || n == 0x205F ||
    n == 0x3000

def trimEnd (text : List Char) : List Char := (text.reverse.dropWhile isBlank).reverse

def trim (text : List Char) : List Char := trimEnd (text.dropWhile isBlank)

def dropReturn (line : List Char) : List Char :=
  if line.getLast? = some '\r' then line.dropLast else line

/-- The lines of a text: each line feed ends one, and what follows the last counts if it is not
empty. -/
def lines (text : List Char) : List (List Char) :=
  let pieces := cut ['\n'] text
  pieces.dropLast.map dropReturn ++ pieces.getLast?.toList.filter (· ≠ [])

end DebugControl.Text
