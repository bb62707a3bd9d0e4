import DebugControl.Text.Utf8

/-!
# Ranges of characters in UTF-8

A range of characters is cut into pieces each of which is, in UTF-8, one range of bytes after the
other: the encodings of the characters of a piece are all ways to choose a byte from each range.
-/

namespace DebugControl.Utf8

abbrev ByteRanges := List (UInt8 × UInt8)

/-- Where to cut a range so that both parts agree in all but the lowest `bits`, if it must be cut:
the last code point of the lower part. -/
def cutAligned? (low high bits : Nat) : Option Nat :=
  let size := 1 <<< bits
  if low / size = high / size then none
  else if low % size ≠ 0 then some (low / size * size + size - 1)
  else if high % size ≠ size - 1 then some (high / size * size - 1)
  else none

/-- Where to cut a range: between encodings of different lengths, and then where the bytes behind a
byte that differs do not cover all values. -/
def cutRange? (low high : Nat) : Option Nat :=
  let between := [0x7f, 0x7ff, 0xffff].find? fun last => low ≤ last && last < high
  let aligned := if high < 0x80 then none
    else [6, 12, 18].findSome? (cutAligned? low high)
  between.orElse fun _ => aligned

def piecesFrom : Nat → Nat → Nat → List (Nat × Nat)
  | 0, low, high => [(low, high)]
  | fuel + 1, low, high =>
    match cutRange? low high with
    | none => [(low, high)]
    | some last => piecesFrom fuel low last ++ piecesFrom fuel (last + 1) high

def byteRanges (low high : Nat) : List ByteRanges :=
  (piecesFrom 16 low high).map fun piece =>
    (encode [Char.ofNat piece.1]).zip (encode [Char.ofNat piece.2])

end DebugControl.Utf8
