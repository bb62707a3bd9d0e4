/-!
# Streaming UTF-8

Bytes are decoded one at a time by `Decoder.feed`. A sequence that may still become a character is
held; a sequence that can no longer become one counts as a single U+FFFD, and the byte that spoiled
it is looked at again on its own. `decodeStream` returns the decoded characters together with the
bytes still held at the end, `decode` also replaces those by one U+FFFD, and `encode` is the other
direction.
-/

namespace DebugControl.Utf8

def replacement : Char := '\uFFFD'

/-- A proper beginning of the encoding of one character: the bytes so far, the value of their bits,
the number of bytes missing, and the range allowed for the next byte. -/
structure Held where
  bytes : List UInt8
  value : Nat
  missing : Nat
  low : Nat
  high : Nat
deriving Repr, DecidableEq

inductive Lead where
  | character (c : Char)
  | opens (h : Held)
  | invalid
deriving Repr, DecidableEq

def lead (b : UInt8) : Lead :=
  let n := b.toNat
  if n < 0x80 then .character (Char.ofNat n)
  else if n < 0xC2 then .invalid
  else if n < 0xE0 then .opens ⟨[b], n - 0xC0, 1, 0x80, 0xBF⟩
  else if n = 0xE0 then .opens ⟨[b], 0, 2, 0xA0, 0xBF⟩
  else if n = 0xED then .opens ⟨[b], 0xD, 2, 0x80, 0x9F⟩
  else if n < 0xF0 then .opens ⟨[b], n - 0xE0, 2, 0x80, 0xBF⟩
  else if n = 0xF0 then .opens ⟨[b], 0, 3, 0x90, 0xBF⟩
  else if n < 0xF4 then .opens ⟨[b], n - 0xF0, 3, 0x80, 0xBF⟩
  else if n = 0xF4 then .opens ⟨[b], 4, 3, 0x80, 0x8F⟩
  else .invalid

def Held.accepts (h : Held) (b : UInt8) : Bool :=
  decide (h.low ≤ b.toNat) && decide (b.toNat ≤ h.high)

def Held.push (h : Held) (b : UInt8) : Held :=
  ⟨h.bytes ++ [b], h.value * 64 + (b.toNat - 0x80), h.missing - 1, 0x80, 0xBF⟩

structure Decoder where
  decoded : List Char
  held : Option Held
deriving Repr, DecidableEq

namespace Decoder

def empty : Decoder := ⟨[], none⟩

def feedLead (decoded : List Char) (b : UInt8) : Decoder :=
  match lead b with
  | .character c => ⟨c :: decoded, none⟩
  | .opens h => ⟨decoded, some h⟩
  | .invalid => ⟨replacement :: decoded, none⟩

def feed (d : Decoder) (b : UInt8) : Decoder :=
  match d.held with
  | none => feedLead d.decoded b
  | some h =>
    if h.accepts b then
      let h' := h.push b
      if h'.missing = 0 then ⟨Char.ofNat h'.value :: d.decoded, none⟩
      else ⟨d.decoded, some h'⟩
    else feedLead (replacement :: d.decoded) b

def run (d : Decoder) (bytes : List UInt8) : Decoder :=
  bytes.foldl feed d

@[simp] theorem run_nil (d : Decoder) : d.run [] = d := rfl

@[simp] theorem run_cons (d : Decoder) (b : UInt8) (bytes : List UInt8) :
    d.run (b :: bytes) = (d.feed b).run bytes := rfl

theorem run_append (d : Decoder) (a b : List UInt8) : d.run (a ++ b) = (d.run a).run b := by
  simp [run, List.foldl_append]

def text (d : Decoder) : List Char := d.decoded.reverse

def tail (d : Decoder) : List UInt8 :=
  match d.held with
  | none => []
  | some h => h.bytes

end Decoder

/-- The characters that are certain, and the bytes at the end that more bytes may complete. -/
def decodeStream (bytes : List UInt8) : List Char × List UInt8 :=
  let d := Decoder.empty.run bytes
  (d.text, d.tail)

def decode (bytes : List UInt8) : List Char :=
  let d := Decoder.empty.run bytes
  match d.held with
  | none => d.text
  | some _ => d.text ++ [replacement]

def encodeChar (c : Char) : List UInt8 :=
  let n := c.toNat
  if n < 0x80 then [n.toUInt8]
  else if n < 0x800 then [(0xC0 + n / 64).toUInt8, (0x80 + n % 64).toUInt8]
  else if n < 0x10000 then
    [(0xE0 + n / 4096).toUInt8, (0x80 + n / 64 % 64).toUInt8, (0x80 + n % 64).toUInt8]
  else
    [(0xF0 + n / 262144).toUInt8, (0x80 + n / 4096 % 64).toUInt8, (0x80 + n / 64 % 64).toUInt8,
      (0x80 + n % 64).toUInt8]

def encode (text : List Char) : List UInt8 := text.flatMap encodeChar

/-- The text of well-formed bytes: those that their own decoding encodes back to. -/
def decode? (bytes : List UInt8) : Option (List Char) :=
  let text := decode bytes
  if encode text = bytes then some text else none

def ofString (s : String) : List UInt8 := encode s.toList

end DebugControl.Utf8
