/-!
# Octets as characters

A text in which each character stands for one octet.
-/

namespace DebugControl.Octets

def encode (text : List Char) : List UInt8 := text.map fun c => c.toNat.toUInt8

def decode (bytes : List UInt8) : List Char := bytes.map fun b => Char.ofNat b.toNat

/-- Whether a text stands before another, octet by octet, or is the same. -/
def precedes : List Char → List Char → Bool
  | [], _ => true
  | _ :: _, [] => false
  | a :: s, b :: t => a.toNat < b.toNat || a.toNat == b.toNat && precedes s t

end DebugControl.Octets
