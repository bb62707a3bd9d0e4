import DebugControl.Text.Cut
import DebugControl.Text.Numeral
import DebugControl.Unicode.CharSet

/-!
# Tables of code points

Two compact forms of data about code points: runs, which cover all code points from zero on, and
ranges, which list some of them. Both are written as text.
-/

namespace DebugControl.Unicode

def readRunsFrom (width : Nat) (code : List Char) (length : Nat) :
    List Char → List (List Char × Nat)
  | [] => [(code, max length 1)]
  | c :: rest =>
    match Numeral.digit? c with
    | some d => readRunsFrom width code (length * 10 + d) rest
    | none =>
      if code.length < width then readRunsFrom width (code ++ [c]) length rest
      else (code, max length 1) :: readRunsFrom width [c] 0 rest

/-- Runs written as codes of `width` letters, each with its length in decimal unless that is one. -/
def readRuns (width : Nat) (table : String) : List (List Char × Nat) :=
  readRunsFrom width [] 0 table.toList

def runBounds {α : Type} (holds : α → Bool) (inside : Bool) (position : Nat) :
    List (α × Nat) → List Nat
  | [] => []
  | (a, length) :: rest =>
    let bounds := runBounds holds (holds a) (position + length) rest
    if holds a = inside then bounds else position :: bounds

def runSet {α : Type} (holds : α → Bool) (runs : List (α × Nat)) : CharSet :=
  ⟨runBounds holds false 0 runs⟩

def readHex (digits : List Char) : Nat :=
  Numeral.valueIn 16 (digits.filterMap (Numeral.digitIn? 16))

/-- A code point or a range of them, in hexadecimal. -/
def readRange (written : List Char) : Nat × Nat :=
  match Text.cut ['-'] written with
  | [low, high] => (readHex low, readHex high)
  | _ => (readHex written, readHex written)

def readRanges (table : String) : CharSet :=
  .ofRanges (((Text.cut [' '] table.toList).filter (· ≠ [])).map readRange)

end DebugControl.Unicode
