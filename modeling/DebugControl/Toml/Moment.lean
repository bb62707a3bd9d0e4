import DebugControl.Text.Numeral
import DebugControl.Toml.Layout
import DebugControl.Toml.Value

/-!
# Dates and times

A moment is a date, a time of day, or both with an optional offset from universal time. Only its
form and ranges are checked, leap years included.
-/

namespace DebugControl.Toml

/-- A number of exactly `width` decimal digits in the range. -/
def field? (width low high : Nat) (s : List Char) : Option (Nat × List Char) := do
  let ds ← (s.take width).mapM Numeral.digit?
  let n := Numeral.valueIn 10 ds
  if ds.length = width ∧ low ≤ n ∧ n ≤ high then some (n, s.drop width) else none

def isLeap (year : Nat) : Bool := (year % 4 == 0 && year % 100 != 0) || year % 400 == 0

def daysIn (year month : Nat) : Nat :=
  if month = 2 then if isLeap year then 29 else 28
  else if month = 4 ∨ month = 6 ∨ month = 9 ∨ month = 11 then 30
  else 31

def date? (s : List Char) : Option (List Char) := do
  let (year, s) ← field? 4 0 9999 s
  let s ← char? '-' s
  let (month, s) ← field? 2 1 12 s
  let s ← char? '-' s
  let (_, s) ← field? 2 1 (daysIn year month) s
  pure s

def skipFraction : List Char → List Char
  | '.' :: c :: rest =>
    if (Numeral.digit? c).isSome then rest.dropWhile fun d => (Numeral.digit? d).isSome
    else '.' :: c :: rest
  | s => s

def time? (s : List Char) : Option (List Char) := do
  let (_, s) ← field? 2 0 23 s
  let s ← char? ':' s
  let (_, s) ← field? 2 0 59 s
  let s ← char? ':' s
  let (_, s) ← field? 2 0 60 s
  pure (skipFraction s)

def offset? (s : List Char) : Option (List Char) :=
  match s with
  | [] => none
  | c :: rest =>
    if c = 'Z' ∨ c = 'z' then some rest
    else if c = '+' ∨ c = '-' then do
      let (_, s) ← field? 2 0 23 rest
      let s ← char? ':' s
      let (_, s) ← field? 2 0 59 s
      pure s
    else none

def timeOfDate? : List Char → Option (List Char)
  | [] => none
  | c :: rest => if c = 'T' ∨ c = 't' ∨ c = ' ' then time? rest else none

def readMoment (s : List Char) : Option (Value × List Char) :=
  match date? s with
  | none => (time? s).map fun rest => (.moment, rest)
  | some rest =>
    match timeOfDate? rest with
    | none => some (.moment, rest)
    | some rest => some (.moment, (offset? rest).getD rest)

end DebugControl.Toml
