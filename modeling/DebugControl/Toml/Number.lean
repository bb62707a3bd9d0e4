import DebugControl.Text.Numeral
import DebugControl.Toml.Value

/-!
# Numbers

Integers are written in base ten with an optional sign, or in base two, eight or sixteen without
one, and have 64 bits. A float has a fraction or an exponent, or is `inf` or `nan`; one whose
nearest double would be infinity is refused unless it is negative. Single underscores may stand
between digits, and a decimal integer part has no superfluous zero in front.
-/

namespace DebugControl.Toml

def moreDigits (base : Nat) : List Char → List Nat × List Char
  | [] => ([], [])
  | c :: rest =>
    match Numeral.digitIn? base c with
    | some d =>
      let (ds, s) := moreDigits base rest
      (d :: ds, s)
    | none =>
      if c = '_' ∧ (rest.head?.bind (Numeral.digitIn? base)).isSome then moreDigits base rest
      else ([], c :: rest)

def digits? (base : Nat) : List Char → Option (List Nat × List Char)
  | [] => none
  | c :: rest =>
    (Numeral.digitIn? base c).map fun d =>
      let (ds, s) := moreDigits base rest
      (d :: ds, s)

def sign : List Char → Bool × List Char
  | '+' :: rest => (false, rest)
  | '-' :: rest => (true, rest)
  | s => (false, s)

def decimal? (s : List Char) : Option (Bool × List Nat × List Char) :=
  match sign s with
  | (negative, '0' :: rest) => some (negative, [0], rest)
  | (negative, rest) => (digits? 10 rest).map fun p => (negative, p.1, p.2)

def integerLimit : Nat := 9223372036854775808

def inRange (n : Int) : Option Value :=
  if -(integerLimit : Int) ≤ n ∧ n < integerLimit then some (.integer n) else none

def readBased (base : Nat) (s : List Char) : Option (Value × List Char) := do
  let (ds, rest) ← digits? base s
  let v ← inRange (Numeral.valueIn base ds)
  pure (v, rest)

def readInteger (s : List Char) : Option (Value × List Char) :=
  match s with
  | '0' :: 'x' :: rest => readBased 16 rest
  | '0' :: 'o' :: rest => readBased 8 rest
  | '0' :: 'b' :: rest => readBased 2 rest
  | _ => do
    let (negative, ds, rest) ← decimal? s
    let n : Int := Numeral.valueIn 10 ds
    let v ← inRange (if negative then -n else n)
    pure (v, rest)

def fraction? : List Char → Option (List Nat × List Char)
  | '.' :: rest => digits? 10 rest
  | _ => none

def exponent? : List Char → Option (Int × List Char)
  | c :: rest =>
    if c = 'e' ∨ c = 'E' then
      let (negative, rest) := sign rest
      (digits? 10 rest).map fun p =>
        let n : Int := Numeral.valueIn 10 p.1
        (if negative then -n else n, p.2)
    else none
  | [] => none

/-- Half a unit above the largest double: from here on a number rounds to infinity. -/
def doubleLimit : Nat := 1 <<< 1024 - 1 <<< 970

/-- Whether `mantissa * 10 ^ exponent` rounds to infinity. -/
def overflows (mantissa : Nat) (exponent : Int) : Bool :=
  if mantissa = 0 then false
  else
    let places : Int := (toString mantissa).length + exponent
    if places ≤ 308 then false
    else if 309 < places then true
    else if exponent < 0 then doubleLimit * Nat.pow 10 exponent.natAbs ≤ mantissa
    else doubleLimit ≤ mantissa * Nat.pow 10 exponent.natAbs

def readFinite (s : List Char) : Option (Value × List Char) := do
  let (negative, whole, s) ← decimal? s
  let (part, exponent, s) ← match fraction? s with
    | some (part, s) => match exponent? s with
      | some (e, s) => some (part, e, s)
      | none => some (part, 0, s)
    | none => (exponent? s).map fun p => (([] : List Nat), p.1, p.2)
  if !negative && overflows (Numeral.valueIn 10 (whole ++ part)) (exponent - part.length) then none
  else pure (.float, s)

def readNamed (s : List Char) : Option (Value × List Char) :=
  match (sign s).2 with
  | 'i' :: 'n' :: 'f' :: rest => some (.float, rest)
  | 'n' :: 'a' :: 'n' :: rest => some (.float, rest)
  | _ => none

def readFloat (s : List Char) : Option (Value × List Char) :=
  (readFinite s).orElse fun _ => readNamed s

end DebugControl.Toml
