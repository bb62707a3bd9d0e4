import DebugControl.Shell.Arithmetic

/-!
# Numbers with a fraction

`read?` reads the numerals of floating-point numbers exactly, `Precision.round` rounds them to the
nearest number of a binary format, and the writers give that number in decimal or hexadecimal
digits.
-/

namespace DebugControl.Shell.Fraction

open Arithmetic (isHexDigit valueOf)

inductive Exact where
  | rational (negative : Bool) (numerator denominator : Nat)
  | infinite (negative : Bool)
  | nan (negative : Bool)

/-- An exponent of this size makes any number infinite or zero. -/
def exponentLimit : Nat := 20000

def scaled (negative : Bool) (n base : Nat) (exponent : Int) : Exact :=
  if n = 0 then .rational negative 0 1
  else if exponentLimit < exponent then .infinite negative
  else if exponent < -exponentLimit then .rational negative 0 1
  else if 0 ≤ exponent then .rational negative (n * Nat.pow base exponent.toNat) 1
  else .rational negative n (Nat.pow base (-exponent).toNat)

def readExponent (letter : Char) (s : List Char) : Int × List Char :=
  match s with
  | c :: rest =>
    if c.toLower ≠ letter then (0, s)
    else
      let (negative, digits) := match rest with
        | '-' :: more => (true, more)
        | '+' :: more => (false, more)
        | more => (false, more)
      let ds := digits.takeWhile Char.isDigit
      let n := valueOf 10 ds
      if ds.isEmpty then (0, s) else (if negative then -n else n, digits.drop ds.length)
  | [] => (0, s)

/-- Reads digits with a point among them: their number, and how many stand behind the point. -/
def readDigits (base : Nat) (isDigit : Char → Bool) (s : List Char) :
    Option (Nat × Nat × List Char) :=
  let whole := s.takeWhile isDigit
  let rest := s.drop whole.length
  let (part, rest) := match rest with
    | '.' :: more =>
      let ds := more.takeWhile isDigit
      if whole.isEmpty ∧ ds.isEmpty then ([], rest) else (ds, more.drop ds.length)
    | rest => ([], rest)
  if whole.isEmpty ∧ part.isEmpty then none
  else some ((valueOf base (whole ++ part)).toNat, part.length, rest)

def word? (word : String) (s : List Char) : Option (List Char) :=
  if (s.take word.length).map Char.toLower = word.toList then some (s.drop word.length) else none

def readUnsigned? (negative : Bool) (s : List Char) : Option (Exact × List Char) :=
  let decimal : Option (Exact × List Char) :=
    (readDigits 10 Char.isDigit s).map fun (n, places, rest) =>
      let (exponent, rest) := readExponent 'e' rest
      (scaled negative n 10 (exponent - places), rest)
  match s with
  | '0' :: x :: digits =>
    if x.toLower ≠ 'x' then decimal
    else
      match readDigits 16 isHexDigit digits with
      | some (n, places, rest) =>
        let (exponent, rest) := readExponent 'p' rest
        some (scaled negative n 2 (exponent - 4 * places), rest)
      | none => decimal
  | _ =>
    match word? "infinity" s, word? "inf" s, word? "nan" s with
    | some rest, _, _ => some (.infinite negative, rest)
    | _, some rest, _ => some (.infinite negative, rest)
    | _, _, some rest => some (.nan negative, rest)
    | _, _, _ => decimal

def read? (s : List Char) : Option (Exact × List Char) :=
  match Arithmetic.skipSpace s with
  | '-' :: rest => readUnsigned? true rest
  | '+' :: rest => readUnsigned? false rest
  | rest => readUnsigned? false rest

inductive Rounded where
  /-- A number times a power of two. -/
  | finite (negative : Bool) (mantissa : Nat) (exponent : Int)
  | infinite (negative : Bool)
  | nan (negative : Bool)

structure Precision where
  digits : Nat
  least : Int
  greatest : Int
  /-- How many binary digits stand before the point in hexadecimal. -/
  leading : Nat

def Precision.double : Precision := ⟨53, -1074, 1024, 1⟩

def Precision.extended : Precision := ⟨64, -16445, 16384, 4⟩

/-- The quotient rounded to the nearest whole number, or to the even one of two. -/
def roundQuotient (a b : Nat) : Nat :=
  let q := a / b
  let r := a % b
  if 2 * r < b ∨ (2 * r = b ∧ q % 2 = 0) then q else q + 1

def roundScaled (a b : Nat) (exponent : Int) : Nat :=
  if 0 ≤ exponent then roundQuotient a (b * Nat.pow 2 exponent.toNat)
  else roundQuotient (a * Nat.pow 2 (-exponent).toNat) b

/-- The nearest number of a format, and whether the exact one is out of its range: too great, or so
small that digits are lost. -/
def Precision.round (p : Precision) : Exact → Rounded × Bool
  | .infinite negative => (.infinite negative, false)
  | .nan negative => (.nan negative, false)
  | .rational negative a b =>
    if a = 0 then (.finite negative 0 0, false)
    else
      let guess : Int := (a.log2 : Int) - b.log2 - p.digits
      let fits : Bool := roundScaled a b guess < Nat.pow 2 p.digits
      let exponent := max p.least (if fits then guess else guess + 1)
      let mantissa := roundScaled a b exponent
      if p.greatest < exponent + mantissa.log2 + 1 then (.infinite negative, true)
      else
        let isTiny := mantissa.log2 + 1 < p.digits
        let isExact := a * Nat.pow 2 (-exponent).toNat % (b * Nat.pow 2 exponent.toNat) = 0
        (.finite negative mantissa exponent, isTiny && !isExact)

def decimalDigits (mantissa : Nat) (exponent places : Int) : Nat :=
  let a := mantissa * (if 0 ≤ exponent then Nat.pow 2 exponent.toNat else 1) *
    (if 0 ≤ places then Nat.pow 10 places.toNat else 1)
  let b := (if 0 ≤ exponent then 1 else Nat.pow 2 (-exponent).toNat) *
    (if 0 ≤ places then 1 else Nat.pow 10 (-places).toNat)
  roundQuotient a b

/-- Digits with so many behind the point; a point without digits behind it is shown on request. -/
def withPoint (n places : Nat) (showPoint : Bool) : List Char :=
  let digits := Nat.toDigits 10 n
  let digits := List.replicate (places + 1 - digits.length) '0' ++ digits
  let whole := digits.take (digits.length - places)
  let part := digits.drop (digits.length - places)
  whole ++ (if places = 0 ∧ !showPoint then [] else '.' :: part)

def fixed (mantissa : Nat) (exponent : Int) (places : Nat) (showPoint : Bool) : List Char :=
  withPoint (decimalDigits mantissa exponent places) places showPoint

def leadingDigits (mantissa : Nat) (exponent : Int) (places : Nat) : Nat × Int :=
  if mantissa = 0 then (0, 0)
  else
    let estimate : Int := ((exponent + mantissa.log2) * 30103).fdiv 100000
    let digitsAt (power : Int) : Nat := decimalDigits mantissa exponent (places - power)
    let fits (power : Int) : Bool := digitsAt power < Nat.pow 10 (places + 1)
    let power := ([estimate - 1, estimate, estimate + 1].find? fits).getD (estimate + 2)
    (digitsAt power, power)

def exponentText (letter : Char) (least : Nat) (power : Int) : List Char :=
  let digits := Nat.toDigits 10 power.natAbs
  letter :: (if power < 0 then '-' else '+') ::
    (List.replicate (least - digits.length) '0' ++ digits)

def scientific (mantissa : Nat) (exponent : Int) (places : Nat) (showPoint : Bool) : List Char :=
  let (digits, power) := leadingDigits mantissa exponent places
  withPoint digits places showPoint ++ exponentText 'e' 2 power

def trimZeros (s : List Char) : List Char :=
  if s.contains '.' then
    let s := (s.reverse.dropWhile (· == '0')).reverse
    if s.getLast? = some '.' then s.dropLast else s
  else s

/-- The shorter of both forms with so many digits. -/
def general (mantissa : Nat) (exponent : Int) (digits : Nat) (keepZeros : Bool) : List Char :=
  let digits := max digits 1
  let (_, power) := leadingDigits mantissa exponent (digits - 1)
  let trim (s : List Char) : List Char := if keepZeros then s else trimZeros s
  if -4 ≤ power ∧ power < digits then
    trim (fixed mantissa exponent (digits - 1 - power).toNat keepZeros)
  else
    let (n, power) := leadingDigits mantissa exponent (digits - 1)
    trim (withPoint n (digits - 1) keepZeros) ++ exponentText 'e' 2 power

def hexadecimal (p : Precision) (mantissa : Nat) (exponent : Int) (places : Option Nat)
    (showPoint : Bool) : List Char :=
  if mantissa = 0 then
    let part := List.replicate (places.getD 0) '0'
    '0' :: (if part.isEmpty ∧ !showPoint then [] else '.' :: part) ++ exponentText 'p' 1 0
  else
    let width := (p.digits - p.leading + 3) / 4 * 4
    let shift : Int := max ((mantissa.log2 : Int) - (width + p.leading - 1)) (p.least - exponent)
    let all := if 0 ≤ shift then mantissa / Nat.pow 2 shift.toNat
      else mantissa * Nat.pow 2 (-shift).toNat
    let (n, count) := match places with
      | some c => if 4 * c < width then (roundQuotient all (Nat.pow 2 (width - 4 * c)), c)
          else (all * Nat.pow 16 (c - width / 4), c)
      | none => (all, width / 4)
    let digits := Nat.toDigits 16 n
    let digits := List.replicate (count + 1 - digits.length) '0' ++ digits
    let whole := digits.take (digits.length - count)
    let part := digits.drop (digits.length - count)
    let part := if places.isNone then (part.reverse.dropWhile (· == '0')).reverse else part
    whole ++ (if part.isEmpty ∧ !showPoint then [] else '.' :: part) ++
      exponentText 'p' 1 (exponent + shift + width)

end DebugControl.Shell.Fraction
