/-!
# Decimal numerals

`Numeral.read limit` reads an unsigned decimal numeral below `limit`: ASCII digits with at most one
leading plus sign. `hex` writes numbers and bytes in base sixteen.
-/

namespace DebugControl.Numeral

inductive ReadError where
  | empty
  | invalidDigit
  | tooLarge
deriving Repr, DecidableEq

def ReadError.message : ReadError → String
  | .empty => "cannot parse integer from empty string"
  | .invalidDigit => "invalid digit found in string"
  | .tooLarge => "number too large to fit in target type"

def digit? (c : Char) : Option Nat :=
  if '0' ≤ c ∧ c ≤ '9' then some (c.toNat - '0'.toNat) else none

def digitIn? (base : Nat) (c : Char) : Option Nat :=
  let n := c.toNat
  let value : Option Nat :=
    if '0' ≤ c ∧ c ≤ '9' then some (n - 0x30)
    else if 'a' ≤ c ∧ c ≤ 'f' then some (n - 0x61 + 10)
    else if 'A' ≤ c ∧ c ≤ 'F' then some (n - 0x41 + 10)
    else none
  value.filter (· < base)

/-- The first character that settles the matter decides: a character that is no digit, or the digit
at which the value leaves the range. -/
def accumulate (limit : Nat) : Nat → List Char → Except ReadError Nat
  | value, [] => .ok value
  | value, c :: rest =>
    match digit? c with
    | none => .error .invalidDigit
    | some d =>
      let value := value * 10 + d
      if value < limit then accumulate limit value rest else .error .tooLarge

def read (limit : Nat) (text : List Char) : Except ReadError Nat :=
  match text with
  | [] => .error .empty
  | ['+'] => .error .invalidDigit
  | '+' :: rest => accumulate limit 0 rest
  | rest => accumulate limit 0 rest

def valueIn (base : Nat) (digits : List Nat) : Nat :=
  digits.foldl (fun value d => value * base + d) 0

def hexDigit (upper : Bool) (n : Nat) : Char :=
  if n < 10 then Char.ofNat (0x30 + n) else Char.ofNat ((if upper then 0x41 else 0x61) + n - 10)

def hexBytes (bytes : List UInt8) : List Char :=
  bytes.flatMap fun b => [hexDigit false (b.toNat / 16), hexDigit false (b.toNat % 16)]

/-- The bytes that `hexBytes` writes, in either case of letter. -/
def unhexBytes : List Char → Option (List UInt8)
  | [] => some []
  | [_] => none
  | a :: b :: rest => do
    let high ← digitIn? 16 a
    let low ← digitIn? 16 b
    let more ← unhexBytes rest
    pure ((high * 16 + low).toUInt8 :: more)

end DebugControl.Numeral
