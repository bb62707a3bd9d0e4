import DebugControl.Shell.Fraction

/-!
# Formatted output

`echo` and `printf` of the shell language: escapes, and conversions with flags, width and precision.
A format is used again as long as there are arguments left.
-/

namespace DebugControl.Shell.Format

open Arithmetic (isOctalDigit)

def octet (n : Nat) : Char := Char.ofNat (n % 256)

def letterEscape? (c : Char) : Option Char :=
  match c with
  | 'a' => some '\x07'
  | 'b' => some '\x08'
  | 'e' => some '\x1b'
  | 'f' => some '\x0c'
  | 'n' => some '\n'
  | 'r' => some '\r'
  | 't' => some '\t'
  | 'v' => some '\x0b'
  | '\\' => some '\\'
  | _ => none

def octalEscape (digits : Nat) (s : List Char) : Char × List Char :=
  let ds := (s.take digits).takeWhile isOctalDigit
  (octet (Arithmetic.valueOf 8 ds).toNat, s.drop ds.length)

/-- Text with the escapes of `echo`, and whether one of them ends all output. -/
def unescape : Nat → List Char → List Char × Bool
  | 0, _ => ([], false)
  | _, [] => ([], false)
  | fuel + 1, '\\' :: c :: rest =>
    if c = 'c' then ([], true)
    else if isOctalDigit c then
      let (o, rest) := octalEscape 3 (if c = '0' then rest else c :: rest)
      let (text, stop) := unescape fuel rest
      (o :: text, stop)
    else
      let (text, stop) := unescape fuel rest
      match letterEscape? c with
      | some e => (e :: text, stop)
      | none => ('\\' :: c :: text, stop)
  | fuel + 1, c :: rest =>
    let (text, stop) := unescape fuel rest
    (c :: text, stop)

def echo (args : List (List Char)) : List Char :=
  let (newline, args) := match args with
    | ['-', 'n'] :: rest => (false, rest)
    | args => (true, args)
  let text := List.intercalate [' '] args
  let (text, stop) := unescape (text.length + 1) text
  if newline ∧ !stop then text ++ ['\n'] else text

structure Layout where
  left : Bool
  zeros : Bool
  plus : Bool
  space : Bool
  alternative : Bool
  width : Nat
  precision : Option Nat

def Layout.bare : Layout := ⟨false, false, false, false, false, 0, none⟩

def sizeLimit : Nat := 2147483648

def Layout.fits (l : Layout) : Bool := l.width < sizeLimit && l.precision.all (· < sizeLimit)

def pad (l : Layout) (zeros : Bool) (mark text : List Char) : List Char :=
  let missing := l.width - (mark.length + text.length)
  if l.left then mark ++ text ++ List.replicate missing ' '
  else if zeros then mark ++ List.replicate missing '0' ++ text
  else List.replicate missing ' ' ++ mark ++ text

def padText (l : Layout) (text : List Char) : List Char :=
  pad l false [] (match l.precision with
    | some p => text.take p
    | none => text)

/-- Digits with zeros in front up to the precision; with precision zero a zero has no digits. -/
def padNumber (l : Layout) (mark digits : List Char) : List Char :=
  match l.precision with
  | some p =>
    let digits := if digits = ['0'] ∧ p = 0 then [] else digits
    pad l false mark (List.replicate (p - digits.length) '0' ++ digits)
  | none => pad l l.zeros mark digits

def signed (l : Layout) (n : Int) : List Char :=
  let mark := if n < 0 then ['-'] else if l.plus then ['+'] else if l.space then [' '] else []
  padNumber l mark (Nat.toDigits 10 n.natAbs)

/-- A number without a sign. The alternative form of an octal number begins with a zero, that of a
hexadecimal one is marked unless it is zero. -/
def unsigned (l : Layout) (base : Nat) (upper : Bool) (n : Int) : List Char :=
  let n := (n.emod UInt64.size).toNat
  let digits := Nat.toDigits base n
  let digits := if upper then digits.map Char.toUpper else digits
  match l.alternative, base, l.precision with
  | true, 8, some p =>
    let least := if n = 0 then 1 else digits.length + 1
    padNumber { l with precision := some (max p least) } [] digits
  | true, 8, none => padNumber l (if n = 0 then [] else ['0']) digits
  | true, 16, _ => padNumber l (if n = 0 then [] else ['0', if upper then 'X' else 'x']) digits
  | _, _, _ => padNumber l [] digits

def fraction (l : Layout) (p : Fraction.Precision) (kind : Char) (n : Fraction.Rounded) :
    List Char :=
  let mark (negative : Bool) : List Char :=
    if negative then ['-'] else if l.plus then ['+'] else if l.space then [' '] else []
  match n with
  | .infinite negative => pad l false (mark negative) "inf".toList
  | .nan negative => pad l false (mark negative) "nan".toList
  | .finite negative m e =>
    let places := l.precision.getD 6
    let mark := mark negative
    match kind with
    | 'f' => pad l l.zeros mark (Fraction.fixed m e places l.alternative)
    | 'e' => pad l l.zeros mark (Fraction.scientific m e places l.alternative)
    | 'g' => pad l l.zeros mark (Fraction.general m e places l.alternative)
    | _ =>
      pad l l.zeros (mark ++ ['0', 'x']) (Fraction.hexadecimal p m e l.precision l.alternative)

structure Output where
  text : List Char
  faults : List (List Char)
  mistake : Option (List Char)
  stop : Bool

def Output.empty : Output := ⟨[], [], none, false⟩

def Output.prepend (text : List Char) (o : Output) : Output := { o with text := text ++ o.text }

/-- The number that an argument writes and what is wrong with it, given the bounds and what stands
for a number below them. A quote gives the code of the character behind it. -/
def argument (low high below : Int) (arg : List Char) : Int × List (List Char) :=
  match arg with
  | [] => (0, [])
  | '\'' :: rest => ((rest.head?.map Char.toNat).getD 0, [])
  | '"' :: rest => ((rest.head?.map Char.toNat).getD 0, [])
  | _ => match Arithmetic.signed? arg with
    | some (n, rest) =>
      if n < low ∨ high < n then
        (if n < low then below else high, [arg ++ ": Numerical result out of range".toList])
      else if rest.isEmpty then (n, [])
      else (n, [arg ++ ": not completely converted".toList])
    | none => (0, [arg ++ ": expected numeric value".toList])

def fractionArgument (p : Fraction.Precision) (arg : List Char) :
    Fraction.Rounded × List (List Char) :=
  let code (rest : List Char) : Fraction.Rounded × List (List Char) :=
    (.finite false ((rest.head?.map Char.toNat).getD 0) 0, [])
  match arg with
  | [] => (.finite false 0 0, [])
  | '\'' :: rest => code rest
  | '"' :: rest => code rest
  | _ => match Fraction.read? arg with
    | none => (.finite false 0 0, [arg ++ ": expected numeric value".toList])
    | some (exact, rest) =>
      let (n, outOfRange) := p.round exact
      if !rest.isEmpty then (n, [arg ++ ": not completely converted".toList])
      else if outOfRange then (n, [arg ++ ": Numerical result out of range".toList])
      else (n, [])

def readFlags (l : Layout) : List Char → Layout × List Char
  | '-' :: rest => readFlags { l with left := true } rest
  | '0' :: rest => readFlags { l with zeros := true } rest
  | '+' :: rest => readFlags { l with plus := true } rest
  | ' ' :: rest => readFlags { l with space := true } rest
  | '#' :: rest => readFlags { l with alternative := true } rest
  | s => (l, s)

def signedArgument (arg : List Char) : Int × List (List Char) :=
  argument Arithmetic.least Arithmetic.greatest Arithmetic.least arg

def sizeArgument (arg : List Char) : Int × List (List Char) :=
  argument (1 - UInt64.size) (UInt64.size - 1) (UInt64.size - 1) arg

/-- What has been read of a conversion: a value, what is wrong with the arguments that it took, the
text behind it, and the arguments that are left. -/
structure Taken (α : Type) where
  value : α
  faults : List (List Char)
  rest : List Char
  args : List (List Char)

def readNumber (s : List Char) (args : List (List Char)) : Taken Int :=
  match s with
  | '*' :: rest =>
    let (n, faults) := signedArgument (args.headD [])
    ⟨n.bmod (2 * sizeLimit), faults, rest, args.drop 1⟩
  | _ =>
    let digits := s.takeWhile Char.isDigit
    ⟨Arithmetic.valueOf 10 digits, [], s.drop digits.length, args⟩

def readLayout (s : List Char) (args : List (List Char)) : Taken Layout :=
  let (l, s) := readFlags .bare s
  let w := readNumber s args
  let l := { l with width := w.value.natAbs, left := l.left || w.value < 0 }
  match w.rest with
  | '.' :: s =>
    let p := readNumber s w.args
    let precision := if p.value < 0 then none else some p.value.toNat
    ⟨{ l with precision }, w.faults ++ p.faults, p.rest, p.args⟩
  | s => ⟨l, w.faults, s, w.args⟩

/-- How an argument is written by the conversion of a letter; the flag ends all output. -/
def convert? (l : Layout) (kind : Char) (arg : List Char) :
    Option (List Char × List (List Char) × Bool) :=
  let plain (text : List Char) := some (text, ([] : List (List Char)), false)
  let bySign (write : Int → List Char) :=
    let (n, faults) := signedArgument arg
    some (write n, faults, false)
  let bySize (write : Int → List Char) :=
    let (n, faults) := sizeArgument arg
    some (write n, faults, false)
  let byFraction :=
    let (n, faults) := fractionArgument .double arg
    let text := fraction l .double kind.toLower n
    some (if kind.isUpper then text.map Char.toUpper else text, faults, false)
  match kind with
  | 's' => plain (padText l arg)
  | 'c' => plain (pad l false [] [arg.headD (Char.ofNat 0)])
  | 'b' =>
    let (text, stop) := unescape (arg.length + 1) arg
    some (padText l text, [], stop)
  | 'd' | 'i' => bySign (signed l)
  | 'u' => bySize (unsigned l 10 false)
  | 'o' => bySize (unsigned l 8 false)
  | 'x' => bySize (unsigned l 16 false)
  | 'X' => bySize (unsigned l 16 true)
  | 'e' | 'E' | 'f' | 'F' | 'g' | 'G' | 'a' | 'A' => byFraction
  | _ => none

def once : Nat → List Char → List (List Char) → Output × List (List Char)
  | 0, _, args => (.empty, args)
  | _, [], args => (.empty, args)
  | fuel + 1, '\\' :: c :: rest, args =>
    let (text, rest) :=
      if isOctalDigit c then
        let (o, rest) := octalEscape 3 (c :: rest)
        ([o], rest)
      else
        match letterEscape? c with
        | some e => ([e], rest)
        | none => (['\\', c], rest)
    let (o, args) := once fuel rest args
    (o.prepend text, args)
  | fuel + 1, '%' :: '%' :: rest, args =>
    let (o, args) := once fuel rest args
    (o.prepend ['%'], args)
  | fuel + 1, '%' :: rest, args =>
    let t := readLayout rest args
    let l := t.value
    let arg := t.args.headD []
    let failed (faults : List (List Char)) (message : List Char) : Output × List (List Char) :=
      (⟨[], t.faults ++ faults, some message, true⟩, t.args)
    match t.rest with
    | [] => failed [] "missing format character".toList
    | kind :: behind =>
      match convert? (if l.fits then l else .bare) kind arg with
      | none =>
        failed [] ('%' :: rest.take (rest.length - behind.length) ++ ": invalid directive".toList)
      | some (text, faults, stop) =>
        if !l.fits then failed faults "xvsnprintf failed".toList
        else if stop then (⟨text, t.faults ++ faults, none, true⟩, t.args.drop 1)
        else
          let (o, args) := once fuel behind (t.args.drop 1)
          ({ o.prepend text with faults := t.faults ++ faults ++ o.faults }, args)
  | fuel + 1, c :: rest, args =>
    let (o, args) := once fuel rest args
    (o.prepend [c], args)

def repeatedly (format : List Char) : Nat → List (List Char) → Output
  | 0, _ => .empty
  | fuel + 1, args =>
    let (o, left) := once (format.length + 1) format args
    if o.stop ∨ left.isEmpty ∨ left.length = args.length then o
    else
      let more := repeatedly format fuel left
      { more with text := o.text ++ more.text, faults := o.faults ++ more.faults }

def printf (format : List Char) (args : List (List Char)) : Output :=
  repeatedly format (args.length + 1) args

end DebugControl.Shell.Format
