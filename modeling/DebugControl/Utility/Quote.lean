import DebugControl.Text.Numeral

/-!
# Quoted names in messages

Utilities quote the texts that they complain about. `message` puts any text between single quotes;
`shell` quotes only where a shell would need it, and such that a shell reads it back. Characters
stand for octets, and those outside of ASCII are not printed.
-/

namespace DebugControl.Quote

def isPrinted (c : Char) : Bool := ' ' ≤ c && c ≤ '~'

def letter? (c : Char) : Option Char :=
  match c with
  | '\x07' => some 'a'
  | '\x08' => some 'b'
  | '\x0c' => some 'f'
  | '\n' => some 'n'
  | '\r' => some 'r'
  | '\t' => some 't'
  | '\x0b' => some 'v'
  | _ => none

def escape (c : Char) : List Char :=
  match letter? c with
  | some l => ['\\', l]
  | none =>
    let n := c.toNat
    '\\' :: [n / 64, n / 8 % 8, n % 8].map Nat.digitChar

def message (text : List Char) : List Char :=
  let inner := text.flatMap fun c =>
    if c = '\'' ∨ c = '\\' then ['\\', c] else if isPrinted c then [c] else escape c
  '\'' :: inner ++ ['\'']

def isPlain (c : Char) : Bool := c.isAlphanum || "%+,-./:@]_".toList.contains c

/-- Whether a text means itself to a shell; a colon counts as special on request. -/
def isSafe (colon : Bool) (text : List Char) : Bool :=
  match text with
  | [] => false
  | ['\x7b'] | ['\x7d'] => false
  | c :: rest =>
    (isPlain c || c == '\x7b' || c == '\x7d') &&
      rest.all (fun c => isPlain c || "#~\x7b\x7d".toList.contains c) &&
      !(colon && text.contains ':')

/-- The inside of single quotes; `escaping` says whether they are interrupted for escapes. -/
def shellInner : Bool → List Char → List Char
  | _, [] => []
  | escaping, c :: rest =>
    let resumed : List Char := if escaping then ['\'', '\''] else []
    if c = '\'' then "'\\''".toList ++ shellInner false rest
    else if isPrinted c then resumed ++ c :: shellInner false rest
    else (if escaping then [] else ['\'', '$', '\'']) ++ escape c ++ shellInner true rest

def shell (colon : Bool) (text : List Char) : List Char :=
  let fitsDouble (c : Char) : Bool := isPlain c || " #~'\x7b\x7d".toList.contains c
  if isSafe colon text then text
  else if text.contains '\'' ∧ text.all fitsDouble then '"' :: text ++ ['"']
  else '\'' :: shellInner false text ++ ['\'']

end DebugControl.Quote
