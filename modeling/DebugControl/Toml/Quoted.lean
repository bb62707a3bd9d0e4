import DebugControl.Text.Numeral
import DebugControl.Toml.Layout

/-!
# Quoted text

Text stands between quotes in one of four forms: with escapes or verbatim, on one line or on
several. Each reader starts behind the opening quotes and returns the content and what follows the
closing ones. The long forms drop a line end right after the opening quotes, read every line end as
a line feed, and may end with one or two quotes of their own before the closing three.
-/

namespace DebugControl.Toml

def codePoint? (digits : Nat) (s : List Char) : Option Char := do
  let ds ← (s.take digits).mapM (Numeral.digitIn? 16)
  let n := Numeral.valueIn 16 ds
  if ds.length = digits ∧ n.isValidChar then some (Char.ofNat n) else none

/-- The character that the text after a backslash stands for, and how many characters that takes. -/
def escape? : List Char → Option (Char × Nat)
  | 'b' :: _ => some ('\x08', 1)
  | 't' :: _ => some ('\t', 1)
  | 'n' :: _ => some ('\n', 1)
  | 'f' :: _ => some ('\x0c', 1)
  | 'r' :: _ => some ('\r', 1)
  | '"' :: _ => some ('"', 1)
  | '\\' :: _ => some ('\\', 1)
  | 'u' :: rest => (codePoint? 4 rest).map fun c => (c, 5)
  | 'U' :: rest => (codePoint? 8 rest).map fun c => (c, 9)
  | _ => none

def onContent (c : Char) (read : Option (List Char × List Char)) :
    Option (List Char × List Char) :=
  read.map fun p => (c :: p.1, p.2)

def readBasic : Nat → List Char → Option (List Char × List Char)
  | _, [] => none
  | skip + 1, _ :: rest => readBasic skip rest
  | 0, c :: rest =>
    if c = '"' then some ([], rest)
    else if c = '\\' then
      match escape? rest with
      | none => none
      | some (e, used) => onContent e (readBasic used rest)
    else if isPrintable c then onContent c (readBasic 0 rest)
    else none

def readLiteral : List Char → Option (List Char × List Char)
  | [] => none
  | c :: rest =>
    if c = '\'' then some ([], rest)
    else if isPrintable c then onContent c (readLiteral rest)
    else none

/-- Where a run of three quotes or more closes a long form: up to two of them are content. -/
def closeLong (quote : Char) (s : List Char) : Option (List Char × List Char) :=
  let run := (s.takeWhile (· == quote)).length
  if run < 3 then none
  else
    let content := min (run - 3) 2
    some (List.replicate content quote, s.drop (content + 3))

/-- How far a backslash at the end of a line reaches: over spaces and line ends, at least one. -/
def continuation? (s : List Char) : Option Nat :=
  let n := layoutLength s
  if '\n' ∈ s.take n then some n else none

/-- Text with escapes on several lines; `skip` characters are still to pass. -/
def readLongBasic : Nat → List Char → Option (List Char × List Char)
  | _, [] => none
  | skip + 1, _ :: rest => readLongBasic skip rest
  | 0, c :: rest =>
    if c = '"' then
      match closeLong '"' (c :: rest) with
      | some closed => some closed
      | none => onContent c (readLongBasic 0 rest)
    else if c = '\\' then
      match continuation? rest with
      | some used => readLongBasic used rest
      | none =>
        match escape? rest with
        | none => none
        | some (e, used) => onContent e (readLongBasic used rest)
    else if c = '\r' then if rest.head? = some '\n' then readLongBasic 0 rest else none
    else if c = '\n' ∨ isPrintable c then onContent c (readLongBasic 0 rest)
    else none

def readLongLiteral : List Char → Option (List Char × List Char)
  | [] => none
  | c :: rest =>
    if c = '\'' then
      match closeLong '\'' (c :: rest) with
      | some closed => some closed
      | none => onContent c (readLongLiteral rest)
    else if c = '\r' then if rest.head? = some '\n' then readLongLiteral rest else none
    else if c = '\n' ∨ isPrintable c then onContent c (readLongLiteral rest)
    else none

def skipLineEnd (s : List Char) : List Char := (afterLineEnd? s).getD s

def readQuoted : List Char → Option (List Char × List Char)
  | '"' :: '"' :: '"' :: rest => readLongBasic 0 (skipLineEnd rest)
  | '"' :: rest => readBasic 0 rest
  | '\'' :: '\'' :: '\'' :: rest => readLongLiteral (skipLineEnd rest)
  | '\'' :: rest => readLiteral rest
  | _ => none

end DebugControl.Toml
