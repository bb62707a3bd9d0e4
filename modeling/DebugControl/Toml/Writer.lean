import DebugControl.Text.Numeral

/-!
# Writing values

`writeText` chooses the plainest of the quoted forms that can hold a text: double quotes, verbatim
quotes, the long double form, the long verbatim form, and escapes only where none of these will do.
An array of two or more items has one item on each line.
-/

namespace DebugControl.Toml

def isCode (c : Char) : Bool :=
  let n := c.toNat
  (n < 0x20 && n ≠ 9 && n ≠ 10) || n == 0x7F

/-- The longest run of a character; `current` is the length of the run under way. -/
def longestRun (x : Char) : Nat → List Char → Nat
  | current, [] => current
  | current, c :: rest =>
    if c = x then longestRun x (current + 1) rest else max current (longestRun x 0 rest)

def writeChar (c : Char) : List Char :=
  if c = '\x08' then ['\\', 'b']
  else if c = '\t' then ['\\', 't']
  else if c = '\x0c' then ['\\', 'f']
  else if c = '\r' then ['\\', 'r']
  else if c = '\\' then ['\\', '\\']
  else if isCode c then
    ['\\', 'u', '0', '0', Numeral.hexDigit true (c.toNat / 16), Numeral.hexDigit true (c.toNat % 16)]
  else [c]

def writeBasicBody : List Char → List Char
  | [] => []
  | c :: rest =>
    (if c = '"' then ['\\', '"'] else if c = '\n' then ['\\', 'n'] else writeChar c) ++
      writeBasicBody rest

/-- The content of the long double form after `quotes` quotes in a row: each third is escaped. -/
def writeLongBody : Nat → List Char → List Char
  | _, [] => []
  | quotes, c :: rest =>
    if c = '"' then
      if quotes = 2 then '\\' :: '"' :: writeLongBody 0 rest
      else '"' :: writeLongBody (quotes + 1) rest
    else if c = '\n' then '\n' :: writeLongBody 0 rest
    else writeChar c ++ writeLongBody 0 rest

def writeBasic (s : List Char) : List Char := '"' :: writeBasicBody s ++ ['"']

def writeLiteral (s : List Char) : List Char := '\'' :: s ++ ['\'']

/-- A long form starts on a line of its own if the text has lines. -/
def writeLong (quote : Char) (s body : List Char) : List Char :=
  let quotes := List.replicate 3 quote
  quotes ++ (if '\n' ∈ s then ['\n'] else []) ++ body ++ quotes

def writeText (s : List Char) : List Char :=
  let codes := s.any isCode
  let escapes := s.contains '\\'
  let lines := s.contains '\n'
  let doubles := longestRun '"' 0 s
  let singles := longestRun '\'' 0 s
  if !codes && !escapes && doubles == 0 && !lines then writeBasic s
  else if !codes && singles == 0 && !lines then writeLiteral s
  else if !codes && !escapes && doubles ≤ 2 then writeLong '"' s (writeLongBody 0 s)
  else if !codes && singles ≤ 2 then writeLong '\'' s s
  else if lines then writeLong '"' s (writeLongBody 0 s)
  else writeBasic s

def writeBoolean (b : Bool) : List Char := (if b then "true" else "false").toList

def writeArray : List (List Char) → List Char
  | [] => ['[', ']']
  | [item] => '[' :: item ++ [']']
  | items => '[' :: '\n' :: items.flatMap (fun item => "    ".toList ++ item ++ [',', '\n']) ++ [']']

def writeHeader (name : List Char) : List Char := '[' :: name ++ [']', '\n']

def writeAssignment (key value : List Char) : List Char := key ++ " = ".toList ++ value ++ ['\n']

end DebugControl.Toml
