/-!
# Spaces, comments and line ends

What may stand between the parts of a document. A line ends with a line feed, which one carriage
return may precede; a comment runs to the end of its line and has no control character but the tab.
-/

namespace DebugControl.Toml

def isSpace (c : Char) : Bool := c == ' ' || c == '\t'

def skipSpace (s : List Char) : List Char := s.dropWhile isSpace

/-- Every character but the controls; the tab is none of them. -/
def isPrintable (c : Char) : Bool :=
  let n := c.toNat
  n == 9 || (0x20 ≤ n && n ≠ 0x7F)

def afterLineEnd? : List Char → Option (List Char)
  | '\n' :: rest => some rest
  | '\r' :: '\n' :: rest => some rest
  | _ => none

def char? (c : Char) : List Char → Option (List Char)
  | d :: rest => if d = c then some rest else none
  | [] => none

def skipComment : List Char → List Char
  | '#' :: rest => rest.dropWhile isPrintable
  | s => s

def lineRest? (s : List Char) : Option (List Char) :=
  match skipComment (skipSpace s) with
  | [] => some []
  | s => afterLineEnd? s

/-- Skips spaces, line ends and comments; `inComment` says whether a comment is under way. -/
def skipLayout : Bool → List Char → List Char
  | _, [] => []
  | inComment, c :: rest =>
    if c = '\n' then skipLayout false rest
    else if c = '\r' ∧ rest.head? = some '\n' then skipLayout inComment rest
    else if inComment then if isPrintable c then skipLayout true rest else c :: rest
    else if c = '#' then skipLayout true rest
    else if isSpace c then skipLayout false rest
    else c :: rest

def layoutLength : List Char → Nat
  | [] => 0
  | c :: rest =>
    if isSpace c ∨ c = '\n' ∨ (c = '\r' ∧ rest.head? = some '\n') then layoutLength rest + 1
    else 0

end DebugControl.Toml
