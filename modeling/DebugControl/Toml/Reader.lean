import DebugControl.Toml.Quoted
import DebugControl.Toml.Number
import DebugControl.Toml.Moment

/-!
# Reading documents

A document is a list of statements: an assignment of a value to a dotted key, the header of a table,
or the header of one more table of an array. `statements` reads the text, `ofStatements` carries the
statements out one after the other, and `read` does both. Values nest, and keys are composed, to a
depth below `depthLimit`.
-/

namespace DebugControl.Toml

def depthLimit : Nat := 80

inductive Statement where
  | assignment (path : List Key) (key : Key) (value : Value)
  | header (path : List Key) (key : Key)
  | arrayHeader (path : List Key) (key : Key)

def isBare (c : Char) : Bool :=
  ('a' ≤ c && c ≤ 'z') || ('A' ≤ c && c ≤ 'Z') || ('0' ≤ c && c ≤ '9') || c == '_' || c == '-'

def readKey (s : List Char) : Option (Key × List Char) :=
  match s with
  | '"' :: rest => readBasic 0 rest
  | '\'' :: rest => readLiteral rest
  | _ =>
    let key := s.takeWhile isBare
    if key = [] then none else some (key, s.dropWhile isBare)

def readDotted : Nat → List Char → Option ((List Key × Key) × List Char)
  | 0, _ => none
  | parts + 1, s => do
    let (key, s) ← readKey (skipSpace s)
    match skipSpace s with
    | '.' :: s => do
      let ((path, last), s) ← readDotted parts s
      pure ((key :: path, last), s)
    | s => pure (([], key), s)

def readScalar (s : List Char) : Option (Value × List Char) :=
  match s with
  | 't' :: 'r' :: 'u' :: 'e' :: rest => some (.boolean true, rest)
  | 'f' :: 'a' :: 'l' :: 's' :: 'e' :: rest => some (.boolean false, rest)
  | _ =>
    ((readQuoted s).map fun p => (.text p.1, p.2)).orElse fun _ =>
      (readMoment s).orElse fun _ => (readFloat s).orElse fun _ => readInteger s

/-- The items of an array up to the closing bracket; a comma may follow the last. -/
def readItems (item : List Char → Option (Value × List Char)) :
    Nat → List Char → Option (List Value × List Char)
  | 0, _ => none
  | fuel + 1, s =>
    match skipLayout false s with
    | ']' :: rest => some ([], rest)
    | s => do
      let (v, s) ← item s
      match skipLayout false s with
      | ',' :: s => do
        let (vs, s) ← readItems item fuel s
        pure (v :: vs, s)
      | ']' :: s => pure ([v], s)
      | _ => none

def readPairs (item : List Char → Option (Value × List Char)) :
    Nat → Entries → List Char → Option (Entries × List Char)
  | 0, _, _ => none
  | fuel + 1, entries, s => do
    let ((path, key), s) ← readDotted (depthLimit - 1) s
    let s ← char? '=' s
    let (v, s) ← item (skipSpace s)
    let entries ← entries.assign path key v
    match skipSpace s with
    | ',' :: s => readPairs item fuel entries s
    | '}' :: s => pure (entries, s)
    | _ => none

def readInline (item : List Char → Option (Value × List Char)) (s : List Char) :
    Option (Value × List Char) :=
  match skipSpace s with
  | '}' :: rest => some (.table .inline [], rest)
  | s => (readPairs item s.length [] s).map fun p => (.table .inline p.1, p.2)

/-- A value that nests at most `depth` deep. -/
def readValue : Nat → List Char → Option (Value × List Char)
  | depth + 1, '[' :: rest =>
    (readItems (readValue depth) rest.length rest).map fun p => (.array p.1, p.2)
  | depth + 1, '{' :: rest => readInline (readValue depth) rest
  | _, s => readScalar s

def readStatement (s : List Char) : Option (Statement × List Char) :=
  match s with
  | '[' :: '[' :: s => do
    let ((path, key), s) ← readDotted (depthLimit - 1) s
    let s ← char? ']' s
    let s ← char? ']' s
    let s ← lineRest? s
    pure (.arrayHeader path key, s)
  | '[' :: s => do
    let ((path, key), s) ← readDotted (depthLimit - 1) s
    let s ← char? ']' s
    let s ← lineRest? s
    pure (.header path key, s)
  | s => do
    let ((path, key), s) ← readDotted (depthLimit - 1) s
    let s ← char? '=' s
    let (v, s) ← readValue (depthLimit - 1) (skipSpace s)
    let s ← lineRest? s
    pure (.assignment path key v, s)

def statementsWithin : Nat → List Char → Option (List Statement)
  | 0, _ => none
  | fuel + 1, s =>
    match skipSpace s with
    | [] => some []
    | s =>
      match lineRest? s with
      | some rest => statementsWithin fuel rest
      | none => do
        let (statement, rest) ← readStatement s
        let more ← statementsWithin fuel rest
        pure (statement :: more)

/-- The statements of a text, before which a byte order mark may stand. -/
def statements (text : List Char) : Option (List Statement) :=
  let text := if text.head? = some '\uFEFF' then text.drop 1 else text
  statementsWithin (text.length + 1) text

structure Draft where
  root : Entries
  current : List Key

def Draft.carryOut (d : Draft) : Statement → Option Draft
  | .assignment path key value => do
    let root ←
      d.root.atPath false (fun _ entries => entries.assign path key value) d.current .header
    pure { d with root }
  | .header path key => do
    let root ← d.root.atPath false (fun _ entries => entries.openTable key) path .header
    pure ⟨root, path ++ [key]⟩
  | .arrayHeader path key => do
    let root ← d.root.atPath false (fun _ entries => entries.openArrayTable key) path .header
    pure ⟨root, path ++ [key]⟩

def ofStatements (statements : List Statement) : Option Entries :=
  (statements.foldlM Draft.carryOut ⟨[], []⟩).map Draft.root

def read (text : List Char) : Option Entries := (statements text).bind ofStatements

end DebugControl.Toml
