import DebugControl.Pattern.Automaton
import DebugControl.Pattern.Bracket
import DebugControl.Pattern.Piece

/-!
# Reading patterns

A pattern is read from left to right by `Draft.step`. The draft keeps the pieces of the current
branch, the branches of the current group that are complete, and the same of each group around it.
`readPieces` reads a whole pattern, and `compile` also refuses one that nests too deep or grows too
large.
-/

namespace DebugControl.Pattern

inductive Defect where
  | malformed
  | tooDeep
  | tooLarge
deriving Repr, DecidableEq

def Defect.message : Defect → String
  | .malformed => "the pattern is no regular expression"
  | .tooDeep => "the pattern nests too deep"
  | .tooLarge => "the pattern grows too large"

def depthLimit : Nat := 250

structure Outer where
  /-- The pieces of the branch before the group, the latest first. -/
  pieces : List Piece
  /-- The complete branches before that, the latest first. -/
  branches : List Piece
  flags : Flags
  /-- The number of the group that is open, if it captures. -/
  number : Option Nat

structure Draft where
  pieces : List Piece
  branches : List Piece
  flags : Flags
  outer : List Outer
  /-- The names of groups so far. -/
  names : List (List Char)
  /-- The number of groups so far that capture. -/
  captures : Nat

namespace Draft

def empty : Draft := ⟨[], [], .default, [], [], 0⟩

def push (d : Draft) (p : Piece) : Draft := { d with pieces := p :: d.pieces }

def branch (d : Draft) : Piece := .concat d.pieces.reverse

def body (d : Draft) : Piece := .choice (d.branch :: d.branches).reverse

def nextBranch (d : Draft) : Draft :=
  { d with pieces := [], branches := d.branch :: d.branches }

def openGroup (d : Draft) (flags : Flags) (capturing : Bool) : Draft :=
  let number := if capturing then some (d.captures + 1) else none
  ⟨[], [], flags, ⟨d.pieces, d.branches, d.flags, number⟩ :: d.outer, d.names,
    number.getD d.captures⟩

def closeGroup (d : Draft) : Option Draft :=
  match d.outer with
  | [] => none
  | o :: outer =>
    some ⟨.group o.number d.body :: o.pieces, o.branches, o.flags, outer, d.names, d.captures⟩

/-- Repeats the latest piece; `short` tells whether a question mark follows. -/
def repeatLast (d : Draft) (least : Nat) (most : Option Nat) (short : Bool) : Option Draft :=
  match d.pieces with
  | [] => none
  | p :: rest =>
    if p.isFlags then none
    else some { d with pieces := p.repeated least most (short == d.flags.short) :: rest }

end Draft

/-! ## Groups -/

def isNameStart (c : Char) : Bool := c == '_' || Unicode.alphabeticSet.contains c

def isNameChar (c : Char) : Bool :=
  c == '_' || c == '.' || c == '[' || c == ']' || Unicode.alphabeticSet.contains c ||
    Unicode.numericSet.contains c

def readGroupName (s : List Char) : Option (List Char × List Char) :=
  let name := s.takeWhile (· != '>')
  match name, s.drop name.length with
  | c :: more, '>' :: rest =>
    if isNameStart c && more.all isNameChar then some (c :: more, rest) else none
  | _, _ => none

def openNamed (d : Draft) (s : List Char) : Option (Draft × List Char) := do
  let (name, s) ← readGroupName s
  if d.names.contains name then none
  else
    let d := d.openGroup d.flags true
    some ({ d with names := name :: d.names }, s)

/-- Reads what follows an opening parenthesis: a list of flags, or the beginning of a group. -/
def readGroup (d : Draft) (s : List Char) : Option (Draft × List Char) :=
  match d.flags.skip s with
  | '?' :: '=' :: _ | '?' :: '!' :: _ | '?' :: '<' :: '=' :: _ | '?' :: '<' :: '!' :: _ => none
  | '?' :: 'P' :: '<' :: s => openNamed d s
  | '?' :: '<' :: s => openNamed d s
  | '?' :: s => do
    let listed ← d.flags.read [] false false s
    if listed.closing = ':' then some (d.openGroup listed.flags false, listed.rest)
    else if listed.some? then some ({ d.push .flagList with flags := listed.flags }, listed.rest)
    else none
  | s => some (d.openGroup d.flags true, s)

/-! ## Repetitions -/

def readShort : List Char → Bool × List Char
  | '?' :: rest => (true, rest)
  | s => (false, s)

def readDigits (f : Flags) : Nat → List Char → List Nat × List Char
  | 0, s => ([], s)
  | _, [] => ([], [])
  | fuel + 1, c :: rest =>
    match Numeral.digit? c with
    | none => ([], c :: rest)
    | some d =>
      let (ds, s) := readDigits f fuel (f.skip rest)
      (d :: ds, s)

/-- Skips white space, and comments behind it if they are allowed. -/
def skipAround (f : Flags) (s : List Char) : List Char :=
  let t := s.dropWhile Text.isBlank
  if t.length < s.length then f.skip t else s

def countLimit : Nat := UInt32.size

def readCount (f : Flags) (s : List Char) : Option (Nat × List Char) :=
  let (ds, s) := readDigits f s.length (s.dropWhile Text.isBlank)
  let n := Numeral.valueIn 10 ds
  if ds = [] ∨ countLimit ≤ n then none else some (n, skipAround f s)

/-- The end of a counted repetition: its closing brace and a question mark. -/
def closeCount (f : Flags) : List Char → Option (Bool × List Char)
  | '}' :: rest => some (readShort (f.skip rest))
  | _ => none

def readCounts (f : Flags) (s : List Char) :
    Option ((Nat × Option Nat) × Bool × List Char) := do
  let (least, s) ← readCount f (f.skip s)
  match s with
  | ',' :: s =>
    match f.skip s with
    | '}' :: rest => do
      let s ← closeCount f ('}' :: rest)
      pure ((least, none), s)
    | s => do
      let (most, s) ← readCount f s
      let s ← closeCount f s
      if least ≤ most then some ((least, some most), s) else none
  | s => do
    let s ← closeCount f s
    pure ((least, some least), s)

/-! ## Patterns -/

/-- The piece of a literal, in all its cases if case is ignored. -/
def literalPiece? (f : Flags) (c : Char) (octet : Bool) : Option Piece := do
  let c ← f.literal? c octet
  let set := f.fold (.single c)
  if set = .single c then pure (.literal c) else pure (.set (!f.unicode) set 0)

def Primitive.piece? (f : Flags) : Primitive → Option Piece
  | .literal c octet => literalPiece? f c octet
  | .assertion a => some (.look (a.look f))
  | .dot => (dotSet? f).map (.set (!f.unicode) · 0)
  | p => (p.set? f).map (.set (!f.unicode) · 0)

def pushPrimitive (d : Draft) (read : Option (Primitive × List Char)) :
    Option (Draft × List Char) := do
  let (p, s) ← read
  let piece ← p.piece? d.flags
  pure (d.push piece, s)

def repeatSign (d : Draft) (least : Nat) (most : Option Nat) (s : List Char) :
    Option (Draft × List Char) :=
  let (short, s) := readShort s
  (d.repeatLast least most short).map fun d => (d, s)

def Draft.step (d : Draft) (c : Char) (rest : List Char) : Option (Draft × List Char) :=
  match c with
  | '(' => readGroup d rest
  | ')' => d.closeGroup.map fun d => (d, rest)
  | '|' => some (d.nextBranch, rest)
  | '[' =>
    (readClass d.flags rest).map fun p => (d.push (.set (!d.flags.unicode) p.1.set p.1.depth), p.2)
  | '?' => repeatSign d 0 (some 1) rest
  | '*' => repeatSign d 0 none rest
  | '+' => repeatSign d 1 none rest
  | '\x7b' => do
    let ((least, most), short, s) ← readCounts d.flags rest
    let d ← d.repeatLast least most short
    pure (d, s)
  | '\\' => pushPrimitive d (readEscape d.flags rest)
  | '.' => pushPrimitive d (some (.dot, rest))
  | '^' => pushPrimitive d (some (.assertion .caret, rest))
  | '$' => pushPrimitive d (some (.assertion .dollar, rest))
  | c => pushPrimitive d (some (.literal c false, rest))

def readFrom : Nat → Draft → List Char → Option Draft
  | 0, _, _ => none
  | fuel + 1, d, s =>
    match d.flags.skip s with
    | [] => some d
    | c :: rest => do
      let (d, s) ← d.step c rest
      readFrom fuel d s

def readPieces (pattern : List Char) : Option Piece := do
  let d ← readFrom (pattern.length + 1) .empty pattern
  if d.outer.isEmpty then some d.body else none

def compile (pattern : List Char) : Except Defect Regex :=
  match readPieces pattern with
  | none => .error .malformed
  | some p =>
    if depthLimit < p.depth then .error .tooDeep
    else if p.form.isTooLarge then .error .tooLarge
    else .ok p.expr

def Expr.occursIn (e : Regex) (text : List Char) : Bool :=
  let laid := e.map (fun s => positions s.contains text) (fun l => gaps l.holds text)
  laid.reach (text.length + 1) (1 <<< (text.length + 1) - 1) != 0

end DebugControl.Pattern
