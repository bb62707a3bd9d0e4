import DebugControl.Pattern.Primitive

/-!
# Bracketed classes

A bracketed class lists characters, ranges, named classes and further bracketed classes, and may be
negated. Two ampersands, hyphens or tildes intersect or subtract what stands on their left and what
stands on their right, from left to right. An operand carries how deep it nests.
-/

namespace DebugControl.Pattern

open Unicode (CharSet)

structure Operand where
  set : CharSet
  depth : Nat

inductive SetOp where
  | intersection
  | difference
  | symmetricDifference

def SetOp.apply : SetOp → CharSet → CharSet → CharSet
  | .intersection => .intersection
  | .difference => .difference
  | .symmetricDifference => .symmetricDifference

def unionOf : List Operand → Operand
  | [] => ⟨.empty, 0⟩
  | [x] => x
  | items => ⟨.unionAll (items.map Operand.set), items.foldr (fun x d => max x.depth d) 0 + 1⟩

/-- The operand that an operator in front of it, if any, makes of this one. -/
def combine (f : Flags) (pending : Option (SetOp × Operand)) (right : Operand) : Operand :=
  match pending with
  | none => right
  | some (op, left) =>
    ⟨op.apply (f.fold left.set) (f.fold right.set), max left.depth right.depth + 1⟩

def setOp? : List Char → Option (SetOp × List Char)
  | '&' :: '&' :: rest => some (.intersection, rest)
  | '-' :: '-' :: rest => some (.difference, rest)
  | '~' :: '~' :: rest => some (.symmetricDifference, rest)
  | _ => none

def asciiRanges? (name : String) : Option (List (Char × Char)) :=
  match name with
  | "alnum" => some [('0', '9'), ('A', 'Z'), ('a', 'z')]
  | "alpha" => some [('A', 'Z'), ('a', 'z')]
  | "ascii" => some [('\x00', '\x7f')]
  | "blank" => some [('\t', '\t'), (' ', ' ')]
  | "cntrl" => some [('\x00', '\x1f'), ('\x7f', '\x7f')]
  | "digit" => some [('0', '9')]
  | "graph" => some [('!', '~')]
  | "lower" => some [('a', 'z')]
  | "print" => some [(' ', '~')]
  | "punct" => some [('!', '/'), (':', '@'), ('[', '\x60'), ('\x7b', '~')]
  | "space" => some [('\t', '\r'), (' ', ' ')]
  | "upper" => some [('A', 'Z')]
  | "word" => some [('0', '9'), ('A', 'Z'), ('_', '_'), ('a', 'z')]
  | "xdigit" => some [('0', '9'), ('A', 'F'), ('a', 'f')]
  | _ => none

def asciiClass? (s : List Char) : Option (CharSet × Bool × List Char) :=
  match s with
  | ':' :: s =>
    let negated := s.head? == some '^'
    let s := if negated then s.drop 1 else s
    let name := s.takeWhile (· != ':')
    match s.drop name.length with
    | ':' :: ']' :: rest =>
      (asciiRanges? (String.ofList name)).map fun ranges => (asciiSet ranges, negated, rest)
    | _ => none
  | _ => none

def readAtom (f : Flags) (s : List Char) : Option (Primitive × List Char) :=
  match s with
  | [] => none
  | '\\' :: rest => readEscape f rest
  | c :: rest => some (.literal c false, rest)

def classLiteral? (f : Flags) : Primitive → Option Char
  | .literal c octet => do
    let c ← f.literal? c octet
    if f.unicode || c.toNat < 128 then some c else none
  | _ => none

def atomSet? (f : Flags) (p : Primitive) : Option CharSet :=
  match p with
  | .literal _ _ => (classLiteral? f p).map .single
  | _ => p.set? f

/-- The next character that counts; of a comment only the sign that begins it is passed over. -/
def peekSpaced : Bool → List Char → Option Char
  | _, [] => none
  | inComment, c :: rest =>
    if Text.isBlank c then peekSpaced inComment rest
    else if !inComment && c == '#' then peekSpaced true rest
    else some c

def Flags.peek (f : Flags) (s : List Char) : Option Char :=
  if f.spaced then peekSpaced false s else s.head?

/-- A member or a range; a hyphen before another hyphen or the closing bracket makes no range. -/
def readMember (f : Flags) (s : List Char) : Option (Operand × List Char) := do
  let (first, s) ← readAtom f s
  match f.skip s with
  | [] => none
  | c :: rest =>
    let next := f.peek rest
    if c ≠ '-' ∨ next = some ']' ∨ next = some '-' then do
      let set ← atomSet? f first
      pure (⟨set, 0⟩, c :: rest)
    else do
      let (last, s) ← readAtom f (f.skip rest)
      let low ← classLiteral? f first
      let high ← classLiteral? f last
      if low ≤ high then some (⟨.range low.toNat high.toNat, 0⟩, s) else none

def readHyphens (f : Flags) : Nat → List Char → List Operand × List Char
  | n + 1, '-' :: rest =>
    let (items, s) := readHyphens f n (f.skip rest)
    (⟨.single '-', 0⟩ :: items, s)
  | _, s => ([], s)

def readOpening (f : Flags) (s : List Char) : Bool × List Operand × List Char :=
  let s := f.skip s
  let negated := s.head? == some '^'
  let s := if negated then f.skip (s.drop 1) else s
  let (items, s) := readHyphens f s.length s
  match items, s with
  | [], ']' :: rest => (negated, [⟨.single ']', 0⟩], f.skip rest)
  | _, _ => (negated, items, s)

/-- Reads a class to its closing bracket, after an operator that is still to be applied and after
the members of the operand under way. -/
def readClassFrom (f : Flags) :
    Nat → Option (SetOp × Operand) → List Operand → List Char → Option (Operand × List Char)
  | 0, _, _, _ => none
  | fuel + 1, pending, items, s =>
    match f.skip s with
    | [] => none
    | c :: rest =>
      if c = '[' then
        match asciiClass? rest with
        | some (set, negated, s) => do
          let set ← f.signed? negated (f.fold set)
          readClassFrom f fuel pending (⟨set, 0⟩ :: items) s
        | none => do
          let (negated, first, s) := readOpening f rest
          let (inner, s) ← readClassFrom f fuel none first s
          let set ← f.signed? negated (f.fold inner.set)
          readClassFrom f fuel pending (⟨set, inner.depth + 1⟩ :: items) s
      else if c = ']' then some (combine f pending (unionOf items), rest)
      else
        match setOp? (c :: rest) with
        | some (op, s) =>
          readClassFrom f fuel (some (op, combine f pending (unionOf items))) [] s
        | none => do
          let (item, s) ← readMember f (c :: rest)
          readClassFrom f fuel pending (item :: items) s

def readClass (f : Flags) (s : List Char) : Option (Operand × List Char) := do
  let (negated, first, s) := readOpening f s
  let (inner, s) ← readClassFrom f (s.length + 1) none first s
  let set ← f.signed? negated (f.fold inner.set)
  pure (⟨set, inner.depth + 1⟩, s)

end DebugControl.Pattern
