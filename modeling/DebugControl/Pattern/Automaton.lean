import DebugControl.Pattern.Form
import DebugControl.Text.Utf8Ranges
import Std.Data.HashMap

/-!
# The size of an automaton

A pattern is refused if an automaton that reads the bytes of a line would take more than
`Size.limit`. Two automata count, each for itself: one that reads forward and marks where groups
begin and end, and one that reads backward. `build` adds the states of a form and tells whether the
last of them is a union, a state to which alternatives can still be added.

States of a set beyond ASCII are shared. Which ones are shared depends on tables with a fixed number
of slots, so that an entry may displace another.
-/

namespace DebugControl.Pattern

/-- What has been built: the number of states, and the octets that they take beyond `Size.state`. -/
structure Size where
  states : Nat
  extra : Nat
deriving Repr, DecidableEq

namespace Size

def empty : Size := ⟨0, 0⟩

def state : Nat := 32

def transition : Nat := 8

def alternative : Nat := 4

def limit : Nat := 10 * 1024 * 1024

def octets (s : Size) : Nat := s.states * state + s.extra

def checked (s : Size) : Option Size := if limit < s.octets then none else some s

def add (s : Size) (states extra : Nat) : Option Size :=
  checked ⟨s.states + states, s.extra + extra⟩

def connect (s : Size) (fromUnion : Bool) : Option Size :=
  if fromUnion then s.add 0 alternative else some s

end Size

/-! ## Hashing -/

def hashStep (h n : UInt64) : UInt64 := (h ^^^ n) * 1099511628211

def slot (slots : Nat) (numbers : List UInt64) : Nat :=
  (numbers.foldl hashStep 14695981039346656037).toNat % slots

abbrev Table := Std.HashMap Nat (List UInt64 × Nat)

def Table.find? (t : Table) (slots : Nat) (key : List UInt64) : Option Nat :=
  match t[slot slots key]? with
  | some (key', state) => if key = key' then some state else none
  | none => none

def Table.put (t : Table) (slots : Nat) (key : List UInt64) (state : Nat) : Table :=
  t.insert (slot slots key) (key, state)

structure Shared where
  size : Size
  table : Table

/-! ## Sets read forward -/

/-- A state whose transitions are not complete: those that are, and the range of bytes of the one
under way. -/
structure OpenState where
  transitions : List UInt64
  last : Option (UInt8 × UInt8)

def OpenState.close (o : OpenState) (next : Nat) : List UInt64 :=
  match o.last with
  | none => o.transitions
  | some (low, high) => o.transitions ++ [low.toUInt64, high.toUInt64, next.toUInt64]

def forwardSlots : Nat := 10000

def Shared.sparse (s : Shared) (transitions : List UInt64) : Option (Shared × Nat) :=
  match s.table.find? forwardSlots transitions with
  | some state => some (s, state)
  | none => do
    let size ← s.size.add 1 (transitions.length / 3 * Size.transition)
    pure (⟨size, s.table.put forwardSlots transitions s.size.states⟩, s.size.states)

def Shared.complete (s : Shared) (target : Nat) : List OpenState → Option (Shared × Nat)
  | [] => some (s, target)
  | o :: inner => do
    let (s, next) ← s.complete target inner
    s.sparse (o.close next)

/-- Adds ranges of bytes behind those that are open, as far as they differ from these. -/
def Shared.extend (s : Shared) (target : Nat) :
    List OpenState → Utf8.ByteRanges → Option (Shared × List OpenState)
  | _, [] => some (s, [])
  | [], ranges => some (s, ranges.map fun r => ⟨[], some r⟩)
  | o :: inner, r :: ranges =>
    if o.last = some r then do
      let (s, inner) ← s.extend target inner ranges
      pure (s, o :: inner)
    else do
      let (s, next) ← s.complete target inner
      pure (s, ⟨o.close next, some r⟩ :: ranges.map fun r => ⟨[], some r⟩)

def Shared.extendAll (s : Shared) (target : Nat) (opened : List OpenState) :
    List Utf8.ByteRanges → Option (Shared × List OpenState)
  | [] => some (s, opened)
  | ranges :: rest =>
    match s.extend target opened ranges with
    | none => none
    | some (s, opened) => s.extendAll target opened rest

def Size.addForward (size : Size) (pieces : List Utf8.ByteRanges) : Option Size := do
  let target := size.states
  let size ← size.add 1 0
  let (s, opened) ← Shared.extendAll ⟨size, ∅⟩ target [⟨[], none⟩] pieces
  let (s, _) ← s.complete target opened
  pure s.size

/-! ## Sets read backward -/

def backwardSlots : Nat := 1000

def Shared.chain (s : Shared) (next : Nat) : Utf8.ByteRanges → Option Shared
  | [] => some s
  | (low, high) :: rest =>
    let key := [next.toUInt64, low.toUInt64, high.toUInt64]
    match s.table.find? backwardSlots key with
    | some state => s.chain state rest
    | none =>
      match s.size.add 1 0 with
      | none => none
      | some size =>
        Shared.chain ⟨size, s.table.put backwardSlots key s.size.states⟩ s.size.states rest

def Shared.chainAll (s : Shared) (target : Nat) : List Utf8.ByteRanges → Option Shared
  | [] => some s
  | ranges :: rest =>
    match s.chain target ranges with
    | none => none
    | some s =>
      match s.size.connect true with
      | none => none
      | some size => Shared.chainAll ⟨size, s.table⟩ target rest

/-- The states of a set that is read backward: a union of its pieces and their common end. -/
def Size.addBackward (size : Size) (pieces : List Utf8.ByteRanges) : Option Size := do
  let target := size.states + 1
  let size ← size.add 2 0
  let s ← Shared.chainAll ⟨size, ∅⟩ target pieces
  pure s.size

def Size.addSet (size : Size) (backward : Bool) (ranges : List (Nat × Nat)) : Option Size :=
  if ranges.all fun r => r.2 < 0x80 then size.add 2 (ranges.length * transition)
  else
    let pieces := ranges.flatMap fun r => Utf8.byteRanges r.1 r.2
    if backward then size.addBackward pieces else size.addForward pieces

/-! ## Choices of literals -/

def insertWord (b : UInt8) (rest : List UInt8) :
    List (UInt8 × List (List UInt8)) → List (UInt8 × List (List UInt8))
  | [] => [(b, [rest])]
  | (b', rests) :: groups =>
    if b = b' then (b, rests ++ [rest]) :: groups else (b', rests) :: insertWord b rest groups

def chunkWords (chunk : List (UInt8 × List (List UInt8))) :
    List (List UInt8) → List (List (UInt8 × List (List UInt8)))
  | [] => [chunk]
  | [] :: words => chunk :: chunkWords [] words
  | (b :: rest) :: words => chunkWords (insertWord b rest chunk) words

/-- The states of words that begin at one state: for each chunk one with a transition for each first
byte, those behind the bytes, and a union of the chunks and ends. -/
def trieSize : Nat → List (List UInt8) → Size
  | 0, _ => ⟨1, 0⟩
  | fuel + 1, words =>
    let chunks := chunkWords [] words
    let filled := chunks.filter fun chunk => !chunk.isEmpty
    let own : Size :=
      ⟨filled.length + 1,
        (filled.map fun chunk =>
          if chunk.length = 1 then 0 else chunk.length * Size.transition).sum +
          (filled.length + (chunks.length - 1)) * Size.alternative⟩
    let behind := filled.flatten.filter fun group => group.2.any fun rest => !rest.isEmpty
    (behind.map fun group => trieSize fuel group.2).foldl
      (fun a b => ⟨a.states + b.states, a.extra + b.extra⟩) own

def Form.words? : Form → Option (List (List UInt8))
  | literal text => some [Utf8.encode text]
  | alt first rest => do pure ((← first.words?) ++ (← rest.words?))
  | _ => none

def Size.addWords (size : Size) (backward : Bool) (words : List (List UInt8)) : Option Size :=
  let words := if backward then words.map List.reverse else words
  let trie := trieSize (words.foldr (fun w n => max w.length n) 0) words
  size.add (trie.states + 1) trie.extra

/-! ## Forms -/

abbrev Built := Size × Bool

def copies (part : Size → Option Built) : Nat → Built → Option Built
  | 0, built => some built
  | n + 1, (size, union) =>
    match part size with
    | none => none
    | some (size, union') =>
      match size.connect union with
      | none => none
      | some size => copies part n (size, union')

def exactly (part : Size → Option Built) (n : Nat) (size : Size) : Option Built :=
  match n with
  | 0 => (size.add 1 0).map (·, false)
  | n + 1 =>
    match part size with
    | none => none
    | some built => copies part n built

def optional (part : Size → Option Built) : Nat → Built → Option Built
  | 0, built => some built
  | n + 1, (size, union) =>
    match size.add 1 (2 * Size.alternative) with
    | none => none
    | some size =>
      match part size with
      | none => none
      | some (size, union') =>
        match size.connect union with
        | none => none
        | some size => optional part n (size, union')

/-- Builds a part repeated without a bound; `passes` tells whether all its matches pass something.
-/
def unbounded (part : Size → Option Built) (passes : Bool) (least : Nat) (size : Size) :
    Option Built :=
  match least with
  | 0 =>
    if passes then do
      let size ← size.add 1 Size.alternative
      let (size, union) ← part size
      pure (← size.connect union, true)
    else do
      let (size, union) ← part size
      let size ← size.connect union
      pure (← size.add 3 (4 * Size.alternative), false)
  | 1 => do
    let (size, union) ← part size
    let size ← size.connect union
    pure (← size.add 1 Size.alternative, true)
  | n + 2 => do
    let (size, union) ← exactly part (n + 2) size
    let size ← size.connect union
    pure (← size.add 1 Size.alternative, true)

/-- Joins a branch to those before it: the second brings the union of all and their end with it. -/
def joinBranch (number : Nat) (size : Size) (union : Bool) : Option Size :=
  match number with
  | 0 => size.connect union
  | 1 => do (← size.connect union).add 2 (2 * Size.alternative)
  | _ => do (← size.connect union).add 0 Size.alternative

/-- Builds a form that is a branch of a choice with so many branches before it, of which there are
none for a form that stands alone. -/
def build (backward : Bool) (form : Form) (number : Nat) (size : Size) : Option Built :=
  let asBranch (built : Built) : Option Built :=
    if number = 0 then some built
    else (joinBranch number built.1 built.2).map (·, false)
  match form with
  | .empty | .look _ => do asBranch (← size.add 1 0, false)
  | .literal text => do asBranch (← size.add (Utf8.encode text).length 0, false)
  | .set ranges _ => do asBranch (← size.addSet backward ranges, false)
  | .capture _ body => do
    if backward then asBranch (← build backward body 0 size)
    else
      let size ← size.add 1 0
      let (size, union) ← build backward body 0 size
      let size ← size.connect union
      asBranch (← size.add 1 0, false)
  | .repetition body least most _ => do
    let part := build backward body 0
    let built ← match least, most with
      | 0, some 1 => do
        let size ← size.add 1 (2 * Size.alternative)
        let (size, union) ← part size
        let size ← size.connect union
        pure (← size.add 1 0, false)
      | least, none => unbounded part (body.shortest?.any (0 < ·)) least size
      | least, some most =>
        if least = most then exactly part least size
        else do
          let (size, union) ← exactly part least size
          let size ← size.add 1 0
          let (size, union) ← optional part (most - least) (size, union)
          pure (← size.connect union, false)
    asBranch built
  | .seq first rest => do
    if backward then
      let (size, union) ← build backward rest 0 size
      let (size, union') ← build backward first 0 size
      asBranch (← size.connect union, union')
    else
      let (size, union) ← build backward first 0 size
      let (size, union') ← build backward rest 0 size
      asBranch (← size.connect union, union')
  | .alt first rest =>
    match if number = 0 then (Form.alt first rest).words? else none with
    | some words => do pure (← size.addWords backward words, false)
    | none => do
      let (size, union) ← build backward first 0 size
      let size ← joinBranch number size union
      let (size, _) ← build backward rest (number + 1) size
      pure (size, false)

/-- Builds the automaton of a pattern. One that may match anywhere begins with a loop over all
bytes; the one that reads forward marks the whole match like a group. -/
def buildAll (backward : Bool) (form : Form) : Option Size := do
  let anchored := if backward then form.closesWith .textEnd else form.opensWith .textStart
  let size ← if anchored then Size.empty.add 1 0
    else Size.empty.add 3 (Size.transition + 2 * Size.alternative)
  let (size, _) ← build backward (if backward then form else .capture 0 form) 0 size
  size.add 1 0

def Form.isTooLarge (form : Form) : Bool :=
  (buildAll false form).isNone || (buildAll true form).isNone

end DebugControl.Pattern
