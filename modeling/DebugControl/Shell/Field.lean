/-!
# Fields

The expansion of a word gives atoms, and atoms are cut into fields at separators. Only the
characters of unquoted expansions are cut, region by region: a blank separator and one that is no
blank go together, but not across the seam of two regions. `cut` gives fields whose characters say
whether they are quoted.
-/

namespace DebugControl.Shell

/-- The characters of a field, each with whether it is quoted. -/
abbrev Field := List (Char × Bool)

inductive Atom where
  /-- A character; it may be quoted, and it may come from an expansion that is cut into fields. -/
  | char (c : Char) (quoted cut : Bool)
  /-- There is a field here even if it is empty. -/
  | present
  /-- A region begins here, perhaps one with parameters that stay whole. -/
  | seam (whole : Bool)
  /-- A parameter that stays whole ends here, and another begins. -/
  | parameterEnd
deriving Repr, DecidableEq

/-- Stands between parameters that need not stay whole. -/
def parameterSeparator : Char := Char.ofNat 0

def Field.text (f : Field) : List Char := f.map Prod.fst

namespace Atom

def literal (text : List Char) (quoted : Bool) : List Atom :=
  (if quoted then [present] else []) ++ text.map fun c => char c quoted false

def expanded (text : List Char) (quoted : Bool) : List Atom :=
  (if quoted then [] else [seam false]) ++ text.map fun c => char c quoted (!quoted)

def whole (parameters : List (List Char)) : List Atom :=
  if parameters.isEmpty then []
  else
    seam true :: List.intercalate [parameterEnd]
      (parameters.map fun p => p.map fun c => char c true false)

/-- Makes the unquoted characters of a part of a word into a region. -/
def cuttable (atoms : List Atom) : List Atom :=
  seam false :: atoms.map fun a => match a with
    | char c quoted _ => char c quoted !quoted
    | a => a

def text (atoms : List Atom) : List Char :=
  atoms.filterMap fun a => match a with
    | char c _ _ => some c
    | parameterEnd => some ' '
    | _ => none

def pattern (atoms : List Atom) : Field :=
  atoms.filterMap fun a => match a with
    | char c quoted _ => some (c, quoted)
    | _ => none

end Atom

def isBlankSeparator (c : Char) : Bool :=
  c == ' ' || c == '\t' || c == '\n' || c == parameterSeparator

structure Cutting where
  /-- The fields that are complete, the latest first. -/
  done : List Field
  /-- The field under way in reverse, if one has begun. -/
  current : Option Field
  /-- Whether separators are passed over behind one, and whether one among them may be no blank. -/
  passing : Option Bool
  /-- Whether this region, and whether the one before it, has parameters that stay whole. -/
  whole : Bool
  afterWhole : Bool
  /-- How many fields may follow, if there is a limit. The last of them is not cut. -/
  left : Option Nat
  /-- In the last field, whether a blank has just separated. -/
  afterBlank : Bool
  /-- In the last field, how much of it is kept if nothing but separators follows. -/
  kept : Option Nat

namespace Cutting

def start (limit : Option Nat) : Cutting := ⟨[], none, none, false, false, limit, false, none⟩

def push (s : Cutting) (c : Char) (quoted : Bool) : Cutting :=
  { s with current := some ((c, quoted) :: s.current.getD []), passing := none }

def complete (s : Cutting) (passing : Option Bool) : Cutting :=
  { s with done := (s.current.getD []).reverse :: s.done, current := none, passing }

/-- A character in the last field: what is cut off its end begins where only blanks, and one other
separator, follow. -/
def last (s : Cutting) (isSeparator : Bool) (c : Char) (quoted : Bool) : Cutting :=
  let length := (s.current.getD []).length
  if isSeparator ∧ isBlankSeparator c then
    { s.push c quoted with kept := some (s.kept.getD length) }
  else
    { s.push c quoted with
      kept := if isSeparator ∧ s.afterBlank then s.kept else none
      afterBlank := false }

def separate (s : Cutting) (c : Char) (quoted : Bool) : Cutting :=
  let blank := isBlankSeparator c && !s.afterWhole && !s.whole
  if s.current.isNone ∧ blank then s
  else
    match s.left with
    | some 1 =>
      { s.push c quoted with
        left := some 0
        afterBlank := blank
        kept := some (s.current.getD []).length }
    | left =>
      { s.complete (if s.afterWhole then none else some blank) with left := left.map (· - 1) }

def step (separators : List Char) (s : Cutting) : Atom → Cutting
  | .seam whole =>
    { s with passing := none, afterWhole := s.whole, whole, afterBlank := false }
  | .present => { s with current := some (s.current.getD []), passing := none }
  | .parameterEnd => s.complete none
  | .char c quoted false => s.push c quoted
  | .char c quoted true =>
    let isSeparator := c == parameterSeparator || separators.contains c
    if s.left = some 0 then s.last isSeparator c quoted
    else if !isSeparator then s.push c quoted
    else
      match s.passing with
      | some other =>
        if isBlankSeparator c then s
        else if other then { s with passing := some false }
        else s.separate c quoted
      | none => s.separate c quoted

/-- All fields; the one under way counts unless it is empty. -/
def fields (s : Cutting) : List Field :=
  let rest := s.current.map fun f => match s.kept with
    | some n => f.reverse.take n
    | none => f.reverse
  let isLast := s.whole || (match s.current, s.kept with
    | some _, none => true
    | some _, some n => 0 < n
    | none, _ => false)
  (if isLast then rest.getD [] :: s.done else s.done).reverse

end Cutting

def cutFields (separators : List Char) (limit : Option Nat) (atoms : List Atom) : List Field :=
  (atoms.foldl (Cutting.step separators) (.start limit)).fields

end DebugControl.Shell
