import DebugControl.Files
import DebugControl.Shell.Field
import DebugControl.Text.Octets

/-!
# Patterns for words

A star stands for any text, a question mark for any character and brackets for a set. Each character
of a pattern says whether it was quoted; a quoted one stands for itself, and so does one behind a
backslash that comes from an expansion. `paths` gives the paths of files that a pattern matches.
-/

namespace DebugControl.Shell.Glob

abbrev Pattern := Field

def resolve : Pattern → Pattern
  | ('\\', false) :: (c, _) :: rest => (c, true) :: resolve rest
  | c :: rest => c :: resolve rest
  | [] => []

inductive Member where
  | range (low high : Char)
  | named (name : String)

def inClass (name : String) (c : Char) : Bool :=
  match name with
  | "alpha" => c.isAlpha
  | "digit" => c.isDigit
  | "alnum" => c.isAlphanum
  | "upper" => c.isUpper
  | "lower" => c.isLower
  | "space" => c == ' ' || ('\t' ≤ c && c ≤ '\r')
  | "blank" => c == ' ' || c == '\t'
  | "punct" => '!' ≤ c && c ≤ '~' && !c.isAlphanum
  | "print" => ' ' ≤ c && c ≤ '~'
  | "graph" => '!' ≤ c && c ≤ '~'
  | "cntrl" => c < ' ' || c == '\x7f'
  | "xdigit" => c.isDigit || ('a' ≤ c.toLower && c.toLower ≤ 'f')
  | _ => false

def Member.contains (c : Char) : Member → Bool
  | .range low high => low ≤ c && c ≤ high
  | .named name => inClass name c

def className? (p : Pattern) : Option (String × Pattern) :=
  let name := p.takeWhile fun x => x.1.isAlpha
  match p.drop name.length with
  | (':', false) :: (']', false) :: rest => some (String.ofList (name.map Prod.fst), rest)
  | _ => none

/-- Reads the members of a set up to the closing bracket; one that comes first is a member. -/
def members? : Nat → Bool → Pattern → Option (List Member × Pattern)
  | 0, _, _ => none
  | _, _, [] => none
  | fuel + 1, first, (c, quoted) :: rest =>
    let add (m : Member) (rest : Pattern) : Option (List Member × Pattern) :=
      (members? fuel false rest).map fun p => (m :: p.1, p.2)
    let single : Option (List Member × Pattern) :=
      match rest with
      | ('-', false) :: (high, q) :: more =>
        if high = ']' ∧ !q then add (.range c c) rest else add (.range c high) more
      | _ => add (.range c c) rest
    if c = ']' ∧ !quoted ∧ !first then some ([], rest)
    else if c = '[' ∧ !quoted ∧ rest.head? = some (':', false) then
      match className? (rest.drop 1) with
      | some (name, more) => add (.named name) more
      | none => single
    else single

def set? (pattern : Pattern) : Option (Bool × List Member × Pattern) :=
  match pattern with
  | ('!', false) :: rest => (members? (rest.length + 1) true rest).map fun p => (true, p.1, p.2)
  | _ => (members? (pattern.length + 1) true pattern).map fun p => (false, p.1, p.2)

def matchesWithin : Nat → Pattern → List Char → Bool
  | 0, _, _ => false
  | _, [], [] => true
  | _, [], _ => false
  | fuel + 1, ('*', false) :: rest, s =>
    matchesWithin fuel rest s ||
      (match s with
        | [] => false
        | _ :: s => matchesWithin fuel (('*', false) :: rest) s)
  | fuel + 1, ('?', false) :: rest, _ :: s => matchesWithin fuel rest s
  | fuel + 1, ('[', false) :: rest, c :: s =>
    match set? rest with
    | some (negated, members, rest) =>
      (members.any (·.contains c) != negated) && matchesWithin fuel rest s
    | none => c == '[' && matchesWithin fuel rest s
  | fuel + 1, (p, _) :: rest, c :: s => p == c && matchesWithin fuel rest s
  | _, _ :: _, [] => false

/-- Whether a pattern matches a text up to the first separator of parameters in it. -/
def isMatch (pattern : Pattern) (text : List Char) : Bool :=
  let text := text.takeWhile (· != parameterSeparator)
  matchesWithin (pattern.length + text.length + 1) (resolve pattern) text

/-- The text without the shortest or longest beginning that a pattern matches; the shortest is
looked for in the first parameter only. -/
def cutFront (longest : Bool) (pattern : Pattern) (text : List Char) : List Char :=
  let first := text.takeWhile (· != parameterSeparator)
  let sizes := if longest then (List.range (text.length + 1)).reverse
    else List.range (first.length + 1)
  match sizes.find? fun n => isMatch pattern (text.take n) with
  | some n => text.drop n
  | none => text

/-- The text without the shortest or longest ending that a pattern matches; the longest is looked
for from the first parameter on. -/
def cutBack (longest : Bool) (pattern : Pattern) (text : List Char) : List Char :=
  let first := text.takeWhile (· != parameterSeparator)
  let sizes := if longest then List.range (first.length + 1)
    else (List.range (text.length + 1)).reverse
  match sizes.find? fun n => isMatch pattern (text.drop n) with
  | some n => text.take n
  | none => text

/-! ## Paths -/

def isPattern : Pattern → Bool
  | [] => false
  | (c, quoted) :: rest =>
    if quoted then isPattern rest
    else if c = '*' ∨ c = '?' then true
    else if c = '[' then
      let members := if rest.head? = some ('!', false) then rest.drop 1 else rest
      (members.drop 1).contains (']', false) || isPattern rest
    else isPattern rest

def names (pattern : Pattern) : List Pattern :=
  pattern.foldr (fun c names => match names with
    | [] => [[c]]
    | name :: rest => if c.1 = '/' then [] :: name :: rest else (c :: name) :: rest) [[]]

def pathsFrom (fs : Files) (here : Place) : Nat → List Char → List Pattern → List (List Char)
  | 0, _, _ => []
  | _, _, [] => []
  | fuel + 1, before, name :: rest =>
    let isThere (path : List Char) : Bool :=
      match fs.find false here (Octets.encode path) with
      | .ok found => found.node?.isSome
      | .error _ => false
    if !isPattern name then
      if rest.isEmpty then if isThere (before ++ name.text) then [before ++ name.text] else []
      else pathsFrom fs here fuel (before ++ name.text ++ ['/']) rest
    else
      let directory := if before.isEmpty then ['.'] else before
      match fs.stat here (Octets.encode directory) with
      | .ok (place, .directory _) =>
        let candidates := [Path.dot, Path.dotDot] ++ fs.namesIn place
        let showHidden := (name.head?.map Prod.fst) == some '.'
        let found := (candidates.map Octets.decode).filter fun n =>
          (n.head? != some '.' || showHidden) && isMatch name n
        if rest.isEmpty then found.map (before ++ ·)
        else found.flatMap fun n => pathsFrom fs here fuel (before ++ n ++ ['/']) rest
      | _ => []

def paths (fs : Files) (here : Place) (pattern : Pattern) : List (List Char) :=
  let names := names (resolve pattern)
  if !names.any isPattern then []
  else (pathsFrom fs here (names.length + 1) [] names).mergeSort Octets.precedes

end DebugControl.Shell.Glob
