import DebugControl.Pattern.Look
import DebugControl.Unicode.CharSet

/-!
# Normal forms

The normal form of a pattern is what an automaton is built from. In it neighbouring literals are
joined, sequences and choices are flat, a choice of single characters or of sets is one set, a
beginning that all branches of a choice share stands before it, and what passes no character is
repeated once at most. Sequences and choices are nested to the right. A group that captures knows
its number, so that no two groups are the same form.
-/

namespace DebugControl.Pattern

inductive Form where
  | empty
  | literal (text : List Char)
  /-- The ranges of a set, and whether it is a set of bytes. -/
  | set (ranges : List (Nat × Nat)) (ofBytes : Bool)
  | look (l : Look)
  | repetition (body : Form) (least : Nat) (most : Option Nat) (greedy : Bool)
  | capture (number : Nat) (body : Form)
  | seq (first rest : Form)
  | alt (first rest : Form)
deriving Repr, DecidableEq

namespace Form

def nothing : Form := set [] true

def ofRanges (ofBytes : Bool) : List (Nat × Nat) → Form
  | [] => nothing
  | [(low, high)] => if low = high then literal [Char.ofNat low] else set [(low, high)] ofBytes
  | ranges => set ranges ofBytes

/-! ## Lengths and anchors -/

def isStill : Form → Bool
  | empty | look _ => true
  | literal _ | set _ _ => false
  | repetition body _ _ _ => body.isStill
  | capture _ body => body.isStill
  | seq first rest | alt first rest => first.isStill && rest.isStill

/-- A number of characters that every match passes, unless some part matches nothing. -/
def shortest? : Form → Option Nat
  | empty | look _ => some 0
  | literal text => some text.length
  | set ranges _ => if ranges = [] then none else some 1
  | repetition body least _ _ => body.shortest?.map (· * least)
  | capture _ body => body.shortest?
  | seq first rest => do pure ((← first.shortest?) + (← rest.shortest?))
  | alt first rest => do pure (min (← first.shortest?) (← rest.shortest?))

def opensWith (l : Look) : Form → Bool
  | look l' => l == l'
  | empty | literal _ | set _ _ => false
  | repetition body least _ _ => 0 < least && body.opensWith l
  | capture _ body => body.opensWith l
  | seq first rest => first.opensWith l || (first.isStill && rest.opensWith l)
  | alt first rest => first.opensWith l && rest.opensWith l

def closesWith (l : Look) : Form → Bool
  | look l' => l == l'
  | empty | literal _ | set _ _ => false
  | repetition body least _ _ => 0 < least && body.closesWith l
  | capture _ body => body.closesWith l
  | seq first rest => rest.closesWith l || (rest.isStill && first.closesWith l)
  | alt first rest => first.closesWith l && rest.closesWith l

/-! ## Sequences -/

def parts : Form → List Form
  | seq first rest => first :: rest.parts
  | f => [f]

/-- Joins neighbouring literals and leaves out what is empty; `text` is the literal under way, the
latest character first. -/
def joinLiterals (text : List Char) : List Form → List Form
  | [] => if text = [] then [] else [literal text.reverse]
  | literal t :: rest => joinLiterals (t.reverse ++ text) rest
  | empty :: rest => joinLiterals text rest
  | f :: rest =>
    if text = [] then f :: joinLiterals [] rest
    else literal text.reverse :: f :: joinLiterals [] rest

def seqOf : List Form → Form
  | [] => empty
  | [f] => f
  | f :: rest => seq f (seqOf rest)

def concat (forms : List Form) : Form := seqOf (joinLiterals [] (forms.flatMap parts))

/-! ## Choices -/

def branches : Form → List Form
  | alt first rest => first :: rest.branches
  | f => [f]

def altOf : List Form → Form
  | [] => nothing
  | [f] => f
  | f :: rest => alt f (altOf rest)

def charRange? : Form → Option (Nat × Nat)
  | literal [c] => some (c.toNat, c.toNat)
  | _ => none

def setRanges? : Form → Option (List (Nat × Nat))
  | set ranges _ => some ranges
  | _ => none

def unite (ranges : List (Nat × Nat)) : Form :=
  ofRanges false (Unicode.CharSet.ofRanges ranges).ranges

def sharedLength : List Form → List Form → Nat
  | a :: as, b :: bs => if a = b then sharedLength as bs + 1 else 0
  | _, _ => 0

def sharedBeginning (forms : List Form) : Nat :=
  match forms.map parts with
  | [] => 0
  | first :: rest =>
    if (first :: rest).all fun ps => 1 < ps.length then
      rest.foldl (fun n ps => sharedLength (first.take n) ps) first.length
    else 0

/-- One of several forms, the branches of which are given; `fuel` bounds how often a shared
beginning is taken out. -/
def choiceOf : Nat → List Form → Form
  | 0, forms => altOf forms
  | fuel + 1, forms =>
    match forms with
    | [] => nothing
    | [f] => f
    | forms =>
      match forms.mapM charRange?, forms.mapM setRanges? with
      | some ranges, _ => unite ranges
      | none, some sets => unite sets.flatten
      | none, none =>
        let n := sharedBeginning forms
        if n = 0 then altOf forms
        else
          let first := (forms.headD empty).parts.take n
          let rests := forms.map fun f => concat (f.parts.drop n)
          concat (first ++ [choiceOf fuel (rests.flatMap branches)])

/-- The number of parts of a form, of which each shared beginning takes some. -/
def size : Form → Nat
  | empty | literal _ | set _ _ | look _ => 1
  | repetition body _ _ _ | capture _ body => body.size + 1
  | seq first rest | alt first rest => first.size + rest.size + 1

def choice (forms : List Form) : Form :=
  choiceOf ((forms.headD empty).size + 1) (forms.flatMap branches)

/-! ## Repetitions -/

/-- A form repeated; one that passes nothing is repeated once at most. -/
def repeated (f : Form) (least : Nat) (most : Option Nat) (greedy : Bool) : Form :=
  let (least, most) :=
    if f.isStill then (min least 1, some (min (most.getD 1) 1)) else (least, most)
  if most = some 0 then empty
  else if least = 1 ∧ most = some 1 then f
  else repetition f least most greedy

end Form

end DebugControl.Pattern
