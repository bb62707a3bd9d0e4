/-!
# Expressions and the positions they reach

An expression is built from steps, which pass one character, and looks, which pass none. What steps
and looks are is left open: a pattern has sets of characters and assertions there, and an expression
laid on a text has the positions at which they hold, as the bits of a number.

`Spans` is the meaning: from which position to which an expression leads. `reach` computes, for a
set of positions, all positions that the expression leads to from them.
-/

namespace DebugControl.Pattern

inductive Expr (S L : Type) where
  | empty
  | step (s : S)
  | look (l : L)
  | seq (first second : Expr S L)
  | alt (first second : Expr S L)
  /-- At least so many times, and at most so many if there is a bound. -/
  | repetition (body : Expr S L) (least : Nat) (most : Option Nat)
deriving Repr, DecidableEq

def Iterated (r : Nat → Nat → Prop) : Nat → Nat → Nat → Prop
  | 0, i, j => i = j
  | n + 1, i, j => ∃ k, r i k ∧ Iterated r n k j

def iterate (f : Nat → Nat) : Nat → Nat → Nat
  | 0, s => s
  | n + 1, s =>
    let t := f s
    if t = s then s else iterate f n t

def close (f : Nat → Nat) : Nat → Nat → Nat
  | 0, s => s
  | n + 1, s =>
    let t := s ||| f s
    if t = s then s else close f n t

namespace Expr

variable {S L S' L' : Type}

def map (f : S → S') (g : L → L') : Expr S L → Expr S' L'
  | empty => empty
  | step s => step (f s)
  | look l => look (g l)
  | seq a b => seq (a.map f g) (b.map f g)
  | alt a b => alt (a.map f g) (b.map f g)
  | repetition e least most => repetition (e.map f g) least most

/-- Whether an expression leads from one position to another, where `step` and `look` say at which
positions the parts hold. -/
def Spans (step : S → Nat → Prop) (look : L → Nat → Prop) : Expr S L → Nat → Nat → Prop
  | empty, i, j => i = j
  | .step s, i, j => step s i ∧ j = i + 1
  | .look l, i, j => look l i ∧ i = j
  | seq a b, i, j => ∃ k, a.Spans step look i k ∧ b.Spans step look k j
  | alt a b, i, j => a.Spans step look i j ∨ b.Spans step look i j
  | repetition e least most, i, j =>
    ∃ n, least ≤ n ∧ (∀ m, most = some m → n ≤ m) ∧ Iterated (e.Spans step look) n i j

/-- The positions reached from the positions `s`; a repetition without a bound makes no progress
after `bound` rounds. -/
def reach (bound : Nat) : Expr Nat Nat → Nat → Nat
  | empty, s => s
  | step at_, s => (s &&& at_) <<< 1
  | look at_, s => s &&& at_
  | seq a b, s => b.reach bound (a.reach bound s)
  | alt a b, s => a.reach bound s ||| b.reach bound s
  | repetition e least most, s =>
    let rounds := match most with
      | some m => m - least
      | none => bound
    close (e.reach bound) rounds (iterate (e.reach bound) least s)

end Expr

def ofBits : List Bool → Nat
  | [] => 0
  | b :: rest => b.toNat + 2 * ofBits rest

def positions (holds : Char → Bool) (text : List Char) : Nat := ofBits (text.map holds)

/-- For each position of a text whether a condition on its two neighbours holds there. -/
def betweenBits (holds : Option Char → Option Char → Bool) : Option Char → List Char → List Bool
  | before, [] => [holds before none]
  | before, c :: rest => holds before (some c) :: betweenBits holds (some c) rest

def gaps (holds : Option Char → Option Char → Bool) (text : List Char) : Nat :=
  ofBits (betweenBits holds none text)

end DebugControl.Pattern
