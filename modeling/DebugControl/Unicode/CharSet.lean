/-!
# Sets of characters

A set is given by its bounds: the code points, in order, at which membership changes. All operations
on sets are one merge of bounds, `combine`, with different conditions on the two memberships.
-/

namespace DebugControl.Unicode

structure CharSet where
  bounds : List Nat
deriving Repr, DecidableEq

namespace CharSet

/-- Whether a code point lies in a set with these bounds, when zero does if `inside`. -/
def liesIn (inside : Bool) : List Nat → Nat → Bool
  | [], _ => inside
  | b :: rest, n => if n < b then inside else liesIn (!inside) rest n

def contains (s : CharSet) (c : Char) : Bool := liesIn false s.bounds c.toNat

def empty : CharSet := ⟨[]⟩

def all : CharSet := ⟨[0]⟩

def range (low high : Nat) : CharSet := ⟨[low, high + 1]⟩

def single (c : Char) : CharSet := range c.toNat c.toNat

/-- The bounds of the code points at which `op` holds of the memberships in two sets, from a point
on at which the memberships are `p` and `q`. -/
def combineFrom (op : Bool → Bool → Bool) (p q : Bool) : Nat → List Nat → List Nat → List Nat
  | 0, _, _ => []
  | fuel + 1, xs, ys =>
    let next (bound : Nat) (p' q' : Bool) (xs ys : List Nat) : List Nat :=
      let rest := combineFrom op p' q' fuel xs ys
      if op p q = op p' q' then rest else bound :: rest
    match xs, ys with
    | [], [] => []
    | x :: xs, [] => next x (!p) q xs []
    | [], y :: ys => next y p (!q) [] ys
    | x :: xs, y :: ys =>
      if x < y then next x (!p) q xs (y :: ys)
      else if y < x then next y p (!q) (x :: xs) ys
      else next x (!p) (!q) xs ys

/-- The characters for which `op` holds of the memberships in two sets. It must not hold of none. -/
def combine (op : Bool → Bool → Bool) (a b : CharSet) : CharSet :=
  ⟨combineFrom op false false (a.bounds.length + b.bounds.length) a.bounds b.bounds⟩

def union : CharSet → CharSet → CharSet := combine fun p q => p || q

def intersection : CharSet → CharSet → CharSet := combine fun p q => p && q

def difference : CharSet → CharSet → CharSet := combine fun p q => p && !q

def symmetricDifference : CharSet → CharSet → CharSet := combine fun p q => p != q

def complement (s : CharSet) : CharSet := s.symmetricDifference all

def unitePairs : List CharSet → List CharSet
  | a :: b :: rest => a.union b :: unitePairs rest
  | sets => sets

def uniteRounds : Nat → List CharSet → CharSet
  | _, [] => empty
  | _, [s] => s
  | 0, s :: _ => s
  | fuel + 1, sets => uniteRounds fuel (unitePairs sets)

def unionAll (sets : List CharSet) : CharSet := uniteRounds sets.length sets

def ofRanges (ranges : List (Nat × Nat)) : CharSet :=
  unionAll (ranges.map fun r => range r.1 r.2)

def maxCode : Nat := 0x10ffff

def rangesFrom : List Nat → List (Nat × Nat)
  | [] => []
  | [low] => [(low, maxCode)]
  | low :: bound :: rest => (low, bound - 1) :: rangesFrom rest

def surrogates : CharSet := range 0xd800 0xdfff

def ranges (s : CharSet) : List (Nat × Nat) :=
  rangesFrom ((s.intersection (range 0 maxCode)).difference surrogates).bounds

end CharSet

end DebugControl.Unicode
