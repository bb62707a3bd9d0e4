import DebugControl.Pattern.Expr
import DebugControl.Pattern.Form
import DebugControl.Pattern.Primitive

/-!
# Pieces

A piece is a part of a pattern that has been read: its expression, its normal form, and how deep it
nests. A list of flags is a piece as well, which cannot be repeated.
-/

namespace DebugControl.Pattern

open Unicode (CharSet)

abbrev Regex := Expr CharSet Look

structure Piece where
  expr : Regex
  form : Form
  depth : Nat
  isFlags : Bool

namespace Piece

def nothing : Piece := ⟨.empty, .empty, 0, false⟩

def flagList : Piece := ⟨.empty, .empty, 0, true⟩

def literal (c : Char) : Piece := ⟨.step (.single c), .literal [c], 0, false⟩

/-- A set of characters, or of bytes where Unicode is off. -/
def set (ofBytes : Bool) (s : CharSet) (depth : Nat) : Piece :=
  ⟨.step s, .ofRanges ofBytes s.ranges, depth, false⟩

def look (l : Look) : Piece := ⟨.look l, .look l, 0, false⟩

def maxDepth (ps : List Piece) : Nat := ps.foldr (fun p d => max p.depth d) 0

def seqAll : List Piece → Regex
  | [] => .empty
  | [p] => p.expr
  | p :: rest => .seq p.expr (seqAll rest)

def altAll : List Piece → Regex
  | [] => .empty
  | [p] => p.expr
  | p :: rest => .alt p.expr (altAll rest)

def concat : List Piece → Piece
  | [] => nothing
  | [p] => p
  | ps => ⟨seqAll ps, .concat (ps.map Piece.form), maxDepth ps + 1, false⟩

def choice : List Piece → Piece
  | [] => nothing
  | [p] => p
  | ps => ⟨altAll ps, .choice (ps.map Piece.form), maxDepth ps + 1, false⟩

def group (number : Option Nat) (p : Piece) : Piece :=
  ⟨p.expr, number.elim p.form (Form.capture · p.form), p.depth + 1, false⟩

def repeated (p : Piece) (least : Nat) (most : Option Nat) (greedy : Bool) : Piece :=
  ⟨.repetition p.expr least most, p.form.repeated least most greedy, p.depth + 1, false⟩

end Piece

end DebugControl.Pattern
