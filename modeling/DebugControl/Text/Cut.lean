/-!
# Cutting text at a separator

`cut sep text` is the list of pieces between the leftmost non-overlapping occurrences of `sep`, read
from the left; there is always at least one piece. The empty separator stands before and after every
character. `join` puts pieces together again, and `heldLength` measures how much of the end of a
text may be the beginning of a separator.
-/

namespace DebugControl.Text

def join (sep : List Char) : List (List Char) → List Char
  | [] => []
  | [piece] => piece
  | piece :: rest => piece ++ sep ++ join sep rest

def extendFirst (c : Char) : List (List Char) → List (List Char)
  | [] => [[c]]
  | piece :: rest => (c :: piece) :: rest

/-- Cuts at a separator that is not empty; `skip` characters of an occurrence are still to pass. -/
def cutFrom (sep : List Char) : Nat → List Char → List (List Char)
  | _, [] => [[]]
  | skip + 1, _ :: rest => cutFrom sep skip rest
  | 0, c :: rest =>
    if sep.isPrefixOf (c :: rest) then [] :: cutFrom sep (sep.length - 1) rest
    else extendFirst c (cutFrom sep 0 rest)

def cut (sep text : List Char) : List (List Char) :=
  if sep = [] then [] :: text.map (fun c => [c]) ++ [[]] else cutFrom sep 0 text

/-- The length of the longest proper beginning of `sep` that `text` ends with. -/
def heldLength (sep text : List Char) : Nat :=
  ((List.range sep.length).reverse.find? fun k => (sep.take k).isSuffixOf text).getD 0

def contains (part : List Char) : List Char → Bool
  | [] => part.isEmpty
  | c :: rest => part.isPrefixOf (c :: rest) || contains part rest

@[simp] theorem join_nil (sep : List Char) : join sep [] = [] := rfl

@[simp] theorem join_singleton (sep piece : List Char) : join sep [piece] = piece := rfl

theorem join_cons (sep piece : List Char) {rest : List (List Char)} (h : rest ≠ []) :
    join sep (piece :: rest) = piece ++ sep ++ join sep rest := by
  cases rest with
  | nil => exact absurd rfl h
  | cons _ _ => rfl

end DebugControl.Text
