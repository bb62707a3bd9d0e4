import DebugControl.Proofs.Text.Lines
import DebugControl.Script.Reader
import Mathlib.Data.List.Forall2

/-!
# Scripts one after the other

A line of a script is read on its own, whatever its number: `readLines_append` reads lines after
other lines, and `readLines_add` moves the number of the first of them. How a line ends and whether
an empty line follows the last is of no account, so that a script is read as the pieces between its
line feeds, and a line feed between two scripts makes one script of both.
-/

namespace DebugControl.Script

open Text

theorem readLines_append (number : Nat) (first second : List (List Char)) :
    readLines number (first ++ second) =
      match readLines number first, readLines (number + first.length) second with
      | .error e, _ => .error e
      | .ok _, .error e => .error e
      | .ok before, .ok after => .ok (before ++ after) := by
  induction first generalizing number with
  | nil => cases h : readLines number second <;> simp [readLines, h]
  | cons raw first ih =>
    have hlength : number + 1 + first.length = number + (raw :: first).length := by
      rw [List.length_cons, Nat.add_assoc, Nat.add_comm 1]
    rw [List.cons_append, readLines, readLines, ih (number + 1), hlength]
    split_ifs with hskipped
    · rfl
    · cases readStep (trim raw) with
      | error cause => rfl
      | ok step =>
        cases readLines (number + 1) first with
        | error e => rfl
        | ok before => cases readLines (number + (raw :: first).length) second <;> rfl

theorem readLines_add (offset number : Nat) (raws : List (List Char)) :
    readLines (offset + number) raws =
      (readLines number raws).mapError fun e => ⟨offset + e.line, e.cause⟩ := by
  induction raws generalizing number with
  | nil => rfl
  | cons raw raws ih =>
    rw [readLines, readLines, Nat.add_assoc, ih (number + 1)]
    split_ifs with hskipped
    · rfl
    · cases readStep (trim raw) with
      | error cause => rfl
      | ok step => cases readLines (number + 1) raws <;> rfl

theorem readLines_congr {raws others : List (List Char)}
    (h : List.Forall₂ (fun raw other => trim other = trim raw) raws others) (number : Nat) :
    readLines number others = readLines number raws := by
  induction h generalizing number with
  | nil => rfl
  | cons hfirst _ ih => rw [readLines, readLines, hfirst, ih]

theorem readLines_map {f : List Char → List Char} (hf : ∀ raw, trim (f raw) = trim raw)
    (number : Nat) (raws : List (List Char)) :
    readLines number (raws.map f) = readLines number raws :=
  readLines_congr (List.forall₂_map_right_iff.2 (List.forall₂_same.2 fun raw _ => hf raw)) number

theorem read_eq_readLines_cut (text : List Char) : read text = readLines 1 (cut ['\n'] text) := by
  obtain ⟨before, last, hcut, hlines⟩ := lines_eq_append_last text
  rw [read, hcut, hlines, readLines_append, readLines_append, readLines_map trim_dropReturn,
    List.length_map]
  split_ifs with hlast
  · rw [hlast]
    rfl
  · rfl

/-- A script after another, with a line feed in between. If the first can be read, the second is read
as on its own, but its lines are counted after those of the first. -/
theorem read_append_newline (first second : List Char) :
    read (first ++ '\n' :: second) =
      match read first, read second with
      | .error e, _ => .error e
      | .ok _, .error e => .error ⟨first.count '\n' + 1 + e.line, e.cause⟩
      | .ok before, .ok after => .ok (before ++ after) := by
  have hsecond : readLines (1 + (cut ['\n'] first).length) (cut ['\n'] second) =
      (read second).mapError fun e => ⟨first.count '\n' + 1 + e.line, e.cause⟩ := by
    rw [read_eq_readLines_cut, length_cut_singleton, Nat.add_comm 1, readLines_add]
  rw [read_eq_readLines_cut, cut_append_cons, readLines_append, hsecond, ← read_eq_readLines_cut]
  cases read first with
  | error e => rfl
  | ok before => cases read second <;> rfl

example : read "run\r\n# a comment\n\n@bogus\nquit".toList =
    .error ⟨4, .unknownDirective "bogus".toList⟩ := by
  decide +kernel

end DebugControl.Script
