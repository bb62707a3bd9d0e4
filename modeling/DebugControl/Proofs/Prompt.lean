import DebugControl.Prompt
import Mathlib.Data.List.DropRight

/-!
# Prompts in the tail of a reply

Looking for a prompt means looking for one line among the last ones that shows it.
-/

namespace DebugControl

theorem Text.contains_iff {part text : List Char} :
    Text.contains part text = true ↔ part <:+: text := by
  induction text with
  | nil => simp [contains]
  | cons c text ih =>
    rw [contains, Bool.or_eq_true, List.isPrefixOf_iff_prefix, ih, List.infix_cons_iff]

namespace Prompt

variable {p : Prompt} {simple : Bool} {line : Line} {lines : List Line} {tail : Nat}

/-- A line shows a prompt if the pattern matches it, or if the simple prompt will do and is a part
of it. -/
def Shows (p : Prompt) (simple : Bool) (line : Line) : Prop :=
  p.isMatch line = true ∨ simple = true ∧ Notice.simplePrompt.toList <:+: line

theorem shownBy_iff : p.shownBy simple line = true ↔ p.Shows simple line := by
  rw [shownBy, Bool.or_eq_true, Bool.and_eq_true, Text.contains_iff, Shows]

theorem matchesTail_iff :
    p.matchesTail lines tail simple = true ↔ ∃ line ∈ lines.rtake tail, p.Shows simple line := by
  simp only [matchesTail, findInTail, Option.isSome_map, List.findIdx?_isSome, List.any_eq_true,
    shownBy_iff]
  rfl

theorem matchesTail_eq_false :
    p.matchesTail lines tail simple = false ↔
      ∀ line ∈ lines.rtake tail, ¬ p.Shows simple line := by
  rw [← Bool.not_eq_true, matchesTail_iff]
  push Not
  rfl

end Prompt

end DebugControl
