import DebugControl.Proofs.Pattern.Inside
import DebugControl.Proofs.Pattern.Occurrence
import DebugControl.Proofs.Pattern.Ordered
import DebugControl.Prompt

/-!
# Prompts match whole lines

The pattern of a prompt is read inside a group between the marks of both ends of a line. That is the
pattern itself, so that it must match the whole line, unless a parenthesis of the pattern closes the
group. Then the pattern is no regular expression and is accepted nevertheless, and what stands
behind the parenthesis can match without the marks.
-/

namespace DebugControl.Pattern

variable {pattern : List Char} {e : Regex}

theorem compile_eq_ok_iff : compile pattern = .ok e ↔ ∃ p, readPieces pattern = some p ∧
    p.depth ≤ depthLimit ∧ p.form.isTooLarge = false ∧ p.expr = e := by
  unfold compile
  cases readPieces pattern with
  | none => simp
  | some p =>
    dsimp only
    split_ifs with hdepth hsize
    · simp [hdepth]
    · simp [hsize]
    · simp [hsize, Nat.le_of_not_lt hdepth]

theorem compile_of_readPieces {p : Piece} (h : readPieces pattern = some p)
    (hdepth : p.depth ≤ depthLimit) :
    (∃ e, compile pattern = .ok e) ∨ compile pattern = .error .tooLarge := by
  unfold compile
  rw [h]
  dsimp only
  rw [if_neg (Nat.not_lt.2 hdepth)]
  split_ifs
  · exact .inr rfl
  · exact .inl ⟨p.expr, rfl⟩

theorem readPieces_of_tooLarge (h : compile pattern = .error .tooLarge) :
    ∃ p, readPieces pattern = some p := by
  unfold compile at h
  cases hread : readPieces pattern with
  | none =>
    rw [hread] at h
    exact absurd h nofun
  | some p => exact ⟨p, rfl⟩

end DebugControl.Pattern

namespace DebugControl.Prompt

open Pattern

variable {pattern : String} {m : Prompt}

theorem anchored_eq (pattern : String) :
    anchored pattern = '^' :: '(' :: '?' :: ':' :: (pattern.toList ++ closing) := rfl

theorem new_eq_ok (h : Prompt.new pattern = .ok m) :
    ∃ a, readPieces (anchored pattern) = some a ∧ a.depth ≤ depthLimit ∧ m.regex = a.expr := by
  unfold Prompt.new at h
  split at h
  · next regex hcompile =>
    obtain ⟨a, hread, hdepth, -, rfl⟩ := compile_eq_ok_iff.1 hcompile
    obtain rfl := Except.ok.inj h
    exact ⟨a, hread, hdepth, rfl⟩
  · exact absurd h nofun

/-- A pattern that is accepted is a regular expression, if not a too large one, unless it closes a
group that it has not opened. If it is one, it must match the whole line. -/
theorem matchesWhole_unless_closesUnopened (h : Prompt.new pattern = .ok m) :
    ((∃ e, compile pattern.toList = .ok e) ∨ compile pattern.toList = .error .tooLarge ↔
        ¬ Draft.empty.ClosesUnopened pattern.toList) ∧
      ∀ e, compile pattern.toList = .ok e →
        ∀ line, m.isMatch line = true ↔ e.MatchesWhole line := by
  obtain ⟨a, hread, hdepth, hregex⟩ := new_eq_ok h
  rw [anchored_eq] at hread
  constructor
  · constructor
    · rintro (⟨e, hcompile⟩ | hcompile)
      · obtain ⟨p, hp, -⟩ := compile_eq_ok_iff.1 hcompile
        exact not_closesUnopened_of_readPieces hp
      · obtain ⟨p, hp⟩ := readPieces_of_tooLarge hcompile
        exact not_closesUnopened_of_readPieces hp
    · intro hcloses
      obtain ⟨p, hp, rfl⟩ := (readPieces_anchored hread).resolve_left hcloses
      rw [Piece.anchored_depth] at hdepth
      exact compile_of_readPieces hp (by omega)
  · intro e hcompile line
    obtain ⟨p, hp, -, -, rfl⟩ := compile_eq_ok_iff.1 hcompile
    obtain ⟨q, hq, rfl⟩ :=
      (readPieces_anchored hread).resolve_left (not_closesUnopened_of_readPieces hp)
    obtain rfl := Option.some.inj (hp.symm.trans hq)
    rw [isMatch, hregex, Piece.anchored_expr]
    exact Expr.occursIn_anchored_iff (readPieces_ordered hp)

theorem matchesWhole_unless_closesUnopened_comment :
    ∃ m e, Prompt.new "(?x)y|(n) # either\n" = .ok m ∧
      compile "(?x)y|(n) # either\n".toList = .ok e ∧
      ¬ Draft.empty.ClosesUnopened "(?x)y|(n) # either\n".toList ∧
      ∀ line, m.isMatch line = true ↔ e.MatchesWhole line := by
  obtain ⟨m, hnew⟩ : ∃ m, Prompt.new "(?x)y|(n) # either\n" = .ok m := ⟨_, rfl⟩
  obtain ⟨e, hcompile⟩ : ∃ e, compile "(?x)y|(n) # either\n".toList = .ok e := ⟨_, rfl⟩
  obtain ⟨hvalid, hmatches⟩ := matchesWhole_unless_closesUnopened hnew
  exact ⟨m, e, hnew, hcompile, hvalid.1 (.inl ⟨e, hcompile⟩), hmatches e hcompile⟩

/-- The group around the pattern ends behind `a`, so that nothing asks for the end of the line. -/
theorem unopened_group_accepted :
    ∃ m, Prompt.new "a)|(b" = .ok m ∧ (∀ e, compile "a)|(b".toList ≠ .ok e) ∧
      m.isMatch "ax".toList = true := by
  have hcompile : compile "a)|(b".toList = .error .malformed := rfl
  refine ⟨_, rfl, fun e h => ?_, rfl⟩
  rw [hcompile] at h
  exact absurd h nofun

end DebugControl.Prompt
