import DebugControl.Pattern.Reader
import DebugControl.Proofs.Pattern.Reach

/-!
# Patterns that are read are ordered

Whatever a step reads, the bounds of each repetition are in order: those of a sign are, and a
counted repetition is refused if they are not.
-/

namespace DebugControl.Pattern

variable {d d' : Draft} {s rest : List Char}

namespace Piece

theorem seqAll_ordered {ps : List Piece} (h : ∀ p ∈ ps, p.expr.Ordered) : (seqAll ps).Ordered := by
  fun_induction seqAll ps with
  | case1 => trivial
  | case2 p => exact h p List.mem_cons_self
  | case3 p rest _ ih =>
    obtain ⟨hp, hrest⟩ := List.forall_mem_cons.1 h
    exact ⟨hp, ih hrest⟩

theorem altAll_ordered {ps : List Piece} (h : ∀ p ∈ ps, p.expr.Ordered) : (altAll ps).Ordered := by
  fun_induction altAll ps with
  | case1 => trivial
  | case2 p => exact h p List.mem_cons_self
  | case3 p rest _ ih =>
    obtain ⟨hp, hrest⟩ := List.forall_mem_cons.1 h
    exact ⟨hp, ih hrest⟩

theorem concat_ordered {ps : List Piece} (h : ∀ p ∈ ps, p.expr.Ordered) :
    (concat ps).expr.Ordered := by
  unfold concat
  split
  · trivial
  · next p => exact h p List.mem_cons_self
  · exact seqAll_ordered h

theorem choice_ordered {ps : List Piece} (h : ∀ p ∈ ps, p.expr.Ordered) :
    (choice ps).expr.Ordered := by
  unfold choice
  split
  · trivial
  · next p => exact h p List.mem_cons_self
  · exact altAll_ordered h

end Piece

structure Draft.Ordered (d : Draft) : Prop where
  pieces : ∀ p ∈ d.pieces, p.expr.Ordered
  branches : ∀ p ∈ d.branches, p.expr.Ordered
  outerPieces : ∀ o ∈ d.outer, ∀ p ∈ o.pieces, p.expr.Ordered
  outerBranches : ∀ o ∈ d.outer, ∀ p ∈ o.branches, p.expr.Ordered

namespace Draft.Ordered

theorem empty : Draft.empty.Ordered := ⟨nofun, nofun, nofun, nofun⟩

theorem push (h : d.Ordered) {p : Piece} (hp : p.expr.Ordered) : (d.push p).Ordered :=
  { h with pieces := List.forall_mem_cons.2 ⟨hp, h.pieces⟩ }

theorem branch (h : d.Ordered) : d.branch.expr.Ordered :=
  Piece.concat_ordered fun p hp => h.pieces p (List.mem_reverse.1 hp)

theorem body (h : d.Ordered) : d.body.expr.Ordered := by
  have hall : ∀ p ∈ d.branch :: d.branches, p.expr.Ordered :=
    List.forall_mem_cons.2 ⟨h.branch, h.branches⟩
  exact Piece.choice_ordered fun p hp => hall p (List.mem_reverse.1 hp)

theorem nextBranch (h : d.Ordered) : d.nextBranch.Ordered :=
  { h with pieces := nofun, branches := List.forall_mem_cons.2 ⟨h.branch, h.branches⟩ }

theorem openGroup (h : d.Ordered) (flags : Flags) (capturing : Bool) :
    (d.openGroup flags capturing).Ordered where
  pieces := nofun
  branches := nofun
  outerPieces := List.forall_mem_cons.2 ⟨h.pieces, h.outerPieces⟩
  outerBranches := List.forall_mem_cons.2 ⟨h.branches, h.outerBranches⟩

theorem closeGroup (h : d.Ordered) (hclose : d.closeGroup = some d') : d'.Ordered := by
  unfold Draft.closeGroup at hclose
  split at hclose
  · exact absurd hclose nofun
  · next o outer houter =>
    obtain ⟨hpieces, houterPieces⟩ := List.forall_mem_cons.1 (houter ▸ h.outerPieces)
    obtain ⟨hbranches, houterBranches⟩ := List.forall_mem_cons.1 (houter ▸ h.outerBranches)
    obtain rfl := Option.some.inj hclose
    exact ⟨List.forall_mem_cons.2 ⟨h.body, hpieces⟩, hbranches, houterPieces, houterBranches⟩

theorem repeatLast (h : d.Ordered) {least : Nat} {most : Option Nat} {short : Bool}
    (hmost : ∀ m, most = some m → least ≤ m) (hrepeat : d.repeatLast least most short = some d') :
    d'.Ordered := by
  unfold Draft.repeatLast at hrepeat
  split at hrepeat
  · exact absurd hrepeat nofun
  · next p rest hpieces =>
    obtain ⟨hp, hrest⟩ := List.forall_mem_cons.1 (hpieces ▸ h.pieces)
    split_ifs at hrepeat
    obtain rfl := Option.some.inj hrepeat
    exact { h with pieces := List.forall_mem_cons.2 ⟨⟨hp, hmost⟩, hrest⟩ }

end Draft.Ordered

/-! ## Steps -/

theorem openNamed_ordered (h : d.Ordered) (hread : openNamed d s = some (d', rest)) :
    d'.Ordered := by
  obtain ⟨⟨name, t⟩, -, hread⟩ := Option.bind_eq_some_iff.1 hread
  dsimp only at hread
  split_ifs at hread
  obtain ⟨rfl, -⟩ := Prod.mk.inj (Option.some.inj hread)
  exact { h.openGroup d.flags true with }

theorem readGroup_ordered (h : d.Ordered) (hread : readGroup d s = some (d', rest)) :
    d'.Ordered := by
  unfold readGroup at hread
  split at hread
  case h_5 => exact openNamed_ordered h hread
  case h_6 => exact openNamed_ordered h hread
  case h_7 =>
    obtain ⟨listed, -, hread⟩ := Option.bind_eq_some_iff.1 hread
    split_ifs at hread
    · obtain ⟨rfl, -⟩ := Prod.mk.inj (Option.some.inj hread)
      exact h.openGroup listed.flags false
    · obtain ⟨rfl, -⟩ := Prod.mk.inj (Option.some.inj hread)
      exact { h.push (p := .flagList) trivial with }
  case h_8 =>
    obtain ⟨rfl, -⟩ := Prod.mk.inj (Option.some.inj hread)
    exact h.openGroup d.flags true
  all_goals exact absurd hread nofun

theorem piece?_ordered {f : Flags} {p : Primitive} {piece : Piece} (h : p.piece? f = some piece) :
    piece.expr.Ordered := by
  unfold Primitive.piece? at h
  split at h
  · obtain ⟨c, -, h⟩ := Option.bind_eq_some_iff.1 h
    dsimp only at h
    split_ifs at h
    · obtain rfl := Option.some.inj h
      trivial
    · obtain rfl := Option.some.inj h
      trivial
  · obtain rfl := Option.some.inj h
    trivial
  · obtain ⟨set, -, rfl⟩ := Option.map_eq_some_iff.1 h
    trivial
  · obtain ⟨set, -, rfl⟩ := Option.map_eq_some_iff.1 h
    trivial

theorem pushPrimitive_ordered (h : d.Ordered) {read : Option (Primitive × List Char)}
    (hread : pushPrimitive d read = some (d', rest)) : d'.Ordered := by
  obtain ⟨⟨p, t⟩, -, hread⟩ := Option.bind_eq_some_iff.1 hread
  obtain ⟨piece, hpiece, hread⟩ := Option.bind_eq_some_iff.1 hread
  obtain ⟨rfl, -⟩ := Prod.mk.inj (Option.some.inj hread)
  exact h.push (piece?_ordered hpiece)

theorem repeatSign_ordered (h : d.Ordered) (least : Nat) (most : Option Nat)
    (hmost : ∀ m, most = some m → least ≤ m)
    (hread : repeatSign d least most s = some (d', rest)) : d'.Ordered := by
  obtain ⟨e, hrepeat, heq⟩ := Option.map_eq_some_iff.1 hread
  obtain ⟨rfl, -⟩ := Prod.mk.inj heq
  exact h.repeatLast hmost hrepeat

/-- A counted repetition is refused if its second number is less than its first. -/
theorem readCounts_ordered {f : Flags} {least m : Nat} {short : Bool}
    (h : readCounts f s = some ((least, some m), short, rest)) : least ≤ m := by
  obtain ⟨⟨first, t⟩, -, h⟩ := Option.bind_eq_some_iff.1 h
  dsimp only at h
  split at h
  · split at h
    · obtain ⟨p, -, heq⟩ := Option.bind_eq_some_iff.1 h
      exact absurd (Prod.mk.inj (Prod.mk.inj (Option.some.inj heq)).1).2 nofun
    · obtain ⟨⟨second, t⟩, -, h⟩ := Option.bind_eq_some_iff.1 h
      obtain ⟨p, -, h⟩ := Option.bind_eq_some_iff.1 h
      split_ifs at h with hle
      obtain ⟨rfl, hm⟩ := Prod.mk.inj (Prod.mk.inj (Option.some.inj h)).1
      rwa [← Option.some.inj hm]
  · obtain ⟨p, -, heq⟩ := Option.bind_eq_some_iff.1 h
    obtain ⟨rfl, hm⟩ := Prod.mk.inj (Prod.mk.inj (Option.some.inj heq)).1
    exact (Option.some.inj hm).le

theorem step_ordered (h : d.Ordered) {c : Char} (hstep : d.step c s = some (d', rest)) :
    d'.Ordered := by
  cases c using Draft.step.fun_cases with
  | case1 => exact readGroup_ordered h hstep
  | case2 =>
    obtain ⟨e, hclose, heq⟩ := Option.map_eq_some_iff.1 hstep
    obtain ⟨rfl, -⟩ := Prod.mk.inj heq
    exact h.closeGroup hclose
  | case3 =>
    obtain ⟨rfl, -⟩ := Prod.mk.inj (Option.some.inj hstep)
    exact h.nextBranch
  | case4 =>
    obtain ⟨x, -, heq⟩ := Option.map_eq_some_iff.1 hstep
    obtain ⟨rfl, -⟩ := Prod.mk.inj heq
    exact h.push trivial
  | case5 => exact repeatSign_ordered h 0 (some 1) (fun m hm => by simp [← Option.some.inj hm]) hstep
  | case6 => exact repeatSign_ordered h 0 none nofun hstep
  | case7 => exact repeatSign_ordered h 1 none nofun hstep
  | case8 =>
    obtain ⟨⟨⟨least, most⟩, short, t⟩, hcounts, hstep⟩ := Option.bind_eq_some_iff.1 hstep
    obtain ⟨e, hrepeat, heq⟩ := Option.bind_eq_some_iff.1 hstep
    obtain ⟨rfl, -⟩ := Prod.mk.inj (Option.some.inj heq)
    refine h.repeatLast (fun m hm => ?_) hrepeat
    subst hm
    exact readCounts_ordered hcounts
  | case9 | case10 | case11 | case12 => exact pushPrimitive_ordered h hstep
  | case13 c =>
    have hread : d.step c s = pushPrimitive d (some (.literal c false, s)) := by
      rw [Draft.step] <;> assumption
    exact pushPrimitive_ordered h (hread.symm.trans hstep)

theorem readFrom_ordered {fuel : Nat} (h : d.Ordered) (hread : readFrom fuel d s = some d') :
    d'.Ordered := by
  induction fuel generalizing d s with
  | zero => exact absurd hread nofun
  | succ fuel ih =>
    rw [readFrom] at hread
    split at hread
    · obtain rfl := Option.some.inj hread
      exact h
    · obtain ⟨⟨e, t⟩, hstep, hread⟩ := Option.bind_eq_some_iff.1 hread
      exact ih (step_ordered h hstep) hread

theorem readPieces_ordered {pattern : List Char} {p : Piece} (h : readPieces pattern = some p) :
    p.expr.Ordered := by
  obtain ⟨d, hread, h⟩ := Option.bind_eq_some_iff.1 h
  split_ifs at h
  obtain rfl := Option.some.inj h
  exact (readFrom_ordered .empty hread).body

end DebugControl.Pattern
