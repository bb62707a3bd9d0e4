import DebugControl.Proofs.Text.Cut
import DebugControl.Proofs.Utf8.Stream
import DebugControl.Sink

/-!
# Absorbing

What a snapshot does to the fields of a sink. After it nothing waits in `raw`. While the sink is
open, what the decoded text ends with and a separator begins with goes back into `carry`, in front
of the unfinished character; once the sink is finished, `carry` is empty as well.
-/

namespace DebugControl.Sink

open Text

theorem continueLines_cons_cons (line next : Line) (lines : List Line) {pieces : List Line}
    (h : pieces ≠ []) :
    continueLines (line :: next :: lines) pieces =
      line :: continueLines (next :: lines) pieces := by
  obtain ⟨piece, rest, rfl⟩ := List.exists_cons_of_ne_nil h
  rfl

theorem continueLines_ne_nil (lines : List Line) {pieces : List Line} (h : pieces ≠ []) :
    continueLines lines pieces ≠ [] := by
  fun_cases continueLines lines pieces <;> simp_all

theorem join_continueLines (sep : List Char) (lines : List Line) {pieces : List Line}
    (h : pieces ≠ []) :
    join sep (continueLines lines pieces) = join sep lines ++ join sep pieces := by
  induction lines with
  | nil =>
    obtain ⟨piece, rest, rfl⟩ := List.exists_cons_of_ne_nil h
    rfl
  | cons line lines ih =>
    cases lines with
    | nil =>
      obtain ⟨piece, rest, rfl⟩ := List.exists_cons_of_ne_nil h
      cases rest <;> simp [continueLines, join]
    | cons next lines =>
      rw [continueLines_cons_cons _ _ _ h, join_cons _ _ (continueLines_ne_nil _ h), ih,
        join_cons _ _ (List.cons_ne_nil _ _)]
      simp only [List.append_assoc]

section Fields

variable (s : Sink) (text : List Char)

@[simp] theorem addText_separator : (s.addText text).separator = s.separator := by
  unfold addText
  split <;> rfl

@[simp] theorem addText_raw : (s.addText text).raw = s.raw := by
  unfold addText
  split <;> rfl

@[simp] theorem addText_carry : (s.addText text).carry = s.carry := by
  unfold addText
  split <;> rfl

@[simp] theorem addText_openStreams : (s.addText text).openStreams = s.openStreams := by
  unfold addText
  split <;> rfl

@[simp] theorem addText_finished : (s.addText text).finished = s.finished := by
  unfold addText
  split <;> rfl

end Fields

theorem join_addText {s : Sink} (sep : List Char) (hs : s.separator = sep) (hsep : sep ≠ [])
    (text : List Char) : join sep (s.addText text).lines = join sep s.lines ++ text := by
  unfold addText
  split_ifs with h
  · rw [h, List.append_nil]
  · rw [hs, join_continueLines _ _ (cut_ne_nil hsep text), join_cut hsep]

theorem hasPending_eq_false {s : Sink} :
    s.hasPending = false ↔ s.raw = [] ∧ (s.finished = true → s.carry = []) := by
  cases hf : s.finished <;> simp [hasPending, hf]

theorem hasPending_iff {s : Sink} :
    s.hasPending = true ↔ s.raw ≠ [] ∨ s.finished = true ∧ s.carry ≠ [] := by
  cases hf : s.finished <;> simp [hasPending, hf]

theorem absorb_of_finished {s : Sink} (hf : s.finished = true) :
    s.absorb = { s with raw := [], carry := [] }.addText (Utf8.decode (s.carry ++ s.raw)) := by
  by_cases hp : s.hasPending = true
  · rw [absorb, if_pos hp, if_pos hf]
  · obtain ⟨hr, hc⟩ := hasPending_eq_false.1 (Bool.eq_false_iff.2 hp)
    rw [absorb, if_neg hp, addText, hr, hc hf]
    obtain ⟨separator, raw, carry, lines, openStreams, finished⟩ := s
    simp_all

theorem absorb_of_open {s : Sink} (hf : s.finished = false) (hr : s.raw ≠ []) :
    s.absorb = { s with
      raw := []
      carry := Utf8.encode (held s.separator (Utf8.decodeStream (s.carry ++ s.raw)).1) ++
        (Utf8.decodeStream (s.carry ++ s.raw)).2 }.addText
      (released s.separator (Utf8.decodeStream (s.carry ++ s.raw)).1) := by
  have hp : s.hasPending = true := by simp [hasPending, hr]
  rw [absorb, if_pos hp, if_neg (by simp [hf])]
  rfl

theorem absorb_of_raw_nil {s : Sink} (hf : s.finished = false) (hr : s.raw = []) :
    s.absorb = s :=
  absorb_of_not_pending (hasPending_eq_false.2 ⟨hr, by simp [hf]⟩)

@[simp] theorem absorb_separator (s : Sink) : s.absorb.separator = s.separator := by
  unfold absorb
  split
  · split <;> simp
  · rfl

@[simp] theorem absorb_openStreams (s : Sink) : s.absorb.openStreams = s.openStreams := by
  unfold absorb
  split
  · split <;> simp
  · rfl

@[simp] theorem absorb_finished (s : Sink) : s.absorb.finished = s.finished := by
  unfold absorb
  split
  · split <;> simp
  · rfl

@[simp] theorem absorb_raw (s : Sink) : s.absorb.raw = [] := by
  cases hf : s.finished with
  | true => simp [absorb_of_finished hf]
  | false =>
    by_cases hr : s.raw = []
    · rw [absorb_of_raw_nil hf hr, hr]
    · simp [absorb_of_open hf hr]

theorem absorb_carry_of_finished {s : Sink} (hf : s.finished = true) : s.absorb.carry = [] := by
  simp [absorb_of_finished hf]

theorem hasPending_absorb (s : Sink) : s.absorb.hasPending = false := by
  refine hasPending_eq_false.2 ⟨absorb_raw s, ?_⟩
  intro hf
  exact absorb_carry_of_finished ((absorb_finished s).symm.trans hf)

end DebugControl.Sink
