import DebugControl.Pattern.Expr
import Mathlib.Data.Nat.Bitwise

/-!
# Reaching is spanning

The positions that `reach` computes are those to which an expression leads. Each part of an
expression maps a set of positions to its image, and a repetition without a bound has reached
everything after as many rounds as there are positions: no part leads backward, and rounds that lead
nowhere can be left out.
-/

namespace DebugControl.Pattern

variable {r : Nat → Nat → Prop} {f : Nat → Nat} {s t n i j bound : Nat}

/-- The bits of `t` are the positions to which a relation leads from the bits of `s`. -/
def IsImage (r : Nat → Nat → Prop) (s t : Nat) : Prop :=
  ∀ j, t.testBit j = true ↔ ∃ i, s.testBit i = true ∧ r i j

theorem isImage_self (s : Nat) : IsImage (fun i j => i = j) s s := by
  intro j
  constructor
  · intro h
    exact ⟨j, h, rfl⟩
  · rintro ⟨i, h, rfl⟩
    exact h

theorem IsImage.comp {r' : Nat → Nat → Prop} {u : Nat} (h : IsImage r s t) (h' : IsImage r' t u) :
    IsImage (fun i j => ∃ k, r i k ∧ r' k j) s u := by
  intro j
  rw [h' j]
  constructor
  · rintro ⟨k, hk, hkj⟩
    obtain ⟨i, hi, hik⟩ := (h k).1 hk
    exact ⟨i, hi, k, hik, hkj⟩
  · rintro ⟨i, hi, k, hik, hkj⟩
    exact ⟨k, (h k).2 ⟨i, hi, hik⟩, hkj⟩

theorem IsImage.union {r' : Nat → Nat → Prop} {u : Nat} (h : IsImage r s t) (h' : IsImage r' s u) :
    IsImage (fun i j => r i j ∨ r' i j) s (t ||| u) := by
  intro j
  rw [Nat.testBit_or, Bool.or_eq_true, h j, h' j, ← exists_or]
  simp only [and_or_left]

theorem IsImage.congr {r' : Nat → Nat → Prop} (h : IsImage r s t) (hr : ∀ i j, r i j ↔ r' i j) :
    IsImage r' s t := by
  intro j
  rw [h j]
  simp only [hr]

/-! ## Rounds -/

theorem iterated_add (m n : Nat) :
    Iterated r (m + n) i j ↔ ∃ k, Iterated r m i k ∧ Iterated r n k j := by
  induction m generalizing i with
  | zero =>
    rw [Nat.zero_add]
    constructor
    · intro h
      exact ⟨i, rfl, h⟩
    · rintro ⟨k, rfl, h⟩
      exact h
  | succ m ih =>
    rw [Nat.succ_add]
    constructor
    · rintro ⟨k, hik, hkj⟩
      obtain ⟨l, hkl, hlj⟩ := ih.1 hkj
      exact ⟨l, ⟨k, hik, hkl⟩, hlj⟩
    · rintro ⟨l, ⟨k, hik, hkl⟩, hlj⟩
      exact ⟨k, hik, ih.2 ⟨l, hkl, hlj⟩⟩

theorem le_of_iterated (hr : ∀ i j, r i j → i ≤ j) (h : Iterated r n i j) : i ≤ j := by
  induction n generalizing i with
  | zero => exact h.le
  | succ n ih =>
    obtain ⟨k, hik, hkj⟩ := h
    exact (hr i k hik).trans (ih hkj)

/-- Rounds that lead nowhere can be left out, and each of the others passes a position. -/
theorem exists_iterated_le (hr : ∀ i j, r i j → i ≤ j) (h : Iterated r n i j) :
    ∃ m, m ≤ j - i ∧ Iterated r m i j := by
  induction n generalizing i with
  | zero => exact ⟨0, Nat.zero_le _, h⟩
  | succ n ih =>
    obtain ⟨k, hik, hkj⟩ := h
    obtain ⟨m, hm, hiter⟩ := ih hkj
    have hle : k ≤ j := le_of_iterated hr hkj
    rcases (hr i k hik).eq_or_lt with rfl | hlt
    · exact ⟨m, hm, hiter⟩
    · exact ⟨m + 1, by omega, k, hik, hiter⟩

theorem iterate_of_fixed (h : f s = s) (n : Nat) : iterate f n s = s := by
  cases n with
  | zero => rfl
  | succ n =>
    rw [iterate]
    exact if_pos h

theorem iterate_succ (f : Nat → Nat) (n s : Nat) : iterate f (n + 1) s = iterate f n (f s) := by
  rw [iterate]
  split_ifs with h
  · rw [h, iterate_of_fixed h]
  · rfl

theorem close_of_fixed (h : s ||| f s = s) (n : Nat) : close f n s = s := by
  cases n with
  | zero => rfl
  | succ n =>
    rw [close]
    exact if_pos h

theorem close_succ (f : Nat → Nat) (n s : Nat) : close f (n + 1) s = close f n (s ||| f s) := by
  rw [close]
  split_ifs with h
  · rw [h, close_of_fixed h]
  · rfl

theorem isImage_iterate (hf : ∀ s, IsImage r s (f s)) (n s : Nat) :
    IsImage (Iterated r n) s (iterate f n s) := by
  induction n generalizing s with
  | zero => exact isImage_self s
  | succ n ih =>
    rw [iterate_succ]
    exact (hf s).comp (ih (f s))

theorem isImage_close (hf : ∀ s, IsImage r s (f s)) (n s : Nat) :
    IsImage (fun i j => ∃ m, m ≤ n ∧ Iterated r m i j) s (close f n s) := by
  induction n generalizing s with
  | zero =>
    refine (isImage_self s).congr fun i j => ⟨fun h => ⟨0, le_rfl, h⟩, ?_⟩
    rintro ⟨m, hm, hij⟩
    obtain rfl := Nat.le_zero.1 hm
    exact hij
  | succ n ih =>
    rw [close_succ]
    refine (((isImage_self s).union (hf s)).comp (ih _)).congr fun i j => ?_
    constructor
    · rintro ⟨k, rfl | hik, m, hm, hkj⟩
      · exact ⟨m, hm.trans (Nat.le_succ n), hkj⟩
      · exact ⟨m + 1, Nat.succ_le_succ hm, k, hik, hkj⟩
    · rintro ⟨m, hm, hij⟩
      cases m with
      | zero => exact ⟨i, .inl rfl, 0, Nat.zero_le n, hij⟩
      | succ m =>
        obtain ⟨k, hik, hkj⟩ := hij
        exact ⟨k, .inr hik, m, Nat.le_of_succ_le_succ hm, hkj⟩

/-! ## Expressions -/

namespace Expr

variable {S L : Type} {step : S → Nat → Prop} {look : L → Nat → Prop} {e : Expr S L}

/-- No repetition asks for more times than it allows. -/
def Ordered : Expr S L → Prop
  | empty | .step _ | .look _ => True
  | seq a b | alt a b => a.Ordered ∧ b.Ordered
  | repetition body least most => body.Ordered ∧ ∀ m, most = some m → least ≤ m

theorem le_of_spans (h : e.Spans step look i j) : i ≤ j := by
  induction e generalizing i j with
  | empty => exact le_of_eq h
  | step s =>
    obtain ⟨-, rfl⟩ := h
    exact Nat.le_succ i
  | look l => exact h.2.le
  | seq a b iha ihb =>
    obtain ⟨k, ha, hb⟩ := h
    exact (iha ha).trans (ihb hb)
  | alt a b iha ihb => exact h.elim iha ihb
  | repetition body least most ih =>
    obtain ⟨n, -, -, hn⟩ := h
    exact le_of_iterated (fun i j => ih) hn

theorem eq_or_le_of_spans (hstep : ∀ s i, step s i → i < bound) (h : e.Spans step look i j) :
    i = j ∨ j ≤ bound := by
  induction e generalizing i j with
  | empty => exact .inl h
  | step s =>
    obtain ⟨hs, rfl⟩ := h
    exact .inr (hstep s i hs)
  | look l => exact .inl h.2
  | seq a b iha ihb =>
    obtain ⟨k, ha, hb⟩ := h
    rcases ihb hb with rfl | hj
    · exact iha ha
    · exact .inr hj
  | alt a b iha ihb => exact h.elim iha ihb
  | repetition body least most ih =>
    obtain ⟨n, -, -, hn⟩ := h
    clear least most
    induction n generalizing i with
    | zero => exact .inl hn
    | succ n ihn =>
      obtain ⟨k, hik, hkj⟩ := hn
      rcases ihn hkj with rfl | hj
      · exact ih hik
      · exact .inr hj

theorem spans_repetition_iff {least : Nat} {most : Option Nat} {more : Nat}
    (hmore : ∀ k, (∃ n, (∀ m, most = some m → least + n ≤ m) ∧ Iterated (e.Spans step look) n k j) ↔
      ∃ n, n ≤ more ∧ Iterated (e.Spans step look) n k j) :
    (repetition e least most).Spans step look i j ↔
      ∃ k, Iterated (e.Spans step look) least i k ∧
        ∃ n, n ≤ more ∧ Iterated (e.Spans step look) n k j := by
  constructor
  · rintro ⟨n, hleast, hmost, hij⟩
    obtain ⟨d, rfl⟩ := Nat.exists_eq_add_of_le hleast
    obtain ⟨k, hik, hkj⟩ := (iterated_add least d).1 hij
    exact ⟨k, hik, (hmore k).1 ⟨d, hmost, hkj⟩⟩
  · rintro ⟨k, hik, hkj⟩
    obtain ⟨d, hmost, hkj⟩ := (hmore k).2 hkj
    exact ⟨least + d, Nat.le_add_right least d, hmost, (iterated_add least d).2 ⟨k, hik, hkj⟩⟩

/-- As many rounds as there are positions lead wherever any number of rounds leads. -/
theorem exists_iterated_le_bound (hstep : ∀ s i, step s i → i < bound)
    (h : Iterated (e.Spans step look) n i j) :
    ∃ m, m ≤ bound ∧ Iterated (e.Spans step look) m i j := by
  have hspans : (repetition e 0 none).Spans step look i j := ⟨n, Nat.zero_le _, nofun, h⟩
  obtain ⟨m, hm, hiter⟩ := exists_iterated_le (fun i j => le_of_spans) h
  refine ⟨m, ?_, hiter⟩
  rcases eq_or_le_of_spans hstep hspans with rfl | hj <;> omega

/-- The induction is on the expression, with one image for each of its parts. -/
theorem isImage_reach (bound : Nat) (step : S → Nat) (look : L → Nat) (he : e.Ordered)
    (hstep : ∀ s i, (step s).testBit i = true → i < bound) (s : Nat) :
    IsImage (e.Spans (fun s i => (step s).testBit i = true) (fun l i => (look l).testBit i = true))
      s ((e.map step look).reach bound s) := by
  induction e generalizing s with
  | empty => exact isImage_self s
  | step at_ =>
    intro j
    simp only [map, reach, Spans, Nat.testBit_shiftLeft, Nat.testBit_and, Bool.and_eq_true,
      decide_eq_true_eq]
    constructor
    · rintro ⟨hj, hs, hat⟩
      exact ⟨j - 1, hs, hat, by omega⟩
    · rintro ⟨i, hs, hat, rfl⟩
      exact ⟨Nat.le_add_left 1 i, hs, hat⟩
  | look at_ =>
    intro j
    simp only [map, reach, Spans, Nat.testBit_and, Bool.and_eq_true]
    constructor
    · rintro ⟨hs, hat⟩
      exact ⟨j, hs, hat, rfl⟩
    · rintro ⟨i, hs, hat, rfl⟩
      exact ⟨hs, hat⟩
  | seq a b iha ihb => exact (iha he.1 s).comp (ihb he.2 _)
  | alt a b iha ihb => exact (iha he.1 s).union (ihb he.2 s)
  | repetition body least most ih =>
    have hbody := ih he.1
    have hrounds := fun more => (isImage_iterate hbody least s).comp (isImage_close hbody more _)
    cases most with
    | none =>
      refine (hrounds bound).congr fun i j => (spans_repetition_iff fun k => ?_).symm
      constructor
      · rintro ⟨n, -, hkj⟩
        exact exists_iterated_le_bound hstep hkj
      · rintro ⟨n, -, hkj⟩
        exact ⟨n, nofun, hkj⟩
    | some m =>
      have hle : least ≤ m := he.2 m rfl
      refine (hrounds (m - least)).congr fun i j => (spans_repetition_iff fun k => ?_).symm
      constructor
      · rintro ⟨n, hn, hkj⟩
        have := hn m rfl
        exact ⟨n, by omega, hkj⟩
      · rintro ⟨n, hn, hkj⟩
        refine ⟨n, ?_, hkj⟩
        intro m' hm'
        obtain rfl := Option.some.inj hm'
        omega

end Expr

end DebugControl.Pattern
