import DebugControl.Proofs.Sink.Arrivals
import DebugControl.Proofs.Sink.Chunks

/-!
# Sinks that cut at line feeds

The separator of a session is a line feed. It has no beginning but itself, so that no part of it is
ever held back: what a look leaves behind is at most an unfinished character, and the lines of the
sink are those of all the text that was seen since the last reset.
-/

namespace DebugControl

namespace Text

variable (c : Char)

theorem held_singleton (text : List Char) : held [c] text = [] := by
  have h := isHeld_held (List.cons_ne_nil c []) text
  have hlt : (held [c] text).length < 1 :=
    lt_of_le_of_ne h.beginning.length_le fun he => h.proper (h.beginning.eq_of_length he)
  exact List.length_eq_zero_iff.1 (Nat.lt_one_iff.1 hlt)

theorem clear_singleton (a b : List Char) : Clear [c] a b := by
  intro x y hxy hx hy
  have hlen := congrArg List.length hxy
  have hx0 := List.length_pos_iff.2 hx
  have hy0 := List.length_pos_iff.2 hy
  rw [List.length_append, List.length_singleton] at hlen
  omega

end Text

namespace Sink

open Text

theorem join_linesOf {sep : List Char} (hsep : sep ≠ []) (text : List Char) :
    join sep (linesOf sep text) = text := by
  unfold linesOf
  split_ifs with h
  · rw [h, join_nil]
  · exact join_cut hsep text

/-- Whatever a look does to the bytes that wait, it does no more to the lines than add some text. -/
theorem exists_absorb_eq_addText (s : Sink) :
    ∃ s' text, s.absorb = addText s' text ∧ s'.separator = s.separator ∧ s'.lines = s.lines := by
  cases hf : s.finished with
  | true => exact ⟨_, _, absorb_of_finished hf, rfl, rfl⟩
  | false =>
    by_cases hr : s.raw = []
    · exact ⟨s, [], absorb_of_raw_nil hf hr, rfl, rfl⟩
    · exact ⟨_, _, absorb_of_open hf hr, rfl, rfl⟩

theorem join_lines_prefix_absorb {s : Sink} {sep : List Char} (hs : s.separator = sep)
    (hsep : sep ≠ []) : join sep s.lines <+: join sep s.absorb.lines := by
  obtain ⟨s', text, ha, hs', hl⟩ := s.exists_absorb_eq_addText
  rw [ha, join_addText sep (hs'.trans hs) hsep, hl]
  exact List.prefix_append _ _

structure Lined (s : Sink) : Prop where
  separator : s.separator = ['\n']
  carry : s.carry ≠ [] → Utf8.Unfinished s.carry
  lines : ∃ text, s.lines = linesOf ['\n'] text

namespace Lined

variable {s : Sink} (h : s.Lined)

include h

theorem separator_ne_nil : s.separator ≠ [] := by
  rw [h.separator]
  exact List.cons_ne_nil _ _

theorem lines_eq : s.lines = linesOf ['\n'] (join ['\n'] s.lines) := by
  obtain ⟨text, ht⟩ := h.lines
  rw [ht, join_linesOf (List.cons_ne_nil _ _)]

theorem receiveAll (arrivals : List Arrival) : (s.receiveAll arrivals).Lined where
  separator := (receiveAll_separator s arrivals).trans h.separator
  carry := by
    rw [receiveAll_carry]
    exact h.carry
  lines := by
    rw [receiveAll_lines]
    exact h.lines

theorem reset : s.reset.2.Lined where
  separator := h.separator
  carry := h.carry
  lines := ⟨[], rfl⟩

theorem absorb : s.absorb.Lined where
  separator := (absorb_separator s).trans h.separator
  carry := by
    cases hf : s.finished with
    | true => exact fun hne => absurd (absorb_carry_of_finished hf) hne
    | false =>
      by_cases hr : s.raw = []
      · rw [absorb_of_raw_nil hf hr]
        exact h.carry
      · rw [absorb_of_open hf hr, addText_carry, h.separator, held_singleton]
        exact (Utf8.unfinishedEnd_decodeStream _).unfinished
  lines := by
    obtain ⟨seen, hseen⟩ := h.lines
    obtain ⟨s', text, ha, hs', hl⟩ := s.exists_absorb_eq_addText
    refine ⟨seen ++ text, ?_⟩
    rw [ha]
    exact addText_lines (hs'.trans h.separator) (List.cons_ne_nil _ _) (hl.trans hseen)
      (clear_singleton '\n' seen text)

theorem join_snapshot_eq :
    join ['\n'] s.snapshot.1 = join ['\n'] s.lines ++
      if s.finished then Utf8.decode (s.carry ++ s.raw)
      else (Utf8.decodeStream (s.carry ++ s.raw)).1 := by
  change join ['\n'] s.absorb.lines = _
  cases hf : s.finished with
  | true =>
    rw [if_pos rfl, absorb_of_finished hf]
    refine join_addText ['\n'] ?_ (List.cons_ne_nil _ _) _
    exact h.separator
  | false =>
    rw [if_neg Bool.false_ne_true]
    by_cases hr : s.raw = []
    · have hcarry : (Utf8.decodeStream s.carry).1 = [] := by
        by_cases hc : s.carry = []
        · rw [hc, Utf8.decodeStream_nil]
        · rw [Utf8.decodeStream_of_unfinished (h.carry hc)]
      rw [absorb_of_raw_nil hf hr, hr, List.append_nil, hcarry, List.append_nil]
    · have hreleased := released_append_held ['\n'] (Utf8.decodeStream (s.carry ++ s.raw)).1
      rw [held_singleton, List.append_nil] at hreleased
      rw [absorb_of_open hf hr, h.separator, hreleased]
      exact join_addText ['\n'] rfl (List.cons_ne_nil _ _) _

/-- A look shows all that the sink owes, up to what it carries. -/
theorem join_snapshot :
    join ['\n'] s.snapshot.1 ++ Utf8.decode s.absorb.carry = s.undelivered [] := by
  rw [← undelivered_absorb h.separator_ne_nil fun _ => rfl, undelivered, h.absorb.separator,
    absorb_raw, List.append_nil, List.append_nil]
  rfl

theorem snapshot_of_finished (hf : s.finished = true) :
    s.snapshot.1 = linesOf ['\n'] (s.undelivered []) := by
  have hlast := join_snapshot_of_finished h.separator_ne_nil hf
  rw [h.separator] at hlast
  rw [← hlast]
  exact h.absorb.lines_eq

end Lined

end Sink

end DebugControl
