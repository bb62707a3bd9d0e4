import DebugControl.Proofs.Utf8.Run
import Mathlib.Data.List.Induction

/-!
# Decoding in pieces

Bytes may be decoded piece by piece: what is left of one piece goes in front of the next, and it
makes no difference where the pieces were cut. What is left is the unfinished character at the end
of the input, the only one there is, and what has been decoded is the lossy decoding of everything
before it.
-/

namespace DebugControl.Utf8

/-! ## Streaming -/

open Decoder

theorem decode_eq_text (bytes : List UInt8) :
    decode bytes = (decodeStream bytes).1 ++
      if (empty.run bytes).held = none then [] else [replacement] := by
  simp only [decode, decodeStream]
  cases (empty.run bytes).held <;> simp

theorem run_empty_append (a b : List UInt8) :
    empty.run (a ++ b) =
      ⟨(empty.run ((decodeStream a).2 ++ b)).decoded ++ (empty.run a).decoded,
        (empty.run ((decodeStream a).2 ++ b)).held⟩ := by
  rw [run_append, (sound_empty.run a).run_eq, run_decoded]
  rfl

theorem decodeStream_append (a b : List UInt8) :
    decodeStream (a ++ b) =
      ((decodeStream a).1 ++ (decodeStream ((decodeStream a).2 ++ b)).1,
        (decodeStream ((decodeStream a).2 ++ b)).2) := by
  have hr := run_empty_append a b
  simp only [decodeStream] at hr ⊢
  rw [hr]
  simp only [text, tail, List.reverse_append]

theorem decode_append (a b : List UInt8) :
    decode (a ++ b) = (decodeStream a).1 ++ decode ((decodeStream a).2 ++ b) := by
  rw [decode_eq_text, decode_eq_text, decodeStream_append, run_empty_append]
  exact List.append_assoc _ _ _

theorem encode_cons (c : Char) (text : List Char) :
    encode (c :: text) = encodeChar c ++ encode text := rfl

theorem encode_append (a b : List Char) : encode (a ++ b) = encode a ++ encode b :=
  List.flatMap_append

theorem decodeStream_encode (t : List Char) : decodeStream (encode t) = (t, []) := by
  simp [decodeStream, empty, run_encode, text, tail]

theorem decodeStream_encode_append (t : List Char) (bytes : List UInt8) :
    decodeStream (encode t ++ bytes) = (t ++ (decodeStream bytes).1, (decodeStream bytes).2) := by
  rw [decodeStream_append, decodeStream_encode, List.nil_append]

theorem decode_encode_append (t : List Char) (bytes : List UInt8) :
    decode (encode t ++ bytes) = t ++ decode bytes := by
  rw [decode_append, decodeStream_encode, List.nil_append]

@[simp] theorem decode_nil : decode [] = [] := rfl

@[simp] theorem decodeStream_nil : decodeStream [] = ([], []) := rfl

theorem encode_ne_nil {text : List Char} (h : text ≠ []) : encode text ≠ [] := by
  intro he
  have hdecoded := decodeStream_encode text
  rw [he, decodeStream_nil] at hdecoded
  exact h (Prod.mk.inj hdecoded).1.symm

theorem decode_ne_nil {bytes : List UInt8} (h : bytes ≠ []) : decode bytes ≠ [] := by
  obtain ⟨init, last, rfl⟩ := (List.eq_nil_or_concat' bytes).resolve_left h
  have hp := feed_progress (empty.run init) last
  rw [← run_singleton, ← run_append] at hp
  rw [decode_eq_text, decodeStream, text]
  obtain hd | hh := hp
  · simp [hd]
  · simp [hh]

/-! ## The unfinished end -/

/-- `tail` is the unfinished character at the end of `bytes`, and empty if there is none. -/
structure UnfinishedEnd (bytes tail : List UInt8) : Prop where
  suffix : tail <:+ bytes
  unfinished : tail ≠ [] → Unfinished tail
  only : ∀ t, t <:+ bytes → Unfinished t → t = tail

theorem exists_decoded_of_feedLead {init : List UInt8} {last : UInt8} {done : List Char}
    (hr : empty.run (init ++ [last]) = feedLead done last) (hdone : done.reverse = decode init)
    (hheld : (empty.run (init ++ [last])).held ≠ none) :
    ∃ whole, init ++ [last] = whole ++ (decodeStream (init ++ [last])).2 ∧
      (decodeStream (init ++ [last])).1 = decode whole := by
  cases hl : lead last with
  | character c => simp [hr, feedLead, hl] at hheld
  | invalid => simp [hr, feedLead, hl] at hheld
  | opens h =>
    refine ⟨init, ?_, ?_⟩
    · simp [decodeStream, hr, feedLead, hl, tail, (begins_of_lead hl).1]
    · simpa [decodeStream, hr, feedLead, hl, text] using hdone

/-- The bytes held are an end of the input, and all that stands before them is decoded. -/
theorem exists_decoded (bytes : List UInt8) :
    ∃ whole, bytes = whole ++ (decodeStream bytes).2 ∧ (decodeStream bytes).1 = decode whole := by
  induction bytes using List.reverseRecOn with
  | nil => exact ⟨[], rfl, rfl⟩
  | append_singleton init last ih =>
    by_cases hn : (empty.run (init ++ [last])).held = none
    · refine ⟨init ++ [last], ?_, ?_⟩
      · simp [decodeStream, tail, hn]
      · simp [decode_eq_text, hn]
    -- something is held: either `last` opened it, or it was held before and `last` was added
    have hr : empty.run (init ++ [last]) = (empty.run init).feed last := by
      rw [run_append, run_singleton]
    obtain ⟨whole, hw, ht⟩ := ih
    simp only [decodeStream] at hw ht
    have hdec := decode_eq_text init
    simp only [decodeStream] at hdec
    generalize empty.run init = d at hr hw ht hdec
    obtain ⟨D, held⟩ := d
    cases held with
    | none => exact exists_decoded_of_feedLead hr (by simpa [text] using hdec.symm) hn
    | some h =>
      by_cases ha : h.accepts last
      · rw [feed_accepted ha] at hr
        split_ifs at hr with hm
        · simp [hr] at hn
        · refine ⟨whole, ?_, ?_⟩
          · have hw' : init = whole ++ h.bytes := hw
            have htail : (decodeStream (init ++ [last])).2 = h.bytes ++ [last] := by
              simp only [decodeStream, hr]
              rfl
            rw [htail, ← List.append_assoc, ← hw']
          · simpa [decodeStream, hr, text] using ht
      · simp only [feed, if_neg ha] at hr
        exact exists_decoded_of_feedLead hr (by simpa [text] using hdec.symm) hn

theorem tail_of_unfinished {bytes : List UInt8} (hu : Unfinished bytes) (before : List UInt8) :
    (decodeStream (before ++ bytes)).2 = bytes := by
  obtain ⟨h, n, hn, rfl⟩ := exists_begins hu
  have hs := sound_empty.run before
  simp only [decodeStream, run_append]
  generalize empty.run before = d at hs
  obtain ⟨D, held⟩ := d
  cases held with
  | none => rw [run_begins hn, tail]
  | some h' =>
    obtain ⟨n', hn'⟩ := hs h' rfl
    obtain ⟨b, rest, hb, hf⟩ : ∃ b rest, h.bytes = b :: rest ∧ 0xBF < b.toNat := hn.head
    have ha : ¬ h'.accepts b := by
      have := hn'.bounds
      simp [Held.accepts]
      omega
    have hr : (⟨D, some h'⟩ : Decoder).run h.bytes = ⟨replacement :: D, some h⟩ := by
      rw [← run_begins hn, hb, run_cons, run_cons]
      simp only [feed, if_neg ha]
    rw [hr, tail]

theorem decodeStream_of_unfinished {bytes : List UInt8} (hu : Unfinished bytes) :
    decodeStream bytes = ([], bytes) := by
  have htail := tail_of_unfinished hu []
  rw [List.nil_append] at htail
  obtain ⟨whole, hwhole, htext⟩ := exists_decoded bytes
  rw [htail, List.self_eq_append_left] at hwhole
  rw [hwhole, decode_nil] at htext
  exact Prod.ext htext htail

theorem unfinishedEnd_decodeStream (bytes : List UInt8) :
    UnfinishedEnd bytes (decodeStream bytes).2 := by
  obtain ⟨whole, hw, -⟩ := exists_decoded bytes
  refine ⟨⟨whole, hw.symm⟩, ?_, ?_⟩
  · intro hne
    have hs := sound_empty.run bytes
    simp only [decodeStream, tail] at hne ⊢
    cases hh : (empty.run bytes).held with
    | none => simp [hh] at hne
    | some h =>
      obtain ⟨n, hn⟩ := hs h hh
      exact hn.unfinished
  · rintro t ⟨before, rfl⟩ ht
    exact (tail_of_unfinished ht before).symm

end DebugControl.Utf8
