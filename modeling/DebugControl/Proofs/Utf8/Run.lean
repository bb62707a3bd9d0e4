import DebugControl.Proofs.Utf8.Held

/-!
# Runs of the decoder

Fed the bytes of a held sequence, a decoder that holds nothing comes to hold it; fed the encoding of
a character, it adds that character. A decoder that started empty only ever holds a beginning of an
encoding, so that its held bytes may as well be still to come.
-/

namespace DebugControl.Utf8

namespace Decoder

theorem run_singleton (d : Decoder) (b : UInt8) : d.run [b] = d.feed b := rfl

theorem feed_opens {b : UInt8} {h : Held} (hb : lead b = .opens h) (D : List Char) :
    (⟨D, none⟩ : Decoder).feed b = ⟨D, some h⟩ := by
  simp only [feed, feedLead, hb]

theorem feed_accepted {h : Held} {b : UInt8} (hb : h.accepts b) (D : List Char) :
    (⟨D, some h⟩ : Decoder).feed b =
      if (h.push b).missing = 0 then ⟨Char.ofNat (h.push b).value :: D, none⟩
      else ⟨D, some (h.push b)⟩ := if_pos hb

theorem feed_digit {h : Held} {k : Nat} (hk : k < 64) (low : h.low ≤ 0x80 + k)
    (high : 0x80 + k ≤ h.high) (D : List Char) :
    (⟨D, some h⟩ : Decoder).feed (0x80 + k).toUInt8 =
      if h.missing - 1 = 0 then ⟨Char.ofNat (h.value * 64 + k) :: D, none⟩
      else ⟨D, some ⟨h.bytes ++ [(0x80 + k).toUInt8], h.value * 64 + k, h.missing - 1,
        0x80, 0xBF⟩⟩ := by
  have hb : (0x80 + k).toUInt8.toNat = 0x80 + k := toNat_toUInt8 (by omega)
  have ha : h.accepts (0x80 + k).toUInt8 := by
    unfold Held.accepts
    rw [hb, decide_eq_true low, decide_eq_true high]
    rfl
  rw [feed_accepted ha]
  simp only [Held.push, hb, Nat.add_sub_cancel_left]

/-- Fed to a decoder that holds nothing, the bytes of a held sequence are held again. -/
theorem run_begins {h : Held} {n : Nat} (hn : h.Begins n) (D : List Char) :
    (⟨D, none⟩ : Decoder).run h.bytes = ⟨D, some h⟩ := by
  cases hn with
  | oneOfTwo low high => exact feed_opens (lead_two low high) D
  | oneOfThree low high valid => exact feed_opens (lead_three low high) D
  | twoOfThree low high valid =>
    have hv : n / 4096 * 64 + n / 64 % 64 = n / 64 := by omega
    rw [run_cons, run_singleton, feed_opens (lead_three low high),
      feed_digit (by omega) (by grind) (by grind), hv]
    rfl
  | oneOfFour low high => exact feed_opens (lead_four low high) D
  | twoOfFour low high =>
    have hv : n / 262144 * 64 + n / 4096 % 64 = n / 4096 := by omega
    rw [run_cons, run_singleton, feed_opens (lead_four low high),
      feed_digit (by omega) (by grind) (by grind), hv]
    rfl
  | threeOfFour low high =>
    have hv : n / 262144 * 64 + n / 4096 % 64 = n / 4096 := by omega
    have hw : n / 4096 * 64 + n / 64 % 64 = n / 64 := by omega
    rw [run_cons, run_cons, run_singleton, feed_opens (lead_four low high),
      feed_digit (by omega) (by grind) (by grind), hv]
    change (⟨D, some _⟩ : Decoder).feed _ = _
    rw [feed_digit (by omega) (by grind) (by grind), hw]
    rfl

theorem run_completed {h : Held} {n k : Nat} (hn : h.Begins n) (hm : h.missing = 1) (hk : k < 64)
    (D : List Char) :
    (⟨D, none⟩ : Decoder).run (h.bytes ++ [(0x80 + k).toUInt8]) =
      ⟨Char.ofNat (h.value * 64 + k) :: D, none⟩ := by
  have hr : h.low = 0x80 ∧ h.high = 0xBF := by cases hn <;> simp_all
  rw [run_append, run_begins hn, run_singleton, feed_digit hk (by omega) (by omega), hm]
  rfl

theorem run_encodeChar (D : List Char) (c : Char) :
    (⟨D, none⟩ : Decoder).run (encodeChar c) = ⟨c :: D, none⟩ := by
  have hv : c.toNat.isValidChar := c.valid
  have value : c.toNat / 64 * 64 + c.toNat % 64 = c.toNat := by omega
  by_cases h1 : c.toNat < 0x80
  · have hb : c.toNat.toUInt8.toNat = c.toNat := toNat_toUInt8 (by omega)
    have hl : lead c.toNat.toUInt8 = .character c := by
      simp only [lead, hb, if_pos h1, Char.ofNat_toNat]
    simp only [encodeChar_one h1, run_singleton, feed, feedLead, hl]
  by_cases h2 : c.toNat < 0x800
  · have hr := run_completed (k := c.toNat % 64) (.oneOfTwo (by omega) h2) rfl (by omega) D
    rw [value, Char.ofNat_toNat] at hr
    rw [encodeChar_two (by omega) h2]
    exact hr
  by_cases h3 : c.toNat < 0x10000
  · have hr := run_completed (k := c.toNat % 64) (.twoOfThree (by omega) h3 hv) rfl (by omega) D
    rw [value, Char.ofNat_toNat] at hr
    rw [encodeChar_three (by omega) h3]
    exact hr
  · have hr := run_completed (k := c.toNat % 64) (.threeOfFour (n := c.toNat) (by omega) (by grind))
      rfl (by omega) D
    rw [value, Char.ofNat_toNat] at hr
    rw [encodeChar_four (by omega)]
    exact hr

theorem run_encode (D text : List Char) :
    (⟨D, none⟩ : Decoder).run (encode text) = ⟨text.reverse ++ D, none⟩ := by
  induction text generalizing D with
  | nil => rfl
  | cons c text ih =>
    rw [encode, List.flatMap_cons, run_append, run_encodeChar]
    exact (ih _).trans (by simp)

/-- What a byte adds to the decoded characters does not depend on those already there. -/
theorem feed_decoded (D : List Char) (held : Option Held) (b : UInt8) :
    (⟨D, held⟩ : Decoder).feed b =
      ⟨((⟨[], held⟩ : Decoder).feed b).decoded ++ D, ((⟨[], held⟩ : Decoder).feed b).held⟩ := by
  cases held with
  | none =>
    simp only [feed, feedLead]
    cases lead b <;> rfl
  | some h =>
    by_cases ha : h.accepts b
    · rw [feed_accepted ha, feed_accepted ha]
      split <;> rfl
    · simp only [feed, if_neg ha, feedLead]
      cases lead b <;> rfl

theorem run_decoded (D : List Char) (held : Option Held) (bytes : List UInt8) :
    (⟨D, held⟩ : Decoder).run bytes =
      ⟨((⟨[], held⟩ : Decoder).run bytes).decoded ++ D,
        ((⟨[], held⟩ : Decoder).run bytes).held⟩ := by
  induction bytes generalizing D held with
  | nil => rfl
  | cons b bytes ih =>
    rw [run_cons, run_cons, feed_decoded D held b, ih]
    generalize (⟨[], held⟩ : Decoder).feed b = d
    rw [show d = ⟨d.decoded, d.held⟩ from rfl, ih d.decoded d.held]
    simp

/-- Whatever is held begins the encoding of a character. -/
def Sound (d : Decoder) : Prop := ∀ h, d.held = some h → ∃ n, h.Begins n

theorem sound_empty : Sound empty := by
  intro h hh
  cases hh

theorem sound_feedLead (D : List Char) (b : UInt8) : Sound (feedLead D b) := by
  intro h hh
  unfold feedLead at hh
  cases hl : lead b with
  | character c => simp [hl] at hh
  | opens h' =>
    have he : h' = h := by simpa [hl] using hh
    exact he ▸ (begins_of_lead hl).2
  | invalid => simp [hl] at hh

theorem Sound.feed {d : Decoder} (hd : Sound d) (b : UInt8) : Sound (d.feed b) := by
  obtain ⟨D, held⟩ := d
  cases held with
  | none => exact sound_feedLead D b
  | some h =>
    by_cases ha : h.accepts b
    · obtain ⟨n, hn⟩ := hd h rfl
      rw [feed_accepted ha]
      split_ifs with hm
      · intro h' hh
        cases hh
      · intro h' hh
        cases hh
        exact hn.push ha hm
    · simp only [Decoder.feed, if_neg ha]
      exact sound_feedLead _ b

theorem Sound.run {d : Decoder} (hd : Sound d) (bytes : List UInt8) : Sound (d.run bytes) := by
  induction bytes generalizing d with
  | nil => exact hd
  | cons b bytes ih => exact ih (hd.feed b)

theorem Sound.run_eq {d : Decoder} (hd : Sound d) (bytes : List UInt8) :
    d.run bytes = (⟨d.decoded, none⟩ : Decoder).run (d.tail ++ bytes) := by
  obtain ⟨D, held⟩ := d
  cases held with
  | none => rfl
  | some h =>
    obtain ⟨n, hn⟩ := hd h rfl
    rw [tail, run_append, run_begins hn]

theorem feed_progress (d : Decoder) (b : UInt8) :
    (d.feed b).decoded ≠ [] ∨ (d.feed b).held ≠ none := by
  have lead_progress : ∀ D, (feedLead D b).decoded ≠ [] ∨ (feedLead D b).held ≠ none := by
    intro D
    unfold feedLead
    cases lead b <;> simp
  obtain ⟨D, held⟩ := d
  cases held with
  | none => exact lead_progress D
  | some h =>
    by_cases ha : h.accepts b
    · rw [feed_accepted ha]
      split <;> simp
    · simp only [feed, if_neg ha]
      exact lead_progress _

end Decoder

end DebugControl.Utf8
