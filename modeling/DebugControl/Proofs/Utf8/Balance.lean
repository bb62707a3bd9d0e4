import DebugControl.Proofs.Utf8.Stream

/-!
# Counting characters and bytes

Every byte with which a character may begin adds one character to the decoded text, whether that
character is completed or given up. Any other byte either goes on with the character in progress or
stands for a character of its own. So a text that has no more characters than beginnings uses all
other bytes to complete them; and if there are just as many of these as the beginnings need, no
character is given up.
-/

namespace DebugControl.Utf8

/-- How many bytes have to follow a byte where a character may begin. -/
def need (b : UInt8) : Nat :=
  match lead b with
  | .opens h => h.missing
  | .character _ | .invalid => 0

def needs : List UInt8 → Nat
  | [] => 0
  | b :: bytes => need b + needs bytes

def beginnings (bytes : List UInt8) : Nat := bytes.countP fun b => lead b ≠ .invalid

def followers (bytes : List UInt8) : Nat := bytes.countP fun b => lead b = .invalid

@[simp] theorem needs_append (a b : List UInt8) : needs (a ++ b) = needs a + needs b := by
  induction a with
  | nil => simp [needs]
  | cons x a ih => rw [List.cons_append, needs, needs, ih, Nat.add_assoc]

theorem needs_eq_of_perm {a b : List UInt8} (h : a.Perm b) : needs a = needs b := by
  induction h with
  | nil => rfl
  | cons x _ ih => rw [needs, needs, ih]
  | swap x y l =>
    rw [needs, needs, needs, needs]
    omega
  | trans _ _ ihfirst ihsecond => exact ihfirst.trans ihsecond

@[simp] theorem beginnings_append (a b : List UInt8) :
    beginnings (a ++ b) = beginnings a + beginnings b := List.countP_append

@[simp] theorem followers_append (a b : List UInt8) :
    followers (a ++ b) = followers a + followers b := List.countP_append

theorem lead_eq_invalid {b : UInt8} (low : 0x80 ≤ b.toNat) (high : b.toNat ≤ 0xBF) :
    lead b = .invalid := by
  unfold lead
  grind

theorem Held.Begins.missing_pos {h : Held} {n : Nat} (hn : h.Begins n) : 0 < h.missing := by
  cases hn <;> simp

theorem Held.Begins.lead_of_accepts {h : Held} {n : Nat} {b : UInt8} (hn : h.Begins n)
    (hb : h.accepts b) : lead b = .invalid := by
  have hrange : h.low ≤ b.toNat ∧ b.toNat ≤ h.high := by simpa [Held.accepts] using hb
  exact lead_eq_invalid (hn.bounds.1.trans hrange.1) (hrange.2.trans hn.bounds.2)

namespace Decoder

/-- The characters of the text so far, with the one in progress. -/
def count (d : Decoder) : Nat := d.decoded.length + if d.held = none then 0 else 1

/-- How many bytes are missing from the character in progress. -/
def missing (d : Decoder) : Nat := (d.held.map Held.missing).getD 0

/-- How many bytes remain missing from a character that a byte interrupts. -/
def gap (d : Decoder) (b : UInt8) : Nat :=
  match d.held with
  | none => 0
  | some h => if h.accepts b then 0 else h.missing

def gaps : Decoder → List UInt8 → Nat
  | _, [] => 0
  | d, b :: bytes => d.gap b + (d.feed b).gaps bytes

theorem gaps_append (d : Decoder) (a b : List UInt8) :
    d.gaps (a ++ b) = d.gaps a + (d.run a).gaps b := by
  induction a generalizing d with
  | nil => simp [gaps]
  | cons x a ih => rw [List.cons_append, gaps, ih, gaps, run_cons, Nat.add_assoc]

theorem feedLead_balance (D : List Char) (b : UInt8) :
    ∃ strays, (feedLead D b).count = D.length + beginnings [b] + strays ∧
      followers [b] + (feedLead D b).missing = need b + strays := by
  cases hl : lead b with
  | character c => exact ⟨0, by simp [feedLead, hl, count, beginnings, followers, missing, need]⟩
  | opens h => exact ⟨0, by simp [feedLead, hl, count, beginnings, followers, missing, need]⟩
  | invalid => exact ⟨1, by simp [feedLead, hl, count, beginnings, followers, missing, need]⟩

theorem feed_balance {d : Decoder} (hd : Sound d) (b : UInt8) :
    ∃ strays, (d.feed b).count = d.count + beginnings [b] + strays ∧
      followers [b] + d.gap b + (d.feed b).missing = d.missing + need b + strays := by
  obtain ⟨D, held⟩ := d
  cases held with
  | none =>
    obtain ⟨strays, hcount, hmissing⟩ := feedLead_balance D b
    have hfeed : feed ⟨D, none⟩ b = feedLead D b := rfl
    have hold : count ⟨D, none⟩ = D.length ∧ gap ⟨D, none⟩ b = 0 ∧ missing ⟨D, none⟩ = 0 := by
      simp [count, gap, missing]
    refine ⟨strays, ?_⟩
    rw [hfeed]
    omega
  | some h =>
    have hold : count ⟨D, some h⟩ = D.length + 1 ∧ missing ⟨D, some h⟩ = h.missing := by
      simp [count, missing]
    by_cases ha : h.accepts b
    · obtain ⟨n, hn⟩ := hd h rfl
      have hm := hn.missing_pos
      have hgap : gap ⟨D, some h⟩ b = 0 := if_pos ha
      have hcounts : beginnings [b] = 0 ∧ followers [b] = 1 ∧ need b = 0 := by
        simp [beginnings, followers, need, hn.lead_of_accepts ha]
      have hnew : (feed ⟨D, some h⟩ b).count = D.length + 1 ∧
          (feed ⟨D, some h⟩ b).missing = h.missing - 1 := by
        rw [feed_accepted ha]
        split_ifs with hpush
        · exact ⟨by simp [count], by simpa [missing, Held.push] using hpush.symm⟩
        · simp [count, missing, Held.push]
      exact ⟨0, by omega⟩
    · obtain ⟨strays, hcount, hmissing⟩ := feedLead_balance (replacement :: D) b
      have hgap : gap ⟨D, some h⟩ b = h.missing := if_neg ha
      have hfeed : feed ⟨D, some h⟩ b = feedLead (replacement :: D) b := if_neg ha
      rw [List.length_cons] at hcount
      refine ⟨strays, ?_⟩
      rw [hfeed]
      omega

theorem run_balance {d : Decoder} (hd : Sound d) (bytes : List UInt8) :
    ∃ strays, (d.run bytes).count = d.count + beginnings bytes + strays ∧
      followers bytes + d.gaps bytes + (d.run bytes).missing =
        d.missing + needs bytes + strays := by
  induction bytes generalizing d with
  | nil => exact ⟨0, by simp [beginnings, followers, needs, gaps]⟩
  | cons b bytes ih =>
    obtain ⟨strays, hcount, hmissing⟩ := feed_balance hd b
    obtain ⟨strays', hcount', hmissing'⟩ := ih (hd.feed b)
    have hb := beginnings_append [b] bytes
    have hf := followers_append [b] bytes
    have hn := needs_append [b] bytes
    have hneed : needs [b] = need b := by simp [needs]
    rw [List.singleton_append] at hb hf hn
    refine ⟨strays + strays', ?_, ?_⟩
    · rw [run_cons, hb]
      omega
    · rw [run_cons, hf, hn, gaps]
      omega

end Decoder

open Decoder

/-- If each beginning stands for one character, and there are as many other bytes as the beginnings
need, no character is interrupted. -/
theorem gaps_eq_zero {bytes : List UInt8} (hlength : (decode bytes).length = beginnings bytes)
    (hneeds : followers bytes = needs bytes) : empty.gaps bytes = 0 := by
  obtain ⟨strays, hcount, hmissing⟩ := run_balance sound_empty bytes
  have htext : (decode bytes).length = (empty.run bytes).count := by
    rw [decode_eq_text, decodeStream, count, List.length_append, text, List.length_reverse]
    split_ifs <;> rfl
  have hempty : empty.count = 0 ∧ empty.missing = 0 := ⟨rfl, rfl⟩
  omega

theorem gap_pos {bytes : List UInt8} {b : UInt8} (htail : (decodeStream bytes).2 ≠ [])
    (hb : lead b ≠ .invalid) : 0 < (empty.run bytes).gap b := by
  have hs := sound_empty.run bytes
  rw [decodeStream, tail] at htail
  generalize empty.run bytes = d at hs htail
  obtain ⟨D, held⟩ := d
  cases held with
  | none => exact absurd rfl htail
  | some h =>
    obtain ⟨n, hn⟩ := hs h rfl
    have hgap : gap ⟨D, some h⟩ b = h.missing := if_neg fun ha => hb (hn.lead_of_accepts ha)
    rw [hgap]
    exact hn.missing_pos

/-! ## Text that is well formed -/

theorem lead_follower {k : Nat} (hk : k < 64) : lead (0x80 + k).toUInt8 = .invalid := by
  have hb : (0x80 + k).toUInt8.toNat = 0x80 + k := toNat_toUInt8 (by omega)
  exact lead_eq_invalid (by omega) (by omega)

/-- A byte where a character may begin, and just as many others as it needs. -/
structure Shaped (b : UInt8) (rest : List UInt8) : Prop where
  begins : lead b ≠ .invalid
  need_eq : need b = rest.length
  follow : ∀ b' ∈ rest, lead b' = .invalid

theorem shaped_of_opens {b : UInt8} {rest : List UInt8} {h : Held} (hl : lead b = .opens h)
    (hm : h.missing = rest.length) (hf : ∀ b' ∈ rest, lead b' = .invalid) : Shaped b rest := by
  refine ⟨?_, ?_, hf⟩
  · simp [hl]
  · rw [need, hl]
    exact hm

theorem encodeChar_shaped (c : Char) : ∃ b rest, encodeChar c = b :: rest ∧ Shaped b rest := by
  have hv : c.toNat.isValidChar := c.valid
  have hnil : ∀ b' ∈ [], lead b' = .invalid := fun b' hb' => absurd hb' List.not_mem_nil
  have hcons : ∀ k rest, (∀ b' ∈ rest, lead b' = .invalid) →
      ∀ b' ∈ (0x80 + k % 64).toUInt8 :: rest, lead b' = .invalid :=
    fun k rest hrest => List.forall_mem_cons.2 ⟨lead_follower (by omega), hrest⟩
  by_cases h1 : c.toNat < 0x80
  · have hb : c.toNat.toUInt8.toNat = c.toNat := toNat_toUInt8 (by omega)
    have hl : lead c.toNat.toUInt8 = .character c := by
      simp only [lead, hb, if_pos h1, Char.ofNat_toNat]
    refine ⟨_, [], encodeChar_one h1, ?_, ?_, hnil⟩
    · simp [hl]
    · rw [need, hl, List.length_nil]
  by_cases h2 : c.toNat < 0x800
  · have hl := lead_two (n := c.toNat) (by omega) h2
    exact ⟨_, _, encodeChar_two (by omega) h2, shaped_of_opens hl rfl (hcons _ _ hnil)⟩
  by_cases h3 : c.toNat < 0x10000
  · have hl := lead_three (n := c.toNat) (by omega) h3
    have hrest := hcons (c.toNat / 64) _ (hcons c.toNat _ hnil)
    exact ⟨_, _, encodeChar_three (by omega) h3, shaped_of_opens hl rfl hrest⟩
  · have hl := lead_four (n := c.toNat) (by omega) (by grind)
    have hrest := hcons (c.toNat / 4096) _ (hcons (c.toNat / 64) _ (hcons c.toNat _ hnil))
    exact ⟨_, _, encodeChar_four (by omega), shaped_of_opens hl rfl hrest⟩

theorem counts_of_followers {bytes : List UInt8} (h : ∀ b ∈ bytes, lead b = .invalid) :
    beginnings bytes = 0 ∧ followers bytes = bytes.length ∧ needs bytes = 0 := by
  induction bytes with
  | nil => exact ⟨rfl, rfl, rfl⟩
  | cons b bytes ih =>
    obtain ⟨hb, hrest⟩ := List.forall_mem_cons.1 h
    obtain ⟨hbeginnings, hfollowers, hneeds⟩ := ih hrest
    have hfirst : beginnings [b] = 0 ∧ followers [b] = 1 ∧ needs [b] = 0 := by
      simp [beginnings, followers, needs, need, hb]
    rw [← List.singleton_append, beginnings_append, followers_append, needs_append,
      List.length_append, List.length_singleton]
    omega

theorem encodeChar_counts (c : Char) :
    beginnings (encodeChar c) = 1 ∧ followers (encodeChar c) = needs (encodeChar c) := by
  obtain ⟨b, rest, hc, hb, hneed, hrest⟩ := encodeChar_shaped c
  obtain ⟨hbeginnings, hfollowers, hneeds⟩ := counts_of_followers hrest
  have hfirst : beginnings [b] = 1 ∧ followers [b] = 0 ∧ needs [b] = rest.length := by
    simp [beginnings, followers, needs, hb, hneed]
  rw [hc, ← List.singleton_append, beginnings_append, followers_append, needs_append]
  omega

theorem encode_counts (text : List Char) :
    beginnings (encode text) = text.length ∧ followers (encode text) = needs (encode text) := by
  induction text with
  | nil => exact ⟨rfl, rfl⟩
  | cons c text ih =>
    obtain ⟨hb, hf⟩ := encodeChar_counts c
    rw [encode_cons, beginnings_append, followers_append, needs_append, List.length_cons]
    omega

theorem eq_encode_append_of_prefix {bytes : List UInt8} {text : List Char}
    (h : bytes <+: encode text) :
    bytes = encode (decodeStream bytes).1 ++ (decodeStream bytes).2 := by
  induction text generalizing bytes with
  | nil =>
    obtain rfl := List.prefix_nil.1 h
    rfl
  | cons c text ih =>
    rw [encode_cons] at h
    by_cases hc : encodeChar c <+: bytes
    · obtain ⟨rest, rfl⟩ := hc
      have hrest := ih ((List.prefix_append_right_inj _).1 h)
      have hstream := decodeStream_encode_append [c] rest
      rw [encode_cons, encode, List.flatMap_nil, List.append_nil] at hstream
      rw [hstream, List.singleton_append, encode_cons, List.append_assoc, ← hrest]
    · by_cases hb : bytes = []
      · rw [hb]
        rfl
      · have hp := (List.prefix_or_prefix_of_prefix h (List.prefix_append _ _)).resolve_right hc
        have hne : bytes ≠ encodeChar c := fun he => hc (he ▸ List.prefix_rfl)
        rw [decodeStream_of_unfinished ⟨hb, c, hp, hne⟩]
        rfl

theorem lead_head {b : UInt8} {rest tail : List UInt8} {text : List Char}
    (h : b :: rest = encode text ++ tail) (htail : tail ≠ [] → Unfinished tail) :
    lead b ≠ .invalid := by
  have hfirst : ∀ {c : Char} {more : List UInt8}, b :: more <+: encodeChar c →
      lead b ≠ .invalid := by
    intro c more hp
    obtain ⟨b', rest', hc, hb'⟩ := encodeChar_shaped c
    rw [hc, List.cons_prefix_cons] at hp
    rw [hp.1]
    exact hb'.begins
  cases text with
  | nil =>
    obtain rfl : b :: rest = tail := h
    obtain ⟨-, c, hp, -⟩ := htail (List.cons_ne_nil _ _)
    exact hfirst hp
  | cons c text =>
    obtain ⟨b', rest', hc, hb'⟩ := encodeChar_shaped c
    rw [encode_cons, hc, List.cons_append, List.cons_append] at h
    rw [(List.cons.inj h).1]
    exact hb'.begins

end DebugControl.Utf8
