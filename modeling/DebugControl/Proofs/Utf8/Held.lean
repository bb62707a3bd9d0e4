import DebugControl.Text.Utf8
import Mathlib.Data.List.Infix

/-!
# Held sequences

What the decoder holds between two bytes is a proper beginning of the encoding of some character.
`Held.Begins` lists the six forms that it can take: after the first byte of two, after the first or
second of three, and after the first, second or third of four. Every part of an encoding has one of
these forms, and a further byte of the range that the form allows leads to another of them.
-/

namespace DebugControl.Utf8

/-- A part of the encoding of a character: it begins the encoding, but not all of it is there. -/
def Unfinished (bytes : List UInt8) : Prop :=
  bytes ≠ [] ∧ ∃ c, bytes <+: encodeChar c ∧ bytes ≠ encodeChar c

theorem toNat_toUInt8 {k : Nat} (h : k < 256) : k.toUInt8.toNat = k := by
  simp only [Nat.toUInt8, UInt8.toNat_ofNat']
  omega

theorem toNat_ofNat {n : Nat} (h : n.isValidChar) : (Char.ofNat n).toNat = n := by
  rw [Char.ofNat, dif_pos h]
  rfl

theorem encodeChar_one {c : Char} (h : c.toNat < 0x80) : encodeChar c = [c.toNat.toUInt8] :=
  if_pos h

theorem encodeChar_two {c : Char} (low : 0x80 ≤ c.toNat) (high : c.toNat < 0x800) :
    encodeChar c = [(0xC0 + c.toNat / 64).toUInt8, (0x80 + c.toNat % 64).toUInt8] := by
  unfold encodeChar
  rw [if_neg (by omega), if_pos high]

theorem encodeChar_three {c : Char} (low : 0x800 ≤ c.toNat) (high : c.toNat < 0x10000) :
    encodeChar c = [(0xE0 + c.toNat / 4096).toUInt8, (0x80 + c.toNat / 64 % 64).toUInt8,
      (0x80 + c.toNat % 64).toUInt8] := by
  unfold encodeChar
  rw [if_neg (by omega), if_neg (by omega), if_pos high]

theorem encodeChar_four {c : Char} (low : 0x10000 ≤ c.toNat) :
    encodeChar c = [(0xF0 + c.toNat / 262144).toUInt8, (0x80 + c.toNat / 4096 % 64).toUInt8,
      (0x80 + c.toNat / 64 % 64).toUInt8, (0x80 + c.toNat % 64).toUInt8] := by
  unfold encodeChar
  rw [if_neg (by omega), if_neg (by omega), if_neg (by omega)]

/-- The sequence holds the first bytes of the encoding of the code point `n`. -/
inductive Held.Begins : Held → Nat → Prop
  | oneOfTwo {n : Nat} (low : 0x80 ≤ n) (high : n < 0x800) :
      Begins ⟨[(0xC0 + n / 64).toUInt8], n / 64, 1, 0x80, 0xBF⟩ n
  | oneOfThree {n : Nat} (low : 0x800 ≤ n) (high : n < 0x10000) (valid : n.isValidChar) :
      Begins ⟨[(0xE0 + n / 4096).toUInt8], n / 4096, 2,
        if n / 4096 = 0 then 0xA0 else 0x80, if n / 4096 = 0xD then 0x9F else 0xBF⟩ n
  | twoOfThree {n : Nat} (low : 0x800 ≤ n) (high : n < 0x10000) (valid : n.isValidChar) :
      Begins ⟨[(0xE0 + n / 4096).toUInt8, (0x80 + n / 64 % 64).toUInt8], n / 64, 1, 0x80, 0xBF⟩ n
  | oneOfFour {n : Nat} (low : 0x10000 ≤ n) (high : n < 0x110000) :
      Begins ⟨[(0xF0 + n / 262144).toUInt8], n / 262144, 3,
        if n / 262144 = 0 then 0x90 else 0x80, if n / 262144 = 4 then 0x8F else 0xBF⟩ n
  | twoOfFour {n : Nat} (low : 0x10000 ≤ n) (high : n < 0x110000) :
      Begins ⟨[(0xF0 + n / 262144).toUInt8, (0x80 + n / 4096 % 64).toUInt8], n / 4096, 2,
        0x80, 0xBF⟩ n
  | threeOfFour {n : Nat} (low : 0x10000 ≤ n) (high : n < 0x110000) :
      Begins ⟨[(0xF0 + n / 262144).toUInt8, (0x80 + n / 4096 % 64).toUInt8,
        (0x80 + n / 64 % 64).toUInt8], n / 64, 1, 0x80, 0xBF⟩ n

theorem lead_two {n : Nat} (low : 0x80 ≤ n) (high : n < 0x800) :
    lead (0xC0 + n / 64).toUInt8 =
      .opens ⟨[(0xC0 + n / 64).toUInt8], n / 64, 1, 0x80, 0xBF⟩ := by
  have hb : (0xC0 + n / 64).toUInt8.toNat = 0xC0 + n / 64 := toNat_toUInt8 (by omega)
  unfold lead
  rw [hb]
  grind

theorem lead_three {n : Nat} (low : 0x800 ≤ n) (high : n < 0x10000) :
    lead (0xE0 + n / 4096).toUInt8 =
      .opens ⟨[(0xE0 + n / 4096).toUInt8], n / 4096, 2,
        if n / 4096 = 0 then 0xA0 else 0x80, if n / 4096 = 0xD then 0x9F else 0xBF⟩ := by
  have hb : (0xE0 + n / 4096).toUInt8.toNat = 0xE0 + n / 4096 := toNat_toUInt8 (by omega)
  unfold lead
  rw [hb]
  grind

theorem lead_four {n : Nat} (low : 0x10000 ≤ n) (high : n < 0x110000) :
    lead (0xF0 + n / 262144).toUInt8 =
      .opens ⟨[(0xF0 + n / 262144).toUInt8], n / 262144, 3,
        if n / 262144 = 0 then 0x90 else 0x80, if n / 262144 = 4 then 0x8F else 0xBF⟩ := by
  have hb : (0xF0 + n / 262144).toUInt8.toNat = 0xF0 + n / 262144 := toNat_toUInt8 (by omega)
  unfold lead
  rw [hb]
  grind

theorem lead_range {b : UInt8} {h : Held} (hb : lead b = .opens h) :
    0xC2 ≤ b.toNat ∧ b.toNat ≤ 0xF4 := by
  unfold lead at hb
  grind

theorem begins_of_lead {b : UInt8} {h : Held} (hb : lead b = .opens h) :
    h.bytes = [b] ∧ ∃ n, h.Begins n := by
  obtain ⟨hlow, hhigh⟩ := lead_range hb
  have byte : ∀ k, k = b.toNat → k.toUInt8 = b := by
    rintro k rfl
    simp
  by_cases h2 : b.toNat < 0xE0
  · let n := (b.toNat - 0xC0) * 64
    have hn := lead_two (n := n) (by omega) (by omega)
    have hf := Held.Begins.oneOfTwo (n := n) (by omega) (by omega)
    rw [byte _ (by omega)] at hn hf
    rw [Lead.opens.inj (hb.symm.trans hn)]
    exact ⟨rfl, n, hf⟩
  by_cases h3 : b.toNat < 0xF0
  · let n := if b.toNat = 0xE0 then 0x800 else (b.toNat - 0xE0) * 4096
    have hn := lead_three (n := n) (by grind) (by grind)
    have hf := Held.Begins.oneOfThree (n := n) (by grind) (by grind) (by grind)
    rw [byte _ (by grind)] at hn hf
    rw [Lead.opens.inj (hb.symm.trans hn)]
    exact ⟨rfl, n, hf⟩
  · let n := if b.toNat = 0xF0 then 0x10000 else (b.toNat - 0xF0) * 262144
    have hn := lead_four (n := n) (by grind) (by grind)
    have hf := Held.Begins.oneOfFour (n := n) (by grind) (by grind)
    rw [byte _ (by grind)] at hn hf
    rw [Lead.opens.inj (hb.symm.trans hn)]
    exact ⟨rfl, n, hf⟩

namespace Held.Begins

variable {h : Held} {n : Nat}

theorem bounds (hn : h.Begins n) : 0x80 ≤ h.low ∧ h.high ≤ 0xBF := by
  cases hn <;> grind

/-- A byte of the range that does not complete the sequence makes it begin some character again,
though maybe another one. -/
theorem push {b : UInt8} (hn : h.Begins n) (hb : h.accepts b) (hm : (h.push b).missing ≠ 0) :
    ∃ n', (h.push b).Begins n' := by
  have hr : h.low ≤ b.toNat ∧ b.toNat ≤ h.high := by simpa [Held.accepts] using hb
  have hlow : 0x80 ≤ b.toNat := hn.bounds.1.trans hr.1
  have hhigh : b.toNat ≤ 0xBF := hr.2.trans hn.bounds.2
  have byte : ∀ k, k = b.toNat → k.toUInt8 = b := by
    rintro k rfl
    simp
  cases hn with
  | oneOfTwo low high => simp [Held.push] at hm
  | twoOfThree low high valid => simp [Held.push] at hm
  | threeOfFour low high => simp [Held.push] at hm
  | oneOfThree low high valid =>
    let n' := n / 4096 * 4096 + (b.toNat - 0x80) * 64
    have hq : n' / 4096 = n / 4096 := by omega
    have hv : n' / 64 = n / 4096 * 64 + (b.toNat - 0x80) := by omega
    have hf := twoOfThree (n := n') (by grind) (by grind) (by grind)
    rw [byte (0x80 + n' / 64 % 64) (by omega), hq, hv] at hf
    exact ⟨n', hf⟩
  | oneOfFour low high =>
    let n' := n / 262144 * 262144 + (b.toNat - 0x80) * 4096
    have hq : n' / 262144 = n / 262144 := by omega
    have hv : n' / 4096 = n / 262144 * 64 + (b.toNat - 0x80) := by omega
    have hf := twoOfFour (n := n') (by grind) (by grind)
    rw [byte (0x80 + n' / 4096 % 64) (by omega), hq, hv] at hf
    exact ⟨n', hf⟩
  | twoOfFour low high =>
    let n' := n / 4096 * 4096 + (b.toNat - 0x80) * 64
    have hq : n' / 262144 = n / 262144 := by omega
    have hr : n' / 4096 = n / 4096 := by omega
    have hv : n' / 64 = n / 4096 * 64 + (b.toNat - 0x80) := by omega
    have hf := threeOfFour (n := n') (by omega) (by omega)
    rw [byte (0x80 + n' / 64 % 64) (by omega), hq, hr, hv] at hf
    exact ⟨n', hf⟩

theorem encodeChar_eq (hn : h.Begins n) :
    ∃ rest, rest ≠ [] ∧ encodeChar (Char.ofNat n) = h.bytes ++ rest := by
  have hv : n.isValidChar := by cases hn <;> grind
  have hc : (Char.ofNat n).toNat = n := toNat_ofNat hv
  cases hn with
  | oneOfTwo low high =>
    rw [encodeChar_two (by omega) (by omega), hc]
    exact ⟨_, List.cons_ne_nil _ _, rfl⟩
  | oneOfThree low high valid =>
    rw [encodeChar_three (by omega) (by omega), hc]
    exact ⟨_, List.cons_ne_nil _ _, rfl⟩
  | twoOfThree low high valid =>
    rw [encodeChar_three (by omega) (by omega), hc]
    exact ⟨_, List.cons_ne_nil _ _, rfl⟩
  | oneOfFour low high =>
    rw [encodeChar_four (by omega), hc]
    exact ⟨_, List.cons_ne_nil _ _, rfl⟩
  | twoOfFour low high =>
    rw [encodeChar_four (by omega), hc]
    exact ⟨_, List.cons_ne_nil _ _, rfl⟩
  | threeOfFour low high =>
    rw [encodeChar_four (by omega), hc]
    exact ⟨_, List.cons_ne_nil _ _, rfl⟩

/-- The first byte cannot stand inside another character. -/
theorem head (hn : h.Begins n) : ∃ b rest, h.bytes = b :: rest ∧ 0xBF < b.toNat := by
  cases hn <;> exact ⟨_, _, rfl, by rw [toNat_toUInt8] <;> omega⟩

theorem unfinished (hn : h.Begins n) : Unfinished h.bytes := by
  obtain ⟨rest, hr, he⟩ := hn.encodeChar_eq
  obtain ⟨b, more, hb, -⟩ := hn.head
  refine ⟨by simp [hb], Char.ofNat n, ⟨rest, he.symm⟩, ?_⟩
  rw [he]
  simpa using hr

end Held.Begins

theorem exists_begins {bytes : List UInt8} (hu : Unfinished bytes) :
    ∃ h n, Held.Begins h n ∧ h.bytes = bytes := by
  obtain ⟨hne, c, hp, hlt⟩ := hu
  have hv : c.toNat.isValidChar := c.valid
  by_cases h1 : c.toNat < 0x80
  · rw [encodeChar_one h1] at hp hlt
    grind [List.prefix_cons_iff]
  by_cases h2 : c.toNat < 0x800
  · rw [encodeChar_two (by omega) h2] at hp hlt
    have : bytes = [(0xC0 + c.toNat / 64).toUInt8] := by grind [List.prefix_cons_iff]
    exact ⟨_, _, .oneOfTwo (by omega) h2, this.symm⟩
  by_cases h3 : c.toNat < 0x10000
  · rw [encodeChar_three (by omega) h3] at hp hlt
    have : bytes = [(0xE0 + c.toNat / 4096).toUInt8] ∨
        bytes = [(0xE0 + c.toNat / 4096).toUInt8, (0x80 + c.toNat / 64 % 64).toUInt8] := by
      grind [List.prefix_cons_iff]
    obtain h | h := this
    · exact ⟨_, _, .oneOfThree (by omega) h3 hv, h.symm⟩
    · exact ⟨_, _, .twoOfThree (by omega) h3 hv, h.symm⟩
  · rw [encodeChar_four (by omega)] at hp hlt
    have : bytes = [(0xF0 + c.toNat / 262144).toUInt8] ∨
        bytes = [(0xF0 + c.toNat / 262144).toUInt8, (0x80 + c.toNat / 4096 % 64).toUInt8] ∨
        bytes = [(0xF0 + c.toNat / 262144).toUInt8, (0x80 + c.toNat / 4096 % 64).toUInt8,
          (0x80 + c.toNat / 64 % 64).toUInt8] := by
      grind [List.prefix_cons_iff]
    obtain h | h | h := this
    · exact ⟨_, _, .oneOfFour (by omega) (by grind), h.symm⟩
    · exact ⟨_, _, .twoOfFour (by omega) (by grind), h.symm⟩
    · exact ⟨_, _, .threeOfFour (by omega) (by grind), h.symm⟩

end DebugControl.Utf8
