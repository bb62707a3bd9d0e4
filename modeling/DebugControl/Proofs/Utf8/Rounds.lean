import DebugControl.Proofs.Utf8.Balance

/-!
# Decoding in rounds

Bytes can also be decoded in rounds. Each round takes the longest well-formed front; if what stands
behind it is neither the end nor an unfinished character, the round also takes the ill-formed part
there, counts it as one U+FFFD, and leaves the rest to the next round. An ill-formed part is a byte
that begins no character, or the beginning of one up to the byte that breaks it off. The rounds come
to an end on all bytes, and what they decode is what the decoder decodes byte by byte.
-/

namespace DebugControl.Utf8

variable {h : Held} {n : Nat} {b : UInt8} {part rest bytes tail : List UInt8} {text : List Char}

/-! ## What continues a character -/

theorem Held.Begins.completes (hn : h.Begins n) (hb : h.accepts b = true)
    (hm : (h.push b).missing = 0) : ∃ c, encodeChar c = h.bytes ++ [b] := by
  have hr : h.low ≤ b.toNat ∧ b.toNat ≤ h.high := by simpa [Held.accepts] using hb
  have hlow : 0x80 ≤ b.toNat := hn.bounds.1.trans hr.1
  have hhigh : b.toNat ≤ 0xBF := hr.2.trans hn.bounds.2
  have byte : ∀ k, k = b.toNat → k.toUInt8 = b := by
    rintro k rfl
    simp
  -- the character has all bits of `n` but the last six, and these from `b`
  let m := n / 64 * 64 + (b.toNat - 0x80)
  have hlast : (0x80 + m % 64).toUInt8 = b := byte _ (by omega)
  cases hn with
  | oneOfTwo low high =>
    have hc : (Char.ofNat m).toNat = m := toNat_ofNat (by grind)
    have hq : m / 64 = n / 64 := by omega
    refine ⟨Char.ofNat m, ?_⟩
    rw [encodeChar_two (by omega) (by omega), hc, hlast, hq]
    rfl
  | twoOfThree low high valid =>
    have hc : (Char.ofNat m).toNat = m := toNat_ofNat (by grind)
    have hq : m / 4096 = n / 4096 ∧ m / 64 = n / 64 := by omega
    refine ⟨Char.ofNat m, ?_⟩
    rw [encodeChar_three (by omega) (by omega), hc, hlast, hq.1, hq.2]
    rfl
  | threeOfFour low high =>
    have hc : (Char.ofNat m).toNat = m := toNat_ofNat (by grind)
    have hq : m / 262144 = n / 262144 ∧ m / 4096 = n / 4096 ∧ m / 64 = n / 64 := by omega
    refine ⟨Char.ofNat m, ?_⟩
    rw [encodeChar_four (by omega), hc, hlast, hq.1, hq.2.1, hq.2.2]
    rfl
  | oneOfThree low high valid => simp [Held.push] at hm
  | oneOfFour low high => simp [Held.push] at hm
  | twoOfFour low high => simp [Held.push] at hm

open Decoder

/-- A byte is accepted exactly if some character begins with the held bytes and this one. -/
theorem Held.Begins.accepts_iff (hn : h.Begins n) :
    h.accepts b = true ↔ ∃ c, h.bytes ++ [b] <+: encodeChar c := by
  constructor
  · intro ha
    by_cases hm : (h.push b).missing = 0
    · obtain ⟨c, hc⟩ := hn.completes ha hm
      exact ⟨c, hc ▸ List.prefix_rfl⟩
    · obtain ⟨n', hn'⟩ := hn.push ha hm
      obtain ⟨rest, -, hc⟩ := hn'.encodeChar_eq
      exact ⟨_, rest, hc.symm⟩
  · rintro ⟨c, hc⟩
    -- A byte that is refused leaves a U+FFFD behind, which a beginning of a character never does.
    by_contra ha
    have hrun : (⟨[], none⟩ : Decoder).run (h.bytes ++ [b]) = feedLead [replacement] b := by
      rw [run_append, run_begins hn, run_singleton]
      simp only [feed, if_neg ha]
    by_cases hwhole : h.bytes ++ [b] = encodeChar c
    · rw [hwhole, run_encodeChar] at hrun
      cases hl : lead b <;> simp [feedLead, hl] at hrun
    · obtain ⟨h', n', hn', hbytes⟩ := exists_begins ⟨by simp, c, hc, hwhole⟩
      rw [← hbytes, run_begins hn'] at hrun
      cases hl : lead b <;> simp [feedLead, hl] at hrun

theorem encodeChar_of_lead {c : Char} (hb : lead b = .character c) : encodeChar c = [b] := by
  simp only [lead] at hb
  split_ifs at hb with hlow
  obtain rfl := Lead.character.inj hb
  have hc : (Char.ofNat b.toNat).toNat = b.toNat := toNat_ofNat (by grind)
  rw [encodeChar_one (by omega), hc]
  simp

theorem lead_eq_invalid_iff : lead b = .invalid ↔ ∀ c, ¬ [b] <+: encodeChar c := by
  constructor
  · intro hb c hc
    obtain ⟨b', rest, hfront, hshape⟩ := encodeChar_shaped c
    rw [hfront, List.cons_prefix_cons] at hc
    exact hshape.begins (hc.1 ▸ hb)
  · intro hb
    cases hl : lead b with
    | character c => exact absurd (encodeChar_of_lead hl ▸ List.prefix_rfl) (hb c)
    | opens h =>
      obtain ⟨hbytes, n, hn⟩ := begins_of_lead hl
      obtain ⟨rest, -, hc⟩ := hn.encodeChar_eq
      exact absurd ⟨rest, hbytes ▸ hc.symm⟩ (hb _)
    | invalid => rfl

/-! ## Rounds -/

/-- The ill-formed part in front of `rest`: a byte that begins no character, or the beginning of a
character which the first byte of `rest` does not continue. -/
inductive IllFormed : List UInt8 → List UInt8 → Prop where
  | stray {b : UInt8} (hb : ∀ c, ¬ [b] <+: encodeChar c) (rest : List UInt8) : IllFormed [b] rest
  | brokenOff {part : List UInt8} {b : UInt8} (hp : Unfinished part)
      (hb : ∀ c, ¬ part ++ [b] <+: encodeChar c) (rest : List UInt8) : IllFormed part (b :: rest)

/-- All rounds on some bytes: what each of them but the last takes, the text, and what is left. -/
inductive Rounds : List (List UInt8) → List UInt8 → List Char → List UInt8 → Prop where
  | sound (text : List Char) : Rounds [] (encode text) text []
  | unfinished (text : List Char) {tail : List UInt8} (h : Unfinished tail) :
      Rounds [] (encode text ++ tail) text tail
  | illFormed (text : List Char) {part rest tail : List UInt8} {taken : List (List UInt8)}
      {more : List Char} (h : IllFormed part rest) (hrest : Rounds taken rest more tail) :
      Rounds ((encode text ++ part) :: taken) (encode text ++ part ++ rest)
        (text ++ replacement :: more) tail

theorem IllFormed.ne_nil (h : IllFormed part rest) : part ≠ [] := by
  cases h with
  | stray hb rest => exact List.cons_ne_nil _ _
  | brokenOff hp hb rest => exact hp.1

theorem IllFormed.run_eq (h : IllFormed part rest) :
    empty.run (part ++ rest) = (⟨[replacement], none⟩ : Decoder).run rest := by
  cases h with
  | @stray b hb rest =>
    rw [List.singleton_append, run_cons]
    simp only [empty, feed, feedLead, lead_eq_invalid_iff.2 hb]
  | @brokenOff part b hp hb rest =>
    obtain ⟨h, n, hn, rfl⟩ := exists_begins hp
    have ha : ¬ h.accepts b = true := fun ha => (hn.accepts_iff.1 ha).elim hb
    rw [run_append, empty, run_begins hn, run_cons, run_cons]
    simp only [feed, if_neg ha]

theorem IllFormed.decodeStream_eq (h : IllFormed part rest) :
    decodeStream (part ++ rest) = (replacement :: (decodeStream rest).1, (decodeStream rest).2) := by
  simp only [decodeStream, h.run_eq]
  rw [run_decoded]
  simp [text, Decoder.tail, empty]

namespace Rounds

variable {taken : List (List UInt8)}

theorem decodeStream_eq (h : Rounds taken bytes text tail) : decodeStream bytes = (text, tail) := by
  induction h with
  | sound text => exact decodeStream_encode text
  | unfinished text h => rw [decodeStream_encode_append, decodeStream_of_unfinished h, List.append_nil]
  | illFormed text h hrest ih =>
    rw [List.append_assoc, decodeStream_encode_append, h.decodeStream_eq, ih]

theorem nil_notMem (h : Rounds taken bytes text tail) : [] ∉ taken := by
  induction h with
  | sound text => exact List.not_mem_nil
  | unfinished text h => exact List.not_mem_nil
  | illFormed text h hrest ih =>
    exact List.not_mem_cons_of_ne_of_not_mem
      (List.append_ne_nil_of_right_ne_nil _ h.ne_nil).symm ih

theorem length_le (h : Rounds taken bytes text tail) : taken.length ≤ bytes.length := by
  induction h with
  | sound text => exact Nat.zero_le _
  | unfinished text h => exact Nat.zero_le _
  | illFormed text h hrest ih =>
    have hpart := List.length_pos_iff.2 h.ne_nil
    simp only [List.length_cons, List.length_append]
    omega

theorem encodeChar_append (c : Char) (h : Rounds taken bytes text tail) :
    ∃ taken', Rounds taken' (encodeChar c ++ bytes) (c :: text) tail := by
  cases h with
  | sound text => exact ⟨[], .sound (c :: text)⟩
  | unfinished text h =>
    rw [← List.append_assoc]
    exact ⟨[], .unfinished (c :: text) h⟩
  | illFormed text h hrest =>
    rw [← List.append_assoc, ← List.append_assoc]
    exact ⟨_, .illFormed (c :: text) h hrest⟩

end Rounds

theorem Held.Begins.front (hn : h.Begins n) (rest : List UInt8) :
    (∃ c rest', h.bytes ++ rest = encodeChar c ++ rest') ∨ Unfinished (h.bytes ++ rest) ∨
      ∃ part rest', h.bytes ++ rest = part ++ rest' ∧ IllFormed part rest' := by
  induction rest generalizing h n with
  | nil =>
    rw [List.append_nil]
    exact .inr (.inl hn.unfinished)
  | cons b rest ih =>
    by_cases ha : h.accepts b = true
    · rw [← List.singleton_append, ← List.append_assoc]
      by_cases hm : (h.push b).missing = 0
      · obtain ⟨c, hc⟩ := hn.completes ha hm
        exact .inl ⟨c, rest, by rw [hc]⟩
      · obtain ⟨n', hn'⟩ := hn.push ha hm
        exact ih hn'
    · have hb : ∀ c, ¬ h.bytes ++ [b] <+: encodeChar c := fun c hc => ha (hn.accepts_iff.2 ⟨c, hc⟩)
      exact .inr (.inr ⟨h.bytes, b :: rest, rfl, .brokenOff hn.unfinished hb rest⟩)

theorem front_cons (b : UInt8) (rest : List UInt8) :
    (∃ c rest', b :: rest = encodeChar c ++ rest') ∨ Unfinished (b :: rest) ∨
      ∃ part rest', b :: rest = part ++ rest' ∧ IllFormed part rest' := by
  cases hl : lead b with
  | character c => exact .inl ⟨c, rest, by rw [encodeChar_of_lead hl]; rfl⟩
  | opens h =>
    obtain ⟨hbytes, n, hn⟩ := begins_of_lead hl
    have hfront := hn.front rest
    rwa [hbytes, List.singleton_append] at hfront
  | invalid => exact .inr (.inr ⟨[b], rest, rfl, .stray (lead_eq_invalid_iff.1 hl) rest⟩)

/-- The rounds come to an end: each leaves less to the next than it found. -/
theorem exists_rounds (bytes : List UInt8) : ∃ taken text tail, Rounds taken bytes text tail := by
  induction hlength : bytes.length using Nat.strong_induction_on generalizing bytes with
  | _ length ih =>
    have later : ∀ {front rest : List UInt8}, bytes = front ++ rest → front ≠ [] →
        ∃ taken text tail, Rounds taken rest text tail := by
      intro front rest hsplit hfront
      have hpos := List.length_pos_iff.2 hfront
      have hshorter : rest.length < length := by
        rw [← hlength, hsplit, List.length_append]
        omega
      exact ih _ hshorter rest rfl
    cases bytes with
    | nil => exact ⟨[], [], [], .sound []⟩
    | cons b bytes =>
      obtain ⟨c, rest, hfront⟩ | hunfinished | ⟨part, rest, hfront, hpart⟩ := front_cons b bytes
      · obtain ⟨b', more, hc, -⟩ := encodeChar_shaped c
        obtain ⟨taken, text, tail, hrest⟩ := later hfront (hc ▸ List.cons_ne_nil b' more)
        obtain ⟨taken', hrounds⟩ := hrest.encodeChar_append c
        exact ⟨taken', c :: text, tail, hfront ▸ hrounds⟩
      · exact ⟨[], [], b :: bytes, .unfinished [] hunfinished⟩
      · obtain ⟨taken, text, tail, hrest⟩ := later hfront hpart.ne_nil
        exact ⟨_, _, tail, hfront ▸ Rounds.illFormed [] hpart hrest⟩

theorem Unfinished.length_le (h : Unfinished bytes) : bytes.length ≤ 3 := by
  obtain ⟨held, n, hn, rfl⟩ := exists_begins h
  cases hn <;> simp

/-- Bytes are decoded piece by piece, an unfinished character of at most three bytes waiting for the
next piece, and rounds on all bytes at once come to an end with the same text. -/
theorem decodeStream_streams (a b : List UInt8) :
    decodeStream (a ++ b) =
        ((decodeStream a).1 ++ (decodeStream ((decodeStream a).2 ++ b)).1,
          (decodeStream ((decodeStream a).2 ++ b)).2) ∧
      (decodeStream a).1 ++ decode (decodeStream a).2 = decode a ∧
      (decodeStream a).2 <:+ a ∧ (decodeStream a).2.length ≤ 3 ∧
      ((decodeStream a).2 = [] ∨ Unfinished (decodeStream a).2) ∧
      ∀ text tail,
        (∃ taken, Rounds taken a text tail ∧ [] ∉ taken ∧ taken.length ≤ a.length) ↔
          decodeStream a = (text, tail) := by
  have hend := unfinishedEnd_decodeStream a
  have htail : (decodeStream a).2 = [] ∨ Unfinished (decodeStream a).2 :=
    or_iff_not_imp_left.2 hend.unfinished
  refine ⟨decodeStream_append a b, ?_, hend.suffix, ?_, htail, fun text tail => ⟨?_, ?_⟩⟩
  · have hall := decode_append a []
    rw [List.append_nil, List.append_nil] at hall
    exact hall.symm
  · obtain hnil | hunfinished := htail
    · simp [hnil]
    · exact hunfinished.length_le
  · rintro ⟨taken, hrounds, -, -⟩
    exact hrounds.decodeStream_eq
  · intro hdecoded
    obtain ⟨taken, text', tail', hrounds⟩ := exists_rounds a
    obtain ⟨rfl, rfl⟩ := Prod.mk.inj (hdecoded.symm.trans hrounds.decodeStream_eq)
    exact ⟨taken, hrounds, hrounds.nil_notMem, hrounds.length_le⟩

/-- An overlong form and a surrogate are broken off at once, and the last character is held. -/
example : decodeStream [0xE0, 0x80, 0xED, 0xA0, 0x41, 0xF0, 0x9F, 0x98] =
    (['\uFFFD', '\uFFFD', '\uFFFD', '\uFFFD', 'A'], [0xF0, 0x9F, 0x98]) := by decide

end DebugControl.Utf8
