import DebugControl.Proofs.Text.Numeral
import DebugControl.Proofs.Toml.Escape
import DebugControl.Toml.Reader

/-!
# Numbers read back

The decimal digits of a natural number read as that number, and as nothing else: they are no date or
time, since a dash or a colon would have to follow the first digits, and no float, since neither a
point nor an exponent follows the last.
-/

namespace DebugControl.Toml

open Numeral

variable {n : Nat} {cs rest : List Char}

/-- What follows a value that the writer has written: the end of a line or of an item. -/
inductive Ends : List Char → Prop where
  | line (rest : List Char) : Ends ('\n' :: rest)
  | item (rest : List Char) : Ends (',' :: rest)
  | array (rest : List Char) : Ends (']' :: rest)

theorem digitIn?_digitChar {d : Nat} (h : d < 10) : digitIn? 10 (Nat.digitChar d) = some d := by
  revert d
  decide

theorem mapM_digitIn?_toDigits (n : Nat) :
    ∃ ds, (Nat.toDigits 10 n).mapM (digitIn? 10) = some ds ∧ valueIn 10 ds = n := by
  induction n using Nat.strongRecOn with
  | _ n ih =>
    rw [Nat.toDigits_eq_if (by decide)]
    split_ifs with hn
    · exact ⟨[n], by simp [digitIn?_digitChar hn], by simp [valueIn]⟩
    · obtain ⟨ds, hds, hvalue⟩ := ih (n / 10) (by omega)
      have hlast := digitIn?_digitChar (Nat.mod_lt n (by decide : 0 < 10))
      refine ⟨ds ++ [n % 10], by simp [hds, hlast], ?_⟩
      rw [valueIn] at hvalue
      rw [valueIn, List.foldl_append, hvalue, List.foldl_cons, List.foldl_nil]
      omega

theorem moreDigits_append {ds : List Nat} (hcs : cs.mapM (digitIn? 10) = some ds)
    (hrest : Ends rest) : moreDigits 10 (cs ++ rest) = (ds, rest) := by
  induction cs generalizing ds with
  | nil =>
    obtain rfl : [] = ds := Option.some.inj hcs
    cases hrest <;> rfl
  | cons c cs ih =>
    simp only [List.mapM_cons, Option.bind_eq_bind, Option.bind_eq_some_iff, Option.pure_def,
      Option.some.injEq] at hcs
    obtain ⟨d, hd, ds, hds, rfl⟩ := hcs
    simp [moreDigits, hd, ih hds]

theorem sign_of_isDigit {c : Char} (hc : c.isDigit = true) (s : List Char) :
    sign (c :: s) = (false, c :: s) := by
  have hplus : c ≠ '+' := ne_of_holds hc (by decide)
  have hminus : c ≠ '-' := ne_of_holds hc (by decide)
  simp [sign, hplus, hminus]

theorem decimal?_toDigits (n : Nat) (hrest : Ends rest) :
    ∃ ds, decimal? (Nat.toDigits 10 n ++ rest) = some (false, ds, rest) ∧ valueIn 10 ds = n := by
  by_cases hn : n = 0
  · subst hn
    exact ⟨[0], rfl, rfl⟩
  · obtain ⟨ds, hds, hvalue⟩ := mapM_digitIn?_toDigits n
    obtain ⟨c, cs, hcs, hc, hzero⟩ := toDigits_cons n
    refine ⟨ds, ?_, hvalue⟩
    rw [hcs] at hds ⊢
    simp only [List.mapM_cons, Option.bind_eq_bind, Option.bind_eq_some_iff, Option.pure_def,
      Option.some.injEq] at hds
    obtain ⟨d, hd, ds', hds', rfl⟩ := hds
    simp [decimal?, sign_of_isDigit hc, hzero hn, digits?, hd, moreDigits_append hds' hrest]

/-! ## What digits are not -/

theorem isSome_of_mapM {α β : Type} {f : α → Option β} {l : List α} {r : List β}
    (h : l.mapM f = some r) : ∀ a ∈ l, (f a).isSome = true := by
  induction l generalizing r with
  | nil => exact fun a ha => absurd ha List.not_mem_nil
  | cons b l ih =>
    simp only [List.mapM_cons, Option.bind_eq_bind, Option.bind_eq_some_iff] at h
    obtain ⟨b', hb, r', hr, -⟩ := h
    exact List.forall_mem_cons.2 ⟨by rw [hb]; rfl, ih hr⟩

theorem field?_eq_some {width low high m : Nat} {s t : List Char}
    (h : field? width low high s = some (m, t)) :
    t = s.drop width ∧ ∀ c ∈ s.take width, (digit? c).isSome = true := by
  simp only [field?, Option.bind_eq_bind, Option.bind_eq_some_iff, Option.ite_none_right_eq_some,
    Option.some.injEq, Prod.mk.injEq] at h
  obtain ⟨ds, hds, -, -, rfl⟩ := h
  exact ⟨rfl, isSome_of_mapM hds⟩

/-- A field of digits lies before what is none, and is followed by that or by what comes earlier. -/
theorem char?_after_field {width low high m : Nat} {c x : Char} {t : List Char}
    (hcs : ∀ d ∈ cs, d ≠ x) (hc : digit? c = none) (hx : c ≠ x)
    (h : field? width low high (cs ++ c :: rest) = some (m, t)) : char? x t = none := by
  obtain ⟨rfl, hdigits⟩ := field?_eq_some h
  have hwidth : width ≤ cs.length := by
    refine Nat.le_of_not_lt fun hlong => ?_
    have htake : c ∈ (cs ++ c :: rest).take width := by
      obtain ⟨k, hk⟩ := Nat.exists_eq_add_of_lt hlong
      rw [hk, Nat.add_assoc, List.take_length_add_append, List.take_succ_cons]
      exact List.mem_append_right _ List.mem_cons_self
    have hsome := hdigits c htake
    rw [hc] at hsome
    exact absurd hsome Bool.false_ne_true
  rw [List.drop_append_of_le_length hwidth]
  cases hd : cs.drop width with
  | nil => exact if_neg hx
  | cons d later => exact if_neg (hcs d (List.mem_of_mem_drop (hd ▸ List.mem_cons_self)))

theorem date?_eq_none {c : Char} (hcs : ∀ d ∈ cs, d ≠ '-') (hc : digit? c = none) (hx : c ≠ '-') :
    date? (cs ++ c :: rest) = none := by
  cases h : field? 4 0 9999 (cs ++ c :: rest) with
  | none => simp [date?, h]
  | some p => simp [date?, h, char?_after_field hcs hc hx h]

theorem time?_eq_none {c : Char} (hcs : ∀ d ∈ cs, d ≠ ':') (hc : digit? c = none) (hx : c ≠ ':') :
    time? (cs ++ c :: rest) = none := by
  cases h : field? 2 0 23 (cs ++ c :: rest) with
  | none => simp [time?, h]
  | some p => simp [time?, h, char?_after_field hcs hc hx h]

theorem readMoment_toDigits (n : Nat) (hrest : Ends rest) :
    readMoment (Nat.toDigits 10 n ++ rest) = none := by
  have hne : ∀ x : Char, x.isDigit = false → ∀ d ∈ Nat.toDigits 10 n, d ≠ x := fun x hx d hd =>
    ne_of_holds (Nat.isDigit_of_mem_toDigits (by decide) (by decide) hd) hx
  obtain ⟨c, tail, hc, hdash, hcolon, rfl⟩ :
      ∃ c tail, digit? c = none ∧ c ≠ '-' ∧ c ≠ ':' ∧ rest = c :: tail := by
    cases hrest with
    | line rest => exact ⟨_, rest, by decide, by decide, by decide, rfl⟩
    | item rest => exact ⟨_, rest, by decide, by decide, by decide, rfl⟩
    | array rest => exact ⟨_, rest, by decide, by decide, by decide, rfl⟩
  rw [readMoment, date?_eq_none (hne '-' (by decide)) hc hdash]
  exact congrArg (Option.map _) (time?_eq_none (hne ':' (by decide)) hc hcolon)

theorem readFloat_toDigits (n : Nat) (hrest : Ends rest) :
    readFloat (Nat.toDigits 10 n ++ rest) = none := by
  obtain ⟨ds, hdecimal, -⟩ := decimal?_toDigits n hrest
  have hfinite : readFinite (Nat.toDigits 10 n ++ rest) = none := by
    rw [readFinite, hdecimal]
    cases hrest <;> rfl
  have hnamed : readNamed (Nat.toDigits 10 n ++ rest) = none := by
    obtain ⟨c, cs, hcs, hc, -⟩ := toDigits_cons n
    have hi : c ≠ 'i' := ne_of_holds hc (by decide)
    have hn : c ≠ 'n' := ne_of_holds hc (by decide)
    simp [readNamed, hcs, sign_of_isDigit hc, hi, hn]
  rw [readFloat, hfinite, hnamed]
  rfl

theorem not_based_toDigits {n : Nat} {c : Char} {t : List Char} (hrest : Ends rest)
    (h : Nat.toDigits 10 n ++ rest = '0' :: c :: t) : c ≠ 'x' ∧ c ≠ 'o' ∧ c ≠ 'b' := by
  by_cases h0 : n = 0
  · subst h0
    have hc : rest = c :: t := (List.cons.inj h).2
    subst hc
    cases hrest <;> decide
  · obtain ⟨d, cs, hcs, -, hzero⟩ := toDigits_cons n
    rw [hcs] at h
    exact absurd (List.cons.inj h).1 (hzero h0)

theorem readInteger_toDigits (hn : n < integerLimit) (hrest : Ends rest) :
    readInteger (Nat.toDigits 10 n ++ rest) = some (.integer n, rest) := by
  obtain ⟨ds, hdecimal, hvalue⟩ := decimal?_toDigits n hrest
  have hrange : inRange n = some (.integer n) := by
    unfold inRange
    -- The limit is a large literal; that there is one is all that matters.
    generalize integerLimit = limit at hn ⊢
    rw [if_pos (by omega)]
  unfold readInteger
  split
  · next h => exact absurd rfl (not_based_toDigits hrest h).1
  · next h => exact absurd rfl (not_based_toDigits hrest h).2.1
  · next h => exact absurd rfl (not_based_toDigits hrest h).2.2
  · rw [hdecimal, Option.bind_eq_bind, Option.bind_some]
    dsimp only
    rw [if_neg Bool.false_ne_true, hvalue, hrange]
    rfl

theorem readScalar_toDigits (hn : n < integerLimit) (hrest : Ends rest) :
    readScalar (Nat.toDigits 10 n ++ rest) = some (.integer n, rest) := by
  obtain ⟨c, cs, hcs, hc, -⟩ := toDigits_cons n
  have ht : c ≠ 't' := ne_of_holds hc (by decide)
  have hf : c ≠ 'f' := ne_of_holds hc (by decide)
  have hdouble : c ≠ '"' := ne_of_holds hc (by decide)
  have hsingle : c ≠ '\'' := ne_of_holds hc (by decide)
  have hquoted : readQuoted (Nat.toDigits 10 n ++ rest) = none := by
    simp [hcs, readQuoted, hdouble, hsingle]
  unfold readScalar
  split
  · next h =>
    rw [hcs] at h
    exact absurd (List.cons.inj h).1 ht
  · next h =>
    rw [hcs] at h
    exact absurd (List.cons.inj h).1 hf
  · rw [hquoted, readMoment_toDigits n hrest, readFloat_toDigits n hrest,
      readInteger_toDigits hn hrest]
    rfl

end DebugControl.Toml
