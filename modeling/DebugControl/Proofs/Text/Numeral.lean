import DebugControl.Text.Numeral
import Mathlib.Data.List.Induction
import Mathlib.Data.Nat.Digits.Defs

/-!
# Numerals and their limit

A numeral that can be read is below the limit, and the decimal digits of every number below the
limit read as that number. The digits that do not begin with a zero are those of the positive
numbers.
-/

namespace DebugControl.Numeral

variable {limit value n : Nat} {text : List Char}

theorem accumulate_lt (hvalue : value < limit) (h : accumulate limit value text = .ok n) :
    n < limit := by
  induction text generalizing value with
  | nil =>
    obtain rfl := Except.ok.inj h
    exact hvalue
  | cons c text ih =>
    rw [accumulate] at h
    split at h
    · exact absurd h nofun
    · next d _ =>
      by_cases hnext : value * 10 + d < limit
      · exact ih hnext (by simpa [hnext] using h)
      · simp [hnext] at h

theorem read_lt (hlimit : 0 < limit) (h : read limit text = .ok n) : n < limit := by
  unfold read at h
  split at h
  · exact absurd h nofun
  · exact absurd h nofun
  · exact accumulate_lt hlimit h
  · exact accumulate_lt hlimit h

theorem digit?_digitChar {d : Nat} (h : d < 10) : digit? (Nat.digitChar d) = some d := by
  revert d
  decide

theorem accumulate_append (limit value : Nat) (first second : List Char) :
    accumulate limit value (first ++ second) =
      (accumulate limit value first).bind fun value => accumulate limit value second := by
  induction first generalizing value with
  | nil => rfl
  | cons c first ih =>
    rw [List.cons_append, accumulate, accumulate]
    cases digit? c with
    | none => rfl
    | some d =>
      dsimp only
      rw [ih]
      split_ifs <;> rfl

/-- The induction is on the number of digits; the last of them is the remainder. -/
theorem accumulate_toDigits (h : n < limit) : accumulate limit 0 (Nat.toDigits 10 n) = .ok n := by
  induction n using Nat.strongRecOn with
  | _ n ih =>
    rw [Nat.toDigits_eq_if (by decide)]
    split_ifs with hn
    · simp [accumulate, digit?_digitChar hn, h]
    · have hfirst := ih (n / 10) (by omega) (by omega)
      have hvalue : n / 10 * 10 + n % 10 = n := Nat.div_add_mod' n 10
      have hlast := digit?_digitChar (Nat.mod_lt n (by decide : 0 < 10))
      rw [accumulate_append, hfirst]
      simp [Except.bind, accumulate, hlast, hvalue, h]

theorem read_toDigits (h : n < limit) : read limit (Nat.toDigits 10 n) = .ok n := by
  have hread := accumulate_toDigits h
  obtain ⟨c, cs, hcs⟩ := List.exists_cons_of_ne_nil (Nat.toDigits_ne_nil (n := n) (b := 10))
  have hdigit : c.isDigit = true :=
    Nat.isDigit_of_mem_toDigits (b := 10) (n := n) (by decide) (by decide)
      (by rw [hcs]; exact List.mem_cons_self)
  have hplus : c ≠ '+' := by
    rintro rfl
    exact absurd hdigit (by decide)
  rw [hcs] at hread ⊢
  unfold read
  split <;> simp_all

theorem toDigits_cons (n : Nat) :
    ∃ c cs, Nat.toDigits 10 n = c :: cs ∧ c.isDigit = true ∧ (n ≠ 0 → c ≠ '0') := by
  induction n using Nat.strongRecOn with
  | _ n ih =>
    rw [Nat.toDigits_eq_if (by decide)]
    split_ifs with hlt
    · have hdigit : ∀ d < 10, (Nat.digitChar d).isDigit = true ∧ (d ≠ 0 → Nat.digitChar d ≠ '0') := by
        decide
      exact ⟨_, [], rfl, hdigit n hlt⟩
    · obtain ⟨c, cs, hcs, hc, hzero⟩ := ih (n / 10) (by omega)
      exact ⟨c, cs ++ [Nat.digitChar (n % 10)], by rw [hcs, List.cons_append], hc,
        fun _ => hzero (by omega)⟩

theorem exists_digitChar {c : Char} (hc : c.isDigit = true) : ∃ d < 10, Nat.digitChar d = c := by
  obtain ⟨hlow, hhigh⟩ : 48 ≤ c.toNat ∧ c.toNat ≤ 57 := by
    simpa [Char.isDigit, UInt32.le_iff_toNat_le] using hc
  have hall : ∀ n : Fin 10, Nat.digitChar n = Char.ofNat (48 + n) := by decide
  refine ⟨c.toNat - 48, by omega, ?_⟩
  have h := hall ⟨c.toNat - 48, by omega⟩
  rw [h, Nat.add_sub_of_le hlow, Char.ofNat_toNat]

theorem exists_toDigits_eq {c : Char} {digits : List Char} (hzero : c ≠ '0')
    (hdigits : ∀ d ∈ c :: digits, d.isDigit = true) :
    ∃ n, 1 ≤ n ∧ Nat.toDigits 10 n = c :: digits := by
  induction digits using List.reverseRecOn with
  | nil =>
    obtain ⟨n, hn, rfl⟩ := exists_digitChar (hdigits c List.mem_cons_self)
    have hpos : n ≠ 0 := by
      rintro rfl
      exact hzero rfl
    exact ⟨n, Nat.pos_of_ne_zero hpos, Nat.toDigits_of_lt_base hn⟩
  | append_singleton digits d ih =>
    have hfirst : ∀ d ∈ c :: digits, d.isDigit = true := fun d hd =>
      hdigits d (List.mem_append_left _ hd)
    have hlast : d.isDigit = true :=
      hdigits d (List.mem_append_right (c :: digits) List.mem_cons_self)
    obtain ⟨n, hn, hn'⟩ := ih hfirst
    obtain ⟨k, hk, rfl⟩ := exists_digitChar hlast
    refine ⟨10 * n + k, by omega, ?_⟩
    rw [← Nat.toDigits_append_toDigits (by decide) hn hk, hn', Nat.toDigits_of_lt_base hk]
    rfl

end DebugControl.Numeral
