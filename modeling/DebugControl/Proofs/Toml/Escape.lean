import DebugControl.Toml.Quoted
import DebugControl.Toml.Writer
import Mathlib.Tactic.SplitIfs

/-!
# Escapes

Each character of a text with escapes stands for itself or behind a backslash; the reader of escapes
gives back the one that was written, whatever follows. So the short form with escapes holds every
text, and the short verbatim form holds those that have no control characters, no line feeds, and no
quotes of its own.
-/

namespace DebugControl.Toml

variable {c : Char} {w rest : List Char}

theorem ne_of_holds {p : Char → Bool} {x : Char} (hc : p c = true) (hx : p x = false) : c ≠ x := by
  rintro rfl
  exact Bool.false_ne_true (hx.symm.trans hc)

theorem isPrintable_of_not_isCode (h : isCode c = false) (hn : c ≠ '\n') :
    isPrintable c = true := by
  have hn' : c.toNat ≠ 10 := fun he => hn (Char.toNat_inj.1 he)
  simp only [isCode, isPrintable, Bool.or_eq_false_iff, Bool.and_eq_false_iff, Bool.or_eq_true,
    Bool.and_eq_true, decide_eq_true_eq, decide_eq_false_iff_not, beq_iff_eq, beq_eq_false_iff_ne]
    at h ⊢
  omega

theorem lt_of_isCode (h : isCode c = true) : c.toNat < 0x80 := by
  simp only [isCode, Bool.or_eq_true, Bool.and_eq_true, decide_eq_true_eq, beq_iff_eq] at h
  omega

theorem digitIn?_hexDigit {k : Nat} (h : k < 16) :
    Numeral.digitIn? 16 (Numeral.hexDigit true k) = some k := by
  revert k
  decide

theorem codePoint?_hexDigit (h : c.toNat < 0x100) (rest : List Char) :
    codePoint? 4 ('0' :: '0' :: Numeral.hexDigit true (c.toNat / 16) ::
      Numeral.hexDigit true (c.toNat % 16) :: rest) = some c := by
  have hzero : Numeral.digitIn? 16 '0' = some 0 := by decide
  have hhigh : Numeral.digitIn? 16 (Numeral.hexDigit true (c.toNat / 16)) = some (c.toNat / 16) :=
    digitIn?_hexDigit (by omega)
  have hlow : Numeral.digitIn? 16 (Numeral.hexDigit true (c.toNat % 16)) = some (c.toNat % 16) :=
    digitIn?_hexDigit (by omega)
  have hvalue : Numeral.valueIn 16 [0, 0, c.toNat / 16, c.toNat % 16] = c.toNat := by
    simp only [Numeral.valueIn, List.foldl_cons, List.foldl_nil]
    omega
  simp [codePoint?, hzero, hhigh, hlow, hvalue, Char.ofNat_toNat]
  omega

/-- What a reader of escapes takes for a character: the character itself, or a backslash and a code
that stands for it. -/
inductive Stands (c : Char) : List Char → Prop where
  | plain : isPrintable c = true → c ≠ '"' → c ≠ '\\' → Stands c [c]
  | escaped {code : List Char} :
      (∀ rest, escape? (code ++ rest) = some (c, code.length)) → Stands c ('\\' :: code)

theorem stands_writeChar (hq : c ≠ '"') (hn : c ≠ '\n') : Stands c (writeChar c) := by
  unfold writeChar
  split_ifs with hb ht hf hr hs hc
  · exact .escaped fun rest => by rw [hb]; rfl
  · exact .escaped fun rest => by rw [ht]; rfl
  · exact .escaped fun rest => by rw [hf]; rfl
  · exact .escaped fun rest => by rw [hr]; rfl
  · exact .escaped fun rest => by rw [hs]; rfl
  · refine .escaped fun rest => ?_
    have hcode := codePoint?_hexDigit (Nat.lt_trans (lt_of_isCode hc) (by decide)) rest
    exact congrArg (Option.map fun d => (d, 5)) hcode
  · exact .plain (isPrintable_of_not_isCode (Bool.eq_false_iff.2 hc) hn) hq hs

theorem Stands.head_ne (h : Stands c w) : ∃ d code, w = d :: code ∧ d ≠ '"' := by
  cases h with
  | plain _ hq _ => exact ⟨c, [], rfl, hq⟩
  | escaped _ => exact ⟨'\\', _, rfl, by decide⟩

theorem Stands.printable_of_head {d : Char} (h : Stands c w) {t : List Char}
    (hd : (w ++ t).head? = some d) : isPrintable d = true := by
  cases h with
  | plain hp _ _ =>
    obtain rfl := Option.some.inj hd
    exact hp
  | escaped _ =>
    obtain rfl := Option.some.inj hd
    decide

/-- Behind a code stands nothing that a backslash at the end of a line would reach over. -/
theorem continuation?_of_escape? {s : List Char} {p : Char × Nat} (h : escape? s = some p) :
    continuation? s = none := by
  have hlayout : layoutLength s = 0 := by
    unfold escape? at h
    split at h <;> first | rfl | exact absurd h.symm (Option.some_ne_none p)
  rw [continuation?, hlayout]
  rfl

/-! ## The short forms -/

theorem readBasic_skip (rest : List Char) :
    readBasic w.length (w ++ rest) = readBasic 0 rest := by
  induction w with
  | nil => rfl
  | cons c w ih => exact ih

theorem readBasic_stands (h : Stands c w) (rest : List Char) :
    readBasic 0 (w ++ rest) = onContent c (readBasic 0 rest) := by
  cases h with
  | plain hp hq hs =>
    rw [List.singleton_append, readBasic, if_neg hq, if_neg hs, if_pos hp]
  | @escaped code he =>
    rw [List.cons_append, readBasic, if_neg (by decide), if_pos rfl, he rest]
    exact congrArg (onContent c) (readBasic_skip rest)

theorem writeBasicBody_cons (c : Char) (s : List Char) :
    ∃ w, Stands c w ∧ writeBasicBody (c :: s) = w ++ writeBasicBody s := by
  refine ⟨_, ?_, rfl⟩
  split_ifs with hq hn
  · exact .escaped fun rest => by rw [hq]; rfl
  · exact .escaped fun rest => by rw [hn]; rfl
  · exact stands_writeChar hq hn

theorem readBasic_writeBasicBody (s rest : List Char) :
    readBasic 0 (writeBasicBody s ++ '"' :: rest) = some (s, rest) := by
  induction s with
  | nil => rfl
  | cons c s ih =>
    obtain ⟨w, hw, hbody⟩ := writeBasicBody_cons c s
    rw [hbody, List.append_assoc, readBasic_stands hw, ih]
    rfl

theorem readLiteral_append {s : List Char} (hcodes : ∀ c ∈ s, isCode c = false) (hn : '\n' ∉ s)
    (hq : '\'' ∉ s) (rest : List Char) :
    readLiteral (s ++ '\'' :: rest) = some (s, rest) := by
  induction s with
  | nil => rfl
  | cons c s ih =>
    obtain ⟨hc, hcodes⟩ := List.forall_mem_cons.1 hcodes
    have hprintable : isPrintable c = true :=
      isPrintable_of_not_isCode hc (List.ne_of_not_mem_cons hn).symm
    rw [List.cons_append, readLiteral, if_neg (List.ne_of_not_mem_cons hq).symm, if_pos hprintable,
      ih hcodes (List.not_mem_of_not_mem_cons hn) (List.not_mem_of_not_mem_cons hq)]
    rfl

end DebugControl.Toml
