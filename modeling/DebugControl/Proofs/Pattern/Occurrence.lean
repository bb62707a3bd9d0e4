import DebugControl.Pattern.Reader
import DebugControl.Proofs.Pattern.Reach

/-!
# Occurrences in a text

An expression laid on a text leads from one position of the text to another: a step passes a
character of its set, and a look holds between the characters on both sides. `occursIn` decides
whether there are two such positions at all. For an expression between the looks at both ends of the
text it therefore decides whether the expression leads over the whole text.
-/

namespace DebugControl.Pattern

variable {bits : List Bool} {holds : Char → Bool} {text : List Char} {i j : Nat}

/-! ## Bits -/

theorem testBit_ofBits : (ofBits bits).testBit i = true ↔ bits[i]? = some true := by
  induction bits generalizing i with
  | nil => simp [ofBits]
  | cons b bits ih =>
    rw [ofBits]
    cases i with
    | zero =>
      cases b <;> simp [Nat.testBit_zero]
    | succ i =>
      rw [Nat.testBit_succ, List.getElem?_cons_succ, ← ih]
      have hhalf : (b.toNat + 2 * ofBits bits) / 2 = ofBits bits := by
        have hbit : b.toNat < 2 := Bool.toNat_lt b
        omega
      rw [hhalf]

theorem testBit_positions :
    (positions holds text).testBit i = true ↔ ∃ c, text[i]? = some c ∧ holds c = true := by
  rw [positions, testBit_ofBits, List.getElem?_map, Option.map_eq_some_iff]

def charBefore (text : List Char) : Nat → Option Char
  | 0 => none
  | i + 1 => text[i]?

theorem getElem?_betweenBits (holds : Option Char → Option Char → Bool) (before : Option Char) :
    (betweenBits holds before text)[i]? =
      if i ≤ text.length then some (holds (if i = 0 then before else charBefore text i) text[i]?)
      else none := by
  induction text generalizing before i with
  | nil => cases i <;> simp [betweenBits]
  | cons c text ih =>
    cases i with
    | zero => simp [betweenBits]
    | succ i =>
      rw [betweenBits, List.getElem?_cons_succ, ih]
      cases i <;> simp [charBefore]

theorem testBit_gaps {holds : Option Char → Option Char → Bool} :
    (gaps holds text).testBit i = true ↔
      i ≤ text.length ∧ holds (charBefore text i) text[i]? = true := by
  rw [gaps, testBit_ofBits, getElem?_betweenBits]
  cases i <;> simp [charBefore]

theorem ne_zero_iff_exists_testBit {n : Nat} : n ≠ 0 ↔ ∃ j, n.testBit j = true := by
  constructor
  · exact Nat.exists_testBit_of_ne_zero
  · rintro ⟨j, hj⟩ rfl
    simp at hj

/-! ## Texts -/

namespace Expr

variable {e : Regex}

/-- Whether an expression leads from one position of a text to another. -/
def SpansIn (e : Regex) (text : List Char) : Nat → Nat → Prop :=
  e.Spans (fun set i => ∃ c, text[i]? = some c ∧ set.contains c = true)
    (fun look i => i ≤ text.length ∧ look.holds (charBefore text i) text[i]? = true)

def MatchesWhole (e : Regex) (text : List Char) : Prop := e.SpansIn text 0 text.length

theorem occursIn_iff (he : e.Ordered) :
    e.occursIn text = true ↔ ∃ i j, i ≤ text.length ∧ e.SpansIn text i j := by
  have himage := isImage_reach (text.length + 1)
    (fun set : Unicode.CharSet => positions set.contains text)
    (fun look : Look => gaps look.holds text) he
    (fun set i hi => by
      obtain ⟨c, hc, -⟩ := testBit_positions.1 hi
      exact (List.getElem?_eq_some_iff.1 hc).1.trans (Nat.lt_succ_self _))
    (1 <<< (text.length + 1) - 1)
  simp only [IsImage, testBit_positions, testBit_gaps, Nat.one_shiftLeft,
    Nat.testBit_two_pow_sub_one, decide_eq_true_eq, Nat.lt_succ_iff] at himage
  rw [occursIn, bne_iff_ne, ne_zero_iff_exists_testBit, Nat.one_shiftLeft, exists_comm]
  exact exists_congr himage

theorem spansIn_textStart : (Expr.look .textStart : Regex).SpansIn text i j ↔ i = 0 ∧ j = 0 := by
  simp only [SpansIn, Spans, Look.holds, Option.isNone_iff_eq_none]
  cases i with
  | zero => simp [charBefore, eq_comm]
  | succ i =>
    rw [charBefore, List.getElem?_eq_none_iff]
    omega

theorem spansIn_textEnd :
    (Expr.look .textEnd : Regex).SpansIn text i j ↔ i = text.length ∧ j = text.length := by
  simp only [SpansIn, Spans, Look.holds, Option.isNone_iff_eq_none, List.getElem?_eq_none_iff]
  omega

/-- Between the looks at both ends an expression must lead over the whole text. -/
theorem occursIn_anchored_iff (he : e.Ordered) :
    (Expr.seq (.look .textStart) (.seq e (.look .textEnd)) : Regex).occursIn text = true ↔
      e.MatchesWhole text := by
  have hordered : (Expr.seq (.look .textStart) (.seq e (.look .textEnd)) : Regex).Ordered :=
    ⟨trivial, he, trivial⟩
  rw [occursIn_iff hordered]
  constructor
  · rintro ⟨i, j, -, k, hstart, l, hspans, hend⟩
    obtain ⟨rfl, rfl⟩ := spansIn_textStart.1 hstart
    obtain ⟨rfl, rfl⟩ := spansIn_textEnd.1 hend
    exact hspans
  · intro h
    exact ⟨0, text.length, Nat.zero_le _, 0, spansIn_textStart.2 ⟨rfl, rfl⟩, text.length, h,
      spansIn_textEnd.2 ⟨rfl, rfl⟩⟩

/-! ## The rest of a text -/

/-- Whether an expression leads from behind the beginning of a text to its end. -/
def MatchesRest (e : Regex) (before rest : List Char) : Prop :=
  e.SpansIn (before ++ rest) before.length (before ++ rest).length

variable {set : Unicode.CharSet} {before rest : List Char}

theorem matchesRest_nil : e.MatchesRest [] text ↔ e.MatchesWhole text := Iff.rfl

theorem matchesRest_textEnd : (Expr.look .textEnd : Regex).MatchesRest before rest ↔ rest = [] := by
  rw [MatchesRest, spansIn_textEnd, List.length_append, and_iff_left rfl, ← List.length_eq_zero_iff]
  omega

theorem spansIn_step : (Expr.step set : Regex).SpansIn (before ++ rest) before.length j ↔
    ∃ c more, rest = c :: more ∧ set.contains c = true ∧ j = (before ++ [c]).length := by
  rw [SpansIn, Spans, List.getElem?_append_right le_rfl, Nat.sub_self]
  cases rest with
  | nil => simp
  | cons c more =>
    constructor
    · rintro ⟨⟨d, hd, hset⟩, rfl⟩
      obtain rfl := Option.some.inj hd
      exact ⟨c, more, rfl, hset, by rw [List.length_append, List.length_singleton]⟩
    · rintro ⟨d, tail, heq, hset, rfl⟩
      obtain ⟨rfl, rfl⟩ := List.cons.inj heq
      exact ⟨⟨c, rfl, hset⟩, by rw [List.length_append, List.length_singleton]⟩

theorem matchesRest_step : (Expr.seq (.step set) e : Regex).MatchesRest before rest ↔
    ∃ c more, rest = c :: more ∧ set.contains c = true ∧ e.MatchesRest (before ++ [c]) more := by
  constructor
  · rintro ⟨k, hstep, hspans⟩
    obtain ⟨c, more, rfl, hc, rfl⟩ := spansIn_step.1 hstep
    rw [← List.singleton_append, ← List.append_assoc] at hspans
    exact ⟨c, more, rfl, hc, hspans⟩
  · rintro ⟨c, more, rfl, hc, hspans⟩
    refine ⟨_, spansIn_step.2 ⟨c, more, rfl, hc, rfl⟩, ?_⟩
    rw [← List.singleton_append, ← List.append_assoc]
    exact hspans

theorem iterated_step {n : Nat} :
    Iterated ((Expr.step set : Regex).SpansIn (before ++ rest)) n before.length j ↔
      ∃ word more, rest = word ++ more ∧ word.length = n ∧ (∀ c ∈ word, set.contains c = true) ∧
        j = (before ++ word).length := by
  induction n generalizing before rest with
  | zero =>
    constructor
    · intro h
      exact ⟨[], rest, rfl, rfl, nofun, by rw [List.append_nil]; exact h.symm⟩
    · rintro ⟨word, more, rfl, hword, -, rfl⟩
      obtain rfl := List.length_eq_zero_iff.1 hword
      rw [List.append_nil]
      rfl
  | succ n ih =>
    constructor
    · rintro ⟨k, hstep, hiter⟩
      obtain ⟨c, more, rfl, hc, rfl⟩ := spansIn_step.1 hstep
      rw [← List.singleton_append, ← List.append_assoc] at hiter
      obtain ⟨word, more, rfl, rfl, hword, rfl⟩ := ih.1 hiter
      refine ⟨c :: word, more, rfl, rfl, List.forall_mem_cons.2 ⟨hc, hword⟩, ?_⟩
      rw [List.append_assoc, List.singleton_append]
    · rintro ⟨word, more, rfl, hlength, hword, rfl⟩
      obtain ⟨c, word, rfl⟩ := List.exists_cons_of_length_eq_add_one hlength
      obtain ⟨hc, hword⟩ := List.forall_mem_cons.1 hword
      refine ⟨_, spansIn_step.2 ⟨c, word ++ more, rfl, hc, rfl⟩, ?_⟩
      rw [List.cons_append, ← List.singleton_append, ← List.append_assoc]
      refine ih.2 ⟨word, more, rfl, Nat.succ.inj hlength, hword, ?_⟩
      rw [List.append_assoc, List.singleton_append]

theorem matchesRest_many :
    (Expr.seq (.repetition (.step set) 0 none) e : Regex).MatchesRest before rest ↔
      ∃ word more, rest = word ++ more ∧ (∀ c ∈ word, set.contains c = true) ∧
        e.MatchesRest (before ++ word) more := by
  constructor
  · rintro ⟨k, ⟨n, -, -, hiter⟩, hspans⟩
    obtain ⟨word, more, rfl, -, hword, rfl⟩ := iterated_step.1 hiter
    rw [← List.append_assoc] at hspans
    exact ⟨word, more, rfl, hword, hspans⟩
  · rintro ⟨word, more, rfl, hword, hspans⟩
    refine ⟨(before ++ word).length, ⟨word.length, Nat.zero_le _, nofun, ?_⟩, ?_⟩
    · exact iterated_step.2 ⟨word, more, rfl, rfl, hword, rfl⟩
    · rw [← List.append_assoc]
      exact hspans

end Expr

end DebugControl.Pattern
