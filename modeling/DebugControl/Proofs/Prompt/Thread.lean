import DebugControl.Proofs.Pattern.Occurrence
import DebugControl.Proofs.Text.Numeral
import DebugControl.Prompt
import Mathlib.Data.List.Basic

/-!
# The prompt of a thread

The pattern of the thread prompt accepts exactly the lines that consist of a name, a positive number
in brackets, a space, and then spaces and angle brackets up to the end. Such a line has one opening
bracket, so that its parts are determined: what may be put behind a prompt, and in front of it, is
what its last and its first part consist of.
-/

namespace DebugControl.Prompt

open Pattern Unicode

def IsNameChar (c : Char) : Prop := c.isAlphanum = true ∨ c = '_' ∨ c = '-'

def IsFiller (c : Char) : Prop := c = ' ' ∨ c = '>'

/-- The lines that show the prompt of a thread. -/
def ThreadPrompt (line : Line) : Prop :=
  ∃ (name : List Char) (number : Nat) (filler : List Char),
    line = name ++ '[' :: (Nat.toDigits 10 number ++ ']' :: ' ' :: filler) ∧
      name ≠ [] ∧ (∀ c ∈ name, IsNameChar c) ∧ 1 ≤ number ∧ ∀ c ∈ filler, IsFiller c

/-! ## Sets of the pattern -/

def nameSet : CharSet := ⟨[45, 46, 48, 58, 65, 91, 95, 96, 97, 123]⟩

def fillerSet : CharSet := ⟨[32, 33, 62, 63]⟩

variable {c : Char} {line : Line}

theorem liesIn_nil (n : Nat) : CharSet.liesIn false [] n = false := rfl

theorem liesIn_cons_cons (low high : Nat) (rest : List Nat) (n : Nat) :
    CharSet.liesIn false (low :: high :: rest) n = true ↔
      low ≤ n ∧ (n < high ∨ CharSet.liesIn false rest n = true) := by
  rw [CharSet.liesIn]
  split_ifs with hlow
  · exact ⟨nofun, fun h => absurd h.1 (Nat.not_le.2 hlow)⟩
  · rw [Bool.not_false, CharSet.liesIn, and_iff_right (Nat.not_lt.1 hlow)]
    split_ifs with hhigh
    · exact ⟨fun _ => .inl hhigh, fun _ => rfl⟩
    · exact (or_iff_right hhigh).symm

theorem contains_range {low high : Nat} :
    (CharSet.range low high).contains c = true ↔ low ≤ c.toNat ∧ c.toNat ≤ high := by
  rw [CharSet.contains, CharSet.range, liesIn_cons_cons, liesIn_nil,
    or_iff_left Bool.false_ne_true, Nat.lt_succ_iff]

theorem contains_single {d : Char} : (CharSet.single d).contains c = true ↔ c = d := by
  rw [CharSet.single, contains_range, ← Char.toNat_inj]
  omega

theorem between_iff (low high : UInt32) : low ≤ c.val ∧ c.val ≤ high ↔
    low.toNat ≤ c.toNat ∧ c.toNat ≤ high.toNat := by
  rw [UInt32.le_iff_toNat_le, UInt32.le_iff_toNat_le, Char.toNat_val]

theorem isAlphanum_iff_toNat : c.isAlphanum = true ↔
    48 ≤ c.toNat ∧ c.toNat ≤ 57 ∨ 65 ≤ c.toNat ∧ c.toNat ≤ 90 ∨ 97 ≤ c.toNat ∧ c.toNat ≤ 122 := by
  have hupper : c.isUpper = true ↔ 65 ≤ c.toNat ∧ c.toNat ≤ 90 :=
    decide_eq_true_iff.trans (between_iff 65 90)
  have hlower : c.isLower = true ↔ 97 ≤ c.toNat ∧ c.toNat ≤ 122 :=
    Bool.and_eq_true_iff.trans
      ((and_congr decide_eq_true_iff decide_eq_true_iff).trans (between_iff 97 122))
  have hdigit : c.isDigit = true ↔ 48 ≤ c.toNat ∧ c.toNat ≤ 57 := Char.isDigit_iff_toNat
  change (c.isUpper || c.isLower || c.isDigit) = true ↔ _
  rw [Bool.or_eq_true, Bool.or_eq_true, hupper, hlower, hdigit]
  omega

theorem isNameChar_iff_toNat : IsNameChar c ↔
    48 ≤ c.toNat ∧ c.toNat ≤ 57 ∨ 65 ≤ c.toNat ∧ c.toNat ≤ 90 ∨ 97 ≤ c.toNat ∧ c.toNat ≤ 122 ∨
      c.toNat = 95 ∨ c.toNat = 45 := by
  rw [IsNameChar, isAlphanum_iff_toNat, ← Char.toNat_inj, ← Char.toNat_inj]
  simp only [Char.reduceToNat]
  omega

theorem contains_nameSet : nameSet.contains c = true ↔ IsNameChar c := by
  rw [isNameChar_iff_toNat]
  simp only [CharSet.contains, nameSet, liesIn_cons_cons, liesIn_nil, Bool.false_eq_true, or_false]
  omega

theorem contains_fillerSet : fillerSet.contains c = true ↔ IsFiller c := by
  rw [IsFiller, ← Char.toNat_inj, ← Char.toNat_inj]
  simp only [CharSet.contains, fillerSet, liesIn_cons_cons, liesIn_nil, Bool.false_eq_true,
    or_false, Char.reduceToNat]
  omega

theorem contains_digits : (CharSet.range 48 57).contains c = true ↔ c.isDigit = true := by
  rw [contains_range, Char.isDigit_iff_toNat]
  rfl

theorem contains_positiveDigits :
    (CharSet.range 49 57).contains c = true ↔ c.isDigit = true ∧ c ≠ '0' := by
  rw [contains_range, Char.isDigit_iff_toNat, Ne, ← Char.toNat_inj]
  simp only [Char.reduceToNat]
  omega

/-! ## The pattern -/

def threadNumber : Pattern.Regex :=
  .seq (.step (.single '[')) (.seq (.step (.range 49 57))
    (.seq (.repetition (.step (.range 48 57)) 0 none) (.seq (.step (.single ']'))
      (.seq (.step (.single ' ')) (.seq (.repetition (.step fillerSet) 0 none)
        (.look .textEnd))))))

/-- What the pattern of the thread prompt means. -/
def threadRegex : Pattern.Regex :=
  .seq (.step nameSet) (.seq (.repetition (.step nameSet) 0 none) threadNumber)

theorem new_threadPromptPattern : Prompt.new Notice.threadPromptPattern =
    .ok ⟨Notice.threadPromptPattern,
      .seq (.look .textStart) (.seq threadRegex (.look .textEnd))⟩ := rfl

theorem threadRegex_ordered : threadRegex.Ordered := by
  simp [threadRegex, threadNumber, Expr.Ordered]

theorem matchesRest_threadNumber {before rest : List Char} :
    threadNumber.MatchesRest before rest ↔ ∃ number filler,
      rest = '[' :: (Nat.toDigits 10 number ++ ']' :: ' ' :: filler) ∧ 1 ≤ number ∧
        ∀ c ∈ filler, IsFiller c := by
  simp only [threadNumber, Expr.matchesRest_step, Expr.matchesRest_many, Expr.matchesRest_textEnd,
    contains_single, contains_digits, contains_positiveDigits, contains_fillerSet]
  constructor
  · rintro ⟨_, _, rfl, rfl, c, _, rfl, ⟨hdigit, hzero⟩, digits, _, rfl, hdigits, _, _, rfl, rfl,
      _, _, rfl, rfl, filler, _, rfl, hfiller, rfl⟩
    obtain ⟨number, hpos, hnumber⟩ :=
      Numeral.exists_toDigits_eq hzero (List.forall_mem_cons.2 ⟨hdigit, hdigits⟩)
    refine ⟨number, filler, ?_, hpos, hfiller⟩
    rw [hnumber, List.append_nil]
    rfl
  · rintro ⟨number, filler, rfl, hpos, hfiller⟩
    obtain ⟨c, digits, hnumber, hdigit, hzero⟩ := Numeral.toDigits_cons number
    have hdigits : ∀ d ∈ c :: digits, d.isDigit = true := by
      intro d hd
      rw [← hnumber] at hd
      exact Nat.isDigit_of_mem_toDigits (by decide) (by decide) hd
    have hdigits := (List.forall_mem_cons.1 hdigits).2
    rw [hnumber]
    exact ⟨'[', _, rfl, rfl, c, _, rfl, ⟨hdigit, hzero (by omega)⟩, digits, _, rfl, hdigits,
      ']', _, rfl, rfl, ' ', _, rfl, rfl, filler, [], (List.append_nil filler).symm, hfiller, rfl⟩

theorem matchesWhole_threadRegex : threadRegex.MatchesWhole line ↔ ThreadPrompt line := by
  rw [← Expr.matchesRest_nil]
  simp only [threadRegex, Expr.matchesRest_step, Expr.matchesRest_many, contains_nameSet,
    matchesRest_threadNumber]
  constructor
  · rintro ⟨c, _, rfl, hc, name, _, rfl, hname, number, filler, rfl, hpos, hfiller⟩
    exact ⟨c :: name, number, filler, rfl, List.cons_ne_nil _ _,
      List.forall_mem_cons.2 ⟨hc, hname⟩, hpos, hfiller⟩
  · rintro ⟨name, number, filler, rfl, hne, hname, hpos, hfiller⟩
    obtain ⟨c, name, rfl⟩ := List.exists_cons_of_ne_nil hne
    obtain ⟨hc, hname⟩ := List.forall_mem_cons.1 hname
    exact ⟨c, _, rfl, hc, name, _, rfl, hname, number, filler, rfl, hpos, hfiller⟩

/-! ## Before and behind a prompt -/

theorem not_mem_of_not_isNameChar {name : List Char} (hname : ∀ c ∈ name, IsNameChar c)
    (hc : ¬ IsNameChar c) : c ∉ name := fun hmem => hc (hname c hmem)

theorem not_mem_toDigits (hc : c.isDigit = false) (number : Nat) : c ∉ Nat.toDigits 10 number := by
  intro hmem
  rw [Nat.isDigit_of_mem_toDigits (by decide) (by decide) hmem] at hc
  exact absurd hc nofun

theorem not_mem_filler {filler : List Char} (hfiller : ∀ c ∈ filler, IsFiller c)
    (hspace : c ≠ ' ') (hangle : c ≠ '>') : c ∉ ' ' :: filler := by
  rw [List.mem_cons, not_or]
  exact ⟨hspace, fun hmem => (hfiller c hmem).elim hspace hangle⟩

/-- A prompt has one opening and one closing bracket, so that a line determines its parts. -/
theorem threadPrompt_parts {name digits filler : List Char}
    (h : ThreadPrompt (name ++ '[' :: (digits ++ ']' :: ' ' :: filler))) :
    (∀ c ∈ name, IsNameChar c) ∧ ∀ c ∈ filler, IsFiller c := by
  obtain ⟨name', number, filler', hline, -, hname, -, hfiller⟩ := h
  have hopening : ¬ IsNameChar '[' := by
    rw [isNameChar_iff_toNat]
    decide
  have hbehind : '[' ∉ Nat.toDigits 10 number ++ ']' :: ' ' :: filler' := by
    rw [List.mem_append, List.mem_cons, not_or, not_or]
    exact ⟨not_mem_toDigits rfl number, nofun, not_mem_filler hfiller nofun nofun⟩
  obtain ⟨rfl, -, hrest⟩ := (List.append_cons_inj_of_notMem
    (not_mem_of_not_isNameChar hname hopening) hbehind).1 hline.symm
  obtain ⟨-, -, hfillers⟩ := (List.append_cons_inj_of_notMem
    (not_mem_toDigits (c := ']') rfl number) (not_mem_filler hfiller nofun nofun)).1 hrest
  obtain rfl := (List.cons.inj hfillers).2
  exact ⟨hname, hfiller⟩

/-- The pattern of the thread prompt can be read, and accepts the prompts of threads and nothing
else: nothing but filler may stand behind a prompt, and nothing but a part of the name before it. -/
theorem threadPrompt_exact :
    ∃ p, Prompt.new Notice.threadPromptPattern = .ok p ∧
      (∀ line, p.isMatch line = true ↔ ThreadPrompt line) ∧
      ∀ line, ThreadPrompt line →
        (∀ after, p.isMatch (line ++ after) = true ↔ ∀ c ∈ after, IsFiller c) ∧
        ∀ before, p.isMatch (before ++ line) = true ↔ ∀ c ∈ before, IsNameChar c := by
  refine ⟨_, new_threadPromptPattern, ?_⟩
  have hmatch : ∀ line, Prompt.isMatch ⟨Notice.threadPromptPattern,
      .seq (.look .textStart) (.seq threadRegex (.look .textEnd))⟩ line = true ↔
        ThreadPrompt line := by
    intro line
    rw [isMatch, Expr.occursIn_anchored_iff threadRegex_ordered, matchesWhole_threadRegex]
  refine ⟨hmatch, ?_⟩
  rintro _ ⟨name, number, filler, rfl, hne, hname, hpos, hfiller⟩
  constructor
  · intro after
    rw [hmatch]
    simp only [List.append_assoc, List.cons_append]
    constructor
    · intro h c hc
      exact (threadPrompt_parts h).2 c (List.mem_append_right _ hc)
    · intro hafter
      exact ⟨name, number, filler ++ after, rfl, hne, hname, hpos,
        List.forall_mem_append.2 ⟨hfiller, hafter⟩⟩
  · intro before
    rw [hmatch, ← List.append_assoc]
    constructor
    · intro h c hc
      exact (threadPrompt_parts h).1 c (List.mem_append_left _ hc)
    · intro hbefore
      exact ⟨before ++ name, number, filler, rfl, List.append_ne_nil_of_right_ne_nil _ hne,
        List.forall_mem_append.2 ⟨hbefore, hname⟩, hpos, hfiller⟩

/-- A value that is echoed behind a prompt hides it. -/
theorem threadPrompt_exact_echo :
    ∃ p, Prompt.new Notice.threadPromptPattern = .ok p ∧ p.isMatch "a[89] ".toList = true ∧
      ¬ p.isMatch "a[89] = 10".toList = true := by
  obtain ⟨p, hnew, hmatch, hparts⟩ := threadPrompt_exact
  have hline : ThreadPrompt "a[89] ".toList :=
    ⟨['a'], 89, [], rfl, nofun, by simp [IsNameChar], by decide, nofun⟩
  have hecho : ¬ IsFiller '=' := by simp [IsFiller]
  refine ⟨p, hnew, (hmatch _).2 hline, fun h => hecho ?_⟩
  exact ((hparts _ hline).1 "= 10".toList).1 h '=' (by decide)

end DebugControl.Prompt
