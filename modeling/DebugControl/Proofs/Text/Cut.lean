import DebugControl.Text.Cut
import Mathlib.Data.List.Infix

/-!
# Cutting and joining

Joining the pieces of a text gives the text back, for every separator that is not empty. What a
text ends with and a separator begins with is held back: `held` is the longest such part that is not
the whole separator, and `released` is the text before it. More text may be put behind the released
part without an occurrence of the separator lying across the border, provided that no proper
beginning of the separator is also an end of it. No piece holds the separator, and under the same
condition every occurrence of the separator is a border between two pieces.
-/

namespace DebugControl.Text

variable {sep : List Char}

theorem extendFirst_ne_nil (c : Char) (pieces : List (List Char)) :
    extendFirst c pieces ≠ [] := by
  cases pieces <;> exact List.cons_ne_nil _ _

theorem cutFrom_ne_nil (sep : List Char) (skip : Nat) (text : List Char) :
    cutFrom sep skip text ≠ [] := by
  induction text generalizing skip with
  | nil => cases skip <;> exact List.cons_ne_nil _ _
  | cons c rest ih =>
    cases skip with
    | succ skip => exact ih skip
    | zero =>
      rw [cutFrom]
      split
      · exact List.cons_ne_nil _ _
      · exact extendFirst_ne_nil _ _

theorem cut_eq_cutFrom (hsep : sep ≠ []) (text : List Char) : cut sep text = cutFrom sep 0 text :=
  if_neg hsep

theorem cut_ne_nil (hsep : sep ≠ []) (text : List Char) : cut sep text ≠ [] := by
  rw [cut_eq_cutFrom hsep]
  exact cutFrom_ne_nil _ _ _

theorem join_extendFirst (c : Char) {pieces : List (List Char)} (h : pieces ≠ []) :
    join sep (extendFirst c pieces) = c :: join sep pieces := by
  obtain ⟨piece, rest, rfl⟩ := List.exists_cons_of_ne_nil h
  cases rest <;> rfl

theorem join_cutFrom (hsep : sep ≠ []) (skip : Nat) (text : List Char) :
    join sep (cutFrom sep skip text) = text.drop skip := by
  induction text generalizing skip with
  | nil => cases skip <;> rfl
  | cons c rest ih =>
    cases skip with
    | succ skip => exact ih skip
    | zero =>
      rw [cutFrom]
      split_ifs with hp
      · obtain ⟨after, ha⟩ := List.isPrefixOf_iff_prefix.1 hp
        obtain ⟨d, tail, rfl⟩ := List.exists_cons_of_ne_nil hsep
        obtain ⟨rfl, rfl⟩ := List.cons.inj ha
        rw [join_cons _ _ (cutFrom_ne_nil _ _ _), ih]
        simp
      · rw [join_extendFirst c (cutFrom_ne_nil _ _ _), ih]
        rfl

theorem join_cut (hsep : sep ≠ []) (text : List Char) : join sep (cut sep text) = text := by
  rw [cut_eq_cutFrom hsep, join_cutFrom hsep, List.drop_zero]

/-! ## What is held back -/

/-- The end of a text that may be the beginning of a separator. -/
def held (sep text : List Char) : List Char := text.drop (text.length - heldLength sep text)

def released (sep text : List Char) : List Char := text.take (text.length - heldLength sep text)

/-- `part` is the longest beginning of `sep`, the whole of it apart, that `text` ends with. -/
structure IsHeld (sep text part : List Char) : Prop where
  suffix : part <:+ text
  beginning : part <+: sep
  proper : part ≠ sep
  longest : ∀ q, q <:+ text → q <+: sep → q ≠ sep → q.length ≤ part.length

theorem released_append_held (sep text : List Char) :
    released sep text ++ held sep text = text := List.take_append_drop _ _

theorem find?_reverse_range {p : Nat → Bool} (h0 : p 0) (n : Nat) :
    ∃ k, ((List.range (n + 1)).reverse.find? p) = some k ∧ k ≤ n ∧ p k ∧
      ∀ j ≤ n, p j → j ≤ k := by
  induction n with
  | zero => exact ⟨0, by simp [h0], le_rfl, h0, fun j hj _ => hj⟩
  | succ n ih =>
    rw [List.range_succ, List.reverse_append, List.reverse_singleton, List.singleton_append]
    by_cases hp : p (n + 1)
    · exact ⟨n + 1, by rw [List.find?_cons_of_pos hp], le_rfl, hp, fun j hj _ => hj⟩
    · obtain ⟨k, hk, hle, hpk, hmax⟩ := ih
      refine ⟨k, by rw [List.find?_cons_of_neg hp, hk], by omega, hpk, ?_⟩
      intro j hj hpj
      have hne : j ≠ n + 1 := fun h => hp (h ▸ hpj)
      exact hmax j (by omega) hpj

theorem heldLength_spec (hsep : sep ≠ []) (text : List Char) :
    heldLength sep text < sep.length ∧ sep.take (heldLength sep text) <:+ text ∧
      ∀ j < sep.length, sep.take j <:+ text → j ≤ heldLength sep text := by
  obtain ⟨n, hn⟩ : ∃ n, sep.length = n + 1 :=
    Nat.exists_eq_succ_of_ne_zero (fun h => hsep (List.length_eq_zero_iff.1 h))
  obtain ⟨k, hk, hle, hpk, hmax⟩ :=
    find?_reverse_range (p := fun k => (sep.take k).isSuffixOf text) (by simp) n
  have hl : heldLength sep text = k := by
    unfold heldLength
    rw [hn, hk]
    rfl
  rw [hl]
  refine ⟨by omega, List.isSuffixOf_iff_suffix.1 hpk, ?_⟩
  intro j hj hs
  exact hmax j (by omega) (List.isSuffixOf_iff_suffix.2 hs)

theorem held_eq_take (hsep : sep ≠ []) (text : List Char) :
    held sep text = sep.take (heldLength sep text) := by
  obtain ⟨hlt, hs, -⟩ := heldLength_spec hsep text
  have hd := List.suffix_iff_eq_drop.1 hs
  rw [List.length_take_of_le hlt.le] at hd
  exact hd.symm

theorem isHeld_held (hsep : sep ≠ []) (text : List Char) : IsHeld sep text (held sep text) := by
  obtain ⟨hlt, hs, hmax⟩ := heldLength_spec hsep text
  have hl : (held sep text).length = heldLength sep text := by
    rw [held_eq_take hsep, List.length_take_of_le hlt.le]
  refine ⟨List.drop_suffix _ _, ?_, ?_, ?_⟩
  · rw [held_eq_take hsep]
    exact List.take_prefix _ _
  · intro h
    rw [← hl, h] at hlt
    exact lt_irrefl _ hlt
  · intro q hq hp hne
    rw [hl]
    have hlq : q.length < sep.length := lt_of_le_of_ne hp.length_le fun h => hne (hp.eq_of_length h)
    rw [List.prefix_iff_eq_take.1 hp] at hq
    exact hmax q.length hlq hq

theorem IsHeld.eq_held {text part : List Char} (hsep : sep ≠ []) (h : IsHeld sep text part) :
    part = held sep text := by
  have h' := isHeld_held hsep text
  have hle := h.longest _ h'.suffix h'.beginning h'.proper
  have hge := h'.longest _ h.suffix h.beginning h.proper
  exact (List.suffix_of_suffix_length_le h.suffix h'.suffix hge).eq_of_length (by omega)

theorem IsHeld.eq_nil {before part x rest : List Char} (h : IsHeld sep (before ++ part) part)
    (hx : x <:+ before) (hs : x ++ part ++ rest = sep) (hr : rest ≠ []) : x = [] := by
  have hne : x ++ part ≠ sep := by
    intro he
    rw [he] at hs
    exact hr (List.append_right_eq_self.1 hs)
  have hlen := h.longest (x ++ part) (List.suffix_append_self_iff.2 hx) ⟨rest, hs⟩ hne
  rw [List.length_append] at hlen
  exact List.length_eq_zero_iff.1 (by omega)

theorem IsHeld.append {before part more q : List Char} (h : IsHeld sep (before ++ part) part)
    (hq : IsHeld sep (part ++ more) q) : IsHeld sep (before ++ (part ++ more)) q := by
  refine ⟨hq.suffix.trans (List.suffix_append _ _), hq.beginning, hq.proper, ?_⟩
  intro q' hs hb hp
  by_cases hl : q'.length ≤ (part ++ more).length
  · exact hq.longest q' (List.suffix_of_suffix_length_le hs (List.suffix_append _ _) hl) hb hp
  -- otherwise more would have been held before
  · exfalso
    obtain ⟨x, rfl⟩ : part ++ more <:+ q' :=
      List.suffix_of_suffix_length_le (List.suffix_append _ _) hs (by omega)
    obtain ⟨rest, hrest⟩ := hb
    have hne : more ++ rest ≠ [] := by
      intro he
      obtain ⟨rfl, rfl⟩ := List.append_eq_nil_iff.1 he
      exact hp (by simpa using hrest)
    have hx := h.eq_nil (List.suffix_append_self_iff.1 hs)
      (by rw [← hrest]; simp only [List.append_assoc]) hne
    simp [hx] at hl

theorem held_append (hsep : sep ≠ []) (text more : List Char) :
    held sep (text ++ more) = held sep (held sep text ++ more) := by
  have h : IsHeld sep (released sep text ++ held sep text) (held sep text) := by
    rw [released_append_held]
    exact isHeld_held hsep text
  have ha := h.append (isHeld_held hsep (held sep text ++ more))
  rw [← List.append_assoc, released_append_held] at ha
  exact (ha.eq_held hsep).symm

theorem released_append (hsep : sep ≠ []) (text more : List Char) :
    released sep (text ++ more) = released sep text ++ released sep (held sep text ++ more) := by
  have h : released sep (text ++ more) ++ held sep (text ++ more) =
      released sep text ++ released sep (held sep text ++ more) ++ held sep (text ++ more) := by
    rw [released_append_held, held_append hsep, List.append_assoc, released_append_held,
      ← List.append_assoc, released_append_held]
  exact List.append_cancel_right h

/-! ## Occurrences across a border -/

/-- No beginning of the separator, the empty and the whole one apart, is also an end of it. -/
def Unbordered (sep : List Char) : Prop :=
  ∀ p, p <+: sep → p ≠ [] → p ≠ sep → ¬ p <:+ sep

theorem unbordered_iff :
    Unbordered sep ↔ ∀ k < sep.length, 0 < k → ¬ sep.take k <:+ sep := by
  constructor
  · intro hu k hk h0
    have hl : (sep.take k).length = k := List.length_take_of_le hk.le
    apply hu _ (List.take_prefix k sep)
    · intro he
      rw [he, List.length_nil] at hl
      omega
    · intro he
      rw [he] at hl
      omega
  · intro h p hp h0 hne
    have hlt : p.length < sep.length :=
      lt_of_le_of_ne hp.length_le fun he => hne (hp.eq_of_length he)
    rw [List.prefix_iff_eq_take.1 hp]
    exact h _ hlt (List.length_pos_iff.2 h0)

instance : Decidable (Unbordered sep) := decidable_of_iff' _ unbordered_iff

/-- No occurrence of the separator begins in `a` and ends in `b`. -/
def Clear (sep a b : List Char) : Prop :=
  ∀ x y, x ++ y = sep → x ≠ [] → y ≠ [] → x <:+ a → ¬ y <+: b

theorem Clear.tail {c : Char} {a b : List Char} (h : Clear sep (c :: a) b) : Clear sep a b :=
  fun x y hxy hx hy hs => h x y hxy hx hy (hs.trans (List.suffix_cons c a))

theorem Clear.isPrefixOf {a b : List Char} (h : Clear sep a b) (ha : a ≠ []) :
    sep.isPrefixOf (a ++ b) = sep.isPrefixOf a := by
  rw [Bool.eq_iff_iff, List.isPrefixOf_iff_prefix, List.isPrefixOf_iff_prefix]
  refine ⟨?_, fun hp => hp.trans (List.prefix_append _ _)⟩
  intro hp
  by_contra hn
  obtain ⟨y, rfl⟩ : a <+: sep := by
    obtain h1 | h1 := List.prefix_or_prefix_of_prefix hp (List.prefix_append a b)
    · exact absurd h1 hn
    · exact h1
  have hy : y ≠ [] := by
    rintro rfl
    exact hn (by simp)
  exact h a y rfl ha hy List.suffix_rfl (List.prefix_append_right_inj a |>.1 hp)

theorem Clear.of_append {a b c : List Char} (h : Clear sep (a ++ b) c) : Clear sep b c :=
  fun x y hxy hx hy hs => h x y hxy hx hy (hs.trans (List.suffix_append a b))

theorem Clear.append_prefix {a b c d : List Char} (h : Clear sep a b) (he : a ++ b = c ++ sep ++ d)
    (hlt : c.length < a.length) : c ++ sep <+: a := by
  rw [List.append_assoc] at he
  obtain ⟨x, rfl⟩ : c <+: a :=
    List.prefix_of_prefix_length_le ⟨sep ++ d, he.symm⟩ (List.prefix_append a b) hlt.le
  have hx : x ≠ [] := by
    rintro rfl
    simp at hlt
  rw [List.append_assoc, List.append_right_inj] at he
  rw [List.prefix_append_right_inj]
  by_contra hn
  obtain ⟨y, rfl⟩ : x <+: sep :=
    (List.prefix_or_prefix_of_prefix ⟨b, he⟩ (List.prefix_append sep d)).resolve_right hn
  have hy : y ≠ [] := by
    rintro rfl
    exact hn (by simp)
  rw [List.append_assoc, List.append_right_inj] at he
  exact h x y rfl hx hy (List.suffix_append c x) ⟨d, he.symm⟩

/-- Between a released text and the text that follows it no occurrence lies across the border. -/
theorem IsHeld.clear {before part more : List Char} (h : IsHeld sep (before ++ part) part)
    (hu : Unbordered sep) {b : List Char} (hb : b <+: part ++ more) : Clear sep before b := by
  intro x y hxy hx hy hs hp
  have hyb := hp.trans hb
  by_cases hle : y.length ≤ part.length
  -- the separator would end with a beginning of what is held
  · have hyp : y <+: part := List.prefix_of_prefix_length_le hyb (List.prefix_append _ _) hle
    have hne : y ≠ sep := by
      intro he
      rw [he] at hxy
      exact hx (List.append_left_eq_self.1 hxy)
    exact hu y (hyp.trans h.beginning) hy hne ⟨x, hxy⟩
  -- more would have been held
  · obtain ⟨rest, rfl⟩ : part <+: y :=
      List.prefix_of_prefix_length_le (List.prefix_append _ _) hyb (by omega)
    have hr : rest ≠ [] := by
      rintro rfl
      simp at hle
    exact hx (h.eq_nil hs (by rw [List.append_assoc, hxy]) hr)

/-- What is held of a separator itself is its longest border. -/
theorem unbordered_iff_held (hsep : sep ≠ []) : Unbordered sep ↔ held sep sep = [] := by
  have hheld := isHeld_held hsep sep
  constructor
  · intro hu
    by_contra hne
    exact hu _ hheld.beginning hne hheld.proper hheld.suffix
  · intro hnil p hp hne hproper hsuffix
    have hlen := hheld.longest p hsuffix hp hproper
    rw [hnil, List.length_nil, Nat.le_zero] at hlen
    exact hne (List.length_eq_zero_iff.1 hlen)

theorem append_prefix_released (hsep : sep ≠ []) (hu : Unbordered sep) (a b : List Char) :
    a ++ sep <+: released sep (a ++ sep ++ b) := by
  have hheld := isHeld_held hsep (a ++ sep ++ b)
  have hsplit := congrArg List.length (released_append_held sep (a ++ sep ++ b))
  have hshort : (held sep (a ++ sep ++ b)).length ≤ b.length := by
    by_contra hlong
    rw [not_le] at hlong
    obtain ⟨x, hx⟩ : b <:+ held sep (a ++ sep ++ b) :=
      List.suffix_of_suffix_length_le (List.suffix_append _ b) hheld.suffix hlong.le
    have hlen := congrArg List.length hx
    have hproper : (held sep (a ++ sep ++ b)).length < sep.length :=
      lt_of_le_of_ne hheld.beginning.length_le fun he =>
        hheld.proper (hheld.beginning.eq_of_length he)
    rw [List.length_append] at hlen
    have hbegins : x <+: sep := List.IsPrefix.trans ⟨b, hx⟩ hheld.beginning
    have hends : x <:+ sep := by
      have hsuffix := hheld.suffix
      rw [← hx, List.suffix_append_self_iff] at hsuffix
      exact List.suffix_of_suffix_length_le hsuffix (List.suffix_append a sep) (by omega)
    refine hu x hbegins ?_ ?_ hends
    · rintro rfl
      rw [List.length_nil] at hlen
      omega
    · rintro rfl
      omega
  have hle : (a ++ sep).length ≤ (released sep (a ++ sep ++ b)).length := by
    have hall : (a ++ sep ++ b).length = (a ++ sep).length + b.length := List.length_append
    rw [List.length_append, hall] at hsplit
    omega
  exact List.prefix_of_prefix_length_le (List.prefix_append _ b) (List.take_prefix _ _) hle

/-! ## Separators as borders between pieces -/

theorem extendFirst_append (c : Char) {pieces : List (List Char)} (h : pieces ≠ [])
    (more : List (List Char)) : extendFirst c (pieces ++ more) = extendFirst c pieces ++ more := by
  obtain ⟨piece, rest, rfl⟩ := List.exists_cons_of_ne_nil h
  rfl

theorem Unbordered.clear (hu : Unbordered sep) (a b : List Char) : Clear sep a (sep ++ b) := by
  intro x y hxy hx hy _ hp
  have hlen := congrArg List.length hxy
  have hx0 := List.length_pos_iff.2 hx
  rw [List.length_append] at hlen
  have hne : y ≠ sep := fun he => by rw [he] at hlen; omega
  have hbegins : y <+: sep :=
    List.prefix_of_prefix_length_le hp (List.prefix_append sep b) (by omega)
  exact hu y hbegins hy hne ⟨x, hxy⟩

theorem cutFrom_length_append (part text : List Char) :
    cutFrom sep part.length (part ++ text) = cutFrom sep 0 text := by
  induction part with
  | nil => rfl
  | cons _ part ih => exact ih

theorem cutFrom_append_separator (hsep : sep ≠ []) (hu : Unbordered sep) (a b : List Char)
    (skip : Nat) (hk : skip ≤ a.length) :
    cutFrom sep skip (a ++ (sep ++ b)) = cutFrom sep skip a ++ cutFrom sep 0 b := by
  induction a generalizing skip with
  | nil =>
    obtain rfl : skip = 0 := by simpa using hk
    obtain ⟨c, rest, rfl⟩ := List.exists_cons_of_ne_nil hsep
    have hp : (c :: rest).isPrefixOf (c :: (rest ++ b)) = true :=
      List.isPrefixOf_iff_prefix.2 (List.prefix_append (c :: rest) b)
    have hfirst : cutFrom (c :: rest) 0 (c :: (rest ++ b)) =
        [] :: cutFrom (c :: rest) rest.length (rest ++ b) := if_pos hp
    rw [List.nil_append, List.cons_append, hfirst, cutFrom_length_append]
    rfl
  | cons c a ih =>
    cases skip with
    | succ skip => exact ih skip (by simpa using hk)
    | zero =>
      have hpre := (hu.clear (c :: a) b).isPrefixOf (List.cons_ne_nil c a)
      rw [List.cons_append] at hpre
      rw [List.cons_append, cutFrom, cutFrom, hpre]
      split_ifs with hp
      · have hlen := (List.isPrefixOf_iff_prefix.1 hp).length_le
        rw [List.length_cons] at hlen
        rw [ih _ (by omega), List.cons_append]
      · rw [ih 0 (Nat.zero_le _), extendFirst_append c (cutFrom_ne_nil _ _ _)]

/-- A separator without borders is found wherever it stands. -/
theorem cut_append_separator (hsep : sep ≠ []) (hu : Unbordered sep) (a b : List Char) :
    cut sep (a ++ (sep ++ b)) = cut sep a ++ cut sep b := by
  rw [cut_eq_cutFrom hsep, cut_eq_cutFrom hsep, cut_eq_cutFrom hsep]
  exact cutFrom_append_separator hsep hu a b 0 (Nat.zero_le _)

theorem cutFrom_of_not_infix {text : List Char} (h : ¬ sep <:+: text) :
    cutFrom sep 0 text = [text] := by
  induction text with
  | nil => rfl
  | cons c text ih =>
    have hp : ¬ sep.isPrefixOf (c :: text) = true := fun hp =>
      h (List.isPrefixOf_iff_prefix.1 hp).isInfix
    rw [cutFrom, if_neg hp, ih fun hi => h (hi.trans (List.suffix_cons c text).isInfix)]
    rfl

theorem cut_of_not_infix (hsep : sep ≠ []) {text : List Char} (h : ¬ sep <:+: text) :
    cut sep text = [text] := by
  rw [cut_eq_cutFrom hsep, cutFrom_of_not_infix h]

theorem isPrefix_of_cutFrom {text first : List Char} {rest : List (List Char)}
    (h : cutFrom sep 0 text = first :: rest) : first <+: text := by
  induction text generalizing first rest with
  | nil =>
    obtain ⟨rfl, -⟩ := List.cons.inj h
    exact List.nil_prefix
  | cons c text ih =>
    rw [cutFrom] at h
    split_ifs at h with hp
    · obtain ⟨rfl, -⟩ := List.cons.inj h
      exact List.nil_prefix
    · obtain ⟨piece, more, hcut⟩ := List.exists_cons_of_ne_nil (cutFrom_ne_nil sep 0 text)
      rw [hcut] at h
      obtain ⟨rfl, -⟩ := List.cons.inj h
      exact (List.prefix_cons_inj c).2 (ih hcut)

theorem not_infix_of_mem_cutFrom (hsep : sep ≠ []) {skip : Nat} {text piece : List Char}
    (h : piece ∈ cutFrom sep skip text) : ¬ sep <:+: piece := by
  induction text generalizing skip piece with
  | nil =>
    have hpiece : piece = [] := by cases skip <;> exact List.mem_singleton.1 h
    rw [hpiece, List.infix_nil]
    exact hsep
  | cons c text ih =>
    cases skip with
    | succ skip => exact ih h
    | zero =>
      rw [cutFrom] at h
      split_ifs at h with hp
      · obtain rfl | h := List.mem_cons.1 h
        · rw [List.infix_nil]
          exact hsep
        · exact ih h
      · obtain ⟨first, rest, hcut⟩ := List.exists_cons_of_ne_nil (cutFrom_ne_nil sep 0 text)
        rw [hcut] at h
        obtain rfl | h := List.mem_cons.1 h
        · intro hi
          rcases List.infix_cons_iff.1 hi with hi | hi
          · have hbegins := hi.trans ((List.prefix_cons_inj c).2 (isPrefix_of_cutFrom hcut))
            exact hp (List.isPrefixOf_iff_prefix.2 hbegins)
          · exact ih (hcut ▸ List.mem_cons_self) hi
        · exact ih (hcut ▸ List.mem_cons_of_mem first h)

theorem not_infix_of_mem_cut (hsep : sep ≠ []) {text piece : List Char}
    (h : piece ∈ cut sep text) : ¬ sep <:+: piece := by
  rw [cut_eq_cutFrom hsep] at h
  exact not_infix_of_mem_cutFrom hsep h

end DebugControl.Text
