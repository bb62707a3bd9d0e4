import DebugControl.Proofs.Text.Cut
import DebugControl.Text.Blank

/-!
# Lines and blanks

A separator of one character stands in no piece, and pieces in which it does not stand are found
again wherever each of them is ended by it. Texts with the separator in between have the pieces of
both. A text without the separator is a part of the joined pieces exactly if it is a part of one of
them. Trimming leaves a part of a text that is blank at neither end, so that it does not matter
whether a line ends with a carriage return.
-/

namespace DebugControl.Text

section Pieces

variable {c : Char} {piece text : List Char}

theorem unbordered_singleton (c : Char) : Unbordered [c] := by
  intro p hp hne hwhole _
  obtain h | ⟨rest, rfl, hrest⟩ := List.prefix_cons_iff.1 hp
  · exact hne h
  · rw [List.prefix_nil.1 hrest] at hwhole
    exact hwhole rfl

theorem singleton_infix_iff : [c] <:+: text ↔ c ∈ text := by
  constructor
  · exact fun h => h.subset List.mem_cons_self
  · intro h
    obtain ⟨a, b, rfl⟩ := List.append_of_mem h
    exact ⟨a, b, by simp⟩

theorem cut_append_cons (a b : List Char) : cut [c] (a ++ c :: b) = cut [c] a ++ cut [c] b :=
  cut_append_separator (List.cons_ne_nil c []) (unbordered_singleton c) a b

theorem cut_of_not_mem (h : c ∉ piece) : cut [c] piece = [piece] :=
  cut_of_not_infix (List.cons_ne_nil c []) (mt singleton_infix_iff.1 h)

/-- Joined pieces without the separator are found again. -/
theorem cut_join {pieces : List (List Char)} (hne : pieces ≠ [])
    (h : ∀ piece ∈ pieces, c ∉ piece) : cut [c] (join [c] pieces) = pieces := by
  induction pieces with
  | nil => exact absurd rfl hne
  | cons piece pieces ih =>
    obtain ⟨hpiece, hrest⟩ := List.forall_mem_cons.1 h
    by_cases hp : pieces = []
    · rw [hp, join_singleton, cut_of_not_mem hpiece]
    · rw [join_cons _ _ hp, List.append_assoc, List.singleton_append, cut_append_cons,
        cut_of_not_mem hpiece, ih hp hrest, List.singleton_append]

theorem not_mem_of_mem_cut (h : piece ∈ cut [c] text) : c ∉ piece :=
  mt singleton_infix_iff.2 (not_infix_of_mem_cut (List.cons_ne_nil c []) h)

/-- There is one piece more than there are separators. -/
theorem length_cut_singleton (text : List Char) : (cut [c] text).length = text.count c + 1 := by
  rw [cut_eq_cutFrom (List.cons_ne_nil c [])]
  induction text with
  | nil => rfl
  | cons x text ih =>
    by_cases hx : x = c
    · subst hx
      simp [cutFrom, ih]
    · have hpre : ¬ [c].isPrefixOf (x :: text) = true := by simpa using fun h => hx h.symm
      obtain ⟨first, rest, hcut⟩ := List.exists_cons_of_ne_nil (cutFrom_ne_nil [c] 0 text)
      rw [hcut] at ih
      rw [cutFrom, if_neg hpre, hcut, List.count_cons_of_ne hx, ← ih]
      rfl

theorem cut_ended {pieces : List (List Char)} (h : ∀ piece ∈ pieces, c ∉ piece) :
    cut [c] (pieces.flatMap (· ++ [c])) = pieces ++ [[]] := by
  induction pieces with
  | nil => rfl
  | cons piece pieces ih =>
    obtain ⟨hpiece, hrest⟩ := List.forall_mem_cons.1 h
    rw [List.flatMap_cons, List.append_assoc, List.singleton_append, cut_append_cons,
      cut_of_not_mem hpiece, ih hrest, List.singleton_append, List.cons_append]

theorem prefix_of_prefix_append_cons {part a b : List Char} (hc : c ∉ part)
    (h : part <+: a ++ c :: b) : part <+: a := by
  rcases List.prefix_or_prefix_of_prefix h (List.prefix_append a _) with ha | ha
  · exact ha
  · obtain ⟨rest, rfl⟩ := ha
    have hrest : rest <+: c :: b := (List.prefix_append_right_inj a).1 h
    rcases List.prefix_cons_iff.1 hrest with rfl | ⟨more, rfl, -⟩
    · rw [List.append_nil]
    · exact absurd (List.mem_append_right a List.mem_cons_self) hc

theorem infix_append_cons_iff {part a b : List Char} (hc : c ∉ part) :
    part <:+: a ++ c :: b ↔ part <:+: a ∨ part <:+: b := by
  constructor
  · intro h
    induction a with
    | nil =>
      rcases List.infix_cons_iff.1 h with h | h
      · exact .inl (prefix_of_prefix_append_cons (a := []) hc h).isInfix
      · exact .inr h
    | cons x a ih =>
      rcases List.infix_cons_iff.1 h with h | h
      · exact .inl (prefix_of_prefix_append_cons (a := x :: a) hc h).isInfix
      · exact (ih h).imp_left fun ha => List.infix_cons_iff.2 (.inr ha)
  · rintro (h | h)
    · exact h.trans (List.prefix_append _ _).isInfix
    · exact h.trans ((List.suffix_cons c b).trans (List.suffix_append a _)).isInfix

/-- A text without the separator is a part of the joined pieces only within one of them. -/
theorem infix_join_iff {part : List Char} (hc : c ∉ part) (hpart : part ≠ [])
    (pieces : List (List Char)) :
    part <:+: join [c] pieces ↔ ∃ piece ∈ pieces, part <:+: piece := by
  induction pieces with
  | nil => simp [hpart]
  | cons piece pieces ih =>
    rw [List.exists_mem_cons_iff]
    by_cases hp : pieces = []
    · subst hp
      simp
    · rw [join_cons _ _ hp, List.append_assoc, List.singleton_append, infix_append_cons_iff hc, ih]

end Pieces

section Blanks

variable {text : List Char}

/-- A text that is blank at neither end. -/
structure Trimmed (text : List Char) : Prop where
  head : ∀ c, text.head? = some c → isBlank c = false
  last : ∀ c, text.getLast? = some c → isBlank c = false

theorem trimEnd_isPrefix (text : List Char) : trimEnd text <+: text := by
  rw [← List.reverse_suffix, trimEnd, List.reverse_reverse]
  exact List.dropWhile_suffix _

theorem trim_isInfix (text : List Char) : trim text <:+: text :=
  (trimEnd_isPrefix _).isInfix.trans (List.dropWhile_suffix _).isInfix

theorem isBlank_head?_dropWhile (text : List Char) {c : Char} (h : (text.dropWhile isBlank).head? = some c) :
    isBlank c = false := by
  have hnot := List.head?_dropWhile_not isBlank text
  rwa [h] at hnot

theorem trimmed_trim (text : List Char) : Trimmed (trim text) where
  head c h := by
    obtain ⟨rest, hrest⟩ := List.head?_eq_some_iff.1 h
    obtain ⟨more, hmore⟩ := trimEnd_isPrefix (text.dropWhile isBlank)
    refine isBlank_head?_dropWhile text ?_
    rw [← hmore, ← trim, hrest]
    rfl
  last c h := by
    rw [trim, trimEnd, List.getLast?_reverse] at h
    exact isBlank_head?_dropWhile _ h

theorem trim_append_blank {c : Char} (hc : isBlank c = true) (text : List Char) :
    trim (text ++ [c]) = trim text := by
  have hend : ∀ part, trimEnd (part ++ [c]) = trimEnd part := by
    intro part
    rw [trimEnd, List.reverse_append, List.reverse_singleton, List.singleton_append,
      List.dropWhile_cons_of_pos hc, trimEnd]
  unfold trim
  rw [List.dropWhile_append]
  split_ifs with hempty
  · rw [List.isEmpty_iff.1 hempty, List.dropWhile_cons_of_pos hc, List.dropWhile_nil]
  · exact hend _

theorem trim_append_blanks {blanks : List Char} (h : ∀ c ∈ blanks, isBlank c = true)
    (text : List Char) : trim (text ++ blanks) = trim text := by
  induction blanks generalizing text with
  | nil => rw [List.append_nil]
  | cons c blanks ih =>
    obtain ⟨hc, hrest⟩ := List.forall_mem_cons.1 h
    rw [List.append_cons, ih hrest, trim_append_blank hc]

theorem trim_blanks_append {blanks : List Char} (h : ∀ c ∈ blanks, isBlank c = true)
    (text : List Char) : trim (blanks ++ text) = trim text := by
  rw [trim, List.dropWhile_append_of_pos h, ← trim]

theorem trimEnd_of_last (h : ∀ c, text.getLast? = some c → isBlank c = false) :
    trimEnd text = text := by
  rcases List.eq_nil_or_concat' text with rfl | ⟨before, c, rfl⟩
  · rfl
  · have hc : ¬ isBlank c = true := by simp [h c (by simp)]
    rw [trimEnd, List.reverse_append, List.reverse_singleton, List.singleton_append,
      List.dropWhile_cons_of_neg hc, List.reverse_cons, List.reverse_reverse]

theorem Trimmed.trim_eq (h : Trimmed text) : trim text = text := by
  have hhead : text.dropWhile isBlank = text := by
    cases text with
    | nil => rfl
    | cons c rest => exact List.dropWhile_cons_of_neg (by simp [h.head c rfl])
  rw [trim, hhead, trimEnd_of_last h.last]

theorem dropReturn_isPrefix (line : List Char) : dropReturn line <+: line := by
  unfold dropReturn
  split_ifs
  · exact List.dropLast_prefix line
  · exact List.prefix_rfl

theorem trim_dropReturn (line : List Char) : trim (dropReturn line) = trim line := by
  unfold dropReturn
  split_ifs with hlast
  · obtain ⟨before, rfl⟩ := List.getLast?_eq_some_iff.1 hlast
    rw [List.dropLast_concat, trim_append_blank (by decide)]
  · rfl

/-- The lines of a text are its pieces without carriage returns, but for an empty last one. -/
theorem lines_eq_append_last (text : List Char) :
    ∃ before last, cut ['\n'] text = before ++ [last] ∧
      lines text = before.map dropReturn ++ if last = [] then [] else [last] := by
  have hne : cut ['\n'] text ≠ [] := cut_ne_nil (List.cons_ne_nil _ _) text
  obtain ⟨before, last, hcut⟩ := (List.eq_nil_or_concat' (cut ['\n'] text)).resolve_left hne
  refine ⟨before, last, hcut, ?_⟩
  unfold lines
  rw [hcut]
  by_cases hlast : last = []
  · simp [hlast]
  · simp [hlast]

theorem not_mem_of_mem_lines {line : List Char} (h : line ∈ lines text) : '\n' ∉ line := by
  have hpiece : ∃ piece ∈ cut ['\n'] text, line <:+: piece := by
    rcases List.mem_append.1 h with h | h
    · obtain ⟨piece, hp, rfl⟩ := List.mem_map.1 h
      exact ⟨piece, List.mem_of_mem_dropLast hp, (dropReturn_isPrefix piece).isInfix⟩
    · have hlast := (List.mem_filter.1 h).1
      exact ⟨line, List.mem_of_getLast? (Option.mem_toList.1 hlast), List.infix_rfl⟩
  obtain ⟨piece, hp, hline⟩ := hpiece
  intro hmem
  exact not_mem_of_mem_cut hp (hline.subset hmem)

end Blanks

end DebugControl.Text
