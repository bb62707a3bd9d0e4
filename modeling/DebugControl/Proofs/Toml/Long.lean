import DebugControl.Proofs.Toml.Escape
import Mathlib.Data.List.TakeWhile

/-!
# The long forms

A long form ends where three quotes stand in a row. A text that has at most two of them in a row may
stand before them as it is, even if it ends with quotes: the reader counts the quotes of the whole
run and gives up to two of them to the content. Where escapes are allowed, each third quote is
escaped, so that the long form with escapes holds every text.
-/

namespace DebugControl.Toml

section Runs

variable {x : Char} {w rest : List Char}

theorem closeLong_replicate {k : Nat} (hk : k ≤ 2) (hrest : rest.head? ≠ some x) :
    closeLong x (List.replicate k x ++ (List.replicate 3 x ++ rest)) =
      some (List.replicate k x, rest) := by
  have hrun : ((List.replicate k x ++ (List.replicate 3 x ++ rest)).takeWhile (· == x)).length =
      k + 3 := by
    cases rest with
    | nil => simp
    | cons c rest =>
      have hc : c ≠ x := fun h => hrest (congrArg some h)
      simp [hc]
  have hdrop : (List.replicate k x ++ (List.replicate 3 x ++ rest)).drop (k + 3) = rest := by
    rw [← List.append_assoc, List.replicate_append_replicate]
    exact List.drop_left' List.length_replicate
  have hlong : ¬ k + 3 < 3 := by omega
  rw [closeLong, hrun]
  simp only [Nat.add_sub_cancel, Nat.min_eq_left hk, hdrop, if_neg hlong]

/-- Behind at most two quotes the closing ones are found if nothing else stands before them. -/
theorem closeLong_append (hrun : (w.takeWhile (· == x)).length ≤ 2) (hrest : rest.head? ≠ some x) :
    closeLong x (w ++ (List.replicate 3 x ++ rest)) =
      if w.all (· == x) then some (w, rest) else none := by
  split_ifs with hall
  · have hw : w = List.replicate w.length x :=
      List.eq_replicate_of_mem fun c hc => eq_of_beq (List.all_eq_true.1 hall c hc)
    have hlength : w.length ≤ 2 := by
      rw [hw] at hrun
      simpa using hrun
    have hclosed := closeLong_replicate hlength hrest
    rwa [← hw] at hclosed
  · have hproper : (w.takeWhile (· == x)).length ≠ w.length := by
      intro hlength
      have hsame := (List.takeWhile_prefix (· == x)).eq_of_length hlength
      exact hall (List.all_eq_true.2 (List.takeWhile_eq_self_iff.1 hsame))
    have htake : (w ++ (List.replicate 3 x ++ rest)).takeWhile (· == x) =
        w.takeWhile (· == x) := by
      rw [List.takeWhile_append, if_neg hproper]
    exact if_pos (htake ▸ Nat.lt_succ_of_le hrun)

theorem longestRun_mono (w : List Char) {p q : Nat} (h : p ≤ q) :
    longestRun x p w ≤ longestRun x q w := by
  induction w generalizing p q with
  | nil => exact h
  | cons c w ih =>
    unfold longestRun
    split_ifs with hc
    · exact ih (Nat.succ_le_succ h)
    · omega

theorem add_takeWhile_le_longestRun (q : Nat) (w : List Char) :
    q + (w.takeWhile (· == x)).length ≤ longestRun x q w := by
  induction w generalizing q with
  | nil => exact le_rfl
  | cons c w ih =>
    unfold longestRun
    split_ifs with hc
    · have hi := ih (q + 1)
      simp only [hc, List.takeWhile_cons, beq_self_eq_true, if_true, List.length_cons]
      omega
    · rw [List.takeWhile_cons_of_neg (by simpa using hc)]
      exact le_max_left _ _

theorem longestRun_tail_le (c : Char) (w : List Char) :
    longestRun x 0 w ≤ longestRun x 0 (c :: w) := by
  rw [longestRun]
  split_ifs with hc
  · exact longestRun_mono w (Nat.zero_le 1)
  · exact le_max_right _ _

theorem not_mem_of_longestRun_eq_zero {w : List Char} (h : longestRun x 0 w = 0) : x ∉ w := by
  induction w with
  | nil => exact List.not_mem_nil
  | cons c w ih =>
    have htail : longestRun x 0 w = 0 := Nat.le_zero.1 ((longestRun_tail_le c w).trans h.le)
    have hhead := add_takeWhile_le_longestRun (x := x) 0 (c :: w)
    have hc : c ≠ x := by
      rintro rfl
      simp [h] at hhead
    exact List.not_mem_cons_of_ne_of_not_mem hc.symm (ih htail)

end Runs

/-! ## The verbatim form -/

theorem readLongLiteral_quote (s : List Char) :
    readLongLiteral ('\'' :: s) =
      (closeLong '\'' ('\'' :: s)).orElse fun _ => onContent '\'' (readLongLiteral s) := by
  rw [readLongLiteral, if_pos rfl]
  cases closeLong '\'' ('\'' :: s) <;> rfl

theorem readLongLiteral_append {s rest : List Char} (hcodes : ∀ c ∈ s, isCode c = false)
    (hrun : longestRun '\'' 0 s ≤ 2) (hrest : rest.head? ≠ some '\'') :
    readLongLiteral (s ++ (List.replicate 3 '\'' ++ rest)) = some (s, rest) := by
  induction s with
  | nil =>
    have hclose : closeLong '\'' (List.replicate 3 '\'' ++ rest) = some ([], rest) :=
      closeLong_replicate (k := 0) (by decide) hrest
    exact (readLongLiteral_quote _).trans (congrArg (Option.orElse · _) hclose)
  | cons c s ih =>
    obtain ⟨hc, hcodes'⟩ := List.forall_mem_cons.1 hcodes
    have hi := ih hcodes' ((longestRun_tail_le c s).trans hrun)
    have hlead := (add_takeWhile_le_longestRun 0 (c :: s)).trans hrun
    have hclose := closeLong_append (by simpa using hlead) hrest
    by_cases hq : c = '\''
    · subst hq
      rw [List.cons_append, readLongLiteral_quote, ← List.cons_append, hclose, hi]
      split_ifs <;> rfl
    · have hr : c ≠ '\r' := by
        rintro rfl
        exact absurd hc (by decide)
      have hkept : c = '\n' ∨ isPrintable c = true := by
        by_cases hn : c = '\n'
        · exact .inl hn
        · exact .inr (isPrintable_of_not_isCode hc hn)
      rw [List.cons_append, readLongLiteral, if_neg hq, if_neg hr, if_pos hkept, hi]
      rfl

/-! ## The form with escapes -/

theorem readLongBasic_quote (s : List Char) :
    readLongBasic 0 ('"' :: s) =
      (closeLong '"' ('"' :: s)).orElse fun _ => onContent '"' (readLongBasic 0 s) := by
  rw [readLongBasic, if_pos rfl]
  cases closeLong '"' ('"' :: s) <;> rfl

theorem readLongBasic_skip (w rest : List Char) :
    readLongBasic w.length (w ++ rest) = readLongBasic 0 rest := by
  induction w with
  | nil => rfl
  | cons c w ih => exact ih

theorem readLongBasic_stands {c : Char} {w : List Char} (h : Stands c w) (rest : List Char) :
    readLongBasic 0 (w ++ rest) = onContent c (readLongBasic 0 rest) := by
  cases h with
  | plain hp hq hs =>
    have hr : c ≠ '\r' := ne_of_holds hp (by decide)
    rw [List.singleton_append, readLongBasic, if_neg hq, if_neg hs, if_neg hr, if_pos (.inr hp)]
  | @escaped code he =>
    rw [List.cons_append, readLongBasic, if_neg (by decide), if_pos rfl,
      continuation?_of_escape? (he rest), he rest]
    exact congrArg (onContent c) (readLongBasic_skip code rest)

theorem readLongBasic_newline (rest : List Char) :
    readLongBasic 0 ('\n' :: rest) = onContent '\n' (readLongBasic 0 rest) := rfl

/-- A quote after less than two stands as it is; whatever else is written begins with no quote, and
the reader takes it for the character. -/
theorem writeLongBody_cons {q : Nat} (hq : q ≤ 2) (c : Char) (s : List Char) :
    (c = '"' ∧ q < 2 ∧ writeLongBody q (c :: s) = '"' :: writeLongBody (q + 1) s) ∨
      ∃ d code, d ≠ '"' ∧ writeLongBody q (c :: s) = d :: code ++ writeLongBody 0 s ∧
        ∀ rest, readLongBasic 0 (d :: code ++ rest) = onContent c (readLongBasic 0 rest) := by
  rw [writeLongBody]
  split_ifs with hc hfull hn
  · subst hc
    have hstands : Stands '"' ['\\', '"'] := .escaped fun _ => rfl
    exact .inr ⟨'\\', ['"'], by decide, rfl, readLongBasic_stands hstands⟩
  · exact .inl ⟨hc, by omega, rfl⟩
  · subst hn
    exact .inr ⟨'\n', [], by decide, rfl, readLongBasic_newline⟩
  · have hstands := stands_writeChar hc hn
    obtain ⟨d, code, hw, hd⟩ := hstands.head_ne
    rw [hw] at hstands ⊢
    exact .inr ⟨d, code, hd, rfl, readLongBasic_stands hstands⟩

/-- No three quotes stand in a row where the reader may look for the end. -/
theorem add_takeWhile_writeLongBody_le {q : Nat} (hq : q ≤ 2) (s : List Char) :
    q + ((writeLongBody q s).takeWhile (· == '"')).length ≤ 2 := by
  induction s generalizing q with
  | nil => exact hq
  | cons c s ih =>
    obtain ⟨-, hlt, hbody⟩ | ⟨d, code, hd, hbody, -⟩ := writeLongBody_cons hq c s
    · have hi := ih (q := q + 1) hlt
      rw [hbody, List.takeWhile_cons_of_pos (by rfl), List.length_cons]
      omega
    · rw [hbody, List.cons_append, List.takeWhile_cons_of_neg (by simpa using hd)]
      exact hq

theorem writeLongBody_eq_self {q : Nat} (hq : q ≤ 2) {s : List Char}
    (h : ∀ d ∈ writeLongBody q s, d = '"') : writeLongBody q s = s := by
  induction s generalizing q with
  | nil => rfl
  | cons c s ih =>
    obtain ⟨hc, hlt, hbody⟩ | ⟨d, code, hd, hbody, -⟩ := writeLongBody_cons hq c s
    · rw [hbody] at h ⊢
      rw [hc, ih hlt (List.forall_mem_cons.1 h).2]
    · rw [hbody] at h
      exact absurd (h d List.mem_cons_self) hd

theorem readLongBasic_writeLongBody {q : Nat} (hq : q ≤ 2) {s rest : List Char}
    (hrest : rest.head? ≠ some '"') :
    readLongBasic 0 (writeLongBody q s ++ (List.replicate 3 '"' ++ rest)) = some (s, rest) := by
  induction s generalizing q with
  | nil =>
    have hclose : closeLong '"' (List.replicate 3 '"' ++ rest) = some ([], rest) :=
      closeLong_replicate (k := 0) (by decide) hrest
    exact (readLongBasic_quote _).trans (congrArg (Option.orElse · _) hclose)
  | cons c s ih =>
    obtain ⟨rfl, hlt, hbody⟩ | ⟨d, code, -, hbody, hread⟩ := writeLongBody_cons hq c s
    · -- The reader tries to close at every quote: that fails as long as the rest is not all quotes,
      -- and if it is, the quotes are the content themselves.
      have hlead := add_takeWhile_writeLongBody_le hq ('"' :: s)
      have hclose := closeLong_append (w := writeLongBody q ('"' :: s)) (by omega) hrest
      have hself := writeLongBody_eq_self hq (s := '"' :: s)
      rw [hbody] at hclose hself ⊢
      rw [List.cons_append, readLongBasic_quote, ← List.cons_append, hclose, ih hlt]
      split_ifs with hall
      · rw [hself fun d hd => eq_of_beq (List.all_eq_true.1 hall d hd)]
        rfl
      · rfl
    · rw [hbody, List.append_assoc, hread, ih (Nat.zero_le 2)]
      rfl

end DebugControl.Toml
