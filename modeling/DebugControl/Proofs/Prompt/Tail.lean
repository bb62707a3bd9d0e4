import DebugControl.Proofs.Prompt
import Mathlib.Order.Bounds.Image
import Mathlib.Order.Lattice.Nat

/-!
# The first prompt in the tail

A prompt is found at the least index among the last lines whose line shows it. So the lines in front
of the tail only move the index, and a prompt that is found does not get lost when the tail becomes
longer or when the simple prompt will do as well.
-/

namespace DebugControl.Prompt

variable {p : Prompt} {simple flag : Bool} {lines before : List Line} {tail longer i : Nat}

/-- The indices among the last `tail` ones whose line shows the prompt. -/
def shownIn (p : Prompt) (simple : Bool) (lines : List Line) (tail : Nat) : Set Nat :=
  {i | lines.length ≤ i + tail ∧ ∃ h : i < lines.length, p.Shows simple lines[i]}

/-! ## Least indices -/

theorem findIdx?_eq_some_iff_isLeast {α : Type} {q : α → Bool} {xs : List α} {i : Nat} :
    xs.findIdx? q = some i ↔ IsLeast {k | ∃ h : k < xs.length, q xs[k] = true} i := by
  rw [List.findIdx?_eq_some_iff_getElem]
  constructor
  · rintro ⟨hi, hq, hfirst⟩
    refine ⟨⟨hi, hq⟩, ?_⟩
    rintro k ⟨_, hk⟩
    by_contra hlt
    exact hfirst k (Nat.lt_of_not_le hlt) hk
  · rintro ⟨⟨hi, hq⟩, hleast⟩
    refine ⟨hi, hq, fun k hlt hk => ?_⟩
    exact absurd (hleast ⟨hlt.trans hi, hk⟩) (Nat.not_le.2 hlt)

theorem isLeast_image_add {s : Set Nat} {n i : Nat} :
    IsLeast ((n + ·) '' s) i ↔ ∃ k, IsLeast s k ∧ n + k = i := by
  have hmono : StrictMono (n + ·) := fun _ _ h => Nat.add_lt_add_left h n
  constructor
  · intro h
    obtain ⟨k, -, rfl⟩ := h.1
    exact ⟨k, hmono.map_isLeast.1 h, rfl⟩
  · rintro ⟨k, hk, rfl⟩
    exact hmono.map_isLeast.2 hk

/-! ## The tail -/

theorem shownIn_eq_image : p.shownIn simple lines tail =
    (lines.length - tail + ·) '' {k | ∃ h : k < (lines.drop (lines.length - tail)).length,
      p.shownBy simple (lines.drop (lines.length - tail))[k] = true} := by
  ext i
  simp only [shownIn, Set.mem_ofPred_eq, Set.mem_image, List.getElem_drop, List.length_drop,
    shownBy_iff]
  constructor
  · rintro ⟨htail, hi, hshows⟩
    refine ⟨i - (lines.length - tail), ⟨by omega, ?_⟩, by omega⟩
    simpa only [Nat.add_sub_cancel' (show lines.length - tail ≤ i by omega)] using hshows
  · rintro ⟨k, ⟨hk, hshows⟩, rfl⟩
    exact ⟨by omega, by omega, hshows⟩

theorem findInTail_eq_some_iff :
    p.findInTail lines tail simple = some i ↔ IsLeast (p.shownIn simple lines tail) i := by
  rw [shownIn_eq_image, isLeast_image_add, findInTail, Option.map_eq_some_iff]
  simp only [findIdx?_eq_some_iff_isLeast]

theorem exists_findInTail_of_nonempty (h : (p.shownIn simple lines tail).Nonempty) :
    ∃ i, p.findInTail lines tail simple = some i :=
  ⟨_, findInTail_eq_some_iff.2 ⟨Nat.sInf_mem h, fun _ => Nat.sInf_le⟩⟩

/-! ## Lines in front, and a longer tail -/

theorem shownIn_append (htail : tail ≤ lines.length) :
    p.shownIn simple (before ++ lines) tail =
      (before.length + ·) '' p.shownIn simple lines tail := by
  ext i
  simp only [shownIn, Set.mem_ofPred_eq, Set.mem_image, List.length_append]
  constructor
  · rintro ⟨hwithin, hi, hshows⟩
    have hbefore : before.length ≤ i := by omega
    rw [List.getElem_append_right hbefore] at hshows
    exact ⟨i - before.length, ⟨by omega, by omega, hshows⟩, by omega⟩
  · rintro ⟨k, ⟨hwithin, hk, hshows⟩, rfl⟩
    refine ⟨by omega, by omega, ?_⟩
    simpa only [List.getElem_append_right (Nat.le_add_right before.length k),
      Nat.add_sub_cancel_left] using hshows

theorem findInTail_append (htail : tail ≤ lines.length) :
    p.findInTail (before ++ lines) tail simple =
      (p.findInTail lines tail simple).map (before.length + ·) := by
  ext i
  rw [findInTail_eq_some_iff, shownIn_append htail, isLeast_image_add, Option.map_eq_some_iff]
  simp only [findInTail_eq_some_iff]

theorem Shows.mono {line : Line} (hflag : simple = true → flag = true)
    (h : p.Shows simple line) : p.Shows flag line :=
  h.imp_right (And.imp_left hflag)

theorem shownIn_mono (hlonger : tail ≤ longer)
    (hflag : simple = true → flag = true) :
    p.shownIn simple lines tail ⊆ p.shownIn flag lines longer := by
  rintro i ⟨hwithin, hi, hshows⟩
  exact ⟨hwithin.trans (Nat.add_le_add_left hlonger i), hi, hshows.mono hflag⟩

theorem exists_findInTail_le (hlonger : tail ≤ longer)
    (hflag : simple = true → flag = true) (h : p.findInTail lines tail simple = some i) :
    ∃ j ≤ i, p.findInTail lines longer flag = some j := by
  have hleast := findInTail_eq_some_iff.1 h
  have hsub : p.shownIn simple lines tail ⊆ p.shownIn flag lines longer :=
    shownIn_mono hlonger hflag
  obtain ⟨j, hj⟩ := exists_findInTail_of_nonempty ⟨i, hsub hleast.1⟩
  exact ⟨j, hleast.mono (findInTail_eq_some_iff.1 hj) hsub, hj⟩

/-- The prompt that is found is the first one in the tail. Lines in front of a list that the tail
does not exceed move its index by their number and decide nothing; a longer tail, or the simple
prompt in addition, loses no prompt. -/
theorem findInTail_exact (p : Prompt) (simple : Bool) (lines : List Line) (tail : Nat) :
    (∀ i, p.findInTail lines tail simple = some i ↔
        IsLeast {i | lines.length ≤ i + tail ∧
          ∃ h : i < lines.length, p.Shows simple lines[i]} i) ∧
      (tail ≤ lines.length → ∀ before,
        p.findInTail (before ++ lines) tail simple =
            (p.findInTail lines tail simple).map (before.length + ·) ∧
          p.matchesTail (before ++ lines) tail simple = p.matchesTail lines tail simple) ∧
      ∀ longer flag, tail ≤ longer → (simple = true → flag = true) →
        ∀ i, p.findInTail lines tail simple = some i →
          ∃ j ≤ i, p.findInTail lines longer flag = some j := by
  refine ⟨fun i => findInTail_eq_some_iff, fun htail before => ?_,
    fun longer flag hlonger hflag i => exists_findInTail_le hlonger hflag⟩
  refine ⟨findInTail_append htail, ?_⟩
  rw [matchesTail, findInTail_append htail, Option.isSome_map, matchesTail]

/-- An earlier prompt in front of the tail is not the one that is found. -/
theorem findInTail_exact_earlierPrompt :
    ∃ p, Prompt.new Notice.threadPromptPattern = .ok p ∧
      p.findInTail ["b = 1".toList, "main[1] ".toList] 2 false = some 1 ∧
      p.findInTail (["main[1] ".toList, "> ".toList] ++ ["b = 1".toList, "main[1] ".toList]) 2
        false = some 3 ∧
      ∃ j ≤ 1, p.findInTail ["b = 1".toList, "main[1] ".toList] 5 true = some j := by
  obtain ⟨p, hnew, hfound⟩ : ∃ p, Prompt.new Notice.threadPromptPattern = .ok p ∧
      p.findInTail ["b = 1".toList, "main[1] ".toList] 2 false = some 1 := ⟨_, rfl, rfl⟩
  obtain ⟨-, hfront, hlonger⟩ := findInTail_exact p false ["b = 1".toList, "main[1] ".toList] 2
  refine ⟨p, hnew, hfound, ?_, hlonger 5 true (by decide) nofun 1 hfound⟩
  rw [(hfront (by decide) _).1, hfound]
  rfl

end DebugControl.Prompt
