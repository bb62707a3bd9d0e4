import DebugControl.Proofs.Toml.Value

/-!
# Lines read back

A header and an assignment with a bare key are each one line, and the reader of statements takes one
after the other from the front of a document. How much fuel it has does not matter as long as there
is more than the document is long.
-/

namespace DebugControl.Toml

variable {c : Char} {key s rest : List Char} {st : Statement} {sts : List Statement}

structure Bare (key : Key) : Prop where
  ne_nil : key ≠ []
  all : ∀ c ∈ key, isBare c = true

instance (key : Key) : Decidable (Bare key) :=
  decidable_of_iff (key ≠ [] ∧ key.all isBare = true)
    ⟨fun h => ⟨h.1, List.all_eq_true.1 h.2⟩, fun h => ⟨h.ne_nil, List.all_eq_true.2 h.all⟩⟩

theorem Bare.cons (h : Bare key) : ∃ c tail, key = c :: tail ∧ isBare c = true := by
  obtain ⟨c, tail, rfl⟩ := List.exists_cons_of_ne_nil h.ne_nil
  exact ⟨c, tail, rfl, h.all c List.mem_cons_self⟩

theorem begins_of_isBare (h : isBare c = true) : Begins c := by
  have hspace : c ≠ ' ' := ne_of_holds h (by decide)
  have htab : c ≠ '\t' := ne_of_holds h (by decide)
  refine ⟨by simp [isSpace, hspace, htab], ?_⟩
  simp [ne_of_holds h (by decide : isBare '\n' = false),
    ne_of_holds h (by decide : isBare '\r' = false), ne_of_holds h (by decide : isBare '#' = false),
    ne_of_holds h (by decide : isBare ']' = false)]

theorem readKey_bare (hk : Bare key) (hc : isBare c = false) :
    readKey (key ++ c :: rest) = some (key, c :: rest) := by
  have htake : (key ++ c :: rest).takeWhile isBare = key := by
    rw [List.takeWhile_append_of_pos hk.all, List.takeWhile_cons_of_neg (by simp [hc]),
      List.append_nil]
  have hdrop : (key ++ c :: rest).dropWhile isBare = c :: rest := by
    rw [List.dropWhile_append_of_pos hk.all, List.dropWhile_cons_of_neg (by simp [hc])]
  obtain ⟨d, tail, rfl, hd⟩ := hk.cons
  have hdouble : d ≠ '"' := ne_of_holds hd (by decide)
  have hsingle : d ≠ '\'' := ne_of_holds hd (by decide)
  rw [List.cons_append] at htake hdrop ⊢
  simp [readKey, hdouble, hsingle, htake, hdrop]

theorem readDotted_bare {d : Char} {t : List Char} (hk : Bare key) (hc : isBare c = false)
    (hskip : skipSpace (c :: rest) = d :: t) (hd : d ≠ '.') (parts : Nat) :
    readDotted (parts + 1) (key ++ c :: rest) = some (([], key), d :: t) := by
  have hread : readKey (key ++ c :: rest) = some (key, c :: rest) := readKey_bare hk hc
  obtain ⟨b, tail, rfl, hb⟩ := hk.cons
  rw [List.cons_append] at hread ⊢
  simp [readDotted, skipSpace_begins (begins_of_isBare hb), hread, hskip, hd]

/-! ## One line -/

theorem readStatement_header (hk : Bare key) (rest : List Char) :
    readStatement (writeHeader key ++ rest) = some (.header [] key, rest) := by
  have hdotted : readDotted (depthLimit - 1) (key ++ ']' :: '\n' :: rest) =
      some (([], key), ']' :: '\n' :: rest) :=
    readDotted_bare hk (by decide) rfl (by decide) _
  have hshape : writeHeader key ++ rest = '[' :: (key ++ ']' :: '\n' :: rest) := by
    simp [writeHeader]
  have hline : lineRest? ('\n' :: rest) = some rest := rfl
  obtain ⟨b, tail, rfl, hb⟩ := hk.cons
  have hopen : b ≠ '[' := ne_of_holds hb (by decide)
  rw [hshape]
  rw [List.cons_append] at hdotted ⊢
  simp [readStatement, hopen, hdotted, char?, hline]

theorem readStatement_assignment {text : List Char} {v : Value} (hk : Bare key)
    (hv : Written (depthLimit - 1) text v) (rest : List Char) :
    readStatement (writeAssignment key text ++ rest) = some (.assignment [] key v, rest) := by
  have hdotted : readDotted (depthLimit - 1) (key ++ ' ' :: '=' :: ' ' :: (text ++ '\n' :: rest)) =
      some (([], key), '=' :: ' ' :: (text ++ '\n' :: rest)) :=
    readDotted_bare hk (by decide) rfl (by decide) _
  have hshape : writeAssignment key text ++ rest =
      key ++ ' ' :: '=' :: ' ' :: (text ++ '\n' :: rest) := by
    simp [writeAssignment]
  have hline : lineRest? ('\n' :: rest) = some rest := rfl
  have hspace : skipSpace (' ' :: (text ++ '\n' :: rest)) = text ++ '\n' :: rest := by
    obtain ⟨d, tail, rfl, hd⟩ := hv.begins
    exact skipSpace_begins hd _
  have hread := hv.reads (depthLimit - 1) _ (Nat.le_refl _) (.line rest)
  obtain ⟨b, tail, rfl, hb⟩ := hk.cons
  have hopen : b ≠ '[' := ne_of_holds hb (by decide)
  rw [hshape]
  rw [List.cons_append] at hdotted ⊢
  simp [readStatement, hopen, hdotted, char?, hline, hspace, hread]

/-! ## Line by line -/

/-- A document reads as some statements with any fuel that exceeds its length. -/
def ReadsAs (s : List Char) (sts : List Statement) : Prop :=
  ∀ fuel, s.length < fuel → statementsWithin fuel s = some sts

theorem readsAs_nil : ReadsAs [] [] := by
  intro fuel hfuel
  obtain ⟨fuel, rfl⟩ := Nat.exists_eq_succ_of_ne_zero (Nat.ne_zero_of_lt hfuel)
  rfl

theorem ReadsAs.blank (h : ReadsAs s sts) : ReadsAs ('\n' :: s) sts := by
  intro fuel hfuel
  obtain ⟨fuel, rfl⟩ := Nat.exists_eq_succ_of_ne_zero (Nat.ne_zero_of_lt hfuel)
  exact h fuel (Nat.lt_of_succ_lt_succ hfuel)

/-- A line that begins like a value, though it is none, is no blank line. -/
theorem lineRest?_begins (h : Begins c) (s : List Char) : lineRest? (c :: s) = none := by
  have hc := h.2
  simp only [List.mem_cons, List.not_mem_nil, not_or, or_false] at hc
  obtain ⟨hn, hr, hcomment, -⟩ := hc
  simp [lineRest?, skipSpace_begins h, skipComment, hcomment, afterLineEnd?, hn, hr]

theorem ReadsAs.statement {line : List Char} (hc : Begins c)
    (hline : readStatement (c :: line ++ s) = some (st, s)) (h : ReadsAs s sts) :
    ReadsAs (c :: line ++ s) (st :: sts) := by
  intro fuel hfuel
  obtain ⟨fuel, rfl⟩ := Nat.exists_eq_succ_of_ne_zero (Nat.ne_zero_of_lt hfuel)
  have hs : statementsWithin fuel s = some sts := by
    refine h fuel ?_
    simp only [List.cons_append, List.length_cons, List.length_append] at hfuel
    omega
  rw [List.cons_append] at hline ⊢
  simp [statementsWithin, skipSpace_begins hc, lineRest?_begins hc, hline, hs]

theorem ReadsAs.header (hk : Bare key) (h : ReadsAs s sts) :
    ReadsAs (writeHeader key ++ s) (.header [] key :: sts) :=
  ReadsAs.statement ⟨by decide, by decide⟩ (readStatement_header hk s) h

theorem ReadsAs.assignment {text : List Char} {v : Value} (hk : Bare key)
    (hv : Written (depthLimit - 1) text v) (h : ReadsAs s sts) :
    ReadsAs (writeAssignment key text ++ s) (.assignment [] key v :: sts) := by
  have hline := readStatement_assignment hk hv s
  obtain ⟨c, tail, rfl, hc⟩ := hk.cons
  exact ReadsAs.statement (begins_of_isBare hc) hline h

end DebugControl.Toml
