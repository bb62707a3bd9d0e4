import DebugControl.Proofs.Toml.Number
import DebugControl.Proofs.Toml.Quoted

/-!
# Values read back

A text is written for a value if the reader finds the value again wherever the text is followed by
the end of a line or of an item. Quoted texts, numbers and booleans are so at every depth, and an
array is one level deeper than its items.
-/

namespace DebugControl.Toml

variable {c : Char} {text rest : List Char} {v : Value} {depth : Nat}

/-- What the text of a value may begin with: nothing that layout begins with, and no end of an
array. -/
def Begins (c : Char) : Prop := isSpace c = false ∧ c ∉ ['\n', '\r', '#', ']']

theorem Begins.ne_close (h : Begins c) : c ≠ ']' := by
  rintro rfl
  exact absurd h.2 (by decide)

structure Written (depth : Nat) (text : List Char) (v : Value) : Prop where
  begins : ∃ c tail, text = c :: tail ∧ Begins c
  reads : ∀ n rest, depth ≤ n → Ends rest → readValue n (text ++ rest) = some (v, rest)

theorem Written.mono {deep : Nat} (h : Written depth text v) (hd : depth ≤ deep) :
    Written deep text v :=
  ⟨h.begins, fun n rest hn => h.reads n rest (hd.trans hn)⟩

theorem skipSpace_begins (h : Begins c) (s : List Char) : skipSpace (c :: s) = c :: s :=
  List.dropWhile_cons_of_neg (by simp [h.1])

theorem skipLayout_begins (h : Begins c) (s : List Char) : skipLayout false (c :: s) = c :: s := by
  obtain ⟨hs, hc⟩ := h
  simp only [List.mem_cons, List.not_mem_nil, not_or, or_false] at hc
  obtain ⟨hn, hr, hcomment, -⟩ := hc
  simp [skipLayout, hn, hr, hcomment, hs]

theorem skipLayout_line (s : List Char) : skipLayout false ('\n' :: s) = skipLayout false s := rfl

theorem skipLayout_indent (s : List Char) :
    skipLayout false ("    ".toList ++ s) = skipLayout false s := rfl

theorem readValue_scalar (ha : c ≠ '[') (ht : c ≠ '{') (n : Nat) (s : List Char) :
    readValue n (c :: s) = readScalar (c :: s) := by
  cases n with
  | zero => rfl
  | succ n => simp [readValue, ha, ht]

/-! ## Scalars -/

theorem Ends.unquoted (h : Ends rest) : Unquoted rest := by
  cases h <;> simp [Unquoted]

theorem writeText_cons (s : List Char) :
    ∃ c tail, writeText s = c :: tail ∧ (c = '"' ∨ c = '\'') := by
  unfold writeText
  simp only
  split_ifs
  · exact ⟨_, _, rfl, .inl rfl⟩
  · exact ⟨_, _, rfl, .inr rfl⟩
  · exact ⟨_, _, rfl, .inl rfl⟩
  · exact ⟨_, _, rfl, .inr rfl⟩
  · exact ⟨_, _, rfl, .inl rfl⟩
  · exact ⟨_, _, rfl, .inl rfl⟩

theorem written_text (s : List Char) : Written 0 (writeText s) (.text s) := by
  obtain ⟨c, tail, htext, hc⟩ := writeText_cons s
  refine ⟨⟨c, tail, htext, ?_⟩, fun n rest _ hrest => ?_⟩
  · obtain rfl | rfl := hc <;> exact ⟨by decide, by decide⟩
  · have hquoted := readQuoted_writeText s hrest.unquoted
    rw [htext, List.cons_append] at hquoted ⊢
    obtain ⟨ht, hf, harray, htable⟩ : c ≠ 't' ∧ c ≠ 'f' ∧ c ≠ '[' ∧ c ≠ '{' := by
      obtain rfl | rfl := hc <;> decide
    rw [readValue_scalar harray htable, readScalar, hquoted]
    · rfl
    · simp [ht]
    · simp [hf]

theorem written_boolean (b : Bool) : Written 0 (writeBoolean b) (.boolean b) := by
  cases b with
  | true =>
    refine ⟨⟨'t', "rue".toList, rfl, by decide, by decide⟩, fun n rest _ _ => ?_⟩
    exact (readValue_scalar (by decide) (by decide) n _).trans rfl
  | false =>
    refine ⟨⟨'f', "alse".toList, rfl, by decide, by decide⟩, fun n rest _ _ => ?_⟩
    exact (readValue_scalar (by decide) (by decide) n _).trans rfl

theorem written_number {n : Nat} (hn : n < integerLimit) :
    Written 0 (toString n).toList (.integer n) := by
  have hdigits : (toString n).toList = Nat.toDigits 10 n := String.toList_ofList
  obtain ⟨c, cs, hcs, hc, -⟩ := Numeral.toDigits_cons n
  have hne : ∀ x : Char, x.isDigit = false → c ≠ x := fun x => ne_of_holds hc
  rw [hdigits]
  refine ⟨⟨c, cs, hcs, ?_, ?_⟩, fun m rest _ hrest => ?_⟩
  · simp [isSpace, hne ' ' (by decide), hne '\t' (by decide)]
  · simp [hne '\n' (by decide), hne '\r' (by decide), hne '#' (by decide), hne ']' (by decide)]
  · rw [← readScalar_toDigits hn hrest, hcs, List.cons_append,
      readValue_scalar (hne '[' (by decide)) (hne '{' (by decide))]

/-! ## Arrays -/

/-- What the layout before an item is does not matter. -/
theorem readItems_layout {item : List Char → Option (Value × List Char)} {s t : List Char}
    (h : skipLayout false s = skipLayout false t) (fuel : Nat) :
    readItems item fuel s = readItems item fuel t := by
  cases fuel with
  | zero => rfl
  | succ fuel => rw [readItems, readItems, h]

theorem readItems_close (item : List Char → Option (Value × List Char)) (fuel : Nat)
    (rest : List Char) : readItems item (fuel + 1) (']' :: rest) = some ([], rest) := by
  simp [readItems, skipLayout, isSpace]

section Items

variable {n : Nat} (h : Written depth text v) (hn : depth ≤ n) (fuel : Nat) (rest : List Char)

include h hn

theorem readItems_comma :
    readItems (readValue n) (fuel + 1) (text ++ ',' :: rest) =
      (readItems (readValue n) fuel rest).map fun p => (v :: p.1, p.2) := by
  obtain ⟨c, tail, rfl, hc⟩ := h.begins
  have hclose := hc.ne_close
  have hread := h.reads n _ hn (.item rest)
  have hcomma : skipLayout false (',' :: rest) = ',' :: rest := rfl
  rw [List.cons_append] at hread ⊢
  cases hlater : readItems (readValue n) fuel rest <;>
    simp [readItems, skipLayout_begins hc, hclose, hread, hcomma, hlater]

theorem readItems_last :
    readItems (readValue n) (fuel + 1) (text ++ ']' :: rest) = some ([v], rest) := by
  obtain ⟨c, tail, rfl, hc⟩ := h.begins
  have hclose := hc.ne_close
  have hread := h.reads n _ hn (.array rest)
  have hend : skipLayout false (']' :: rest) = ']' :: rest := rfl
  rw [List.cons_append] at hread ⊢
  simp [readItems, skipLayout_begins hc, hclose, hread, hend]

end Items

/-- Items with a line of their own and a comma each. -/
def itemLines (items : List (List Char)) : List Char :=
  items.flatMap fun item => "    ".toList ++ item ++ [',', '\n']

theorem itemLines_cons_append (item : List Char) (items : List (List Char)) (s : List Char) :
    itemLines (item :: items) ++ s =
      "    ".toList ++ (item ++ ',' :: ('\n' :: (itemLines items ++ s))) := by
  simp [itemLines]

theorem length_le_itemLines (items : List (List Char)) :
    items.length ≤ (itemLines items).length := by
  induction items with
  | nil => exact Nat.le_refl 0
  | cons item items ih =>
    have hcons := congrArg List.length (itemLines_cons_append item items [])
    simp only [List.append_nil, List.length_append, List.length_cons] at hcons ⊢
    omega

theorem readItems_lines {items : List (List Char × Value)}
    (h : ∀ p ∈ items, Written depth p.1 p.2) {n fuel : Nat} (hn : depth ≤ n)
    (hfuel : items.length < fuel) (rest : List Char) :
    readItems (readValue n) fuel ('\n' :: (itemLines (items.map Prod.fst) ++ ']' :: rest)) =
      some (items.map Prod.snd, rest) := by
  rw [readItems_layout (skipLayout_line _)]
  induction items generalizing fuel with
  | nil =>
    obtain ⟨fuel, rfl⟩ := Nat.exists_eq_succ_of_ne_zero (Nat.ne_zero_of_lt hfuel)
    exact readItems_close _ fuel rest
  | cons p items ih =>
    obtain ⟨fuel, rfl⟩ := Nat.exists_eq_succ_of_ne_zero (Nat.ne_zero_of_lt hfuel)
    obtain ⟨hfirst, hlater⟩ := List.forall_mem_cons.1 h
    have hi := ih hlater (Nat.lt_of_succ_lt_succ hfuel)
    rw [List.map_cons, itemLines_cons_append, readItems_layout (skipLayout_indent _),
      readItems_comma hfirst hn, readItems_layout (skipLayout_line _), hi]
    rfl

theorem written_array {items : List (List Char × Value)}
    (h : ∀ p ∈ items, Written depth p.1 p.2) :
    Written (depth + 1) (writeArray (items.map Prod.fst)) (.array (items.map Prod.snd)) := by
  suffices hbody : ∃ body, writeArray (items.map Prod.fst) = '[' :: body ∧
      ∀ n rest, depth ≤ n →
        readItems (readValue n) (body ++ rest).length (body ++ rest) =
          some (items.map Prod.snd, rest) by
    obtain ⟨body, hshape, hread⟩ := hbody
    rw [hshape]
    refine ⟨⟨'[', body, rfl, by decide, by decide⟩, fun n rest hn _ => ?_⟩
    obtain ⟨n, rfl⟩ := Nat.exists_eq_succ_of_ne_zero (Nat.ne_zero_of_lt hn)
    rw [List.cons_append, readValue, hread n rest (Nat.le_of_succ_le_succ hn)]
    rfl
  -- The writer has a form of its own for arrays of less than two items.
  match items with
  | [] => exact ⟨[']'], rfl, fun n rest _ => readItems_close _ rest.length rest⟩
  | [p] =>
    refine ⟨p.1 ++ [']'], rfl, fun n rest hn => ?_⟩
    have hlast := readItems_last (h p List.mem_cons_self) hn (p.1.length + rest.length) rest
    simpa [Nat.add_assoc] using hlast
  | p :: q :: items =>
    refine ⟨'\n' :: (itemLines ((p :: q :: items).map Prod.fst) ++ [']']), rfl, fun n rest hn => ?_⟩
    have hlength := length_le_itemLines ((p :: q :: items).map Prod.fst)
    rw [List.length_map] at hlength
    rw [List.cons_append, List.append_assoc]
    refine readItems_lines h hn ?_ rest
    simp only [List.length_cons, List.length_append] at hlength ⊢
    omega

end DebugControl.Toml
