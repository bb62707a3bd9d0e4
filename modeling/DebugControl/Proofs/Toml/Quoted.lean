import DebugControl.Proofs.Toml.Long

/-!
# Quoted text reads back

Whichever form the writer chooses for a text, the reader finds the text again and stops behind the
closing quotes, unless another quote follows them.
-/

namespace DebugControl.Toml

variable {s body rest : List Char}

def Unquoted (rest : List Char) : Prop := rest.head? ≠ some '"' ∧ rest.head? ≠ some '\''

theorem readQuoted_writeBasic (hrest : Unquoted rest) :
    readQuoted (writeBasic s ++ rest) = some (s, rest) := by
  have hopen : ∀ t, writeBasicBody s ++ '"' :: rest ≠ '"' :: '"' :: t := by
    intro t h
    cases s with
    | nil =>
      obtain rfl := (List.cons.inj h).2
      exact hrest.1 rfl
    | cons c s =>
      obtain ⟨w, hw, hbody⟩ := writeBasicBody_cons c s
      obtain ⟨d, code, rfl, hd⟩ := hw.head_ne
      rw [hbody] at h
      exact hd (List.cons.inj h).1
  have hread := readBasic_writeBasicBody s rest
  have hshape : writeBasic s ++ rest = '"' :: (writeBasicBody s ++ '"' :: rest) := by
    simp [writeBasic]
  rw [hshape, readQuoted, hread]
  exact hopen

theorem readQuoted_writeLiteral (hcodes : ∀ c ∈ s, isCode c = false) (hn : '\n' ∉ s)
    (hq : '\'' ∉ s) (hrest : Unquoted rest) :
    readQuoted (writeLiteral s ++ rest) = some (s, rest) := by
  have hopen : ∀ t, s ++ '\'' :: rest ≠ '\'' :: '\'' :: t := by
    intro t h
    cases s with
    | nil =>
      obtain rfl := (List.cons.inj h).2
      exact hrest.2 rfl
    | cons c s =>
      obtain rfl := (List.cons.inj h).1
      exact hq List.mem_cons_self
  have hread := readLiteral_append hcodes hn hq rest
  have hshape : writeLiteral s ++ rest = '\'' :: (s ++ '\'' :: rest) := by
    simp [writeLiteral]
  rw [hshape, readQuoted, hread]
  exact hopen

theorem skipLineEnd_of_printable {d : Char} (hd : isPrintable d = true) (t : List Char) :
    skipLineEnd (d :: t) = d :: t := by
  have hn : d ≠ '\n' := ne_of_holds hd (by decide)
  have hr : d ≠ '\r' := ne_of_holds hd (by decide)
  simp [skipLineEnd, afterLineEnd?, hn, hr]

/-- The reader drops the line feed that the writer puts in front of a text with lines, and nothing
else. -/
theorem skipLineEnd_opening {quote : Char} (hquote : isPrintable quote = true)
    (hbody : '\n' ∉ s → ∀ d, body.head? = some d → isPrintable d = true) :
    skipLineEnd ((if '\n' ∈ s then ['\n'] else []) ++
      (body ++ (List.replicate 3 quote ++ rest))) = body ++ (List.replicate 3 quote ++ rest) := by
  split_ifs with hn
  · rfl
  · cases body with
    | nil => exact skipLineEnd_of_printable hquote _
    | cons d body => exact skipLineEnd_of_printable (hbody hn d rfl) _

theorem isPrintable_of_head_writeLongBody (hn : '\n' ∉ s) {q : Nat} {d : Char}
    (hd : (writeLongBody q s).head? = some d) : isPrintable d = true := by
  cases s with
  | nil => exact absurd hd.symm (Option.some_ne_none d)
  | cons c s =>
    rw [writeLongBody] at hd
    split_ifs at hd with hc hfull hline
    · obtain rfl := Option.some.inj hd
      decide
    · obtain rfl := Option.some.inj hd
      decide
    · exact absurd (hline ▸ List.mem_cons_self) hn
    · exact (stands_writeChar hc hline).printable_of_head hd

theorem readQuoted_writeLongBody (hrest : Unquoted rest) :
    readQuoted (writeLong '"' s (writeLongBody 0 s) ++ rest) = some (s, rest) := by
  have hshape : writeLong '"' s (writeLongBody 0 s) ++ rest =
      '"' :: '"' :: '"' :: ((if '\n' ∈ s then ['\n'] else []) ++
        (writeLongBody 0 s ++ (List.replicate 3 '"' ++ rest))) := by
    simp [writeLong, List.replicate]
  rw [hshape, readQuoted, skipLineEnd_opening rfl fun hn d => isPrintable_of_head_writeLongBody hn]
  exact readLongBasic_writeLongBody (Nat.zero_le 2) hrest.1

theorem readQuoted_writeLongLiteral (hcodes : ∀ c ∈ s, isCode c = false)
    (hrun : longestRun '\'' 0 s ≤ 2) (hrest : Unquoted rest) :
    readQuoted (writeLong '\'' s s ++ rest) = some (s, rest) := by
  have hshape : writeLong '\'' s s ++ rest =
      '\'' :: '\'' :: '\'' :: ((if '\n' ∈ s then ['\n'] else []) ++
        (s ++ (List.replicate 3 '\'' ++ rest))) := by
    simp [writeLong, List.replicate]
  have hhead : '\n' ∉ s → ∀ d, s.head? = some d → isPrintable d = true := by
    intro hn d hd
    have hmem := List.mem_of_head? hd
    exact isPrintable_of_not_isCode (hcodes d hmem) fun h => hn (h ▸ hmem)
  rw [hshape, readQuoted, skipLineEnd_opening rfl hhead]
  exact readLongLiteral_append hcodes hrun hrest.2

theorem readQuoted_writeText (s : List Char) (hrest : Unquoted rest) :
    readQuoted (writeText s ++ rest) = some (s, rest) := by
  have hcodes : (!s.any isCode) = true → ∀ c ∈ s, isCode c = false := by
    intro h c hc
    simpa using List.any_eq_false.1 (Bool.not_eq_eq_eq_not.1 h) c hc
  unfold writeText
  simp only [Bool.and_eq_true, decide_eq_true_eq, beq_iff_eq]
  split_ifs with hbasic hliteral hlong hverbatim hlines
  · exact readQuoted_writeBasic hrest
  · obtain ⟨⟨hc, hsingles⟩, hn⟩ := hliteral
    have hn : '\n' ∉ s := by simpa using hn
    exact readQuoted_writeLiteral (hcodes hc) hn (not_mem_of_longestRun_eq_zero hsingles) hrest
  · exact readQuoted_writeLongBody hrest
  · exact readQuoted_writeLongLiteral (hcodes hverbatim.1) hverbatim.2 hrest
  · exact readQuoted_writeLongBody hrest
  · exact readQuoted_writeBasic hrest

end DebugControl.Toml
