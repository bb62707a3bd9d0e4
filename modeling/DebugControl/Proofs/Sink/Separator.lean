import DebugControl.Proofs.Sink.Lines

/-!
# Lines end at separators

A separator without borders ends a line wherever it stands in the text, and no line holds it, however
the bytes are cut and whenever somebody looks or resets. `LooksSince` carries this through the calls:
the resets have returned the lines of a part of the text, and the sink holds those of the rest. A
separator with borders is cut in two by a look right after it, since what it ends with is held back
as the possible beginning of another one.
-/

namespace DebugControl.Sink

open Text Utf8

def returned (s : Sink) : List Call → List (List Line)
  | [] => []
  | .write bytes :: calls => (s.write bytes).returned calls
  | .snapshot :: calls => s.snapshot.1 :: s.snapshot.2.returned calls
  | .reset :: calls => s.reset.1 :: s.reset.2.returned calls

theorem not_infix_of_mem_linesOf {sep text : List Char} (hsep : sep ≠ []) {line : Line}
    (h : line ∈ linesOf sep text) : ¬ sep <:+: line := by
  unfold linesOf at h
  split_ifs at h
  · exact absurd h List.not_mem_nil
  · exact not_infix_of_mem_cut hsep h

theorem absorb_carry_of_lines (s : Sink) (lines : List Line) :
    ({ s with lines := lines } : Sink).absorb.carry = s.absorb.carry := by
  unfold absorb
  split
  · next h =>
    have h' : s.hasPending = true := h
    rw [if_pos h']
    split
    · simp
    · simp
  · next h =>
    have h' : ¬ s.hasPending = true := h
    rw [if_neg h']

/-- The text `before` an occurrence of the separator ends where an entry of one of the lists ends and
another one begins. -/
def EndsLine (sep before : List Char) (lists : List (List Line)) : Prop :=
  ∃ earlier ended following later, lists = earlier ++ (ended ++ following) :: later ∧
    ended ≠ [] ∧ following ≠ [] ∧ before = earlier.flatMap (join sep) ++ join sep ended

theorem EndsLine.append {sep before : List Char} {lists : List (List Line)}
    (h : EndsLine sep before lists) (more : List (List Line)) :
    EndsLine sep before (lists ++ more) := by
  obtain ⟨earlier, ended, following, later, rfl, hended, hfollowing, hbefore⟩ := h
  exact ⟨earlier, ended, following, later ++ more, by simp, hended, hfollowing, hbefore⟩

theorem not_endsLine_single {sep before : List Char} (line : Line) :
    ¬ EndsLine sep before [[line]] := by
  rintro ⟨earlier, ended, following, later, hlists, hended, hfollowing, -⟩
  have hmem : ended ++ following ∈ [[line]] := by
    rw [hlists]
    exact List.mem_append_right _ List.mem_cons_self
  have hlength := congrArg List.length (List.mem_singleton.1 hmem)
  have hended := List.length_pos_iff.2 hended
  have hfollowing := List.length_pos_iff.2 hfollowing
  rw [List.length_append, List.length_singleton] at hlength
  omega

theorem endsLine_last {sep shown a b : List Char} {lists : List (List Line)} (hsep : sep ≠ [])
    (hu : Unbordered sep) (he : lists.flatMap (join sep) ++ shown = a ++ sep ++ b)
    (hle : (lists.flatMap (join sep)).length ≤ a.length) :
    EndsLine sep a (lists ++ [linesOf sep shown]) := by
  rw [List.append_assoc] at he
  obtain ⟨x, rfl⟩ : lists.flatMap (join sep) <+: a :=
    List.prefix_of_prefix_length_le ⟨shown, he⟩ (List.prefix_append a _) hle
  rw [List.append_assoc, List.append_right_inj] at he
  have hne : shown ≠ [] := by
    rw [he]
    simp [hsep]
  refine ⟨lists, cut sep x, cut sep b, [], ?_, cut_ne_nil hsep x, cut_ne_nil hsep b, ?_⟩
  · rw [linesOf, if_neg hne, he, cut_append_separator hsep hu]
  · rw [join_cut hsep]

/-- The resets have returned `lists`, and the sink holds the lines of the text that was seen since.
Every occurrence that begins in the text of the lists, whatever may follow, ends one of their lines. -/
structure LooksSince (s : Sink) (sep : List Char) (lists : List (List Line))
    (seen rest : List UInt8) : Prop where
  looks : LooksAt { s with lines := linesOf sep (released sep (decodeStream seen).1) } sep seen rest
  lines : ∃ shown, released sep (decodeStream seen).1 = lists.flatMap (join sep) ++ shown ∧
    s.lines = linesOf sep shown
  settled : ∀ more a b, (decodeStream seen).1 ++ more = a ++ sep ++ b →
    a.length < (lists.flatMap (join sep)).length → EndsLine sep a lists

theorem looksSince_new (sep : List Char) : LooksSince (new sep) sep [] [] [] where
  looks := by
    refine ⟨rfl, rfl, rfl, ?_, rfl⟩
    simp [new, held, encode]
  lines := ⟨[], by simp [released], by simp [new, linesOf]⟩
  settled more a b _ hlt := absurd hlt (Nat.not_lt_zero _)

namespace LooksSince

variable {s : Sink} {sep : List Char} {lists : List (List Line)} {seen rest : List UInt8}
  (h : LooksSince s sep lists seen rest)

include h

theorem write (bytes : List UInt8) : LooksSince (s.write bytes) sep lists seen (rest ++ bytes) where
  looks := h.looks.write bytes
  lines := h.lines
  settled := h.settled

variable (hsep : sep ≠ [])

include hsep

theorem lines_addText {s' : Sink} {text : List Char} (hs : s'.separator = sep)
    (hl : s'.lines = s.lines) (hclear : Clear sep (released sep (decodeStream seen).1) text) :
    ∃ shown, released sep (decodeStream seen).1 ++ text = lists.flatMap (join sep) ++ shown ∧
      (s'.addText text).lines = linesOf sep shown := by
  obtain ⟨shown, hshown, hlines⟩ := h.lines
  refine ⟨shown ++ text, by rw [hshown, List.append_assoc], ?_⟩
  rw [hshown] at hclear
  exact addText_lines hs hsep (hl.trans hlines) hclear.of_append

variable (hu : Unbordered sep)

include hu

theorem reset : LooksSince s.reset.2 sep (lists ++ [s.reset.1]) seen rest := by
  obtain ⟨shown, hshown, hlines⟩ := h.lines
  have hreset : s.reset.1 = linesOf sep shown := hlines
  have htext : (lists ++ [s.reset.1]).flatMap (join sep) = released sep (decodeStream seen).1 := by
    rw [List.flatMap_append, List.flatMap_singleton, hreset, join_linesOf hsep, hshown]
  refine ⟨h.looks, ⟨[], by rw [htext, List.append_nil], rfl⟩, fun more a b he hlt => ?_⟩
  by_cases hbefore : a.length < (lists.flatMap (join sep)).length
  · exact (h.settled more a b he hbefore).append _
  · have hclear : Clear sep (released sep (decodeStream seen).1)
        (held sep (decodeStream seen).1 ++ more) :=
      clear_released hsep hu List.prefix_rfl
    rw [htext] at hlt
    rw [← released_append_held sep (decodeStream seen).1, List.append_assoc] at he
    obtain ⟨c, hc⟩ := hclear.append_prefix he hlt
    rw [hreset]
    exact endsLine_last hsep hu (hshown.symm.trans hc.symm) (not_lt.1 hbefore)

theorem snapshot : LooksSince s.snapshot.2 sep lists (seen ++ rest) [] where
  looks := by
    have hnext := h.looks.snapshot hsep hu
    have hcarry := absorb_carry_of_lines s (linesOf sep (released sep (decodeStream seen).1))
    exact ⟨(absorb_separator s).trans h.looks.separator, (absorb_finished s).trans h.looks.isOpen,
      absorb_raw s, hcarry.symm.trans hnext.carry, rfl⟩
  lines := by
    change ∃ shown, _ ∧ s.absorb.lines = linesOf sep shown
    have hraw : s.raw = rest := h.looks.raw
    have hopen : s.finished = false := h.looks.isOpen
    have hseparator : s.separator = sep := h.looks.separator
    by_cases hr : s.raw = []
    · rw [absorb_of_raw_nil hopen hr, ← hraw, hr, List.append_nil]
      exact h.lines
    · have hd : decodeStream (s.carry ++ s.raw) = _ := h.looks.decodeStream_pending
      have hstream := decodeStream_append seen rest
      rw [absorb_of_open hopen hr, hd, hseparator, hstream]
      dsimp only
      rw [released_append hsep (decodeStream seen).1]
      exact h.lines_addText hsep rfl rfl
        (clear_released hsep hu ⟨_, released_append_held _ _⟩)
  settled more a b he hlt := by
    rw [decodeStream_append seen rest, List.append_assoc] at he
    exact h.settled _ a b he hlt

theorem finish_snapshot :
    ∃ shown, decode (seen ++ rest) = lists.flatMap (join sep) ++ shown ∧
      s.finish.snapshot.1 = linesOf sep shown := by
  change ∃ shown, _ ∧ s.finish.absorb.lines = linesOf sep shown
  have hcarry : s.carry = _ := h.looks.carry
  have hraw : s.raw = rest := h.looks.raw
  have hd : decode (s.finish.carry ++ s.finish.raw) =
      held sep (decodeStream seen).1 ++ decode ((decodeStream seen).2 ++ rest) := by
    change decode (s.carry ++ s.raw) = _
    rw [hcarry, hraw, List.append_assoc, decode_encode_append]
  have hall : decode (seen ++ rest) = released sep (decodeStream seen).1 ++
      (held sep (decodeStream seen).1 ++ decode ((decodeStream seen).2 ++ rest)) := by
    rw [decode_append, ← List.append_assoc, released_append_held]
  rw [absorb_of_finished (s := s.finish) rfl, hall, ← hd]
  refine h.lines_addText hsep h.looks.separator rfl ?_
  rw [hd]
  exact clear_released hsep hu List.prefix_rfl

theorem performAll (calls : List Call) :
    ∃ seen' rest', seen' ++ rest' = seen ++ rest ++ written calls ∧
      LooksSince (s.performAll calls) sep (lists ++ s.taken calls) seen' rest' := by
  induction calls generalizing s lists seen rest with
  | nil => exact ⟨seen, rest, by simp [written], by rw [taken, List.append_nil]; exact h⟩
  | cons c calls ih =>
    cases c with
    | write bytes =>
      obtain ⟨seen', rest', he, hl⟩ := ih (h.write bytes)
      exact ⟨seen', rest', by rw [he, written]; simp only [List.append_assoc], hl⟩
    | snapshot =>
      obtain ⟨seen', rest', he, hl⟩ := ih (h.snapshot hsep hu)
      exact ⟨seen', rest', by rw [he, written, List.append_nil], hl⟩
    | reset =>
      obtain ⟨seen', rest', he, hl⟩ := ih (h.reset hsep hu)
      refine ⟨seen', rest', by rw [he, written], ?_⟩
      rwa [List.append_assoc] at hl

theorem returned_eq_linesOf (calls : List Call) :
    ∀ lines ∈ s.returned calls, ∃ text, lines = linesOf sep text := by
  induction calls generalizing s lists seen rest with
  | nil => exact fun lines hlines => absurd hlines List.not_mem_nil
  | cons c calls ih =>
    cases c with
    | write bytes => exact ih (h.write bytes)
    | snapshot =>
      have hnext := h.snapshot hsep hu
      obtain ⟨shown, -, hlines⟩ := hnext.lines
      exact List.forall_mem_cons.2 ⟨⟨shown, hlines⟩, ih hnext⟩
    | reset =>
      obtain ⟨shown, -, hlines⟩ := h.lines
      exact List.forall_mem_cons.2 ⟨⟨shown, hlines⟩, ih (h.reset hsep hu)⟩

theorem endsLine_snapshot {a b : List Char} (he : (decodeStream (seen ++ rest)).1 = a ++ sep ++ b) :
    EndsLine sep a (lists ++ [s.snapshot.1]) := by
  have hnext := h.snapshot hsep hu
  by_cases hbefore : a.length < (lists.flatMap (join sep)).length
  · exact (hnext.settled [] a b (by rw [List.append_nil, he]) hbefore).append _
  · obtain ⟨shown, hshown, hlines⟩ := hnext.lines
    have hsnapshot : s.snapshot.1 = linesOf sep shown := hlines
    obtain ⟨c, hc⟩ := append_prefix_released hsep hu a b
    rw [← he, hshown] at hc
    rw [hsnapshot]
    exact endsLine_last hsep hu hc.symm (not_lt.1 hbefore)

theorem endsLine_finish {a b : List Char} (he : decode (seen ++ rest) = a ++ sep ++ b) :
    EndsLine sep a (lists ++ [s.finish.snapshot.1]) := by
  obtain ⟨shown, hshown, hlines⟩ := h.finish_snapshot hsep hu
  by_cases hbefore : a.length < (lists.flatMap (join sep)).length
  · rw [decode_append] at he
    exact (h.settled _ a b he hbefore).append _
  · rw [hlines]
    exact endsLine_last hsep hu (hshown.symm.trans he) (not_lt.1 hbefore)

end LooksSince

section Bordered

variable {sep : List Char}

theorem addText_of_short {s : Sink} {text : List Char} (hne : text ≠ [])
    (hshort : text.length < s.separator.length) :
    s.addText text = { s with lines := continueLines s.lines [text] } := by
  have hsep : s.separator ≠ [] := List.length_pos_iff.1 (Nat.zero_lt_of_lt hshort)
  have hnot : ¬ s.separator <:+: text := fun hi => absurd hi.length_le (not_le.2 hshort)
  rw [addText, if_neg hne, cut_of_not_infix hsep hnot]

/-- A look right after a separator with borders cuts it in two. -/
theorem absorb_bordered (hsep : sep ≠ []) (hb : ¬ Unbordered sep) :
    ((new sep).write (encode sep)).absorb =
      ⟨sep, [], encode (held sep sep), [released sep sep], 0, false⟩ := by
  have hheld := isHeld_held hsep sep
  have hne : held sep sep ≠ [] := mt (unbordered_iff_held hsep).2 hb
  have hlength := congrArg List.length (released_append_held sep sep)
  have hpos := List.length_pos_iff.2 hne
  rw [List.length_append] at hlength
  have hreleased : released sep sep ≠ [] := by
    intro he
    have hsplit := released_append_held sep sep
    rw [he, List.nil_append] at hsplit
    exact hheld.proper hsplit
  have habsorb := absorb_of_open (s := ⟨sep, encode sep, [], [], 0, false⟩) rfl (encode_ne_nil hsep)
  rw [List.nil_append, decodeStream_encode, List.append_nil] at habsorb
  refine habsorb.trans ?_
  rw [addText_of_short hreleased (by dsimp only; omega)]
  rfl

/-- The end of the input puts it together again, within one line. -/
theorem finish_snapshot_bordered (hsep : sep ≠ []) (hb : ¬ Unbordered sep) :
    ((new sep).write (encode sep)).absorb.finish.snapshot.1 = [sep] := by
  have hheld := isHeld_held hsep sep
  have hne : held sep sep ≠ [] := mt (unbordered_iff_held hsep).2 hb
  have hshort : (held sep sep).length < sep.length :=
    lt_of_le_of_ne hheld.beginning.length_le fun he =>
      hheld.proper (hheld.beginning.eq_of_length he)
  have hdecode : decode (encode (held sep sep)) = held sep sep := by
    have hstream := decode_encode_append (held sep sep) []
    rwa [List.append_nil, decode_nil, List.append_nil] at hstream
  rw [absorb_bordered hsep hb]
  change (Sink.absorb ⟨sep, [], encode (held sep sep), [released sep sep], 0, true⟩).lines = [sep]
  rw [absorb_of_finished rfl, List.append_nil, hdecode, addText_of_short hne hshort]
  exact congrArg (fun line => [line]) (released_append_held sep sep)

end Bordered

/-- No list that is returned has a line with the separator in it exactly if the separator is without
borders. The same condition decides whether every complete separator in the text ends a line, both at
a look while more may come and at the look after the end of the input. -/
theorem separator_ends_lines_iff {sep : List Char} (hsep : sep ≠ []) :
    (Unbordered sep ↔ ∀ calls, ∀ lines ∈ (new sep).returned calls ++
      [((new sep).performAll calls).finish.snapshot.1], ∀ line ∈ lines, ¬ sep <:+: line) ∧
    (Unbordered sep ↔ ∀ calls,
      (∀ a b, (decodeStream (written calls)).1 = a ++ sep ++ b →
        EndsLine sep a ((new sep).taken calls ++ [((new sep).performAll calls).snapshot.1])) ∧
      ∀ a b, decode (written calls) = a ++ sep ++ b →
        EndsLine sep a
          ((new sep).taken calls ++ [((new sep).performAll calls).finish.snapshot.1])) := by
  refine ⟨⟨fun hu calls lines hlines line hline => ?_, fun hfree => ?_⟩,
    ⟨fun hu calls => ?_, fun hends => ?_⟩⟩
  · have htext : ∃ text, lines = linesOf sep text := by
      rcases List.mem_append.1 hlines with hlines | hlines
      · exact (looksSince_new sep).returned_eq_linesOf hsep hu calls lines hlines
      · obtain ⟨seen, rest, -, hl⟩ := (looksSince_new sep).performAll hsep hu calls
        obtain ⟨shown, -, hshown⟩ := hl.finish_snapshot hsep hu
        exact ⟨shown, (List.mem_singleton.1 hlines).trans hshown⟩
    obtain ⟨text, rfl⟩ := htext
    exact not_infix_of_mem_linesOf hsep hline
  · by_contra hb
    have hlast := finish_snapshot_bordered hsep hb
    refine hfree [.write (encode sep), .snapshot] [sep] ?_ sep List.mem_cons_self List.infix_rfl
    exact List.mem_append_right _ (List.mem_singleton.2 hlast.symm)
  · obtain ⟨seen, rest, he, hl⟩ := (looksSince_new sep).performAll hsep hu calls
    rw [List.nil_append, List.nil_append] at he
    rw [List.nil_append] at hl
    rw [← he]
    exact ⟨fun a b => hl.endsLine_snapshot hsep hu, fun a b => hl.endsLine_finish hsep hu⟩
  · by_contra hb
    have hwritten : written [.write (encode sep)] = encode sep := List.append_nil _
    have hlook : ((new sep).performAll [.write (encode sep)]).snapshot.1 = [released sep sep] :=
      congrArg Sink.lines (absorb_bordered hsep hb)
    have hoccurs : (decodeStream (written [.write (encode sep)])).1 = [] ++ sep ++ [] := by
      rw [hwritten, decodeStream_encode, List.nil_append, List.append_nil]
    have hended := (hends [.write (encode sep)]).1 [] [] hoccurs
    rw [hlook] at hended
    exact not_endsLine_single _ hended

theorem separator_ends_lines_iff_return :
    ['\r', '\n'] ≠ [] ∧ Unbordered ['\r', '\n'] ∧
      (∀ lines ∈ (new ['\r', '\n']).returned [.write [0x61, 0x0D], .snapshot, .reset,
          .write [0x0A, 0x62, 0x0D, 0x0A], .snapshot] ++
        [((new ['\r', '\n']).performAll [.write [0x61, 0x0D], .snapshot, .reset,
          .write [0x0A, 0x62, 0x0D, 0x0A], .snapshot]).finish.snapshot.1],
        ∀ line ∈ lines, ¬ ['\r', '\n'] <:+: line) ∧
      EndsLine ['\r', '\n'] ['a', '\r', '\n', 'b'] [[['a']], [[], ['b'], []]] := by
  have hsep : ['\r', '\n'] ≠ [] := by decide
  have hu : Unbordered ['\r', '\n'] := by decide
  obtain ⟨hfree, hends⟩ := separator_ends_lines_iff hsep
  refine ⟨hsep, hu, hfree.1 hu _, ?_⟩
  obtain ⟨hlook, -⟩ := hends.1 hu
    [.write [0x61, 0x0D], .snapshot, .reset, .write [0x0A, 0x62, 0x0D, 0x0A], .snapshot]
  exact hlook ['a', '\r', '\n', 'b'] [] (by decide)

/-- The text ends with two line feeds, which are the separator. A look right after them does not end
the line, and the line that is shown at last holds both. -/
theorem separator_within_line_newlines :
    (decodeStream (written [.write [0x61, 0x0A, 0x0A], .snapshot])).1 =
        ['a'] ++ ['\n', '\n'] ++ [] ∧
      ¬ EndsLine ['\n', '\n'] ['a']
        ((new ['\n', '\n']).taken [.write [0x61, 0x0A, 0x0A], .snapshot] ++
          [((new ['\n', '\n']).performAll [.write [0x61, 0x0A, 0x0A], .snapshot]).snapshot.1]) ∧
      ((new ['\n', '\n']).performAll [.write [0x61, 0x0A, 0x0A], .snapshot]).finish.snapshot.1 =
        [['a', '\n', '\n']] ∧
      ['\n', '\n'] <:+: ['a', '\n', '\n'] := by
  refine ⟨by decide, ?_, by decide, by decide⟩
  have hlook : ((new ['\n', '\n']).performAll [.write [0x61, 0x0A, 0x0A], .snapshot]).snapshot.1 =
      [['a', '\n']] := by
    decide
  rw [hlook]
  exact not_endsLine_single _

end DebugControl.Sink
