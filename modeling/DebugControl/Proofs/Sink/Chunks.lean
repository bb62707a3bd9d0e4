import DebugControl.Proofs.Sink.Delivery

/-!
# Chunks do not matter

For a separator without borders the lines of a sink depend on the bytes written to it, and not on
how they were cut nor on when somebody looked: the last look gives the lines of the decoded text, up
to an unfinished character and to what may be the beginning of a separator, and the look after the
end of the input gives the lines of the whole of it.
-/

namespace DebugControl.Sink

open Text Utf8

/-- The lines of a text; no text has no lines. -/
def linesOf (sep text : List Char) : List Line := if text = [] then [] else cut sep text

theorem continueLines_nil (pieces : List Line) : continueLines [] pieces = pieces := by
  cases pieces <;> rfl

theorem continueLines_extendFirst (c : Char) {lines pieces : List Line} (hl : lines ≠ [])
    (hp : pieces ≠ []) :
    continueLines (extendFirst c lines) pieces = extendFirst c (continueLines lines pieces) := by
  obtain ⟨line, rest, rfl⟩ := List.exists_cons_of_ne_nil hl
  obtain ⟨piece, more, rfl⟩ := List.exists_cons_of_ne_nil hp
  cases rest <;> rfl

theorem continueLines_nil_cons {lines pieces : List Line} (hl : lines ≠ []) (hp : pieces ≠ []) :
    continueLines ([] :: lines) pieces = [] :: continueLines lines pieces := by
  obtain ⟨line, rest, rfl⟩ := List.exists_cons_of_ne_nil hl
  exact continueLines_cons_cons _ _ _ hp

theorem cutFrom_append {sep a b : List Char} (h : Clear sep a b) (skip : Nat)
    (hk : skip ≤ a.length) :
    cutFrom sep skip (a ++ b) = continueLines (cutFrom sep skip a) (cutFrom sep 0 b) := by
  have hb := cutFrom_ne_nil sep 0 b
  induction a generalizing skip with
  | nil =>
    obtain ⟨piece, rest, hp⟩ := List.exists_cons_of_ne_nil hb
    obtain rfl : skip = 0 := by simpa using hk
    rw [List.nil_append, hp]
    rfl
  | cons c a ih =>
    cases skip with
    | succ skip => exact ih h.tail skip (by simpa using hk)
    | zero =>
      have hpre := h.isPrefixOf (List.cons_ne_nil c a)
      rw [List.cons_append] at hpre
      rw [List.cons_append, cutFrom, cutFrom, hpre]
      split_ifs with hp
      · have hlen := (List.isPrefixOf_iff_prefix.1 hp).length_le
        rw [List.length_cons] at hlen
        rw [ih h.tail _ (by omega), continueLines_nil_cons (cutFrom_ne_nil _ _ _) hb]
      · rw [ih h.tail 0 (Nat.zero_le _), continueLines_extendFirst _ (cutFrom_ne_nil _ _ _) hb]

theorem addText_lines {s : Sink} {sep a b : List Char} (hs : s.separator = sep) (hsep : sep ≠ [])
    (hl : s.lines = linesOf sep a) (h : Clear sep a b) :
    (s.addText b).lines = linesOf sep (a ++ b) := by
  unfold addText
  by_cases hb : b = []
  · rw [if_pos hb, hb, List.append_nil, hl]
  · have hab : a ++ b ≠ [] := by simp [hb]
    rw [if_neg hb]
    dsimp only
    rw [hs, hl, linesOf, linesOf, if_neg hab]
    split_ifs with ha
    · rw [ha, List.nil_append, continueLines_nil]
    · rw [cut_eq_cutFrom hsep, cut_eq_cutFrom hsep, cut_eq_cutFrom hsep,
        cutFrom_append h 0 (Nat.zero_le _)]

/-- The sink stands where one look at the bytes `seen` would have left it, and `rest` has been
written since. -/
structure LooksAt (s : Sink) (sep : List Char) (seen rest : List UInt8) : Prop where
  separator : s.separator = sep
  isOpen : s.finished = false
  raw : s.raw = rest
  carry : s.carry = encode (held sep (decodeStream seen).1) ++ (decodeStream seen).2
  lines : s.lines = linesOf sep (released sep (decodeStream seen).1)

theorem looksAt_new (sep : List Char) : LooksAt (new sep) sep [] [] := by
  refine ⟨rfl, rfl, rfl, ?_, ?_⟩ <;> simp [new, held, released, encode, linesOf]

theorem LooksAt.write {s : Sink} {sep : List Char} {seen rest : List UInt8}
    (h : LooksAt s sep seen rest) (bytes : List UInt8) :
    LooksAt (s.write bytes) sep seen (rest ++ bytes) :=
  ⟨h.separator, h.isOpen, by rw [Sink.write, h.raw], h.carry, h.lines⟩

section Look

variable {s : Sink} {sep : List Char} {seen rest : List UInt8}

theorem LooksAt.decodeStream_pending (h : LooksAt s sep seen rest) :
    decodeStream (s.carry ++ s.raw) =
      (held sep (decodeStream seen).1 ++ (decodeStream ((decodeStream seen).2 ++ rest)).1,
        (decodeStream (seen ++ rest)).2) := by
  rw [h.carry, h.raw, List.append_assoc, decodeStream_encode_append, decodeStream_append seen rest]

theorem clear_released (hsep : sep ≠ []) (hu : Unbordered sep) {text more b : List Char}
    (hb : b <+: held sep text ++ more) : Clear sep (released sep text) b := by
  have hh : IsHeld sep (released sep text ++ held sep text) (held sep text) := by
    rw [released_append_held]
    exact isHeld_held hsep text
  exact hh.clear hu hb

theorem LooksAt.snapshot (h : LooksAt s sep seen rest) (hsep : sep ≠ []) (hu : Unbordered sep) :
    LooksAt s.snapshot.2 sep (seen ++ rest) [] := by
  change LooksAt s.absorb sep (seen ++ rest) []
  by_cases hr : s.raw = []
  · obtain rfl : rest = [] := h.raw.symm.trans hr
    rw [absorb_of_raw_nil h.isOpen hr, List.append_nil]
    exact h
  · have hd := h.decodeStream_pending
    have hstream := decodeStream_append seen rest
    refine ⟨by simp [h.separator], by simp [h.isOpen], absorb_raw s, ?_, ?_⟩
    · rw [absorb_of_open h.isOpen hr, addText_carry, hd, hstream, h.separator]
      dsimp only
      rw [held_append hsep (decodeStream seen).1]
    · rw [absorb_of_open h.isOpen hr, hd, hstream, h.separator]
      dsimp only
      rw [released_append hsep (decodeStream seen).1]
      exact addText_lines rfl hsep h.lines
        (clear_released hsep hu ⟨_, released_append_held _ _⟩)

theorem LooksAt.finish_snapshot (h : LooksAt s sep seen rest) (hsep : sep ≠ [])
    (hu : Unbordered sep) : s.finish.snapshot.1 = linesOf sep (decode (seen ++ rest)) := by
  change s.finish.absorb.lines = _
  have hd : decode (s.finish.carry ++ s.finish.raw) =
      held sep (decodeStream seen).1 ++ decode ((decodeStream seen).2 ++ rest) := by
    change decode (s.carry ++ s.raw) = _
    rw [h.carry, h.raw, List.append_assoc, decode_encode_append]
  have hall : decode (seen ++ rest) = released sep (decodeStream seen).1 ++
      (held sep (decodeStream seen).1 ++ decode ((decodeStream seen).2 ++ rest)) := by
    rw [decode_append, ← List.append_assoc, released_append_held]
  rw [absorb_of_finished (s := s.finish) rfl, hall, ← hd]
  refine addText_lines h.separator hsep h.lines ?_
  rw [hd]
  exact clear_released hsep hu List.prefix_rfl

end Look

theorem LooksAt.performAll {s : Sink} {sep : List Char} {seen rest : List UInt8}
    (h : LooksAt s sep seen rest) (hsep : sep ≠ []) (hu : Unbordered sep) {calls : List Call}
    (hc : .reset ∉ calls) :
    ∃ seen' rest', seen' ++ rest' = seen ++ rest ++ written calls ∧
      LooksAt (s.performAll calls) sep seen' rest' := by
  induction calls generalizing s seen rest with
  | nil => exact ⟨seen, rest, by simp [written], h⟩
  | cons c calls ih =>
    have hcs : .reset ∉ calls := fun hm => hc (List.mem_cons_of_mem c hm)
    cases c with
    | write bytes =>
      obtain ⟨seen', rest', he, hl⟩ := ih (h.write bytes) hcs
      exact ⟨seen', rest', by rw [he, written]; simp only [List.append_assoc], hl⟩
    | snapshot =>
      obtain ⟨seen', rest', he, hl⟩ := ih (h.snapshot hsep hu) hcs
      exact ⟨seen', rest', by rw [he, written, List.append_nil], hl⟩
    | reset => exact absurd List.mem_cons_self hc

theorem LooksAt.snapshot_lines {s : Sink} {sep : List Char} {seen rest : List UInt8}
    (h : LooksAt s sep seen rest) (hsep : sep ≠ []) (hu : Unbordered sep) :
    s.snapshot.1 = linesOf sep (released sep (decodeStream (seen ++ rest)).1) :=
  (h.snapshot hsep hu).lines

/-- However the bytes are cut and whenever somebody looks, the last look gives the lines of the text
`text`, which is all but an unfinished character `tail` and a possible beginning `part` of the
separator, and the look after the end of the input gives the lines of everything. -/
theorem looks_independent_of_chunks {sep : List Char} (hsep : sep ≠ []) (hu : Unbordered sep)
    {calls : List Call} (hc : .reset ∉ calls) :
    ∃ whole tail text part,
      written calls = whole ++ tail ∧ UnfinishedEnd (written calls) tail ∧
      decode whole = text ++ part ∧ IsHeld sep (decode whole) part ∧
      ((new sep).performAll calls).snapshot.1 =
        ((new sep).write (written calls)).snapshot.1 ∧
      ((new sep).performAll calls).snapshot.1 = (if text = [] then [] else cut sep text) ∧
      ((new sep).performAll calls).finish.snapshot.1 =
        (if written calls = [] then [] else cut sep (decode (written calls))) ∧
      ((new sep).performAll calls).snapshot.2.finish.snapshot.1 =
        (if written calls = [] then [] else cut sep (decode (written calls))) := by
  obtain ⟨whole, hw, ht⟩ := exists_decoded (written calls)
  obtain ⟨seen, rest, he, hl⟩ := (looksAt_new sep).performAll hsep hu hc
  rw [List.nil_append, List.nil_append] at he
  have hone := ((looksAt_new sep).write (written calls)).snapshot_lines hsep hu
  rw [List.nil_append, List.nil_append] at hone
  have hall : linesOf sep (decode (written calls)) =
      if written calls = [] then [] else cut sep (decode (written calls)) := by
    by_cases hb : written calls = []
    · simp [hb, linesOf]
    · rw [linesOf, if_neg (decode_ne_nil hb), if_neg hb]
  have hlook := hl.snapshot_lines hsep hu
  have hend := hl.finish_snapshot hsep hu
  have hend' := (hl.snapshot hsep hu).finish_snapshot hsep hu
  rw [List.append_nil] at hend'
  rw [he] at hlook hend hend'
  refine ⟨whole, _, released sep (decode whole), held sep (decode whole), hw,
    unfinishedEnd_decodeStream _, (released_append_held _ _).symm, isHeld_held hsep _,
    hlook.trans hone.symm, ?_, hend.trans hall, hend'.trans hall⟩
  rw [hlook, ht, linesOf]

/-- The separator and a character are cut in two, with a look at both cuts. -/
theorem looks_independent_of_chunks_return :
    ['\r', '\n'] ≠ [] ∧ Unbordered ['\r', '\n'] ∧
      Call.reset ∉ [.write [0x61, 0x0D], .snapshot, .write [0x0A, 0xC3], .snapshot,
        .write [0xA9, 0x0D, 0xE2]] ∧
      ((new ['\r', '\n']).performAll [.write [0x61, 0x0D], .snapshot, .write [0x0A, 0xC3],
          .snapshot, .write [0xA9, 0x0D, 0xE2]]).snapshot.1 = [['a'], ['é']] ∧
      ((new ['\r', '\n']).performAll [.write [0x61, 0x0D], .snapshot, .write [0x0A, 0xC3],
          .snapshot, .write [0xA9, 0x0D, 0xE2]]).finish.snapshot.1 =
        [['a'], ['é', '\r', '\uFFFD']] := by
  have hsep : ['\r', '\n'] ≠ [] := by decide
  have hu : Unbordered ['\r', '\n'] := by decide
  have hc : Call.reset ∉ [.write [0x61, 0x0D], .snapshot, .write [0x0A, 0xC3], .snapshot,
      .write [0xA9, 0x0D, 0xE2]] := by decide
  obtain ⟨_, _, _, _, -, -, -, -, hlook, -, hend, -⟩ := looks_independent_of_chunks hsep hu hc
  exact ⟨hsep, hu, hc, hlook.trans (by decide), hend.trans (by decide)⟩

end DebugControl.Sink
