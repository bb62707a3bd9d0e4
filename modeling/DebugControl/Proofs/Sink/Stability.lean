import DebugControl.Proofs.Sink.Lines

/-!
# Lines that were shown stay

Nothing but a reset takes lines out of a sink. Whatever else happens between two looks, the second
shows the lines of the first again, though the last of them may have been continued and new ones may
have come behind it. If no more than new streams were opened, the two looks show the same.
-/

namespace DebugControl.Sink

/-- `later` has the lines of `earlier`, the last of them maybe continued, and maybe more. -/
structure Extends (earlier later : List Line) : Prop where
  length_le : earlier.length ≤ later.length
  kept : ∀ i, i + 1 < earlier.length → later[i]? = earlier[i]?
  continued : ∀ i line, i + 1 = earlier.length → earlier[i]? = some line →
    ∃ whole, later[i]? = some whole ∧ line <+: whole

namespace Extends

variable {first second third : List Line}

theorem refl (lines : List Line) : Extends lines lines where
  length_le := Nat.le_refl _
  kept _ _ := rfl
  continued _ line _ hline := ⟨line, hline, List.prefix_rfl⟩

theorem nil (later : List Line) : Extends [] later where
  length_le := Nat.zero_le _
  kept _ hi := absurd hi (Nat.not_lt_zero _)
  continued _ _ hi := absurd hi (Nat.succ_ne_zero _)

theorem singleton {line whole : Line} (h : line <+: whole) (later : List Line) :
    Extends [line] (whole :: later) where
  length_le := Nat.le_add_left _ _
  kept i hi := absurd (Nat.lt_of_succ_lt_succ hi) (Nat.not_lt_zero i)
  continued i line' hi hline := by
    obtain rfl : i = 0 := Nat.succ.inj hi
    obtain rfl : line = line' := Option.some.inj hline
    exact ⟨whole, rfl, h⟩

theorem cons (line : Line) (h : Extends first second) (hfirst : first ≠ []) :
    Extends (line :: first) (line :: second) where
  length_le := Nat.succ_le_succ h.length_le
  kept i hi := by
    cases i with
    | zero => rfl
    | succ i => exact h.kept i (Nat.lt_of_succ_lt_succ hi)
  continued i last hi hlast := by
    cases i with
    | zero => exact absurd (List.length_eq_zero_iff.1 (Nat.succ.inj hi).symm) hfirst
    | succ i => exact h.continued i last (Nat.succ.inj hi) hlast

theorem trans (h : Extends first second) (h' : Extends second third) : Extends first third where
  length_le := h.length_le.trans h'.length_le
  kept i hi := (h'.kept i (hi.trans_le h.length_le)).trans (h.kept i hi)
  continued i line hi hline := by
    obtain ⟨whole, hwhole, hprefix⟩ := h.continued i line hi hline
    -- A line that was the last one is final as soon as another stands behind it.
    by_cases hlast : i + 1 = second.length
    · obtain ⟨final, hfinal, hlonger⟩ := h'.continued i whole hlast hwhole
      exact ⟨final, hfinal, hprefix.trans hlonger⟩
    · have hlt : i + 1 < second.length := lt_of_le_of_ne (hi.trans_le h.length_le) hlast
      exact ⟨whole, (h'.kept i hlt).trans hwhole, hprefix⟩

end Extends

theorem extends_continueLines (lines pieces : List Line) :
    Extends lines (continueLines lines pieces) := by
  fun_induction continueLines lines pieces with
  | case1 lines => exact .refl lines
  | case2 pieces => exact .nil pieces
  | case3 last piece rest => exact .singleton (List.prefix_append last piece) rest
  | case4 line lines pieces hpieces hlines ih =>
    refine ih.cons line fun hnil => ?_
    obtain ⟨piece, rest, hcons⟩ := List.exists_cons_of_ne_nil hpieces
    exact hlines piece rest hcons hnil

theorem extends_addText (s : Sink) (text : List Char) : Extends s.lines (s.addText text).lines := by
  unfold addText
  split_ifs
  · exact .refl s.lines
  · exact extends_continueLines s.lines _

theorem extends_absorb (s : Sink) : Extends s.lines s.absorb.lines := by
  obtain ⟨s', text, habsorb, -, hlines⟩ := s.exists_absorb_eq_addText
  rw [habsorb, ← hlines]
  exact extends_addText s' text

/-! ## What may happen between two looks -/

/-- Whatever may happen to a sink but a reset. -/
inductive Event where
  | wrote (bytes : List UInt8)
  | looked
  | finished
  | opened
  | closed
deriving Repr, DecidableEq

def happen (s : Sink) : Event → Sink
  | .wrote bytes => s.write bytes
  | .looked => s.snapshot.2
  | .finished => s.finish
  | .opened => s.openStream
  | .closed => s.closeStream

def happenAll (s : Sink) (events : List Event) : Sink := events.foldl happen s

@[simp] theorem happenAll_nil (s : Sink) : s.happenAll [] = s := rfl

@[simp] theorem happenAll_cons (s : Sink) (e : Event) (events : List Event) :
    s.happenAll (e :: events) = (s.happen e).happenAll events := rfl

theorem extends_happen (s : Sink) (e : Event) : Extends s.lines (s.happen e).lines := by
  cases e with
  | wrote bytes => exact .refl s.lines
  | looked => exact extends_absorb s
  | finished => exact .refl s.lines
  | opened => exact .refl s.lines
  | closed => exact .refl s.lines

theorem extends_happenAll (s : Sink) (events : List Event) :
    Extends s.lines (s.happenAll events).lines := by
  induction events generalizing s with
  | nil => exact .refl s.lines
  | cons e events ih => exact (extends_happen s e).trans (ih (s.happen e))

def Event.isQuiet : Event → Bool
  | .looked | .opened => true
  | .wrote _ | .finished | .closed => false

theorem lines_happenAll_of_quiet {s : Sink} (hs : s.hasPending = false) {events : List Event}
    (h : ∀ e ∈ events, e.isQuiet = true) :
    (s.happenAll events).hasPending = false ∧ (s.happenAll events).lines = s.lines := by
  induction events generalizing s with
  | nil => exact ⟨hs, rfl⟩
  | cons e events ih =>
    obtain ⟨hfirst, hlater⟩ := List.forall_mem_cons.1 h
    cases e with
    | looked =>
      have hsame : s.snapshot.2 = s := absorb_of_not_pending hs
      rw [happenAll_cons, happen, hsame]
      exact ih hs hlater
    | opened =>
      have hraw : s.raw = [] := (hasPending_eq_false.1 hs).1
      have hopen : s.openStream.hasPending = false :=
        hasPending_eq_false.2 ⟨hraw, fun hfinished => absurd hfinished Bool.false_ne_true⟩
      exact ih hopen hlater
    | wrote bytes => exact absurd hfirst Bool.false_ne_true
    | finished => exact absurd hfirst Bool.false_ne_true
    | closed => exact absurd hfirst Bool.false_ne_true

/-- The lines that a look showed are there at every later look, only the last of them may have
grown; and where nothing was written and no input ended in between, nothing has changed at all. -/
theorem shown_lines_stay (s : Sink) (events : List Event) :
    Extends s.snapshot.1 (s.snapshot.2.happenAll events).snapshot.1 ∧
      ((∀ e ∈ events, e.isQuiet = true) →
        (s.snapshot.2.happenAll events).snapshot.1 = s.snapshot.1) := by
  refine ⟨(extends_happenAll s.absorb events).trans (extends_absorb _), fun hquiet => ?_⟩
  obtain ⟨hpending, hlines⟩ := lines_happenAll_of_quiet (hasPending_absorb s) hquiet
  have hsame : (s.absorb.happenAll events).absorb = s.absorb.happenAll events :=
    absorb_of_not_pending hpending
  exact (congrArg Sink.lines hsame).trans hlines

/-- A sink whose input ended within a separator and within a character is opened again. -/
theorem shown_lines_stay_reopened :
    let s := (new ['\r', '\n']).happenAll
      [.opened, .wrote [0x61, 0x0D, 0x0A, 0x62, 0x0D, 0xE2], .looked, .closed]
    (∀ e ∈ [Event.opened, .looked], e.isQuiet = true) ∧
      s.snapshot.1 = [['a'], ['b', '\r', '\uFFFD']] ∧
      (s.snapshot.2.happenAll [.opened, .looked]).snapshot.1 = [['a'], ['b', '\r', '\uFFFD']] :=
  ⟨by decide, by decide, ((shown_lines_stay _ _).2 (by decide)).trans (by decide)⟩

end DebugControl.Sink
