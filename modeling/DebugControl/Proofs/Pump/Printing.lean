import DebugControl.Proofs.Pump.Ending
import DebugControl.Proofs.Utf8.Mixing

/-!
# What two pumps print

What a pump has written and what it still holds or finds in its source are all that the source
prints, wherever the reads cut it. So the text that the controller has taken in the end consists of
what both sources print, and how the two are mixed depends on nothing but the order of the writes.
-/

namespace DebugControl

/-- What comes out of a source before its first end of input. An interrupted read is no end. -/
def ReadEvent.printed : List ReadEvent → List UInt8
  | [] => []
  | .bytes [] :: _ => []
  | .bytes (b :: rest) :: events => b :: rest ++ printed events
  | .fault f :: events => if f.kind = .interrupted then printed events else []
  | .ended :: _ => []

def Source.printed (s : Source) : List UInt8 := ReadEvent.printed s.events

theorem Source.printed_eq_deliverable (s : Source) : s.printed = s.deliverable.1 := by
  obtain ⟨events, offered⟩ := s
  unfold printed deliverable
  dsimp only
  fun_induction ReadEvent.printed events with
  | case1 => rfl
  | case2 => rfl
  | case3 b bytes events ih => rw [ih, deliverableFrom, if_neg (List.cons_ne_nil b bytes)]
  | case4 f events hinterrupted ih => rw [ih, deliverableFrom, if_pos hinterrupted]
  | case5 f events hfault => rw [deliverableFrom, if_neg hfault]
  | case6 => rfl

namespace Pump

open Text Utf8

namespace Thread

/-- What a thread is yet to write. -/
def owed (t : Thread) : List UInt8 :=
  match t.stage with
  | .reading => t.source.printed
  | .holding bytes => bytes ++ t.source.printed
  | .leaving => []
  | .closed => []

theorem owed_of_closed {t : Thread} (h : t.isOpen = false) : t.owed = [] := by
  have hstage : t.stage = .closed := by simpa [isOpen] using h
  rw [owed, hstage]

theorem owed_read (source : Source) (forwarded : Nat) :
    owed ⟨stageAfter (source.read bufferSize).1, (source.read bufferSize).2, forwarded⟩ =
      source.printed := by
  rw [Source.printed_eq_deliverable]
  match h : source.read bufferSize with
  | (.ok [], rest) =>
    rw [Source.deliverable_of_read_nil (by decide) h]
    rfl
  | (.ok (b :: bytes), rest) =>
    rw [(Source.deliverable_of_read_bytes (List.cons_ne_nil b bytes) h).1,
      ← Source.printed_eq_deliverable]
    rfl
  | (.error f, rest) =>
    rw [Source.deliverable_of_read_error h, stageAfter]
    split_ifs with hinterrupted
    · exact rest.printed_eq_deliverable
    · rfl

/-- Whatever a thread was yet to write, it has written or is still to write. -/
theorem owed_step (t : Thread) : t.owed = arrivedBytes t.step.1 ++ t.step.2.owed := by
  obtain ⟨stage, source, forwarded⟩ := t
  cases stage with
  | reading => exact (owed_read source forwarded).symm
  | holding bytes => simp [step, owed, arrivedBytes]
  | leaving => rfl
  | closed => rfl

end Thread

namespace System

def started (events : List Event) : List Source :=
  events.filterMap fun
    | .start source => some source
    | _ => none

/-- What a pump writes in one event. The first pump writes stream `false`, the second `true`. -/
def piece (y : System) : Event → List Piece
  | .advance i => y.threads[i]?.toList.map fun t => ⟨i != 0, arrivedBytes t.step.1⟩
  | _ => []

def pieces : System → List Event → List Piece
  | _, [] => []
  | y, e :: events => y.piece e ++ ((y.step e).map fun z => z.pieces events).getD []

def pumps (y : System) (events : List Event) : List Thread :=
  y.threads ++ (started events).map Thread.start

/-- What is yet to come of a stream. -/
def owedBy (threads : List Thread) (i : Bool) : List UInt8 :=
  (threads[i.toNat]?.map Thread.owed).getD []

def totalText (y : System) : List Char := y.takenText ++ join y.sink.separator y.sink.snapshot.1

variable {y z : System} {e : Event} {events : List Event}

theorem written_step (h : y.step e = some z) : z.written = y.written ++ merged (y.piece e) := by
  obtain ⟨source, rfl, -, rfl⟩ | ⟨i, t, rfl, ht, rfl⟩ | ⟨rfl, -, rfl⟩ | ⟨rfl, -, rfl⟩ :=
    step_cases h
  · exact (List.append_nil _).symm
  · simp [written, System.advance, piece, ht]
  · exact (List.append_nil _).symm
  · exact (List.append_nil _).symm

theorem written_run (h : y.run events = some z) :
    z.written = y.written ++ merged (y.pieces events) := by
  induction events generalizing y with
  | nil =>
    obtain rfl : y = z := Option.some.inj h
    exact (List.append_nil _).symm
  | cons e events ih =>
    obtain ⟨x, hx, hz⟩ := run_cons_eq_some.1 h
    rw [ih hz, written_step hx, pieces, hx, merged_append, List.append_assoc]
    rfl

theorem owedBy_set {threads : List Thread} {j : Nat} {t : Thread} (ht : threads[j]? = some t)
    (hl : threads.length ≤ 2) (i : Bool) :
    owedBy threads i =
      bytesOf i [⟨j != 0, arrivedBytes t.step.1⟩] ++ owedBy (threads.set j t.step.2) i := by
  have hj := (List.getElem?_eq_some_iff.1 ht).1
  by_cases hi : i.toNat = j
  · obtain rfl : (j != 0) = i := by
      rw [← hi]
      cases i <;> rfl
    have hnew : (threads.set j t.step.2)[j]? = some t.step.2 := by simp [hj]
    rw [bytesOf_same ⟨j != 0, arrivedBytes t.step.1⟩, owedBy, owedBy, hi, ht, hnew]
    exact t.owed_step
  · have hother : (j != 0) ≠ i := by
      rintro rfl
      obtain rfl | rfl : j = 0 ∨ j = 1 := by omega
      · exact hi rfl
      · exact hi rfl
    rw [bytesOf_other (p := ⟨j != 0, arrivedBytes t.step.1⟩) hother, List.nil_append, owedBy,
      owedBy, List.getElem?_set_ne (Ne.symm hi)]

theorem pumps_step (h : y.step e = some z) (hl : (y.pumps (e :: events)).length ≤ 2) :
    (z.pumps events).length = (y.pumps (e :: events)).length ∧
      ∀ i, owedBy (y.pumps (e :: events)) i =
        bytesOf i (y.piece e) ++ owedBy (z.pumps events) i := by
  obtain ⟨source, rfl, -, rfl⟩ | ⟨j, t, rfl, ht, rfl⟩ | ⟨rfl, -, rfl⟩ | ⟨rfl, -, rfl⟩ :=
    step_cases h
  · have hpumps : (y.start source).pumps events = y.pumps (.start source :: events) := by
      simp [pumps, System.start, started]
    rw [hpumps]
    exact ⟨rfl, fun i => rfl⟩
  · have hj := (List.getElem?_eq_some_iff.1 ht).1
    have hsame : y.pumps (.advance j :: events) = y.pumps events := rfl
    have hpumps : (y.advance j t).pumps events = (y.pumps events).set j t.step.2 :=
      (List.set_append_left j _ hj).symm
    have hpiece : y.piece (.advance j) = [⟨j != 0, arrivedBytes t.step.1⟩] := by
      simp [piece, ht]
    rw [hsame] at hl ⊢
    rw [hpumps, hpiece]
    refine ⟨List.length_set, owedBy_set ?_ hl⟩
    exact (List.getElem?_append_left hj).trans ht
  · exact ⟨rfl, fun i => rfl⟩
  · exact ⟨rfl, fun i => rfl⟩

theorem pumps_run (h : y.run events = some z) (hl : (y.pumps events).length ≤ 2) :
    z.threads.length = (y.pumps events).length ∧
      ∀ i, owedBy (y.pumps events) i = bytesOf i (y.pieces events) ++ owedBy z.threads i := by
  induction events generalizing y with
  | nil =>
    obtain rfl : y = z := Option.some.inj h
    have hpumps : y.pumps [] = y.threads := List.append_nil _
    rw [hpumps]
    exact ⟨rfl, fun i => rfl⟩
  | cons e events ih =>
    obtain ⟨x, hx, hz⟩ := run_cons_eq_some.1 h
    obtain ⟨hlength, howed⟩ := pumps_step hx hl
    obtain ⟨hlength', howed'⟩ := ih hz (hlength.trans_le hl)
    refine ⟨hlength'.trans hlength, fun i => ?_⟩
    rw [howed, howed', pieces, hx, bytesOf_append, List.append_assoc]
    rfl

theorem owedBy_of_closed (hc : y.unclosed = 0) (i : Bool) : owedBy y.threads i = [] := by
  unfold owedBy
  cases ht : y.threads[i.toNat]? with
  | none => rfl
  | some t => exact Thread.owed_of_closed (isOpen_of_unclosed_eq_zero hc ht)

/-- Two pumps print what their sources print: the text is an interleaving of the two texts, in which
U+FFFD stands only where a stream has printed it, if and only if no pump writes while the other has
written only a part of a character. -/
theorem text_interleaved_iff {sep : List Char} (hsep : sep ≠ []) {out err : Source}
    {a b : List Char} (hout : out.printed = encode a) (herr : err.printed = encode b)
    {schedule : List Event} (hs : started schedule = [out, err])
    (h : (initial sep).run schedule = some y) (hc : y.unclosed = 0) :
    (Interleaved a b y.totalText ↔ Whole ((initial sep).pieces schedule)) ∧
    (Whole ((initial sep).pieces schedule) →
      y.totalText.count replacement = a.count replacement + b.count replacement) := by
  have hpumps : (initial sep).pumps schedule = [.start out, .start err] := by
    rw [pumps, hs]
    rfl
  obtain ⟨hlength, howed⟩ := pumps_run h (by rw [hpumps]; exact le_rfl)
  rw [hpumps] at hlength howed
  have hfalse : bytesOf false ((initial sep).pieces schedule) = encode a := by
    have hprinted := howed false
    rw [owedBy_of_closed hc, List.append_nil] at hprinted
    exact hprinted.symm.trans hout
  have htrue : bytesOf true ((initial sep).pieces schedule) = encode b := by
    have hprinted := howed true
    rw [owedBy_of_closed hc, List.append_nil] at hprinted
    exact hprinted.symm.trans herr
  have hy : Inv sep y := (Inv.initial sep).run hsep h
  have htext : y.totalText = decode (merged ((initial sep).pieces schedule)) := by
    have hd := hy.delivered_of_closed hsep hlength hc
    rw [totalText, hy.separator, hd, written_run h]
    rfl
  have hiff := interleaved_iff_whole hfalse htrue
  rw [← htext] at hiff
  refine ⟨hiff, fun hwhole => ?_⟩
  rw [(hiff.2 hwhole).perm.count_eq, List.count_append]

def halves : Source := .ofEvents [.bytes [0xC3], .fault .interrupted, .bytes [0xA9]]

def single : Source := .ofEvents [.bytes [0x78]]

/-- The second pump writes when the first has written both bytes of `é`. -/
def inTurn : List Event :=
  [.start halves, .advance 0, .advance 0, .start single, .advance 0, .snapshot, .advance 1,
    .advance 0, .advance 0, .snapshot, .advance 1, .reset, .advance 1, .advance 1, .advance 0,
    .advance 0]

/-- The second pump writes when the first has written one byte of `é`. -/
def amidst : List Event :=
  [.start halves, .start single, .advance 0, .advance 0, .snapshot, .advance 1, .advance 1,
    .snapshot, .advance 0, .advance 0, .advance 0, .advance 1, .advance 1, .advance 0, .advance 0]

theorem text_interleaved_iff_inTurn :
    ['\n'] ≠ [] ∧ halves.printed = encode ['é'] ∧ single.printed = encode ['x'] ∧
      started inTurn = [halves, single] ∧ ∃ y, (initial ['\n']).run inTurn = some y ∧
        y.unclosed = 0 ∧ y.totalText = ['é', 'x'] ∧ Whole ((initial ['\n']).pieces inTurn) := by
  have hall (y : System) (h : (initial ['\n']).run inTurn = some y) :=
    text_interleaved_iff (a := ['é']) (b := ['x']) (by decide) rfl rfl rfl h
  refine ⟨by decide, rfl, rfl, rfl, _, rfl, by decide, by decide, ?_⟩
  exact (hall _ rfl (by decide)).1.1 (.left (.right .done))

theorem text_not_interleaved_amidst :
    halves.printed = encode ['é'] ∧ single.printed = encode ['x'] ∧
      started amidst = [halves, single] ∧ ∃ y, (initial ['\n']).run amidst = some y ∧
        y.unclosed = 0 ∧ y.totalText = ['\uFFFD', 'x', '\uFFFD'] ∧
        ¬ Interleaved ['é'] ['x'] y.totalText := by
  refine ⟨rfl, rfl, rfl, _, rfl, by decide, by decide, fun h => ?_⟩
  have hlength := h.length_eq
  revert hlength
  decide

end System

end Pump

end DebugControl
