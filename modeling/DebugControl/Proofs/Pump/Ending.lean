import DebugControl.Proofs.Pump.Invariant

/-!
# The end of input is not premature

The sink is not finished while a pump holds bytes, and it is opened again only by the start of the
second pump, before which nobody looks. Hence no unfinished character is given up while its last
bytes are on their way, and the controller finds what two streams that were open from the beginning
would have left.
-/

namespace DebugControl.Pump.System

open Text Utf8

variable {y z : System} {e : Event}

theorem Inv.arrivals_eq_of_finished {sep : List Char} (hy : Inv sep y)
    (hf : y.sink.finished = true) (h : y.step e = some z) : z.arrivals = y.arrivals := by
  obtain ⟨source, -, -, rfl⟩ | ⟨i, t, -, ht, rfl⟩ | ⟨-, -, rfl⟩ | ⟨-, -, rfl⟩ := step_cases h
  · rfl
  · have hclosed := isOpen_of_unclosed_eq_zero (hy.finished.1 hf).2 ht
    simp [System.advance, Thread.step_of_closed hclosed]
  · rfl
  · rfl

/-- Only the start of a pump opens a finished sink again. -/
theorem finished_step (hl : y.threads.length = 2) (hf : y.sink.finished = true)
    (h : y.step e = some z) : z.threads.length = 2 ∧ z.sink.finished = true := by
  obtain ⟨source, -, hl', rfl⟩ | ⟨i, t, -, ht, rfl⟩ | ⟨-, -, rfl⟩ | ⟨-, -, rfl⟩ := step_cases h
  · omega
  · exact ⟨List.length_set.trans hl, (Sink.receiveAll_finished _ _).2 (.inl hf)⟩
  · exact ⟨hl, (Sink.absorb_finished _).trans hf⟩
  · exact ⟨hl, hf⟩

theorem finished_run {events : List Event} (hl : y.threads.length = 2)
    (hf : y.sink.finished = true) (h : y.run events = some z) :
    z.threads.length = 2 ∧ z.sink.finished = true := by
  induction events generalizing y with
  | nil =>
    obtain rfl : y = z := Option.some.inj h
    exact ⟨hl, hf⟩
  | cons e events ih =>
    obtain ⟨x, hx, hz⟩ := run_cons_eq_some.1 h
    obtain ⟨hl', hf'⟩ := finished_step hl hf hx
    exact ih hl' hf' hz

def FinishedThroughout (y : System) (events : List Event) : Prop :=
  ∀ k z, y.run (events.take k) = some z → z.sink.finished = true

theorem FinishedThroughout.now {events : List Event} (h : y.FinishedThroughout events) :
    y.sink.finished = true :=
  h 0 y rfl

theorem FinishedThroughout.later {events : List Event} (h : y.FinishedThroughout (e :: events))
    (hx : y.step e = some z) : z.FinishedThroughout events :=
  fun k w hw => h (k + 1) w (run_cons_eq_some.2 ⟨z, hx, hw⟩)

theorem Inv.arrivals_eq {sep : List Char} (hsep : sep ≠ []) (hy : Inv sep y)
    {events : List Event} (hf : y.FinishedThroughout events) (h : y.run events = some z) :
    z.arrivals = y.arrivals := by
  induction events generalizing y with
  | nil =>
    obtain rfl : y = z := Option.some.inj h
    rfl
  | cons e events ih =>
    obtain ⟨x, hx, hz⟩ := run_cons_eq_some.1 h
    have hlater := ih (hy.step hsep hx) (hf.later hx) hz
    exact hlater.trans (hy.arrivals_eq_of_finished hf.now hx)

theorem Inv.delivered_of_closed {sep : List Char} (hsep : sep ≠ []) (hy : Inv sep y)
    (hl : y.threads.length = 2) (hc : y.unclosed = 0) :
    y.takenText ++ join sep y.sink.snapshot.1 = decode y.written := by
  have hf : y.sink.finished = true := hy.finished.2 ⟨by omega, hc⟩
  have hlast := Sink.join_snapshot_of_finished (by rw [hy.separator]; exact hsep) hf
  have hd := hy.delivered [] fun _ _ => rfl
  rw [hy.separator] at hlast
  rw [hlast, hd, List.append_nil]

theorem finished_for_good {sep : List Char} (hsep : sep ≠ []) {schedule events : List Event}
    (h : (initial sep).run schedule = some y) (hl : y.threads.length = 2)
    (hf : y.sink.finished = true) (hz : y.run events = some z) :
    z.sink.finished = true ∧ z.arrivals = y.arrivals := by
  have hy : Inv sep y := (Inv.initial sep).run hsep h
  have hthroughout : y.FinishedThroughout events := fun _ _ hw => (finished_run hl hf hw).2
  exact ⟨(finished_run hl hf hz).2, hy.arrivals_eq hsep hthroughout hz⟩

/-- However two pumps and a controller interleave: the open streams are counted exactly, so that no
closing meets a count of zero; with both pumps started the sink is finished if and only if no stream
is open; nothing is written once the sink is finished for good; and what the controller takes, with
a last look after both streams are closed, is the decoding of all that was written. -/
theorem run_initial_orderly {sep : List Char} (hsep : sep ≠ []) {schedule : List Event}
    (h : (initial sep).run schedule = some y) :
    y.sink.openStreams = y.unclosed ∧
    (∀ t ∈ y.threads, t.stage = .leaving → 0 < y.sink.openStreams) ∧
    (y.threads.length = 2 → (y.sink.finished = true ↔ y.sink.openStreams = 0)) ∧
    (∀ events z, y.run events = some z → y.FinishedThroughout events → z.written = y.written) ∧
    (y.threads.length = 2 → y.unclosed = 0 →
      y.taken.flatMap (join sep) ++ join sep y.sink.snapshot.1 = decode y.written) := by
  have hy : Inv sep y := (Inv.initial sep).run hsep h
  refine ⟨hy.openStreams, ?_, ?_, ?_, ?_⟩
  · intro t ht hleaving
    rw [hy.openStreams]
    exact List.countP_pos_iff.2 ⟨t, ht, by simp [Thread.isOpen, hleaving]⟩
  · intro hl
    rw [hy.finished, hy.openStreams]
    omega
  · intro events z hz hf
    rw [written, hy.arrivals_eq hsep hf hz, written]
  · intro hl hc
    have hd := hy.delivered_of_closed hsep hl hc
    rwa [takenText, hy.separator] at hd

/-- The first pump ends before the second is started and leaves an unfinished character, which the
second completes after the controller has looked. -/
def lateStart : List Event :=
  [.start (.ofEvents [.bytes [0x61, 0xC3], .fault .interrupted]), .advance 0, .advance 0,
    .advance 0, .advance 0, .advance 0, .start (.ofEvents [.bytes [0xA9], .fault .brokenPipe]),
    .snapshot, .advance 1, .reset, .advance 1, .snapshot, .advance 1, .advance 1]

theorem run_initial_orderly_lateStart :
    ['\n'] ≠ [] ∧ ∃ y, (initial ['\n']).run lateStart = some y ∧
      y.taken = [[['a']]] ∧ y.sink.snapshot.1 = [['é']] ∧ y.written = [0x61, 0xC3, 0xA9] ∧
      y.taken.flatMap (join ['\n']) ++ join ['\n'] y.sink.snapshot.1 = decode y.written := by
  have hrun (y : System) (h : (initial ['\n']).run lateStart = some y) :=
    run_initial_orderly (by decide) h
  refine ⟨by decide, _, rfl, by decide, by decide, by decide, ?_⟩
  exact (hrun _ rfl).2.2.2.2 rfl (by decide)

/-! ## The sink that the controller finds -/

/-- Nobody has looked at the sink yet: all that was written waits in it. -/
def Untouched (y : System) : Prop :=
  y.sink.lines = [] ∧ y.sink.carry = [] ∧ y.sink.raw = y.written

theorem Untouched.step (hy : y.Untouched) (he : e ≠ .snapshot ∧ e ≠ .reset)
    (h : y.step e = some z) : z.Untouched := by
  obtain ⟨hlines, hcarry, hraw⟩ := hy
  obtain ⟨source, -, -, rfl⟩ | ⟨i, t, -, -, rfl⟩ | ⟨rfl, -, -⟩ | ⟨rfl, -, -⟩ := step_cases h
  · exact ⟨hlines, hcarry, hraw⟩
  · refine ⟨(Sink.receiveAll_lines _ _).trans hlines, (Sink.receiveAll_carry _ _).trans hcarry, ?_⟩
    simp [System.advance, written, hraw]
  · exact absurd rfl he.1
  · exact absurd rfl he.2

theorem Untouched.run {events : List Event} (hy : y.Untouched)
    (he : ∀ e ∈ events, e ≠ .snapshot ∧ e ≠ .reset) (h : y.run events = some z) :
    z.Untouched := by
  induction events generalizing y with
  | nil =>
    obtain rfl : y = z := Option.some.inj h
    exact hy
  | cons e events ih =>
    obtain ⟨x, hx, hz⟩ := run_cons_eq_some.1 h
    have hux : x.Untouched := hy.step (he e List.mem_cons_self) hx
    exact ih hux (fun e' h' => he e' (List.mem_cons_of_mem _ h')) hz

/-- The controller cannot tell that the pumps started one after the other: it finds what two streams
that were open from the beginning would have left. -/
theorem sink_eq_receiveAll {sep : List Char} (hsep : sep ≠ []) {events : List Event}
    (he : ∀ e ∈ events, e ≠ .snapshot ∧ e ≠ .reset) (h : (initial sep).run events = some y)
    (hl : y.threads.length = 2) :
    y.sink = (Sink.new sep).openStream.openStream.receiveAll y.arrivals := by
  have hy : Inv sep y := (Inv.initial sep).run hsep h
  have hu : y.Untouched := Untouched.run (y := initial sep) ⟨rfl, rfl, rfl⟩ he h
  have hb := hy.balance
  have ho := hy.openStreams
  ext1
  · simp [hy.separator, Sink.openStream, Sink.new]
  · simp [hu.2.2, written, Sink.openStream, Sink.new]
  · simp [hu.2.1, Sink.openStream, Sink.new]
  · simp [hu.1, Sink.openStream, Sink.new]
  · simp only [Sink.receiveAll_openStreams, Sink.openStream, Sink.new]
    omega
  · rw [Bool.eq_iff_iff, Sink.receiveAll_finished, hy.finished]
    simp only [Sink.openStream, Sink.new, Bool.false_eq_true, false_or]
    omega

end DebugControl.Pump.System
