import DebugControl.Proofs.Session.Streams
import DebugControl.Proofs.Sink.Lines

/-!
# Nothing is lost between a debugger and its controller

A session is connected if its sink counts the streams of its host: then the sink is finished exactly
when no stream is open, and nothing arrives at a finished sink. Every moment of a session keeps this.
What the controller takes out of the sink in some moments, together with what the sink owes after
them, is therefore what it owed before them, followed by what arrived.
-/

namespace DebugControl

open Text Utf8

theorem Sink.receiveAll_counts {s : Sink} {n : Nat} {arrivals : List Arrival}
    (hf : s.finished = true ↔ s.openStreams = 0)
    (ha : openAfter s.openStreams arrivals = some n) :
    (s.receiveAll arrivals).openStreams = n ∧
      ((s.receiveAll arrivals).finished = true ↔ (s.receiveAll arrivals).openStreams = 0) := by
  have hc := eq_add_closings ha
  have ho := receiveAll_openStreams s arrivals
  refine ⟨by omega, ?_⟩
  rw [receiveAll_finished, hf, ho]
  by_cases h0 : s.openStreams = 0
  · simp [h0]
  · omega

def Moment.takenText (moments : List Moment) : List Char :=
  (takesOf moments).flatMap (join ['\n'])

@[simp] theorem Moment.takenText_append (a b : List Moment) :
    takenText (a ++ b) = takenText a ++ takenText b := by
  simp [takenText]

namespace Session

open Moment

variable {σ : Type} {spawn : String → List String → Except Fault σ} {program : String}
  {args : List String} {timing : Timing} {s t : Session σ} {m : Moment} {moments : List Moment}

theorem launch_eq_ok (h : launch spawn program args timing = .ok s) :
    ∃ threadPrompt host, Prompt.new Notice.threadPromptPattern = .ok threadPrompt ∧
      spawn program args = .ok host ∧
      s = ⟨program, timing, threadPrompt, freshSink, host,
        [.launching (" ".intercalate (program :: args))], []⟩ := by
  simp only [launch, bind, Except.bind, pure, Except.pure] at h
  split at h
  · simp at h
  · split at h
    · simp at h
    · next threadPrompt hprompt =>
      split at h
      · simp at h
      · next host hspawn => exact ⟨threadPrompt, host, hprompt, hspawn, (Except.ok.inj h).symm⟩

variable [Host σ]

structure Connected (s : Session σ) : Prop where
  lined : s.sink.Lined
  streams : Host.Streams s.host s.sink.openStreams
  finished : s.sink.finished = true ↔ s.sink.openStreams = 0

/-- A session in which nothing has happened since the debugger was launched with two streams. -/
structure Launched (s : Session σ) : Prop where
  sink : s.sink = freshSink
  history : s.history = []
  streams : Host.Streams s.host 2

theorem launched_of_launch (h : launch spawn program args timing = .ok s)
    (hs : Host.Streams s.host 2) : s.Launched := by
  obtain ⟨threadPrompt, host, -, -, rfl⟩ := launch_eq_ok h
  exact ⟨rfl, rfl, hs⟩

theorem Launched.connected (h : s.Launched) : s.Connected where
  lined := by
    rw [h.sink]
    exact ⟨rfl, fun hc => absurd rfl hc, [], rfl⟩
  streams := by
    rw [h.sink]
    exact h.streams
  finished := by
    rw [h.sink]
    decide

namespace Connected

theorem received {arrivals : List Arrival} {host : σ} (hs : s.Connected)
    (hh : ∃ n, openAfter s.sink.openStreams arrivals = some n ∧ Host.Streams host n) :
    Connected { s.afterSink (.received arrivals) with host } := by
  obtain ⟨n, ha, hn⟩ := hh
  obtain ⟨ho, hf⟩ := Sink.receiveAll_counts hs.finished ha
  exact ⟨hs.lined.receiveAll arrivals, ho ▸ hn, hf⟩

theorem step (hs : s.Connected) (h : Step s m t) : t.Connected := by
  cases h with
  | turn => exact hs.received hs.streams.turn
  | await limit ready =>
    have hr := hs.received (hs.streams.await limit ready)
    exact ⟨hr.lined, hr.streams, hr.finished⟩
  | look =>
    refine ⟨hs.lined.absorb, ?_, ?_⟩
    · exact (Sink.absorb_openStreams s.sink).symm ▸ hs.streams
    · change s.sink.absorb.finished = true ↔ s.sink.absorb.openStreams = 0
      rw [Sink.absorb_finished, Sink.absorb_openStreams]
      exact hs.finished
  | take => exact ⟨hs.lined.reset, hs.streams, hs.finished⟩
  | probe => exact ⟨hs.lined, hs.streams, hs.finished⟩
  | time => exact ⟨hs.lined, hs.streams, hs.finished⟩
  | send bytes => exact ⟨hs.lined, hs.streams.send bytes, hs.finished⟩
  | kill => exact ⟨hs.lined, hs.streams.kill, hs.finished⟩

theorem noted (hs : s.Connected) (log : List LogEntry) : Connected { s with log } :=
  ⟨hs.lined, hs.streams, hs.finished⟩

theorem trace (hs : s.Connected) (h : Trace s moments t) : t.Connected := by
  induction h with
  | done s => exact hs
  | step hstep _ ih => exact ih (hs.step hstep)
  | noted log _ ih => exact ih (hs.noted log)

theorem silent_step (hs : s.Connected) (h0 : s.sink.openStreams = 0) (h : Step s m t) :
    m.arrivals = [] ∧ t.sink.openStreams = 0 := by
  have arrivals_eq : ∀ {arrivals : List Arrival} {host : σ},
      (∃ n, openAfter s.sink.openStreams arrivals = some n ∧ Host.Streams host n) →
        arrivals = [] := by
    rintro arrivals host ⟨n, ha, -⟩
    rw [h0] at ha
    exact openAfter_zero ha
  have silent : ∀ {arrivals : List Arrival}, arrivals = [] →
      (s.sink.receiveAll arrivals).openStreams = 0 := by
    rintro _ rfl
    exact h0
  cases h with
  | turn =>
    have ha := arrivals_eq hs.streams.turn
    exact ⟨ha, silent ha⟩
  | await limit ready =>
    have ha := arrivals_eq (hs.streams.await limit ready)
    exact ⟨ha, silent ha⟩
  | look => exact ⟨rfl, (Sink.absorb_openStreams s.sink).trans h0⟩
  | take => exact ⟨rfl, h0⟩
  | probe => exact ⟨rfl, h0⟩
  | time => exact ⟨rfl, h0⟩
  | send bytes => exact ⟨rfl, h0⟩
  | kill => exact ⟨rfl, h0⟩

theorem silent (hs : s.Connected) (h0 : s.sink.openStreams = 0) (h : Trace s moments t) :
    arrivalsOf moments = [] ∧ t.sink.openStreams = 0 := by
  induction h with
  | done s => exact ⟨rfl, h0⟩
  | step hstep _ ih =>
    obtain ⟨ha, ho⟩ := hs.silent_step h0 hstep
    obtain ⟨hlater, ht⟩ := ih (hs.step hstep) ho
    refine ⟨?_, ht⟩
    rw [arrivalsOf, List.flatMap_cons, ha]
    exact hlater
  | noted log _ ih => exact ih (hs.noted log) h0

/-- One moment moves text from those that are yet to come into the sink, or from there to the
controller, or none at all. -/
theorem conserved_step (hs : s.Connected) (h : Step s m t) {rest : List UInt8}
    (hr : t.sink.openStreams = 0 → rest = []) :
    takenText [m] ++ t.sink.undelivered rest =
      s.sink.undelivered (arrivedBytes m.arrivals ++ rest) := by
  have hsep := hs.lined.separator
  cases h with
  | turn => exact Sink.undelivered_receiveAll _ _ _
  | await limit ready => exact Sink.undelivered_receiveAll _ _ _
  | look =>
    refine Sink.undelivered_absorb hs.lined.separator_ne_nil fun hf => hr ?_
    exact (Sink.absorb_openStreams s.sink).trans (hs.finished.1 hf)
  | take =>
    have ht : takenText [.took s.sink.reset.1] = join s.sink.separator s.sink.reset.1 := by
      rw [hsep]
      exact List.append_nil _
    rw [ht]
    exact Sink.join_reset_append s.sink rest
  | probe => rfl
  | time => rfl
  | send bytes => rfl
  | kill => rfl

/-- What the controller took and what the sink still owes make up what the sink owed before,
followed by what arrived. -/
theorem conserved (hs : s.Connected) (h : Trace s moments t) {rest : List UInt8}
    (hr : t.sink.openStreams = 0 → rest = []) :
    takenText moments ++ t.sink.undelivered rest =
      s.sink.undelivered (arrivedBytes (arrivalsOf moments) ++ rest) := by
  induction h with
  | done s => rfl
  | @step s t u m moments hstep htrace ih =>
    have ht := hs.step hstep
    -- A look at closed streams gives up what is carried, so nothing may come after it.
    have hlater : t.sink.openStreams = 0 → arrivedBytes (arrivalsOf moments) ++ rest = [] := by
      intro h0
      obtain ⟨ha, hu⟩ := ht.silent h0 htrace
      rw [ha, hr hu]
      rfl
    have htaken : takenText (m :: moments) = takenText [m] ++ takenText moments :=
      takenText_append [m] moments
    have harrived : arrivalsOf (m :: moments) = m.arrivals ++ arrivalsOf moments := rfl
    rw [htaken, List.append_assoc, ih ht hr, hs.conserved_step hstep hlater, harrived,
      arrivedBytes_append, List.append_assoc]
  | noted log _ ih => exact ih (hs.noted log) hr

theorem kept (hs : s.Connected) (h : Trace s moments t) (hm : takesOf moments = []) :
    t.sink.undelivered [] = s.sink.undelivered (arrivedBytes (arrivalsOf moments)) := by
  have hc : takenText moments ++ t.sink.undelivered [] = _ := hs.conserved h fun _ => rfl
  rwa [takenText, hm, List.flatMap_nil, List.nil_append, List.append_nil] at hc

/-- As long as nothing is taken, a look shows all that the sink owed and what has arrived since, up
to an unfinished character at the end. -/
theorem look_text {early last : List Moment} {reply : List Line} (hs : s.Connected)
    (h : Trace s (early ++ .looked reply :: last) t) (hearly : takesOf early = []) :
    ∃ tail, (tail ≠ [] → Unfinished tail) ∧
      join ['\n'] reply ++ decode tail = s.sink.undelivered (arrivedBytes (arrivalsOf early)) := by
  obtain ⟨u, hbefore, -⟩ := h.split
  have hu := hs.trace hbefore
  refine ⟨u.sink.absorb.carry, hu.lined.absorb.carry, ?_⟩
  rw [← hs.kept hbefore hearly, h.look_eq, ← hbefore.sink_eq]
  exact hu.lined.join_snapshot

theorem look_lines {early last : List Moment} {reply : List Line} (hs : s.Connected)
    (h : Trace s (early ++ .looked reply :: last) t)
    (hclosed : (s.sink.undergoAll early).openStreams = 0) :
    ∃ text, takenText early ++ text = s.sink.undelivered (arrivedBytes (arrivalsOf early)) ∧
      reply = Sink.linesOf ['\n'] text := by
  obtain ⟨u, hbefore, -⟩ := h.split
  have hu := hs.trace hbefore
  have hc : takenText early ++ u.sink.undelivered [] = _ := hs.conserved hbefore fun _ => rfl
  rw [List.append_nil] at hc
  refine ⟨_, hc, ?_⟩
  rw [← hbefore.sink_eq] at hclosed
  rw [h.look_eq, ← hbefore.sink_eq]
  exact hu.lined.snapshot_of_finished (hu.finished.2 hclosed)

end Connected

theorem Launched.conserved (hs : s.Launched) (h : Trace s moments t) :
    takenText moments ++ t.sink.undelivered [] = decode (arrivedBytes (arrivalsOf moments)) := by
  rw [hs.connected.conserved h fun _ => rfl, hs.sink, List.append_nil]
  rfl

end Session

end DebugControl
