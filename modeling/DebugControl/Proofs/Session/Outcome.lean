import DebugControl.Proofs.Session.Playback
import DebugControl.Proofs.Session.Waiting

/-!
# What the result of a wait means

Whatever the host does, a wait that succeeds has seen its prompt, or the exit that it tolerates; and
a wait that fails says rightly whether the debugger has exited.
-/

namespace DebugControl.Control

open Session Moment

variable {σ : Type} [Host σ] {s t : Session σ} {g : Goal} {r : Except Failure (List Line)}

theorem isMet_iff {reply : List Line} :
    g.isMet reply = true ↔ ∃ line ∈ reply.rtake g.tail, g.prompt.Shows g.simple line :=
  Prompt.matchesTail_iff

theorem isMet_eq_false {reply : List Line} :
    g.isMet reply = false ↔ ∀ line ∈ reply.rtake g.tail, ¬ g.prompt.Shows g.simple line :=
  Prompt.matchesTail_eq_false

theorem waitFor_waited {rounds : Nat} (h : (waitFor rounds g).run s = some (r, t)) :
    ∃ moments, Trace s moments t ∧ Waited g s.timing.silence moments r := by
  obtain ⟨before, last, htrace, hidle, hend⟩ := waitFor_endsIn h
  exact ⟨before ++ last, htrace, hend.waited hidle⟩

theorem sink_of_taken {before : List Moment} {reply : List Line} {arrivals : List Arrival}
    (h : Trace s (before ++ [.looked reply, .received arrivals, .took reply]) t) :
    t.sink.lines = [] ∧ t.sink.raw = arrivedBytes arrivals := by
  have hsink := h.sink_eq
  rw [Sink.undergoAll_append] at hsink
  simp only [Sink.undergoAll_cons, Sink.undergoAll_nil, Sink.undergo] at hsink
  rw [hsink]
  refine ⟨rfl, ?_⟩
  simp [Sink.reset, Sink.snapshot]

/-- A wait that succeeds has seen the prompt in the tail of its last look, whose lines it returns
and takes out of the sink, so that exactly what arrived later waits there; or it tolerates an exit,
has seen one, and the tail of its last look does not show the prompt. A wait that fails is a timeout.
If that says that the debugger has exited, an exit was seen, is not tolerated, and the tail of the
last look does not show the prompt; if it says that the debugger has not, no look of the loop does. -/
theorem waitFor_outcome {rounds : Nat} (h : (waitFor rounds g).run s = some (r, t)) :
    ∃ moments, t.history = moments.reverse ++ s.history ∧ Trace s moments t ∧
      (∀ reply, r = .ok reply →
        (∃ before after, moments = before ++ .looked reply :: after ∧
          reply = (s.sink.undergoAll before).snapshot.1 ∧
          (∃ line ∈ reply.rtake g.tail, g.prompt.Shows g.simple line) ∧
          looksOf after = [] ∧ t.sink.lines = [] ∧
          t.sink.raw = arrivedBytes (arrivalsOf after)) ∨
        (g.orExit = true ∧ (∃ status, .probed (some status) ∈ moments) ∧
          (∃ before, moments = before ++ [.looked reply]) ∧
          ∀ line ∈ reply.rtake g.tail, ¬ g.prompt.Shows g.simple line)) ∧
      (∀ f, r = .error f → ∃ terminated,
        f = .timeout s.timing.silence g.prompt.pattern g.tail terminated ∧
        (terminated = true → g.orExit = false ∧ (∃ status, .probed (some status) ∈ moments) ∧
          ∃ before last, moments = before ++ [.looked last] ∧
            ∀ line ∈ last.rtake g.tail, ¬ g.prompt.Shows g.simple line) ∧
        (terminated = false → ∃ before arrivals last,
          moments = before ++ [.received arrivals, .looked last] ∧
            ∀ reply ∈ looksOf before, ∀ line ∈ reply.rtake g.tail,
              ¬ g.prompt.Shows g.simple line)) := by
  obtain ⟨moments, htrace, hwaited⟩ := waitFor_waited h
  refine ⟨moments, htrace.history_eq, htrace, ?_⟩
  cases hwaited with
  | @met before reply arrivals hunmet hmet =>
    obtain ⟨hlines, hraw⟩ := sink_of_taken htrace
    refine ⟨fun reply' hr => ?_, fun f hf => absurd hf (by simp)⟩
    obtain rfl := Except.ok.inj hr
    refine .inl ⟨before, [.received arrivals, .took reply], rfl, htrace.look_eq,
      isMet_iff.1 hmet, rfl, hlines, ?_⟩
    simpa [arrivalsOf, Moment.arrivals] using hraw
  | @tolerated before reply status hunmet hstatus hmet htolerant =>
    refine ⟨fun reply' hr => ?_, fun f hf => absurd hf (by simp)⟩
    obtain rfl := Except.ok.inj hr
    exact .inr ⟨htolerant, ⟨status, List.mem_append_left _ hstatus⟩, ⟨before, rfl⟩,
      isMet_eq_false.1 hmet⟩
  | @exited before reply status hunmet hstatus hmet htolerant =>
    refine ⟨fun reply' hr => absurd hr (by simp), fun f hf => ⟨true, ?_, fun _ => ?_, by simp⟩⟩
    · exact (Except.error.inj hf).symm
    · exact ⟨htolerant, ⟨status, List.mem_append_left _ hstatus⟩, before, reply, rfl,
        isMet_eq_false.1 hmet⟩
  | @silent before reply arrivals hunmet =>
    refine ⟨fun reply' hr => absurd hr (by simp), fun f hf => ⟨false, ?_, by simp, fun _ => ?_⟩⟩
    · exact (Except.error.inj hf).symm
    · exact ⟨before, arrivals, reply, rfl, fun reply' hr => isMet_eq_false.1 (hunmet reply' hr)⟩

def simplePrompt : Prompt where
  pattern := Notice.simplePrompt
  regex := .seq (.look .textStart)
    (.seq (.seq (.step ⟨[62, 63]⟩) (.step ⟨[32, 33]⟩)) (.look .textEnd))

/-- The first portion does not show the prompt, the second does, and a third arrives between the
look that sees it and the reset. -/
def lateOutput : Session Playback :=
  Playback.session
    ⟨0, [[.wrote [0x61, 0x0A]], [], [], [.wrote [0x3E, 0x20]], [], [.wrote [0x62]]], none⟩
    simplePrompt ⟨50, 5000⟩

theorem waitFor_outcome_lateOutput :
    Prompt.new Notice.simplePrompt = .ok simplePrompt ∧
    ∃ t, (waitFor 2 ⟨simplePrompt, true, 1, false⟩).run lateOutput =
        some (.ok [['a'], ['>', ' ']], t) ∧
      ∃ before after, t.history = (before ++ .looked [['a'], ['>', ' ']] :: after).reverse ∧
        t.sink.lines = [] ∧ t.sink.raw = arrivedBytes (arrivalsOf after) ∧ t.sink.raw = [0x62] := by
  have hrun : ((waitFor 2 ⟨simplePrompt, true, 1, false⟩).run lateOutput).map
      (fun p => (p.1.toOption, p.2.sink.raw)) = some (some [['a'], ['>', ' ']], [0x62]) := by
    decide +kernel
  obtain ⟨⟨r, t⟩, h, hp⟩ := Option.map_eq_some_iff.1 hrun
  obtain ⟨hr, hlate⟩ := Prod.mk.inj hp
  cases r with
  | error f => exact absurd hr (by simp [Except.toOption])
  | ok reply =>
    obtain rfl := Option.some.inj hr
    obtain ⟨moments, hhistory, -, hok, -⟩ := waitFor_outcome h
    obtain ⟨before, after, rfl, -, -, -, hlines, hraw⟩ | ⟨htolerant, -⟩ := hok _ rfl
    · exact ⟨rfl, t, h, before, after, hhistory.trans (List.append_nil _), hlines, hraw, hlate⟩
    · exact absurd htolerant (by decide)

end DebugControl.Control
