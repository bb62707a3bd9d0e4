import DebugControl.Proofs.Sink.Arrivals
import DebugControl.Session.Basic

/-!
# Traces of a session

A trace leads from one session to another through the moments that the history records. Output may
arrive between any two things that the controller does, and the host is free in all that it answers;
a trace says that each answer was given by the host as it was at that moment, and it accounts for
the whole of the sink. Only the log may grow unseen.
-/

namespace DebugControl

namespace Moment

def arrivals : Moment → List Arrival
  | .received a | .waited _ a => a
  | _ => []

def look? : Moment → Option (List Line)
  | .looked reply => some reply
  | _ => none

def took? : Moment → Option (List Line)
  | .took reply => some reply
  | _ => none

def written : Moment → List UInt8
  | .sent bytes (.ok ()) => bytes
  | _ => []

def arrivalsOf (moments : List Moment) : List Arrival := moments.flatMap arrivals

/-- The replies that the controller saw in some moments. -/
def looksOf (moments : List Moment) : List (List Line) := moments.filterMap look?

/-- The replies that the controller took out of the sink in some moments. -/
def takesOf (moments : List Moment) : List (List Line) := moments.filterMap took?

/-- Everything that was written to the debugger in some moments. -/
def sentOf (moments : List Moment) : List UInt8 := moments.flatMap written

@[simp] theorem sentOf_append (a b : List Moment) : sentOf (a ++ b) = sentOf a ++ sentOf b :=
  List.flatMap_append

@[simp] theorem arrivalsOf_append (a b : List Moment) :
    arrivalsOf (a ++ b) = arrivalsOf a ++ arrivalsOf b := List.flatMap_append

@[simp] theorem takesOf_append (a b : List Moment) :
    takesOf (a ++ b) = takesOf a ++ takesOf b := List.filterMap_append

theorem takesOf_append_eq_nil {a b : List Moment} (ha : takesOf a = []) (hb : takesOf b = []) :
    takesOf (a ++ b) = [] := by
  rw [takesOf_append, ha, hb, List.append_nil]

end Moment

/-- What a moment does to the sink. -/
def Sink.undergo (s : Sink) : Moment → Sink
  | .received a | .waited _ a => s.receiveAll a
  | .looked _ => s.snapshot.2
  | .took _ => s.reset.2
  | .probed _ | .timed _ | .sent _ _ | .killed => s

def Sink.undergoAll (s : Sink) (moments : List Moment) : Sink := moments.foldl undergo s

@[simp] theorem Sink.undergoAll_nil (s : Sink) : s.undergoAll [] = s := rfl

@[simp] theorem Sink.undergoAll_cons (s : Sink) (m : Moment) (moments : List Moment) :
    s.undergoAll (m :: moments) = (s.undergo m).undergoAll moments := rfl

theorem Sink.undergoAll_append (s : Sink) (a b : List Moment) :
    s.undergoAll (a ++ b) = (s.undergoAll a).undergoAll b := List.foldl_append

namespace Session

variable {σ : Type}

/-- The session after a moment, but for what the moment does to the host. -/
def afterSink (s : Session σ) (m : Moment) : Session σ :=
  { s with sink := s.sink.undergo m, history := m :: s.history }

variable [Host σ]

/-- What the host answers decides the moment, and the moment decides the sink. -/
inductive Step : Session σ → Moment → Session σ → Prop where
  | turn (s : Session σ) : Step s (.received (Host.turn s.host).1)
      { s.afterSink (.received (Host.turn s.host).1) with host := (Host.turn s.host).2 }
  | await (s : Session σ) (limit : Nat) (ready : List Arrival → Bool) :
      Step s (.waited limit (Host.await limit ready s.host).1)
        { s.afterSink (.waited limit (Host.await limit ready s.host).1) with
          host := (Host.await limit ready s.host).2 }
  | look (s : Session σ) :
      Step s (.looked s.sink.snapshot.1) (s.afterSink (.looked s.sink.snapshot.1))
  | take (s : Session σ) : Step s (.took s.sink.reset.1) (s.afterSink (.took s.sink.reset.1))
  | probe (s : Session σ) :
      Step s (.probed (Host.exit? s.host)) (s.afterSink (.probed (Host.exit? s.host)))
  | time (s : Session σ) :
      Step s (.timed (Host.clock s.host)) (s.afterSink (.timed (Host.clock s.host)))
  | send (s : Session σ) (bytes : List UInt8) : Step s (.sent bytes (Host.send bytes s.host).1)
      { s.afterSink (.sent bytes (Host.send bytes s.host).1) with
        host := (Host.send bytes s.host).2 }
  | kill (s : Session σ) : Step s .killed { s.afterSink .killed with host := Host.kill s.host }

inductive Trace : Session σ → List Moment → Session σ → Prop where
  | done (s : Session σ) : Trace s [] s
  | step {s t u : Session σ} {m : Moment} {moments : List Moment} :
      Step s m t → Trace t moments u → Trace s (m :: moments) u
  | noted {s t : Session σ} {moments : List Moment} (log : List LogEntry) :
      Trace { s with log } moments t → Trace s moments t

variable {s t u : Session σ} {m : Moment} {moments : List Moment}

theorem Step.trace (h : Step s m t) : Trace s [m] t := .step h (.done t)

theorem Trace.append {later : List Moment} (h : Trace s moments t) (h' : Trace t later u) :
    Trace s (moments ++ later) u := by
  induction h with
  | done s => exact h'
  | step hs _ ih => exact .step hs (ih h')
  | noted log _ ih => exact .noted log (ih h')

theorem Trace.uncons (h : Trace s (m :: moments) u) :
    ∃ log t, Step { s with log } m t ∧ Trace t moments u := by
  generalize hl : m :: moments = all at h
  induction h with
  | done s => exact absurd hl (List.cons_ne_nil _ _)
  | @step s t u m' moments' hs hp =>
    obtain ⟨rfl, rfl⟩ := List.cons.inj hl
    exact ⟨s.log, t, hs, hp⟩
  | noted log _ ih => exact ih hl

theorem Trace.split {later : List Moment} (h : Trace s (moments ++ later) u) :
    ∃ t, Trace s moments t ∧ Trace t later u := by
  induction moments generalizing s with
  | nil => exact ⟨s, .done s, h⟩
  | cons m moments ih =>
    obtain ⟨log, t, hs, hp⟩ := h.uncons
    obtain ⟨t', hfirst, hlater⟩ := ih hp
    exact ⟨t', .noted log (.step hs hfirst), hlater⟩

theorem Step.sink_eq (h : Step s m t) : t.sink = s.sink.undergo m := by
  cases h <;> rfl

theorem Step.history_eq (h : Step s m t) : t.history = m :: s.history := by
  cases h <;> rfl

theorem Trace.sink_eq (h : Trace s moments t) : t.sink = s.sink.undergoAll moments := by
  induction h with
  | done s => rfl
  | step hs _ ih => rw [ih, hs.sink_eq, Sink.undergoAll_cons]
  | noted log _ ih => exact ih

theorem Trace.history_eq (h : Trace s moments t) : t.history = moments.reverse ++ s.history := by
  induction h with
  | done s => rfl
  | step hs _ ih =>
    rw [ih, hs.history_eq, List.reverse_cons, List.append_assoc, List.singleton_append]
  | noted log _ ih => exact ih

theorem Trace.look_eq {before after : List Moment} {reply : List Line}
    (h : Trace s (before ++ .looked reply :: after) u) :
    reply = (s.sink.undergoAll before).snapshot.1 := by
  obtain ⟨t, hbefore, hlater⟩ := h.split
  obtain ⟨log, t', hs, -⟩ := hlater.uncons
  rw [← hbefore.sink_eq]
  cases hs with
  | look => rfl

theorem Trace.moments_unique {moments' : List Moment} (h : Trace s moments t)
    (h' : Trace s moments' t) : moments = moments' := by
  have hhistory := h.history_eq.symm.trans h'.history_eq
  exact List.reverse_inj.1 (List.append_cancel_right hhistory)

theorem Trace.timing_eq (h : Trace s moments t) : t.timing = s.timing := by
  induction h with
  | done s => rfl
  | step hs _ ih =>
    rw [ih]
    cases hs <;> rfl
  | noted log _ ih => exact ih

theorem Trace.threadPrompt_eq (h : Trace s moments t) : t.threadPrompt = s.threadPrompt := by
  induction h with
  | done s => rfl
  | step hs _ ih =>
    rw [ih]
    cases hs <;> rfl
  | noted log _ ih => exact ih

end Session

end DebugControl
