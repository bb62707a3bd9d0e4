import DebugControl.Proofs.Session.Trace
import DebugControl.Session.Wait

/-!
# What a controller can do

One lemma for each thing that a controller does: the moments that its success accounts for, and what
it says about its result. A computation is taken apart into such things from its first to its last.
-/

namespace DebugControl.Control

open Session

variable {σ α β : Type} {s t : Session σ}

theorem run_bind_eq_some {c : Control σ α} {f : α → Control σ β} {b : β} :
    (c >>= f).run s = some (b, t) ↔ ∃ a u, c.run s = some (a, u) ∧ (f a).run u = some (b, t) := by
  rw [StateT.run_bind]
  simp only [Option.bind_eq_bind, Option.bind_eq_some_iff, Prod.exists]

theorem run_bind_eq_none {c : Control σ α} {f : α → Control σ β} :
    (c >>= f).run s = none ↔
      c.run s = none ∨ ∃ a u, c.run s = some (a, u) ∧ (f a).run u = none := by
  rw [StateT.run_bind]
  rcases c.run s with _ | ⟨a, u⟩
  · simp
  · simp

theorem run_bind_of_eq_some {c : Control σ α} {f : α → Control σ β} {a : α}
    (h : c.run s = some (a, t)) : (c >>= f).run s = (f a).run t := by
  rw [StateT.run_bind, h]
  rfl

/-- A controller that has a result whatever the host does. -/
def Total (c : Control σ α) : Prop := ∀ s, c.run s ≠ none

theorem Total.bind {c : Control σ α} {f : α → Control σ β} (hc : Total c)
    (hf : ∀ a, Total (f a)) : Total (c >>= f) := by
  intro s h
  rcases run_bind_eq_none.1 h with h | ⟨a, u, -, h⟩
  · exact hc s h
  · exact hf a u h

theorem Total.exists_run {c : Control σ α} (hc : Total c) (s : Session σ) :
    ∃ a t, c.run s = some (a, t) := by
  obtain ⟨⟨a, t⟩, h⟩ := Option.ne_none_iff_exists'.1 (hc s)
  exact ⟨a, t, h⟩

theorem run_pure_eq_some {a b : α} :
    (pure a : Control σ α).run s = some (b, t) ↔ a = b ∧ s = t := by
  rw [StateT.run_pure, Option.pure_def, Option.some.injEq, Prod.mk.injEq]

theorem run_get_eq_some {a : Session σ} :
    (get : Control σ (Session σ)).run s = some (a, t) ↔ s = a ∧ s = t := by
  rw [StateT.run_get, Option.pure_def, Option.some.injEq, Prod.mk.injEq]

theorem timeoutFailure_eq {g : Goal} {terminated : Bool} {f : Failure}
    (h : (timeoutFailure g terminated).run s = some (f, t)) :
    f = .timeout s.timing.silence g.prompt.pattern g.tail terminated ∧ t = s := by
  obtain ⟨rfl, rfl⟩ := Prod.mk.inj (Option.some.inj h)
  exact ⟨rfl, rfl⟩

variable [Host σ]

theorem turn_trace {a : Unit} (h : turn.run s = some (a, t)) :
    ∃ arrivals, Trace s [.received arrivals] t ∧ t.sink = s.sink.receiveAll arrivals := by
  obtain ⟨-, rfl⟩ := Prod.mk.inj (Option.some.inj h)
  exact ⟨_, (Step.turn s).trace, rfl⟩

theorem awaitSink_trace {limit : Nat} {ready : Sink → Bool} {answer : Bool}
    (h : (awaitSink limit ready).run s = some (answer, t)) :
    ∃ arrivals, Trace s [.waited limit arrivals] t ∧ answer = ready t.sink := by
  obtain ⟨rfl, rfl⟩ := Prod.mk.inj (Option.some.inj h)
  exact ⟨_, (Step.await s limit _).trace, rfl⟩

theorem clock_trace {now : Nat} (h : clock.run s = some (now, t)) : Trace s [.timed now] t := by
  obtain ⟨rfl, rfl⟩ := Prod.mk.inj (Option.some.inj h)
  exact (Step.time s).trace

theorem snapshot_trace {reply : List Line} (h : snapshot.run s = some (reply, t)) :
    ∃ arrivals, Trace s [.received arrivals, .looked reply] t ∧ t.sink.lines = reply := by
  obtain ⟨a, u, hturn, hlook⟩ := run_bind_eq_some.1 h
  obtain ⟨arrivals, hp, -⟩ := turn_trace hturn
  obtain ⟨rfl, rfl⟩ := Prod.mk.inj (Option.some.inj hlook)
  exact ⟨arrivals, hp.append (Step.look u).trace, rfl⟩

/-- What arrives before a reset does not change the lines that it takes. -/
theorem reset_trace {reply : List Line} (h : reset.run s = some (reply, t)) :
    reply = s.sink.lines ∧ ∃ arrivals, Trace s [.received arrivals, .took reply] t := by
  obtain ⟨a, u, hturn, htake⟩ := run_bind_eq_some.1 h
  obtain ⟨arrivals, hp, hu⟩ := turn_trace hturn
  obtain ⟨rfl, rfl⟩ := Prod.mk.inj (Option.some.inj htake)
  refine ⟨?_, arrivals, hp.append (Step.take u).trace⟩
  rw [hu]
  exact Sink.receiveAll_lines _ _

theorem exit?_trace {status : Option ExitStatus} (h : exit?.run s = some (status, t)) :
    ∃ arrivals, Trace s [.received arrivals, .probed status] t := by
  obtain ⟨a, u, hturn, hprobe⟩ := run_bind_eq_some.1 h
  obtain ⟨arrivals, hp, -⟩ := turn_trace hturn
  obtain ⟨rfl, rfl⟩ := Prod.mk.inj (Option.some.inj hprobe)
  exact ⟨arrivals, hp.append (Step.probe u).trace⟩

theorem exists_isTerminated (s : Session σ) :
    ∃ terminated t, isTerminated.run s = some (terminated, t) := ⟨_, _, rfl⟩

theorem isTerminated_trace {terminated : Bool} (h : isTerminated.run s = some (terminated, t)) :
    ∃ arrivals status, Trace s [.received arrivals, .probed status] t ∧
      terminated = status.isSome := by
  obtain ⟨status, u, hexit, hanswer⟩ := run_bind_eq_some.1 h
  obtain ⟨arrivals, hp⟩ := exit?_trace hexit
  obtain ⟨rfl, rfl⟩ := run_pure_eq_some.1 hanswer
  exact ⟨arrivals, status, hp, rfl⟩

theorem noteReply_trace {reply : List Line} {a : Unit}
    (h : (noteReply reply).run s = some (a, t)) : Trace s [] t ∧ t.sink = s.sink := by
  obtain ⟨-, rfl⟩ := Prod.mk.inj (Option.some.inj h)
  exact ⟨.noted _ (.done _), rfl⟩

end DebugControl.Control
