import DebugControl.Proofs.Session.Commands
import DebugControl.Proofs.Session.Conservation

/-!
# Calls

A call sends a command or waits for a prompt. Whatever happens during a call, nothing is taken out of
the sink before its last look; what a successful call returns is what that look showed. A reply that
shows the prompt, and the remainder of a debugger that had exited before, are taken out right after
the look, and a reply that ends with a tolerated exit stays in the sink. A call that fails takes
nothing, so that the sink owes its reader all that it owed before, and what arrived.
-/

namespace DebugControl.Control

open Session Moment Text Utf8

inductive Call where
  | command (c : Command)
  | quit
  | waitForPattern (pattern : String) (simple : Bool) (tail : Nat) (orExit : Bool)
  | waitForSimplePrompt

namespace Call

variable {σ : Type} [Host σ]

def perform (rounds : Nat) : Call → Control σ (Except Failure (List Line))
  | .command c => Control.command rounds c
  | .quit => Control.quit rounds
  | .waitForPattern pattern simple tail orExit =>
    Control.waitForPattern rounds pattern simple tail orExit
  | .waitForSimplePrompt => Control.waitForSimplePrompt rounds

/-- Whether a call puts up with the exit of the debugger. -/
def orExit : Call → Bool
  | .command c => c.allowExit
  | .quit => true
  | .waitForPattern _ _ _ orExit => orExit
  | .waitForSimplePrompt => false

end Call

/-- The moments of a call and its result. -/
inductive Called (orExit : Bool) : List Moment → Except Failure (List Line) → Prop where
  | taken (early : List Moment) {reply : List Line} (arrivals : List Arrival) :
      takesOf early = [] →
      Called orExit (early ++ [.looked reply, .received arrivals, .took reply]) (.ok reply)
  | left (early : List Moment) {reply : List Line} {status : ExitStatus} :
      takesOf early = [] → .probed (some status) ∈ early → orExit = true →
      Called orExit (early ++ [.looked reply]) (.ok reply)
  | failed {moments : List Moment} {f : Failure} :
      takesOf moments = [] → Called orExit moments (.error f)

section Moments

variable {orExit : Bool} {first moments : List Moment} {r : Except Failure (List Line)}

theorem Called.prepend (hf : takesOf first = []) (h : Called orExit moments r) :
    Called orExit (first ++ moments) r := by
  cases h with
  | taken early arrivals he =>
    rw [← List.append_assoc]
    exact .taken _ arrivals (takesOf_append_eq_nil hf he)
  | left early he hs ho =>
    rw [← List.append_assoc]
    exact .left _ (takesOf_append_eq_nil hf he) (List.mem_append_right _ hs) ho
  | failed hm => exact .failed (takesOf_append_eq_nil hf hm)

/-- A successful call returns what its last look showed. -/
theorem Called.look {reply : List Line} (h : Called orExit moments (.ok reply)) :
    ∃ early last, moments = early ++ .looked reply :: last ∧ takesOf early = [] := by
  cases h with
  | taken early arrivals he => exact ⟨early, _, rfl, he⟩
  | left early he _ _ => exact ⟨early, _, rfl, he⟩

theorem Called.takesOf_eq_nil {f : Failure} (h : Called orExit moments (.error f)) :
    takesOf moments = [] := by
  cases h with
  | failed hm => exact hm

theorem Ending.called {g : Goal} {silence : Duration} {last : List Moment}
    (h : Ending g silence last r) : Called g.orExit last r := by
  cases h with
  | met arrivals _ => exact .taken [] arrivals rfl
  | silent arrivals => exact .failed rfl
  | @exited status limit late arrivals reply verdict r hj =>
    cases hj with
    | shown arrivals' _ =>
      exact .taken [.probed (some status), .waited limit late, .received arrivals] arrivals' rfl
    | tolerated _ ho =>
      exact .left [.probed (some status), .waited limit late, .received arrivals] rfl
        List.mem_cons_self ho
    | refused _ _ => exact .failed rfl

end Moments

variable {σ : Type} [Host σ] {s t u v : Session σ} {r : Except Failure (List Line)}

def CallsTo (orExit : Bool) (s : Session σ) (r : Except Failure (List Line)) (t : Session σ) :
    Prop :=
  ∃ moments, Trace s moments t ∧ Called orExit moments r

theorem CallsTo.prepend {orExit : Bool} {first : List Moment} (h : Trace s first u)
    (hf : takesOf first = []) (hu : CallsTo orExit u r t) : CallsTo orExit s r t := by
  obtain ⟨moments, ht, hc⟩ := hu
  exact ⟨first ++ moments, h.append ht, hc.prepend hf⟩

theorem callsTo_of_failed {orExit : Bool} {f : Failure} {moments : List Moment}
    (h : Trace s moments t) (hm : takesOf moments = []) : CallsTo orExit s (.error f) t :=
  ⟨moments, h, .failed hm⟩

theorem waitFor_callsTo {g : Goal} {rounds : Nat} (h : (waitFor rounds g).run s = some (r, t)) :
    CallsTo g.orExit s r t := by
  obtain ⟨before, last, htrace, hidle, hend⟩ := waitFor_endsIn h
  exact ⟨before ++ last, htrace, hend.called.prepend (takesOf_of_idle hidle)⟩

theorem waitForPattern_callsTo {rounds : Nat} {pattern : String} {simple orExit : Bool}
    {tail : Nat} (h : (waitForPattern rounds pattern simple tail orExit).run s = some (r, t)) :
    CallsTo orExit s r t := by
  rw [waitForPattern] at h
  split at h
  · obtain ⟨rfl, rfl⟩ := run_pure_eq_some.1 h
    exact callsTo_of_failed (.done s) rfl
  · exact waitFor_callsTo h

theorem Asked.called {c : Command} {silence : Duration} {prompt : Prompt} {moments : List Moment}
    (h : Asked c silence prompt moments r) : Called c.allowExit moments r := by
  cases h with
  | unwritten hwrote => exact .failed hwrote.takesOf_eq_nil
  | awaited hwrote hidle hend _ =>
    exact (hend.called.prepend (takesOf_of_idle hidle)).prepend hwrote.takesOf_eq_nil

theorem Commanded.called {c : Command} {silence : Duration} {prompt : Prompt}
    {moments : List Moment} (h : Commanded c silence prompt moments r) :
    Called c.allowExit moments r := by
  cases h with
  | @remainder arrivals late arrivals' arrivals'' status limit reply _ =>
    exact .taken [.received arrivals, .probed (some status), .waited limit late,
      .received arrivals'] arrivals'' rfl
  | tooLate _ => exact .failed rfl
  | asked arrivals hasked => exact hasked.called.prepend rfl

theorem command_callsTo {rounds : Nat} {c : Command}
    (h : (command rounds c).run s = some (r, t)) : CallsTo c.allowExit s r t := by
  obtain ⟨moments, htrace, hcommanded⟩ := command_commanded h
  exact ⟨moments, htrace, hcommanded.called⟩

theorem perform_callsTo {rounds : Nat} {c : Call} (h : (c.perform rounds).run s = some (r, t)) :
    CallsTo c.orExit s r t := by
  cases c with
  | command c => exact command_callsTo h
  | quit => exact command_callsTo h
  | waitForPattern pattern simple tail orExit => exact waitForPattern_callsTo h
  | waitForSimplePrompt =>
    have hwait : (waitForPattern rounds Notice.simplePrompt true 1 false).run s = some (r, t) := h
    exact waitForPattern_callsTo hwait

end DebugControl.Control
