import DebugControl.Proofs.Session.Calls
import DebugControl.Proofs.Session.Outcome
import DebugControl.Script.Execution

/-!
# Acts of an execution

An execution awaits the first prompt of the debugger and then performs steps. Each of these acts
leaves one entry under its label, and an act that fails is the last one: the acts are those of a
beginning of the script, and nothing is asked of the session after the first entry with an error.
-/

namespace DebugControl.Script

open Control

/-- What an execution does. -/
inductive Act where
  | startup
  | step (s : Step)
deriving DecidableEq

namespace Act

def label : Act → String
  | startup => "@startup"
  | step s => s.label

def call? : Act → Option Call
  | startup => some .waitForSimplePrompt
  | step (.send c) => some (.command c)
  | step .waitPrompt => some .waitForSimplePrompt
  | step .quit => some .quit
  | step (.contToExit _) | step (.expect _) => none

end Act

variable {σ : Type} [Host σ]

/-- An act that leads from one session to another, and the entry that is recorded of it. -/
inductive Recorded (rounds : Nat) : Session σ → Act → Entry → Session σ → Prop where
  | replied {s t : Session σ} {a : Act} {c : Call} {reply : List Line} :
      a.call? = some c → (c.perform rounds).run s = some (.ok reply, t) →
      Recorded rounds s a ⟨a.label, reply, none⟩ t
  | refused {s t : Session σ} {a : Act} {c : Call} {f : Failure} :
      a.call? = some c → (c.perform rounds).run s = some (.error f, t) →
      Recorded rounds s a ⟨a.label, [], some f.message⟩ t
  | continued {s t : Session σ} {most n : Nat} :
      (continueToExit rounds most).run s = some (.ok n, t) →
      Recorded rounds s (.step (.contToExit most))
        ⟨(Step.contToExit most).label, [s!"{n} attempts".toList], none⟩ t
  | continuedInVain {s t : Session σ} {most : Nat} {f : Failure} :
      (continueToExit rounds most).run s = some (.error f, t) →
      Recorded rounds s (.step (.contToExit most))
        ⟨(Step.contToExit most).label, [], some f.message⟩ t
  | expected (s : Session σ) (text : String) :
      Recorded rounds s (.step (.expect text)) ⟨(Step.expect text).label, [], none⟩ s
  | unexpected (s : Session σ) (text : String) :
      Recorded rounds s (.step (.expect text))
        ⟨(Step.expect text).label, [], some "expectation not met"⟩ s

inductive Acted (rounds : Nat) : Session σ → List Act → List Entry → Session σ → Prop where
  | done (s : Session σ) : Acted rounds s [] [] s
  | act {s t u : Session σ} {a : Act} {e : Entry} {acts : List Act} {entries : List Entry} :
      Recorded rounds s a e t → Acted rounds t acts entries u →
      Acted rounds s (a :: acts) (e :: entries) u

/-- The entries of an execution that came to its end, or to the failure of its last act. -/
inductive Ended : List Entry → Option Report → Prop where
  | done : Ended [] none
  | failed {e : Entry} {r : Report} : e.error ≠ none → Ended [e] (some r)
  | next {e : Entry} {entries : List Entry} {failure : Option Report} :
      e.error = none → Ended entries failure → Ended (e :: entries) failure

variable {s t : Session σ} {rounds : Nat} {o : Outcome}

theorem Recorded.step_eq {a : Act} {e : Entry} (h : Recorded rounds s a e t) :
    e.step = a.label := by
  cases h <;> rfl

theorem Recorded.reply_of_error {a : Act} {e : Entry} (h : Recorded rounds s a e t)
    (he : e.error ≠ none) : e.reply = [] := by
  cases h with
  | replied _ _ => exact absurd rfl he
  | continued _ => exact absurd rfl he
  | refused _ _ => rfl
  | continuedInVain _ => rfl
  | expected _ => rfl
  | unexpected _ => rfl

theorem Acted.labels {acts : List Act} {entries : List Entry} (h : Acted rounds s acts entries t) :
    entries.map Entry.step = acts.map Act.label := by
  induction h with
  | done s => rfl
  | act ha _ ih => rw [List.map_cons, List.map_cons, ha.step_eq, ih]

theorem Acted.reply_of_error {acts : List Act} {entries : List Entry}
    (h : Acted rounds s acts entries t) : ∀ e ∈ entries, e.error ≠ none → e.reply = [] := by
  induction h with
  | done s => exact fun e he => absurd he List.not_mem_nil
  | act ha _ ih => exact List.forall_mem_cons.2 ⟨ha.reply_of_error, ih⟩

theorem recorded_of_call {a : Act} {c : Call} {r : Except Failure (List Line)}
    (hc : a.call? = some c) (h : (c.perform rounds).run s = some (r, t)) :
    Recorded rounds s a (entryOf a.label r) t := by
  cases r with
  | ok reply => exact .replied hc h
  | error f => exact .refused hc h

theorem error_entryOf_eq_none_iff (label : String) (context : Option String)
    (r : Except Failure (List Line)) :
    (entryOf label r).error = none ↔ ∃ reply, nextOf context r = .ok reply := by
  cases r <;> simp [entryOf, nextOf]

/-- A step leaves one entry, with an error exactly if the script ends with it. -/
theorem perform_recorded {last : List Line} {step : Step} {p : Performed}
    (h : (perform rounds last step).run s = some (p, t)) :
    Recorded rounds s (.step step) p.entry t ∧
      (p.entry.error = none ↔ ∃ reply, p.next = .ok reply) := by
  have of_call : ∀ {c : Call} {r : Except Failure (List Line)} {u : Session σ} (context printed),
      (Act.step step).call? = some c → (c.perform rounds).run s = some (r, u) →
      p = ⟨entryOf step.label r, printed, nextOf context r⟩ → u = t →
      Recorded rounds s (.step step) p.entry t ∧
        (p.entry.error = none ↔ ∃ reply, p.next = .ok reply) := by
    rintro c r u context printed hc hrun rfl rfl
    exact ⟨recorded_of_call hc hrun, error_entryOf_eq_none_iff _ _ _⟩
  cases step with
  | send c =>
    obtain ⟨reply, u, hcall, h⟩ := run_bind_eq_some.1 h
    obtain ⟨hp, hu⟩ := run_pure_eq_some.1 h
    exact of_call (c := .command c) _ _ rfl hcall hp.symm hu
  | waitPrompt =>
    obtain ⟨reply, u, hcall, h⟩ := run_bind_eq_some.1 h
    obtain ⟨hp, hu⟩ := run_pure_eq_some.1 h
    exact of_call (c := .waitForSimplePrompt) _ _ rfl hcall hp.symm hu
  | quit =>
    obtain ⟨reply, u, hcall, h⟩ := run_bind_eq_some.1 h
    obtain ⟨hp, hu⟩ := run_pure_eq_some.1 h
    exact of_call (c := .quit) _ _ rfl hcall hp.symm hu
  | contToExit most =>
    obtain ⟨result, u, hcall, h⟩ := run_bind_eq_some.1 h
    cases result with
    | ok n =>
      obtain ⟨rfl, rfl⟩ := run_pure_eq_some.1 h
      exact ⟨.continued hcall, by simp⟩
    | error f =>
      obtain ⟨rfl, rfl⟩ := run_pure_eq_some.1 h
      exact ⟨.continuedInVain hcall, by simp⟩
  | expect text =>
    obtain ⟨rfl, rfl⟩ := run_pure_eq_some.1 h
    unfold expectation
    dsimp only
    split_ifs
    · exact ⟨.expected s text, by simp⟩
    · exact ⟨.unexpected s text, by simp⟩

theorem performAll_acted {last : List Line} {steps : List Step}
    (h : (performAll rounds last steps).run s = some (o, t)) :
    ∃ executed, executed <+: steps ∧ Acted rounds s (executed.map .step) o.entries t ∧
      Ended o.entries o.failure ∧ (o.failure = none → executed = steps) := by
  induction steps generalizing s last o with
  | nil =>
    obtain ⟨rfl, rfl⟩ := run_pure_eq_some.1 h
    exact ⟨[], List.prefix_rfl, .done s, .done, fun _ => rfl⟩
  | cons step steps ih =>
    obtain ⟨p, u, hp, h⟩ := run_bind_eq_some.1 h
    obtain ⟨hrecorded, herror⟩ := perform_recorded hp
    cases hnext : p.next with
    | error r =>
      rw [hnext] at h
      obtain ⟨rfl, rfl⟩ := run_pure_eq_some.1 h
      have hfailed : p.entry.error ≠ none := by simp [herror, hnext]
      exact ⟨[step], ⟨steps, rfl⟩, .act hrecorded (.done u), .failed hfailed,
        fun hf => absurd hf (Option.some_ne_none r)⟩
    | ok reply =>
      rw [hnext] at h
      obtain ⟨rest, v, hrest, h⟩ := run_bind_eq_some.1 h
      obtain ⟨rfl, rfl⟩ := run_pure_eq_some.1 h
      obtain ⟨executed, hprefix, hacted, hended, hall⟩ := ih hrest
      refine ⟨step :: executed, (List.prefix_cons_inj step).2 hprefix, .act hrecorded hacted,
        .next (herror.2 ⟨reply, hnext⟩) hended, fun hf => ?_⟩
      rw [hall hf]

/-- The startup is an act like the steps that follow it. -/
theorem execute_acted {steps : List Step} (h : (execute rounds steps).run s = some (o, t)) :
    ∃ executed, executed <+: steps ∧ Acted rounds s (.startup :: executed.map .step) o.entries t ∧
      Ended o.entries o.failure ∧ (o.failure = none → executed = steps) := by
  obtain ⟨banner, u, hbanner, h⟩ := run_bind_eq_some.1 h
  have hstartup : Recorded rounds s .startup (entryOf startLabel banner) u :=
    recorded_of_call (a := .startup) (c := .waitForSimplePrompt) rfl hbanner
  have herror :=
    error_entryOf_eq_none_iff startLabel (some "debugger did not show its prompt") banner
  cases hnext : nextOf (some "debugger did not show its prompt") banner with
  | error r =>
    simp only [hnext] at h
    obtain ⟨rfl, rfl⟩ := run_pure_eq_some.1 h
    have hfailed : (entryOf startLabel banner).error ≠ none := by simp [herror, hnext]
    exact ⟨[], List.nil_prefix, .act hstartup (.done u), .failed hfailed,
      fun hf => absurd hf (Option.some_ne_none r)⟩
  | ok reply =>
    simp only [hnext] at h
    obtain ⟨rest, v, hrest, h⟩ := run_bind_eq_some.1 h
    obtain ⟨rfl, rfl⟩ := run_pure_eq_some.1 h
    obtain ⟨executed, hprefix, hacted, hended, hall⟩ := performAll_acted hrest
    exact ⟨executed, hprefix, .act hstartup hacted, .next (herror.2 ⟨reply, hnext⟩) hended, hall⟩

theorem Acted.step_labels {executed : List Step} {entries : List Entry}
    (h : Acted rounds s (.startup :: executed.map .step) entries t) :
    entries.map Entry.step = "@startup" :: executed.map Step.label := by
  have hlabels : (executed.map Act.step).map Act.label = executed.map Step.label :=
    List.map_map
  rw [h.labels, List.map_cons, hlabels]
  rfl

end DebugControl.Script
