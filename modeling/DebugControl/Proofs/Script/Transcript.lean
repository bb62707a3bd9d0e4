import DebugControl.Proofs.Script.Sending

/-!
# What a transcript records

A transcript has one entry for the startup and one for each step that was performed. Only its last
entry can have an error, and then the execution fails. If an execution has no transcript, one of its
acts waits without an end.
-/

namespace DebugControl.Script

open Control

section Entries

variable {e : Entry} {entries : List Entry} {failure : Option Report}

theorem Ended.errors_of_failure_eq_none (h : Ended entries none) :
    ∀ e ∈ entries, e.error = none := by
  generalize hf : (none : Option Report) = failure at h
  induction h with
  | done => exact fun e he => absurd he List.not_mem_nil
  | failed _ => exact absurd hf (Option.some_ne_none _).symm
  | next he _ ih => exact List.forall_mem_cons.2 ⟨he, ih hf⟩

theorem Ended.errors_of_dropLast (h : Ended entries failure) :
    ∀ e ∈ entries.dropLast, e.error = none := by
  induction h with
  | done => exact fun e he => absurd he List.not_mem_nil
  | failed _ => exact fun e he => absurd he List.not_mem_nil
  | @next e entries failure he _ ih =>
    cases entries with
    | nil => exact fun e he => absurd he List.not_mem_nil
    | cons e' entries => exact List.forall_mem_cons.2 ⟨he, ih⟩

theorem Ended.failure_ne_none_iff (h : Ended entries failure) :
    failure ≠ none ↔ ∃ e, entries.getLast? = some e ∧ e.error ≠ none := by
  induction h with
  | done => simp
  | failed he => simpa using he
  | @next e entries failure he hrest ih =>
    cases entries with
    | nil =>
      cases hrest
      simp [he]
    | cons e' entries => rw [ih, List.getLast?_cons_cons]

end Entries

variable {σ : Type} [Host σ]

/-- An execution leaves one entry for the startup and one for each step that it performs, in the
order of the script and under their labels. The entry shows the reply of the session to the call
that the act makes, or why it failed, and the last session is the one after the last of these acts.
Only the last entry may have an error; the execution fails exactly if it has one, and succeeds
exactly if every step was performed and no entry has an error. It does not end only if a wait of one
of its acts does not. -/
theorem execute_transcript (rounds : Nat) (steps : List Step) (s : Session σ) :
    (∀ o t, (execute rounds steps).run s = some (o, t) →
      ∃ executed, executed <+: steps ∧
        Acted rounds s (.startup :: executed.map .step) o.entries t ∧
        o.entries.map Entry.step = "@startup" :: executed.map Step.label ∧
        (∀ e ∈ o.entries.dropLast, e.error = none) ∧
        (∀ e ∈ o.entries, e.error ≠ none → e.reply = []) ∧
        (o.failure ≠ none ↔ ∃ e, o.entries.getLast? = some e ∧ e.error ≠ none) ∧
        (o.failure = none ↔ executed = steps ∧ ∀ e ∈ o.entries, e.error = none)) ∧
    ((execute rounds steps).run s = none →
      ∃ texts v, Stuck rounds s (.startup :: steps.map .step) texts v) := by
  refine ⟨fun o t h => ?_, execute_eq_none⟩
  obtain ⟨executed, hprefix, hacted, hended, hall⟩ := execute_acted h
  refine ⟨executed, hprefix, hacted, hacted.step_labels, hended.errors_of_dropLast,
    hacted.reply_of_error, hended.failure_ne_none_iff, fun hf => ?_, fun ⟨_, hnone⟩ => ?_⟩
  · rw [hf] at hended
    exact ⟨hall hf, hended.errors_of_failure_eq_none⟩
  · by_contra hf
    obtain ⟨e, hlast, he⟩ := hended.failure_ne_none_iff.1 hf
    exact he (hnone e (List.mem_of_getLast? hlast))

/-- The debugger replies to the first step; the second expects something else, and the third is not
performed any more. -/
def halfway : Session Playback :=
  Playback.session
    ⟨0, [[.wrote [0x3E, 0x20]], [], [], [], [], [], [.wrote [0x6F, 0x6B, 0x0A, 0x3E, 0x20]]], none⟩
    simplePrompt ⟨50, 5000⟩

theorem execute_transcript_halfway :
    (∃ o t, (execute 2 [.send (.plain "run"), .expect "done", .quit]).run halfway = some (o, t) ∧
      o.entries = [⟨"@startup", [['>', ' ']], none⟩, ⟨"run", [['o', 'k'], ['>', ' ']], none⟩,
        ⟨"@expect done", [], some "expectation not met"⟩] ∧
      Acted 2 halfway [.startup, .step (.send (.plain "run")), .step (.expect "done")]
        o.entries t ∧
      o.failure ≠ none) ∧
    ∃ texts v, (execute 0 [.quit]).run halfway = none ∧
      Stuck 0 halfway [.startup, .step .quit] texts v := by
  constructor
  · have hrun : ((execute 2 [.send (.plain "run"), .expect "done", .quit]).run halfway).map
        (fun p => p.1.entries) =
        some [⟨"@startup", [['>', ' ']], none⟩, ⟨"run", [['o', 'k'], ['>', ' ']], none⟩,
          ⟨"@expect done", [], some "expectation not met"⟩] := by
      decide +kernel
    obtain ⟨⟨o, t⟩, h, hentries⟩ := Option.map_eq_some_iff.1 hrun
    obtain ⟨hends, -⟩ :=
      execute_transcript 2 [.send (.plain "run"), .expect "done", .quit] halfway
    obtain ⟨executed, hprefix, hacted, hlabels, -, -, hfailure, -⟩ := hends o t h
    rw [hentries] at hlabels
    have hlength : executed.length = 2 := by simpa using (congrArg List.length hlabels).symm
    have hexecuted := List.prefix_iff_eq_take.1 hprefix
    rw [hlength] at hexecuted
    rw [hexecuted] at hacted
    refine ⟨o, t, h, hentries, hacted, hfailure.2 ⟨_, congrArg List.getLast? hentries, ?_⟩⟩
    exact Option.some_ne_none _
  · have hnone : ((execute 0 [.quit]).run halfway).isNone = true := by decide +kernel
    have hrun : (execute 0 [.quit]).run halfway = none := Option.isNone_iff_eq_none.1 hnone
    obtain ⟨-, hstuck⟩ := execute_transcript 0 [.quit] halfway
    obtain ⟨texts, v, hstuck⟩ := hstuck hrun
    exact ⟨texts, v, hrun, hstuck⟩

end DebugControl.Script
