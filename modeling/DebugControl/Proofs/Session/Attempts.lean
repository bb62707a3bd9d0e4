import DebugControl.Proofs.Session.Sent

/-!
# How many attempts are sent

Continuing to the exit counts an attempt before the command of that attempt has probed. A debugger
that exits between the two probes is sent nothing in that attempt. As an exit lasts, that attempt is
the last, so that all the others have each sent their line.
-/

namespace DebugControl.Control

open Session Moment Turn

section Turns

variable {most n : Nat} {turns : List Turn} {replies : List (Bool × List Line)}

theorem attempts_concat (replies : List (Bool × List Line)) (p : Bool × List Line) :
    attempts (replies ++ [p]) =
      attempts replies ++ [.probed false, .called p.1 (.ok p.2)] := List.flatMap_append

theorem Course.exists_attempts (h : Course most turns (.ok n)) :
    ∃ replies probes, turns = attempts replies ++ probes ∧ callsOf probes = [] ∧
      replies.length = n := by
  obtain ⟨replies, ending, rfl, -, hend⟩ := h
  generalize hr : Except.ok n = r at hend
  cases hend with
  | spent terminated =>
    obtain ⟨-, hn⟩ := verdict_eq_ok_iff.1 hr.symm
    exact ⟨replies, _, rfl, rfl, hn⟩
  | exited terminated _ =>
    obtain ⟨-, hn⟩ := verdict_eq_ok_iff.1 hr.symm
    exact ⟨replies, _, rfl, rfl, hn⟩
  | failed alive _ _ => exact nomatch hr
  | @announced _ alive reply _ _ =>
    obtain rfl := Except.ok.inj hr
    exact ⟨replies ++ [(alive, reply)], [], by rw [attempts_concat, List.append_nil], rfl, by simp⟩

theorem texts_attempts (halive : ∀ p ∈ replies, p.1 = true) :
    (attempts replies).flatMap texts = List.replicate replies.length "cont" := by
  induction replies with
  | nil => rfl
  | cons p replies ih =>
    obtain ⟨hp, hrest⟩ := List.forall_mem_cons.1 halive
    have hfirst : (called p.1 (.ok p.2)).texts = ["cont"] := if_pos hp
    rw [List.length_cons, List.replicate_succ, ← ih hrest]
    exact congrArg (· ++ (attempts replies).flatMap texts) hfirst

theorem texts_of_callsOf_eq_nil (h : callsOf turns = []) : turns.flatMap texts = [] := by
  refine List.flatMap_eq_nil_iff.2 fun turn hturn => ?_
  cases turn with
  | probed terminated => rfl
  | called alive outcome => exact absurd (List.filterMap_eq_nil_iff.1 h _ hturn) nofun

end Turns

variable {σ : Type} [Host σ] {s t u : Session σ} {rounds most : Nat} {turns : List Turn}
  {replies : List (Bool × List Line)}

section Lasting

variable (hl : ExitLasting σ)
include hl

theorem Continues.alive_of_probed {alive : Bool} {outcome : Except Failure (List Line)}
    (h : Continues rounds s (.called alive outcome :: turns) u) (hnext : .probed false ∈ turns) :
    alive = true := by
  cases h with
  | @call _ t _ v _ _ _ hfound hcommand hrest =>
    by_contra hgone
    obtain rfl := Bool.eq_false_iff.2 hgone
    obtain ⟨moments, htrace, -⟩ := command_of_exited hfound hcommand
    have hexited : (Host.exit? t.host).isSome :=
      hl.trace htrace ((isTerminated_eq hfound).symm.trans rfl)
    exact hrest.probed_false_notMem hl hexited hnext

theorem Continues.alive_attempts (h : Continues rounds s (attempts replies ++ turns) u)
    (hnext : .probed false ∈ turns) : ∀ p ∈ replies, p.1 = true := by
  induction replies generalizing s with
  | nil => exact nofun
  | cons p replies ih =>
    obtain ⟨v, -, hcall⟩ := Continues.split (a := [.probed false]) h
    obtain ⟨w, -, hlater⟩ := Continues.split (a := [.called p.1 (.ok p.2)]) hcall
    have hp : p.1 = true := hcall.alive_of_probed hl (List.mem_append_right _ hnext)
    exact List.forall_mem_cons.2 ⟨hp, ih hlater⟩

/-- Continuing to the exit returns the number of its attempts, and has sent that many lines; or it
has sent one less, exactly if the last attempt, which follows a probe that has found the debugger
alive, has found that it exited. -/
theorem continueToExit_sends {n : Nat}
    (h : (continueToExit rounds most).run s = some (.ok n, t)) :
    ∃ replies probes u moments,
      Continues rounds s (attempts replies ++ probes) u ∧ Trace u [] t ∧ callsOf probes = [] ∧
      replies.length = n ∧ Trace s moments t ∧ AllWritten moments ∧
      ((∀ p ∈ replies, p.1 = true) ∧ sentOf moments = (List.replicate n "cont").flatMap lineOf ∨
        ∃ first reply, replies = first ++ [(false, reply)] ∧ (∀ p ∈ first, p.1 = true) ∧
          sentOf moments = (List.replicate first.length "cont").flatMap lineOf) := by
  obtain ⟨turns, u, hturns, hu, hcourse⟩ := continueToExit_turns h
  have hanswered : ∀ f, .error f ∉ callsOf turns := fun f hf =>
    nomatch ((hcourse.error_iff f).1 hf).1
  obtain ⟨moments, htrace, hall, hsent⟩ := hturns.sentOf_eq hanswered
  have htrace' : Trace s moments t := List.append_nil moments ▸ htrace.append hu
  obtain ⟨replies, probes, rfl, hprobes, rfl⟩ := hcourse.exists_attempts
  rw [List.flatMap_append, texts_of_callsOf_eq_nil hprobes, List.append_nil] at hsent
  refine ⟨replies, probes, u, moments, hturns, hu, hprobes, rfl, htrace', hall, ?_⟩
  rcases List.eq_nil_or_concat' replies with rfl | ⟨first, ⟨alive, reply⟩, rfl⟩
  · exact .inl ⟨nofun, hsent⟩
  -- the last attempt begins with a probe that has found the debugger alive
  have hfirst : ∀ p ∈ first, p.1 = true := by
    rw [attempts_concat, List.append_assoc] at hturns
    exact hturns.alive_attempts hl (by simp)
  cases alive with
  | true =>
    have hevery : ∀ p ∈ first ++ [(true, reply)], p.1 = true :=
      List.forall_mem_append.2 ⟨hfirst, List.forall_mem_singleton.2 rfl⟩
    rw [texts_attempts hevery] at hsent
    exact .inl ⟨hevery, hsent⟩
  | false =>
    have hlast : [Turn.probed false, .called false (.ok reply)].flatMap texts = [] := rfl
    rw [attempts_concat, List.flatMap_append, texts_attempts hfirst, hlast,
      List.append_nil] at hsent
    exact .inr ⟨first, reply, rfl, hfirst, hsent⟩

end Lasting

/-- The debugger exits after the first probe. -/
def exitBetweenProbes : Session Playback :=
  Playback.session ⟨0, [[], []], some (.exited 0)⟩ simplePrompt ⟨50, 5000⟩

example : ((continueToExit 1 1).run exitBetweenProbes).map
    (fun p => (p.1.toOption, sentOf p.2.history)) = some (some 1, []) := by
  decide +kernel

end DebugControl.Control
