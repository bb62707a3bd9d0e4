import DebugControl.Proofs.Session.Commands
import DebugControl.Proofs.Session.Outcome
import DebugControl.Proofs.Text.Lines

/-!
# Continuing to the exit

A controller that continues the debugger to its exit takes turns: it probes as long as attempts are
left, and it makes an attempt if the probe has found the debugger alive. After some attempts whose
replies do not announce an exit it comes to one of four conclusions: the attempts are spent, a probe
finds the exit, a command fails, or a reply announces the exit. In the first two cases it probes once
more.
-/

namespace DebugControl.Control

open Session Moment Text

/-- A turn of the controller. A command finds the debugger alive or not, whatever was found before. -/
inductive Turn where
  | probed (terminated : Bool)
  | called (alive : Bool) (outcome : Except Failure (List Line))

namespace Turn

def call? : Turn → Option (Except Failure (List Line))
  | probed _ => none
  | called _ outcome => some outcome

def Stops : Turn → Prop
  | probed terminated => terminated = true
  | called _ (.ok reply) => announcesExit reply = true
  | called _ (.error _) => True

def callsOf (turns : List Turn) : List (Except Failure (List Line)) := turns.filterMap call?

@[simp] theorem callsOf_nil : callsOf [] = [] := rfl

@[simp] theorem callsOf_probed (terminated : Bool) (turns : List Turn) :
    callsOf (probed terminated :: turns) = callsOf turns := rfl

@[simp] theorem callsOf_called (alive : Bool) (outcome : Except Failure (List Line))
    (turns : List Turn) : callsOf (called alive outcome :: turns) = outcome :: callsOf turns := rfl

@[simp] theorem callsOf_append (a b : List Turn) : callsOf (a ++ b) = callsOf a ++ callsOf b :=
  List.filterMap_append

end Turn

open Turn

def attempts (replies : List (Bool × List Line)) : List Turn :=
  replies.flatMap fun p => [.probed false, .called p.1 (.ok p.2)]

def verdict (most made : Nat) (terminated : Bool) : Except Failure Nat :=
  if terminated then .ok made else .error (.stillRunning most)

theorem verdict_eq_ok_iff {most made n : Nat} {terminated : Bool} :
    verdict most made terminated = .ok n ↔ terminated = true ∧ made = n := by
  cases terminated <;> simp [verdict]

theorem verdict_eq_error_iff {most made : Nat} {terminated : Bool} {f : Failure} :
    verdict most made terminated = .error f ↔ terminated = false ∧ f = .stillRunning most := by
  cases terminated <;> simp [verdict, eq_comm]

/-- The turns after so many attempts in vain, and the result. -/
inductive Conclusion (most : Nat) : Nat → List Turn → Except Failure Nat → Prop where
  | spent (terminated : Bool) :
      Conclusion most most [.probed terminated] (verdict most most terminated)
  | exited {made : Nat} (terminated : Bool) :
      made < most →
      Conclusion most made [.probed true, .probed terminated] (verdict most made terminated)
  | failed {made : Nat} (alive : Bool) {f : Failure} :
      made < most → f ≠ .stillRunning most →
      Conclusion most made [.probed false, .called alive (.error f)] (.error f)
  | announced {made : Nat} (alive : Bool) {reply : List Line} :
      made < most → announcesExit reply = true →
      Conclusion most made [.probed false, .called alive (.ok reply)] (.ok (made + 1))

def Course (most : Nat) (turns : List Turn) (r : Except Failure Nat) : Prop :=
  ∃ replies ending, turns = attempts replies ++ ending ∧
    (∀ p ∈ replies, announcesExit p.2 = false) ∧ Conclusion most replies.length ending r

/-- A probe that has found the exit is followed by no other finding. -/
def ExitLasts (turns : List Turn) : Prop :=
  turns.Pairwise fun e later => e = .probed true → later ≠ .probed false

def Announces (outcome : Except Failure (List Line)) : Prop :=
  ∃ reply, outcome = .ok reply ∧ announcesExit reply = true

/-- So many commands were sent and answered, and an exit was announced by the last reply, or found by
a probe after it. -/
structure ExitsAfter (made : Nat) (turns : List Turn) : Prop where
  count : (callsOf turns).length = made
  answered : ∀ f, .error f ∉ callsOf turns
  quiet : ∀ o ∈ (callsOf turns).dropLast, ¬ Announces o
  exited : (∃ o, (callsOf turns).getLast? = some o ∧ Announces o) ∨
    ∃ before after, turns = before ++ .probed true :: after ∧ (callsOf before).length = made

/-- So many commands were sent and answered, no reply announced an exit, and the last probe has found
the debugger alive. -/
structure StaysAlive (made : Nat) (turns : List Turn) : Prop where
  count : (callsOf turns).length = made
  answered : ∀ f, .error f ∉ callsOf turns
  quiet : ∀ o ∈ callsOf turns, ¬ Announces o
  alive : turns.getLast? = some (.probed false)

section Turns

variable {most : Nat} {turns : List Turn} {r : Except Failure Nat}
  {replies : List (Bool × List Line)}

@[simp] theorem callsOf_attempts (replies : List (Bool × List Line)) :
    callsOf (attempts replies) = replies.map fun p => .ok p.2 := by
  induction replies with
  | nil => rfl
  | cons p replies ih => exact congrArg _ ih

theorem probed_true_notMem_attempts : .probed true ∉ attempts replies := by
  intro h
  obtain ⟨p, -, he⟩ := List.mem_flatMap.1 h
  simp at he

theorem not_announces_of_mem_attempts (hquiet : ∀ p ∈ replies, announcesExit p.2 = false) :
    ∀ o ∈ callsOf (attempts replies), ¬ Announces o := by
  rintro o ho ⟨reply, rfl, hannounced⟩
  rw [callsOf_attempts] at ho
  obtain ⟨p, hp, hreply⟩ := List.mem_map.1 ho
  obtain rfl := Except.ok.inj hreply
  exact absurd (hannounced.symm.trans (hquiet p hp)) Bool.noConfusion

theorem not_stops_of_mem_attempts (hquiet : ∀ p ∈ replies, announcesExit p.2 = false) :
    ∀ e ∈ attempts replies, ¬ e.Stops := by
  intro e he
  obtain ⟨p, hp, he⟩ := List.mem_flatMap.1 he
  rcases List.mem_pair.1 he with rfl | rfl
  · exact Bool.false_ne_true
  · simp [Stops, hquiet p hp]

theorem Course.length_callsOf_le (h : Course most turns r) : (callsOf turns).length ≤ most := by
  obtain ⟨replies, ending, rfl, hquiet, hend⟩ := h
  rw [callsOf_append, callsOf_attempts, List.length_append, List.length_map]
  cases hend with
  | spent terminated => exact le_rfl
  | exited terminated hmade => exact hmade.le
  | failed alive hmade hf => exact hmade
  | announced alive hmade hannounced => exact hmade

theorem Course.no_call_after (h : Course most turns r) :
    turns.Pairwise fun e later => e.Stops → later.call? = none := by
  obtain ⟨replies, ending, rfl, hquiet, hend⟩ := h
  have hvain := not_stops_of_mem_attempts hquiet
  refine List.pairwise_append.2 ⟨List.pairwise_of_forall_mem_list ?_, ?_, ?_⟩
  · intro e he later _ hstops
    exact absurd hstops (hvain e he)
  · cases hend <;> simp [Stops, call?]
  · intro e he later _ hstops
    exact absurd hstops (hvain e he)

theorem Course.error_iff (h : Course most turns r) (f : Failure) :
    .error f ∈ callsOf turns ↔ r = .error f ∧ f ≠ .stillRunning most := by
  obtain ⟨replies, ending, rfl, hquiet, hend⟩ := h
  cases hend with
  | spent terminated => simp [verdict_eq_error_iff]
  | exited terminated hmade => simp [verdict_eq_error_iff]
  | @failed _ alive f' hmade hf =>
    constructor
    · intro hmem
      obtain rfl : f = f' := by simpa using hmem
      exact ⟨rfl, hf⟩
    · rintro ⟨hr, -⟩
      obtain rfl := Except.error.inj hr
      simp
  | announced alive hmade hannounced => simp

section Probes

variable {ending : List Turn} {n : Nat}

theorem exitsAfter_iff_of_probes (hquiet : ∀ p ∈ replies, announcesExit p.2 = false)
    (hcalls : callsOf ending = []) :
    ExitsAfter n (attempts replies ++ ending) ↔ replies.length = n ∧ .probed true ∈ ending := by
  have hvain := not_announces_of_mem_attempts hquiet
  have hall : callsOf (attempts replies ++ ending) = callsOf (attempts replies) := by
    rw [callsOf_append, hcalls, List.append_nil]
  constructor
  · intro h
    have hcount := h.count
    rw [hall, callsOf_attempts, List.length_map] at hcount
    refine ⟨hcount, ?_⟩
    rcases h.exited with ⟨o, ho, hannounces⟩ | ⟨before, after, hsplit, -⟩
    · rw [hall] at ho
      exact absurd hannounces (hvain o (List.mem_of_getLast? ho))
    · have hmem : .probed true ∈ attempts replies ++ ending := by simp [hsplit]
      exact (List.mem_append.1 hmem).resolve_left probed_true_notMem_attempts
  · rintro ⟨rfl, hprobed⟩
    obtain ⟨before, after, rfl⟩ := List.append_of_mem hprobed
    obtain ⟨hbefore, -⟩ := List.append_eq_nil_iff.1 ((callsOf_append _ _).symm.trans hcalls)
    refine ⟨by simp [hall], ?_, ?_, .inr ⟨attempts replies ++ before, after, ?_, ?_⟩⟩
    · simp [hall]
    · intro o ho
      rw [hall] at ho
      exact hvain o (List.mem_of_mem_dropLast ho)
    · rw [List.append_assoc]
    · simp [hbefore]

end Probes

theorem terminated_of_exitLasts {terminated : Bool}
    (h : ExitLasts (turns ++ [.probed true, .probed terminated])) : terminated = true := by
  obtain ⟨-, hlast, -⟩ := List.pairwise_append.1 h
  by_contra hfalse
  rw [Bool.not_eq_true] at hfalse
  subst hfalse
  simp at hlast

theorem Course.ok_iff (h : Course most turns r) (hlasts : ExitLasts turns) (n : Nat) :
    r = .ok n ↔ ExitsAfter n turns := by
  obtain ⟨replies, ending, rfl, hquiet, hend⟩ := h
  cases hend with
  | spent terminated =>
    rw [verdict_eq_ok_iff, exitsAfter_iff_of_probes hquiet rfl]
    cases terminated <;> simp
  | exited terminated hmade =>
    obtain rfl := terminated_of_exitLasts hlasts
    rw [verdict_eq_ok_iff, exitsAfter_iff_of_probes hquiet rfl]
    simp
  | @failed _ alive f hmade hf =>
    constructor
    · exact nofun
    · intro h
      exact absurd (by simp) (h.answered f)
  | @announced _ alive reply hmade hannounced =>
    have hcalls : callsOf (attempts replies ++ [.probed false, .called alive (.ok reply)]) =
        callsOf (attempts replies) ++ [.ok reply] := callsOf_append _ _
    constructor
    · intro hr
      obtain rfl := Except.ok.inj hr
      refine ⟨by simp, by simp, ?_, .inl ⟨.ok reply, by simp, reply, rfl, hannounced⟩⟩
      rw [hcalls, List.dropLast_concat]
      exact not_announces_of_mem_attempts hquiet
    · intro h
      have hcount := h.count
      simp at hcount
      rw [hcount]

/-- The debugger is still running exactly if all attempts were in vain and it is found alive. -/
theorem Course.stillRunning_iff (h : Course most turns r) (hlasts : ExitLasts turns) :
    r = .error (.stillRunning most) ↔ StaysAlive most turns := by
  obtain ⟨replies, ending, rfl, hquiet, hend⟩ := h
  have hvain := not_announces_of_mem_attempts hquiet
  cases hend with
  | spent terminated =>
    rw [verdict_eq_error_iff]
    constructor
    · rintro ⟨rfl, -⟩
      refine ⟨by simp, by simp, ?_, List.getLast?_concat⟩
      rwa [callsOf_append, callsOf_probed, callsOf_nil, List.append_nil]
    · intro h
      have hlast := h.alive
      rw [List.getLast?_concat] at hlast
      simpa using hlast
  | exited terminated hmade =>
    obtain rfl := terminated_of_exitLasts hlasts
    constructor
    · exact nofun
    · intro h
      have hcount := h.count
      simp at hcount
      omega
  | @failed _ alive f hmade hf =>
    constructor
    · intro hr
      exact absurd (Except.error.inj hr) hf
    · intro h
      exact absurd (by simp) (h.answered f)
  | @announced _ alive reply hmade hannounced =>
    constructor
    · exact nofun
    · intro h
      exact absurd ⟨reply, rfl, hannounced⟩ (h.quiet (.ok reply) (by simp))

end Turns

variable {σ : Type} [Host σ] {s t u : Session σ} {rounds most : Nat}

/-- Turns one after the other, from the first session to the last. -/
inductive Continues (rounds : Nat) : Session σ → List Turn → Session σ → Prop where
  | done (s : Session σ) : Continues rounds s [] s
  | probe {s t u : Session σ} {terminated : Bool} {turns : List Turn} :
      isTerminated.run s = some (terminated, t) → Continues rounds t turns u →
      Continues rounds s (.probed terminated :: turns) u
  | call {s t u v : Session σ} {alive : Bool} {outcome : Except Failure (List Line)}
      {turns : List Turn} :
      isTerminated.run s = some (!alive, v) →
      (command rounds Command.cont.orExit).run s = some (outcome, t) →
      Continues rounds t turns u → Continues rounds s (.called alive outcome :: turns) u

theorem Continues.split {a b : List Turn} (h : Continues rounds s (a ++ b) u) :
    ∃ t, Continues rounds s a t ∧ Continues rounds t b u := by
  induction a generalizing s with
  | nil => exact ⟨s, .done s, h⟩
  | cons turn a ih =>
    cases h with
    | probe hprobe hrest =>
      obtain ⟨t, hfirst, hlast⟩ := ih hrest
      exact ⟨t, .probe hprobe hfirst, hlast⟩
    | call hfound hcommand hrest =>
      obtain ⟨t, hfirst, hlast⟩ := ih hrest
      exact ⟨t, .call hfound hcommand hfirst, hlast⟩

theorem Continues.trace {turns : List Turn} (h : Continues rounds s turns t) :
    ∃ moments, Trace s moments t := by
  induction h with
  | done s => exact ⟨[], .done s⟩
  | probe hprobe _ ih =>
    obtain ⟨arrivals, status, hprobed, -⟩ := isTerminated_trace hprobe
    obtain ⟨moments, htrace⟩ := ih
    exact ⟨_, hprobed.append htrace⟩
  | call _ hcommand _ ih =>
    obtain ⟨first, hfirst, -⟩ := command_commanded hcommand
    obtain ⟨moments, htrace⟩ := ih
    exact ⟨_, hfirst.append htrace⟩

/-- Whatever happens to what has exited, it has exited. -/
structure ExitLasting (σ : Type) [Host σ] : Prop where
  turn : ∀ h : σ, (Host.exit? h).isSome → (Host.exit? (Host.turn h).2).isSome
  await : ∀ (limit : Nat) (ready : List Arrival → Bool) (h : σ),
    (Host.exit? h).isSome → (Host.exit? (Host.await limit ready h).2).isSome
  send : ∀ (bytes : List UInt8) (h : σ),
    (Host.exit? h).isSome → (Host.exit? (Host.send bytes h).2).isSome
  kill : ∀ h : σ, (Host.exit? h).isSome → (Host.exit? (Host.kill h)).isSome

theorem ExitLasting.trace (hl : ExitLasting σ) {moments : List Moment} (h : Trace s moments t)
    (hs : (Host.exit? s.host).isSome) : (Host.exit? t.host).isSome := by
  induction h with
  | done s => exact hs
  | noted log _ ih => exact ih hs
  | @step s t u m moments hstep _ ih =>
    refine ih ?_
    cases hstep with
    | turn => exact hl.turn _ hs
    | await limit ready => exact hl.await limit ready _ hs
    | send bytes => exact hl.send bytes _ hs
    | kill => exact hl.kill _ hs
    | look => exact hs
    | take => exact hs
    | probe => exact hs
    | time => exact hs

theorem isTerminated_eq {terminated : Bool} (h : isTerminated.run s = some (terminated, t)) :
    terminated = (Host.exit? t.host).isSome := by
  obtain ⟨rfl, rfl⟩ := Prod.mk.inj (Option.some.inj h)
  rfl

section Lasting

variable {turns : List Turn} (hl : ExitLasting σ)
include hl

theorem Continues.probed_false_notMem (h : Continues rounds s turns u)
    (hs : (Host.exit? s.host).isSome) : .probed false ∉ turns := by
  induction h with
  | done s => exact List.not_mem_nil
  | probe hprobe _ ih =>
    obtain ⟨arrivals, status, htrace, -⟩ := isTerminated_trace hprobe
    have ht := hl.trace htrace hs
    rw [List.mem_cons, not_or]
    refine ⟨?_, ih ht⟩
    rw [isTerminated_eq hprobe, ht]
    exact nofun
  | call _ hcommand _ ih =>
    obtain ⟨moments, htrace, -⟩ := command_commanded hcommand
    rw [List.mem_cons, not_or]
    exact ⟨nofun, ih (hl.trace htrace hs)⟩

theorem Continues.exitLasts (h : Continues rounds s turns u) : ExitLasts turns := by
  induction h with
  | done s => exact .nil
  | @probe s t u terminated turns hprobe hturns ih =>
    refine .cons ?_ ih
    intro later hlater hfound hfalse
    have ht : (Host.exit? t.host).isSome := by
      rw [← isTerminated_eq hprobe]
      simpa using hfound
    exact hturns.probed_false_notMem hl ht (hfalse ▸ hlater)
  | call _ _ _ ih => exact .cons (fun _ _ => nofun) ih

end Lasting

def conclude (most : Nat) : Except Failure Continued → Control σ (Except Failure Nat)
  | .error f => return .error f
  | .ok c => do
    let terminated ← if c.announced then pure true else isTerminated
    if terminated then
      note (.debuggeeExited c.attempts)
      return .ok c.attempts
    else return .error (.stillRunning most)

theorem continueToExit_eq (rounds most : Nat) :
    (continueToExit rounds most : Control σ (Except Failure Nat)) =
      (continueFrom rounds most 0 >>= conclude most) := by
  rw [continueToExit]
  congr 1

theorem conclude_announced {made : Nat} {r : Except Failure Nat}
    (h : (conclude most (.ok ⟨made, true⟩)).run s = some (r, t)) :
    r = .ok made ∧ Trace s [] t := by
  obtain ⟨terminated, u, hanswer, h⟩ := run_bind_eq_some.1 h
  obtain ⟨rfl, rfl⟩ := run_pure_eq_some.1 hanswer
  obtain ⟨⟨⟩, v, hnote, h⟩ := run_bind_eq_some.1 h
  obtain ⟨rfl, rfl⟩ := run_pure_eq_some.1 h
  exact ⟨rfl, note_trace hnote⟩

theorem conclude_probed {made : Nat} {r : Except Failure Nat}
    (h : (conclude most (.ok ⟨made, false⟩)).run s = some (r, t)) :
    ∃ terminated u, isTerminated.run s = some (terminated, u) ∧ Trace u [] t ∧
      r = verdict most made terminated := by
  obtain ⟨terminated, u, hprobe, h⟩ := run_bind_eq_some.1 h
  refine ⟨terminated, u, hprobe, ?_⟩
  cases terminated with
  | true =>
    obtain ⟨⟨⟩, v, hnote, h⟩ := run_bind_eq_some.1 h
    obtain ⟨rfl, rfl⟩ := run_pure_eq_some.1 h
    exact ⟨note_trace hnote, rfl⟩
  | false =>
    obtain ⟨rfl, rfl⟩ := run_pure_eq_some.1 h
    exact ⟨.done u, rfl⟩

theorem command_error_ne_stillRunning {c : Command} {f : Failure}
    (h : (command rounds c).run s = some (.error f, t)) : f ≠ .stillRunning most := by
  obtain ⟨moments, -, hcommanded⟩ := command_commanded h
  cases hcommanded with
  | tooLate _ => exact nofun
  | asked arrivals hasked =>
    cases hasked with
    | unwritten _ => exact nofun
    | awaited _ _ hend _ =>
      cases hend with
      | silent _ => exact nofun
      | exited hjudged =>
        cases hjudged with
        | refused _ _ => exact nofun

/-- The attempts are made one after the other; the induction is on how many are left. -/
theorem continueFrom_turns {left made : Nat} {r : Except Failure Nat} (hmost : made + left = most)
    (h : (continueFrom rounds left made >>= conclude most).run s = some (r, t)) :
    ∃ replies ending u, Continues rounds s (attempts replies ++ ending) u ∧
      Trace u [] t ∧ (∀ p ∈ replies, announcesExit p.2 = false) ∧
      Conclusion most (made + replies.length) ending r := by
  induction left generalizing s made with
  | zero =>
    obtain ⟨result, s', hnone, h⟩ := run_bind_eq_some.1 h
    obtain ⟨rfl, rfl⟩ := run_pure_eq_some.1 hnone
    obtain ⟨terminated, u, hprobe, hu, rfl⟩ := conclude_probed h
    obtain rfl : made = most := hmost
    exact ⟨[], _, u, .probe hprobe (.done u), hu, by simp, .spent terminated⟩
  | succ left ih =>
    have hmade : made < most := by omega
    obtain ⟨result, s', hloop, h⟩ := run_bind_eq_some.1 h
    obtain ⟨terminated, v, hprobe, hloop⟩ := run_bind_eq_some.1 hloop
    cases terminated with
    | true =>
      obtain ⟨rfl, rfl⟩ := run_pure_eq_some.1 hloop
      obtain ⟨terminated, u, hprobe', hu, rfl⟩ := conclude_probed h
      exact ⟨[], _, u, .probe hprobe (.probe hprobe' (.done u)), hu, by simp,
        .exited terminated hmade⟩
    | false =>
      obtain ⟨outcome, w, hcommand, hloop⟩ := run_bind_eq_some.1 hloop
      obtain ⟨gone, x, hfound⟩ := exists_isTerminated v
      have hfound' : isTerminated.run v = some (!!gone, x) := by rwa [Bool.not_not]
      cases outcome with
      | error f =>
        obtain ⟨rfl, rfl⟩ := run_pure_eq_some.1 hloop
        obtain ⟨rfl, rfl⟩ := run_pure_eq_some.1 h
        exact ⟨[], _, w, .probe hprobe (.call hfound' hcommand (.done w)), .done w, by simp,
          .failed (!gone) hmade (command_error_ne_stillRunning hcommand)⟩
      | ok reply =>
        dsimp only at hloop
        split_ifs at hloop with hannounced
        · obtain ⟨rfl, rfl⟩ := run_pure_eq_some.1 hloop
          obtain ⟨rfl, hu⟩ := conclude_announced h
          exact ⟨[], _, w, .probe hprobe (.call hfound' hcommand (.done w)), hu, by simp,
            .announced (!gone) hmade hannounced⟩
        · have hrest : (continueFrom rounds left (made + 1) >>= conclude most).run w =
              some (r, t) := run_bind_eq_some.2 ⟨result, s', hloop, h⟩
          obtain ⟨replies, ending, u, hturns, hu, hquiet, hend⟩ := ih (by omega) hrest
          refine ⟨(!gone, reply) :: replies, ending, u,
            .probe hprobe (.call hfound' hcommand hturns), hu, ?_, ?_⟩
          · exact List.forall_mem_cons.2 ⟨by simpa using hannounced, hquiet⟩
          · rwa [List.length_cons, Nat.add_comm replies.length, ← Nat.add_assoc]

theorem continueToExit_turns {r : Except Failure Nat}
    (h : (continueToExit rounds most).run s = some (r, t)) :
    ∃ turns u, Continues rounds s turns u ∧ Trace u [] t ∧ Course most turns r := by
  rw [continueToExit_eq] at h
  obtain ⟨replies, ending, u, hturns, hu, hquiet, hend⟩ := continueFrom_turns (Nat.zero_add most) h
  rw [Nat.zero_add] at hend
  exact ⟨_, u, hturns, hu, replies, ending, rfl, hquiet, hend⟩

theorem conclude_total (most : Nat) (result : Except Failure Continued) :
    Total (conclude most result : Control σ (Except Failure Nat)) := by
  rcases result with f | ⟨made, announced⟩
  · exact fun _ => Option.some_ne_none _
  cases announced with
  | true => exact fun _ => Option.some_ne_none _
  | false =>
    refine Total.bind (c := isTerminated) (fun _ => Option.some_ne_none _) fun terminated => ?_
    cases terminated <;> exact fun _ => Option.some_ne_none _

theorem continueFrom_eq_none {left made : Nat}
    (h : (continueFrom rounds left made).run s = none) :
    ∃ turns u, Continues rounds s turns u ∧
      (command rounds Command.cont.orExit).run u = none := by
  induction left generalizing s made with
  | zero => exact absurd h (Option.some_ne_none _)
  | succ left ih =>
    rcases run_bind_eq_none.1 h with h | ⟨terminated, v, hprobe, h⟩
    · exact absurd h (Option.some_ne_none _)
    cases terminated with
    | true => exact absurd h (Option.some_ne_none _)
    | false =>
      rcases run_bind_eq_none.1 h with h | ⟨outcome, w, hcommand, h⟩
      · exact ⟨_, v, .probe hprobe (.done v), h⟩
      cases outcome with
      | error f => exact absurd h (Option.some_ne_none _)
      | ok reply =>
        dsimp only at h
        split_ifs at h with hannounced
        · exact absurd h (Option.some_ne_none _)
        · obtain ⟨turns, u, hturns, hnone⟩ := ih h
          obtain ⟨terminated, x, hfound⟩ := exists_isTerminated v
          have hfound' : isTerminated.run v = some (!!terminated, x) := by rwa [Bool.not_not]
          exact ⟨_, u, .probe hprobe (.call hfound' hcommand hturns), hnone⟩

theorem continueToExit_eq_none (h : (continueToExit rounds most).run s = none) :
    ∃ turns u, Continues rounds s turns u ∧
      (command rounds Command.cont.orExit).run u = none := by
  rw [continueToExit_eq] at h
  rcases run_bind_eq_none.1 h with h | ⟨result, u, -, h⟩
  · exact continueFrom_eq_none h
  · exact absurd h (conclude_total most result u)

/-- An exit is announced exactly if one of the notices is a part of the whole reply: neither holds a
line feed, so that it lies within one line. -/
theorem announcesExit_iff (reply : List Line) :
    announcesExit reply = true ↔
      Notice.applicationExit.toList <:+: join ['\n'] reply ∨
        Notice.applicationDisconnected.toList <:+: join ['\n'] reply := by
  rw [infix_join_iff (by decide) (by decide), infix_join_iff (by decide) (by decide),
    announcesExit, List.any_eq_true, ← exists_or]
  simp only [Bool.or_eq_true, contains_iff, and_or_left]

/-- Continuing to the exit has a result unless one of its commands has none. It sends so many commands
at most, and none after a reply that announces an exit, a command that fails or a probe that finds the
exit. The failure of a command is passed on. If exits last, it returns a number exactly if so many
commands were sent and answered and the last reply announced an exit, none before it did, or a probe
after it found the exit; and it says that the debugger is still running exactly if all commands were
sent and answered, no reply announced an exit, and the last probe found the debugger alive. -/
theorem continueToExit_exact (rounds most : Nat) (s : Session σ) :
    ((continueToExit rounds most).run s = none →
      ∃ turns u, Continues rounds s turns u ∧
        (command rounds Command.cont.orExit).run u = none) ∧
    (∀ r t, (continueToExit rounds most).run s = some (r, t) →
      ∃ turns u, Continues rounds s turns u ∧ Trace u [] t ∧
        (callsOf turns).length ≤ most ∧
        (turns.Pairwise fun e later => e.Stops → later.call? = none) ∧
        (∀ f, .error f ∈ callsOf turns ↔ r = .error f ∧ f ≠ .stillRunning most) ∧
        (ExitLasts turns → (∀ n, r = .ok n ↔ ExitsAfter n turns) ∧
          (r = .error (.stillRunning most) ↔ StaysAlive most turns))) ∧
    ∀ reply, announcesExit reply = true ↔
      Notice.applicationExit.toList <:+: join ['\n'] reply ∨
        Notice.applicationDisconnected.toList <:+: join ['\n'] reply := by
  refine ⟨continueToExit_eq_none, ?_, announcesExit_iff⟩
  intro r t h
  obtain ⟨turns, u, hturns, hu, hcourse⟩ := continueToExit_turns h
  exact ⟨turns, u, hturns, hu, hcourse.length_callsOf_le, hcourse.no_call_after,
    hcourse.error_iff, fun hlasts => ⟨hcourse.ok_iff hlasts, hcourse.stillRunning_iff hlasts⟩⟩

theorem exitLasting_playback : ExitLasting Playback where
  turn h hs := by
    rcases h with ⟨now, _ | ⟨portion, portions⟩, ending⟩
    · exact hs
    · exact absurd hs Bool.false_ne_true
  await limit ready h hs := by
    rcases h with ⟨now, _ | ⟨portion, portions⟩, ending⟩
    · exact hs
    · exact absurd hs Bool.false_ne_true
  send _ _ hs := hs
  kill h hs := by
    rcases h with ⟨now, _ | ⟨portion, portions⟩, ending⟩
    · rfl
    · exact absurd hs Bool.false_ne_true

def stillRunning? {α : Type} : Except Failure α → Option Nat
  | .error (.stillRunning most) => some most
  | _ => none

theorem eq_of_stillRunning? {α : Type} {r : Except Failure α} (h : stillRunning? r = some most) :
    r = .error (.stillRunning most) := by
  unfold stillRunning? at h
  split at h
  · exact congrArg _ (congrArg _ (Option.some.inj h))
  · exact absurd h.symm (Option.some_ne_none _)

/-- The debuggee stops once more before it exits. -/
def secondStop : Session Playback :=
  Playback.session
    ⟨0, [[], [], [], [], [.wrote (Utf8.ofString "stop\n> ")], [], [], [], [], [], [],
      [.wrote (Utf8.ofString "The application exited\n> ")]], none⟩
    simplePrompt ⟨50, 5000⟩

/-- Two attempts are enough, and one is not. -/
theorem continueToExit_exact_secondStop :
    (∃ turns u, Continues 0 secondStop turns u ∧
      (command 0 Command.cont.orExit).run u = none) ∧
    (∃ t turns u, (continueToExit 2 3).run secondStop = some (.ok 2, t) ∧
      Continues 2 secondStop turns u ∧ Trace u [] t ∧ ExitLasts turns ∧
      ExitsAfter 2 turns) ∧
    ∃ t turns u, (continueToExit 2 1).run secondStop = some (.error (.stillRunning 1), t) ∧
      Continues 2 secondStop turns u ∧ Trace u [] t ∧ ExitLasts turns ∧
      StaysAlive 1 turns := by
  have hlasting := exitLasting_playback
  refine ⟨?_, ?_, ?_⟩
  · obtain ⟨hnone, -⟩ := continueToExit_exact 0 1 secondStop
    exact hnone (by decide +kernel)
  · have hrun : ((continueToExit 2 3).run secondStop).map (fun p => p.1.toOption) =
        some (some 2) := by
      decide +kernel
    obtain ⟨⟨r, t⟩, h, hr⟩ := Option.map_eq_some_iff.1 hrun
    obtain rfl := eq_ok_of_toOption hr
    obtain ⟨-, hruns, -⟩ := continueToExit_exact 2 3 secondStop
    obtain ⟨turns, u, hturns, hu, -, -, -, hexact⟩ := hruns _ _ h
    have hlasts := hturns.exitLasts hlasting
    exact ⟨t, turns, u, h, hturns, hu, hlasts, ((hexact hlasts).1 2).1 rfl⟩
  · have hrun : ((continueToExit 2 1).run secondStop).map (fun p => stillRunning? p.1) =
        some (some 1) := by
      decide +kernel
    obtain ⟨⟨r, t⟩, h, hr⟩ := Option.map_eq_some_iff.1 hrun
    obtain rfl := eq_of_stillRunning? hr
    obtain ⟨-, hruns, -⟩ := continueToExit_exact 2 1 secondStop
    obtain ⟨turns, u, hturns, hu, -, -, -, hexact⟩ := hruns _ _ h
    have hlasts := hturns.exitLasts hlasting
    exact ⟨t, turns, u, h, hturns, hu, hlasts, (hexact hlasts).2.1 rfl⟩

end DebugControl.Control
