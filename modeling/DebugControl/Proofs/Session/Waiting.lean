import DebugControl.Proofs.Prompt
import DebugControl.Proofs.Session.Control

/-!
# How a wait ends

A wait looks at the sink again and again, and is idle as long as no look meets the goal and no probe
finds that the debugger has exited. It ends with a look that meets the goal, with the last look at a
debugger that has exited, or after a long silence. Between a look that meets the goal and the reset
that follows, more output may arrive; the reset takes just the lines that were seen, and what
arrived stays where it waits.
-/

namespace DebugControl.Control

open Session Moment

/-- A moment in which a wait goes on. Nothing is taken out of the sink, and nothing is told to the
debugger. -/
def Idle (g : Goal) : Moment → Prop
  | .received _ | .waited _ _ | .timed _ => True
  | .looked reply => g.isMet reply = false
  | .probed status => status = none
  | .took _ | .sent _ _ | .killed => False

/-- What follows the last look at a debugger that has exited, and the result of the wait. -/
inductive Judged (g : Goal) (silence : Duration) (reply : List Line) :
    List Moment → Except Failure (List Line) → Prop where
  | shown (arrivals : List Arrival) :
      g.isMet reply = true → Judged g silence reply [.received arrivals, .took reply] (.ok reply)
  | tolerated : g.isMet reply = false → g.orExit = true → Judged g silence reply [] (.ok reply)
  | refused :
      g.isMet reply = false → g.orExit = false →
      Judged g silence reply [] (.error (.timeout silence g.prompt.pattern g.tail true))

/-- The moments after which a wait is over, and its result. -/
inductive Ending (g : Goal) (silence : Duration) :
    List Moment → Except Failure (List Line) → Prop where
  | met {reply : List Line} (arrivals : List Arrival) :
      g.isMet reply = true →
      Ending g silence [.looked reply, .received arrivals, .took reply] (.ok reply)
  | exited {status : ExitStatus} {limit : Nat} {late arrivals : List Arrival} {reply : List Line}
      {verdict : List Moment} {r : Except Failure (List Line)} :
      Judged g silence reply verdict r →
      Ending g silence
        (.probed (some status) :: .waited limit late :: .received arrivals :: .looked reply ::
          verdict) r
  | silent {reply : List Line} (arrivals : List Arrival) :
      Ending g silence [.received arrivals, .looked reply]
        (.error (.timeout silence g.prompt.pattern g.tail false))

def Unmet (g : Goal) (moments : List Moment) : Prop :=
  ∀ reply ∈ looksOf moments, g.isMet reply = false

/-- The moments of a wait and its result. -/
inductive Waited (g : Goal) (silence : Duration) :
    List Moment → Except Failure (List Line) → Prop where
  | met {before : List Moment} {reply : List Line} (arrivals : List Arrival) :
      Unmet g before → g.isMet reply = true →
      Waited g silence (before ++ [.looked reply, .received arrivals, .took reply]) (.ok reply)
  | tolerated {before : List Moment} {reply : List Line} {status : ExitStatus} :
      Unmet g before → .probed (some status) ∈ before → g.isMet reply = false → g.orExit = true →
      Waited g silence (before ++ [.looked reply]) (.ok reply)
  | exited {before : List Moment} {reply : List Line} {status : ExitStatus} :
      Unmet g before → .probed (some status) ∈ before → g.isMet reply = false → g.orExit = false →
      Waited g silence (before ++ [.looked reply])
        (.error (.timeout silence g.prompt.pattern g.tail true))
  | silent {before : List Moment} {reply : List Line} (arrivals : List Arrival) :
      Unmet g before →
      Waited g silence (before ++ [.received arrivals, .looked reply])
        (.error (.timeout silence g.prompt.pattern g.tail false))

section Moments

variable {g : Goal} {silence : Duration} {r : Except Failure (List Line)}
  {before last : List Moment}

theorem unmet_append {a b : List Moment} (ha : Unmet g a) (hb : Unmet g b) : Unmet g (a ++ b) := by
  intro reply hr
  rw [looksOf, List.filterMap_append, List.mem_append] at hr
  exact hr.elim (ha reply) (hb reply)

theorem unmet_of_idle (h : ∀ m ∈ before, Idle g m) : Unmet g before := by
  intro reply hr
  obtain ⟨m, hm, hlook⟩ := List.mem_filterMap.1 hr
  have hidle := h m hm
  cases m <;> simp_all [look?, Idle]

theorem takesOf_of_idle (h : ∀ m ∈ before, Idle g m) : takesOf before = [] := by
  refine List.filterMap_eq_nil_iff.2 fun m hm => ?_
  have hidle := h m hm
  cases m <;> first | rfl | exact absurd hidle id

theorem Ending.waited (hidle : ∀ m ∈ before, Idle g m) (h : Ending g silence last r) :
    Waited g silence (before ++ last) r := by
  have hunmet := unmet_of_idle hidle
  cases h with
  | met arrivals hr => exact .met arrivals hunmet hr
  | silent arrivals => exact .silent arrivals hunmet
  | @exited status limit late arrivals reply verdict r hj =>
    have hprobed : Unmet g [.probed (some status), .waited limit late, .received arrivals] :=
      fun reply hr => absurd hr List.not_mem_nil
    have hunmet' := unmet_append hunmet hprobed
    have hmem : .probed (some status) ∈
        before ++ [.probed (some status), .waited limit late, .received arrivals] := by simp
    cases hj with
    | shown arrivals' hr => simpa using Waited.met arrivals' hunmet' hr
    | tolerated hr ho => simpa using Waited.tolerated hunmet' hmem hr ho
    | refused hr ho => simpa using Waited.exited hunmet' hmem hr ho

theorem Ending.look {reply : List Line} (h : Ending g silence last (.ok reply)) :
    ∃ early after, last = early ++ .looked reply :: after ∧ takesOf early = [] ∧
      (g.isMet reply = true ∨ ∃ status, .probed (some status) ∈ early) := by
  cases h with
  | met arrivals hmet => exact ⟨[], _, rfl, rfl, .inl hmet⟩
  | @exited status limit late arrivals _ verdict _ hjudged =>
    have hearly : [.probed (some status), .waited limit late, .received arrivals] ++
        .looked reply :: verdict =
        .probed (some status) :: .waited limit late :: .received arrivals :: .looked reply ::
          verdict := rfl
    cases hjudged with
    | shown arrivals' _ => exact ⟨_, _, hearly.symm, rfl, .inr ⟨status, List.mem_cons_self⟩⟩
    | tolerated _ _ => exact ⟨_, _, hearly.symm, rfl, .inr ⟨status, List.mem_cons_self⟩⟩

end Moments

variable {σ : Type} [Host σ] {s t u : Session σ} {g : Goal} {r : Except Failure (List Line)}

/-- A wait that leads from one session to another was idle for some moments and then ended. -/
def EndsIn (g : Goal) (s : Session σ) (r : Except Failure (List Line)) (t : Session σ) : Prop :=
  ∃ before last, Trace s (before ++ last) t ∧ (∀ m ∈ before, Idle g m) ∧
    Ending g s.timing.silence last r

theorem EndsIn.prepend {moments : List Moment} (h : Trace s moments u)
    (hidle : ∀ m ∈ moments, Idle g m) (hu : EndsIn g u r t) : EndsIn g s r t := by
  obtain ⟨before, last, htrace, hbefore, hend⟩ := hu
  refine ⟨moments ++ before, last, ?_, ?_, ?_⟩
  · rw [List.append_assoc]
    exact h.append htrace
  · intro m hm
    exact (List.mem_append.1 hm).elim (hidle m) (hbefore m)
  · rwa [← h.timing_eq]

theorem endsIn_of_ending {last : List Moment} (h : Trace s last t)
    (hend : Ending g s.timing.silence last r) : EndsIn g s r t :=
  ⟨[], last, h, fun _ hm => absurd hm List.not_mem_nil, hend⟩

theorem takeReply_trace {reply : List Line} (hs : s.sink.lines = reply)
    (h : (do return .ok (← reset) : Control σ (Except Failure (List Line))).run s = some (r, t)) :
    r = .ok reply ∧ ∃ arrivals, Trace s [.received arrivals, .took reply] t := by
  obtain ⟨lines, u, hreset, hanswer⟩ := run_bind_eq_some.1 h
  obtain ⟨rfl, arrivals, ht⟩ := reset_trace hreset
  obtain ⟨rfl, rfl⟩ := run_pure_eq_some.1 hanswer
  rw [hs] at ht ⊢
  exact ⟨rfl, arrivals, ht⟩

theorem concludeExit_judged {poll : Nat} (h : (concludeExit g poll).run s = some (r, t)) :
    ∃ late arrivals reply verdict,
      Trace s (.waited poll late :: .received arrivals :: .looked reply :: verdict) t ∧
        Judged g s.timing.silence reply verdict r := by
  obtain ⟨closed, u, hawait, h⟩ := run_bind_eq_some.1 h
  obtain ⟨late, hlate, -⟩ := awaitSink_trace hawait
  obtain ⟨reply, v, hsnapshot, h⟩ := run_bind_eq_some.1 h
  obtain ⟨arrivals, hlook, hlines⟩ := snapshot_trace hsnapshot
  obtain ⟨⟨⟩, w, hnote, h⟩ := run_bind_eq_some.1 h
  obtain ⟨hnoted, hsink⟩ := noteReply_trace hnote
  have htrace : Trace s [.waited poll late, .received arrivals, .looked reply] w := by
    simpa using (hlate.append hlook).append hnoted
  split_ifs at h with hmet htolerant
  · obtain ⟨rfl, arrivals', htake⟩ := takeReply_trace (hsink ▸ hlines) h
    exact ⟨late, arrivals, reply, _, htrace.append htake, .shown arrivals' hmet⟩
  · obtain ⟨rfl, rfl⟩ := run_pure_eq_some.1 h
    exact ⟨late, arrivals, reply, _, htrace, .tolerated (by simpa using hmet) htolerant⟩
  · obtain ⟨f, x, hfailure, hanswer⟩ := run_bind_eq_some.1 h
    obtain ⟨rfl, rfl⟩ := timeoutFailure_eq hfailure
    obtain ⟨rfl, rfl⟩ := run_pure_eq_some.1 hanswer
    refine ⟨late, arrivals, reply, _, htrace, ?_⟩
    rw [htrace.timing_eq]
    exact .refused (by simpa using hmet) (by simpa using htolerant)

/-- What a round does after it has waited for output. -/
def examine (g : Goal) (poll silence rounds quiet : Nat) :
    Control σ (Except Failure (List Line)) := do
  let reply ← snapshot
  if g.isMet reply then
    noteReply reply
    return .ok (← reset)
  else if ← isTerminated then concludeExit g poll
  else waitFrom g poll silence rounds quiet

theorem examine_endsIn {poll silence rounds quiet : Nat}
    (ih : ∀ {s : Session σ}, (waitFrom g poll silence rounds quiet).run s = some (r, t) →
      EndsIn g s r t)
    (h : (examine g poll silence rounds quiet).run s = some (r, t)) : EndsIn g s r t := by
  obtain ⟨reply, u, hsnapshot, h⟩ := run_bind_eq_some.1 h
  obtain ⟨arrivals, hlook, hlines⟩ := snapshot_trace hsnapshot
  split_ifs at h with hmet
  · obtain ⟨⟨⟩, v, hnote, h⟩ := run_bind_eq_some.1 h
    obtain ⟨hnoted, hsink⟩ := noteReply_trace hnote
    obtain ⟨rfl, arrivals', htake⟩ := takeReply_trace (hsink ▸ hlines) h
    have htrace := (hlook.append hnoted).append htake
    exact ⟨[.received arrivals], _, htrace, by simp [Idle], .met arrivals' hmet⟩
  · obtain ⟨terminated, v, hprobe, h⟩ := run_bind_eq_some.1 h
    obtain ⟨arrivals', status, hprobed, rfl⟩ := isTerminated_trace hprobe
    have hround := hlook.append hprobed
    cases status with
    | some status =>
      obtain ⟨late, last, reply', verdict, hend, hjudged⟩ := concludeExit_judged h
      rw [hround.timing_eq] at hjudged
      refine ⟨[.received arrivals, .looked reply, .received arrivals'], _, hround.append hend, ?_,
        .exited hjudged⟩
      simpa [Idle] using hmet
    | none => exact (ih h).prepend hround (by simpa [Idle] using hmet)

def giveUp (g : Goal) : Control σ (Except Failure (List Line)) := do
  noteReply (← snapshot)
  return .error (← timeoutFailure g false)

theorem giveUp_trace (h : (giveUp g).run s = some (r, t)) :
    ∃ arrivals reply, Trace s [.received arrivals, .looked reply] t ∧
      r = .error (.timeout s.timing.silence g.prompt.pattern g.tail false) := by
  obtain ⟨reply, u, hsnapshot, h⟩ := run_bind_eq_some.1 h
  obtain ⟨arrivals, hlook, -⟩ := snapshot_trace hsnapshot
  obtain ⟨⟨⟩, v, hnote, h⟩ := run_bind_eq_some.1 h
  obtain ⟨hnoted, -⟩ := noteReply_trace hnote
  obtain ⟨f, w, hfailure, hanswer⟩ := run_bind_eq_some.1 h
  obtain ⟨rfl, rfl⟩ := timeoutFailure_eq hfailure
  obtain ⟨rfl, rfl⟩ := run_pure_eq_some.1 hanswer
  have htrace : Trace s [.received arrivals, .looked reply] w := hlook.append hnoted
  exact ⟨arrivals, reply, htrace, by rw [htrace.timing_eq]⟩

theorem giveUp_endsIn (h : (giveUp g).run s = some (r, t)) : EndsIn g s r t := by
  obtain ⟨arrivals, reply, htrace, rfl⟩ := giveUp_trace h
  exact endsIn_of_ending htrace (.silent arrivals)

/-- One round that neither meets the goal nor finds that the debugger has exited is followed by
others; what a wait does is put together from its rounds. -/
theorem waitFrom_endsIn {poll silence rounds quiet : Nat}
    (h : (waitFrom g poll silence rounds quiet).run s = some (r, t)) : EndsIn g s r t := by
  induction rounds generalizing s quiet with
  | zero => exact absurd h.symm (Option.some_ne_none _)
  | succ rounds ih =>
    obtain ⟨now, s₁, hclock, h⟩ := run_bind_eq_some.1 h
    have htime := clock_trace hclock
    split_ifs at h with hquiet
    · obtain ⟨fresh, s₂, hawait, h⟩ := run_bind_eq_some.1 h
      obtain ⟨late, hlate, -⟩ := awaitSink_trace hawait
      have hpaused := htime.append hlate
      cases fresh with
      | true =>
        obtain ⟨now', s₃, hclock', h⟩ := run_bind_eq_some.1 h
        have hrestarted := hpaused.append (clock_trace hclock')
        exact (examine_endsIn ih h).prepend hrestarted (by simp [Idle])
      | false => exact (examine_endsIn ih h).prepend hpaused (by simp [Idle])
    · exact (giveUp_endsIn h).prepend htime (by simp [Idle])

theorem waitFor_endsIn {rounds : Nat} (h : (waitFor rounds g).run s = some (r, t)) :
    EndsIn g s r t := by
  obtain ⟨session, u, hget, h⟩ := run_bind_eq_some.1 h
  obtain ⟨rfl, rfl⟩ := run_get_eq_some.1 hget
  obtain ⟨now, u, hclock, hwait⟩ := run_bind_eq_some.1 h
  exact (waitFrom_endsIn hwait).prepend (clock_trace hclock) (by simp [Idle])

end DebugControl.Control
