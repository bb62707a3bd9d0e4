import DebugControl.Proofs.Session.Silence
import DebugControl.Session.Dialogue

/-!
# How a command ends

A command probes once. If the debugger has exited by then, the command takes what is left of the
output, or fails at once; otherwise it writes its line, the text before the line feed, and waits as
long as no write has failed. The probe, each write and the wait are moments apart, and output may
arrive before each of them.
-/

namespace DebugControl.Control

open Session Moment

/-- The moments in which some bytes are written, and the result. -/
inductive Wrote (bytes : List UInt8) : List Moment → Except Fault Unit → Prop where
  | nothing : bytes = [] → Wrote bytes [] (.ok ())
  | sent (arrivals : List Arrival) (result : Except Fault Unit) :
      Wrote bytes [.received arrivals, .sent bytes result] result

/-- The moments in which a line is written, up to the first write that fails. -/
inductive WroteLine (text : String) : List Moment → Except Fault Unit → Prop where
  | cut {first : List Moment} {f : Fault} :
      Wrote (Utf8.ofString text) first (.error f) → WroteLine text first (.error f)
  | ended {first second : List Moment} {result : Except Fault Unit} :
      Wrote (Utf8.ofString text) first (.ok ()) →
      Wrote (Utf8.ofString Notice.lineSeparator) second result →
      WroteLine text (first ++ second) result

def goalOf (c : Command) (prompt : Prompt) : Goal := ⟨prompt, c.allowSimplePrompt, 1, c.allowExit⟩

/-- The moments of a command that has found the debugger alive, and its result. -/
inductive Asked (c : Command) (silence : Duration) (prompt : Prompt) :
    List Moment → Except Failure (List Line) → Prop where
  | unwritten {writing : List Moment} {f : Fault} :
      WroteLine c.text writing (.error f) →
      Asked c silence prompt writing (.error (.write c.text f))
  | awaited {writing before last : List Moment} {r : Except Failure (List Line)} :
      WroteLine c.text writing (.ok ()) → (∀ m ∈ before, Idle (goalOf c prompt) m) →
      Ending (goalOf c prompt) silence last r →
      (SaysSilent r → SilentFor silence.nanoseconds (before ++ last)) →
      Asked c silence prompt (writing ++ (before ++ last)) r

/-- The moments of a command and its result. -/
inductive Commanded (c : Command) (silence : Duration) (prompt : Prompt) :
    List Moment → Except Failure (List Line) → Prop where
  | remainder {arrivals late arrivals' arrivals'' : List Arrival} {status : ExitStatus}
      {limit : Nat} {reply : List Line} :
      c.allowExit = true →
      Commanded c silence prompt
        [.received arrivals, .probed (some status), .waited limit late, .received arrivals',
          .looked reply, .received arrivals'', .took reply] (.ok reply)
  | tooLate {arrivals : List Arrival} {status : ExitStatus} :
      c.allowExit = false →
      Commanded c silence prompt [.received arrivals, .probed (some status)]
        (.error (.afterExit c.text))
  | asked (arrivals : List Arrival) {moments : List Moment} {r : Except Failure (List Line)} :
      Asked c silence prompt moments r →
      Commanded c silence prompt ([.received arrivals, .probed none] ++ moments) r

section Moments

variable {bytes : List UInt8} {text : String} {writing : List Moment} {f : Fault}
  {result : Except Fault Unit}

theorem Wrote.forall_mem {P : Moment → Prop} (h : Wrote bytes writing result)
    (hreceived : ∀ arrivals, P (.received arrivals)) (hsent : P (.sent bytes result)) :
    ∀ m ∈ writing, P m := by
  cases h with
  | nothing _ => exact fun m hm => absurd hm List.not_mem_nil
  | sent arrivals _ =>
    exact List.forall_mem_cons.2 ⟨hreceived arrivals, List.forall_mem_singleton.2 hsent⟩

theorem WroteLine.forall_mem {P : Moment → Prop} (h : WroteLine text writing result)
    (hreceived : ∀ arrivals, P (.received arrivals))
    (hsent : ∀ bytes f, result = .error f → P (.sent bytes (.error f)))
    (hwritten : ∀ bytes, P (.sent bytes (.ok ()))) : ∀ m ∈ writing, P m := by
  cases h with
  | cut hfirst => exact hfirst.forall_mem hreceived (hsent _ _ rfl)
  | ended hfirst hsecond =>
    refine List.forall_mem_append.2 ⟨hfirst.forall_mem hreceived (hwritten _), ?_⟩
    refine hsecond.forall_mem hreceived ?_
    cases result with
    | error f => exact hsent _ f rfl
    | ok => exact hwritten _

theorem WroteLine.takesOf_eq_nil (h : WroteLine text writing result) : takesOf writing = [] :=
  List.filterMap_eq_nil_iff.2 (h.forall_mem (fun _ => rfl) (fun _ _ _ => rfl) fun _ => rfl)

theorem WroteLine.not_probed (h : WroteLine text writing result) (status : Option ExitStatus) :
    .probed status ∉ writing := by
  have hother : ∀ m ∈ writing, m ≠ .probed status :=
    h.forall_mem (fun _ => nofun) (fun _ _ _ => nofun) fun _ => nofun
  exact fun hm => hother _ hm rfl

theorem Wrote.sentOf_eq (h : Wrote bytes writing (.ok ())) : sentOf writing = bytes := by
  cases h with
  | nothing hb => exact hb.symm
  | sent arrivals _ => exact List.append_nil bytes

theorem WroteLine.ok_eq (h : WroteLine text writing (.ok ())) :
    ∃ early, writing = early ++ [.sent (Utf8.ofString Notice.lineSeparator) (.ok ())] ∧
      sentOf early = Utf8.ofString text := by
  cases h with
  | @ended first _ _ hfirst hsecond =>
    cases hsecond with
    | nothing hempty => exact absurd hempty (by decide)
    | sent arrivals _ =>
      refine ⟨first ++ [.received arrivals], by simp, ?_⟩
      rw [sentOf_append, hfirst.sentOf_eq]
      exact List.append_nil _

theorem WroteLine.error_eq (h : WroteLine text writing (.error f)) :
    ∃ early bytes, writing = early ++ [.sent bytes (.error f)] ∧
      ∀ bytes' f', .sent bytes' (.error f') ∉ early := by
  cases h with
  | cut hfirst =>
    cases hfirst with
    | sent arrivals _ => exact ⟨[.received arrivals], _, rfl, by simp⟩
  | @ended first _ _ hfirst hsecond =>
    cases hsecond with
    | sent arrivals _ =>
      refine ⟨first ++ [.received arrivals], Utf8.ofString Notice.lineSeparator, by simp,
        fun bytes' f' => ?_⟩
      have hother : ∀ m ∈ first, m ≠ .sent bytes' (.error f') :=
        hfirst.forall_mem (fun _ => nofun) nofun
      simpa using fun hm => hother _ hm rfl

/-- A command that has found the debugger alive and succeeds has written its line, and it takes
nothing before the look whose reply it returns. -/
theorem Asked.look {c : Command} {silence : Duration} {prompt : Prompt} {moments : List Moment}
    {reply : List Line} (h : Asked c silence prompt moments (.ok reply)) :
    ∃ asking early after, moments =
        asking ++ [.sent (Utf8.ofString Notice.lineSeparator) (.ok ())] ++
          (early ++ .looked reply :: after) ∧
      sentOf asking = Utf8.ofString c.text ∧ takesOf asking = [] ∧ takesOf early = [] ∧
      ((goalOf c prompt).isMet reply = true ∨ ∃ status, .probed (some status) ∈ early) := by
  cases h with
  | @awaited writing before last _ hwrote hidle hend _ =>
    have htakes := hwrote.takesOf_eq_nil
    obtain ⟨asking, rfl, hsent⟩ := hwrote.ok_eq
    obtain ⟨early, after, rfl, hearly, hseen⟩ := hend.look
    refine ⟨asking, before ++ early, after, by simp, hsent, ?_,
      takesOf_append_eq_nil (takesOf_of_idle hidle) hearly, ?_⟩
    · exact (List.append_eq_nil_iff.1 ((takesOf_append _ _).symm.trans htakes)).1
    · exact hseen.imp_right fun ⟨status, hm⟩ => ⟨status, List.mem_append_right _ hm⟩

end Moments

variable {σ : Type} [Host σ] {s t : Session σ} {r : Except Failure (List Line)}

theorem remainder_trace {reply : List Line} (h : remainder.run s = some (reply, t)) :
    ∃ late arrivals arrivals',
      Trace s [.waited s.timing.pollInterval.nanoseconds late, .received arrivals, .looked reply,
        .received arrivals', .took reply] t := by
  obtain ⟨session, u, hget, h⟩ := run_bind_eq_some.1 h
  obtain ⟨rfl, rfl⟩ := run_get_eq_some.1 hget
  obtain ⟨closed, v, hawait, h⟩ := run_bind_eq_some.1 h
  obtain ⟨late, hlate, -⟩ := awaitSink_trace hawait
  obtain ⟨seen, w, hsnapshot, hreset⟩ := run_bind_eq_some.1 h
  obtain ⟨arrivals, hlook, hlines⟩ := snapshot_trace hsnapshot
  obtain ⟨rfl, arrivals', htake⟩ := reset_trace hreset
  rw [hlines] at htake ⊢
  exact ⟨late, arrivals, arrivals', (hlate.append hlook).append htake⟩

theorem note_trace {e : LogEntry} {a : Unit} (h : (note e).run s = some (a, t)) :
    Trace s [] t := by
  obtain ⟨-, rfl⟩ := Prod.mk.inj (Option.some.inj h)
  exact .noted _ (.done _)

theorem send_trace {bytes : List UInt8} {result : Except Fault Unit}
    (h : (send bytes).run s = some (result, t)) :
    ∃ writing, Trace s writing t ∧ Wrote bytes writing result := by
  rw [send] at h
  split_ifs at h with hb
  · obtain ⟨rfl, rfl⟩ := run_pure_eq_some.1 h
    exact ⟨[], .done s, .nothing hb⟩
  · obtain ⟨a, u, hturn, hsend⟩ := run_bind_eq_some.1 h
    obtain ⟨arrivals, hp, -⟩ := turn_trace hturn
    obtain ⟨rfl, rfl⟩ := Prod.mk.inj (Option.some.inj hsend)
    exact ⟨_, hp.append (Session.Step.send u bytes).trace, .sent arrivals _⟩

theorem sendLine_trace {text : String} {result : Except Fault Unit}
    (h : (sendLine text).run s = some (result, t)) :
    ∃ writing, Trace s writing t ∧ WroteLine text writing result := by
  obtain ⟨first, u, hfirst, h⟩ := run_bind_eq_some.1 h
  obtain ⟨writing, hwriting, hwrote⟩ := send_trace hfirst
  cases first with
  | error f =>
    obtain ⟨rfl, rfl⟩ := run_pure_eq_some.1 h
    exact ⟨writing, hwriting, .cut hwrote⟩
  | ok =>
    obtain ⟨ending, hending, hwrote'⟩ := send_trace h
    exact ⟨writing ++ ending, hwriting.append hending, .ended hwrote hwrote'⟩

def ask (rounds : Nat) (c : Command) : Control σ (Except Failure (List Line)) := do
  note (.sent c.text)
  match ← sendLine c.text with
  | .error f => return .error (.write c.text f)
  | .ok () => waitFor rounds (goalOf c (← get).threadPrompt)

theorem ask_asked {rounds : Nat} {c : Command} (h : (ask rounds c).run s = some (r, t)) :
    ∃ moments, Trace s moments t ∧ Asked c s.timing.silence s.threadPrompt moments r := by
  obtain ⟨⟨⟩, u, hnote, h⟩ := run_bind_eq_some.1 h
  obtain ⟨result, v, hsend, h⟩ := run_bind_eq_some.1 h
  obtain ⟨writing, hwriting, hwrote⟩ := sendLine_trace hsend
  have hsent : Trace s writing v := (note_trace hnote).append hwriting
  cases result with
  | error f =>
    obtain ⟨rfl, rfl⟩ := run_pure_eq_some.1 h
    exact ⟨writing, hsent, .unwritten hwrote⟩
  | ok =>
    obtain ⟨session, x, hget, hwait⟩ := run_bind_eq_some.1 h
    obtain ⟨rfl, rfl⟩ := run_get_eq_some.1 hget
    obtain ⟨before, last, htrace, hidle, hend⟩ := waitFor_endsIn hwait
    have hsilent := fun hr => waitFor_silentFor hwait hr htrace
    rw [hsent.timing_eq] at hend hsilent
    rw [hsent.threadPrompt_eq] at hidle hend
    exact ⟨_, hsent.append htrace, .awaited hwrote hidle hend hsilent⟩

theorem command_of_alive {u : Session σ} {rounds : Nat} {c : Command}
    (halive : isTerminated.run s = some (false, u)) (h : (command rounds c).run s = some (r, t)) :
    (ask rounds c).run u = some (r, t) := by
  obtain ⟨terminated, u', hprobe, h⟩ := run_bind_eq_some.1 h
  obtain ⟨rfl, rfl⟩ := Prod.mk.inj (Option.some.inj (hprobe.symm.trans halive))
  exact h

theorem command_commanded {rounds : Nat} {c : Command}
    (h : (command rounds c).run s = some (r, t)) :
    ∃ moments, Trace s moments t ∧ Commanded c s.timing.silence s.threadPrompt moments r := by
  obtain ⟨terminated, u, hprobe, hrest⟩ := run_bind_eq_some.1 h
  obtain ⟨arrivals, status, hprobed, rfl⟩ := isTerminated_trace hprobe
  cases status with
  | some status =>
    rw [Option.isSome_some, if_pos rfl] at hrest
    split_ifs at hrest with htolerant
    · obtain ⟨reply, v, hremainder, hanswer⟩ := run_bind_eq_some.1 hrest
      obtain ⟨rfl, rfl⟩ := run_pure_eq_some.1 hanswer
      obtain ⟨late, arrivals', arrivals'', htrace⟩ := remainder_trace hremainder
      exact ⟨_, hprobed.append htrace, .remainder htolerant⟩
    · obtain ⟨rfl, rfl⟩ := run_pure_eq_some.1 hrest
      exact ⟨_, hprobed, .tooLate (Bool.eq_false_iff.2 htolerant)⟩
  | none =>
    obtain ⟨moments, htrace, hasked⟩ := ask_asked (command_of_alive hprobe h)
    rw [hprobed.timing_eq, hprobed.threadPrompt_eq] at hasked
    exact ⟨_, hprobed.append htrace, .asked arrivals hasked⟩

end DebugControl.Control
