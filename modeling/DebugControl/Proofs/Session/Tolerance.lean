import DebugControl.Proofs.Session.Exit
import DebugControl.Proofs.Session.Repeats
import DebugControl.Proofs.Session.Sent

/-!
# Commands that tolerate an exit

A command that tolerates the exit of the debugger succeeds whenever one of its probes finds the
exit, and then it returns the output that was left. But it probes before it writes and not again
until it has written: if the debugger exits in between, the write fails, and the command fails with
it.
-/

namespace DebugControl.Control

open Session Moment Text Utf8

/-- No probe finds that the debugger has exited, and no write fails. -/
structure Untroubled (moments : List Moment) : Prop where
  unnoticed : ∀ status, .probed (some status) ∉ moments
  written : ∀ bytes f, .sent bytes (.error f) ∉ moments

/-- The moments of a command that fails although it tolerates an exit: it ends with a write that
fails, or no output was seen for too long. -/
inductive Refused (c : Command) (silence : Duration) (prompt : Prompt) :
    List Moment → Failure → Prop where
  | unwritten {early : List Moment} {bytes : List UInt8} {f : Fault} :
      Untroubled early →
      Refused c silence prompt (early ++ [.sent bytes (.error f)]) (.write c.text f)
  | silent {moments : List Moment} :
      Untroubled moments → SilentFor silence.nanoseconds moments →
      Refused c silence prompt moments (.timeout silence prompt.pattern 1 false)

section Moments

variable {c : Command} {silence : Duration} {prompt : Prompt} {g : Goal} {reply : List Line}
  {moments before last writing : List Moment} {text : String} {f : Fault}

theorem Untroubled.append {a b : List Moment} (ha : Untroubled a) (hb : Untroubled b) :
    Untroubled (a ++ b) where
  unnoticed status hm := (List.mem_append.1 hm).elim (ha.unnoticed status) (hb.unnoticed status)
  written := AllWritten.append ha.written hb.written

theorem untroubled_of_idle (h : ∀ m ∈ before, Idle g m) : Untroubled before where
  unnoticed _ hm := Option.some_ne_none _ (h _ hm)
  written := allWritten_of_idle h

theorem WroteLine.untroubled (h : WroteLine text writing (.ok ())) : Untroubled writing where
  unnoticed status := h.not_probed (some status)
  written := h.allWritten

theorem WroteLine.untroubled_until (h : WroteLine text writing (.error f)) :
    ∃ early bytes, writing = early ++ [.sent bytes (.error f)] ∧ Untroubled early := by
  obtain ⟨early, bytes, rfl, hwritten⟩ := h.error_eq
  refine ⟨early, bytes, rfl, fun status hm => ?_, hwritten⟩
  exact h.not_probed (some status) (List.mem_append_left _ hm)

theorem Untroubled.refused {early : List Moment} {f : Failure} (hearly : Untroubled early)
    (h : Refused c silence prompt moments f) : Refused c silence prompt (early ++ moments) f := by
  cases h with
  | unwritten hlater =>
    rw [← List.append_assoc]
    exact .unwritten (hearly.append hlater)
  | silent hlater hsilent =>
    exact .silent (hearly.append hlater) (hsilent.mono (List.subset_append_right _ _))

theorem Asked.refused {f : Failure} (hc : c.allowExit = true)
    (h : Asked c silence prompt moments (.error f)) : Refused c silence prompt moments f := by
  cases h with
  | unwritten hwrote =>
    obtain ⟨early, bytes, rfl, hearly⟩ := hwrote.untroubled_until
    exact .unwritten hearly
  | @awaited writing before last _ hwrote hidle hend hsilent =>
    refine hwrote.untroubled.refused ?_
    cases hend with
    | @silent reply arrivals =>
      have hlast : Untroubled [.received arrivals, .looked reply] := ⟨by simp, by simp⟩
      exact .silent ((untroubled_of_idle hidle).append hlast) (hsilent ⟨_, _, _, rfl⟩)
    | exited hjudged =>
      cases hjudged with
      | refused _ hc' => exact absurd (hc.symm.trans hc') Bool.noConfusion

theorem Commanded.refused {f : Failure} (hc : c.allowExit = true)
    (h : Commanded c silence prompt moments (.error f)) : Refused c silence prompt moments f := by
  cases h with
  | tooLate hc' => exact absurd (hc.symm.trans hc') Bool.noConfusion
  | asked arrivals hasked =>
    have hprobe : Untroubled [.received arrivals, .probed none] := ⟨by simp, by simp⟩
    exact hprobe.refused (hasked.refused hc)

theorem Commanded.look (h : Commanded c silence prompt moments (.ok reply)) :
    ∃ early after, moments = early ++ .looked reply :: after ∧ takesOf early = [] ∧
      ((∃ line ∈ reply.rtake 1, prompt.Shows c.allowSimplePrompt line) ∨
        ∃ status, .probed (some status) ∈ early) := by
  cases h with
  | @remainder arrivals late arrivals' arrivals'' status limit _ _ =>
    exact ⟨[.received arrivals, .probed (some status), .waited limit late, .received arrivals'],
      _, rfl, rfl, .inr ⟨status, by simp⟩⟩
  | asked arrivals hasked =>
    obtain ⟨asking, early, after, rfl, -, hasking, hearly, hseen⟩ := hasked.look
    have hsent : takesOf ([.received arrivals, .probed none] ++ asking ++
        [.sent (Utf8.ofString Notice.lineSeparator) (.ok ())]) = [] :=
      takesOf_append_eq_nil (takesOf_append_eq_nil rfl hasking) rfl
    refine ⟨_, after, ?_, takesOf_append_eq_nil hsent hearly, hseen.imp isMet_iff.1 ?_⟩
    · simp only [List.append_assoc]
    · exact fun ⟨status, hm⟩ => ⟨status, List.mem_append_right _ hm⟩

end Moments

/-- A reply shows all that the sink owed and what has arrived since, up to an unfinished character;
and if all streams are closed, up to the end. -/
structure ShowsAll {σ : Type} (s : Session σ) (early : List Moment) (reply : List Line) : Prop where
  text : ∃ tail, (tail ≠ [] → Unfinished tail) ∧
    join ['\n'] reply ++ decode tail = s.sink.undelivered (arrivedBytes (arrivalsOf early))
  lines : (s.sink.undergoAll early).streamsClosed = true →
    reply = Sink.linesOf ['\n'] (s.sink.undelivered (arrivedBytes (arrivalsOf early)))

variable {σ : Type} [Host σ] {s t u : Session σ} {rounds : Nat} {f : Failure}

theorem showsAll_of_trace {early after : List Moment} {reply : List Line} (hs : s.Connected)
    (h : Trace s (early ++ .looked reply :: after) t) (hearly : takesOf early = []) :
    ShowsAll s early reply where
  text := hs.look_text h hearly
  lines hclosed := by
    obtain ⟨text, htext, rfl⟩ := hs.look_lines h (beq_iff_eq.1 hclosed)
    rw [takenText, hearly] at htext
    exact congrArg _ htext

theorem command_error_refused {c : Command} (hc : c.allowExit = true)
    (h : (command rounds c).run s = some (.error f, t)) :
    ∃ moments, Trace s moments t ∧ Refused c s.timing.silence s.threadPrompt moments f := by
  obtain ⟨moments, htrace, hcommanded⟩ := command_commanded h
  exact ⟨moments, htrace, hcommanded.refused hc⟩

theorem Continues.history_of_alive (h : Continues rounds s [.probed false] u) (hu : Trace u [] t) :
    ∃ arrivals past, t.history = .probed none :: .received arrivals :: past := by
  cases h with
  | probe hprobe hdone =>
    cases hdone
    obtain ⟨arrivals, status, hprobed, halive⟩ := isTerminated_trace hprobe
    cases status with
    | some status => exact absurd halive Bool.false_ne_true
    | none => exact ⟨arrivals, s.history, hu.history_eq.trans hprobed.history_eq⟩

/-- Continuing to the exit fails with one of its commands, or it has found the debugger alive at the
end. -/
theorem continueToExit_error {most : Nat}
    (h : (continueToExit rounds most).run s = some (.error f, t)) :
    (f = .stillRunning most ∧
      ∃ arrivals past, t.history = .probed none :: .received arrivals :: past) ∨
    ∃ past u moments, Trace s past u ∧ Trace u moments t ∧
      Refused Command.cont.orExit u.timing.silence u.threadPrompt moments f := by
  obtain ⟨turns, u, hturns, hu, replies, ending, rfl, -, hend⟩ := continueToExit_turns h
  obtain ⟨v, hbefore, hlast⟩ := hturns.split
  generalize hr : Except.error f = r at hend
  cases hend with
  | spent terminated =>
    obtain ⟨rfl, rfl⟩ := verdict_eq_error_iff.1 hr.symm
    exact .inl ⟨rfl, hlast.history_of_alive hu⟩
  | exited terminated _ =>
    obtain ⟨rfl, rfl⟩ := verdict_eq_error_iff.1 hr.symm
    obtain ⟨w, -, hprobed⟩ := Continues.split (a := [.probed true]) hlast
    exact .inl ⟨rfl, hprobed.history_of_alive hu⟩
  | failed alive _ _ =>
    obtain rfl := Except.error.inj hr
    obtain ⟨w, hprobed, hcalled⟩ := Continues.split (a := [.probed false]) hlast
    obtain ⟨past, hpast⟩ := hbefore.trace
    obtain ⟨probing, hprobing⟩ := hprobed.trace
    cases hcalled with
    | call _ hcommand hdone =>
      cases hdone
      obtain ⟨moments, hmoments, hrefused⟩ := command_error_refused rfl hcommand
      have htrace := hmoments.append hu
      rw [List.append_nil] at htrace
      exact .inr ⟨past ++ probing, w, moments, hpast.append hprobing, htrace, hrefused⟩
  | announced _ _ _ => exact absurd hr nofun

/-- A command that tolerates an exit returns all that is left of the output, after a probe has found
the exit or with its prompt at the end; or it fails, and then no probe has found the exit, and a
write failed or no output was seen for too long. The commands that continue the debugger until it
exits are no exception. Neither of them comes to no end unless the wait for a reply does not. -/
theorem exit_tolerated_unless_unwritten (hs : s.Connected) :
    (∀ rounds c r t, c.allowExit = true → (command rounds c).run s = some (r, t) →
      ∃ moments, t.history = moments.reverse ++ s.history ∧
        ((∃ reply early after, r = .ok reply ∧ moments = early ++ .looked reply :: after ∧
            ShowsAll s early reply ∧
            ((∃ line ∈ reply.rtake 1, s.threadPrompt.Shows c.allowSimplePrompt line) ∨
              ∃ status, .probed (some status) ∈ early)) ∨
          ∃ f, r = .error f ∧ Refused c s.timing.silence s.threadPrompt moments f)) ∧
    (∀ rounds c, (command rounds c).run s = none →
      ∃ v g, Begun c s v ∧ (waitFor rounds g).run v = none) ∧
    (∀ rounds most f t, (continueToExit rounds most).run s = some (.error f, t) →
      (f = .stillRunning most ∧
        ∃ arrivals past, t.history = .probed none :: .received arrivals :: past) ∨
      ∃ past moments, t.history = (past ++ moments).reverse ++ s.history ∧
        Refused Command.cont.orExit s.timing.silence s.threadPrompt moments f) ∧
    ∀ rounds most, (continueToExit rounds most).run s = none →
      ∃ turns u v g, Continues rounds s turns u ∧ Begun Command.cont.orExit u v ∧
        (waitFor rounds g).run v = none := by
  refine ⟨?_, fun _ _ => command_eq_none, ?_, fun _ _ => continueToExit_waits⟩
  · intro rounds c r t hc h
    obtain ⟨moments, htrace, hcommanded⟩ := command_commanded h
    refine ⟨moments, htrace.history_eq, ?_⟩
    cases r with
    | error f => exact .inr ⟨f, rfl, hcommanded.refused hc⟩
    | ok reply =>
      obtain ⟨early, after, rfl, hearly, hseen⟩ := hcommanded.look
      exact .inl ⟨reply, early, after, rfl, rfl, showsAll_of_trace hs htrace hearly, hseen⟩
  · intro rounds most f t h
    refine (continueToExit_error h).imp_right ?_
    rintro ⟨past, u, moments, hpast, hmoments, hrefused⟩
    rw [hpast.timing_eq, hpast.threadPrompt_eq] at hrefused
    exact ⟨past, moments, (hpast.append hmoments).history_eq, hrefused⟩

/-! ## An exit before the write -/

/-- A recording of a debugger that reads its input from a pipe, so that nothing can be written to it
once it has exited. -/
structure Piped where
  recording : Playback

namespace Piped

instance : Host Piped where
  clock p := Host.clock p.recording
  turn p := ((Host.turn p.recording).1, ⟨(Host.turn p.recording).2⟩)
  await limit ready p :=
    ((Host.await limit ready p.recording).1, ⟨(Host.await limit ready p.recording).2⟩)
  exit? p := Host.exit? p.recording
  send _ p := (if (Host.exit? p.recording).isSome then .error .brokenPipe else .ok (), p)
  kill p := ⟨Host.kill p.recording⟩

theorem wiring : Host.Wiring fun (p : Piped) n => p.recording.Records n where
  turn hp := Playback.wiring.turn hp
  await limit ready hp := Playback.wiring.await limit ready hp
  send _ hp := hp
  kill hp := hp

end Piped

/-- The debugger says farewell and exits after the first probe. -/
def lastBreath : Session Piped :=
  ⟨"jdb", ⟨100, 60000⟩, simplePrompt, freshSink,
    ⟨0, [[], [.wrote [0x62, 0x79, 0x65, 0x0A], .closed, .closed]], some (.exited 0)⟩, [], []⟩

theorem lastBreath_launched : lastBreath.Launched := ⟨rfl, rfl, _, Piped.wiring, rfl⟩

theorem exit_before_write_not_tolerated :
    lastBreath.Launched ∧ Command.quit.allowExit = true ∧
    ∃ t, (command 2 .quit).run lastBreath = some (.error (.write "quit" .brokenPipe), t) ∧
      t.history.reverse = [.received [], .probed none,
        .received [.wrote [0x62, 0x79, 0x65, 0x0A], .closed, .closed],
        .sent (Utf8.ofString "quit") (.error .brokenPipe)] ∧
      Host.exit? t.host = some (.exited 0) ∧ t.sink.undelivered [] = ['b', 'y', 'e', '\n'] :=
  ⟨lastBreath_launched, rfl, _, rfl, by decide, by decide, by decide⟩

/-- The exit before the write makes the command fail, and an exit during the wait does not. Without a
round the wait has no result. -/
theorem exit_tolerated_unless_unwritten_quit :
    lastBreath.Connected ∧ farewell.Connected ∧ Command.quit.allowExit = true ∧
    (∃ t moments, (command 2 .quit).run lastBreath =
        some (.error (.write "quit" .brokenPipe), t) ∧
      Refused .quit lastBreath.timing.silence lastBreath.threadPrompt moments
        (.write "quit" .brokenPipe)) ∧
    (∃ t early after, (command 2 .quit).run farewell = some (.ok [['b', 'y', 'e'], []], t) ∧
      t.history.reverse = early ++ .looked [['b', 'y', 'e'], []] :: after ∧
      ShowsAll farewell early [['b', 'y', 'e'], []]) ∧
    ∃ v g, (command 0 .quit).run farewell = none ∧ Begun .quit farewell v ∧
      (waitFor 0 g).run v = none := by
  have hs := lastBreath_launched.connected
  have hs' := farewell_launched.connected
  refine ⟨hs, hs', rfl, ?_, ?_, ?_⟩
  · obtain ⟨t, h⟩ : ∃ t, (command 2 .quit).run lastBreath =
        some (.error (.write "quit" .brokenPipe), t) := ⟨_, rfl⟩
    obtain ⟨hcommand, -⟩ := exit_tolerated_unless_unwritten hs
    obtain ⟨moments, -, ⟨reply, _, _, hr, -⟩ | ⟨f, hr, hrefused⟩⟩ := hcommand _ _ _ _ rfl h
    · exact absurd hr nofun
    · obtain rfl := Except.error.inj hr
      exact ⟨t, moments, h, hrefused⟩
  · have hrun : ((command 2 .quit).run farewell).map (fun p => p.1.toOption) =
        some (some [['b', 'y', 'e'], []]) := by
      decide +kernel
    obtain ⟨⟨r, t⟩, h, hr⟩ := Option.map_eq_some_iff.1 hrun
    obtain ⟨hcommand, -⟩ := exit_tolerated_unless_unwritten hs'
    obtain ⟨moments, hhistory, ⟨reply, early, after, rfl, rfl, hall, -⟩ | ⟨f, rfl, -⟩⟩ :=
      hcommand _ _ _ _ rfl h
    · obtain rfl := Option.some.inj hr
      refine ⟨t, early, after, h, ?_, hall⟩
      rw [hhistory, farewell_launched.history, List.append_nil, List.reverse_reverse]
    · exact absurd hr.symm (Option.some_ne_none _)
  · have hnone : ((command 0 .quit).run farewell).isNone = true := by decide +kernel
    have hrun : (command 0 .quit).run farewell = none := Option.isNone_iff_eq_none.1 hnone
    obtain ⟨-, hwaits, -⟩ := exit_tolerated_unless_unwritten hs'
    obtain ⟨v, g, hbegun, hwait⟩ := hwaits 0 .quit hrun
    exact ⟨v, g, hrun, hbegun, hwait⟩

end DebugControl.Control
