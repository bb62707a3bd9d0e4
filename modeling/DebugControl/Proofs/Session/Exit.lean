import DebugControl.Proofs.Session.Calls
import DebugControl.Proofs.Session.Outcome

/-!
# The output of a debugger that has exited

A session that finds that the debugger has exited waits until the streams are closed before it looks
for the last time. If they close in time, nothing can arrive later, and the sink is finished, so that
this look shows all that is left of the output. What it shows decides how a wait ends, and a command
that tolerates the exit returns it and leaves nothing behind.
-/

namespace DebugControl

namespace Session

open Moment Text Utf8

variable {σ : Type} [Host σ] {s t : Session σ}

/-- A text is all that is left of the output, now and later, after what was taken in some moments. -/
def Rest (taken : List Moment) (s : Session σ) (text : List Char) : Prop :=
  ∀ later t, Trace s later t →
    takenText taken ++ text = decode (arrivedBytes (arrivalsOf t.history.reverse))

theorem Rest.of_append {a b : List Moment} {text : List Char} (h : Rest (a ++ b) s text)
    (hb : takesOf b = []) : Rest a s text := by
  intro later t hlater
  rw [← h later t hlater, takenText_append, takenText, takenText, hb, List.flatMap_nil,
    List.append_nil]

theorem Launched.last_look {early last : List Moment} {reply : List Line} (hs : s.Launched)
    (h : Trace s (early ++ .looked reply :: last) t)
    (hclosed : (s.sink.undergoAll early).openStreams = 0) :
    ∃ text, Rest early t text ∧ reply = Sink.linesOf ['\n'] text := by
  obtain ⟨text, htext, hreply⟩ := hs.connected.look_lines h hclosed
  refine ⟨text, fun later u hlater => ?_, hreply⟩
  have hall := h.append hlater
  rw [List.append_assoc] at hall
  obtain ⟨v, hearly, hafter⟩ := hall.split
  rw [← hearly.sink_eq] at hclosed
  have hnone := ((hs.connected.trace hearly).silent hclosed hafter).1
  have howed : s.sink.undelivered (arrivedBytes (arrivalsOf early)) =
      decode (arrivedBytes (arrivalsOf early)) := by
    rw [hs.sink]
    rfl
  rw [htext, howed, hall.history_eq, hs.history, List.append_nil, List.reverse_reverse,
    arrivalsOf_append, hnone, List.append_nil]

end Session

namespace Control

open Session Moment Text Utf8

section

variable {g : Goal} {silence : Duration} {reply : List Line} {verdict : List Moment}
  {r : Except Failure (List Line)}

theorem Judged.ok_or_timeout (h : Judged g silence reply verdict r) :
    r = .ok reply ∨ r = .error (.timeout silence g.prompt.pattern g.tail true) := by
  cases h with
  | shown arrivals _ => exact .inl rfl
  | tolerated _ _ => exact .inl rfl
  | refused _ _ => exact .inr rfl

theorem Judged.timeout_iff (h : Judged g silence reply verdict r) :
    r = .error (.timeout silence g.prompt.pattern g.tail true) ↔
      g.orExit = false ∧ ∀ line ∈ reply.rtake g.tail, ¬ g.prompt.Shows g.simple line := by
  rw [← isMet_eq_false]
  cases h with
  | shown arrivals hmet => simp [hmet]
  | tolerated _ htolerant => simp [htolerant]
  | refused hmet htolerant => simp [hmet, htolerant]

end

theorem Ending.exit_eq {g : Goal} {silence : Duration} {r : Except Failure (List Line)}
    {before last moments after : List Moment} {status : ExitStatus}
    (hidle : ∀ m ∈ before, Idle g m) (hend : Ending g silence last r)
    (h : before ++ last = moments ++ .probed (some status) :: after) :
    before = moments ∧ last = .probed (some status) :: after := by
  have hbefore : .probed (some status) ∉ before := fun hm => absurd (hidle _ hm) (by simp [Idle])
  have hmem : .probed (some status) ∈ before ++ last := by simp [h]
  cases hend with
  | met arrivals _ => simp [hbefore] at hmem
  | silent arrivals => simp [hbefore] at hmem
  | @exited status' limit late arrivals reply verdict _ hj =>
    have htail : .probed (some status) ∉
        .waited limit late :: .received arrivals :: .looked reply :: verdict := by
      cases hj <;> simp
    obtain ⟨rfl, hstatus, rfl⟩ := (List.append_cons_inj_of_notMem hbefore htail).1 h
    exact ⟨rfl, by rw [hstatus]⟩

variable {σ : Type} [Host σ] {s₀ s s₁ s₂ t : Session σ} {past : List Moment}
  {r : Except Failure (List Line)} {rounds : Nat}

/-- A wait that finds that the debugger has exited, and then that its streams are closed, judges all
that is left of the output. -/
theorem waitFor_judges_rest {g : Goal} {before after : List Moment} {status : ExitStatus}
    {limit : Nat} {late : List Arrival} (hl : s₀.Launched) (hp : Trace s₀ past s)
    (h : (waitFor rounds g).run s = some (r, t))
    (hm : t.history =
      (before ++ .probed (some status) :: .waited limit late :: after).reverse ++ s.history)
    (hclosed : (s.sink.undergoAll
      (before ++ [.probed (some status), .waited limit late])).streamsClosed = true) :
    ∃ text arrivals verdict, Rest past t text ∧
      after = .received arrivals :: .looked (Sink.linesOf ['\n'] text) :: verdict ∧
      Judged g s.timing.silence (Sink.linesOf ['\n'] text) verdict r := by
  obtain ⟨before', last, htrace, hidle, hend⟩ := waitFor_endsIn h
  have hmoments := List.reverse_inj.1 (List.append_cancel_right (htrace.history_eq.symm.trans hm))
  obtain ⟨rfl, rfl⟩ := hend.exit_eq hidle hmoments
  cases hend with
  | @exited _ _ _ arrivals reply verdict _ hj =>
    have hall : Trace s₀ (past ++ (before' ++
        [.probed (some status), .waited limit late, .received arrivals]) ++
          .looked reply :: verdict) t := by
      simpa using hp.append htrace
    have hstill : (s₀.sink.undergoAll (past ++ (before' ++
        [.probed (some status), .waited limit late, .received arrivals]))).openStreams = 0 := by
      simp only [hp.sink_eq, ← Sink.undergoAll_append, Sink.streamsClosed, beq_iff_eq] at hclosed
      simp only [← List.append_assoc, Sink.undergoAll_append, Sink.undergoAll_cons,
        Sink.undergoAll_nil, Sink.undergo, Sink.receiveAll_openStreams] at hclosed ⊢
      omega
    obtain ⟨text, hrest, rfl⟩ := hl.last_look hall hstill
    have hnothing := takesOf_append_eq_nil (takesOf_of_idle hidle)
      (rfl : takesOf [.probed (some status), .waited limit late, .received arrivals] = [])
    exact ⟨text, arrivals, verdict, hrest.of_append hnothing, rfl, hj⟩

theorem remainder_of_closed (hl : s₀.Launched) (hp : Trace s₀ past s)
    (hclosed : (awaitStreamsClosed s.timing.pollInterval.nanoseconds).run s = some (true, s₁)) :
    ∃ text t, Rest past t text ∧ remainder.run s = some (Sink.linesOf ['\n'] text, t) ∧
      t.sink.lines = [] ∧ t.sink.raw = [] ∧ t.sink.carry = [] := by
  obtain ⟨⟨reply, t⟩, hrem⟩ : ∃ p, remainder.run s = some p := ⟨_, rfl⟩
  obtain ⟨session, u, hget, h⟩ := run_bind_eq_some.1 hrem
  obtain ⟨rfl, rfl⟩ := run_get_eq_some.1 hget
  obtain ⟨closed, v, hawait, h⟩ := run_bind_eq_some.1 h
  obtain ⟨rfl, rfl⟩ := Prod.mk.inj (Option.some.inj (hclosed.symm.trans hawait))
  obtain ⟨late, hlate, hstill⟩ := awaitSink_trace hclosed
  obtain ⟨seen, w, hsnapshot, hreset⟩ := run_bind_eq_some.1 h
  obtain ⟨arrivals, hlook, hlines⟩ := snapshot_trace hsnapshot
  obtain ⟨hreply, arrivals', htake⟩ := reset_trace hreset
  obtain ⟨quiet, hquiet, htakes⟩ : ∃ quiet, Trace s quiet s₁ ∧ takesOf quiet = [] :=
    ⟨_, hlate, rfl⟩
  have hwaited := hp.append hquiet
  have hs₁ := hl.connected.trace hwaited
  have h0 : s₁.sink.openStreams = 0 := beq_iff_eq.1 hstill.symm
  have hlook' : Trace s₁ ([.received arrivals] ++ .looked seen :: []) w := hlook
  obtain ⟨v, hbefore, -⟩ := hlook'.split
  have hv := (hs₁.silent h0 hbefore).2
  rw [(hwaited.append hbefore).sink_eq] at hv
  have hall : Trace s₀ (past ++ quiet ++ [.received arrivals] ++
      .looked seen :: [.received arrivals', .took reply]) t := by
    simpa using (hwaited.append hlook).append htake
  obtain ⟨text, hrest, rfl⟩ := hl.last_look hall hv
  rw [List.append_assoc] at hrest
  have hnone : arrivals = [] ∧ arrivals' = [] := by
    simpa [arrivalsOf, Moment.arrivals] using (hs₁.silent h0 (hlook.append htake)).1
  obtain ⟨rfl, rfl⟩ := hnone
  have hsink : t.sink = s₁.sink.absorb.reset.2 := (hlook.append htake).sink_eq
  refine ⟨text, t, hrest.of_append (takesOf_append_eq_nil htakes rfl), ?_, ?_, ?_, ?_⟩
  · rw [hrem, hreply, hlines]
  · rw [hsink]
    rfl
  · rw [hsink]
    exact Sink.absorb_raw s₁.sink
  · rw [hsink]
    exact Sink.absorb_carry_of_finished (hs₁.finished.2 h0)

/-- If the debugger is found to have exited and its streams are then found to be closed, what a wait
judges, and what a command that tolerates the exit returns, is all that is left of the output. -/
theorem nothing_missed_before_exit (hl : s₀.Launched) (hp : Trace s₀ past s) :
    (∀ rounds g r t before status limit late after,
      (waitFor rounds g).run s = some (r, t) →
      t.history =
        (before ++ .probed (some status) :: .waited limit late :: after).reverse ++ s.history →
      (s.sink.undergoAll
        (before ++ [.probed (some status), .waited limit late])).streamsClosed = true →
      ∃ text reply, Rest past t text ∧ reply = Sink.linesOf ['\n'] text ∧
        (∃ arrivals verdict, after = .received arrivals :: .looked reply :: verdict) ∧
        (r = .ok reply ∨ r = .error (.timeout s.timing.silence g.prompt.pattern g.tail true)) ∧
        (r = .error (.timeout s.timing.silence g.prompt.pattern g.tail true) ↔
          g.orExit = false ∧ ∀ line ∈ reply.rtake g.tail, ¬ g.prompt.Shows g.simple line)) ∧
    ∀ rounds c s₁ s₂, c.allowExit = true → isTerminated.run s = some (true, s₁) →
      (awaitStreamsClosed s₁.timing.pollInterval.nanoseconds).run s₁ = some (true, s₂) →
      ∃ text t, Rest past t text ∧
        (command rounds c).run s = some (.ok (Sink.linesOf ['\n'] text), t) ∧
        t.sink.lines = [] ∧ t.sink.raw = [] ∧ t.sink.carry = [] := by
  constructor
  · intro rounds g r t before status limit late after h hm hclosed
    obtain ⟨text, arrivals, verdict, hrest, hafter, hjudged⟩ :=
      waitFor_judges_rest hl hp h hm hclosed
    exact ⟨text, _, hrest, rfl, ⟨arrivals, verdict, hafter⟩, hjudged.ok_or_timeout,
      hjudged.timeout_iff⟩
  · intro rounds c s₁ s₂ hc hexit hclosed
    obtain ⟨arrivals, status, hprobed, -⟩ := isTerminated_trace hexit
    obtain ⟨text, t, hrest, hrun, hempty⟩ := remainder_of_closed hl (hp.append hprobed) hclosed
    refine ⟨text, t, hrest.of_append rfl, ?_, hempty⟩
    refine run_bind_eq_some.2 ⟨true, s₁, hexit, ?_⟩
    rw [if_pos rfl, if_pos hc]
    exact run_bind_eq_some.2 ⟨_, t, hrun, rfl⟩

/-- What two pumps brought: the end of one stream lies within a character. -/
def lastWords : Session Playback :=
  Playback.session
    ⟨0, [[.wrote [0x62, 0x0A], .closed, .wrote [0xE2], .closed]], some (.exited 0)⟩
    simplePrompt ⟨100, 60000⟩

theorem lastWords_launched : lastWords.Launched where
  sink := rfl
  history := rfl
  streams := by
    have hrun : ((Pump.System.initial ['\n']).run
        [.start (.ofEvents [.bytes [0x62, 0x0A]]), .start (.ofEvents [.bytes [0xE2]]), .advance 1,
          .advance 0, .advance 0, .advance 0, .advance 0, .advance 1, .advance 1, .advance 1]).map
        (fun y => (y.threads.length, y.arrivals)) =
        some (2, [.wrote [0x62, 0x0A], .closed, .wrote [0xE2], .closed]) := by
      decide
    obtain ⟨y, hy, hp⟩ := Option.map_eq_some_iff.1 hrun
    obtain ⟨hlength, harrivals⟩ := Prod.mk.inj hp
    exact Pump.System.streams_of_run hy hlength harrivals.symm

deriving instance DecidableEq for Moment

theorem nothing_missed_before_exit_lastWords :
    lastWords.Launched ∧ Trace lastWords [] lastWords ∧
    (∃ t, (waitFor 2 ⟨simplePrompt, false, 1, false⟩).run lastWords =
        some (.error (.timeout lastWords.timing.silence simplePrompt.pattern 1 true), t) ∧
      Rest [] t ['b', '\n', '\uFFFD']) ∧
    ∃ t, (command 2 .quit).run lastWords = some (.ok [['b'], ['\uFFFD']], t) ∧
      t.sink.lines = [] ∧ t.sink.raw = [] ∧ t.sink.carry = [] := by
  have hnothing := Trace.done lastWords
  obtain ⟨hwait, hcommand⟩ := nothing_missed_before_exit lastWords_launched hnothing
  refine ⟨lastWords_launched, hnothing, ?_, ?_⟩
  · have hrun : ((waitFor 2 ⟨simplePrompt, false, 1, false⟩).run lastWords).map
        (fun p => p.2.history.reverse) =
        some ([.timed 0, .timed 0,
            .waited 100000000 [.wrote [0x62, 0x0A], .closed, .wrote [0xE2], .closed],
            .timed 0, .received [], .looked [['b'], ['\uFFFD']], .received []] ++
          .probed (some (.exited 0)) :: .waited 100000000 [] ::
            [.received [], .looked [['b'], ['\uFFFD']]]) := by
      decide +kernel
    obtain ⟨⟨r, t⟩, h, hhistory⟩ := Option.map_eq_some_iff.1 hrun
    obtain ⟨text, reply, hrest, -, ⟨arrivals, verdict, hafter⟩, -, htimeout⟩ :=
      hwait _ _ _ _ _ _ _ _ _ h ((List.reverse_eq_iff.1 hhistory).trans (List.append_nil _).symm)
        (by decide)
    have hreply : reply = [['b'], ['\uFFFD']] := by
      simp only [List.cons.injEq, Moment.looked.injEq] at hafter
      exact hafter.2.1.symm
    have htext : text = ['b', '\n', '\uFFFD'] := by
      refine (hrest [] t (.done t)).trans ?_
      rw [hhistory]
      decide
    have hunmet : Goal.isMet ⟨simplePrompt, false, 1, false⟩ reply = false := by
      rw [hreply]
      decide
    obtain rfl := htimeout.2 ⟨rfl, isMet_eq_false.1 hunmet⟩
    exact ⟨t, h, htext ▸ hrest⟩
  · obtain ⟨text, t, -, h, hempty⟩ := hcommand 2 .quit _ _ rfl rfl rfl
    have hrun : ((command 2 .quit).run lastWords).map (fun p => p.1.toOption) =
        some (some [['b'], ['\uFFFD']]) := by
      decide +kernel
    rw [h] at hrun
    have hreply : Sink.linesOf ['\n'] text = [['b'], ['\uFFFD']] :=
      Option.some.inj (Option.some.inj hrun)
    exact ⟨t, hreply ▸ h, hempty⟩

end Control

end DebugControl
