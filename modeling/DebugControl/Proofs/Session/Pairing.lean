import DebugControl.Proofs.Session.Exit

/-!
# Replies and the commands they answer

A command does not look at the sink before it writes its line. What a look shows only grows until it
is taken, so the reply to a command begins with what a look would have shown when the line had been
written. If the reply goes on from there, its last line has a part that arrived later, and the
prompt in it answers the command; otherwise it is a prompt that was left from earlier.
-/

namespace DebugControl

open Text Utf8

namespace Text

theorem getLast?_suffix_join {sep last : List Char} {pieces : List (List Char)}
    (h : pieces.getLast? = some last) : last <:+ join sep pieces := by
  induction pieces with
  | nil => exact absurd h.symm (Option.some_ne_none _)
  | cons piece rest ih =>
    cases rest with
    | nil =>
      obtain rfl : piece = last := Option.some.inj h
      exact List.suffix_rfl
    | cons next rest =>
      rw [List.getLast?_cons_cons] at h
      rw [join_cons _ _ (List.cons_ne_nil _ _)]
      exact (ih h).trans (List.suffix_append _ _)

theorem exists_part_of_last {old new line : List Char} {pieces : List (List Char)}
    (htext : join ['\n'] pieces = old ++ new) (hlast : pieces.getLast? = some line)
    (hline : line ≠ []) (hnew : new ≠ []) : ∃ part, part ≠ [] ∧ part <:+ line ∧ part <:+ new := by
  have hsuffix : line <:+ old ++ new := htext ▸ getLast?_suffix_join hlast
  obtain h | h := List.suffix_or_suffix_of_suffix hsuffix (List.suffix_append old new)
  · exact ⟨line, hline, List.suffix_rfl, h⟩
  · exact ⟨new, hnew, h, List.suffix_rfl⟩

theorem getLast?_of_mem_rtake_one {line : List Char} {lines : List (List Char)}
    (h : line ∈ lines.rtake 1) : lines.getLast? = some line := by
  obtain rfl | ⟨init, last, rfl⟩ := List.eq_nil_or_concat' lines
  · exact absurd h List.not_mem_nil
  · rw [List.rtake_concat_succ, List.rtake_zero] at h
    simp_all

end Text

namespace Sink

variable {s : Sink}

theorem absorb_absorb (s : Sink) : s.absorb.absorb = s.absorb :=
  absorb_of_not_pending (hasPending_absorb s)

theorem Lined.join_snapshot_prefix (h : s.Lined) (hf : s.finished = false)
    (arrivals : List Arrival) :
    join ['\n'] s.snapshot.1 <+: join ['\n'] (s.receiveAll arrivals).snapshot.1 := by
  rw [h.join_snapshot_eq, (h.receiveAll arrivals).join_snapshot_eq, hf, if_neg Bool.false_ne_true,
    receiveAll_lines, receiveAll_carry, receiveAll_raw, ← List.append_assoc]
  refine (List.prefix_append_right_inj _).2 ?_
  split_ifs
  · rw [decode_append]
    exact List.prefix_append _ _
  · rw [decodeStream_append (s.carry ++ s.raw)]
    exact List.prefix_append _ _

end Sink

namespace Session

open Moment

/-- What a look would show of a session. -/
def shown {σ : Type} (s : Session σ) : List Char := join ['\n'] s.sink.snapshot.1

namespace Connected

variable {σ : Type} [Host σ] {s t : Session σ} {m : Moment} {moments : List Moment}

theorem shown_prefix_step (hs : s.Connected) (h : Step s m t) (hm : m.took? = none) :
    s.shown <+: t.shown := by
  have arrived : ∀ {arrivals : List Arrival} {host : σ},
      (∃ n, openAfter s.sink.openStreams arrivals = some n ∧ Host.Streams host n) →
        s.shown <+: join ['\n'] (s.sink.receiveAll arrivals).snapshot.1 := by
    rintro arrivals host ⟨n, ha, -⟩
    cases hf : s.sink.finished with
    | false => exact hs.lined.join_snapshot_prefix hf arrivals
    | true =>
      rw [hs.finished.1 hf] at ha
      rw [openAfter_zero ha]
      exact List.prefix_rfl
  cases h with
  | turn => exact arrived hs.streams.turn
  | await limit ready => exact arrived (hs.streams.await limit ready)
  | look =>
    change join ['\n'] s.sink.absorb.lines <+: join ['\n'] s.sink.absorb.absorb.lines
    rw [Sink.absorb_absorb]
  | take => exact absurd hm (Option.some_ne_none _)
  | probe => exact List.prefix_rfl
  | time => exact List.prefix_rfl
  | send bytes => exact List.prefix_rfl
  | kill => exact List.prefix_rfl

theorem shown_prefix (hs : s.Connected) (h : Trace s moments t) (hm : takesOf moments = []) :
    s.shown <+: t.shown := by
  induction h with
  | done s => exact List.prefix_rfl
  | @step s t u m moments hstep _ ih =>
    obtain ⟨hfirst, hlater⟩ : m.took? = none ∧ takesOf moments = [] := by
      simpa [takesOf, List.filterMap_eq_nil_iff] using hm
    exact (hs.shown_prefix_step hstep hfirst).trans (ih (hs.step hstep) hlater)
  | noted log _ ih => exact ih (hs.noted log) hm

theorem shown_prefix_look {early after : List Moment} {reply : List Line} (hs : s.Connected)
    (h : Trace s (early ++ .looked reply :: after) t) (hearly : takesOf early = []) :
    s.shown <+: join ['\n'] reply := by
  obtain ⟨u, hbefore, -⟩ := h.split
  rw [h.look_eq, ← hbefore.sink_eq]
  exact hs.shown_prefix hbefore hearly

theorem undelivered_eq (hs : s.Connected) {rest : List UInt8}
    (hr : s.sink.openStreams = 0 → rest = []) :
    s.sink.undelivered rest = s.shown ++ decode (s.sink.absorb.carry ++ rest) := by
  have hsep := hs.lined.separator_ne_nil
  rw [← Sink.undelivered_absorb hsep fun hf => hr (hs.finished.1 hf), Sink.undelivered,
    hs.lined.absorb.separator, Sink.absorb_raw, List.append_nil]
  rfl

end Connected

end Session

namespace Control

open Session Moment

theorem not_shows_nil {p : Prompt} {simple : Bool}
    (hp : Prompt.new Notice.threadPromptPattern = .ok p) : ¬ p.Shows simple [] := by
  have hnil : (Prompt.new Notice.threadPromptPattern).toOption.map (fun p => p.isMatch []) =
      some false := by
    decide +kernel
  have hmatch : p.isMatch [] = false := by
    rw [hp] at hnil
    exact Option.some.inj hnil
  rintro (h | ⟨-, h⟩)
  · exact absurd (h.symm.trans hmatch) Bool.noConfusion
  · exact absurd (List.eq_nil_of_infix_nil h) (by decide)

/-- The last line of a reply has a part that was decoded after a session from what arrived in some
moments. -/
def Answers {σ : Type} (s : Session σ) (early : List Moment) (reply : List Line) (line : Line) :
    Prop :=
  arrivedBytes (arrivalsOf early) ≠ [] ∧
    ∃ new tail part, join ['\n'] reply = s.shown ++ new ∧
      ¬ new <+: decode s.sink.absorb.carry ∧ (tail ≠ [] → Unfinished tail) ∧
      new ++ decode tail = decode (s.sink.absorb.carry ++ arrivedBytes (arrivalsOf early)) ∧
      part ≠ [] ∧ part <:+ line ∧ part <:+ new

variable {σ : Type} [Host σ] {s₀ s s₁ t : Session σ} {past : List Moment} {rounds : Nat}
  {c : Command} {reply : List Line}

theorem owed_or_answers {v : Session σ} {early after : List Moment} {line : Line}
    (hv : v.Connected) (h : Trace v (early ++ .looked reply :: after) t)
    (hearly : takesOf early = []) (hlast : reply.getLast? = some line) (hline : line ≠ []) :
    v.sink.undelivered [] ≠ [] ∧ join ['\n'] reply <+: v.sink.undelivered [] ∨
      Answers v early reply line := by
  obtain ⟨tail, htail, htext⟩ := hv.look_text h hearly
  obtain ⟨new, hnew⟩ := hv.shown_prefix_look h hearly
  by_cases howed : join ['\n'] reply <+: v.sink.undelivered []
  · refine .inl ⟨fun hnothing => hline ?_, howed⟩
    have hsuffix : line <:+ join ['\n'] reply := getLast?_suffix_join hlast
    rw [hnothing] at howed
    rwa [List.prefix_nil.1 howed, List.suffix_nil] at hsuffix
  · have harrived : arrivedBytes (arrivalsOf early) ≠ [] := by
      intro hnone
      rw [hnone] at htext
      exact howed ⟨_, htext⟩
    have hopen : v.sink.openStreams = 0 → arrivedBytes (arrivalsOf early) = [] := by
      intro h0
      obtain ⟨u, hbefore, -⟩ := h.split
      rw [(hv.silent h0 hbefore).1, arrivedBytes_nil]
    have hgrown : ¬ new <+: decode v.sink.absorb.carry := by
      rwa [hv.undelivered_eq fun _ => rfl, ← hnew, List.append_nil,
        List.prefix_append_right_inj] at howed
    have hnonnil : new ≠ [] := by
      rintro rfl
      exact hgrown List.nil_prefix
    obtain ⟨part, hpart⟩ := exists_part_of_last hnew.symm hlast hline hnonnil
    rw [hv.undelivered_eq hopen, ← hnew, List.append_assoc, List.append_cancel_left_eq] at htext
    exact .inr ⟨harrived, new, tail, part, hnew.symm, hgrown, htail, htext, hpart⟩

/-- A command finds the debugger alive, writes its line and returns a reply that ends with a prompt.
Then the reply shows no more than the sink owed when the line had been written, or the line with the
prompt has a part that was decoded from what arrived in the sink later. Output that the debugger had
printed by then, but that was still in its pipes, counts as later: no controller can tell. -/
theorem reply_paired_unless_owed {spawn : String → List String → Except Fault σ}
    {program : String} {args : List String} {timing : Timing}
    (hl : launch spawn program args timing = .ok s₀) (hw : Host.Streams s₀.host 2)
    (hp : Trace s₀ past s) (halive : isTerminated.run s = some (false, s₁))
    (h : (command rounds c).run s = some (.ok reply, t))
    (hshown : ∃ line ∈ reply.rtake 1, s₀.threadPrompt.Shows c.allowSimplePrompt line) :
    ∃ asking v early after line,
      Trace s (asking ++ [.sent (Utf8.ofString Notice.lineSeparator) (.ok ())]) v ∧
      sentOf asking = Utf8.ofString c.text ∧
      Trace v (early ++ .looked reply :: after) t ∧
      reply.getLast? = some line ∧ s₀.threadPrompt.Shows c.allowSimplePrompt line ∧
      (v.sink.undelivered [] ≠ [] ∧ join ['\n'] reply <+: v.sink.undelivered [] ∨
        Answers v early reply line) := by
  obtain ⟨arrivals, status, hprobed, -⟩ := isTerminated_trace halive
  obtain ⟨moments, hasked, hasked'⟩ := ask_asked (command_of_alive halive h)
  obtain ⟨line', early, after, rfl, hsent, -, hearly, -⟩ := hasked'.look
  obtain ⟨v, hwritten, hwaited⟩ := hasked.split
  have hv := ((launched_of_launch hl hw).connected.trace hp).trace (hprobed.append hwritten)
  obtain ⟨line, hline, hprompt⟩ := hshown
  have hlast : reply.getLast? = some line := getLast?_of_mem_rtake_one hline
  have hnonempty : line ≠ [] := by
    rintro rfl
    obtain ⟨threadPrompt, host, hnew, -, rfl⟩ := launch_eq_ok hl
    exact not_shows_nil hnew hprompt
  refine ⟨[.received arrivals, .probed status] ++ line', v, early, after, line, ?_, ?_, hwaited,
    hlast, hprompt, owed_or_answers hv hwaited hearly hlast hnonempty⟩
  · rw [List.append_assoc]
    exact hprobed.append hwritten
  · rw [sentOf_append, hsent]
    rfl

def playing (portions : List (List Arrival)) : Except Failure (Session Playback) :=
  launch (fun _ _ => .ok ⟨0, portions, none⟩) "jdb" [] ⟨50, 50⟩

theorem playing_streams {portions : List (List Arrival)} {s : Session Playback}
    (h : playing portions = .ok s) (hp : (openAfter 2 portions.flatten).isSome = true) :
    Host.Streams s.host 2 := by
  obtain ⟨threadPrompt, host, -, hhost, rfl⟩ := launch_eq_ok h
  obtain rfl := Except.ok.inj hhost
  exact Playback.streams hp

/-- The answer to a command, which arrives when the command has given up. -/
def lateAnswer : List (List Arrival) :=
  [[], [], [], [], [], [], [.wrote (Utf8.ofString "one\nmain[1] ")]]

/-- What happens during the next command: nothing arrives after its line has been written. -/
def nextCommand : List Moment :=
  [.received [.wrote (Utf8.ofString "one\nmain[1] ")], .probed none,
    .received [], .sent (Utf8.ofString "two") (.ok ()),
    .received [], .sent (Utf8.ofString Notice.lineSeparator) (.ok ()),
    .timed 50000000, .timed 50000000, .waited 50000000 [], .timed 100000000,
    .received [], .looked ["one".toList, "main[1] ".toList],
    .received [], .took ["one".toList, "main[1] ".toList]]

theorem late_answer_to_next_command :
    ∃ s₀ s t f, playing lateAnswer = .ok s₀ ∧ Host.Streams s₀.host 2 ∧
      (command 3 (.plain "one")).run s₀ = some (.error f, s) ∧
      (command 3 (.plain "two")).run s = some (.ok ["one".toList, "main[1] ".toList], t) ∧
      s₀.threadPrompt.Shows false "main[1] ".toList ∧
      t.history = nextCommand.reverse ++ s.history := by
  have hrun : (playing lateAnswer).toOption.bind (fun s₀ =>
      ((command 3 (.plain "one")).run s₀).bind fun p =>
        ((command 3 (.plain "two")).run p.2).map fun q =>
          ((p.1.toOption, q.1.toOption), s₀.threadPrompt.isMatch "main[1] ".toList,
            decide (q.2.history = nextCommand.reverse ++ p.2.history))) =
      some ((none, some ["one".toList, "main[1] ".toList]), true, true) := by
    decide +kernel
  obtain ⟨s₀, hlaunched, hrun⟩ := Option.bind_eq_some_iff.1 hrun
  obtain ⟨⟨first, s⟩, hfirst, hrun⟩ := Option.bind_eq_some_iff.1 hrun
  obtain ⟨⟨second, t⟩, hsecond, hp⟩ := Option.map_eq_some_iff.1 hrun
  obtain ⟨hresults, hchecks⟩ := Prod.mk.inj hp
  obtain ⟨hfailed, hreply⟩ := Prod.mk.inj hresults
  obtain ⟨hmatch, hhistory⟩ := Prod.mk.inj hchecks
  have hlaunched := eq_ok_of_toOption hlaunched
  obtain rfl := eq_ok_of_toOption hreply
  cases first with
  | ok reply => exact absurd hfailed (Option.some_ne_none _)
  | error f =>
    exact ⟨s₀, s, t, f, hlaunched, playing_streams hlaunched rfl, hfirst, hsecond, .inl hmatch,
      of_decide_eq_true hhistory⟩

def promptAnswer : List (List Arrival) := [[], [], [], [.wrote (Utf8.ofString "x\nmain[1] ")]]

def promptAsking : List Moment :=
  [.received [], .probed none, .received [], .sent (Utf8.ofString "go") (.ok ()), .received []]

def promptWaiting : List Moment :=
  [.timed 0, .timed 0, .waited 50000000 [.wrote (Utf8.ofString "x\nmain[1] ")], .timed 0,
    .received [], .looked ["x".toList, "main[1] ".toList], .received [],
    .took ["x".toList, "main[1] ".toList]]

/-- The sink owed nothing when the line had been written, so that the reply answers it. -/
theorem reply_paired_unless_owed_promptAnswer :
    ∃ s₀ s₁ t, playing promptAnswer = .ok s₀ ∧ Host.Streams s₀.host 2 ∧ Trace s₀ [] s₀ ∧
      isTerminated.run s₀ = some (false, s₁) ∧
      (command 3 (.plain "go")).run s₀ = some (.ok ["x".toList, "main[1] ".toList], t) ∧
      (∃ line ∈ ["x".toList, "main[1] ".toList].rtake 1, s₀.threadPrompt.Shows false line) ∧
      ∃ (v : Session Playback) (early : List Moment) (line : Line),
        ["x".toList, "main[1] ".toList].getLast? = some line ∧ v.sink.undelivered [] = [] ∧
        Answers v early ["x".toList, "main[1] ".toList] line := by
  have hrun : (playing promptAnswer).toOption.bind (fun s₀ =>
      (isTerminated.run s₀).bind fun p =>
        ((command 3 (.plain "go")).run s₀).map fun q =>
          ((p.1, q.1.toOption), s₀.threadPrompt.isMatch "main[1] ".toList,
            decide (q.2.history.reverse = promptAsking ++
              .sent (Utf8.ofString Notice.lineSeparator) (.ok ()) :: promptWaiting))) =
      some ((false, some ["x".toList, "main[1] ".toList]), true, true) := by
    decide +kernel
  obtain ⟨s₀, hlaunched, hrun⟩ := Option.bind_eq_some_iff.1 hrun
  obtain ⟨⟨terminated, s₁⟩, hprobe, hrun⟩ := Option.bind_eq_some_iff.1 hrun
  obtain ⟨⟨result, t⟩, hcommand, hp⟩ := Option.map_eq_some_iff.1 hrun
  obtain ⟨hresults, hchecks⟩ := Prod.mk.inj hp
  obtain ⟨rfl, hreply⟩ := Prod.mk.inj hresults
  obtain ⟨hmatch, hhistory⟩ := Prod.mk.inj hchecks
  have hlaunched := eq_ok_of_toOption hlaunched
  obtain rfl := eq_ok_of_toOption hreply
  have hstreams := playing_streams hlaunched rfl
  have hstart := launched_of_launch hlaunched hstreams
  have hnothing := Trace.done s₀
  have hshown : ∃ line ∈ ["x".toList, "main[1] ".toList].rtake 1,
      s₀.threadPrompt.Shows false line :=
    ⟨"main[1] ".toList, by decide, .inl hmatch⟩
  refine ⟨s₀, s₁, t, hlaunched, hstreams, hnothing, hprobe, hcommand, hshown, ?_⟩
  obtain ⟨asking, v, early, after, line, hwritten, -, hwaited, hlast, -, hcases⟩ :=
    reply_paired_unless_owed hlaunched hstreams hnothing hprobe hcommand hshown
  -- The line feed is sent once, so that the history says what had happened before.
  have hmoments : promptAsking ++ .sent (Utf8.ofString Notice.lineSeparator) (.ok ()) ::
      promptWaiting = asking ++ .sent (Utf8.ofString Notice.lineSeparator) (.ok ()) ::
        (early ++ .looked ["x".toList, "main[1] ".toList] :: after) := by
    rw [← of_decide_eq_true hhistory, (hwritten.append hwaited).history_eq, hstart.history,
      List.append_nil, List.reverse_reverse, List.append_assoc, List.singleton_append]
  obtain ⟨rfl, -, -⟩ :=
    (List.append_cons_inj_of_notMem (by decide) (by decide)).1 hmoments
  have howed : v.sink.undelivered [] = [] := by
    rw [hwritten.sink_eq, hstart.sink]
    decide
  exact ⟨v, early, line, hlast, howed, hcases.resolve_left fun h => h.1 howed⟩

end Control

end DebugControl
