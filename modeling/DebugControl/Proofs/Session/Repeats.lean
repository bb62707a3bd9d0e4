import DebugControl.Proofs.Session.Calls
import DebugControl.Proofs.Session.Outcome

/-!
# Replies that are returned again

A conversation is some calls made one after the other. A call that succeeds takes what it returns
out of the sink, unless its reply ended with an exit that it tolerates: then the lines stay, and the
next call that succeeds returns them once more. As long as no call succeeds after such a reply, the
replies of a conversation are the beginning of the output of the debugger.
-/

namespace DebugControl

namespace Sink

open Text

variable {s : Sink} {m : Moment} {moments : List Moment}

theorem undergo_separator (s : Sink) (m : Moment) : (s.undergo m).separator = s.separator := by
  cases m with
  | received arrivals => exact receiveAll_separator s arrivals
  | waited limit arrivals => exact receiveAll_separator s arrivals
  | looked reply => exact absorb_separator s
  | took reply => rfl
  | probed status => rfl
  | timed now => rfl
  | sent bytes result => rfl
  | killed => rfl

theorem undergoAll_separator (s : Sink) (moments : List Moment) :
    (s.undergoAll moments).separator = s.separator := by
  induction moments generalizing s with
  | nil => rfl
  | cons m moments ih => rw [undergoAll_cons, ih, undergo_separator]

/-- Whatever does not take lines out of the sink at most adds text to them. -/
theorem join_lines_prefix_undergo (hs : s.separator = ['\n']) (hm : m.took? = none) :
    join ['\n'] s.lines <+: join ['\n'] (s.undergo m).lines := by
  cases m with
  | received arrivals => rw [undergo, receiveAll_lines]
  | waited limit arrivals => rw [undergo, receiveAll_lines]
  | looked reply => exact join_lines_prefix_absorb hs (List.cons_ne_nil _ _)
  | took reply => exact absurd hm (Option.some_ne_none _)
  | probed status => exact List.prefix_rfl
  | timed now => exact List.prefix_rfl
  | sent bytes result => exact List.prefix_rfl
  | killed => exact List.prefix_rfl

theorem join_lines_prefix_undergoAll (hs : s.separator = ['\n'])
    (hm : Moment.takesOf moments = []) :
    join ['\n'] s.lines <+: join ['\n'] (s.undergoAll moments).lines := by
  induction moments generalizing s with
  | nil => exact List.prefix_rfl
  | cons m moments ih =>
    obtain ⟨hfirst, hlater⟩ : m.took? = none ∧ Moment.takesOf moments = [] := by
      simpa [Moment.takesOf, List.filterMap_eq_nil_iff] using hm
    exact (join_lines_prefix_undergo hs hfirst).trans
      (ih ((undergo_separator s m).trans hs) hlater)

end Sink

namespace Control

open Session Moment Text Utf8

/-- A call in a conversation, its moments and its result. -/
structure Episode where
  call : Call
  moments : List Moment
  result : Except Failure (List Line)

namespace Episode

def text (e : Episode) : List Char :=
  match e.result with
  | .ok reply => join ['\n'] reply
  | .error _ => []

def Fails (e : Episode) : Prop := e.result.isOk = false

def Leaves (e : Episode) : Prop := e.result.isOk = true ∧ takesOf e.moments = []

theorem fails_iff {e : Episode} : e.Fails ↔ e.result.toOption = none := by
  rw [Fails]
  cases e.result <;> simp [Except.isOk, Except.toBool, Except.toOption]

theorem text_of_toOption {e : Episode} {reply : List Line} (h : e.result.toOption = some reply) :
    e.text = join ['\n'] reply := by
  rw [text, eq_ok_of_toOption h]

end Episode

variable {σ : Type} [Host σ]

inductive Conversation : Session σ → List Episode → Session σ → Prop where
  | done (s : Session σ) : Conversation s [] s
  | call {s t u : Session σ} {rounds : Nat} {e : Episode} {later : List Episode} :
      (e.call.perform rounds).run s = some (e.result, t) → Trace s e.moments t →
      Conversation t later u → Conversation s (e :: later) u

variable {s t u : Session σ} {e : Episode} {episodes : List Episode}

theorem Conversation.trace (h : Conversation s episodes t) :
    Trace s (episodes.flatMap Episode.moments) t := by
  induction h with
  | done s => exact .done s
  | call _ hmoments _ ih => exact hmoments.append ih

theorem Conversation.history_reverse (h : Conversation s episodes t) (hs : s.Launched) :
    t.history.reverse = episodes.flatMap Episode.moments := by
  rw [h.trace.history_eq, hs.history, List.append_nil, List.reverse_reverse]

theorem Conversation.split {before after : List Episode}
    (h : Conversation s (before ++ after) u) :
    ∃ t, Conversation s before t ∧ Conversation t after u := by
  induction before generalizing s with
  | nil => exact ⟨s, .done s, h⟩
  | cons e before ih =>
    cases h with
    | call hrun hmoments hlater =>
      obtain ⟨t, hbefore, hafter⟩ := ih hlater
      exact ⟨t, .call hrun hmoments hbefore, hafter⟩

theorem called_of_perform {rounds : Nat} (h : (e.call.perform rounds).run s = some (e.result, t))
    (hmoments : Trace s e.moments t) : Called e.call.orExit e.moments e.result := by
  obtain ⟨moments, htrace, hcalled⟩ := perform_callsTo h
  rwa [htrace.moments_unique hmoments] at hcalled

theorem Conversation.called (h : Conversation s episodes t) :
    ∀ e ∈ episodes, Called e.call.orExit e.moments e.result := by
  induction h with
  | done s => exact fun e he => absurd he List.not_mem_nil
  | call hrun hmoments _ ih => exact List.forall_mem_cons.2 ⟨called_of_perform hrun hmoments, ih⟩

namespace Called

variable {orExit : Bool}

theorem of_leaves (h : Called orExit e.moments e.result) (hl : e.Leaves) :
    orExit = true ∧ (∃ status, .probed (some status) ∈ e.moments) ∧
      ∃ early reply, e.result = .ok reply ∧ e.moments = early ++ [.looked reply] := by
  obtain ⟨call, moments, result⟩ := e
  obtain ⟨hok, htakes⟩ := hl
  cases h with
  | taken early arrivals he => simp [takesOf, took?] at htakes
  | @left early reply status he hs ho =>
    exact ⟨ho, ⟨status, List.mem_append_left _ hs⟩, early, reply, rfl, rfl⟩
  | failed _ => exact absurd hok Bool.false_ne_true

theorem takenText_eq (h : Called orExit e.moments e.result) (hl : ¬ e.Leaves) :
    takenText e.moments = e.text := by
  obtain ⟨call, moments, result⟩ := e
  cases h with
  | @taken early reply arrivals he =>
    have ht : takesOf (early ++ [.looked reply, .received arrivals, .took reply]) = [reply] := by
      rw [takesOf_append, he]
      rfl
    simp [takenText, ht, Episode.text]
  | @left early reply status he hs ho =>
    exact absurd ⟨rfl, takesOf_append_eq_nil he rfl⟩ hl
  | failed hm => simp [takenText, hm, Episode.text]

end Called

theorem text_eq_lines_of_leaves (hmoments : Trace s e.moments t)
    (hc : Called e.call.orExit e.moments e.result) (hl : e.Leaves) :
    e.text = join ['\n'] t.sink.lines := by
  obtain ⟨-, -, early, reply, hreply, hlook⟩ := hc.of_leaves hl
  rw [hlook] at hmoments
  rw [Episode.text, hreply, hmoments.sink_eq, Sink.undergoAll_append, hmoments.look_eq]
  rfl

theorem Episode.Fails.text_eq (h : e.Fails) : e.text = [] := by
  obtain ⟨call, moments, result⟩ := e
  cases result with
  | error f => rfl
  | ok reply => exact absurd h.symm Bool.false_ne_true

theorem Called.takesOf_of_fails {orExit : Bool} (h : Called orExit e.moments e.result)
    (hf : e.Fails) : takesOf e.moments = [] := by
  obtain ⟨call, moments, result⟩ := e
  cases result with
  | error f => exact h.takesOf_eq_nil
  | ok reply => exact absurd hf.symm Bool.false_ne_true

theorem Conversation.takesOf_of_fails (h : Conversation s episodes t)
    (hf : ∀ e ∈ episodes, e.Fails) : takesOf (episodes.flatMap Episode.moments) = [] := by
  induction h with
  | done s => rfl
  | call hrun hmoments _ ih =>
    obtain ⟨hfirst, hlater⟩ := List.forall_mem_cons.1 hf
    exact takesOf_append_eq_nil ((called_of_perform hrun hmoments).takesOf_of_fails hfirst)
      (ih hlater)

/-- The replies of a conversation are the beginning of what the sink owes and of what arrives, if
no call succeeds after one that leaves what it returns. -/
theorem texts_prefix (hs : s.Connected) (h : Conversation s episodes t)
    (hp : episodes.Pairwise fun e later => e.Leaves → later.Fails) :
    episodes.flatMap Episode.text <+:
      s.sink.undelivered (arrivedBytes (arrivalsOf (episodes.flatMap Episode.moments))) := by
  induction h with
  | done s => exact List.nil_prefix
  | @call s t u rounds e later hrun hmoments hlater ih =>
    have ht := hs.trace hmoments
    have hc := called_of_perform hrun hmoments
    have hafter := hlater.trace
    have howed : takenText e.moments ++
        t.sink.undelivered (arrivedBytes (arrivalsOf (later.flatMap Episode.moments))) = _ :=
      hs.conserved hmoments fun h0 => by rw [(ht.silent h0 hafter).1]; rfl
    obtain ⟨hfirst, hrest⟩ := List.pairwise_cons.1 hp
    rw [List.flatMap_cons, List.flatMap_cons, arrivalsOf_append, arrivedBytes_append, ← howed]
    -- Either the reply is gone from the sink, and induction takes over, or it is still there, and the
    -- calls that follow return nothing.
    by_cases hl : e.Leaves
    · have hnothing : later.flatMap Episode.text = [] :=
        List.flatMap_eq_nil_iff.2 fun x hx => (hfirst x hx hl).text_eq
      rw [hnothing, List.append_nil, takenText, hl.2, List.flatMap_nil, List.nil_append,
        text_eq_lines_of_leaves hmoments hc hl, ← ht.lined.separator]
      exact List.prefix_append _ _
    · rw [hc.takenText_eq hl]
      exact (List.prefix_append_right_inj _).2 (ih ht hrest)

/-- The next call that succeeds returns again what a call has left. -/
theorem text_prefix_of_leaves {failed after : List Episode} {e' : Episode} (hs : s.Connected)
    (h : Conversation s (e :: (failed ++ e' :: after)) t) (hl : e.Leaves)
    (hf : ∀ x ∈ failed, x.Fails) (hok : ¬ e'.Fails) : e.text <+: e'.text := by
  cases h with
  | @call _ v _ _ _ _ hrun hmoments hlater =>
    have hv := hs.trace hmoments
    obtain ⟨w, hfailed, hrest⟩ := hlater.split
    cases hrest with
    | call hrun' hmoments' _ =>
      obtain ⟨call, moments, result⟩ := e'
      cases result with
      | error f => exact absurd rfl hok
      | ok reply =>
        obtain ⟨early, last, rfl, hearly⟩ := (called_of_perform hrun' hmoments').look
        have hlook := hfailed.trace.append hmoments'
        rw [← List.append_assoc] at hlook
        have hnothing : takesOf (failed.flatMap Episode.moments ++ early) = [] :=
          takesOf_append_eq_nil (hfailed.takesOf_of_fails hf) hearly
        rw [text_eq_lines_of_leaves hmoments (called_of_perform hrun hmoments) hl, Episode.text,
          hlook.look_eq]
        have hsep := hv.lined.separator
        exact (Sink.join_lines_prefix_undergoAll hsep hnothing).trans
          (Sink.join_lines_prefix_absorb ((Sink.undergoAll_separator _ _).trans hsep)
            (List.cons_ne_nil _ _))

/-- Only a call that tolerates an exit, and has seen one, leaves what it returns. If no call succeeds
after such a call, the replies of the conversation are the beginning of the output of the debugger;
otherwise the first one that does returns what was left, and perhaps more. -/
theorem conversation_replies (hs : s.Launched) (h : Conversation s episodes t) :
    (∀ e ∈ episodes, e.Leaves →
      e.call.orExit = true ∧ ∃ status, .probed (some status) ∈ e.moments) ∧
    (episodes.Pairwise (fun e later => e.Leaves → later.Fails) →
      episodes.flatMap Episode.text <+: decode (arrivedBytes (arrivalsOf t.history.reverse))) ∧
    ∀ before e failed e' after, episodes = before ++ e :: (failed ++ e' :: after) → e.Leaves →
      (∀ x ∈ failed, x.Fails) → ¬ e'.Fails → e.text <+: e'.text := by
  refine ⟨fun e he hl => ?_, fun hp => ?_, ?_⟩
  · obtain ⟨htolerant, hexit, -⟩ := (h.called e he).of_leaves hl
    exact ⟨htolerant, hexit⟩
  · have hprefix := texts_prefix hs.connected h hp
    have howed : ∀ rest, s.sink.undelivered rest = decode rest := by
      rw [hs.sink]
      exact fun _ => rfl
    rwa [howed, ← h.history_reverse hs] at hprefix
  · rintro before e failed e' after rfl hl hf hok
    obtain ⟨u, hbefore, hafter⟩ := h.split
    exact text_prefix_of_leaves (hs.connected.trace hbefore.trace) hafter hl hf hok

/-- A debugger that says farewell when it is continued, and exits. -/
def farewell : Session Playback :=
  Playback.session
    ⟨0, [[], [], [], [.wrote [0x62, 0x79, 0x65, 0x0A], .closed, .closed]], some (.exited 0)⟩
    simplePrompt ⟨100, 60000⟩

theorem farewell_launched : farewell.Launched := ⟨rfl, rfl, Playback.streams rfl⟩

theorem farewell_conversation (c : Call) {reply : Option (List Line)} {output : List Char}
    (h : (((Call.command Command.cont.orExit).perform 2).run farewell).bind (fun p =>
      ((c.perform 2).run p.2).map fun q => (q.1.toOption,
        decode (arrivedBytes (arrivalsOf q.2.history.reverse)))) = some (reply, output)) :
    ∃ e e' t, Conversation farewell [e, e'] t ∧ e.Leaves ∧
      e.result.toOption = some [['b', 'y', 'e'], []] ∧ e'.result.toOption = reply ∧
      decode (arrivedBytes (arrivalsOf t.history.reverse)) = output := by
  have hfirst : (((Call.command Command.cont.orExit).perform 2).run farewell).map
      (fun p => (p.1.toOption, takesOf p.2.history.reverse)) =
      some (some [['b', 'y', 'e'], []], []) := by
    decide +kernel
  obtain ⟨⟨r, t⟩, hrun, hp⟩ := Option.map_eq_some_iff.1 hfirst
  obtain ⟨hreply, htakes⟩ := Prod.mk.inj hp
  rw [hrun] at h
  obtain ⟨⟨r', u⟩, hrun', hq⟩ := Option.map_eq_some_iff.1 h
  obtain ⟨hreply', houtput⟩ := Prod.mk.inj hq
  obtain rfl : r = .ok [['b', 'y', 'e'], []] := eq_ok_of_toOption hreply
  obtain ⟨moments, htrace, -⟩ := perform_callsTo hrun
  obtain ⟨moments', htrace', -⟩ := perform_callsTo hrun'
  have hmoments : t.history.reverse = moments := by
    rw [htrace.history_eq, farewell_launched.history, List.append_nil, List.reverse_reverse]
  rw [hmoments] at htakes
  exact ⟨⟨_, moments, _⟩, ⟨c, moments', r'⟩, u,
    .call hrun htrace (.call hrun' htrace' (.done u)), ⟨rfl, htakes⟩, rfl, hreply', houtput⟩

theorem farewell_repeated :
    ∃ e e' t, Conversation farewell [e, e'] t ∧ e.Leaves ∧
      e.result.toOption = some [['b', 'y', 'e'], []] ∧
      e'.result.toOption = some [['b', 'y', 'e'], []] ∧
      decode (arrivedBytes (arrivalsOf t.history.reverse)) = ['b', 'y', 'e', '\n'] :=
  farewell_conversation .quit (by decide +kernel)

theorem farewell_unanswered :
    ∃ e e' t, Conversation farewell [e, e'] t ∧ e.Leaves ∧
      e.result.toOption = some [['b', 'y', 'e'], []] ∧ e'.result.toOption = none ∧
      decode (arrivedBytes (arrivalsOf t.history.reverse)) = ['b', 'y', 'e', '\n'] :=
  farewell_conversation (.command (.plain "where")) (by decide +kernel)

theorem conversation_replies_not_prefix :
    ∃ episodes t, farewell.Launched ∧ Conversation farewell episodes t ∧
      ¬ episodes.flatMap Episode.text <+:
        decode (arrivedBytes (arrivalsOf t.history.reverse)) := by
  obtain ⟨e, e', t, hconversation, -, hreply, hreply', houtput⟩ := farewell_repeated
  refine ⟨[e, e'], t, farewell_launched, hconversation, ?_⟩
  rw [houtput, List.flatMap_cons, List.flatMap_singleton, Episode.text_of_toOption hreply,
    Episode.text_of_toOption hreply']
  decide

/-- The next call returns the farewell again, unless it fails. -/
theorem conversation_replies_farewell :
    farewell.Launched ∧
    (∃ e e' t, Conversation farewell [e, e'] t ∧ e.Leaves ∧ ¬ e'.Fails ∧
      e.call.orExit = true ∧ (∃ status, .probed (some status) ∈ e.moments) ∧
      e.text <+: e'.text) ∧
    ∃ e e' t, Conversation farewell [e, e'] t ∧ e.Leaves ∧
      [e, e'].Pairwise (fun e later => e.Leaves → later.Fails) ∧
      [e, e'].flatMap Episode.text = ['b', 'y', 'e', '\n'] ∧
      [e, e'].flatMap Episode.text <+: decode (arrivedBytes (arrivalsOf t.history.reverse)) := by
  refine ⟨farewell_launched, ?_, ?_⟩
  · obtain ⟨e, e', t, hconversation, hl, -, hreply', -⟩ := farewell_repeated
    obtain ⟨hexit, -, hagain⟩ := conversation_replies farewell_launched hconversation
    obtain ⟨htolerant, hprobed⟩ := hexit e List.mem_cons_self hl
    have hok : ¬ e'.Fails := by
      rw [Episode.fails_iff, hreply']
      exact Option.some_ne_none _
    exact ⟨e, e', t, hconversation, hl, hok, htolerant, hprobed,
      hagain [] e [] e' [] rfl hl (fun x hx => absurd hx List.not_mem_nil) hok⟩
  · obtain ⟨e, e', t, hconversation, hl, hreply, hreply', -⟩ := farewell_unanswered
    have hfails : e'.Fails := Episode.fails_iff.2 hreply'
    have hquiet : [e, e'].Pairwise fun e later => e.Leaves → later.Fails :=
      List.pairwise_pair.2 fun _ => hfails
    obtain ⟨-, hprefix, -⟩ := conversation_replies farewell_launched hconversation
    refine ⟨e, e', t, hconversation, hl, hquiet, ?_, hprefix hquiet⟩
    rw [List.flatMap_cons, List.flatMap_singleton, Episode.text_of_toOption hreply, hfails.text_eq]
    decide

end Control

end DebugControl
