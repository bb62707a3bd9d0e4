import DebugControl.Proofs.Session.Continuing

/-!
# What commands write

A command that finds the debugger alive writes its line, one that succeeds has written all of it,
and nothing else is ever written. So what has been written, cut into lines, are the texts of the
commands one after the other, and a command that comes to no end has written its line before its
last wait.
-/

namespace DebugControl

namespace Moment

def AllWritten (moments : List Moment) : Prop := ∀ bytes f, .sent bytes (.error f) ∉ moments

def lineOf (text : String) : List UInt8 := Utf8.ofString text ++ Utf8.ofString Notice.lineSeparator

/-- Unless a write has failed, some lines were written in some moments, and nothing else. -/
def Sends (texts : List String) (moments : List Moment) : Prop :=
  AllWritten moments → sentOf moments = texts.flatMap lineOf

/-- Moreover, the debugger finds the texts again where it cuts what it received into lines. -/
def Delivers (texts : List String) (moments : List Moment) : Prop :=
  AllWritten moments → sentOf moments = texts.flatMap lineOf ∧
    Text.cut ['\n'] (Utf8.decode (sentOf moments)) = texts.map String.toList ++ [[]]

section Lines

variable {texts : List String} {moments : List Moment}

theorem Sends.append {more : List String} {later : List Moment} (h : Sends texts moments)
    (h' : Sends more later) : Sends (texts ++ more) (moments ++ later) := by
  intro hall
  have hfirst : AllWritten moments :=
    fun bytes f hm => hall bytes f (List.mem_append_left _ hm)
  have hlater : AllWritten later :=
    fun bytes f hm => hall bytes f (List.mem_append_right _ hm)
  rw [sentOf_append, h hfirst, h' hlater, List.flatMap_append]

theorem sends_nil (h : ∀ m ∈ moments, m.written = []) : Sends [] moments := by
  intro _
  exact List.flatMap_eq_nil_iff.2 h

theorem flatMap_lineOf (texts : List String) :
    texts.flatMap lineOf = Utf8.encode ((texts.map String.toList).flatMap (· ++ ['\n'])) := by
  induction texts with
  | nil => rfl
  | cons text texts ih =>
    rw [List.flatMap_cons, ih, List.map_cons, List.flatMap_cons, Utf8.encode_append,
      Utf8.encode_append]
    rfl

theorem AllWritten.append {later : List Moment} (h : AllWritten moments)
    (h' : AllWritten later) : AllWritten (moments ++ later) :=
  fun bytes f hm => (List.mem_append.1 hm).elim (h bytes f) (h' bytes f)

theorem Sends.delivers (h : Sends texts moments) (htexts : ∀ text ∈ texts, '\n' ∉ text.toList) :
    Delivers texts moments := by
  intro hall
  refine ⟨h hall, ?_⟩
  have hdecode := Utf8.decode_encode_append ((texts.map String.toList).flatMap (· ++ ['\n'])) []
  rw [List.append_nil, Utf8.decode_nil, List.append_nil] at hdecode
  rw [h hall, flatMap_lineOf, hdecode]
  refine Text.cut_ended ?_
  intro piece hpiece
  obtain ⟨text, htext, rfl⟩ := List.mem_map.1 hpiece
  exact htexts text htext

end Lines

end Moment

namespace Control

open Session Moment

section Moments

variable {g : Goal} {silence : Duration} {r : Except Failure (List Line)} {text : String}
  {moments : List Moment} {result : Except Fault Unit}

theorem written_of_idle (h : ∀ m ∈ moments, Idle g m) : ∀ m ∈ moments, m.written = [] := by
  intro m hm
  have hidle := h m hm
  cases m <;> first | rfl | exact absurd hidle id

theorem Ending.written (h : Ending g silence moments r) : ∀ m ∈ moments, m.written = [] := by
  cases h with
  | met arrivals _ => simp [Moment.written]
  | silent arrivals => simp [Moment.written]
  | exited hjudged => cases hjudged <;> simp [Moment.written]

theorem allWritten_of_idle (h : ∀ m ∈ moments, Idle g m) : AllWritten moments :=
  fun _ _ hm => h _ hm

theorem Ending.allWritten (h : Ending g silence moments r) : AllWritten moments := by
  cases h with
  | met arrivals _ => simp [AllWritten]
  | silent arrivals => simp [AllWritten]
  | exited hjudged => cases hjudged <;> simp [AllWritten]

theorem WroteLine.allWritten (h : WroteLine text moments (.ok ())) : AllWritten moments := by
  intro bytes f hm
  have hother : ∀ m ∈ moments, m ≠ .sent bytes (.error f) :=
    h.forall_mem (fun _ => nofun) (fun _ _ hf => nomatch hf) fun _ => nofun
  exact hother _ hm rfl

theorem Commanded.allWritten {c : Command} {prompt : Prompt} {reply : List Line}
    (h : Commanded c silence prompt moments (.ok reply)) : AllWritten moments := by
  cases h with
  | remainder _ => simp [AllWritten]
  | asked arrivals hasked =>
    have hprobe : AllWritten [.received arrivals, .probed none] := by simp [AllWritten]
    cases hasked with
    | awaited hwrote hidle hend _ =>
      have hwaited := (allWritten_of_idle hidle).append hend.allWritten
      exact hprobe.append (hwrote.allWritten.append hwaited)

theorem WroteLine.sends (h : WroteLine text moments result) : Sends [text] moments := by
  intro hall
  cases result with
  | error f =>
    obtain ⟨early, bytes, rfl, -⟩ := h.error_eq
    exact absurd (List.mem_append_right _ List.mem_cons_self) (hall bytes f)
  | ok =>
    obtain ⟨early, rfl, hearly⟩ := h.ok_eq
    rw [sentOf_append, hearly, List.flatMap_singleton]
    rfl

theorem Asked.sends {c : Command} {prompt : Prompt} (h : Asked c silence prompt moments r) :
    Sends [c.text] moments := by
  cases h with
  | unwritten hwrote => exact hwrote.sends
  | awaited hwrote hidle hend _ =>
    have hwaited := (sends_nil (written_of_idle hidle)).append (sends_nil hend.written)
    exact hwrote.sends.append hwaited

end Moments

variable {σ : Type} [Host σ] {s t u v : Session σ} {rounds : Nat} {c : Command}
  {r : Except Failure (List Line)}

/-- What leads from one session to another sends these lines. -/
def SendsTo (s : Session σ) (texts : List String) (t : Session σ) : Prop :=
  ∃ moments, Trace s moments t ∧ Sends texts moments

theorem SendsTo.done (s : Session σ) : SendsTo s [] s := ⟨[], .done s, sends_nil nofun⟩

theorem SendsTo.append {texts more : List String} (h : SendsTo s texts t) (h' : SendsTo t more u) :
    SendsTo s (texts ++ more) u := by
  obtain ⟨moments, htrace, hsends⟩ := h
  obtain ⟨later, htrace', hsends'⟩ := h'
  exact ⟨moments ++ later, htrace.append htrace', hsends.append hsends'⟩

theorem waitForPattern_sendsTo {pattern : String} {simple orExit : Bool} {tail : Nat}
    (h : (waitForPattern rounds pattern simple tail orExit).run s = some (r, t)) :
    SendsTo s [] t := by
  rw [waitForPattern] at h
  split at h
  · obtain ⟨rfl, rfl⟩ := run_pure_eq_some.1 h
    exact .done s
  · obtain ⟨before, last, htrace, hidle, hend⟩ := waitFor_endsIn h
    exact ⟨_, htrace, (sends_nil (written_of_idle hidle)).append (sends_nil hend.written)⟩

theorem isTerminated_sendsTo {terminated : Bool}
    (h : isTerminated.run s = some (terminated, t)) : SendsTo s [] t := by
  obtain ⟨arrivals, status, htrace, -⟩ := isTerminated_trace h
  exact ⟨_, htrace, sends_nil (by simp [Moment.written])⟩

theorem command_of_exited (hfound : isTerminated.run s = some (true, u))
    (h : (command rounds c).run s = some (r, t)) :
    ∃ moments, Trace u moments t ∧ ∀ m ∈ moments, m.written = [] := by
  obtain ⟨terminated, u', hprobe, h⟩ := run_bind_eq_some.1 h
  obtain ⟨rfl, rfl⟩ := Prod.mk.inj (Option.some.inj (hprobe.symm.trans hfound))
  rw [if_pos rfl] at h
  split_ifs at h
  · obtain ⟨reply, v, hremainder, hanswer⟩ := run_bind_eq_some.1 h
    obtain ⟨rfl, rfl⟩ := run_pure_eq_some.1 hanswer
    obtain ⟨late, arrivals, arrivals', htrace⟩ := remainder_trace hremainder
    exact ⟨_, htrace, by simp [Moment.written]⟩
  · obtain ⟨rfl, rfl⟩ := run_pure_eq_some.1 h
    exact ⟨[], .done _, nofun⟩

/-- A command writes its line exactly if it finds the debugger alive. -/
theorem command_sendsTo (alive : Bool) (hfound : isTerminated.run s = some (!alive, u))
    (h : (command rounds c).run s = some (r, t)) :
    SendsTo s (if alive then [c.text] else []) t := by
  refine (isTerminated_sendsTo hfound).append ?_
  cases alive with
  | true =>
    obtain ⟨moments, htrace, hasked⟩ := ask_asked (command_of_alive hfound h)
    exact ⟨moments, htrace, hasked.sends⟩
  | false =>
    obtain ⟨moments, htrace, hmoments⟩ := command_of_exited hfound h
    exact ⟨moments, htrace, sends_nil hmoments⟩

namespace Turn

def texts : Turn → List String
  | probed _ => []
  | called alive _ => if alive then [Command.cont.text] else []

theorem eq_cont_of_mem_texts {turn : Turn} {text : String} (h : text ∈ turn.texts) :
    text = "cont" := by
  cases turn with
  | probed _ => exact absurd h List.not_mem_nil
  | called alive outcome =>
    cases alive with
    | true => exact List.mem_singleton.1 h
    | false => exact absurd h List.not_mem_nil

end Turn

theorem Continues.sendsTo {turns : List Turn} (h : Continues rounds s turns t) :
    SendsTo s (turns.flatMap Turn.texts) t := by
  induction h with
  | done s => exact .done s
  | probe hprobe _ ih => exact (isTerminated_sendsTo hprobe).append ih
  | call hfound hcommand _ ih => exact (command_sendsTo _ hfound hcommand).append ih

/-- Turns whose commands are all answered have written all that they had to write. -/
theorem Continues.sentOf_eq {turns : List Turn} (h : Continues rounds s turns t)
    (hanswered : ∀ f, .error f ∉ Turn.callsOf turns) :
    ∃ moments, Trace s moments t ∧ AllWritten moments ∧
      sentOf moments = (turns.flatMap Turn.texts).flatMap lineOf := by
  have hwritten : ∃ moments, Trace s moments t ∧ AllWritten moments := by
    induction h with
    | done s => exact ⟨[], .done s, nofun⟩
    | probe hprobe _ ih =>
      obtain ⟨arrivals, status, hprobed, -⟩ := isTerminated_trace hprobe
      obtain ⟨moments, htrace, hall⟩ := ih hanswered
      have hprobe : AllWritten [.received arrivals, .probed status] := by simp [AllWritten]
      exact ⟨_, hprobed.append htrace, hprobe.append hall⟩
    | @call _ _ _ _ _ outcome _ _ hcommand _ ih =>
      obtain ⟨moments, htrace, hall⟩ := ih fun f hf => hanswered f (List.mem_cons_of_mem _ hf)
      obtain ⟨first, hfirst', hcommanded⟩ := command_commanded hcommand
      cases outcome with
      | error f => exact absurd List.mem_cons_self (hanswered f)
      | ok reply => exact ⟨_, hfirst'.append htrace, hcommanded.allWritten.append hall⟩
  obtain ⟨moments, htrace, hall⟩ := hwritten
  obtain ⟨moments', htrace', hsends⟩ := h.sendsTo
  obtain rfl := htrace.moments_unique htrace'
  exact ⟨moments, htrace, hall, hsends hall⟩

/-- A command has found the debugger alive and written its line. -/
def Begun (c : Command) (s v : Session σ) : Prop :=
  ∃ u writing, isTerminated.run s = some (false, u) ∧ Trace u writing v ∧
    WroteLine c.text writing (.ok ())

theorem Begun.sendsTo (h : Begun c s v) : SendsTo s [c.text] v := by
  obtain ⟨u, writing, halive, htrace, hwrote⟩ := h
  exact (isTerminated_sendsTo halive).append ⟨writing, htrace, hwrote.sends⟩

theorem send_total (bytes : List UInt8) : Total (send bytes : Control σ (Except Fault Unit)) := by
  intro s h
  rw [send] at h
  split_ifs at h <;> exact absurd h (Option.some_ne_none _)

theorem sendLine_total (text : String) :
    Total (sendLine text : Control σ (Except Fault Unit)) := by
  refine .bind (send_total _) fun result => ?_
  cases result with
  | error f => exact fun _ => Option.some_ne_none _
  | ok => exact send_total _

theorem remainder_total : Total (remainder : Control σ (List Line)) := by
  refine .bind (fun _ => Option.some_ne_none _) fun session => ?_
  refine .bind (fun _ => Option.some_ne_none _) fun closed => ?_
  refine .bind (fun _ => Option.some_ne_none _) fun seen => ?_
  exact fun _ => Option.some_ne_none _

/-- A command comes to no end only if the wait for its reply does not. -/
theorem command_eq_none (h : (command rounds c).run s = none) :
    ∃ v g, Begun c s v ∧ (waitFor rounds g).run v = none := by
  rcases run_bind_eq_none.1 h with h | ⟨terminated, u, hfound, h⟩
  · exact absurd h (Option.some_ne_none _)
  cases terminated with
  | true =>
    rw [if_pos rfl] at h
    split_ifs at h
    · rcases run_bind_eq_none.1 h with h | ⟨reply, v, -, h⟩
      · exact absurd h (remainder_total u)
      · exact absurd h (Option.some_ne_none _)
    · exact absurd h (Option.some_ne_none _)
  | false =>
    have hask : (ask rounds c).run u = none := h
    rcases run_bind_eq_none.1 hask with h | ⟨⟨⟩, w, hnote, h⟩
    · exact absurd h (Option.some_ne_none _)
    rcases run_bind_eq_none.1 h with h | ⟨result, x, hsend, h⟩
    · exact absurd h (sendLine_total _ _)
    obtain ⟨writing, hwriting, hwrote⟩ := sendLine_trace hsend
    cases result with
    | error f => exact absurd h (Option.some_ne_none _)
    | ok =>
      rcases run_bind_eq_none.1 h with h | ⟨session, y, hget, h⟩
      · exact absurd h (Option.some_ne_none _)
      obtain ⟨rfl, rfl⟩ := run_get_eq_some.1 hget
      exact ⟨x, _, ⟨u, writing, hfound, (note_trace hnote).append hwriting, hwrote⟩, h⟩

theorem continueToExit_waits {most : Nat} (h : (continueToExit rounds most).run s = none) :
    ∃ turns u v g, Continues rounds s turns u ∧ Begun Command.cont.orExit u v ∧
      (waitFor rounds g).run v = none := by
  obtain ⟨turns, u, hturns, hcommand⟩ := continueToExit_eq_none h
  obtain ⟨v, g, hbegun, hwait⟩ := command_eq_none hcommand
  exact ⟨turns, u, v, g, hturns, hbegun, hwait⟩

theorem waitForSimplePrompt_eq_none
    (h : (waitForSimplePrompt rounds : Control σ (Except Failure (List Line))).run s = none) :
    ∃ g, (waitFor rounds g).run s = none := by
  rw [waitForSimplePrompt, waitForPattern] at h
  split at h
  · exact absurd h (Option.some_ne_none _)
  · exact ⟨_, h⟩

end Control

end DebugControl
