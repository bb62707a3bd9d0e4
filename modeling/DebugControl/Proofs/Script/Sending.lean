import DebugControl.Proofs.Script.Execution
import DebugControl.Proofs.Script.Reader
import DebugControl.Proofs.Session.Sent

/-!
# What the debugger receives of a script

What an execution has written, cut into lines, are the texts of its commands in the order of the
script. This holds of an execution that ends as well as of one that waits forever.
-/

namespace DebugControl

namespace Script

open Session Moment Control

namespace Act

def command? : Act → Option Command
  | step (.send c) => some c
  | step .quit => some .quit
  | startup | step .waitPrompt | step (.contToExit _) | step (.expect _) => none

/-- Whether an act waits for the simple prompt. -/
def Awaits : Act → Prop
  | startup | step .waitPrompt => True
  | step (.send _) | step .quit | step (.contToExit _) | step (.expect _) => False

end Act

variable {σ : Type} [Host σ] {s t u v : Session σ} {rounds : Nat} {o : Outcome} {a : Act}
  {acts : List Act} {texts : List String}

/-- The texts of the commands that an act issues on its way from one session to another. -/
inductive Issued (rounds : Nat) : Session σ → Act → List String → Session σ → Prop where
  | sent {s t u : Session σ} {a : Act} {c : Command} {r : Except Failure (List Line)} :
      a.command? = some c → isTerminated.run s = some (false, u) →
      (command rounds c).run s = some (r, t) → Issued rounds s a [c.text] t
  | withheld {s t u : Session σ} {a : Act} {c : Command} {r : Except Failure (List Line)} :
      a.command? = some c → isTerminated.run s = some (true, u) →
      (command rounds c).run s = some (r, t) → Issued rounds s a [] t
  | awaited {s t : Session σ} {a : Act} {r : Except Failure (List Line)} :
      a.Awaits → (waitForSimplePrompt rounds).run s = some (r, t) → Issued rounds s a [] t
  | continued {s t u : Session σ} {most : Nat} {r : Except Failure Nat} {turns : List Turn} :
      (continueToExit rounds most).run s = some (r, t) → Continues rounds s turns u →
      Trace u [] t → Issued rounds s (.step (.contToExit most)) (turns.flatMap Turn.texts) t
  | expected (s : Session σ) (text : String) : Issued rounds s (.step (.expect text)) [] s

inductive IssuedAll (rounds : Nat) : Session σ → List Act → List String → Session σ → Prop where
  | done (s : Session σ) : IssuedAll rounds s [] [] s
  | act {s t u : Session σ} {a : Act} {acts : List Act} {texts more : List String} :
      Issued rounds s a texts t → IssuedAll rounds t acts more u →
      IssuedAll rounds s (a :: acts) (texts ++ more) u

/-- The texts of the commands that an act has issued when its last wait begins. -/
inductive Begins (rounds : Nat) : Session σ → Act → List String → Session σ → Prop where
  | asking {s v : Session σ} {a : Act} {c : Command} :
      a.command? = some c → Begun c s v → Begins rounds s a [c.text] v
  | awaiting {s : Session σ} {a : Act} : a.Awaits → Begins rounds s a [] s
  | continuing {s u v : Session σ} {most : Nat} {turns : List Turn} :
      Continues rounds s turns u → Begun Command.cont.orExit u v →
      Begins rounds s (.step (.contToExit most))
        (turns.flatMap Turn.texts ++ [Command.cont.text]) v

theorem issued_of_command {c : Command} {r : Except Failure (List Line)}
    (ha : a.command? = some c) (h : (command rounds c).run s = some (r, t)) :
    ∃ texts, Issued rounds s a texts t := by
  obtain ⟨terminated, u, hfound⟩ := exists_isTerminated s
  cases terminated with
  | false => exact ⟨_, .sent ha hfound h⟩
  | true => exact ⟨_, .withheld ha hfound h⟩

theorem issued_of_call {c : Call} {r : Except Failure (List Line)} (ha : a.call? = some c)
    (h : (c.perform rounds).run s = some (r, t)) : ∃ texts, Issued rounds s a texts t := by
  rcases a with _ | step
  · obtain rfl := Option.some.inj ha
    exact ⟨_, .awaited trivial h⟩
  cases step with
  | send c =>
    obtain rfl := Option.some.inj ha
    exact issued_of_command rfl h
  | waitPrompt =>
    obtain rfl := Option.some.inj ha
    exact ⟨_, .awaited trivial h⟩
  | quit =>
    obtain rfl := Option.some.inj ha
    exact issued_of_command rfl h
  | contToExit most => exact absurd ha.symm (Option.some_ne_none _)
  | expect text => exact absurd ha.symm (Option.some_ne_none _)

theorem issued_of_continueToExit {most : Nat} {r : Except Failure Nat}
    (h : (continueToExit rounds most).run s = some (r, t)) :
    ∃ texts, Issued rounds s (.step (.contToExit most)) texts t := by
  obtain ⟨turns, u, hturns, hu, -⟩ := continueToExit_turns h
  exact ⟨_, .continued h hturns hu⟩

theorem Recorded.issued {e : Entry} (h : Recorded rounds s a e t) :
    ∃ texts, Issued rounds s a texts t := by
  cases h with
  | replied ha h => exact issued_of_call ha h
  | refused ha h => exact issued_of_call ha h
  | continued h => exact issued_of_continueToExit h
  | continuedInVain h => exact issued_of_continueToExit h
  | expected text => exact ⟨_, .expected s text⟩
  | unexpected text => exact ⟨_, .expected s text⟩

theorem Acted.issuedAll {entries : List Entry} (h : Acted rounds s acts entries t) :
    ∃ texts, IssuedAll rounds s acts texts t := by
  induction h with
  | done s => exact ⟨[], .done s⟩
  | act hrecorded _ ih =>
    obtain ⟨texts, hissued⟩ := hrecorded.issued
    obtain ⟨more, hmore⟩ := ih
    exact ⟨_, .act hissued hmore⟩

theorem Issued.sendsTo (h : Issued rounds s a texts t) : SendsTo s texts t := by
  cases h with
  | sent _ halive h => exact command_sendsTo true halive h
  | withheld _ hgone h => exact command_sendsTo false hgone h
  | awaited _ h => exact waitForPattern_sendsTo h
  | continued _ hturns hu =>
    have hended : SendsTo _ [] t := ⟨[], hu, sends_nil nofun⟩
    simpa using hturns.sendsTo.append hended
  | expected text => exact .done s

theorem IssuedAll.sendsTo (h : IssuedAll rounds s acts texts t) : SendsTo s texts t := by
  induction h with
  | done s => exact .done s
  | act hissued _ ih => exact hissued.sendsTo.append ih

theorem Begins.sendsTo (h : Begins rounds s a texts v) : SendsTo s texts v := by
  cases h with
  | asking _ hbegun => exact hbegun.sendsTo
  | awaiting _ => exact .done s
  | continuing hturns hbegun => exact hturns.sendsTo.append hbegun.sendsTo

theorem perform_eq_none {last : List Line} {step : Step}
    (h : (perform rounds last step).run s = none) :
    ∃ texts v g, Begins rounds s (.step step) texts v ∧ (waitFor rounds g).run v = none := by
  cases step with
  | send c =>
    rcases run_bind_eq_none.1 h with h | ⟨reply, u, -, h⟩
    · obtain ⟨v, g, hbegun, hwait⟩ := command_eq_none h
      exact ⟨_, v, g, .asking rfl hbegun, hwait⟩
    · exact absurd h (Option.some_ne_none _)
  | waitPrompt =>
    rcases run_bind_eq_none.1 h with h | ⟨reply, u, -, h⟩
    · obtain ⟨g, hwait⟩ := waitForSimplePrompt_eq_none h
      exact ⟨[], s, g, .awaiting trivial, hwait⟩
    · exact absurd h (Option.some_ne_none _)
  | quit =>
    rcases run_bind_eq_none.1 h with h | ⟨reply, u, -, h⟩
    · obtain ⟨v, g, hbegun, hwait⟩ := command_eq_none h
      exact ⟨_, v, g, .asking rfl hbegun, hwait⟩
    · exact absurd h (Option.some_ne_none _)
  | contToExit most =>
    rcases run_bind_eq_none.1 h with h | ⟨result, u, -, h⟩
    · obtain ⟨turns, u, v, g, hturns, hbegun, hwait⟩ := continueToExit_waits h
      exact ⟨_, v, g, .continuing hturns hbegun, hwait⟩
    · cases result <;> exact absurd h (Option.some_ne_none _)
  | expect text => exact absurd h (Option.some_ne_none _)

/-- The acts up to the one whose last wait comes to no end. -/
def Stuck (rounds : Nat) (s : Session σ) (all : List Act) (texts : List String)
    (v : Session σ) : Prop :=
  ∃ acts a later before more u g, all = acts ++ a :: later ∧ texts = before ++ more ∧
    IssuedAll rounds s acts before u ∧ Begins rounds u a more v ∧ (waitFor rounds g).run v = none

theorem Stuck.of_begins {g : Goal} (h : Begins rounds s a texts v)
    (hwait : (waitFor rounds g).run v = none) (later : List Act) :
    Stuck rounds s (a :: later) texts v :=
  ⟨[], a, later, [], texts, s, g, rfl, rfl, .done s, h, hwait⟩

theorem Stuck.cons {all : List Act} {before : List String} (ha : Issued rounds s a before t)
    (h : Stuck rounds t all texts v) : Stuck rounds s (a :: all) (before ++ texts) v := by
  obtain ⟨acts, b, later, first, more, u, g, rfl, rfl, hissued, hbegins, hwait⟩ := h
  exact ⟨a :: acts, b, later, before ++ first, more, u, g, rfl, (List.append_assoc _ _ _).symm,
    .act ha hissued, hbegins, hwait⟩

theorem Stuck.sendsTo {all : List Act} (h : Stuck rounds s all texts v) : SendsTo s texts v := by
  obtain ⟨acts, a, later, before, more, u, g, -, rfl, hissued, hbegins, -⟩ := h
  exact hissued.sendsTo.append hbegins.sendsTo

theorem performAll_eq_none {last : List Line} {steps : List Step}
    (h : (performAll rounds last steps).run s = none) :
    ∃ texts v, Stuck rounds s (steps.map .step) texts v := by
  induction steps generalizing s last with
  | nil => exact absurd h (Option.some_ne_none _)
  | cons step steps ih =>
    rcases run_bind_eq_none.1 h with h | ⟨p, u, hp, h⟩
    · obtain ⟨more, v, g, hbegins, hwait⟩ := perform_eq_none h
      exact ⟨more, v, .of_begins hbegins hwait _⟩
    · obtain ⟨hrecorded, -⟩ := perform_recorded hp
      obtain ⟨before, hissued⟩ := hrecorded.issued
      cases hnext : p.next with
      | error r =>
        rw [hnext] at h
        exact absurd h (Option.some_ne_none _)
      | ok reply =>
        rw [hnext] at h
        rcases run_bind_eq_none.1 h with h | ⟨rest, w, -, h⟩
        · obtain ⟨texts, v, hstuck⟩ := ih h
          exact ⟨_, v, hstuck.cons hissued⟩
        · exact absurd h (Option.some_ne_none _)

theorem execute_eq_none {steps : List Step} (h : (execute rounds steps).run s = none) :
    ∃ texts v, Stuck rounds s (.startup :: steps.map .step) texts v := by
  rcases run_bind_eq_none.1 h with h | ⟨banner, u, hbanner, h⟩
  · obtain ⟨g, hwait⟩ := waitForSimplePrompt_eq_none h
    have hbegins : Begins rounds s .startup [] s := .awaiting trivial
    exact ⟨[], s, .of_begins hbegins hwait _⟩
  · have hissued : Issued rounds s .startup [] u := .awaited trivial hbanner
    cases hnext : nextOf (some "debugger did not show its prompt") banner with
    | error r =>
      simp only [hnext] at h
      exact absurd h (Option.some_ne_none _)
    | ok reply =>
      simp only [hnext] at h
      rcases run_bind_eq_none.1 h with h | ⟨rest, w, -, h⟩
      · obtain ⟨texts, v, hstuck⟩ := performAll_eq_none h
        exact ⟨_, v, hstuck.cons hissued⟩
      · exact absurd h (Option.some_ne_none _)

section OneLine

/-- The command of an act, if any, is one line. -/
def Act.OneLine (a : Act) : Prop := ∀ c, a = .step (.send c) → '\n' ∉ c.text.toList

theorem not_mem_of_command? {c : Command} (ha : a.OneLine) (hc : a.command? = some c) :
    '\n' ∉ c.text.toList := by
  rcases a with _ | step
  · exact absurd hc.symm (Option.some_ne_none _)
  cases step with
  | send c' =>
    obtain rfl := Option.some.inj hc
    exact ha c' rfl
  | quit =>
    obtain rfl := Option.some.inj hc
    decide
  | waitPrompt => exact absurd hc.symm (Option.some_ne_none _)
  | contToExit most => exact absurd hc.symm (Option.some_ne_none _)
  | expect text => exact absurd hc.symm (Option.some_ne_none _)

theorem not_mem_of_turns {turns : List Turn} :
    ∀ text ∈ turns.flatMap Turn.texts, '\n' ∉ text.toList := by
  intro text htext
  obtain ⟨turn, -, htext⟩ := List.mem_flatMap.1 htext
  rw [Turn.eq_cont_of_mem_texts htext]
  decide

theorem Issued.oneLine (h : Issued rounds s a texts t) (ha : a.OneLine) :
    ∀ text ∈ texts, '\n' ∉ text.toList := by
  cases h with
  | sent hc _ _ => exact List.forall_mem_singleton.2 (not_mem_of_command? ha hc)
  | withheld _ _ _ => exact nofun
  | awaited _ _ => exact nofun
  | continued _ _ _ => exact not_mem_of_turns
  | expected text => exact nofun

theorem IssuedAll.oneLine (h : IssuedAll rounds s acts texts t) (hacts : ∀ a ∈ acts, a.OneLine) :
    ∀ text ∈ texts, '\n' ∉ text.toList := by
  induction h with
  | done s => exact nofun
  | act hissued _ ih =>
    obtain ⟨ha, hrest⟩ := List.forall_mem_cons.1 hacts
    exact List.forall_mem_append.2 ⟨hissued.oneLine ha, ih hrest⟩

theorem Begins.oneLine (h : Begins rounds s a texts v) (ha : a.OneLine) :
    ∀ text ∈ texts, '\n' ∉ text.toList := by
  cases h with
  | asking hc _ => exact List.forall_mem_singleton.2 (not_mem_of_command? ha hc)
  | awaiting _ => exact nofun
  | continuing _ _ =>
    exact List.forall_mem_append.2 ⟨not_mem_of_turns, List.forall_mem_singleton.2 (by decide)⟩

theorem Stuck.oneLine {all : List Act} (h : Stuck rounds s all texts v)
    (hall : ∀ a ∈ all, a.OneLine) : ∀ text ∈ texts, '\n' ∉ text.toList := by
  obtain ⟨acts, a, later, before, more, u, g, rfl, rfl, hissued, hbegins, -⟩ := h
  obtain ⟨hacts, hrest⟩ := List.forall_mem_append.1 hall
  obtain ⟨ha, -⟩ := List.forall_mem_cons.1 hrest
  exact List.forall_mem_append.2 ⟨hissued.oneLine hacts, hbegins.oneLine ha⟩

end OneLine

/-- A script that can be read sends no text that is empty, holds a line feed, or is blank at an end.
The debugger receives the texts of the commands that the steps issue, in the order of the script, each
once and as one line: a command that finds it alive is issued, and so is each attempt to continue that
does. If the execution does not end, this holds up to the wait that does not. -/
theorem execute_delivers {script : List Char} {steps : List Step}
    (hread : read script = .ok steps) (rounds : Nat) (s : Session σ) :
    (∀ c, .send c ∈ steps → Sendable c.text.toList) ∧
    (∀ o t, (execute rounds steps).run s = some (o, t) →
      ∃ executed texts moments, executed <+: steps ∧ (o.failure = none → executed = steps) ∧
        o.entries.map Entry.step = "@startup" :: executed.map Step.label ∧
        IssuedAll rounds s (.startup :: executed.map .step) texts t ∧
        Trace s moments t ∧ Delivers texts moments) ∧
    ((execute rounds steps).run s = none →
      ∃ texts v moments, Stuck rounds s (.startup :: steps.map .step) texts v ∧
        Trace s moments v ∧ Delivers texts moments) := by
  have hsendable : ∀ c, .send c ∈ steps → Sendable c.text.toList := fun c => read_sendable hread
  have honeLine : ∀ executed, executed <+: steps →
      ∀ a ∈ .startup :: executed.map Act.step, a.OneLine := by
    intro executed hbegins
    refine List.forall_mem_cons.2 ⟨nofun, ?_⟩
    intro a ha c hc
    obtain ⟨step, hstep, rfl⟩ := List.mem_map.1 ha
    obtain rfl := Act.step.inj hc
    exact (hsendable c (hbegins.subset hstep)).oneLine
  refine ⟨hsendable, ?_, ?_⟩
  · intro o t h
    obtain ⟨executed, hbegins, hacted, -, hall⟩ := execute_acted h
    obtain ⟨texts, hissued⟩ := hacted.issuedAll
    obtain ⟨moments, htrace, hsends⟩ := hissued.sendsTo
    exact ⟨executed, texts, moments, hbegins, hall, hacted.step_labels, hissued, htrace,
      hsends.delivers (hissued.oneLine (honeLine executed hbegins))⟩
  · intro h
    obtain ⟨texts, v, hstuck⟩ := execute_eq_none h
    obtain ⟨moments, htrace, hsends⟩ := hstuck.sendsTo
    exact ⟨texts, v, moments, hstuck, htrace,
      hsends.delivers (hstuck.oneLine (honeLine steps List.prefix_rfl))⟩

theorem allWritten_of_playback {s t : Session Playback} {moments : List Moment}
    (h : Trace s moments t) : AllWritten moments := by
  induction h with
  | done s => exact nofun
  | step hstep _ ih =>
    intro bytes f hm
    rcases List.mem_cons.1 hm with rfl | hm
    · cases hstep
    · exact ih bytes f hm
  | noted log _ ih => exact ih

/-- Blank lines, comments, carriage returns and each kind of step but one. -/
def tourScript : List Char :=
  "# tour\r\n  run \r\n\n@expect ok\n@cont-to-exit\n@quit".toList

def tourSteps : List Step := [.send (.plain "run"), .expect "ok", .contToExit 1, .quit]

/-- The debugger answers each command and is gone after the last. -/
def tour : Session Playback :=
  Playback.session
    ⟨0, [[.wrote (Utf8.ofString "> ")], [], [], [], [], [], [.wrote (Utf8.ofString "ok\n> ")],
      [], [], [], [], [], [], [.wrote (Utf8.ofString "The application exited\n> ")],
      [], [], [], [], [], [.closed, .closed]], some (.exited 0)⟩
    simplePrompt ⟨50, 5000⟩

theorem execute_delivers_tour :
    read tourScript = .ok tourSteps ∧ (∀ c, .send c ∈ tourSteps → Sendable c.text.toList) ∧
    (∃ o t texts moments, (execute 2 tourSteps).run tour = some (o, t) ∧ o.failure = none ∧
      IssuedAll 2 tour (.startup :: tourSteps.map .step) texts t ∧ Trace tour moments t ∧
      sentOf moments = Utf8.ofString "run\ncont\nquit\n" ∧
      Text.cut ['\n'] (Utf8.decode (sentOf moments)) = texts.map String.toList ++ [[]]) ∧
    ∃ texts v, (execute 0 tourSteps).run tour = none ∧
      Stuck 0 tour (.startup :: tourSteps.map .step) texts v := by
  have hread : read tourScript = .ok tourSteps := by decide +kernel
  refine ⟨hread, ?_, ?_, ?_⟩
  · exact (execute_delivers hread 2 tour).1
  · have hrun : ((execute 2 tourSteps).run tour).map
        (fun p => (p.1.failure, sentOf p.2.history.reverse)) =
        some (none, Utf8.ofString "run\ncont\nquit\n") := by
      decide +kernel
    obtain ⟨⟨o, t⟩, h, hp⟩ := Option.map_eq_some_iff.1 hrun
    obtain ⟨hfailure, hsent⟩ := Prod.mk.inj hp
    obtain ⟨-, hruns, -⟩ := execute_delivers hread 2 tour
    obtain ⟨executed, texts, moments, -, hall, -, hissued, htrace, hdelivers⟩ := hruns o t h
    obtain rfl := hall hfailure
    have hhistory : t.history.reverse = moments := by
      rw [htrace.history_eq, tour, Playback.session, List.append_nil, List.reverse_reverse]
    rw [hhistory] at hsent
    exact ⟨o, t, texts, moments, h, hfailure, hissued, htrace, hsent,
      (hdelivers (allWritten_of_playback htrace)).2⟩
  · have hnone : ((execute 0 tourSteps).run tour).isNone = true := by decide +kernel
    have hrun : (execute 0 tourSteps).run tour = none := Option.isNone_iff_eq_none.1 hnone
    obtain ⟨-, -, hstuck⟩ := execute_delivers hread 0 tour
    obtain ⟨texts, v, -, hstuck, -⟩ := hstuck hrun
    exact ⟨texts, v, hrun, hstuck⟩

end Script

end DebugControl
