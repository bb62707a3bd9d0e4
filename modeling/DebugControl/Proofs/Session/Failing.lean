import DebugControl.Proofs.Session.Calls
import DebugControl.Proofs.Session.Outcome

/-!
# Calls that fail

A call fails because the debugger has exited before, because a write fails, because its pattern is
none, or because it has waited for too long. None of these ways takes anything out of the sink. What
the sink owed before the call, and what arrived during it, is still there for the next call that
succeeds, and for the last look once the streams are closed.
-/

namespace DebugControl.Control

open Session Moment Text Utf8

variable {σ : Type} [Host σ] {s t : Session σ}

theorem snapshot_of_closed (hs : s.Connected) (h0 : s.sink.openStreams = 0) :
    ∃ t, snapshot.run s = some (Sink.linesOf ['\n'] (s.sink.undelivered []), t) := by
  obtain ⟨⟨reply, t⟩, h⟩ : ∃ p, snapshot.run s = some p := ⟨_, rfl⟩
  obtain ⟨arrivals, hp, -⟩ := snapshot_trace h
  have hlook : Trace s ([.received arrivals] ++ .looked reply :: []) t := hp
  obtain ⟨u, hbefore, -⟩ := hlook.split
  obtain ⟨hnone, hclosed⟩ := hs.silent h0 hbefore
  rw [hbefore.sink_eq] at hclosed
  obtain ⟨text, htext, rfl⟩ := hs.look_lines hlook hclosed
  rw [hnone] at htext
  have htext : text = s.sink.undelivered [] := htext
  exact ⟨t, by rw [h, htext]⟩

/-- After a call that has failed, the sink owes what it owed before, followed by what arrived during
the call. Until something is taken, a call that succeeds returns all of it, up to an unfinished
character at the end, and so does a snapshot at the end of the streams. -/
theorem perform_error_keeps_output {rounds : Nat} {c : Call} {f : Failure} (hs : s.Connected)
    (h : (c.perform rounds).run s = some (.error f, t)) :
    ∃ moments, t.history = moments.reverse ++ s.history ∧ Trace s moments t ∧ t.Connected ∧
      t.sink.undelivered [] = s.sink.undelivered (arrivedBytes (arrivalsOf moments)) ∧
      ∀ later u, Trace t later u → takesOf later = [] →
        (u.sink.streamsClosed = true → ∃ v, snapshot.run u =
          some (Sink.linesOf ['\n']
            (s.sink.undelivered (arrivedBytes (arrivalsOf (moments ++ later)))), v)) ∧
        ∀ rounds' (c' : Call) reply v, (c'.perform rounds').run u = some (.ok reply, v) →
          ∃ early last tail,
            v.history = (early ++ .looked reply :: last).reverse ++ u.history ∧
            (tail ≠ [] → Unfinished tail) ∧
            join ['\n'] reply ++ decode tail =
              s.sink.undelivered (arrivedBytes (arrivalsOf (moments ++ later ++ early))) := by
  obtain ⟨moments, htrace, hcalled⟩ := perform_callsTo h
  have hm := hcalled.takesOf_eq_nil
  refine ⟨moments, htrace.history_eq, htrace, hs.trace htrace, hs.kept htrace hm, ?_⟩
  intro later u hlater htakes
  have hall := htrace.append hlater
  have hnothing : takesOf (moments ++ later) = [] := takesOf_append_eq_nil hm htakes
  have hu := hs.trace hall
  constructor
  · intro hclosed
    rw [← hs.kept hall hnothing]
    exact snapshot_of_closed hu (beq_iff_eq.1 hclosed)
  · intro rounds' c' reply v hcall
    obtain ⟨moments', hnext, hcalled'⟩ := perform_callsTo hcall
    obtain ⟨early, last, rfl, hearly⟩ := hcalled'.look
    have hlook := hall.append hnext
    rw [← List.append_assoc] at hlook
    obtain ⟨tail, htail, htext⟩ := hs.look_text hlook (takesOf_append_eq_nil hnothing hearly)
    exact ⟨early, last, tail, hnext.history_eq, htail, htext⟩

/-- A character is cut in two: its beginning arrives during a call that waits in vain, and the rest
of it, with the simple prompt, afterwards. -/
def cutCharacter : Session Playback :=
  Playback.session
    ⟨0, [[.wrote [0x61, 0x0A, 0xE2]], [], [], [], [], [],
      [.wrote [0x82, 0xAC, 0x0A, 0x3E, 0x20]]], none⟩
    simplePrompt ⟨50, 50⟩

theorem cutCharacter_launched : cutCharacter.Launched :=
  ⟨rfl, rfl, Playback.streams rfl⟩

theorem perform_error_keeps_output_cutCharacter :
    cutCharacter.Connected ∧
    ∃ f t, (Call.waitForSimplePrompt.perform 3).run cutCharacter = some (.error f, t) ∧
      t.sink.undelivered [] = ['a', '\n', '\uFFFD'] ∧
      ∃ v, (Call.waitForSimplePrompt.perform 3).run t =
          some (.ok [['a'], ['€'], ['>', ' ']], v) ∧
        ∃ moments early last tail, Trace cutCharacter moments t ∧
          v.history = (early ++ .looked [['a'], ['€'], ['>', ' ']] :: last).reverse ++ t.history ∧
          join ['\n'] [['a'], ['€'], ['>', ' ']] ++ decode tail =
            cutCharacter.sink.undelivered (arrivedBytes (arrivalsOf (moments ++ early))) := by
  have hs := cutCharacter_launched.connected
  have hrun : (((Call.waitForSimplePrompt.perform 3).run cutCharacter).bind fun p =>
      ((Call.waitForSimplePrompt.perform 3).run p.2).map fun q =>
        ((p.1.toOption, p.2.sink.undelivered []), q.1.toOption)) =
      some ((none, ['a', '\n', '\uFFFD']), some [['a'], ['€'], ['>', ' ']]) := by
    decide +kernel
  obtain ⟨⟨first, t⟩, hfirst, hrest⟩ := Option.bind_eq_some_iff.1 hrun
  obtain ⟨⟨second, v⟩, hsecond, hp⟩ := Option.map_eq_some_iff.1 hrest
  obtain ⟨hleft, hright⟩ := Prod.mk.inj hp
  obtain ⟨hfailed, howed⟩ := Prod.mk.inj hleft
  cases first with
  | ok reply => exact absurd hfailed (by simp [Except.toOption])
  | error f =>
    cases second with
    | error f => exact absurd hright (by simp [Except.toOption])
    | ok reply =>
      obtain rfl := Option.some.inj hright
      obtain ⟨moments, -, htrace, -, -, hnext⟩ := perform_error_keeps_output hs hfirst
      obtain ⟨-, hcalls⟩ := hnext [] t (.done t) rfl
      obtain ⟨early, last, tail, hhistory, -, htext⟩ := hcalls 3 .waitForSimplePrompt _ v hsecond
      rw [List.append_nil] at htext
      exact ⟨hs, f, t, hfirst, howed, v, hsecond, moments, early, last, tail, htrace, hhistory,
        htext⟩

end DebugControl.Control
