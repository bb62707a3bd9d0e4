import DebugControl.Session.Basic

/-!
# Hosts that play back a recording

A recording says what arrives, portion by portion, and how the debugger ends once all of it has
arrived. A controller that waits gets the next portion if that is what it waits for; otherwise the
time passes.
-/

namespace DebugControl

structure Playback where
  now : Nat
  portions : List (List Arrival)
  ending : Option ExitStatus

namespace Playback

def next (p : Playback) (ready : List Arrival → Bool) : Option (List Arrival × Playback) :=
  match p.portions with
  | [] => none
  | portion :: portions => if ready portion then some (portion, { p with portions }) else none

instance : Host Playback where
  clock p := p.now
  turn p := (p.next fun _ => true).getD ([], p)
  await limit ready p := (p.next ready).getD ([], { p with now := p.now + limit })
  exit? p := if p.portions.isEmpty then p.ending else none
  send _ p := (.ok (), p)
  kill p := { p with ending := some (.signalled 9) }

/-- A session that has just been launched with a recording. -/
def session (p : Playback) (threadPrompt : Prompt) (timing : Timing) : Session Playback :=
  ⟨"jdb", timing, threadPrompt, Session.freshSink, p, [], []⟩

theorem next_eq_some {p rest : Playback} {ready : List Arrival → Bool} {portion : List Arrival}
    (h : p.next ready = some (portion, rest)) :
    ready portion = true ∧ p.portions = portion :: rest.portions ∧ rest.now = p.now := by
  obtain ⟨now, portions, ending⟩ := p
  cases portions with
  | nil => exact absurd h.symm (Option.some_ne_none _)
  | cons first portions =>
    simp only [next, Option.ite_none_right_eq_some, Option.some.injEq, Prod.mk.injEq] at h
    obtain ⟨hready, rfl, rfl⟩ := h
    exact ⟨hready, rfl, rfl⟩

end Playback

theorem eq_ok_of_toOption {ε α : Type} {result : Except ε α} {a : α}
    (h : result.toOption = some a) : result = .ok a := by
  cases result with
  | error e => exact absurd h.symm (Option.some_ne_none a)
  | ok b => exact congrArg _ (Option.some.inj h)

end DebugControl
