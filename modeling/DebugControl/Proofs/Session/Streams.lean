import DebugControl.Proofs.Pump.Interleaving
import DebugControl.Proofs.Session.Playback
import DebugControl.Proofs.Session.Trace

/-!
# The streams of a host

A host feeds the sink through streams that it opened at the start. A stream brings bytes until it is
closed, which happens once. `Host.Streams` says of a host how many streams are open, now and however
it goes on; that is all that is asked of a host here. Two pumps with a schedule of their own make
such a host, wherever their output is cut into portions.
-/

namespace DebugControl

/-- How many of some open streams are open after they have brought the arrivals; there is no answer
if something arrives although none of them is open. -/
def openAfter : Nat → List Arrival → Option Nat
  | n, [] => some n
  | 0, _ :: _ => none
  | n + 1, .wrote _ :: arrivals => openAfter (n + 1) arrivals
  | n + 1, .closed :: arrivals => openAfter n arrivals

@[simp] theorem openAfter_nil (n : Nat) : openAfter n [] = some n := by
  cases n <;> rfl

theorem openAfter_zero {m : Nat} {arrivals : List Arrival} (h : openAfter 0 arrivals = some m) :
    arrivals = [] := by
  cases arrivals with
  | nil => rfl
  | cons a arrivals => exact absurd h.symm (Option.some_ne_none m)

theorem openAfter_append (n : Nat) (a b : List Arrival) :
    openAfter n (a ++ b) = (openAfter n a).bind fun m => openAfter m b := by
  induction a generalizing n with
  | nil => simp
  | cons x a ih =>
    cases n with
    | zero => rfl
    | succ n => cases x <;> exact ih _

theorem eq_add_closings {n m : Nat} {arrivals : List Arrival}
    (h : openAfter n arrivals = some m) : n = m + closings arrivals := by
  induction arrivals generalizing n with
  | nil => simpa using h
  | cons a arrivals ih =>
    cases n with
    | zero => exact absurd h.symm (Option.some_ne_none m)
    | succ n =>
      cases a with
      | wrote bytes => exact ih h
      | closed =>
        rw [closings, ← Nat.add_assoc, ← ih h]

theorem openAfter_succ {n m : Nat} {arrivals : List Arrival} (h : openAfter n arrivals = some m) :
    openAfter (n + 1) arrivals = some (m + 1) := by
  induction arrivals generalizing n with
  | nil => simpa using h
  | cons a arrivals ih =>
    cases n with
    | zero => exact absurd h.symm (Option.some_ne_none m)
    | succ n => cases a <;> exact ih h

section Hosts

variable {σ : Type} [Host σ]

/-- A relation between hosts and numbers of open streams that whatever happens to a host keeps. -/
structure Host.Wiring (Wired : σ → Nat → Prop) : Prop where
  turn : ∀ {h n}, Wired h n →
    ∃ m, openAfter n (Host.turn h).1 = some m ∧ Wired (Host.turn h).2 m
  await : ∀ {h n} limit ready, Wired h n →
    ∃ m, openAfter n (Host.await limit ready h).1 = some m ∧ Wired (Host.await limit ready h).2 m
  send : ∀ {h n} bytes, Wired h n → Wired (Host.send bytes h).2 n
  kill : ∀ {h n}, Wired h n → Wired (Host.kill h) n

/-- So many streams of the host are open, and none brings anything once it is closed. -/
def Host.Streams (h : σ) (n : Nat) : Prop := ∃ Wired, Host.Wiring Wired ∧ Wired h n

namespace Host.Streams

variable {h : σ} {n : Nat}

theorem turn (hn : Streams h n) :
    ∃ m, openAfter n (Host.turn h).1 = some m ∧ Streams (Host.turn h).2 m := by
  obtain ⟨Wired, hw, hn⟩ := hn
  obtain ⟨m, ha, hm⟩ := hw.turn hn
  exact ⟨m, ha, Wired, hw, hm⟩

theorem await (limit : Nat) (ready : List Arrival → Bool) (hn : Streams h n) :
    ∃ m, openAfter n (Host.await limit ready h).1 = some m ∧
      Streams (Host.await limit ready h).2 m := by
  obtain ⟨Wired, hw, hn⟩ := hn
  obtain ⟨m, ha, hm⟩ := hw.await limit ready hn
  exact ⟨m, ha, Wired, hw, hm⟩

theorem send (bytes : List UInt8) (hn : Streams h n) : Streams (Host.send bytes h).2 n := by
  obtain ⟨Wired, hw, hn⟩ := hn
  exact ⟨Wired, hw, hw.send bytes hn⟩

theorem kill (hn : Streams h n) : Streams (Host.kill h) n := by
  obtain ⟨Wired, hw, hn⟩ := hn
  exact ⟨Wired, hw, hw.kill hn⟩

end Host.Streams

end Hosts

/-! ## Recordings -/

namespace Playback

def Records (p : Playback) (n : Nat) : Prop := (openAfter n p.portions.flatten).isSome = true

theorem next_records {p : Playback} {n : Nat} (hp : p.Records n) (ready : List Arrival → Bool)
    {portion : List Arrival} {rest : Playback} (h : p.next ready = some (portion, rest)) :
    ∃ m, openAfter n portion = some m ∧ rest.Records m := by
  obtain ⟨-, hportions, -⟩ := next_eq_some h
  rw [Records, hportions, List.flatten_cons, openAfter_append] at hp
  cases ha : openAfter n portion with
  | none => simp [ha] at hp
  | some m => exact ⟨m, rfl, by simpa [Records, ha] using hp⟩

theorem wiring : Host.Wiring Records where
  turn {p n} hp := by
    cases h : p.next fun _ => true with
    | none => exact ⟨n, by simp [Host.turn, h], by simpa [Host.turn, h] using hp⟩
    | some r =>
      obtain ⟨m, ha, hm⟩ := next_records hp _ h
      exact ⟨m, by simpa [Host.turn, h] using ha, by simpa [Host.turn, h] using hm⟩
  await {p n} limit ready hp := by
    cases h : p.next ready with
    | none => exact ⟨n, by simp [Host.await, h], by simpa [Host.await, h, Records] using hp⟩
    | some r =>
      obtain ⟨m, ha, hm⟩ := next_records hp _ h
      exact ⟨m, by simpa [Host.await, h] using ha, by simpa [Host.await, h] using hm⟩
  send _ hp := hp
  kill hp := hp

theorem streams {p : Playback} {n : Nat} (hp : p.Records n) : Host.Streams p n :=
  ⟨Records, wiring, hp⟩

end Playback

/-! ## Pumps -/

namespace Pump

theorem Thread.openAfter_step {t : Thread} {n : Nat} (h : t.isOpen = true → 0 < n) :
    openAfter n t.step.1 = some (n - closings t.step.1) := by
  obtain ⟨stage, source, forwarded⟩ := t
  cases stage with
  | reading => exact openAfter_nil n
  | closed => exact openAfter_nil n
  | holding bytes =>
    obtain ⟨n, rfl⟩ := Nat.exists_eq_succ_of_ne_zero (h rfl).ne'
    rfl
  | leaving =>
    obtain ⟨n, rfl⟩ := Nat.exists_eq_succ_of_ne_zero (h rfl).ne'
    exact openAfter_nil n

namespace System

variable {y z : System} {e : Event}

theorem openAfter_step (hy : openAfter y.threads.length y.arrivals = some y.unclosed)
    (h : y.step e = some z) : openAfter z.threads.length z.arrivals = some z.unclosed := by
  obtain ⟨source, -, -, rfl⟩ | ⟨i, t, -, ht, rfl⟩ | ⟨-, -, rfl⟩ | ⟨-, -, rfl⟩ := step_cases h
  · rw [unclosed_start]
    simpa [System.start] using openAfter_succ hy
  · have hopen : t.isOpen = true → 0 < y.unclosed := fun ho =>
      List.countP_pos_iff.2 ⟨t, List.mem_of_getElem? ht, ho⟩
    have hu := unclosed_advance ht
    have hlen : (y.advance i t).threads.length = y.threads.length := List.length_set
    rw [hlen, System.advance, openAfter_append, hy, Option.bind_some,
      Thread.openAfter_step hopen, Option.some.injEq]
    rw [System.advance] at hu
    omega
  · exact hy
  · exact hy

theorem openAfter_run {events : List Event}
    (hy : openAfter y.threads.length y.arrivals = some y.unclosed)
    (h : y.run events = some z) : openAfter z.threads.length z.arrivals = some z.unclosed := by
  induction events generalizing y with
  | nil =>
    obtain rfl : y = z := Option.some.inj h
    exact hy
  | cons e events ih =>
    obtain ⟨x, hx, hz⟩ := run_cons_eq_some.1 h
    exact ih (openAfter_step hy hx) hz

/-- Whatever two pumps bring may be played back, however it is cut into portions. -/
theorem streams_of_run {sep : List Char} {events : List Event}
    (h : (initial sep).run events = some y) (hl : y.threads.length = 2) {p : Playback}
    (hp : p.portions.flatten = y.arrivals) : Host.Streams p 2 := by
  have ho := openAfter_run (y := initial sep) rfl h
  refine Playback.streams ?_
  rw [Playback.Records, hp, ← hl, ho]
  rfl

end System

end Pump

end DebugControl
