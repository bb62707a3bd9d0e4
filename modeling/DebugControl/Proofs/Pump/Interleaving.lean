import DebugControl.Proofs.Pump.Thread

/-!
# Two pumps and a controller

A session starts one pump after the other, and only then does its controller look at the sink. The
three then act in any order. While the second pump has not been started, the first may already have
ended, so that the sink looks finished; but nobody looks at it, and the start of the second pump
opens it again. From then on the sink is finished exactly when both pumps have closed their streams.
-/

namespace DebugControl.Pump

structure System where
  sink : Sink
  /-- The pumps that have been started, in their order. -/
  threads : List Thread
  /-- What the sink has received, the earliest first. -/
  arrivals : List Arrival
  /-- What the resets have returned, the earliest first. -/
  taken : List (List Line)
deriving DecidableEq

inductive Event where
  | start (source : Source)
  | advance (i : Nat)
  | snapshot
  | reset
deriving DecidableEq

namespace System

open Text Utf8

def initial (sep : List Char) : System := ⟨Sink.new sep, [], [], []⟩

def unclosed (y : System) : Nat := y.threads.countP Thread.isOpen

def written (y : System) : List UInt8 := arrivedBytes y.arrivals

/-- The text of all that the resets have returned. -/
def takenText (y : System) : List Char := y.taken.flatMap (join y.sink.separator)

def start (y : System) (source : Source) : System :=
  { y with sink := y.sink.openStream, threads := y.threads ++ [Thread.start source] }

def advance (y : System) (i : Nat) (t : Thread) : System :=
  { y with
    sink := y.sink.receiveAll t.step.1
    threads := y.threads.set i t.step.2
    arrivals := y.arrivals ++ t.step.1 }

def snapshot (y : System) : System := { y with sink := y.sink.snapshot.2 }

def reset (y : System) : System :=
  { y with sink := y.sink.reset.2, taken := y.taken ++ [y.sink.reset.1] }

/-- The controller acts only when both pumps have been started. -/
def step (y : System) : Event → Option System
  | .start source => if y.threads.length < 2 then some (y.start source) else none
  | .advance i => y.threads[i]?.map (y.advance i)
  | .snapshot => if y.threads.length = 2 then some y.snapshot else none
  | .reset => if y.threads.length = 2 then some y.reset else none

def run : System → List Event → Option System
  | y, [] => some y
  | y, e :: events => (y.step e).bind fun z => z.run events

variable {y z : System} {e : Event}

theorem step_cases (h : y.step e = some z) :
    (∃ source, e = .start source ∧ y.threads.length < 2 ∧ z = y.start source) ∨
    (∃ i t, e = .advance i ∧ y.threads[i]? = some t ∧ z = y.advance i t) ∨
    (e = .snapshot ∧ y.threads.length = 2 ∧ z = y.snapshot) ∨
    (e = .reset ∧ y.threads.length = 2 ∧ z = y.reset) := by
  cases e with
  | start source =>
    simp only [step, Option.ite_none_right_eq_some, Option.some.injEq] at h
    exact .inl ⟨source, rfl, h.1, h.2.symm⟩
  | advance i =>
    obtain ⟨t, ht, rfl⟩ := Option.map_eq_some_iff.1 h
    exact .inr (.inl ⟨i, t, rfl, ht, rfl⟩)
  | snapshot =>
    simp only [step, Option.ite_none_right_eq_some, Option.some.injEq] at h
    exact .inr (.inr (.inl ⟨rfl, h.1, h.2.symm⟩))
  | reset =>
    simp only [step, Option.ite_none_right_eq_some, Option.some.injEq] at h
    exact .inr (.inr (.inr ⟨rfl, h.1, h.2.symm⟩))

theorem run_cons_eq_some {events : List Event} :
    y.run (e :: events) = some z ↔ ∃ x, y.step e = some x ∧ x.run events = some z := by
  rw [run, Option.bind_eq_some_iff]

theorem unclosed_start (y : System) (source : Source) :
    (y.start source).unclosed = y.unclosed + 1 := by
  simp [unclosed, start, List.countP_append]

theorem unclosed_advance {i : Nat} {t : Thread} (ht : y.threads[i]? = some t) :
    closings t.step.1 + (y.advance i t).unclosed = y.unclosed := by
  obtain ⟨hi, rfl⟩ := List.getElem?_eq_some_iff.1 ht
  have hc := Thread.closings_step y.threads[i]
  have hle : (if y.threads[i].isOpen then 1 else 0) ≤ y.threads.countP Thread.isOpen := by
    split_ifs with ho
    · exact List.countP_pos_iff.2 ⟨_, List.getElem_mem hi, ho⟩
    · exact Nat.zero_le _
  have toNat_eq (b : Bool) : b.toNat = if b then 1 else 0 := by cases b <;> rfl
  rw [toNat_eq, toNat_eq] at hc
  rw [unclosed, unclosed, advance, List.countP_set hi]
  omega

theorem isOpen_of_unclosed_eq_zero {i : Nat} {t : Thread} (h : y.unclosed = 0)
    (ht : y.threads[i]? = some t) : t.isOpen = false := by
  have hall := List.countP_eq_zero.1 h t (List.mem_of_getElem? ht)
  simpa using hall

end System

end DebugControl.Pump
