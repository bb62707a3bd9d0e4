import DebugControl.Proofs.Sink.Arrivals
import DebugControl.Proofs.Source.Delivery
import DebugControl.Pump

/-!
# A pump as a thread

The loop of a pump one step at a time. A read does not touch the sink; a write and the closing of
the stream each hold its lock once, so that other threads may act between any two steps. A thread
of itself does what `Pump.thread` does, and the sink has no part in it.
-/

namespace DebugControl.Pump

/-- Where a pump stands in its loop. -/
inductive Stage where
  | reading
  | holding (bytes : List UInt8)
  | leaving
  | closed
deriving Repr, DecidableEq

def stageAfter : Except Fault (List UInt8) → Stage
  | .ok [] => .leaving
  | .ok (b :: bytes) => .holding (b :: bytes)
  | .error f => if f.kind = .interrupted then .reading else .leaving

structure Thread where
  stage : Stage
  source : Source
  forwarded : Nat
deriving Repr, DecidableEq

namespace Thread

def start (source : Source) : Thread := ⟨.reading, source, 0⟩

def isOpen (t : Thread) : Bool := t.stage != .closed

/-- What the sink receives from the next step of a thread, and the thread after it. -/
def step (t : Thread) : List Arrival × Thread :=
  match t.stage with
  | .reading =>
    let (answer, source) := t.source.read bufferSize
    ([], { t with stage := stageAfter answer, source })
  | .holding bytes =>
    ([.wrote bytes], { t with stage := .reading, forwarded := t.forwarded + bytes.length })
  | .leaving => ([.closed], { t with stage := .closed })
  | .closed => ([], t)

@[simp] theorem isOpen_start (source : Source) : (start source).isOpen = true := rfl

theorem isOpen_stageAfter (answer : Except Fault (List UInt8)) (source : Source) (forwarded : Nat) :
    isOpen ⟨stageAfter answer, source, forwarded⟩ = true := by
  unfold stageAfter isOpen
  split
  · rfl
  · rfl
  · split <;> rfl

theorem step_of_closed {t : Thread} (h : t.isOpen = false) : t.step = ([], t) := by
  obtain ⟨stage, source, forwarded⟩ := t
  cases stage <;> simp_all [isOpen, step]

theorem closings_step (t : Thread) :
    closings t.step.1 + t.step.2.isOpen.toNat = t.isOpen.toNat := by
  obtain ⟨stage, source, forwarded⟩ := t
  cases stage with
  | reading =>
    have ho : step ⟨.reading, source, forwarded⟩ |>.2.isOpen = true := isOpen_stageAfter _ _ _
    rw [ho]
    rfl
  | holding bytes => rfl
  | leaving => rfl
  | closed => rfl

def advance : Nat → Thread → List Arrival × Thread
  | 0, t => ([], t)
  | n + 1, t => (t.step.1 ++ (advance n t.step.2).1, (advance n t.step.2).2)

/-- A thread that starts to read comes to leave its loop, having done what the loop does. -/
theorem exists_advance_eq_forward {buffer : List UInt8} (hbuffer : buffer.length = bufferSize)
    (forwarded : Nat) (source : Source) :
    ∃ n source', advance n ⟨.reading, source, forwarded⟩ =
      ((forward buffer forwarded source).1,
        ⟨.leaving, source', (forward buffer forwarded source).2⟩) := by
  fun_induction forward buffer forwarded source with
  | case1 buffer forwarded source rest h =>
    rw [hbuffer] at h
    refine ⟨1, rest, ?_⟩
    simp [advance, step, h, stageAfter]
  | case2 buffer forwarded source b bytes rest h count buffer' later total hforward ih =>
    obtain ⟨-, hfits⟩ := Source.deliverable_of_read_bytes (List.cons_ne_nil b bytes) h
    rw [hbuffer] at h
    obtain ⟨n, source', ha⟩ := ih ((length_overwrite hfits).trans hbuffer)
    refine ⟨n + 2, source', ?_⟩
    rw [hforward] at ha
    have htake : buffer'.take count = b :: bytes := take_overwrite buffer (b :: bytes)
    simp only [advance, step, h, stageAfter, htake, List.nil_append, List.singleton_append]
    rw [Prod.mk.injEq]
    exact ⟨congrArg _ (congrArg Prod.fst ha), congrArg Prod.snd ha⟩
  | case3 buffer forwarded source f rest h hk ih =>
    rw [hbuffer] at h
    obtain ⟨n, source', ha⟩ := ih hbuffer
    refine ⟨n + 1, source', ?_⟩
    simp [advance, step, h, stageAfter, hk, ha]
  | case4 buffer forwarded source f rest h hk =>
    rw [hbuffer] at h
    refine ⟨1, rest, ?_⟩
    simp [advance, step, h, stageAfter, hk]

theorem advance_succ_eq (n : Nat) (t : Thread) :
    advance (n + 1) t =
      ((advance n t).1 ++ (advance n t).2.step.1, (advance n t).2.step.2) := by
  induction n generalizing t with
  | zero => simp [advance]
  | succ n ih =>
    rw [advance, ih, advance]
    simp only [List.append_assoc]

theorem exists_advance_eq_thread (source : Source) :
    ∃ n source', (start source).advance n =
      ((thread source).1, ⟨.closed, source', (thread source).2⟩) := by
  obtain ⟨n, source', ha⟩ := exists_advance_eq_forward List.length_replicate 0 source
  refine ⟨n + 1, source', ?_⟩
  rw [advance_succ_eq, start, ha]
  rfl

end Thread

end DebugControl.Pump
