import DebugControl.Proofs.Sink.Delivery
import DebugControl.Session.Host

/-!
# Arrivals

What a stream of the debugger does to a sink changes only what waits in `raw` and the count of open
streams. The lines and the carried bytes stay as the last snapshot left them, so that bytes which
arrive after a snapshot still wait for the next one.
-/

namespace DebugControl

def arrivedBytes : List Arrival → List UInt8
  | [] => []
  | .wrote bytes :: arrivals => bytes ++ arrivedBytes arrivals
  | .closed :: arrivals => arrivedBytes arrivals

/-- How many streams some arrivals close. -/
def closings : List Arrival → Nat
  | [] => 0
  | .wrote _ :: arrivals => closings arrivals
  | .closed :: arrivals => closings arrivals + 1

@[simp] theorem arrivedBytes_nil : arrivedBytes [] = [] := rfl

@[simp] theorem arrivedBytes_append (a b : List Arrival) :
    arrivedBytes (a ++ b) = arrivedBytes a ++ arrivedBytes b := by
  induction a with
  | nil => rfl
  | cons x a ih => cases x <;> simp [arrivedBytes, ih]

@[simp] theorem closings_nil : closings [] = 0 := rfl

@[simp] theorem closings_append (a b : List Arrival) :
    closings (a ++ b) = closings a + closings b := by
  induction a with
  | nil => simp
  | cons x a ih =>
    cases x with
    | wrote bytes => exact ih
    | closed =>
      simp only [List.cons_append, closings, ih]
      omega

attribute [ext] Sink

namespace Sink

variable (s : Sink) (arrivals : List Arrival)

@[simp] theorem receiveAll_separator : (s.receiveAll arrivals).separator = s.separator := by
  induction arrivals generalizing s with
  | nil => rfl
  | cons a arrivals ih => cases a <;> exact ih _

@[simp] theorem receiveAll_lines : (s.receiveAll arrivals).lines = s.lines := by
  induction arrivals generalizing s with
  | nil => rfl
  | cons a arrivals ih => cases a <;> exact ih _

@[simp] theorem receiveAll_carry : (s.receiveAll arrivals).carry = s.carry := by
  induction arrivals generalizing s with
  | nil => rfl
  | cons a arrivals ih => cases a <;> exact ih _

@[simp] theorem receiveAll_raw : (s.receiveAll arrivals).raw = s.raw ++ arrivedBytes arrivals := by
  induction arrivals generalizing s with
  | nil => simp
  | cons a arrivals ih =>
    rw [receiveAll_cons, ih]
    cases a with
    | wrote bytes => simp [receive, write, arrivedBytes]
    | closed => rfl

@[simp] theorem receiveAll_openStreams :
    (s.receiveAll arrivals).openStreams = s.openStreams - closings arrivals := by
  induction arrivals generalizing s with
  | nil => rfl
  | cons a arrivals ih =>
    rw [receiveAll_cons, ih]
    cases a with
    | wrote bytes => rfl
    | closed =>
      simp only [receive, closeStream, closings]
      omega

theorem receiveAll_finished :
    (s.receiveAll arrivals).finished = true ↔
      s.finished = true ∨ 0 < closings arrivals ∧ s.openStreams ≤ closings arrivals := by
  induction arrivals generalizing s with
  | nil => simp
  | cons a arrivals ih =>
    rw [receiveAll_cons, ih]
    cases a with
    | wrote bytes => rfl
    | closed =>
      simp only [receive, closeStream, closings, Bool.or_eq_true, decide_eq_true_eq, or_assoc]
      refine or_congr_right ?_
      omega

theorem undelivered_receiveAll (rest : List UInt8) :
    (s.receiveAll arrivals).undelivered rest = s.undelivered (arrivedBytes arrivals ++ rest) := by
  simp [undelivered]

end Sink

end DebugControl
