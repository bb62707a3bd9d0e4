import DebugControl.Proofs.Sink.Absorb
import DebugControl.Proofs.Sink.Arrivals

/-!
# How often something may be pending

A snapshot leaves nothing pending. After it, something is pending again only if bytes arrive, or if
the last stream is closed while something is carried; and the last stream is closed only once. So a
sink pays for everything that is found pending out of what is written, what is pending at first, and
the one end of input.
-/

namespace DebugControl

/-- How many writes some arrivals consist of, closings apart. -/
def writes : List Arrival → Nat
  | [] => 0
  | .wrote _ :: arrivals => writes arrivals + 1
  | .closed :: arrivals => writes arrivals

@[simp] theorem writes_nil : writes [] = 0 := rfl

@[simp] theorem writes_append (a b : List Arrival) : writes (a ++ b) = writes a + writes b := by
  induction a with
  | nil => simp
  | cons x a ih =>
    cases x with
    | wrote bytes =>
      simp only [List.cons_append, writes, ih]
      omega
    | closed => exact ih

namespace Sink

variable {s : Sink}

theorem hasPending_receive (h : s.hasPending = true) (a : Arrival) :
    (s.receive a).hasPending = true := by
  rw [hasPending_iff] at h ⊢
  cases a with
  | wrote bytes => exact h.imp_left fun hraw => List.append_ne_nil_of_left_ne_nil hraw bytes
  | closed =>
    refine h.imp_right fun ⟨hfinished, hcarry⟩ => ⟨?_, hcarry⟩
    simp [receive, closeStream, hfinished]

theorem hasPending_receiveAll (h : s.hasPending = true) (arrivals : List Arrival) :
    (s.receiveAll arrivals).hasPending = true := by
  induction arrivals generalizing s with
  | nil => exact h
  | cons a arrivals ih => exact ih (hasPending_receive h a)

/-- Where nothing is pending, something is pending after some arrivals exactly if they bring bytes, or
if they end the input of a sink that carries something. -/
theorem hasPending_receiveAll_iff (h : s.hasPending = false) (arrivals : List Arrival) :
    (s.receiveAll arrivals).hasPending = true ↔
      arrivedBytes arrivals ≠ [] ∨
        s.finished = false ∧ (s.receiveAll arrivals).finished = true ∧ s.carry ≠ [] := by
  obtain ⟨hraw, hcarry⟩ := hasPending_eq_false.1 h
  rw [hasPending, receiveAll_raw, receiveAll_carry, hraw, List.nil_append]
  cases hf : s.finished with
  | true => simp [hcarry hf]
  | false => simp

/-- How many more times something may be found pending if nothing more is written: once for what is
pending now, and once for the end of input. -/
def potential (s : Sink) : Nat := s.hasPending.toNat + (!s.finished).toNat

theorem potential_le_two (s : Sink) : s.potential ≤ 2 := by
  have hpending := Bool.toNat_le s.hasPending
  have hopen := Bool.toNat_le !s.finished
  rw [potential]
  omega

theorem potential_receive (s : Sink) (a : Arrival) :
    (s.receive a).potential ≤ s.potential + writes [a] := by
  cases a with
  | wrote bytes =>
    have hpending := Bool.toNat_le (s.receive (.wrote bytes)).hasPending
    have hopen : (s.receive (.wrote bytes)).finished = s.finished := rfl
    simp only [potential, hopen, writes]
    omega
  | closed =>
    by_cases hlast : s.openStreams ≤ 1
    · have hpending := Bool.toNat_le (s.receive .closed).hasPending
      have hclosed : (s.receive .closed).finished = true := by simp [receive, closeStream, hlast]
      cases hf : s.finished with
      | true =>
        have hsame : (s.receive .closed).hasPending = s.hasPending := by
          simp [receive, closeStream, hasPending, hf]
        simp [potential, hsame, hclosed, hf]
      | false =>
        simp only [potential, hclosed, hf, writes]
        simp
        omega
    · have hsame : s.receive .closed = { s with openStreams := s.openStreams - 1 } := by
        simp [receive, closeStream, hlast]
      rw [hsame]
      exact Nat.le_refl _

theorem potential_receiveAll (s : Sink) (arrivals : List Arrival) :
    (s.receiveAll arrivals).potential ≤ s.potential + writes arrivals := by
  induction arrivals generalizing s with
  | nil => exact Nat.le_refl _
  | cons a arrivals ih =>
    have hfirst := potential_receive s a
    have hrest := ih (s.receive a)
    rw [← List.singleton_append, writes_append]
    rw [List.singleton_append, receiveAll_cons]
    omega

theorem potential_absorb (s : Sink) :
    s.absorb.potential + s.hasPending.toNat = s.potential := by
  rw [potential, potential, hasPending_absorb, absorb_finished, Bool.toNat_false]
  omega

end Sink

end DebugControl
