import DebugControl.Proofs.Source.Delivery
import DebugControl.Pump

/-!
# What a pump copies

A pump writes the bytes that its source delivers before it ends or fails, and nothing else: of its
buffer it writes just what the last read has brought. Whatever the end of the loop, and also if
there was no loop for want of a thread, the stream that was opened is closed once, and nothing is
written behind that.
-/

namespace DebugControl.Pump

variable {buffer : List UInt8}

/-- The writes of the loop are what the reads bring, piece by piece. The induction is on the reads;
the buffer keeps its length, so that each of them has room. -/
theorem exists_pieces (hbuffer : 0 < buffer.length) (forwarded : Nat) (source : Source) :
    ∃ pieces : List (List UInt8),
      forward buffer forwarded source =
        (pieces.map .wrote, forwarded + source.deliverable.1.length) ∧
      (∀ piece ∈ pieces, piece ≠ [] ∧ piece.length ≤ buffer.length) ∧
      pieces.flatten = source.deliverable.1 := by
  fun_induction forward buffer forwarded source with
  | case1 buffer forwarded source rest h =>
    rw [Source.deliverable_of_read_nil hbuffer h]
    exact ⟨[], rfl, List.forall_mem_nil _, rfl⟩
  | case2 buffer forwarded source b bytes rest h count buffer' later total hforward ih =>
    obtain ⟨hdeliverable, hfits⟩ := Source.deliverable_of_read_bytes (List.cons_ne_nil b bytes) h
    have hlength : buffer'.length = buffer.length := length_overwrite hfits
    have hpiece : buffer'.take count = b :: bytes := take_overwrite buffer (b :: bytes)
    obtain ⟨pieces, heq, hpieces, hflatten⟩ := ih (hlength ▸ hbuffer)
    obtain ⟨rfl, rfl⟩ := Prod.mk.inj (hforward.symm.trans heq)
    refine ⟨(b :: bytes) :: pieces, ?_, ?_, ?_⟩
    · rw [hpiece, hdeliverable, List.length_append, ← Nat.add_assoc]
      rfl
    · rw [hlength] at hpieces
      exact List.forall_mem_cons.2 ⟨⟨List.cons_ne_nil b bytes, hfits⟩, hpieces⟩
    · rw [List.flatten_cons, hflatten, hdeliverable]
  | case3 buffer forwarded source f rest h hinterrupted ih =>
    rw [Source.deliverable_of_read_error h, if_pos hinterrupted]
    exact ih hbuffer
  | case4 buffer forwarded source f rest h hfault =>
    rw [Source.deliverable_of_read_error h, if_neg hfault]
    exact ⟨[], rfl, List.forall_mem_nil _, rfl⟩

/-- What a pump comes to: with a thread, the number of bytes that its source delivers, which it has
written piece by piece; without one, the reason why. -/
def Served (source : Source) (pieces : List (List UInt8)) :
    Option Fault → Except Fault Nat → Prop
  | none, result => pieces.flatten = source.deliverable.1 ∧
      result = .ok source.deliverable.1.length
  | some f, result => pieces = [] ∧ result = .error f

theorem exists_serve_eq (refusal : Option Fault) (source : Source) :
    ∃ pieces result, serve refusal source = (pieces.map .wrote ++ [.closed], result) ∧
      (∀ piece ∈ pieces, piece ≠ [] ∧ piece.length ≤ bufferSize) ∧
      Served source pieces refusal result := by
  cases refusal with
  | none =>
    have hbuffer : (List.replicate bufferSize (0 : UInt8)).length = bufferSize :=
      List.length_replicate
    obtain ⟨pieces, hforward, hpieces, hflatten⟩ :=
      exists_pieces (hbuffer ▸ (by decide : 0 < bufferSize)) 0 source
    rw [hbuffer] at hpieces
    refine ⟨pieces, .ok source.deliverable.1.length, ?_, hpieces, hflatten, rfl⟩
    rw [serve, thread, hforward, Nat.zero_add]
  | some f => exact ⟨[], .error f, rfl, List.forall_mem_nil _, rfl, rfl⟩

theorem receiveAll_wrote (sink : Sink) (pieces : List (List UInt8)) :
    sink.receiveAll (pieces.map .wrote) = sink.write pieces.flatten := by
  induction pieces generalizing sink with
  | nil => exact (Sink.write_nil sink).symm
  | cons piece pieces ih =>
    rw [List.map_cons, Sink.receiveAll_cons, ih, List.flatten_cons, Sink.write_append]
    rfl

/-- A pump writes exactly what its source delivers before it ends or fails, in order, and then
closes its stream, once; a pump that gets no thread writes nothing and closes its stream, once. So
the sink has as many open streams as before, what it got stands behind what it held, and it is
finished exactly if no other stream is open. -/
theorem serve_exact (refusal : Option Fault) (sink : Sink) (source : Source) :
    ∃ pieces result,
      serve refusal source = (pieces.map .wrote ++ [.closed], result) ∧
      (∀ piece ∈ pieces, piece ≠ [] ∧ piece.length ≤ bufferSize) ∧
      Served source pieces refusal result ∧
      spawn refusal sink source =
        ({ sink with
          raw := sink.raw ++ pieces.flatten
          finished := sink.openStreams == 0 }, result) := by
  obtain ⟨pieces, result, hserve, hpieces, hserved⟩ := exists_serve_eq refusal source
  have hfinished : (false || decide (sink.openStreams + 1 ≤ 1)) = (sink.openStreams == 0) := by
    rw [Bool.eq_iff_iff]
    simp
  refine ⟨pieces, result, hserve, hpieces, hserved, ?_⟩
  rw [spawn, hserve, ← hfinished]
  dsimp only
  rw [Sink.receiveAll_append, receiveAll_wrote]
  rfl

end DebugControl.Pump
