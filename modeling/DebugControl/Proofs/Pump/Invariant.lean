import DebugControl.Proofs.Pump.Interleaving

/-!
# What two pumps and a controller preserve

Whatever the order of the steps, the count of open streams is the count of pumps that have not
closed theirs, and the sink is finished exactly when some pump has been started and all have closed.
What the resets have returned, together with what the sink owes, is the decoding of what was written.
-/

namespace DebugControl.Pump.System

open Text Utf8

variable {y z : System} {e : Event}

/-- What holds after any steps. As long as the second pump has not been started, the sink owes the
text of whatever may still be written, even if it looks finished. -/
structure Inv (sep : List Char) (y : System) : Prop where
  separator : y.sink.separator = sep
  balance : closings y.arrivals + y.unclosed = y.threads.length
  openStreams : y.sink.openStreams = y.unclosed
  finished : y.sink.finished = true ↔ 0 < y.threads.length ∧ y.unclosed = 0
  delivered : ∀ rest, (y.threads.length = 2 → y.sink.finished = true → rest = []) →
    y.takenText ++ y.sink.undelivered rest = decode (y.written ++ rest)

theorem Inv.initial (sep : List Char) : Inv sep (initial sep) where
  separator := rfl
  balance := rfl
  openStreams := rfl
  finished := by simp [System.initial, Sink.new]
  delivered rest _ := rfl

section Preservation

variable {sep : List Char} (hy : Inv sep y)

include hy

theorem Inv.start (hl : y.threads.length < 2) (source : Source) : Inv sep (y.start source) where
  separator := hy.separator
  balance := by
    have hc := hy.balance
    rw [unclosed_start]
    simp only [System.start, List.length_append, List.length_singleton]
    omega
  openStreams := by
    rw [unclosed_start, ← hy.openStreams]
    rfl
  finished := by
    rw [unclosed_start]
    simp [System.start, Sink.openStream]
  delivered rest _ := hy.delivered rest (by omega)

theorem Inv.delivered_advance {i : Nat} {t : Thread} (ht : y.threads[i]? = some t)
    {rest : List UInt8} (hrest : y.threads.length = 2 → y.sink.finished = true → rest = []) :
    (y.advance i t).takenText ++ (y.advance i t).sink.undelivered rest =
      decode ((y.advance i t).written ++ rest) := by
  have harrived : y.threads.length = 2 → y.sink.finished = true →
      arrivedBytes t.step.1 ++ rest = [] := by
    intro hl hf
    have hclosed := isOpen_of_unclosed_eq_zero (hy.finished.1 hf).2 ht
    rw [Thread.step_of_closed hclosed, hrest hl hf]
    rfl
  have hd := hy.delivered (arrivedBytes t.step.1 ++ rest) harrived
  have htaken : (y.advance i t).takenText = y.takenText := by
    simp [takenText, System.advance]
  have hwritten : (y.advance i t).written = y.written ++ arrivedBytes t.step.1 := by
    simp [written, System.advance]
  have howed : (y.advance i t).sink.undelivered rest =
      y.sink.undelivered (arrivedBytes t.step.1 ++ rest) :=
    Sink.undelivered_receiveAll _ _ _
  rw [htaken, hwritten, howed, hd, List.append_assoc]

theorem Inv.advance {i : Nat} {t : Thread} (ht : y.threads[i]? = some t) :
    Inv sep (y.advance i t) := by
  have hu := unclosed_advance ht
  have hlen : (y.advance i t).threads.length = y.threads.length := List.length_set
  have hfin := Sink.receiveAll_finished y.sink t.step.1
  have hopen := hy.openStreams
  refine ⟨?_, ?_, ?_, ?_, ?_⟩
  · exact (Sink.receiveAll_separator _ _).trans hy.separator
  · have hc := hy.balance
    rw [hlen, System.advance, closings_append]
    rw [System.advance] at hu
    omega
  · have ho : (y.advance i t).sink.openStreams = y.sink.openStreams - closings t.step.1 :=
      Sink.receiveAll_openStreams _ _
    omega
  · have hf : (y.advance i t).sink.finished = true ↔
        y.sink.finished = true ∨ 0 < closings t.step.1 ∧ y.sink.openStreams ≤ closings t.step.1 :=
      hfin
    have hi := (List.getElem?_eq_some_iff.1 ht).1
    rw [hf, hy.finished, hlen]
    omega
  · intro rest hrest
    exact hy.delivered_advance ht fun hl hf => hrest (hlen.trans hl) (hfin.2 (.inl hf))

theorem Inv.snapshot (hsep : sep ≠ []) (hl : y.threads.length = 2) : Inv sep y.snapshot where
  separator := (Sink.absorb_separator _).trans hy.separator
  balance := hy.balance
  openStreams := (Sink.absorb_openStreams _).trans hy.openStreams
  finished := (Bool.eq_iff_iff.1 (Sink.absorb_finished _)).trans hy.finished
  delivered rest hrest := by
    have hf : y.sink.finished = true → rest = [] := fun hf =>
      hrest hl ((Sink.absorb_finished _).trans hf)
    have hu : y.snapshot.sink.undelivered rest = y.sink.undelivered rest :=
      Sink.undelivered_absorb (by rw [hy.separator]; exact hsep) hf
    have ht : y.snapshot.takenText = y.takenText := by
      simp [takenText, System.snapshot, Sink.snapshot]
    rw [hu, ht]
    exact hy.delivered rest fun _ => hf

theorem Inv.reset : Inv sep y.reset where
  separator := hy.separator
  balance := hy.balance
  openStreams := hy.openStreams
  finished := hy.finished
  delivered rest hrest := by
    have ht : y.reset.takenText = y.takenText ++ join y.sink.separator y.sink.reset.1 := by
      simp [takenText, System.reset, Sink.reset]
    rw [ht, List.append_assoc]
    exact (congrArg _ (Sink.join_reset_append y.sink rest)).trans (hy.delivered rest hrest)

theorem Inv.step (hsep : sep ≠ []) (h : y.step e = some z) : Inv sep z := by
  obtain ⟨source, -, hl, rfl⟩ | ⟨i, t, -, ht, rfl⟩ | ⟨-, hl, rfl⟩ | ⟨-, -, rfl⟩ := step_cases h
  · exact hy.start hl source
  · exact hy.advance ht
  · exact hy.snapshot hsep hl
  · exact hy.reset

theorem Inv.run (hsep : sep ≠ []) {events : List Event} (h : y.run events = some z) :
    Inv sep z := by
  induction events generalizing y with
  | nil =>
    obtain rfl : y = z := Option.some.inj h
    exact hy
  | cons e events ih =>
    obtain ⟨x, hx, hz⟩ := run_cons_eq_some.1 h
    exact ih (hy.step hsep hx) hz

end Preservation

end DebugControl.Pump.System
