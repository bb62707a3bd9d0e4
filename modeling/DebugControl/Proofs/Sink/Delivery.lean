import DebugControl.Proofs.Sink.Absorb

/-!
# Every byte is delivered once

`undelivered` is the text that a sink still owes its reader, if certain bytes are yet to arrive
before the input ends. Writing moves bytes from those to come into the sink, a snapshot changes
nothing, and a reset takes away what it returns. So whatever is written, and whenever somebody
looks, the texts taken by the resets and the last look make up the decoding of all that was written.
-/

namespace DebugControl.Sink

open Text Utf8

/-- The text that the sink will still give out when the bytes `rest` have arrived and the input has
ended. -/
def undelivered (s : Sink) (rest : List UInt8) : List Char :=
  join s.separator s.lines ++ decode (s.carry ++ s.raw ++ rest)

@[simp] theorem undelivered_new (sep : List Char) (rest : List UInt8) :
    (new sep).undelivered rest = decode rest := rfl

@[simp] theorem undelivered_write (s : Sink) (bytes rest : List UInt8) :
    (s.write bytes).undelivered rest = s.undelivered (bytes ++ rest) := by
  simp [undelivered, write]

@[simp] theorem undelivered_finish (s : Sink) (rest : List UInt8) :
    s.finish.undelivered rest = s.undelivered rest := rfl

theorem join_reset_append (s : Sink) (rest : List UInt8) :
    join s.separator s.reset.1 ++ s.reset.2.undelivered rest = s.undelivered rest := by
  simp [undelivered, reset]

/-- Absorbing the bytes of a sink that is still open owes the reader the same text; a finished sink
must not get more bytes. -/
theorem undelivered_absorb {s : Sink} (hsep : s.separator ≠ []) {rest : List UInt8}
    (h : s.finished = true → rest = []) : s.absorb.undelivered rest = s.undelivered rest := by
  cases hf : s.finished with
  | true =>
    obtain rfl := h hf
    simp only [undelivered, absorb_separator]
    rw [absorb_of_finished hf, join_addText s.separator ?_ hsep]
    · simp
    · rfl
  | false =>
    by_cases hr : s.raw = []
    · rw [absorb_of_raw_nil hf hr]
    · have hd : decode (s.carry ++ s.raw ++ rest) =
          (decodeStream (s.carry ++ s.raw)).1 ++
            decode ((decodeStream (s.carry ++ s.raw)).2 ++ rest) := decode_append _ _
      simp only [undelivered, absorb_separator, absorb_raw]
      rw [absorb_of_open hf hr, join_addText s.separator ?_ hsep, hd]
      · simp only [addText_carry, List.append_nil, List.append_assoc]
        rw [decode_encode_append, ← List.append_assoc (released _ _), released_append_held]
      · rfl

theorem join_snapshot_of_finished {s : Sink} (hsep : s.separator ≠ []) (hf : s.finished = true) :
    join s.separator s.snapshot.1 = s.undelivered [] := by
  rw [← undelivered_absorb hsep (fun _ => rfl), undelivered, absorb_carry_of_finished hf,
    absorb_raw]
  simp [snapshot]

/-! ## Calls on an open sink -/

inductive Call where
  | write (bytes : List UInt8)
  | snapshot
  | reset
deriving Repr, DecidableEq

def perform (s : Sink) : Call → Sink
  | .write bytes => s.write bytes
  | .snapshot => s.snapshot.2
  | .reset => s.reset.2

def performAll (s : Sink) (calls : List Call) : Sink := calls.foldl perform s

/-- The lists that the resets among the calls return. -/
def taken (s : Sink) : List Call → List (List Line)
  | [] => []
  | .reset :: calls => s.reset.1 :: s.reset.2.taken calls
  | .write bytes :: calls => (s.write bytes).taken calls
  | .snapshot :: calls => s.snapshot.2.taken calls

def written : List Call → List UInt8
  | [] => []
  | .write bytes :: calls => bytes ++ written calls
  | .snapshot :: calls | .reset :: calls => written calls

@[simp] theorem performAll_cons (s : Sink) (c : Call) (calls : List Call) :
    s.performAll (c :: calls) = (s.perform c).performAll calls := rfl

@[simp] theorem perform_separator (s : Sink) (c : Call) :
    (s.perform c).separator = s.separator := by
  cases c with
  | write bytes => rfl
  | snapshot => exact absorb_separator s
  | reset => rfl

@[simp] theorem perform_finished (s : Sink) (c : Call) : (s.perform c).finished = s.finished := by
  cases c with
  | write bytes => rfl
  | snapshot => exact absorb_finished s
  | reset => rfl

@[simp] theorem performAll_separator (s : Sink) (calls : List Call) :
    (s.performAll calls).separator = s.separator := by
  induction calls generalizing s with
  | nil => rfl
  | cons c calls ih => rw [performAll_cons, ih, perform_separator]

theorem taken_append_undelivered {s : Sink} (hsep : s.separator ≠ []) (hf : s.finished = false)
    (calls : List Call) (rest : List UInt8) :
    (s.taken calls).flatMap (join s.separator) ++ (s.performAll calls).undelivered rest =
      s.undelivered (written calls ++ rest) := by
  induction calls generalizing s with
  | nil => rfl
  | cons c calls ih =>
    have hi := ih (s := s.perform c) (by simpa using hsep) (by simpa using hf)
    rw [perform_separator] at hi
    rw [performAll_cons]
    cases c with
    | write bytes =>
      simp only [perform] at hi ⊢
      rw [taken, written, hi, undelivered_write, List.append_assoc]
    | snapshot =>
      have ha : s.snapshot.2 = s.absorb := rfl
      simp only [perform] at hi ⊢
      rw [taken, written, hi, ha, undelivered_absorb hsep (by simp [hf])]
    | reset =>
      simp only [perform] at hi ⊢
      rw [taken, written, List.flatMap_cons, List.append_assoc, hi, join_reset_append]

/-- Nothing written is lost, doubled or put in another order. -/
theorem delivered_eq_decode {sep : List Char} (hsep : sep ≠ []) (calls : List Call) :
    ((new sep).taken calls).flatMap (join sep) ++
        join sep ((new sep).performAll calls).finish.snapshot.1 = decode (written calls) := by
  have hs : ((new sep).performAll calls).finish.separator = sep :=
    performAll_separator (new sep) calls
  have hlast := join_snapshot_of_finished (s := ((new sep).performAll calls).finish)
    (by rw [hs]; exact hsep) rfl
  have hall := taken_append_undelivered (s := new sep) hsep rfl calls []
  rw [hs, undelivered_finish] at hlast
  rw [undelivered_new, List.append_nil] at hall
  rw [hlast]
  exact hall

/-- A character and a separator are each written in two parts with a reset in between, and the
last character is never completed. -/
theorem delivered_eq_decode_split :
    ['\r', '\n'] ≠ [] ∧
      ((new ['\r', '\n']).taken [.write [0x61, 0xC3], .snapshot, .reset, .write [0xA9, 0x0D],
          .snapshot, .reset, .write [0x0A, 0xE2, 0x82], .snapshot]).flatMap (join ['\r', '\n']) ++
        join ['\r', '\n'] ((new ['\r', '\n']).performAll [.write [0x61, 0xC3], .snapshot, .reset,
          .write [0xA9, 0x0D], .snapshot, .reset, .write [0x0A, 0xE2, 0x82],
          .snapshot]).finish.snapshot.1 = ['a', 'é', '\r', '\n', '\uFFFD'] :=
  ⟨by decide, (delivered_eq_decode (by decide) _).trans (by decide)⟩

end DebugControl.Sink
