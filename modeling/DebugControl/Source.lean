import DebugControl.Fault

/-!
# Byte sources

A source answers each read from a list of events: bytes, a fault, or an end of input. Bytes that do
not fit into the room offered stay for the next read, and after the last event every read meets the
end of input. The source remembers the room it was offered, read by read.
-/

namespace DebugControl

inductive ReadEvent where
  | bytes (b : List UInt8)
  | fault (f : Fault)
  | ended
deriving Repr, DecidableEq

structure Source where
  events : List ReadEvent
  /-- The room offered by each read, the latest first. -/
  offered : List Nat
deriving Repr, DecidableEq

namespace Source

def ofEvents (events : List ReadEvent) : Source := ⟨events, []⟩

/-- One read into `room` bytes; no bytes mean the end of input. -/
def read (s : Source) (room : Nat) : Except Fault (List UInt8) × Source :=
  let offered := room :: s.offered
  match s.events with
  | [] => (.ok [], ⟨[], offered⟩)
  | .ended :: rest => (.ok [], ⟨rest, offered⟩)
  | .fault f :: rest => (.error f, ⟨rest, offered⟩)
  | .bytes b :: rest =>
    if b.length ≤ room then (.ok b, ⟨rest, offered⟩)
    else (.ok (b.take room), ⟨.bytes (b.drop room) :: rest, offered⟩)

def weightOf : List ReadEvent → Nat
  | [] => 0
  | .bytes b :: rest => b.length + 1 + weightOf rest
  | _ :: rest => 1 + weightOf rest

def weight (s : Source) : Nat := weightOf s.events

theorem weight_lt_of_read {s t : Source} {room : Nat} {bytes : List UInt8}
    (h : s.read room = (.ok bytes, t)) (hb : bytes ≠ []) : t.weight < s.weight := by
  obtain ⟨events, offered⟩ := s
  unfold read at h
  split at h
  · simp_all
  · simp_all
  · simp_all
  · rename_i b rest hev
    simp only at hev
    subst hev
    split at h
    · cases h
      simp [weight, weightOf]
    · cases h
      have : room ≠ 0 := by
        intro h0
        simp [h0] at hb
      simp only [weight, weightOf, List.length_drop]
      omega

theorem weight_lt_of_fault {s t : Source} {room : Nat} {f : Fault}
    (h : s.read room = (.error f, t)) : t.weight < s.weight := by
  obtain ⟨events, offered⟩ := s
  unfold read at h
  split at h
  · simp at h
  · simp at h
  · rename_i f' rest hev
    simp only at hev
    subst hev
    cases h
    simp [weight, weightOf]
  · split at h <;> simp at h

/-- The size of the read buffer when it is full of `received` bytes out of `size`, and `length` are
wanted: it grows by its own size and 1024, but not beyond what is wanted. -/
def grow (length size received : Nat) : Nat :=
  if size ≤ received then received + min (length - received) (size + 1024) else size

def prematureEnd (received length : Nat) : Fault :=
  .plain .unexpectedEnd s!"premature EOF after {received} of {length} bytes"

/-- Reads on until `length` bytes are there; `size` is the size of the buffer, whose unused end
holds zeros. -/
def fill (length : Nat) (whole : Bool) (received : List UInt8) (size : Nat) (s : Source) :
    Except Fault (List UInt8) × Source :=
  if received.length < length then
    let size := grow length size received.length
    match _h : s.read (size - received.length) with
    | (.ok [], t) =>
      if whole then (.error (prematureEnd received.length length), t) else (.ok received, t)
    | (.ok (b :: bytes), t) => fill length whole (received ++ b :: bytes) size t
    | (.error f, t) =>
      if f.kind = .interrupted then fill length whole received size t else (.error f, t)
  else (.ok (received ++ List.replicate (size - received.length) 0), s)
termination_by s.weight
decreasing_by
  · exact weight_lt_of_read _h (List.cons_ne_nil _ _)
  · exact weight_lt_of_fault _h

/-- Reads `length` bytes. An early end of input is a fault if the `whole` length is wanted, and
otherwise ends the answer. -/
def readFully (length : Nat) (whole : Bool) (s : Source) : Except Fault (List UInt8) × Source :=
  fill length whole [] 0 s

def readExactly (length : Nat) (s : Source) : Except Fault (List UInt8) × Source :=
  readFully length true s

end Source

end DebugControl
