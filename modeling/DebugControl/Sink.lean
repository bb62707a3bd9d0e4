import DebugControl.Text.Utf8
import DebugControl.Text.Cut

/-!
# The output sink

A sink gathers the bytes that several streams write and hands them out as lines. Bytes wait in `raw`
until `snapshot` absorbs them; an unfinished character or a possible beginning of the separator at
the end of the absorbed text waits in `carry`. The last line stays open: text that arrives later
continues it, and a separator at the end leaves an empty last line. Once no stream is open the sink
is finished, and what is carried counts as text.
-/

namespace DebugControl

abbrev Line := List Char

structure Sink where
  separator : List Char
  raw : List UInt8
  carry : List UInt8
  lines : List Line
  openStreams : Nat
  finished : Bool
deriving Repr, DecidableEq

inductive Arrival where
  | wrote (bytes : List UInt8)
  | closed
deriving Repr, DecidableEq

namespace Sink

def new (separator : List Char) : Sink := ⟨separator, [], [], [], 0, false⟩

def default : Sink := new ['\n']

def hasPending (s : Sink) : Bool :=
  !s.raw.isEmpty || (s.finished && !s.carry.isEmpty)

def write (s : Sink) (bytes : List UInt8) : Sink := { s with raw := s.raw ++ bytes }

def continueLines : List Line → List Line → List Line
  | lines, [] => lines
  | [], pieces => pieces
  | [last], piece :: rest => (last ++ piece) :: rest
  | line :: lines, pieces => line :: continueLines lines pieces

def addText (s : Sink) (text : List Char) : Sink :=
  if text = [] then s else { s with lines := continueLines s.lines (Text.cut s.separator text) }

/-- Turns the pending bytes into lines, all but a tail that later bytes may change. -/
def absorb (s : Sink) : Sink :=
  if s.hasPending then
    let bytes := s.carry ++ s.raw
    if s.finished then { s with raw := [], carry := [] }.addText (Utf8.decode bytes)
    else
      let (text, undecoded) := Utf8.decodeStream bytes
      let kept := text.length - Text.heldLength s.separator text
      { s with raw := [], carry := Utf8.encode (text.drop kept) ++ undecoded }.addText
        (text.take kept)
  else s

def snapshot (s : Sink) : List Line × Sink :=
  let s := s.absorb
  (s.lines, s)

/-- The absorbed lines, which are then forgotten; bytes not absorbed yet stay. -/
def reset (s : Sink) : List Line × Sink := (s.lines, { s with lines := [] })

def finish (s : Sink) : Sink := { s with finished := true }

def openStream (s : Sink) : Sink := { s with openStreams := s.openStreams + 1, finished := false }

/-- The last stream to close finishes the sink. -/
def closeStream (s : Sink) : Sink :=
  { s with openStreams := s.openStreams - 1, finished := s.finished || s.openStreams ≤ 1 }

def receive (s : Sink) : Arrival → Sink
  | .wrote bytes => s.write bytes
  | .closed => s.closeStream

def receiveAll (s : Sink) (arrivals : List Arrival) : Sink := arrivals.foldl receive s

def streamsClosed (s : Sink) : Bool := s.openStreams == 0

/-- Writes consecutive pieces of `size` bytes and takes a snapshot after each. -/
def writeSplit (s : Sink) (size : Nat) (bytes : List UInt8) : Sink :=
  if _h : bytes = [] ∨ size = 0 then s
  else writeSplit (s.write (bytes.take size)).snapshot.2 size (bytes.drop size)
termination_by bytes.length
decreasing_by
  have : bytes.length ≠ 0 := fun hl => _h (.inl (List.length_eq_zero_iff.1 hl))
  simp only [List.length_drop]
  omega

def summary (s : Sink) : String :=
  s!"OutputSink \x7b pending_bytes: {s.raw.length}, lines: {s.lines.length}, " ++
    s!"open_streams: {s.openStreams}, finished: {s.finished} \x7d"

@[simp] theorem write_nil (s : Sink) : s.write [] = s := by simp [write]

theorem write_append (s : Sink) (a b : List UInt8) : s.write (a ++ b) = (s.write a).write b := by
  simp [write]

@[simp] theorem receiveAll_nil (s : Sink) : s.receiveAll [] = s := rfl

@[simp] theorem receiveAll_cons (s : Sink) (a : Arrival) (arrivals : List Arrival) :
    s.receiveAll (a :: arrivals) = (s.receive a).receiveAll arrivals := rfl

theorem receiveAll_append (s : Sink) (a b : List Arrival) :
    s.receiveAll (a ++ b) = (s.receiveAll a).receiveAll b := by
  simp [receiveAll, List.foldl_append]

theorem absorb_of_not_pending {s : Sink} (h : s.hasPending = false) : s.absorb = s := by
  simp [absorb, h]

end Sink

end DebugControl
