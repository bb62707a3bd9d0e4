import DebugControl.Sink
import DebugControl.Source

/-!
# Pumps

A pump copies one source into a sink, through a buffer of 4096 bytes that each read overwrites from
the beginning. It opens a stream of the sink before its thread starts, and closes it when the source
ends or fails, or when it gets no thread; an interrupted read is tried again. What it does to the
stream does not depend on the sink.
-/

namespace DebugControl.Pump

def bufferSize : Nat := 4096

/-- The buffer after a read of some bytes; behind them it keeps what it held. -/
def overwrite (buffer bytes : List UInt8) : List UInt8 := bytes ++ buffer.drop bytes.length

@[simp] theorem take_overwrite (buffer bytes : List UInt8) :
    (overwrite buffer bytes).take bytes.length = bytes := List.take_left

theorem length_overwrite {buffer bytes : List UInt8} (h : bytes.length ≤ buffer.length) :
    (overwrite buffer bytes).length = buffer.length := by
  rw [overwrite, List.length_append, List.length_drop, Nat.add_sub_cancel' h]

def forward (buffer : List UInt8) (forwarded : Nat) (source : Source) : List Arrival × Nat :=
  match _h : source.read buffer.length with
  | (.ok [], _) => ([], forwarded)
  | (.ok (b :: bytes), rest) =>
    let count := (b :: bytes).length
    let buffer := overwrite buffer (b :: bytes)
    let (later, total) := forward buffer (forwarded + count) rest
    (.wrote (buffer.take count) :: later, total)
  | (.error f, rest) =>
    if f.kind = .interrupted then forward buffer forwarded rest else ([], forwarded)
termination_by source.weight
decreasing_by
  · exact Source.weight_lt_of_read _h (List.cons_ne_nil _ _)
  · exact Source.weight_lt_of_fault _h

/-- What the thread of a pump does to its stream, and the number of bytes that it has forwarded. -/
def thread (source : Source) : List Arrival × Nat :=
  let (writes, forwarded) := forward (List.replicate bufferSize 0) 0 source
  (writes ++ [.closed], forwarded)

/-- What becomes of a stream that has been opened for a pump: the system may refuse it a thread. -/
def serve (refusal : Option Fault) (source : Source) : List Arrival × Except Fault Nat :=
  match refusal with
  | none =>
    let (arrivals, forwarded) := thread source
    (arrivals, .ok forwarded)
  | some f => ([.closed], .error f)

def spawn (refusal : Option Fault) (sink : Sink) (source : Source) : Sink × Except Fault Nat :=
  let (arrivals, result) := serve refusal source
  (sink.openStream.receiveAll arrivals, result)

def run (sink : Sink) (source : Source) : Sink × Nat :=
  let (arrivals, forwarded) := thread source
  (sink.openStream.receiveAll arrivals, forwarded)

end DebugControl.Pump
