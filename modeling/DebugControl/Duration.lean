/-!
# Durations

A duration is a number of nanoseconds. Its text uses the largest unit of `s`, `ms`, `µs` and `ns`
whose count is at least one, with a decimal fraction that has no trailing zeros.
-/

namespace DebugControl

structure Duration where
  nanoseconds : Nat
deriving Repr, DecidableEq

namespace Duration

def ofSeconds (seconds nanoseconds : Nat) : Duration := ⟨seconds * 1000000000 + nanoseconds⟩

def ofMilliseconds (milliseconds : Nat) : Duration := ⟨milliseconds * 1000000⟩

/-- Whole milliseconds, rounded down. -/
def milliseconds (d : Duration) : Nat := d.nanoseconds / 1000000

def padded (width n : Nat) : List Char :=
  let digits := (toString n).toList
  List.replicate (width - digits.length) '0' ++ digits

/-- `n / 10 ^ places` in decimal, without trailing zeros after the point. -/
def decimal (places n : Nat) : List Char :=
  let unit := Nat.pow 10 places
  let fraction := ((padded places (n % unit)).reverse.dropWhile (· = '0')).reverse
  (toString (n / unit)).toList ++ if fraction = [] then [] else '.' :: fraction

def text (d : Duration) : String :=
  let n := d.nanoseconds
  let (places, unit) :=
    if 1000000000 ≤ n then (9, "s")
    else if 1000000 ≤ n then (6, "ms")
    else if 1000 ≤ n then (3, "µs")
    else (0, "ns")
  String.ofList (decimal places n) ++ unit

end Duration

end DebugControl
