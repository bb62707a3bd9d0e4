import DebugControl.Shell.Fraction
import DebugControl.Utility.Basic

/-!
# Sleeping

`sleep` waits for the sum of durations. A duration is a number, which may have a fraction, with the
letter of a unit behind it.
-/

namespace DebugControl.Utility.Sleep

open Machine (Task)
open Shell (Fraction.read?)

/-- How many seconds a unit has; without a letter it is the second. -/
def unit? (s : List Char) : Option Nat :=
  match s with
  | [] | ['s'] => some 1
  | ['m'] => some 60
  | ['h'] => some 3600
  | ['d'] => some 86400
  | _ => none

def longest : Nat := 1000000000000000000

def duration? (text : List Char) : Option Nat :=
  match Fraction.read? text with
  | some (.rational negative a b, rest) =>
    if negative ∧ a ≠ 0 then none
    else (unit? rest).map fun unit => min longest (a * unit * 1000000000 / b)
  | some (.infinite false, rest) => (unit? rest).map fun _ => longest
  | _ => none

def complainAll (start : Start) : List (List Char) → Task
  | [] => start.advise
  | text :: rest =>
    start.complain ("invalid time interval ".toList ++ Quote.message text) fun _ =>
      complainAll start rest

def task (start : Start) : Task :=
  match readFlags commonFlags start.args with
  | .error text => start.refuse text
  | .ok (_ :: _, _) => .exit 0
  | .ok ([], operands) =>
    if start.args.isEmpty then start.refuse "missing operand".toList
    else match operands.filter fun a => (duration? a).isNone with
    | [] => .sleep ((operands.filterMap duration?).foldl (· + ·) 0) fun _ => .exit 0
    | bad => complainAll start bad

end DebugControl.Utility.Sleep
