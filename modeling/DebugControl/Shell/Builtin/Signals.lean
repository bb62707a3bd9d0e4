import DebugControl.Shell.Builtin.Jobs

/-!
# Commands on signals

`kill` sends signals, and `trap` says what the shell does when it gets one. A signal that was
ignored when the shell started stays ignored.
-/

namespace DebugControl.Shell.Builtin

open Machine (Signals Task)

/-! ## Sending -/

def killUsage : String :=
  "Usage: kill [-s sigspec | -signum | -sigspec] [pid | job]... or\nkill -l [exitstatus]"

/-- The signal that a numeral or a name stands for; the exit is no signal to send. -/
def sentSignal? (text : List Char) : Option Nat :=
  match Signal.number? text with
  | some 0 => if isNumber text then some 0 else none
  | n => n

def target? (e : Environment) (word : List Char) : Except (List Char) (Option Nat) :=
  let numeral (text : List Char) : Except (List Char) Nat :=
    match number? text with
    | some n => .ok n
    | none => .error (illegalNumber text)
  match word with
  | '%' :: _ => (findJob e.jobs (some word)).map fun _ => none
  | '-' :: text => (numeral text).map fun _ => none
  | text => (numeral text).map some

def killAll (number : Nat) (w : Ways) : Words → After
  | [], e => w.done e
  | word :: rest, e =>
    let unknown : Task :=
      report "No such process\n".toList 1 (killAll number w rest) e
    match target? e word with
    | .error m => w.fail m e
    | .ok none => unknown
    | .ok (some 0) => killAll number w rest e
    | .ok (some process) =>
      .signal process number fun known =>
        if known ∨ e.unnoticed.contains process then killAll number w rest e else unknown

def signalNames (words : Words) : Except (List Char) (List Char) :=
  match words with
  | [] => .ok ("0\n".toList ++ (Signal.names.drop 1).flatMap fun n => n.toList ++ ['\n'])
  | text :: _ =>
    match number? text with
    | none => .error (illegalNumber text)
    | some n =>
      let n := if 128 < n then n - 128 else n
      match if n = 0 then none else Signal.name? n with
      | some name => .ok (name.toList ++ ['\n'])
      | none => .error ("invalid signal number or exit status: ".toList ++ text)

def killOrList (signal : Option Nat) (lists : Bool) (words : Words) (w : Ways) (e : Environment) :
    Task :=
  if lists then
    if signal.isSome ∧ !words.isEmpty then w.failWith killUsage e
    else
      match signalNames words with
      | .ok text => w.print text e
      | .error m => w.fail m e
  else if words.isEmpty then w.failWith killUsage e
  else killAll (signal.getD Signal.termination) w words (e.withStatus 0)

def kill (words : Words) (w : Ways) (e : Environment) : Task :=
  match words with
  | [] => w.failWith killUsage e
  | ('-' :: text) :: rest =>
    match sentSignal? text with
    | some number => killOrList (some number) false rest w e
    | none =>
      match Letters.read ⟨['l'], ['s']⟩ words with
      | .error m => w.fail m e
      | .ok o =>
        let names := o.options.filterMap fun x => if x.1 = 's' then some x.2 else none
        match names.find? fun n => (sentSignal? n).isNone with
        | some bad => w.fail ("invalid signal number or name: ".toList ++ bad) e
        | none => killOrList (names.getLast?.bind sentSignal?) (o.has 'l') o.words w e
  | words => killOrList none false words w e

/-! ## Catching -/

/-- Records what is to be done at a signal; without an action, that nothing is. -/
def setTrap (number : Nat) (action : Option (List Char)) (e : Environment) : Environment :=
  let others := e.traps.filter (·.1 ≠ number)
  { e with traps := match action with
      | some text => (number, text) :: others
      | none => others }

def signalsWith (number : Nat) (action : Option (List Char)) (s : Signals) : Signals :=
  let caught := s.caught.filter (· ≠ number)
  let ignored := s.ignored.filter (· ≠ number)
  match action with
  | none => ⟨caught, ignored⟩
  | some [] => ⟨caught, number :: ignored⟩
  | some _ => ⟨number :: caught, ignored⟩

/-- Sets the action for signals up to one that there is not. -/
def trapAll (action : Option (List Char)) (w : Ways) : Words → After
  | [], e => w.finish 0 e
  | word :: rest, e =>
    match Signal.number? word with
    | none => remark ("trap: ".toList ++ word ++ ": bad trap\n".toList) (w.finish 1) e
    | some number =>
      let next (_ : Unit) : Task := trapAll action w rest (setTrap number action e)
      if number = 0 ∨ e.ignored.contains number then next ()
      else .handle (signalsWith number action) next

def trapText (traps : List (Nat × List Char)) : List Char :=
  (traps.mergeSort fun a b => a.1 ≤ b.1).flatMap fun t =>
    "trap -- ".toList ++ singleQuoted t.2 ++ ' ' :: ((Signal.name? t.1).getD "").toList ++ ['\n']

def trap (words : Words) (w : Ways) (e : Environment) : Task :=
  match Letters.none.read words with
  | .error m => w.fail m e
  | .ok o =>
    match o.words with
    | [] => w.print (trapText e.traps) e
    | [signal] => trapAll none w [signal] e
    | first :: signals =>
      if (Signal.numeral? first).isSome then trapAll none w o.words e
      else trapAll (if first = ['-'] then none else some first) w signals e

end DebugControl.Shell.Builtin
