import DebugControl.Shell.Format
import DebugControl.Shell.Operand
import DebugControl.Shell.Test
import DebugControl.Shell.Waiting

/-!
# Commands on text

`echo` and `printf` write, `read` reads a line into variables, and `test` and the bracket decide
about words and files.
-/

namespace DebugControl.Shell.Builtin

open Machine (Task)

def echo (words : Words) (w : Ways) (e : Environment) : Task := w.print (Format.echo words) e

/-- Writes what a format and its arguments give; the complaints come first. -/
def printf (words : Words) (w : Ways) (e : Environment) : Task :=
  match Letters.none.read words with
  | .error m => w.fail m e
  | .ok o =>
    match o.words with
    | [] => w.failWith "usage: printf format [arg ...]" e
    | format :: args =>
      let r := Format.printf format args
      let status := if r.faults.isEmpty then 0 else 1
      let write : After := match r.mistake with
        | none => output r.text status w.done
        | some m => complain m (output r.text 2 fun e => w.raise (e.withStatus 2))
      reportAll r.faults write e

def test (words : Words) (w : Ways) (e : Environment) : Task :=
  .look fun fs =>
    match Test.evaluate ⟨fs, e.place, e.descriptors⟩ words with
    | .ok b => w.finish (if b then 0 else 1) e
    | .error m => w.fail m.message e

def bracket (words : Words) (w : Ways) (e : Environment) : Task :=
  if words.getLast? = some [']'] then test words.dropLast w e else w.failWith "missing ]" e

/-! ## Reading -/

/-- The atoms of a line, in which a backslash protects the next character unless the line is raw,
and whether the backslash at its end continues it. -/
def lineAtoms (raw : Bool) : List Char → List Atom × Bool
  | [] => ([], false)
  | '\\' :: rest =>
    if raw then
      let (atoms, continued) := lineAtoms raw rest
      (.char '\\' false true :: atoms, continued)
    else
      match rest with
      | [] => ([], true)
      | c :: rest =>
        let (atoms, continued) := lineAtoms raw rest
        (.char c true false :: .seam false :: atoms, continued)
  | c :: rest =>
    let (atoms, continued) := lineAtoms raw rest
    (.char c false true :: atoms, continued)

/-- Assigns fields to variables in order; those without a field become empty. -/
def assignFields (status : Nat) (w : Ways) : List Name → List Field → After
  | [], _, e => w.finish status e
  | name :: names, fields, e =>
    match e.assign name ((fields.headD []).text) with
    | .ok e => assignFields status w names (fields.drop 1) e
    | .error m => w.fail m e

def lineLimit : Nat := 1000000000

def readLine (raw : Bool) (names : List Name) (w : Ways) :
    Nat → List Atom → Environment → Task
  | 0, _, e => w.finish 1 e
  | limit + 1, before, e =>
    let assign (atoms : List Atom) (status : Nat) : Task :=
      assignFields status w names (cutFields e.separators (some names.length) atoms) e
    match e.endpoint? 0 with
    | none => assign before 1
    | some source => .readLine source fun result =>
      match result with
      | .error _ => assign before 1
      | .ok bytes =>
        let isEnded := bytes.getLast? == some 10
        let text := (Octets.decode (if isEnded then bytes.dropLast else bytes)).filter
          (· ≠ Char.ofNat 0)
        let (atoms, continued) := lineAtoms raw text
        let atoms := before ++ .seam false :: atoms
        if continued ∧ isEnded then readLine raw names w limit atoms e
        else assign atoms (if isEnded then 0 else 1)

def read (words : Words) (w : Ways) (e : Environment) : Task :=
  match Letters.read ⟨['r'], ['p']⟩ words with
  | .error m => w.fail m e
  | .ok o =>
    if o.words.isEmpty then w.failWith "arg count" e
    else readLine (o.has 'r') o.words w lineLimit [] e

end DebugControl.Shell.Builtin
