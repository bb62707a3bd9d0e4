import DebugControl.Shell.Expansion

/-!
# Redirections

The words of redirections are expanded first, and then descriptors are opened, copied and closed in
order. What a descriptor was before is kept as long as it may have to be restored.
-/

namespace DebugControl.Shell

open Machine (Endpoint Task)

inductive Wire where
  | file (descriptor : Nat) (direction : Direction) (path : List Char)
  | copy (descriptor other : Nat)
  | close (descriptor : Nat)
  | document (descriptor : Nat) (text : List Part)

def Wire.ofCopy? (descriptor : Nat) (word : List Char) : Option Wire :=
  match word with
  | ['-'] => some (.close descriptor)
  | [c] => if c.isDigit then some (.copy descriptor (natOf [c])) else none
  | _ => none

def Expander.wires (x : Expander) (done : List Wire) (e : Environment)
    (k : List Wire → After) : List Redirection → Task
  | [] => k done e
  | .file descriptor direction path :: rest =>
    x.text .text path e fun path e =>
      x.wires (done ++ [.file descriptor direction path]) e k rest
  | .duplicate descriptor other :: rest =>
    x.text .text other e fun word e =>
      match Wire.ofCopy? descriptor word with
      | some wire => x.wires (done ++ [wire]) e k rest
      | none => x.fail "Syntax error: Bad fd number".toList { e with line := e.readTo }
  | .document descriptor text :: rest => x.wires (done ++ [.document descriptor text]) e k rest

/-- How a file is opened; without permission to replace files, output needs a new one. -/
def Direction.opening (d : Direction) (e : Environment) : Opening :=
  match d with
  | .input => .input
  | .output => if e.options.contains 'C' then .fresh else .output
  | .clobber => .output
  | .append => .append
  | .update => .update

def openMessage (how : Opening) (path : List Char) (f : Fault) : List Char :=
  let creates := !(how = .input ∨ (how = .fresh ∧ f = .isADirectory))
  let reason := if isMissing f then (if creates then "Directory nonexistent" else "No such file")
    else f.reason
  (if creates then "cannot create " else "cannot open ").toList ++ path ++ ": ".toList ++
    reason.toList
where
  isMissing (f : Fault) : Bool := f == .notFound || f == .notADirectory

def Environment.connect (e : Environment) (keeps : Bool) (descriptor : Nat)
    (target : Option Endpoint) : Environment :=
  let before := (e.endpoint? descriptor).toList.filter (·.isPipe)
  let e := if keeps then { e with kept := before ++ e.kept } else e
  match target with
  | some target => e.redirect descriptor target
  | none => e.close descriptor

/-- Carries out redirections; after a failure, the status is two. -/
def Expander.connect (x : Expander) (keeps : Bool) (e : Environment) (k failed : After) :
    List Wire → Task
  | [] => k e
  | .file descriptor direction path :: rest =>
    let how := direction.opening e
    Machine.openThen e.descriptors e.place (Octets.encode path) how fun result =>
      match result with
      | .ok target => x.connect keeps (e.connect keeps descriptor (some target)) k failed rest
      | .error f => report (openMessage how path f) 2 failed e
  | .copy descriptor other :: rest =>
    match e.endpoint? other with
    | some target => x.connect keeps (e.connect keeps descriptor (some target)) k failed rest
    | none => report (decimal other ++ ": Bad file descriptor".toList) 2 failed e
  | .close descriptor :: rest => x.connect keeps (e.connect keeps descriptor none) k failed rest
  | .document descriptor text :: rest =>
    Expander.text { x with raise := failed } .text text e fun text e =>
      .makePipe fun pipe =>
        .write (.writer pipe) (Octets.encode text) fun _ =>
          .release (.writer pipe) fun _ =>
            x.connect keeps (e.connect keeps descriptor (some (.reader pipe))) k failed rest

end DebugControl.Shell
