import DebugControl.Shell.Expansion
import DebugControl.Shell.Lookup

/-!
# Commands

The first words of a simple command decide what it runs: a function, a built-in command or a
program. In front of it `command` may stand, with which functions do not count and mistakes do not
end the program.
-/

namespace DebugControl.Shell

open Machine (Task)

inductive Chosen where
  | nothing
  | function (body : Statement)
  | builtin (name : Name)
  | program

structure Choice where
  target : Chosen
  /-- Whether the first word is a command of which a mistaken use ends the program; there may be no
  built-in command at all. -/
  special : Option Bool
  /-- Whether functions are passed over. -/
  bare : Bool
  /-- Whether programs are looked for in the directories of the system. -/
  standard : Bool

namespace Choice

def start : Choice := ⟨.nothing, none, false, false⟩

def isSpecial (c : Choice) : Bool := c.special == some true

def hasFrame (c : Choice) : Bool :=
  match c.target with
  | .nothing => false
  | _ => !c.isSpecial

def runs (c : Choice) (name : String) : Bool :=
  match c.target with
  | .builtin n => n == name.toList
  | _ => false

def declares (c : Choice) : Bool :=
  match c.target with
  | .builtin name => isDeclaration name
  | _ => false

end Choice

/-- What follows the first words of a command: the fields so far and the words that are left. -/
abbrev AfterWords := Words → List Word → After

/-- Passes the options of `command` from a field on. Unless it is asked what a name stands for,
gives whether the directories of the system count, and the fields of the command behind the options.
-/
def passOptions (x : Expander) :
    Nat → Bool → Nat → Words → Environment → List Word → (Option (Bool × Words) → AfterWords) → Task
  | 0, _, _, fields, e, rest, k => k none fields rest e
  | fuel + 1, standard, i, fields, e, rest, k =>
    x.demand (i + 1) fields e (fun fields rest e =>
      match fields[i]? with
      | none => k none fields rest e
      | some ['-', '-'] =>
        x.demand (i + 2) fields e (fun fields rest e =>
          let behind := fields.drop (i + 1)
          k (if behind.isEmpty then none else some (standard, behind)) fields rest e) rest
      | some ('-' :: c :: more) =>
        if (c :: more).all (· = 'p') then passOptions x fuel true (i + 1) fields e rest k
        else k none fields rest e
      | some _ => k (some (standard, fields.drop i)) fields rest e) rest

def resolve (x : Expander) :
    Nat → Choice → Words → Environment → List Word → (Choice → AfterWords) → Task
  | 0, c, fields, e, rest, k => k c fields rest e
  | fuel + 1, c, fields, e, rest, k =>
    match fields with
    | [] => k c fields rest e
    | name :: _ =>
      match if c.bare then none else e.functions.lookup name with
      | some body => k { c with target := .function body } fields rest e
      | none =>
        if !isBuiltin name then k { c with target := .program } fields rest e
        else
          let c := { c with
            target := .builtin name, special := c.special <|> some (isSpecialCommand name) }
          if name ≠ "command".toList then k c fields rest e
          else
            passOptions x fuel c.standard 1 fields e rest fun stripped fields rest e =>
              match stripped with
              | none => k c fields rest e
              | some (standard, fields) =>
                resolve x fuel { c with bare := true, standard } fields e rest k

def chooseCommand (x : Expander) (fuel : Nat) (words : List Word) (e : Environment)
    (k : Choice → Words → After) : Task :=
  x.demand 1 [] e (fun fields rest e =>
    resolve x fuel .start fields e rest fun c fields rest e =>
      x.words c.declares fields e (k c) rest) words

end DebugControl.Shell
