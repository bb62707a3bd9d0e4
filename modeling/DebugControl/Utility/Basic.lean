import DebugControl.Machine.Opening
import DebugControl.Text.Octets
import DebugControl.Utility.Quote

/-!
# Utilities

A utility is a task that depends on the words of its command, on its open descriptors and on its
working directory. The first word is the name under which it complains.
-/

namespace DebugControl.Utility

open Machine (Endpoint Task)

abbrev Descriptors := List (Nat × Endpoint)

structure Start where
  name : List Char
  args : List (List Char)
  descriptors : Descriptors
  place : Place

/-- Writes a text; a descriptor that is not open takes nothing. -/
def writeThen (ds : Descriptors) (descriptor : Nat) (text : List Char)
    (next : Option Fault → Task) : Task :=
  match ds.lookup descriptor with
  | some e => .write e (Octets.encode text) next
  | none => next (some .badDescriptor)

namespace Start

def complain (s : Start) (text : List Char) (next : Unit → Task) : Task :=
  writeThen s.descriptors 2 (s.name ++ ':' :: ' ' :: text ++ ['\n']) fun _ => next ()

def advise (s : Start) : Task :=
  writeThen s.descriptors 2
    ("Try '".toList ++ s.name ++ " --help' for more information.\n".toList) fun _ => .exit 1

def refuse (s : Start) (text : List Char) : Task := s.complain text fun _ => s.advise

def print (s : Start) (text : List Char) (next : Unit → Task) : Task :=
  if text.isEmpty then next ()
  else
    writeThen s.descriptors 1 text fun fault =>
      match fault with
      | none => next ()
      | some f => s.complain ("write error: ".toList ++ f.reason.toList) fun _ => .exit 1

end Start

/-! ## Options -/

structure Flag where
  letter : Option Char
  long : Option String
deriving Repr, DecidableEq

def Flag.name (f : Flag) : String := f.long.getD (f.letter.elim "" toString)

def invalidOption (c : Char) : List Char := "invalid option -- '".toList ++ [c, '\'']

def readLetters (flags : List Flag) : List Char → Except (List Char) (List String)
  | [] => .ok []
  | c :: rest =>
    match flags.find? (·.letter = some c) with
    | none => .error (invalidOption c)
    | some f => do
      let more ← readLetters flags rest
      pure (f.name :: more)

/-- Reads a long option, of which the beginning of the name is enough. -/
def readLong (flags : List Flag) (text : List Char) : Except (List Char) String :=
  let name := text.takeWhile (· != '=')
  let names := (flags.filterMap Flag.long).filter fun n => name.isPrefixOf n.toList
  let option (n : List Char) : List Char := "option '--".toList ++ n ++ ['\'']
  match if names.any (·.toList = name) then [String.ofList name] else names with
  | [] => .error ("unrecognized option '--".toList ++ text ++ ['\''])
  | [n] =>
    if name.length < text.length then
      .error (option n.toList ++ " doesn't allow an argument".toList)
    else .ok n
  | several =>
    .error (option text ++ " is ambiguous; possibilities:".toList ++
      several.flatMap fun n => s!" '--{n}'".toList)

def readFlags (flags : List Flag) : List (List Char) →
    Except (List Char) (List String × List (List Char))
  | [] => .ok ([], [])
  | ['-', '-'] :: rest => .ok ([], rest)
  | ('-' :: '-' :: text) :: rest => do
    let n ← readLong flags text
    let (names, operands) ← readFlags flags rest
    pure (n :: names, operands)
  | ('-' :: c :: letters) :: rest => do
    let found ← readLetters flags (c :: letters)
    let (names, operands) ← readFlags flags rest
    pure (found ++ names, operands)
  | operand :: rest => do
    let (names, operands) ← readFlags flags rest
    pure (names, operand :: operands)

def commonFlags : List Flag := [⟨none, some "help"⟩, ⟨none, some "version"⟩]

end DebugControl.Utility
