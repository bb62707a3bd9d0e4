import DebugControl.Shell.Format
import DebugControl.Utility.Basic

/-!
# Echoing words

The program `echo`, which leaves backslashes alone unless it is told otherwise.
-/

namespace DebugControl.Utility.Echo

open Machine (Task)
open Shell.Arithmetic (isHexDigit isOctalDigit valueOf)
open Shell.Format (letterEscape? octet)

def unescape : Nat → List Char → List Char × Bool
  | 0, _ => ([], false)
  | _, [] => ([], false)
  | fuel + 1, '\\' :: c :: rest =>
    let followedBy (text : List Char) (rest : List Char) : List Char × Bool :=
      let (more, stop) := unescape fuel rest
      (text ++ more, stop)
    if c = 'c' then ([], true)
    else if isOctalDigit c then
      let digits := ((if c = '0' then rest else c :: rest).take 3).takeWhile isOctalDigit
      followedBy [octet (valueOf 8 digits).toNat]
        ((if c = '0' then rest else c :: rest).drop digits.length)
    else if c = 'x' ∧ rest.head?.any isHexDigit then
      let digits := (rest.take 2).takeWhile isHexDigit
      followedBy [octet (valueOf 16 digits).toNat] (rest.drop digits.length)
    else
      match letterEscape? c with
      | some e => followedBy [e] rest
      | none => followedBy ['\\', c] rest
  | fuel + 1, c :: rest =>
    let (text, stop) := unescape fuel rest
    (c :: text, stop)

def isOption (a : List Char) : Bool :=
  a.head? == some '-' && 1 < a.length &&
    (a.drop 1).all fun c => c == 'n' || c == 'e' || c == 'E'

def text (args : List (List Char)) : List Char :=
  let options := (args.takeWhile isOption).flatten.filter (· != '-')
  let words := List.intercalate [' '] (args.dropWhile isOption)
  let escapes := (options.filter (· != 'n')).getLast? == some 'e'
  let (words, stop) := if escapes then unescape (words.length + 1) words else (words, false)
  if stop ∨ options.contains 'n' then words else words ++ ['\n']

def task (start : Start) : Task :=
  match start.args with
  | [arg] =>
    if arg = "--help".toList ∨ arg = "--version".toList then .exit 0
    else start.print (text [arg]) fun _ => .exit 0
  | args => start.print (text args) fun _ => .exit 0

end DebugControl.Utility.Echo
