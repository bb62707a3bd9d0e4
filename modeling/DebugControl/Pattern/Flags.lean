import DebugControl.Text.Blank

/-!
# Flags

Flags change the reading of the rest of a group. `Flags.read` reads the flags between `(?` and the
colon or parenthesis that ends them: letters switch a flag on, and behind a minus sign off.
-/

namespace DebugControl.Pattern

structure Flags where
  ignoreCase : Bool
  multiLine : Bool
  dotAll : Bool
  /-- Lines may end with a carriage return. -/
  returns : Bool
  unicode : Bool
  /-- Repetitions prefer short matches, unless a question mark follows. -/
  short : Bool
  /-- White space and comments are skipped. -/
  spaced : Bool
deriving Repr, DecidableEq

namespace Flags

def default : Flags := ⟨false, false, false, false, true, false, false⟩

def set? (f : Flags) (letter : Char) (on : Bool) : Option Flags :=
  match letter with
  | 'i' => some { f with ignoreCase := on }
  | 'm' => some { f with multiLine := on }
  | 's' => some { f with dotAll := on }
  | 'R' => some { f with returns := on }
  | 'u' => some { f with unicode := on }
  | 'x' => some { f with spaced := on }
  | 'U' => some { f with short := on }
  | _ => none

def skipSpaced : Bool → List Char → List Char
  | _, [] => []
  | true, c :: rest => skipSpaced (c ≠ '\n') rest
  | false, c :: rest =>
    if Text.isBlank c then skipSpaced false rest
    else if c = '#' then skipSpaced true rest
    else c :: rest

def skip (f : Flags) (s : List Char) : List Char := if f.spaced then skipSpaced false s else s

/-- What a list of flags says: the flags from there on, whether it names any, the character that
ends it, and the rest. -/
structure Listed where
  flags : Flags
  some? : Bool
  closing : Char
  rest : List Char

/-- Reads flags. No letter may occur twice, and a minus sign needs a letter behind it. -/
def read (f : Flags) (seen : List Char) (off dangling : Bool) : List Char → Option Listed
  | [] => none
  | c :: rest =>
    if c = ':' ∨ c = ')' then if dangling then none else some ⟨f, !seen.isEmpty, c, rest⟩
    else if c ∈ seen then none
    else if c = '-' then read f (c :: seen) true true rest
    else
      match f.set? c (!off) with
      | none => none
      | some f => read f (c :: seen) off false rest

end Flags

end DebugControl.Pattern
