import DebugControl.Shell.Environment

/-!
# Options of built-in commands

The words of a built-in command may begin with options, which are letters behind a hyphen. Some
letters take a value: the rest of their word or the next word.
-/

namespace DebugControl.Shell

structure Letters where
  plain : List Char
  valued : List Char
deriving Repr, DecidableEq

/-- The options in front of some words, and the other words. -/
structure Operands where
  options : List (Char × List Char)
  words : Words
deriving Repr, DecidableEq

namespace Operands

def has (o : Operands) (letter : Char) : Bool := o.options.any (·.1 = letter)

end Operands

namespace Letters

def none : Letters := ⟨[], []⟩

def readWord (l : Letters) : List Char → Words → Except (List Char) Operands
  | [], rest => .ok ⟨[], rest⟩
  | c :: more, rest =>
    if l.plain.contains c then do
      let o ← l.readWord more rest
      pure { o with options := (c, []) :: o.options }
    else if !l.valued.contains c then .error (s!"Illegal option -{c}").toList
    else
      match more, rest with
      | [], [] => .error (s!"No arg for -{c} option").toList
      | [], value :: rest => .ok ⟨[(c, value)], rest⟩
      | value, rest => .ok ⟨[(c, value)], rest⟩

def readWords (l : Letters) : Nat → Words → Except (List Char) Operands
  | 0, words => .ok ⟨[], words⟩
  | n + 1, words =>
    match words with
    | ['-', '-'] :: rest => .ok ⟨[], rest⟩
    | ('-' :: c :: more) :: rest => do
      let first ← l.readWord (c :: more) rest
      let others ← l.readWords n first.words
      pure { others with options := first.options ++ others.options }
    | words => .ok ⟨[], words⟩

def read (l : Letters) (words : Words) : Except (List Char) Operands :=
  l.readWords words.length words

end Letters

end DebugControl.Shell
