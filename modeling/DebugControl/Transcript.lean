import DebugControl.Sink
import DebugControl.Text.Numeral

/-!
# Transcripts

A transcript records the program that was started and, for each step, the reply or the error. Its
text is one object with an indentation of two; an empty reply and an absent error are left out.
-/

namespace DebugControl

structure Entry where
  step : String
  reply : List Line
  error : Option String
deriving Repr, DecidableEq

structure Transcript where
  program : String
  args : List String
  entries : List Entry
deriving Repr, DecidableEq

namespace Transcript

def quoteChar (c : Char) : List Char :=
  if c = '"' then ['\\', '"']
  else if c = '\\' then ['\\', '\\']
  else if c = '\n' then ['\\', 'n']
  else if c = '\r' then ['\\', 'r']
  else if c = '\t' then ['\\', 't']
  else if c = '\x08' then ['\\', 'b']
  else if c = '\x0c' then ['\\', 'f']
  else if c.toNat < 0x20 then
    ['\\', 'u', '0', '0', Numeral.hexDigit false (c.toNat / 16),
      Numeral.hexDigit false (c.toNat % 16)]
  else [c]

def quote (text : List Char) : List Char := '"' :: text.flatMap quoteChar ++ ['"']

/-- Items between brackets, each on a line of its own that is indented so far. -/
def block (opening closing : Char) (indent : Nat) (items : List (List Char)) : List Char :=
  match items with
  | [] => [opening, closing]
  | items =>
    let line (item : List Char) : List Char := '\n' :: List.replicate (indent + 2) ' ' ++ item
    opening :: List.intercalate [','] (items.map line) ++
      '\n' :: List.replicate indent ' ' ++ [closing]

def field (name : String) (value : List Char) : List Char :=
  quote name.toList ++ [':', ' '] ++ value

def texts (indent : Nat) (items : List (List Char)) : List Char :=
  block '[' ']' indent (items.map quote)

def entryText (indent : Nat) (e : Entry) : List Char :=
  let reply := if e.reply = [] then [] else [field "reply" (texts (indent + 2) e.reply)]
  let error := match e.error with
    | none => []
    | some m => [field "error" (quote m.toList)]
  block '\x7b' '\x7d' indent (field "step" (quote e.step.toList) :: reply ++ error)

def text (t : Transcript) : List Char :=
  block '\x7b' '\x7d' 0
    [field "program" (quote t.program.toList),
      field "args" (texts 2 (t.args.map String.toList)),
      field "entries" (block '[' ']' 2 (t.entries.map (entryText 4)))]

end Transcript

end DebugControl
