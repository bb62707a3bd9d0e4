/-!
# Values and tables

A document is a table: keys with values. A table remembers where it came from, because that decides
what may still be added to it: a table with a header of its own takes no dotted keys, one that the
path of a header or a dotted key brought about may grow, and an inline table is closed. `atPath`
changes the table that a path of keys leads to.
-/

namespace DebugControl.Toml

abbrev Key := List Char

inductive Origin where
  | header
  /-- Named only inside the path of a longer header. -/
  | path
  | dotted
  | inline
deriving Repr, DecidableEq

inductive Value where
  | text (content : List Char)
  | integer (n : Int)
  | float
  | boolean (b : Bool)
  | moment
  | array (items : List Value)
  | table (origin : Origin) (entries : List (Key × Value))
  /-- The tables under one array header, the latest apart and the others latest first. -/
  | tables (latest : List (Key × Value)) (earlier : List Value)

abbrev Entries := List (Key × Value)

namespace Entries

def replace (entries : Entries) (key : Key) (value : Value) : Entries :=
  entries.map fun e => if e.1 = key then (key, value) else e

/-- Changes the table at the end of a path, and creates those on the way that are missing. The
change sees the origin of the table; `origin` is that of the table the path starts from. -/
def atPath (dotted : Bool) (change : Origin → Entries → Option Entries) :
    List Key → Origin → Entries → Option Entries
  | [], origin, entries => change origin entries
  | key :: path, _, entries =>
    match entries.lookup key with
    | none => do
      let created := if dotted then Origin.dotted else Origin.path
      let inner ← atPath dotted change path created []
      pure (entries ++ [(key, .table created inner)])
    | some (.table origin inner) =>
      if origin = .inline ∨ (dotted ∧ origin = .header) then none
      else do
        let inner ← atPath dotted change path origin inner
        pure (entries.replace key (.table origin inner))
    | some (.tables latest earlier) => do
      let latest ← atPath dotted change path .header latest
      pure (entries.replace key (.tables latest earlier))
    | some _ => none

def add (entries : Entries) (key : Key) (value : Value) : Option Entries :=
  match entries.lookup key with
  | none => some (entries ++ [(key, value)])
  | some _ => none

/-- Gives a value to a dotted key; the table that its path leads to must come from dotted keys. -/
def assign (entries : Entries) (path : List Key) (key : Key) (value : Value) : Option Entries :=
  atPath true
    (fun origin entries =>
      if path ≠ [] ∧ origin ≠ .dotted then none else entries.add key value)
    path .header entries

/-- The table of a header: a new one, or one that only paths have named. -/
def openTable (entries : Entries) (key : Key) : Option Entries :=
  match entries.lookup key with
  | none => some (entries ++ [(key, .table .header [])])
  | some (.table .path inner) => some (entries.replace key (.table .header inner))
  | some _ => none

def openArrayTable (entries : Entries) (key : Key) : Option Entries :=
  match entries.lookup key with
  | none => some (entries ++ [(key, .tables [] [])])
  | some (.tables latest earlier) =>
    some (entries.replace key (.tables [] (.table .header latest :: earlier)))
  | some _ => none

end Entries

end DebugControl.Toml
