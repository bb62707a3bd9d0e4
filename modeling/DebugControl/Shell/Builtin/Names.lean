import DebugControl.Shell.Lookup
import DebugControl.Shell.Operand

/-!
# Commands on names

`type` and `command` say what a command word stands for, `hash` shows and changes which programs are
remembered, and `alias` and `unalias` keep the words that stand for others.
-/

namespace DebugControl.Shell.Builtin

open Machine (Task)

/-! ## Aliases -/

/-- The place of a name in a table of so many rows, by which names are shown in order. -/
def row (rows : Nat) (name : Name) : Nat :=
  ((name.head?.map Char.toNat).getD 0 * 16 + (name.map Char.toNat).foldl (· + ·) 0) % rows

def inRows {α : Type} (rows : Nat) (named : List (Name × α)) : List (Name × α) :=
  named.mergeSort fun a b => row rows a.1 ≤ row rows b.1

def aliasRows : Nat := 39

def programRows : Nat := 31

def aliasLine (a : Name × List Char) : List Char := a.1 ++ '=' :: singleQuoted a.2 ++ ['\n']

def setAlias (name : Name) (value : List Char) (e : Environment) : Environment :=
  if (e.aliases.lookup name).isSome then
    { e with aliases := e.aliases.map fun a => if a.1 = name then (name, value) else a }
  else { e with aliases := e.aliases ++ [(name, value)] }

/-- The name and the value in an operand; the name has at least one character. -/
def aliasOperand (word : List Char) : Name × Option (List Char) :=
  let name := word.take 1 ++ (word.drop 1).takeWhile (· != '=')
  match word.drop name.length with
  | _ :: value => (name, some value)
  | [] => (name, none)

def aliasAll (w : Ways) (shown : List Char) (status : Nat) : Words → After
  | [], e => output shown status w.done e
  | word :: rest, e =>
    match aliasOperand word with
    | (name, some value) => aliasAll w shown status rest (setAlias name value e)
    | (name, none) =>
      match e.aliases.lookup name with
      | some value => aliasAll w (shown ++ aliasLine (name, value)) status rest e
      | none =>
        remark ("alias: ".toList ++ name ++ " not found\n".toList) (aliasAll w shown 1 rest) e

def makeAlias (words : Words) (w : Ways) (e : Environment) : Task :=
  if words.isEmpty then w.print ((inRows aliasRows e.aliases).flatMap aliasLine) e
  else aliasAll w [] 0 words e

def unaliasAll (w : Ways) (status : Nat) : Words → After
  | [], e => w.finish status e
  | name :: rest, e =>
    if (e.aliases.lookup name).isSome then
      unaliasAll w status rest { e with aliases := e.aliases.filter (·.1 ≠ name) }
    else remark ("unalias: ".toList ++ name ++ " not found\n".toList) (unaliasAll w 1 rest) e

def unalias (words : Words) (w : Ways) (e : Environment) : Task :=
  match Letters.read ⟨['a'], []⟩ words with
  | .error m => w.fail m e
  | .ok o =>
    if o.has 'a' then w.finish 0 { e with aliases := [] } else unaliasAll w 0 o.words e

/-! ## What a word stands for -/

inductive Meaning where
  | keyword
  | alias (value : List Char)
  | function
  | builtin (isSpecial : Bool)
  | program (path : List Char) (isRemembered : Bool)
  | nothing

def meaning (fs : Files) (standard : Bool) (name : Name) (e : Environment) : Meaning :=
  if keywords.contains (String.ofList name) then .keyword
  else
    match e.aliases.lookup name with
    | some value => .alias value
    | none =>
      if !standard ∧ (e.functions.lookup name).isSome then .function
      else if name.contains '/' then
        if (fs.stat e.place (Octets.encode name)).isOk then .program name false else .nothing
      else if isBuiltin name then .builtin (isSpecialCommand name)
      else
        match locate fs standard name e with
        | .ok path => .program path (!standard && (e.found.lookup name).isSome)
        | .error _ => .nothing

def describe (name : Name) : Meaning → List Char × Nat
  | .keyword => (name ++ " is a shell keyword\n".toList, 0)
  | .alias value => (name ++ " is an alias for ".toList ++ value ++ ['\n'], 0)
  | .function => (name ++ " is a shell function\n".toList, 0)
  | .builtin true => (name ++ " is a special shell builtin\n".toList, 0)
  | .builtin false => (name ++ " is a shell builtin\n".toList, 0)
  | .program path true => (name ++ " is a tracked alias for ".toList ++ path ++ ['\n'], 0)
  | .program path false => (name ++ " is ".toList ++ path ++ ['\n'], 0)
  | .nothing => (name ++ ": not found\n".toList, 127)

def nameBriefly (name : Name) : Meaning → List Char × Nat
  | .alias value => ("alias ".toList ++ aliasLine (name, value), 0)
  | .program path _ => (path ++ ['\n'], 0)
  | .nothing => ([], 127)
  | _ => (name ++ ['\n'], 0)

def noteMeaning (name : Name) (m : Meaning) (e : Environment) : Environment :=
  match m with
  | .program path _ => if name.contains '/' then e else remember name path e
  | _ => e

def describeEach (fs : Files) (w : Ways) (said : List Char) (status : Nat) : Words → After
  | [], e => output said status w.done e
  | name :: rest, e =>
    let m := meaning fs false name e
    let (text, code) := describe name m
    describeEach fs w (said ++ text) (status ||| code) rest (noteMeaning name m e)

def describeAll (words : Words) (w : Ways) (e : Environment) : Task :=
  .look fun fs => describeEach fs w [] 0 words e

/-- Says what the first operand of `command` stands for; without an option there is none. -/
def describeOne (words : Words) (w : Ways) (e : Environment) : Task :=
  match Letters.read ⟨['p', 'v', 'V'], []⟩ words with
  | .error m => w.fail m e
  | .ok o =>
    match o.words.head? with
    | some name =>
      if !o.has 'v' ∧ !o.has 'V' then w.finish 0 e
      else
        .look fun fs =>
          let m := meaning fs (o.has 'p') name e
          let (text, status) := if o.has 'V' then describe name m else nameBriefly name m
          output text status w.done (if o.has 'p' then e else noteMeaning name m e)
    | none => w.finish 0 e

/-! ## Remembered programs -/

def rememberAll (w : Ways) (status : Nat) : Words → After
  | [], e => w.finish status e
  | name :: rest, e =>
    if isBuiltin name ∨ (e.functions.lookup name).isSome ∨ name.contains '/' then
      rememberAll w status rest e
    else
      .look fun fs =>
        let e := { e with found := e.found.filter (·.1 ≠ name) }
        match locate fs false name e with
        | .ok path => rememberAll w status rest (remember name path e)
        | .error f => complain (startMessage name f) (rememberAll w 1 rest) e

def hash (words : Words) (w : Ways) (e : Environment) : Task :=
  match Letters.read ⟨['r'], []⟩ words with
  | .error m => w.fail m e
  | .ok o =>
    if o.has 'r' then w.finish 0 { e with found := [] }
    else if o.words.isEmpty then
      w.print ((inRows programRows e.found).flatMap fun p => p.2 ++ ['\n']) e
    else rememberAll w 0 o.words e

end DebugControl.Shell.Builtin
