import DebugControl.Shell.Message
import DebugControl.Shell.Operand

/-!
# Commands on variables

Declarations that export variables, protect them or make them local, `unset`, and the reading of
options among parameters. A declaration may assign to the variable that it names.
-/

namespace DebugControl.Shell.Builtin

open Machine (Task)

def splitOperand (word : List Char) : Name × Option (List Char) :=
  let name := word.takeWhile (· != '=')
  match word.drop name.length with
  | _ :: value => (name, some value)
  | [] => (name, none)

def variableLines (front : List Char) (bound : List (Name × Variable)) : List Char :=
  (bound.mergeSort fun a b => Octets.precedes a.1 b.1).flatMap fun v =>
    let value := match v.2.value with
      | some value => '=' :: singleQuoted value
      | none => []
    front ++ v.1 ++ value ++ ['\n']

def declare (mark : Variable → Variable) (word : List Char) (e : Environment) :
    Except (List Char) Environment := do
  let (name, value) := splitOperand word
  if !isName name then throw (name ++ ": bad variable name".toList)
  let e ← match value with
    | some value => e.assign name value
    | none => pure e
  pure (e.bind name (mark (e.binding name)))

def declareAll (mark : Variable → Variable) (w : Ways) : Words → After
  | [], e => w.finish 0 e
  | word :: rest, e =>
    match declare mark word e with
    | .ok e => declareAll mark w rest e
    | .error m => w.fail m e

/-- A declaration, which without operands shows what has been declared. -/
def declaration (name : List Char) (mark : Variable → Variable) (isMarked : Variable → Bool)
    (words : Words) (w : Ways) (e : Environment) : Task :=
  match Letters.read ⟨['p'], []⟩ words with
  | .error m => w.fail m e
  | .ok o =>
    if o.words.isEmpty ∨ !o.options.isEmpty then
      w.print (variableLines (name ++ [' ']) (e.bindings.filter fun v => isMarked v.2)) e
    else declareAll mark w o.words e

def exportNames : Words → Ways → After :=
  declaration "export".toList (fun v => { v with isExported := true }) (·.isExported)

def readonly : Words → Ways → After :=
  declaration "readonly".toList (fun v => { v with isReadOnly := true }) (·.isReadOnly)

def save (name : Name) (e : Environment) : Environment :=
  match e.frames with
  | [] => e
  | f :: rest =>
    let kept := (name, e.bindings.lookup name) :: f.bindings
    { e with frames := { f with bindings := kept } :: rest }

def saveOptions (e : Environment) : Environment :=
  match e.frames with
  | [] => e
  | f :: rest =>
    let options := f.options <|> some (e.options, e.namedOptions)
    { e with frames := { f with options } :: rest }

/-- Makes variables local one after the other; a hyphen stands for the options. -/
def localizeAll (w : Ways) : Words → After
  | [], e => w.finish 0 e
  | ['-'] :: rest, e => localizeAll w rest (saveOptions e)
  | word :: rest, e =>
    let name := (splitOperand word).1
    match declare (fun v => v) word (save name e) with
    | .ok e => localizeAll w rest e
    | .error m => w.fail m e

def makeLocal (words : Words) (w : Ways) (e : Environment) : Task :=
  if e.frames.isEmpty then w.failWith "not in a function" e else localizeAll w words e

def unsetAll (functions : Bool) (w : Ways) : Words → After
  | [], e => w.finish 0 e
  | name :: rest, e =>
    if functions then
      unsetAll functions w rest { e with functions := e.functions.filter (·.1 ≠ name) }
    else
      match e.unset name with
      | .ok e => unsetAll functions w rest e
      | .error m => w.fail m e

def unset (words : Words) (w : Ways) (e : Environment) : Task :=
  match Letters.read ⟨['v', 'f'], []⟩ words with
  | .error m => w.fail m e
  | .ok o => unsetAll (o.options.getLast?.any (·.1 = 'f')) w o.words e

/-! ## Options among parameters -/

structure FoundOption where
  /-- The letter, a question mark, or a colon for a value that is missing. -/
  letter : Char
  /-- The value that is assigned; without one the variable for it is unset. -/
  value : Option (List Char)
  complaint : Option (List Char)
  cursor : OptionCursor
  isDone : Bool

def specification? : List Char → Char → Option Bool
  | [], _ => none
  | c :: ':' :: rest, letter => if c = letter then some true else specification? rest letter
  | c :: rest, letter => if c = letter then some false else specification? rest letter

def readOptionAt (known : List Char) (words : Words) (next : Nat) (letter : Char)
    (behind : List Char) (offset : Nat) : FoundOption :=
  let quiet := known.head? == some ':'
  let here : OptionCursor := ⟨next, some (offset + 1)⟩
  match specification? known letter with
  | none =>
    if quiet then ⟨'?', some [letter], none, here, false⟩
    else ⟨'?', none, some (s!"Illegal option -{letter}\n").toList, here, false⟩
  | some false => ⟨letter, some [], none, here, false⟩
  | some true =>
    match behind, words[next - 1]? with
    | [], none =>
      if quiet then ⟨':', some [letter], none, here, false⟩
      else ⟨'?', none, some (s!"No arg for -{letter} option\n").toList, here, false⟩
    | [], some value => ⟨letter, some value, none, ⟨next + 1, none⟩, false⟩
    | value, _ => ⟨letter, some value, none, ⟨next, none⟩, false⟩

def readOption (known : List Char) (words : Words) (cursor : OptionCursor) :
    FoundOption :=
  let inWord : Option (List Char × Nat) := do
    let offset ← cursor.letter
    let word ← if cursor.word ≤ 1 then none else words[cursor.word - 2]?
    if offset < word.length then some (word.drop offset, offset) else none
  let finished (next : Nat) : FoundOption := ⟨'?', none, none, ⟨next, none⟩, true⟩
  match inWord with
  | some (letter :: behind, offset) =>
    readOptionAt known words cursor.word letter behind offset
  | _ =>
    match words[cursor.word - 1]? with
    | some ['-', '-'] => finished (cursor.word + 1)
    | some ('-' :: letter :: behind) =>
      readOptionAt known words (cursor.word + 1) letter behind 1
    | _ => finished cursor.word

def recordOption (name : Name) (o : FoundOption) (e : Environment) :
    Except (List Char) Environment := do
  let holder := "OPTARG".toList
  let e ← match o.isDone, o.value with
    | true, _ => pure e
    | false, some value => e.assign holder value
    | false, none => e.unset holder
  let index := "OPTIND".toList
  let e := e.bind index { e.binding index with value := some (decimal o.cursor.word) }
  let e ← e.assign name [o.letter]
  pure { e with cursor := o.cursor }

def getopts (words : Words) (w : Ways) (e : Environment) : Task :=
  match Letters.none.read words with
  | .error m => w.fail m e
  | .ok ⟨_, known :: name :: operands⟩ =>
    let words := if operands.isEmpty then e.parameters else operands
    let cursor := if words.length + 1 < e.cursor.word then .start else e.cursor
    let o := readOption known words cursor
    remark (o.complaint.getD []) (fun e =>
      match recordOption name o e with
      | .ok e => w.finish (if o.isDone then 1 else 0) e
      | .error m => w.fail m e) e
  | .ok _ => w.failWith "Usage: getopts optstring var [arg...]" e

end DebugControl.Shell.Builtin
