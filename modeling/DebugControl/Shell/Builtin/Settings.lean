import DebugControl.Shell.Builtin.Variables
import DebugControl.Shell.Options

/-!
# Commands on parameters and options

`set` changes the options and the parameters of the shell or shows its variables, and `shift` drops
parameters. `umask`, `ulimit` and `times` keep what a process would be told by the system.
-/

namespace DebugControl.Shell.Builtin

open Machine (Task)

def noControl : List Char := "can't access tty; job control turned off".toList

def withParameters (parameters : Words) (e : Environment) : Environment :=
  { e with parameters, cursor := .start }

def set (words : Words) (w : Ways) (e : Environment) : Task :=
  if words.isEmpty then
    w.print (variableLines [] (e.bindings.filter fun v => v.2.value.isSome)) e
  else
    let o := OptionWords.read false words.length (.start e.options e.namedOptions words)
    let e := { e with
      options := o.letters.filter (· ≠ 'm'), namedOptions := o.names }
    let e := if o.mistake.isSome ∨ (o.rest.isEmpty ∧ !o.isEnded) then e else withParameters o.rest e
    let ended (e : Environment) : Task :=
      match o.mistake with
      | some m => w.fail m e
      | none => w.print o.shown e
    if o.letters.contains 'm' then complain noControl ended e else ended e

def shift (words : Words) (w : Ways) (e : Environment) : Task :=
  let word := words.headD ['1']
  match number? word with
  | none => w.fail (illegalNumber word) e
  | some n =>
    if e.parameters.length < n then w.failWith "can't shift that many" e
    else w.finish 0 (withParameters (e.parameters.drop n) e)

/-! ## The mask of permissions -/

def octal (n : Nat) : List Char :=
  let digits := Nat.toDigits 8 n
  List.replicate (4 - digits.length) '0' ++ digits

def permissionText (bits : Nat) : String :=
  (if bits.testBit 2 then "r" else "") ++ (if bits.testBit 1 then "w" else "") ++
    (if bits.testBit 0 then "x" else "")

def maskText (mask : Nat) : String :=
  let left (shift : Nat) : String := permissionText (7 - mask / shift % 8)
  s!"u={left 64},g={left 8},o={left 1}\n"

/-- The bits of the users that letters name; without letters all are meant. -/
def userBits (letters : List Char) : Nat :=
  let bits (c : Char) : Nat :=
    match c with
    | 'u' => 448
    | 'g' => 56
    | 'o' => 7
    | _ => 511
  if letters.isEmpty then 511 else letters.foldl (fun n c => n ||| bits c) 0

def permissionBits (permissions : Nat) (letters : List Char) : Nat :=
  let copied (shift : Nat) : Nat := permissions / shift % 8 * 73
  let bits (c : Char) : Nat :=
    match c with
    | 'r' => 292
    | 'w' => 146
    | 'x' => 73
    | 'X' => if permissions &&& 73 = 0 then 0 else 73
    | 'u' => copied 64
    | 'g' => copied 8
    | 'o' => copied 1
    | _ => 0
  letters.foldl (fun n c => n ||| bits c) 0

/-- Carries out the changes of permissions behind the letters of users. -/
def changePermissions (users : Nat) : Nat → List Char → Nat → Option Nat
  | 0, _, permissions => some permissions
  | _, [], permissions => some permissions
  | fuel + 1, op :: rest, permissions =>
    let letters := rest.takeWhile fun c => !"+-=".toList.contains c
    let bits := permissionBits permissions letters &&& users
    if letters.all "rwxXsugo".toList.contains then
      match op with
      | '+' => changePermissions users fuel (rest.drop letters.length) (permissions ||| bits)
      | '-' => changePermissions users fuel (rest.drop letters.length)
          (permissions - (permissions &&& bits))
      | '=' => changePermissions users fuel (rest.drop letters.length)
          (permissions - (permissions &&& users) + bits)
      | _ => none
    else none

/-- Carries out clauses with letters, of which the last may be empty. -/
def changeClauses : List (List Char) → Nat → Option Nat
  | [], permissions => some permissions
  | [[]], permissions => some permissions
  | clause :: rest, permissions => do
    let users := clause.takeWhile "ugoa".toList.contains
    let changes := clause.drop users.length
    let permissions ← if clause.isEmpty then none
      else changePermissions (userBits users) (changes.length + 1) changes permissions
    changeClauses rest permissions

def clauses (word : List Char) : List (List Char) :=
  word.foldr (fun c clauses => match clauses with
    | [] => [[c]]
    | clause :: rest => if c = ',' then [] :: clause :: rest else (c :: clause) :: rest) [[]]

def maskOf (mask : Nat) (word : List Char) : Except (List Char) Nat :=
  if word.head?.any Char.isDigit then
    if word.all Arithmetic.isOctalDigit then .ok ((Arithmetic.valueOf 8 word).toNat % 512)
    else .error (illegalNumber word)
  else
    match changeClauses (clauses word) (511 - mask) with
    | some permissions => .ok (511 - permissions)
    | none => .error ("Illegal mode: ".toList ++ word)

def umask (words : Words) (w : Ways) (e : Environment) : Task :=
  match Letters.read ⟨['S'], []⟩ words with
  | .error m => w.fail m e
  | .ok o =>
    match o.words with
    | [] => w.print (if o.has 'S' then (maskText e.mask).toList else octal e.mask ++ ['\n']) e
    | word :: _ =>
      match maskOf e.mask word with
      | .ok mask => w.finish 0 { e with mask }
      | .error m => w.fail m e

/-! ## Limits and times -/

/-- What is limited: a letter, what it is called, and the unit. -/
def limitNames : List (Char × String) :=
  [('t', "time(seconds)"), ('f', "file(blocks)"), ('d', "data(kbytes)"), ('s', "stack(kbytes)"),
    ('c', "coredump(blocks)"), ('m', "memory(kbytes)"), ('l', "locked memory(kbytes)"),
    ('p', "process"), ('n', "nofiles"), ('v', "vmemory(kbytes)"), ('w', "locks"), ('r', "rtprio")]

def firstLimits : List (Char × String) :=
  [('s', "8192"), ('n', "1048576"), ('r', "0")]

def limitText (e : Environment) (letter : Char) : List Char :=
  (e.limits.lookup letter).getD
    (((firstLimits.lookup letter).getD "unlimited").toList)

def ulimit (words : Words) (w : Ways) (e : Environment) : Task :=
  match Letters.read ⟨'H' :: 'S' :: 'a' :: limitNames.map Prod.fst, []⟩ words with
  | .error m => w.fail m e
  | .ok o =>
    let asked := o.options.map Prod.fst
    let letter := ((asked.filter fun c => c ≠ 'H' ∧ c ≠ 'S').getLast?).getD 'f'
    let all := asked.contains 'a'
    match o.words with
    | [] =>
      if all then
        w.print (limitNames.flatMap fun l =>
          l.2.toList ++ List.replicate (20 - l.2.length) ' ' ++ ' ' :: limitText e l.1 ++ ['\n']) e
      else w.print (limitText e letter ++ ['\n']) e
    | value :: more =>
      if all ∨ !more.isEmpty then w.failWith "too many arguments" e
      else if value ≠ "unlimited".toList ∧ !isNumber value then w.failWith "bad number" e
      else
        let value := if isNumber value then decimal (natOf value) else value
        w.finish 0 { e with limits := (letter, value) :: e.limits }

def times (_ : Words) (w : Ways) (e : Environment) : Task :=
  let line := "0m0.000000s 0m0.000000s\n".toList
  w.print (line ++ line) e

end DebugControl.Shell.Builtin
