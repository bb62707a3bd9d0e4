import DebugControl.Utility.Basic

/-!
# Concatenating files

`cat` copies its input or files to its output. On request it numbers lines, drops repeated empty
ones, and shows what is not printed.
-/

namespace DebugControl.Utility.Cat

open Machine (Endpoint Task openThen)

structure Manner where
  number : Bool
  numberNonblank : Bool
  squeeze : Bool
  showEnds : Bool
  showTabs : Bool
  showUnprinted : Bool

def flags : List Flag :=
  [⟨some 'b', some "number-nonblank"⟩, ⟨some 'n', some "number"⟩, ⟨some 's', some "squeeze-blank"⟩,
    ⟨some 'v', some "show-nonprinting"⟩, ⟨some 'E', some "show-ends"⟩,
    ⟨some 'T', some "show-tabs"⟩, ⟨some 'A', some "show-all"⟩, ⟨some 'e', none⟩, ⟨some 't', none⟩,
    ⟨some 'u', none⟩] ++ commonFlags

def Manner.ofFlags (names : List String) : Manner :=
  let all := names.contains "show-all"
  let has (n : String) (short : String) : Bool := all || names.contains n || names.contains short
  ⟨names.contains "number", names.contains "number-nonblank", names.contains "squeeze-blank",
    has "show-ends" "e", has "show-tabs" "t",
    has "show-nonprinting" "e" || names.contains "t"⟩

/-- Where the copying stands: the number of the last line, whether a line begins, how many empty
lines have just passed, and whether a carriage return is held back. -/
structure State where
  line : Nat
  lineStart : Bool
  emptyLines : Nat
  held : Bool

def State.start : State := ⟨0, true, 0, false⟩

def showLow (c : Char) : List Char :=
  if c < ' ' then ['^', Char.ofNat (c.toNat + 64)] else if c = '\x7f' then ['^', '?'] else [c]

def showChar (m : Manner) (c : Char) : List Char :=
  if c = '\t' then if m.showTabs then ['^', 'I'] else [c]
  else if !m.showUnprinted then [c]
  else if c < '\u0080' then showLow c
  else 'M' :: '-' :: showLow (Char.ofNat (c.toNat - 128))

def numeral (n : Nat) : List Char :=
  let digits := Nat.toDigits 10 n
  List.replicate (6 - digits.length) ' ' ++ digits ++ ['\t']

def beginLine (m : Manner) (empty : Bool) (s : State) : List Char × State :=
  let counts := if m.numberNonblank then !empty else m.number
  if s.lineStart ∧ counts then
    (numeral (s.line + 1), { s with line := s.line + 1, lineStart := false })
  else ([], { s with lineStart := false })

def copyChar (m : Manner) (s : State) (c : Char) : List Char × State :=
  if c = '\n' then
    let empty := s.lineStart
    if empty ∧ m.squeeze ∧ 0 < s.emptyLines then ([], s)
    else
      let (front, s) := beginLine m empty s
      (front ++ (if m.showEnds then ['$'] else []) ++ [c],
        { s with lineStart := true, emptyLines := if empty then s.emptyLines + 1 else 0 })
  else
    let (front, s) := beginLine m false s
    (front ++ showChar m c, { s with emptyLines := 0 })

/-- Copies one character; a carriage return waits for the next one where line ends are shown. -/
def step (m : Manner) (s : State) (c : Char) : List Char × State :=
  let holds := m.showEnds && !m.showUnprinted
  let (front, s) :=
    if !s.held then ([], s)
    else if c = '\n' then
      let (front, s) := beginLine m false { s with held := false }
      (front ++ ['^', 'M'], { s with emptyLines := 0 })
    else copyChar m { s with held := false } '\r'
  if holds ∧ c = '\r' then (front, { s with held := true })
  else
    let (text, s) := copyChar m s c
    (front ++ text, s)

def copy (m : Manner) (s : State) (text : List Char) : List Char × State :=
  let (pieces, s) := text.foldl (fun (pieces, s) c =>
    let (piece, s) := step m s c
    (piece :: pieces, s)) ([], s)
  (pieces.reverse.flatten, s)

def patience : Nat := 1000000000

def copyFrom (start : Start) (m : Manner) (name : List Char) (source : Endpoint)
    (next : Bool → State → Task) : Nat → State → Task
  | 0, _ => .exit 1
  | n + 1, s => .readSome source fun result =>
    match result with
    | .error f =>
      start.complain (Quote.shell true name ++ ':' :: ' ' :: f.reason.toList) fun _ => next false s
    | .ok [] => next true s
    | .ok bytes =>
      let (text, s) := copy m s (Octets.decode bytes)
      start.print text fun _ => copyFrom start m name source next n s

/-- Whether a source is the file that is written, and not read to its end. -/
def isOutput (start : Start) (fs : Files) (source : Endpoint) : Bool :=
  match source, start.descriptors.lookup 1 with
  | .file number place, some (.file _ target) =>
    place == target && (fs.opened.lookup number).any fun f =>
      f.position < (fs.content place).length
  | _, _ => false

def openNamed (start : Start) (name : List Char) (next : Except Fault Endpoint → Task) : Task :=
  if name = ['-'] then
    next (match start.descriptors.lookup 0 with
      | some e => .ok e
      | none => .error .badDescriptor)
  else openThen start.descriptors start.place (Octets.encode name) .input next

def copyAll (start : Start) (m : Manner) : Bool → State → List (List Char) → Task
  | ok, s, [] =>
    start.print (if s.held then ['\r'] else []) fun _ => .exit (if ok then 0 else 1)
  | ok, s, name :: rest =>
    openNamed start name fun result =>
      match result with
      | .error f =>
        start.complain (Quote.shell true name ++ ':' :: ' ' :: f.reason.toList) fun _ =>
          copyAll start m false s rest
      | .ok source => .look fun fs =>
        if isOutput start fs source then
          start.complain (Quote.shell true name ++ ": input file is output file".toList) fun _ =>
            copyAll start m false s rest
        else
          copyFrom start m name source (fun fine s => copyAll start m (ok && fine) s rest) patience s

def task (start : Start) : Task :=
  match readFlags flags start.args with
  | .error text => start.refuse text
  | .ok (names, operands) =>
    let operands := if operands.isEmpty then [['-']] else operands
    if (start.descriptors.lookup 1).isNone then
      start.complain "standard output: Bad file descriptor".toList fun _ => .exit 1
    else if operands.contains ['-'] ∧ (start.descriptors.lookup 0).isNone then
      start.complain "-: Bad file descriptor".toList fun _ =>
        start.complain "closing standard input: Bad file descriptor".toList fun _ => .exit 1
    else copyAll start (.ofFlags names) true .start operands

end DebugControl.Utility.Cat
