import DebugControl.Utility.Echo

/-!
# Formatting words

The program `printf`. It writes as far as it comes; a complaint about an argument stands between the
texts before and behind it, and a wrong format ends it.
-/

namespace DebugControl.Utility.Printf

open Machine (Task)
open Shell (Fraction.read?)
open Shell.Arithmetic (isHexDigit isOctalDigit least greatest valueOf)
open Shell.Format (Layout letterEscape? octet pad padText signed sizeLimit unsigned)

inductive Piece where
  | text (t : List Char)
  | complaint (t : List Char)

/-- What formatting produces: pieces, the arguments that are left, and whether it is to end, with
which code. -/
structure Output where
  pieces : List Piece
  args : List (List Char)
  stop : Option Nat

def Output.prepend (pieces : List Piece) (o : Output) : Output :=
  { o with pieces := pieces ++ o.pieces }

def unicode (digits : Nat) (n : Nat) : List Char :=
  if n < 128 then [Char.ofNat n]
  else
    let text := (Nat.toDigits 16 n).map Char.toUpper
    '\\' :: (if digits = 4 then 'u' else 'U') :: List.replicate (digits - text.length) '0' ++ text

/-- Reads an escape behind its backslash: its text, or that it ends all output, or a complaint. A
zero in front of an octal number counts on request. -/
def escape (zero : Bool) (s : List Char) : Except (Option (List Char)) (List Char × List Char) :=
  let hexadecimal (digits : Nat) (rest : List Char) :
      Except (Option (List Char)) (Nat × List Char) :=
    let ds := (rest.take digits).takeWhile isHexDigit
    if ds.isEmpty then .error (some "missing hexadecimal number in escape".toList)
    else .ok ((valueOf 16 ds).toNat, rest.drop ds.length)
  match s with
  | [] => .ok (['\\'], [])
  | 'c' :: _ => .error none
  | 'x' :: rest => do
    let (n, rest) ← hexadecimal 2 rest
    pure ([octet n], rest)
  | 'u' :: rest => do
    let (n, rest) ← hexadecimal 4 rest
    pure (unicode 4 n, rest)
  | 'U' :: rest => do
    let (n, rest) ← hexadecimal 8 rest
    pure (unicode 8 n, rest)
  | '"' :: rest => .ok (['"'], rest)
  | c :: rest =>
    if isOctalDigit c then
      let ds := ((if c = '0' ∧ zero then rest else c :: rest).take 3).takeWhile isOctalDigit
      .ok ([octet (valueOf 8 ds).toNat],
        (if c = '0' ∧ zero then rest else c :: rest).drop ds.length)
    else
      match letterEscape? c with
      | some e => .ok ([e], rest)
      | none => .ok (['\\', c], rest)

def unescape : Nat → List Char → Output
  | 0, _ => ⟨[], [], none⟩
  | _, [] => ⟨[], [], none⟩
  | fuel + 1, '\\' :: rest =>
    match escape true rest with
    | .ok (text, rest) => (unescape fuel rest).prepend [.text text]
    | .error none => ⟨[], [], some 0⟩
    | .error (some message) => ⟨[.complaint message], [], some 1⟩
  | fuel + 1, c :: rest => (unescape fuel rest).prepend [.text [c]]

def complaints (arg rest : List Char) (outOfRange : Bool) : List Piece :=
  let about (reason : String) : List Piece :=
    [.complaint (Quote.message arg ++ (s!": {reason}").toList)]
  if outOfRange then about "Numerical result out of range"
  else if rest.isEmpty then []
  else if rest = arg then about "expected a numeric value"
  else about "value not completely converted"

def code (rest : List Char) : Nat × List Piece :=
  match rest with
  | [] => (0, [])
  | c :: more =>
    (c.toNat, if more.isEmpty then [] else
      [.complaint ("warning: ".toList ++ more ++
        ": character(s) following character constant have been ignored".toList)])

/-- The whole number that an argument writes, given the bounds and what stands for a number below
them. -/
def whole (low high below : Int) (arg : List Char) : Int × List Piece :=
  let ofCode (rest : List Char) : Int × List Piece := ((code rest).1, (code rest).2)
  match arg with
  | [] => (0, [])
  | '\'' :: rest => ofCode rest
  | '"' :: rest => ofCode rest
  | _ =>
    match Shell.Arithmetic.signed? arg with
    | none => (0, complaints arg arg false)
    | some (n, rest) =>
      (if n < low then below else min n high, complaints arg rest (n < low || high < n))

def fraction (arg : List Char) : Shell.Fraction.Rounded × List Piece :=
  let ofCode (rest : List Char) : Shell.Fraction.Rounded × List Piece :=
    (.finite false (code rest).1 0, (code rest).2)
  match arg with
  | [] => (.finite false 0 0, [])
  | '\'' :: rest => ofCode rest
  | '"' :: rest => ofCode rest
  | _ =>
    match Fraction.read? arg with
    | none => (.finite false 0 0, complaints arg arg false)
    | some (exact, rest) =>
      let (n, outOfRange) := Shell.Fraction.Precision.extended.round exact
      (n, complaints arg rest outOfRange)

def flagKinds (flag : Char) : List Char :=
  match flag with
  | '#' => "oxXaAeEfFgG".toList
  | '0' => "diouxXaAeEfFgG".toList
  | '\'' => "diufFgG".toList
  | 'I' => "diufFgG".toList
  | _ => "diouxXaAeEfFgGcs".toList

/-- What has been read of a conversion: a number, what is said about the arguments that it took, the
text behind it, the arguments that are left, and why it goes no further. -/
structure Taken where
  number : Int
  pieces : List Piece
  rest : List Char
  args : List (List Char)
  mistake : Option (List Char)

def readNumber (what : String) (least : Int) (s : List Char) (args : List (List Char)) : Taken :=
  match s with
  | '*' :: rest =>
    let arg := args.headD []
    let (n, pieces) := whole Shell.Arithmetic.least greatest Shell.Arithmetic.least arg
    let isWrong : Bool := n < least || (sizeLimit : Int) ≤ n
    let mistake :=
      if isWrong then some ((s!"invalid {what}: ").toList ++ Quote.message arg) else none
    ⟨n, pieces, rest, args.drop 1, mistake⟩
  | _ =>
    let digits := s.takeWhile Char.isDigit
    ⟨valueOf 10 digits, [], s.drop digits.length, args, none⟩

def convert (l : Layout) (kind : Char) (arg : List Char) : List Piece :=
  let ofWhole (low high below : Int) (write : Int → List Char) : List Piece :=
    let (n, pieces) := whole low high below arg
    pieces ++ [.text (write n)]
  let ofSize (write : Int → List Char) : List Piece :=
    ofWhole (1 - UInt64.size) (UInt64.size - 1) (UInt64.size - 1) write
  match kind with
  | 's' => [.text (padText l arg)]
  | 'c' => [.text (pad l false [] [arg.headD (Char.ofNat 0)])]
  | 'd' | 'i' => ofWhole least greatest least (signed l)
  | 'u' => ofSize (unsigned l 10 false)
  | 'o' => ofSize (unsigned l 8 false)
  | 'x' => ofSize (unsigned l 16 false)
  | 'X' => ofSize (unsigned l 16 true)
  | _ =>
    let (n, pieces) := fraction arg
    let text := Shell.Format.fraction l .extended kind.toLower n
    pieces ++ [.text (if kind.isUpper then text.map Char.toUpper else text)]

def convertWithin (l : Layout) (kind : Char) (arg : List Char) : List Piece :=
  if l.fits then convert l kind arg
  else
    let about := (convert .bare kind arg).filter fun
      | .complaint _ => true
      | .text _ => false
    about ++ [.complaint "write error".toList]

def directive (s : List Char) (args : List (List Char))
    (next : List Char → List (List Char) → Output) : Output :=
  let marks := s.takeWhile fun c => "-+ #0'I".toList.contains c
  let (l, _) := Shell.Format.readFlags .bare (marks.filter fun c => c ≠ '\'' ∧ c ≠ 'I')
  let w := readNumber "field width" (-sizeLimit) (s.drop marks.length) args
  let l := { l with width := w.number.natAbs, left := l.left || w.number < 0 }
  let p : Taken := match w.rest with
    | '.' :: rest => readNumber "precision" least rest w.args
    | rest => ⟨-1, [], rest, w.args, none⟩
  let l := { l with precision := if p.number < 0 then none else some p.number.toNat }
  let behind := p.rest.dropWhile fun c => "lLhjtz".toList.contains c
  let ended (pieces : List Piece) (message : List Char) : Output :=
    ⟨pieces ++ [.complaint message], p.args, some 1⟩
  let wrong : Output :=
    let shown := '%' :: s.take (s.length - (behind.drop 1).length)
    ended (w.pieces ++ p.pieces) (shown ++ ": invalid conversion specification".toList)
  match w.mistake, p.mistake, behind with
  | some message, _, _ => ended w.pieces message
  | _, some message, _ => ended (w.pieces ++ p.pieces) message
  | _, _, [] => wrong
  | _, _, kind :: behind =>
    let noFlags := ' '
    if !(flagKinds noFlags).contains kind ∨ marks.any (fun f => !(flagKinds f).contains kind) then
      wrong
    else if kind = 'c' ∧ w.rest.head? = some '.' then wrong
    else
      (next behind (p.args.drop 1)).prepend
        (w.pieces ++ p.pieces ++ convertWithin l kind (p.args.headD []))

def once : Nat → List Char → List (List Char) → Output
  | 0, _, args => ⟨[], args, none⟩
  | _, [], args => ⟨[], args, none⟩
  | fuel + 1, '\\' :: rest, args =>
    match escape false rest with
    | .ok (text, rest) => (once fuel rest args).prepend [.text text]
    | .error none => ⟨[], args, some 0⟩
    | .error (some message) => ⟨[.complaint message], args, some 1⟩
  | fuel + 1, '%' :: '%' :: rest, args => (once fuel rest args).prepend [.text ['%']]
  | fuel + 1, '%' :: 'b' :: rest, args =>
    let arg := args.headD []
    let o := unescape (arg.length + 1) arg
    match o.stop with
    | some code => ⟨o.pieces, args.drop 1, some code⟩
    | none => (once fuel rest (args.drop 1)).prepend o.pieces
  | fuel + 1, '%' :: 'q' :: rest, args =>
    let quoted := if args.isEmpty then [] else Quote.shell false (args.headD [])
    (once fuel rest (args.drop 1)).prepend [.text quoted]
  | fuel + 1, '%' :: rest, args => directive rest args (once fuel)
  | fuel + 1, c :: rest, args => (once fuel rest args).prepend [.text [c]]

/-- Uses a format until no argument is left, or until it takes none. -/
def repeatedly (format : List Char) : Nat → List (List Char) → Output
  | 0, args => ⟨[], args, none⟩
  | fuel + 1, args =>
    let o := once (format.length + 1) format args
    if o.stop.isSome ∨ o.args.isEmpty ∨ o.args.length = args.length then o
    else (repeatedly format fuel o.args).prepend o.pieces

def write (start : Start) : List Char → Bool → List Piece → (Bool → Task) → Task
  | waiting, bad, [], next => start.print waiting fun _ => next bad
  | waiting, bad, .text t :: rest, next => write start (waiting ++ t) bad rest next
  | waiting, bad, .complaint t :: rest, next =>
    let isWarning := "warning: ".toList.isPrefixOf t
    start.print waiting fun _ => start.complain t fun _ =>
      write start [] (bad || !isWarning) rest next

def task (start : Start) : Task :=
  let args := if start.args.head? = some ['-', '-'] then start.args.drop 1 else start.args
  match args with
  | [] => start.refuse "missing operand".toList
  | format :: args =>
    if args.isEmpty ∧ (format = "--help".toList ∨ format = "--version".toList) then .exit 0
    else
      let o := repeatedly format (args.length + 1) args
      write start [] false o.pieces fun bad =>
        match o.stop, o.args with
        | some code, _ => .exit code
        | none, [] => .exit (if bad then 1 else 0)
        | none, extra :: _ =>
          start.complain ("warning: ignoring excess arguments, starting with ".toList ++
            Quote.message extra) fun _ => .exit (if bad then 1 else 0)

end DebugControl.Utility.Printf
