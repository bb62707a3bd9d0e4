import DebugControl.Shell.Grammar

/-!
# The text of shell programs

What the reader of programs needs to know about characters: where words end, what is skipped between
them, which words are keywords, and how a redirection and the document behind it begin. What a
program may not contain is reported as a `Mistake` with the line on which it stands.
-/

namespace DebugControl.Shell

structure Mistake where
  line : Nat
  message : List Char
  /-- Whether only the end of the text is wrong. -/
  incomplete : Bool
  /-- The text from an unexpected word on. -/
  word : Option (List Char)

abbrev Reading (α : Type) := Except Mistake α

structure Scope where
  /-- The number of line ends up to the end of the text. -/
  ends : Nat
  aliases : List (Name × List Char)
  /-- Whether no more text can follow. -/
  isFinal : Bool
  /-- Whether the text is a document or a prompt, which no quotes enclose. -/
  isDocument : Bool

/-- Stands for the end of a line that has been taken out of the text. -/
def takenLine : Char := '\u2028'

/-- The number of line ends in a text, those of lines that have been taken out among them. -/
def lineEnds (s : List Char) : Nat := s.count '\n' + s.count takenLine

def isBlank (c : Char) : Bool := c == ' ' || c == '\t'

def isBreak (c : Char) : Bool := " \t\n;&|<>()".toList.contains c

def isSpecial (c : Char) : Bool := "?#@*$!-".toList.contains c || c.isDigit

def skipBlanks : List Char → List Char
  | '\\' :: '\n' :: rest => skipBlanks rest
  | '#' :: rest => rest.dropWhile (· != '\n')
  | c :: rest => if isBlank c || c == takenLine then skipBlanks rest else c :: rest
  | [] => []

def skipLines : Nat → List Char → List Char
  | 0, s => s
  | fuel + 1, s =>
    match skipBlanks s with
    | '\n' :: rest => skipLines fuel rest
    | s => s

def isQuoting (c : Char) : Bool := "'\"\\$\x60".toList.contains c

/-- The characters up to the next that ends a word, if none of them quotes or expands. -/
def plainWord (s : List Char) : List Char :=
  let word := s.takeWhile (!isBreak ·)
  if word.any isQuoting then [] else word

def closers : List String := ["then", "else", "elif", "fi", "do", "done", "esac", "\x7d"]

def openers : List String := ["if", "while", "until", "for", "case", "in", "!", "\x7b"]

def isKeyword (word : String) (s : List Char) : Bool := plainWord s == word.toList

def atListEnd (s : List Char) : Bool :=
  s.isEmpty || s.head? == some ')' || s.take 2 == [';', ';'] || closers.any (isKeyword · s)

def Scope.lineOf (scope : Scope) (rest : List Char) : Nat := scope.ends - lineEnds rest + 1

def describe (s : List Char) : String :=
  match s with
  | [] => "end of file"
  | '\n' :: _ => "newline"
  | '<' :: _ => "redirection"
  | '>' :: _ => "redirection"
  | _ =>
    match [";;", ";", "&&", "&", "||", "|", "(", ")"].find? fun op => op.toList.isPrefixOf s with
    | some op => s!"\"{op}\""
    | none => "word"

def describeKeyword (s : List Char) : String :=
  match (closers ++ openers).find? fun word => isKeyword word s with
  | some word => s!"\"{word}\""
  | none => describe s

def wrong (scope : Scope) (rest : List Char) (reason : String) : Mistake :=
  ⟨scope.lineOf rest, s!"Syntax error: {reason}".toList, rest.isEmpty, none⟩

/-- A mistake at the end of a text that is only a part of the program, in front of so many line
ends. -/
def Mistake.inPart (ends : Nat) (m : Mistake) : Mistake :=
  let m := { m with word := none }
  if m.incomplete then { m with line := m.line + ends, incomplete := false } else m

def unclosed (scope : Scope) (quoted : Bool) : Mistake :=
  if quoted && !scope.isDocument then wrong scope [] "Unterminated quoted string"
  else wrong scope [] "Missing '\x7d'"

/-- A mistake in the text that begins behind the next character if that ends a line. -/
def wrongBehind (scope : Scope) (rest : List Char) (reason : String) : Mistake :=
  let m := wrong scope rest reason
  if rest.head? = some '\n' then { m with line := m.line + 1 } else m

def unexpectedAs (found : String) (scope : Scope) (rest : List Char) (expected : Option String) :
    Mistake :=
  let reason := found ++ " unexpected"
  let m := wrongBehind scope rest (match expected with
    | some "word" => reason ++ " (expecting word)"
    | some word => s!"{reason} (expecting \"{word}\")"
    | none => reason)
  { m with word := if found = "word" then some rest else none }

def unexpected (scope : Scope) (rest : List Char) (expected : Option String) : Mistake :=
  unexpectedAs (describeKeyword rest) scope rest expected

def skipSign (s : List Char) : List Char :=
  if [";;", "&&", "||"].any fun sign => sign.toList.isPrefixOf s then s.drop 2 else s.drop 1

/-- Replaces the word at the beginning of a text by what it is an alias for, but none twice; behind
an alias that ends with a blank the next word is replaced, too. -/
def expandAliases (aliases : List (Name × List Char)) (used : List Name) (s : List Char) :
    List Char :=
  replace aliases.length used s
where
  replace : Nat → List Name → List Char → List Char
    | 0, _, s => s
    | n + 1, used, s =>
      let word := plainWord s
      match if used.contains word then none else aliases.lookup word with
      | none => s
      | some value =>
        let rest := s.drop word.length
        let rest := if value.getLast?.any isBlank then replace n used (skipBlanks rest) else rest
        replace n (word :: used) (value ++ rest)

def keyword? (word : String) (s : List Char) : Option (List Char) :=
  let s := skipLines s.length s
  if isKeyword word s then some (s.drop word.length) else none

def keyword (scope : Scope) (word : String) (s : List Char) : Reading (List Char) :=
  match keyword? word s with
  | some rest => .ok rest
  | none => .error (unexpected scope (skipLines s.length s) (some word))

def closing (scope : Scope) (s : List Char) : Reading (List Char) :=
  match skipLines s.length s with
  | ')' :: rest => .ok rest
  | s => .error (unexpected scope s (some ")"))

def quotedPart (c : Char) : Part := .literal [c] true

def consPlain (c : Char) : List Part → List Part
  | .literal text false :: rest => .literal (c :: text) false :: rest
  | parts => .literal [c] false :: parts

def consQuoted (c : Char) : List Part → List Part
  | .literal text true :: rest => .literal (c :: text) true :: rest
  | parts => .literal [c] true :: parts

inductive RedirectionSign where
  | file (direction : Direction)
  | duplicate
  /-- A document follows, from the lines of which leading tabs may be stripped. -/
  | document (strip : Bool)

def redirectionSign? (s : List Char) : Option (Nat × RedirectionSign × List Char) :=
  let digits := (s.take 1).takeWhile Char.isDigit
  let number (missing : Nat) : Nat :=
    if digits.isEmpty then missing else digits.foldl (fun n c => n * 10 + (c.toNat - 48)) 0
  match s.drop digits.length with
  | '>' :: '>' :: rest => some (number 1, .file .append, rest)
  | '>' :: '&' :: rest => some (number 1, .duplicate, rest)
  | '>' :: '|' :: rest => some (number 1, .file .clobber, rest)
  | '>' :: rest => some (number 1, .file .output, rest)
  | '<' :: '&' :: rest => some (number 0, .duplicate, rest)
  | '<' :: '>' :: rest => some (number 0, .file .update, rest)
  | '<' :: '<' :: '-' :: rest => some (number 0, .document true, rest)
  | '<' :: '<' :: rest => some (number 0, .document false, rest)
  | '<' :: rest => some (number 0, .file .input, rest)
  | _ => none

def assignment? : List Part → Option (Name × List Part)
  | .literal text false :: rest =>
    let name := text.takeWhile isNameChar
    match name, text.drop name.length with
    | c :: _, '=' :: value =>
      if isNameStart c then
        some (name, if value.isEmpty then rest else .literal value false :: rest)
      else none
    | _, _ => none
  | _ => none

/-- The word that ends a document, without its quotes, whether it had any, and the text behind it;
the quote that is open is given. -/
def documentWord : Option Char → List Char → List Char × Bool × List Char
  | _, [] => ([], false, [])
  | none, '\\' :: c :: rest =>
    let (word, _, rest) := documentWord none rest
    (c :: word, true, rest)
  | none, c :: rest =>
    if isBreak c then ([], false, c :: rest)
    else
      let quotes := c = '\'' ∨ c = '"'
      let (word, quoted, rest) := documentWord (if quotes then some c else none) rest
      if quotes then (word, true, rest) else (c :: word, quoted, rest)
  | some quote, c :: rest =>
    let (word, quoted, rest) := documentWord (if c = quote then none else some quote) rest
    if c = quote then (word, quoted, rest) else (c :: word, quoted, rest)

structure Document where
  text : List Char
  /-- The number of line ends in the line that closes it. -/
  closing : Nat
  rest : List Char
  isClosed : Bool

def cutDocument (strip : Bool) (ending : List Char) : Nat → List Char → Document
  | 0, s => ⟨[], 0, s, false⟩
  | _, [] => ⟨[], 0, [], false⟩
  | fuel + 1, s =>
    let line := s.takeWhile (· != '\n')
    let rest := s.drop (line.length + 1)
    let ends : Nat := if s.contains '\n' then 1 else 0
    let line := if strip then line.dropWhile (· == '\t') else line
    if line = ending then ⟨[], ends, rest, true⟩
    else
      let d := cutDocument strip ending fuel rest
      { d with text := line ++ List.replicate ends '\n' ++ d.text }

/-- Cuts a text behind its first line, of which no end in quotes is the end; the quote that is open
is given. -/
def cutLine : Option Char → List Char → List Char × List Char
  | _, [] => ([], [])
  | quote, '\\' :: c :: rest =>
    if quote = some '\'' then
      let (line, rest) := cutLine quote (c :: rest)
      ('\\' :: line, rest)
    else
      let (line, rest) := cutLine quote rest
      ('\\' :: c :: line, rest)
  | quote, c :: rest =>
    if quote.isNone ∧ c = '\n' then ([], rest)
    else if quote.isNone ∧ isBreak c ∧ rest.head? = some '#' then
      let comment := rest.takeWhile (· != '\n')
      (c :: comment, rest.drop (comment.length + 1))
    else
      let opens := quote.isNone ∧ (c = '\'' ∨ c = '"' ∨ c = '\x60')
      let next := if opens then some c else if quote = some c then none else quote
      let (line, rest) := cutLine next rest
      (c :: line, rest)

/-- Takes the lines of a document out of a text that stands behind its sign: whether the document is
quoted, how it stands in the program, and the text without it. -/
def takeDocument (scope : Scope) (strip : Bool) (s : List Char) :
    Reading (Bool × Scope × Document × List Char) := do
  let s := skipBlanks s
  if s.head?.all isBreak then throw (unexpectedAs (describe s) scope s none)
  let (ending, quoted, s) := documentWord none s
  let (line, below) := cutLine none s
  let taken := below.takeWhile (· == takenLine)
  let below := below.drop taken.length
  let d := cutDocument strip ending (below.length + 1) below
  if !d.isClosed ∧ !scope.isFinal then throw (wrong scope [] "document")
  let within := { scope with ends := scope.ends - lineEnds d.rest - d.closing, isDocument := true }
  let marks := List.replicate (lineEnds d.text + d.closing) takenLine
  return (quoted, within, d, line ++ '\n' :: taken ++ marks ++ d.rest)

def functionName? : List Part → Option Name
  | [.literal text false] => if isName text ∧ !isSpecialCommand text then some text else none
  | _ => none

/-- Cuts the text in back quotes, without the backslashes that protect characters in it. -/
def cutBackquoted (quoted : Bool) : List Char → Option (List Char × List Char)
  | [] => none
  | '\x60' :: rest => some ([], rest)
  | '\\' :: c :: rest =>
    (cutBackquoted quoted rest).map fun p =>
      if c = '\x60' ∨ c = '\\' ∨ c = '$' ∨ (quoted ∧ c = '"') then (c :: p.1, p.2)
      else ('\\' :: c :: p.1, p.2)
  | c :: rest => (cutBackquoted quoted rest).map fun p => (c :: p.1, p.2)

def adjustment? (s : List Char) : Option (Adjustment × List Char) :=
  let byLetter (emptyToo : Bool) (s : List Char) : Option (Adjustment × List Char) :=
    match s with
    | '-' :: rest => some (.default emptyToo, rest)
    | '=' :: rest => some (.assign emptyToo, rest)
    | '?' :: rest => some (.demand emptyToo, rest)
    | '+' :: rest => some (.replace emptyToo, rest)
    | _ => none
  match s with
  | ':' :: rest => byLetter true rest
  | '#' :: '#' :: rest => some (.cutFront true, rest)
  | '#' :: rest => some (.cutFront false, rest)
  | '%' :: '%' :: rest => some (.cutBack true, rest)
  | '%' :: rest => some (.cutBack false, rest)
  | s => byLetter false s

def parameterName (s : List Char) : Name :=
  match s with
  | c :: _ =>
    if isNameStart c then s.takeWhile isNameChar
    else if c.isDigit then s.takeWhile Char.isDigit
    else if isSpecial c then [c]
    else []
  | [] => []

end DebugControl.Shell
