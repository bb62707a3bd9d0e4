import DebugControl.Shell.Scan

/-!
# Reading shell programs

A program is read by recursive descent, one line of statements at a time, so that the lines before a
mistake can run. Each reader returns what it has read and the rest of the text; the readers are
bounded by a fuel that the length of the text provides.
-/

namespace DebugControl.Shell

/-- The parts between double quotes; there is a field even if they are empty, but not for the
parameters alone. -/
def inDoubleQuotes (inner : List Part) : List Part :=
  match inner with
  | [.parameter ['@'] _] => inner
  | _ => .literal [] true :: inner

def Statement.followedBy (a b : Statement) : Statement :=
  match b with
  | .nothing => a
  | b => .sequence a b

/-- A compound statement with redirections. They take the place of those of a subshell that is all
of a group. -/
def Statement.withRedirections (line : Nat) (s : Statement) (redirections : List Redirection) :
    Statement :=
  if redirections.isEmpty then s
  else
    match s with
    | .group (.redirected line (.subshell body) _) => .redirected line (.subshell body) redirections
    | .group (.subshell body) => .redirected line (.subshell body) redirections
    | s => .redirected line s redirections

def outOfFuel {α : Type} : Reading α := .error ⟨1, "Syntax error".toList, false, none⟩

structure SimpleCommand where
  line : Option Nat
  assignments : List (Name × Word)
  words : List Word
  redirections : List Redirection

mutual

def readExpansion (scope : Scope) : Nat → Bool → List Char → Reading (Part × List Char)
  | 0, _, _ => outOfFuel
  | fuel + 1, quoted, s =>
    match s with
    | '(' :: '(' :: rest => do
      let (parts, rest) ← readArithmetic scope fuel 0 rest
      pure (.arithmetic parts quoted, rest)
    | '(' :: rest => do
      let (body, rest) ← readList { scope with isDocument := false } fuel rest
      let rest ← closing scope rest
      pure (.substitution body quoted, rest)
    | '\x7b' :: rest => readBraces scope fuel quoted rest
    | _ =>
      match s.head?.all Char.isDigit, parameterName s with
      | _, [] => .ok (.literal ['$'] quoted, s)
      | true, name => .ok (.parameter (name.take 1) quoted, s.drop 1)
      | false, name => .ok (.parameter name quoted, s.drop name.length)
termination_by structural fuel => fuel

def readBraces (scope : Scope) : Nat → Bool → List Char → Reading (Part × List Char)
  | 0, _, _ => outOfFuel
  | fuel + 1, quoted, s =>
    let name := parameterName s
    let behind := s.drop name.length
    let malformed (s : List Char) : Reading (Part × List Char) := do
      let (_, rest) ← readBraced scope fuel quoted s
      pure (.malformed, rest)
    match name, behind with
    | [], _ => malformed (if s.head? = some '\x7d' then s else s.drop 1)
    | _, '\x7d' :: rest => .ok (.parameter name quoted, rest)
    | _, _ =>
      let counted := if name = ['#'] then parameterName behind else []
      let countsNothing : Bool := name == ['#'] && counted.isEmpty && behind[1]? == some '\x7d'
      match counted, behind.drop counted.length with
      | _ :: _, '\x7d' :: rest => .ok (.size counted quoted, rest)
      | _, after =>
        if counted.head?.any isNameChar then malformed after
        else if countsNothing then malformed (behind.drop 1)
        else match adjustment? behind with
        | none => malformed (if behind.head? = some ':' then behind.drop 2 else behind.drop 1)
        | some (how, rest) => do
          let cuts : Bool := match how with
            | .cutFront _ | .cutBack _ => true
            | _ => false
          let (word, rest) ← readBraced scope fuel (quoted && !cuts) rest
          pure (.adjusted name how word quoted, rest)
termination_by structural fuel => fuel

def readBraced (scope : Scope) : Nat → Bool → List Char → Reading (List Part × List Char)
  | 0, _, _ => outOfFuel
  | fuel + 1, quoted, s =>
    match s with
    | [] => .error (unclosed scope quoted)
    | '\x7d' :: rest => .ok ([], rest)
    | '"' :: rest => do
      let (inner, rest) ← readDouble scope fuel true rest
      let (parts, rest) ← readBraced scope fuel quoted rest
      pure (inDoubleQuotes inner ++ parts, rest)
    | '\\' :: '\n' :: rest => readBraced scope fuel quoted rest
    | '\\' :: c :: rest => do
      let (parts, rest) ← readBraced scope fuel quoted rest
      if !quoted ∨ c = '$' ∨ c = '"' ∨ c = '\\' ∨ c = '\x60' ∨ c = '\x7d' then
        pure (consQuoted c parts, rest)
      else pure (consQuoted '\\' (consQuoted c parts), rest)
    | '$' :: rest => do
      let (part, rest) ← readExpansion scope fuel quoted rest
      let (parts, rest) ← readBraced scope fuel quoted rest
      pure (part :: parts, rest)
    | '\x60' :: rest => do
      let (part, rest) ← readBackquoted scope fuel quoted rest
      let (parts, rest) ← readBraced scope fuel quoted rest
      pure (part :: parts, rest)
    | c :: rest =>
      if c = '\'' ∧ !quoted then
        let text := rest.takeWhile (· != '\'')
        match rest.drop text.length with
        | [] => .error (unclosed scope true)
        | _ :: rest => do
          let (parts, rest) ← readBraced scope fuel quoted rest
          pure (.literal text true :: parts, rest)
      else do
        let (parts, rest) ← readBraced scope fuel quoted rest
        pure (if quoted then consQuoted c parts else consPlain c parts, rest)
termination_by structural fuel => fuel

/-- Reads a program in back quotes behind the first of them. Its lines are counted by themselves,
and what stands behind its statements does not matter. -/
def readBackquoted (scope : Scope) : Nat → Bool → List Char → Reading (Part × List Char)
  | 0, _, _ => outOfFuel
  | fuel + 1, quoted, s =>
    match cutBackquoted quoted s with
    | none => .error (wrong scope [] "EOF in backquote substitution")
    | some (text, rest) =>
      match readList ⟨lineEnds text, scope.aliases, true, false⟩ fuel text with
      | .ok (body, _) => .ok (.substitution body quoted, rest)
      | .error m => .error (m.inPart 0)
termination_by structural fuel => fuel

def readArithmetic (scope : Scope) : Nat → Nat → List Char → Reading (List Part × List Char)
  | 0, _, _ => outOfFuel
  | fuel + 1, depth, s =>
    match s with
    | [] => .error (wrong scope [] "Missing '))'")
    | '$' :: rest => do
      let (part, rest) ← readExpansion scope fuel true rest
      let (parts, rest) ← readArithmetic scope fuel depth rest
      pure (part :: parts, rest)
    | '\x60' :: rest => do
      let (part, rest) ← readBackquoted scope fuel true rest
      let (parts, rest) ← readArithmetic scope fuel depth rest
      pure (part :: parts, rest)
    | '(' :: rest => do
      let (parts, rest) ← readArithmetic scope fuel (depth + 1) rest
      pure (consQuoted '(' parts, rest)
    | ')' :: rest =>
      match depth, rest with
      | 0, ')' :: rest => .ok ([], rest)
      | depth, _ => do
        let (parts, rest) ← readArithmetic scope fuel (depth - 1) rest
        pure (consQuoted ')' parts, rest)
    | c :: rest => do
      let (parts, rest) ← readArithmetic scope fuel depth rest
      pure (consQuoted c parts, rest)
termination_by structural fuel => fuel

/-- Reads text in which only expansions and backslashes count, up to a double quote that closes it
or up to the end. -/
def readDouble (scope : Scope) : Nat → Bool → List Char → Reading (List Part × List Char)
  | 0, _, _ => outOfFuel
  | fuel + 1, closes, s =>
    match s with
    | [] => if closes then .error (unclosed scope true) else .ok ([], [])
    | '\\' :: '\n' :: rest => readDouble scope fuel closes rest
    | '\\' :: c :: rest => do
      let (parts, rest) ← readDouble scope fuel closes rest
      if c = '$' ∨ c = '\\' ∨ c = '\x60' ∨ (closes ∧ c = '"') then pure (consQuoted c parts, rest)
      else pure (consQuoted '\\' (consQuoted c parts), rest)
    | '$' :: rest => do
      let (part, rest) ← readExpansion scope fuel true rest
      let (parts, rest) ← readDouble scope fuel closes rest
      pure (part :: parts, rest)
    | '\x60' :: rest => do
      let (part, rest) ← readBackquoted scope fuel true rest
      let (parts, rest) ← readDouble scope fuel closes rest
      pure (part :: parts, rest)
    | c :: rest =>
      if c = '"' ∧ closes then .ok ([], rest)
      else do
        let (parts, rest) ← readDouble scope fuel closes rest
        pure (consQuoted c parts, rest)
termination_by structural fuel => fuel

def readWord (scope : Scope) : Nat → List Char → Reading (Word × List Char)
  | 0, _ => outOfFuel
  | fuel + 1, s =>
    match s with
    | [] => .ok ([], [])
    | '\'' :: rest =>
      let text := rest.takeWhile (· != '\'')
      match rest.drop text.length with
      | [] => .error (wrong scope [] "Unterminated quoted string")
      | _ :: rest => do
        let (parts, rest) ← readWord scope fuel rest
        pure (.literal text true :: parts, rest)
    | '"' :: rest => do
      let (inner, rest) ← readDouble scope fuel true rest
      let (parts, rest) ← readWord scope fuel rest
      pure (inDoubleQuotes inner ++ parts, rest)
    | '\\' :: '\n' :: rest => readWord scope fuel rest
    | '\\' :: c :: rest => do
      let (parts, rest) ← readWord scope fuel rest
      pure (quotedPart c :: parts, rest)
    | '$' :: rest => do
      let (part, rest) ← readExpansion scope fuel false rest
      let (parts, rest) ← readWord scope fuel rest
      pure (part :: parts, rest)
    | '\x60' :: rest => do
      let (part, rest) ← readBackquoted scope fuel false rest
      let (parts, rest) ← readWord scope fuel rest
      pure (part :: parts, rest)
    | c :: rest =>
      if isBreak c then .ok ([], c :: rest)
      else do
        let (parts, rest) ← readWord scope fuel rest
        pure (consPlain c parts, rest)
termination_by structural fuel => fuel

def readRedirections (scope : Scope) : Nat → List Char → Reading (List Redirection × List Char)
  | 0, _ => outOfFuel
  | fuel + 1, s =>
    match redirectionSign? (skipBlanks s) with
    | none => .ok ([], s)
    | some (descriptor, .document strip, rest) => do
      let (plain, within, document, rest) ← takeDocument scope strip rest
      let parts ←
        if plain then pure [.literal document.text true]
        else
          match readDouble within fuel false document.text with
          | .ok (parts, _) => pure parts
          | .error m => .error (m.inPart (if document.isClosed then 1 else 0))
      let (more, rest) ← readRedirections scope fuel rest
      pure (.document descriptor parts :: more, rest)
    | some (descriptor, sign, rest) => do
      let s := skipBlanks rest
      let (word, rest) ← readWord scope fuel s
      if word.isEmpty then .error (unexpected scope s none)
      else
        let redirection : Redirection := match sign with
          | .file direction => .file descriptor direction word
          | _ => .duplicate descriptor word
        let (more, rest) ← readRedirections scope fuel rest
        pure (redirection :: more, rest)
termination_by structural fuel => fuel

def readSimple (scope : Scope) : Nat → SimpleCommand → List Char →
    Reading (SimpleCommand × List Char)
  | 0, _, _ => outOfFuel
  | fuel + 1, command, s =>
    let s := skipBlanks s
    match redirectionSign? s with
    | some _ => do
      let line := command.line.getD (scope.lineOf s)
      let (more, rest) ← readRedirections scope fuel s
      readSimple scope fuel { command with
        line := some line, redirections := command.redirections ++ more } rest
    | none =>
      let s := if command.words.isEmpty ∧ !command.assignments.isEmpty then
        expandAliases scope.aliases [] s else s
      if s.head?.all isBreak then .ok (command, s)
      else do
        let (word, rest) ← readWord scope fuel s
        let command := { command with line := some (command.line.getD (scope.lineOf rest)) }
        match command.words, assignment? word with
        | [], some a =>
          readSimple scope fuel { command with assignments := command.assignments ++ [a] } rest
        | words, _ => readSimple scope fuel { command with words := words ++ [word] } rest
termination_by structural fuel => fuel

def readWords (scope : Scope) : Nat → List Char → Reading (List Word × List Char)
  | 0, _ => outOfFuel
  | fuel + 1, s =>
    match skipBlanks s with
    | [] => .ok ([], [])
    | c :: rest =>
      if isBreak c then .ok ([], c :: rest)
      else do
        let (word, rest) ← readWord scope fuel (c :: rest)
        let (words, rest) ← readWords scope fuel rest
        pure (word :: words, rest)
termination_by structural fuel => fuel

def readPatterns (scope : Scope) : Nat → List Char → Reading (List Word × List Char)
  | 0, _ => outOfFuel
  | fuel + 1, s => do
    let s := skipBlanks s
    let (word, rest) ← if s.head?.all isBreak then pure ([], skipSign s) else readWord scope fuel s
    match skipBlanks rest with
    | '|' :: '|' :: rest => .error (unexpected scope ('|' :: '|' :: rest) (some ")"))
    | '|' :: rest => do
      let (words, rest) ← readPatterns scope fuel rest
      pure (word :: words, rest)
    | ')' :: rest => pure ([word], rest)
    | rest => .error (unexpectedAs (describe rest) scope rest (some ")"))
termination_by structural fuel => fuel

def readArms (scope : Scope) : Nat → List Char → Reading (List (List Word × Statement) × List Char)
  | 0, _ => outOfFuel
  | fuel + 1, s =>
    let s := skipLines s.length s
    if isKeyword "esac" s then .ok ([], s.drop 4)
    else do
      let s := if s.head? == some '(' then s.drop 1 else s
      let (patterns, rest) ← readPatterns scope fuel s
      let (body, rest) ← readList scope fuel rest
      match skipLines rest.length rest with
      | ';' :: ';' :: rest => do
        let (arms, rest) ← readArms scope fuel rest
        pure ((patterns, body) :: arms, rest)
      | rest =>
        if isKeyword "esac" rest then pure ([(patterns, body)], rest.drop 4)
        else .error (unexpected scope rest (some ";;"))
termination_by structural fuel => fuel

def readConditional (scope : Scope) : Nat → List Char → Reading (Statement × List Char)
  | 0, _ => outOfFuel
  | fuel + 1, s => do
    let (test, s) ← readBlock scope fuel s
    let s ← keyword scope "then" s
    let (yes, s) ← readBlock scope fuel s
    match keyword? "elif" s with
    | some s => do
      let (no, s) ← readConditional scope fuel s
      pure (.conditional test yes no, s)
    | none =>
      match keyword? "else" s with
      | some s => do
        let (no, s) ← readBlock scope fuel s
        let s ← keyword scope "fi" s
        pure (.conditional test yes no, s)
      | none => do
        let s ← keyword scope "fi" s
        pure (.conditional test yes .nothing, s)
termination_by structural fuel => fuel

def readBody (scope : Scope) : Nat → List Char → Reading (Statement × List Char)
  | 0, _ => outOfFuel
  | fuel + 1, s => do
    let s ← keyword scope "do" s
    let (body, s) ← readBlock scope fuel s
    let s ← keyword scope "done" s
    pure (body, s)
termination_by structural fuel => fuel

def readForEach (scope : Scope) : Nat → Nat → List Char → Reading (Statement × List Char)
  | 0, _, _ => outOfFuel
  | fuel + 1, line, s => do
    let s := skipBlanks s
    let name := plainWord s
    if !isName name then .error (wrongBehind scope s "Bad for loop variable")
    else
      let s := s.drop name.length
      match keyword? "in" s with
      | some s => do
        let (words, s) ← readWords scope fuel s
        match skipBlanks s with
        | ';' :: ';' :: rest => .error (unexpected scope (';' :: ';' :: rest) none)
        | ';' :: rest | '\n' :: rest => do
          let (body, s) ← readBody scope fuel rest
          pure (.forEach line name (some words) body, s)
        | s => .error (unexpected scope s none)
      | none => do
        let (body, s) ← readBody scope fuel (match skipBlanks s with
          | ';' :: ';' :: s => ';' :: ';' :: s
          | ';' :: s => s
          | s => s)
        pure (.forEach line name none body, s)
termination_by structural fuel => fuel

def readCompound (scope : Scope) : Nat → List Char → Reading (Option (Statement × List Char))
  | 0, _ => outOfFuel
  | fuel + 1, s =>
    let line := scope.lineOf s
    if s.head? == some '(' then do
      let (body, s) ← readBlock scope fuel (s.drop 1)
      let s ← closing scope s
      pure (some (.subshell body, s))
    else if isKeyword "\x7b" s then do
      let (body, s) ← readBlock scope fuel (s.drop 1)
      let s ← keyword scope "\x7d" s
      pure (some (.group body, s))
    else if isKeyword "if" s then do
      let r ← readConditional scope fuel (s.drop 2)
      pure (some r)
    else if isKeyword "while" s ∨ isKeyword "until" s then do
      let (test, t) ← readBlock scope fuel (s.drop 5)
      let (body, t) ← readBody scope fuel t
      pure (some (.loop (isKeyword "until" s) test body, t))
    else if isKeyword "for" s then do
      let r ← readForEach scope fuel line (s.drop 3)
      pure (some r)
    else if isKeyword "case" s then do
      let s := skipBlanks (s.drop 4)
      let (word, rest) ← readWord scope fuel s
      if word.isEmpty then .error (unexpected scope s (some "word"))
      else
        let s ← keyword scope "in" rest
        let (arms, s) ← readArms scope fuel s
        pure (some (.choice line word arms, s))
    else .ok none
termination_by structural fuel => fuel

def readCommand (scope : Scope) : Nat → List Char → Reading (Statement × List Char)
  | 0, _ => outOfFuel
  | fuel + 1, s => do
    let s := expandAliases scope.aliases [] (skipBlanks s)
    let line := scope.lineOf s
    match ← readCompound scope fuel s with
    | some (body, s) => do
      let (redirections, s) ← readRedirections scope fuel s
      pure (body.withRedirections line redirections, s)
    | none =>
      if ("in" :: "!" :: closers).any (isKeyword · s) then .error (unexpected scope s none)
      else do
        let (c, t) ← readSimple scope fuel ⟨none, [], [], []⟩ s
        match c.words, c.assignments.isEmpty && c.redirections.isEmpty, skipBlanks t with
        | [word], true, '(' :: t =>
          match skipBlanks t with
          | ')' :: t =>
            match functionName? word with
            | none => .error (wrong scope t "Bad function name")
            | some name => do
              let (body, t) ← readCommand scope fuel (skipLines t.length t)
              pure (.definition name body, t)
          | t => .error (unexpectedAs (describe t) scope t (some ")"))
        | [], true, _ => .error (unexpected scope s none)
        | words, _, _ =>
          pure (.simple (c.line.getD line) c.assignments words c.redirections, t)
termination_by structural fuel => fuel

def readStages (scope : Scope) : Nat → List Char → Reading (List Statement × List Char)
  | 0, _ => outOfFuel
  | fuel + 1, s => do
    let (stage, s) ← readCommand scope fuel s
    match skipBlanks s with
    | '|' :: rest =>
      if rest.head? == some '|' then pure ([stage], s)
      else do
        let (more, s) ← readStages scope fuel (skipLines rest.length rest)
        pure (stage :: more, s)
    | s => pure ([stage], s)
termination_by structural fuel => fuel

def readPipeline (scope : Scope) : Nat → List Char → Reading (Statement × List Char)
  | 0, _ => outOfFuel
  | fuel + 1, s => do
    let s := skipBlanks s
    let negated := isKeyword "!" s
    let (stages, s) ← readStages scope fuel (if negated then s.drop 1 else s)
    let statement : Statement := match stages with
      | [stage] => stage
      | stages => .pipeline stages
    pure (if negated then .negation statement else statement, s)
termination_by structural fuel => fuel

def readJoined (scope : Scope) : Nat → Statement → List Char → Reading (Statement × List Char)
  | 0, _, _ => outOfFuel
  | fuel + 1, left, s =>
    match skipBlanks s with
    | '&' :: '&' :: rest => do
      let (right, s) ← readPipeline scope fuel (skipLines rest.length rest)
      readJoined scope fuel (.both left right) s
    | '|' :: '|' :: rest => do
      let (right, s) ← readPipeline scope fuel (skipLines rest.length rest)
      readJoined scope fuel (.either left right) s
    | s => .ok (left, s)
termination_by structural fuel => fuel

def readUnit (scope : Scope) : Nat → List Char → Reading (Statement × List Char)
  | 0, _ => outOfFuel
  | fuel + 1, s => do
    let (first, s) ← readPipeline scope fuel s
    let (statement, s) ← readJoined scope fuel first s
    let goOn (statement : Statement) (rest : List Char) : Reading (Statement × List Char) :=
      match skipBlanks rest with
      | [] => pure (statement, [])
      | '\n' :: rest => pure (statement, rest)
      | rest => do
        let (more, rest) ← readUnit scope fuel rest
        pure (statement.followedBy more, rest)
    match skipBlanks s with
    | ';' :: ';' :: _ => .error (unexpected scope (skipBlanks s) none)
    | ';' :: rest => goOn statement rest
    | '&' :: rest => goOn (.background statement) rest
    | [] => pure (statement, [])
    | '\n' :: rest => pure (statement, rest)
    | s => .error (unexpected scope s none)
termination_by structural fuel => fuel

def readList (scope : Scope) : Nat → List Char → Reading (Statement × List Char)
  | 0, _ => outOfFuel
  | fuel + 1, s =>
    let s := skipLines s.length s
    if atListEnd s then .ok (.nothing, s) else readBlock scope fuel s
termination_by structural fuel => fuel

def readBlock (scope : Scope) : Nat → List Char → Reading (Statement × List Char)
  | 0, _ => outOfFuel
  | fuel + 1, s =>
    let s := skipLines s.length s
    let goOn (statement : Statement) (rest : List Char) : Reading (Statement × List Char) := do
      let (more, rest) ← readList scope fuel rest
      pure (statement.followedBy more, rest)
    if s.isEmpty then .ok (.nothing, [])
    else do
      let (first, s) ← readPipeline scope fuel s
      let (statement, s) ← readJoined scope fuel first s
      match skipBlanks s with
      | ';' :: ';' :: rest => pure (statement, ';' :: ';' :: rest)
      | ';' :: rest => goOn statement rest
      | '\n' :: rest => goOn statement rest
      | '&' :: rest => goOn (.background statement) rest
      | s => pure (statement, s)
termination_by structural fuel => fuel

end

/-- Reads the next line of statements of a program, if there is one; `before` counts the lines in
front of the text. Unless the text is final, a line without its end is incomplete. An unexpected
word is read before it is refused. -/
def readNext (before : Nat) (aliases : List (Name × List Char)) (isFinal : Bool)
    (text : List Char) : Reading (Option (Statement × List Char)) :=
  let s := skipLines text.length text
  let scope : Scope := ⟨before + lineEnds text, aliases, isFinal, false⟩
  let growth := (aliases.map fun a => a.2.length).foldl (· + ·) 1
  if s.isEmpty then .ok none
  else
    let fuel := (16 * text.length + 64) * growth
    match readUnit scope fuel s with
    | .error m =>
      match m.word.map (readWord scope fuel) with
      | none => .error m
      | some (.error inWord) => .error inWord
      | some (.ok (_, rest)) => .error { m with line := scope.lineOf rest }
    | .ok (statement, rest) =>
      let rest := rest.dropWhile (· == takenLine)
      if rest.isEmpty ∧ !isFinal ∧ text.getLast? ≠ some '\n' then .error (wrong scope [] "line")
      else .ok (some (statement, rest))

end DebugControl.Shell
