import DebugControl.Shell.Grammar

/-!
# Arithmetic

Expressions over integers of 64 bits, with the operators of the shell language, conditionals,
assignments, and variables, whose values are numerals. `read` gives the expression that a text
writes, and `evaluate` its value together with the assignments in it.
-/

namespace DebugControl.Shell.Arithmetic

def wrap (n : Int) : Int := Int.bmod n UInt64.size

def least : Int := -9223372036854775808

def greatest : Int := 9223372036854775807

def clamp (n : Int) : Int := max least (min n greatest)

def skipSpace (s : List Char) : List Char := s.dropWhile (·.isWhitespace)

def digitValue (c : Char) : Nat :=
  if c.isDigit then c.toNat - 48 else c.toLower.toNat - 87

def valueOf (base : Nat) (digits : List Char) : Int :=
  digits.foldl (fun n c => n * base + digitValue c) 0

def isHexDigit (c : Char) : Bool := c.isDigit || ('a' ≤ c.toLower && c.toLower ≤ 'f')

def isOctalDigit (c : Char) : Bool := '0' ≤ c && c ≤ '7'

def digits? (base : Nat) (isDigit : Char → Bool) (s : List Char) : Option (Int × List Char) :=
  let digits := s.takeWhile isDigit
  if digits.isEmpty then none else some (valueOf base digits, s.drop digits.length)

/-- Reads a numeral in base ten, eight (after a zero) or sixteen (after `0x`). -/
def numeral? (s : List Char) : Option (Int × List Char) :=
  match s with
  | '0' :: x :: rest =>
    if (x = 'x' ∨ x = 'X') ∧ rest.head?.any isHexDigit then digits? 16 isHexDigit rest
    else digits? 8 isOctalDigit s
  | _ => digits? 10 Char.isDigit s

def signed? (s : List Char) : Option (Int × List Char) :=
  match skipSpace s with
  | '-' :: rest => (numeral? rest).map fun p => (-p.1, p.2)
  | '+' :: rest => numeral? rest
  | s => numeral? s

def number? (s : List Char) : Option Int :=
  match signed? s with
  | some (n, rest) => if (skipSpace rest).isEmpty then some n else none
  | none => none

inductive Mistake where
  | primary
  | colon
  | closing
  | ending
  | divisionByZero
  | notANumber (text : List Char)

inductive Expr where
  | number (n : Int)
  | variable (name : Name)
  | unary (op : Char) (a : Expr)
  | binary (op : String) (a b : Expr)
  | conditional (test yes no : Expr)
  /-- Assigns to a variable, with an operator also its former value. -/
  | assign (name : Name) (op : Option String) (value : Expr)
  /-- There is a mistake in the text behind an expression. -/
  | wrong (before : Expr) (m : Mistake)

def Mistake.message (text : List Char) : Mistake → List Char
  | .notANumber value => "Illegal number: ".toList ++ value
  | m =>
    let reason := match m with
      | .primary => "expecting primary"
      | .colon => "expecting ':'"
      | .closing => "expecting ')'"
      | .ending => "expecting EOF"
      | _ => "division by zero"
    s!"arithmetic expression: {reason}: \"".toList ++ text ++ ['"']

/-- The operators of each level, the loosest first; of two that begin alike the longer is first. -/
def levels : List (List String) :=
  [["||"], ["&&"], ["|"], ["^"], ["&"], ["==", "!="], ["<=", ">=", "<", ">"], ["<<", ">>"],
    ["+", "-"], ["*", "/", "%"]]

def assigning : List String := ["<<", ">>", "|", "^", "&", "+", "-", "*", "/", "%"]

/-- Whether an operator stands here, and not the beginning of a longer one. -/
def operatorHere (op : String) (s : List Char) : Bool :=
  op.toList.isPrefixOf s &&
    (match op, s.drop op.length with
      | "|", '|' :: _ => false
      | "&", '&' :: _ => false
      | "<", '<' :: _ => false
      | ">", '>' :: _ => false
      | op, '=' :: _ => !assigning.contains op
      | _, _ => true)

def assignment? (s : List Char) : Option (Option String × List Char) :=
  match s with
  | '=' :: '=' :: _ => none
  | '=' :: rest => some (none, rest)
  | _ =>
    (assigning.find? fun op => (op.toList ++ ['=']).isPrefixOf s).map fun op =>
      (some op, s.drop (op.length + 1))

/-- An expression that has been read, and the rest of the text unless there is a mistake in it. -/
abbrev Progress := Expr × Option (List Char)

def stopped (m : Mistake) : Progress := (.wrong (.number 0) m, none)

mutual

def readAssignment : Nat → List Char → Progress
  | 0, _ => stopped .primary
  | fuel + 1, s =>
    let s := skipSpace s
    let name := s.takeWhile isNameChar
    match name.head?.any isNameStart, assignment? (skipSpace (s.drop name.length)) with
    | true, some (op, rest) =>
      let (value, rest) := readAssignment fuel rest
      (.assign name op value, rest)
    | _, _ => readConditional fuel s

def readConditional : Nat → List Char → Progress
  | 0, _ => stopped .primary
  | fuel + 1, s =>
    let (test, rest) := readLevel fuel levels s
    match rest.map skipSpace with
    | some ('?' :: rest) =>
      let (yes, rest) := readAssignment fuel rest
      match rest.map skipSpace with
      | some (':' :: rest) =>
        let (no, rest) := readConditional fuel rest
        (.conditional test yes no, rest)
      | some _ => (.conditional test yes (.wrong (.number 0) .colon), none)
      | none => (.conditional test yes (.number 0), none)
    | rest => (test, rest)

def readLevel : Nat → List (List String) → List Char → Progress
  | 0, _, _ => stopped .primary
  | fuel + 1, [], s => readUnary fuel s
  | fuel + 1, ops :: tighter, s =>
    match readLevel fuel tighter s with
    | (left, some s) => readMore fuel ops tighter left s
    | progress => progress

def readMore : Nat → List String → List (List String) → Expr → List Char → Progress
  | 0, _, _, _, _ => stopped .primary
  | fuel + 1, ops, tighter, left, s =>
    let s := skipSpace s
    match ops.find? (operatorHere · s) with
    | none => (left, some s)
    | some op =>
      match readLevel fuel tighter (s.drop op.length) with
      | (right, some s) => readMore fuel ops tighter (.binary op left right) s
      | (right, none) => (.binary op left right, none)

def readUnary : Nat → List Char → Progress
  | 0, _ => stopped .primary
  | fuel + 1, s =>
    match skipSpace s with
    | '(' :: rest =>
      let (a, rest) := readAssignment fuel rest
      match rest.map skipSpace with
      | some (')' :: s) => (a, some s)
      | some _ => (.wrong a .closing, none)
      | none => (a, none)
    | [] => stopped .primary
    | c :: rest =>
      if c = '-' ∨ c = '+' ∨ c = '!' ∨ c = '~' then
        let (a, rest) := readUnary fuel rest
        (.unary c a, rest)
      else
        match numeral? (c :: rest) with
        | some (n, s) => (.number (clamp n), some s)
        | none =>
          let name := (c :: rest).takeWhile isNameChar
          if name.isEmpty then stopped .primary
          else (.variable name, some ((c :: rest).drop name.length))

end

def read (s : List Char) : Expr :=
  match readAssignment (32 * s.length + 64) s with
  | (e, none) => e
  | (e, some rest) => if (skipSpace rest).isEmpty then e else .wrong e .ending

def Expr.mistake? : Expr → Option Mistake
  | .number _ => none
  | .variable _ => none
  | .unary _ a => a.mistake?
  | .binary _ a b => a.mistake? <|> b.mistake?
  | .conditional test yes no => test.mistake? <|> yes.mistake? <|> no.mistake?
  | .assign _ _ value => value.mistake?
  | .wrong _ m => some m

def ofBool (b : Bool) : Int := if b then 1 else 0

def bitwise (f : Nat → Nat → Nat) (a b : Int) : Int :=
  wrap (f (a.emod UInt64.size).toNat (b.emod UInt64.size).toNat)

def shifted (bits : Int) : Int := Int.ofNat (1 <<< (bits.emod 64).toNat)

def apply (op : String) (a b : Int) : Except Mistake Int :=
  match op with
  | "|" => .ok (bitwise (· ||| ·) a b)
  | "^" => .ok (bitwise (· ^^^ ·) a b)
  | "&" => .ok (bitwise (· &&& ·) a b)
  | "==" => .ok (ofBool (a == b))
  | "!=" => .ok (ofBool (a != b))
  | "<=" => .ok (ofBool (a ≤ b))
  | ">=" => .ok (ofBool (b ≤ a))
  | "<" => .ok (ofBool (a < b))
  | ">" => .ok (ofBool (b < a))
  | "<<" => .ok (wrap (a * shifted b))
  | ">>" => .ok (a.fdiv (shifted b))
  | "+" => .ok (wrap (a + b))
  | "-" => .ok (wrap (a - b))
  | "*" => .ok (wrap (a * b))
  | "/" => if b = 0 then .error .divisionByZero else .ok (wrap (a.tdiv b))
  | _ => if b = 0 then .error .divisionByZero else .ok (a.tmod b)

def applyUnary (op : Char) (a : Int) : Int :=
  match op with
  | '-' => wrap (-a)
  | '!' => ofBool (a == 0)
  | '~' => -a - 1
  | _ => a

/-- Assignments that have been made, the latest first. -/
abbrev Assigned := List (Name × List Char)

/-- The number that a variable holds; one that is blank holds zero. -/
def valueIn (outer : Name → List Char) (made : Assigned) (name : Name) : Except Mistake Int :=
  let text := (made.lookup name).getD (outer name)
  if (skipSpace text).isEmpty then .ok 0
  else
    match number? text with
    | some n => .ok (clamp n)
    | none => .error (.notANumber text)

def Expr.skip (e : Expr) : Except Mistake Unit :=
  match e.mistake? with
  | some m => .error m
  | none => .ok ()

/-- The value of an expression, given what variables hold, and the assignments after it. What stands
in front of a mistake is evaluated before. -/
def Expr.evaluate (outer : Name → List Char) : Expr → Assigned → Except Mistake (Int × Assigned)
  | .number n, made => .ok (n, made)
  | .variable name, made => do
    let n ← valueIn outer made name
    pure (n, made)
  | .unary op a, made => do
    let (n, made) ← a.evaluate outer made
    pure (applyUnary op n, made)
  | .binary op a b, made => do
    let (x, made) ← a.evaluate outer made
    if op = "||" ∧ x ≠ 0 then do
      b.skip
      pure (1, made)
    else if op = "&&" ∧ x = 0 then do
      b.skip
      pure (0, made)
    else
      let (y, made) ← b.evaluate outer made
      if op = "||" ∨ op = "&&" then pure (ofBool (y != 0), made)
      else
        let n ← apply op x y
        pure (n, made)
  | .conditional test yes no, made => do
    let (x, made) ← test.evaluate outer made
    if x ≠ 0 then do
      let result ← yes.evaluate outer made
      no.skip
      pure result
    else do
      yes.skip
      no.evaluate outer made
  | .assign name op value, made => do
    let (y, made) ← value.evaluate outer made
    let n ← match op with
      | none => pure y
      | some op => do
        let x ← valueIn outer made name
        apply op x y
    pure (n, (name, (toString n).toList) :: made)
  | .wrong before m, made => do
    let _ ← before.evaluate outer made
    .error m

def compute (outer : Name → List Char) (text : List Char) :
    Except (List Char) (Int × Assigned) :=
  match (read text).evaluate outer [] with
  | .ok result => .ok result
  | .error m => .error (m.message text)

end DebugControl.Shell.Arithmetic
