import DebugControl.Shell.Arithmetic
import DebugControl.Shell.Inspection

/-!
# Conditions

The expressions of `test` and of single brackets: a word, an operator with one or two words,
negation, parentheses, and `-a` and `-o`. The readers return the value of an expression and the
words from its last one on; a word that stands where an operator might is one unless a comparison
follows it.
-/

namespace DebugControl.Shell.Test

inductive Mistake where
  | number (word : List Char)
  /-- Something about an operator, or about no word. -/
  | grammar (word : List Char) (reason : String)

def Mistake.message : Mistake → List Char
  | .number word => "Illegal number: ".toList ++ word
  | .grammar [] reason => reason.toList
  | .grammar word reason => word ++ (s!": {reason}").toList

inductive Kind where
  | unary (letter : Char)
  | binary (op : String)
  | negation
  | both
  | either
  | opening
  | closing
  | operand
  | ending

def unaryLetters : List Char := "rwxefdcbpugkstznhOGLS".toList

def binaryOperators : List String :=
  ["=", "!=", "<", ">", "-eq", "-ne", "-lt", "-le", "-gt", "-ge", "-nt", "-ot", "-ef"]

def operator? (word : List Char) : Option Kind :=
  match word with
  | ['!'] => some .negation
  | ['-', 'a'] => some .both
  | ['-', 'o'] => some .either
  | ['('] => some .opening
  | [')'] => some .closing
  | ['-', letter] => if unaryLetters.contains letter then some (.unary letter) else none
  | _ =>
    let op := String.ofList word
    if binaryOperators.contains op then some (.binary op) else none

def isBinary (word : List Char) : Bool := binaryOperators.contains (String.ofList word)

/-- Whether a word with these behind it is no operator. -/
def isOperand : Words → Bool
  | [] => true
  | [_] => false
  | op :: _ => isBinary op

def kind : Words → Kind
  | [] => .ending
  | word :: rest =>
    match operator? word with
    | some (.unary letter) => if isOperand rest then .operand else .unary letter
    | some .opening => if rest.isEmpty then .operand else .opening
    | some s => s
    | none => .operand

def number (word : List Char) : Except Mistake Int :=
  match Arithmetic.number? word with
  | some n => .ok n
  | none => .error (.number word)

def unary (v : View) (letter : Char) (word : List Char) : Except Mistake Bool :=
  match letter with
  | 'n' => .ok !word.isEmpty
  | 'z' => .ok word.isEmpty
  | 't' => (number word).map fun _ => false
  | letter => .ok (v.holds letter word)

def binary (v : View) (op : String) (a b : List Char) : Except Mistake Bool :=
  let onNumbers (f : Int → Int → Bool) : Except Mistake Bool := do
    let x ← number a
    let y ← number b
    pure (f x y)
  match op with
  | "=" => .ok (a == b)
  | "!=" => .ok (a != b)
  | "<" => .ok (decide (a < b))
  | ">" => .ok (decide (b < a))
  | "-eq" => onNumbers (· == ·)
  | "-ne" => onNumbers (· != ·)
  | "-lt" => onNumbers (· < ·)
  | "-le" => onNumbers (· ≤ ·)
  | "-gt" => onNumbers (fun a b => b < a)
  | "-ge" => onNumbers (fun a b => b ≤ a)
  | "-nt" => .ok (v.isNewer a b)
  | "-ot" => .ok (v.isNewer b a)
  | _ => .ok (v.isSame a b)

mutual

def readAny (v : View) : Nat → Words → Except Mistake (Bool × Words)
  | 0, words => .ok (false, words)
  | fuel + 1, words => do
    let (a, rest) ← readAll v fuel words
    match kind (rest.drop 1) with
    | .either => do
      let (b, rest) ← readAny v fuel (rest.drop 2)
      pure (a || b, rest)
    | _ => pure (a, rest)

def readAll (v : View) : Nat → Words → Except Mistake (Bool × Words)
  | 0, words => .ok (false, words)
  | fuel + 1, words => do
    let (a, rest) ← readNegated v fuel words
    match kind (rest.drop 1) with
    | .both => do
      let (b, rest) ← readAll v fuel (rest.drop 2)
      pure (a && b, rest)
    | _ => pure (a, rest)

def readNegated (v : View) : Nat → Words → Except Mistake (Bool × Words)
  | 0, words => .ok (false, words)
  | fuel + 1, words =>
    match kind words, words with
    | .negation, [_] => .ok (true, words)
    | .negation, _ :: rest => do
      let (a, rest) ← readNegated v fuel rest
      pure (!a, rest)
    | _, words => readPrimary v fuel words

def readPrimary (v : View) : Nat → Words → Except Mistake (Bool × Words)
  | 0, words => .ok (false, words)
  | fuel + 1, words =>
    match kind words, words with
    | _, [] => .ok (false, [])
    | .opening, _ :: rest =>
      match kind rest with
      | .closing => .ok (false, rest)
      | _ => do
        let (a, rest) ← readAny v fuel rest
        match kind (rest.drop 1) with
        | .closing => pure (a, rest.drop 1)
        | _ => .error (.grammar [] "closing paren expected")
    | .unary letter, _ :: rest =>
      match rest with
      | [] => .error (.grammar ['-', letter] "argument expected")
      | operand :: _ => do
        let a ← unary v letter operand
        pure (a, rest)
    | _, word :: rest =>
      match kind rest, rest with
      | .binary op, _ :: rest =>
        match rest with
        | [] => .error (.grammar op.toList "argument expected")
        | other :: _ => do
          let a ← binary v op word other
          pure (a, rest)
      | _, _ => .ok (!word.isEmpty, words)

end

def evaluateAll (v : View) (words : Words) : Except Mistake Bool := do
  let (a, rest) ← readAny v (4 * words.length + 4) words
  match rest with
  | last :: _ :: _ => .error (.grammar last "unexpected operator")
  | _ => pure a

/-- Evaluates words; with three or four, their number decides how they are read. -/
def evaluate (v : View) : Words → Except Mistake Bool
  | [] => .ok false
  | [a, op, b] =>
    if isBinary op then binary v (String.ofList op) a b
    else if a = ['('] ∧ b = [')'] then evaluateAll v [op]
    else if a = ['!'] then (evaluateAll v [op, b]).map (!·)
    else evaluateAll v [a, op, b]
  | [a, b, c, d] =>
    if a = ['('] ∧ d = [')'] then evaluateAll v [b, c]
    else if a = ['!'] then (evaluate v [b, c, d]).map (!·)
    else evaluateAll v [a, b, c, d]
  | words => evaluateAll v words

end DebugControl.Shell.Test
