import DebugControl.Pattern.Flags
import DebugControl.Pattern.Look
import DebugControl.Text.Numeral
import DebugControl.Unicode.Age
import DebugControl.Unicode.Contributory
import DebugControl.Unicode.Fold
import DebugControl.Unicode.Script
import DebugControl.Unicode.Segmentation

/-!
# Primitives

A primitive is the smallest part of a pattern: a literal character, a class with a name, an
assertion or the dot. `readEscape` reads those that a backslash begins. What a primitive means
depends on the flags: `Primitive.set?` is the set of a class, and `Assertion.look` the look.
-/

namespace DebugControl.Pattern

open Unicode (CharSet)

inductive Named where
  | digit
  | blank
  | word
deriving Repr, DecidableEq

inductive Assertion where
  | textStart
  | textEnd
  | caret
  | dollar
  | boundary
  | noBoundary
  | wordStart
  | wordEnd
  | beforeWord
  | afterWord
deriving Repr, DecidableEq

inductive Primitive where
  /-- A character; `octet` if it was written as two hexadecimal digits. -/
  | literal (c : Char) (octet : Bool)
  | named (n : Named) (negated : Bool)
  | property (name : List Char) (negated : Bool)
  | assertion (a : Assertion)
  | dot

/-! ## Names of properties -/

/-- A name without case, spaces, hyphens, underscores and a leading `is`. -/
def plainName (name : List Char) : String :=
  let lower := name.map Char.toLower
  let hasIs := lower.take 2 == ['i', 's']
  let kept := (if hasIs then lower.drop 2 else lower).filter fun c =>
    c.toNat < 128 && c != ' ' && c != '_' && c != '-'
  if hasIs && kept == ['c'] then "isc" else String.ofList kept

def categorySet? (name : String) : Option CharSet :=
  if name = "ascii" then some (.range 0 127)
  else (Unicode.Category.groups.find? fun g => g.1.contains name).map fun g =>
    Unicode.Category.set g.2

def scriptSet? (name : String) : Option CharSet :=
  (Unicode.scriptNamed? name).map Unicode.scriptSet

/-- The names that are abbreviations of a category and of a property that is not binary. -/
def prefersCategory (name : String) : Bool := name == "cf" || name == "sc" || name == "lc"

def singleSet? (name : String) : Option CharSet :=
  let property := if prefersCategory name then none
    else (Unicode.Property.named? name Unicode.Property.all).map Unicode.Property.set
  property.orElse fun _ => (categorySet? name).orElse fun _ => scriptSet? name

def valueSet? (property value : String) : Option CharSet :=
  match property with
  | "gc" | "generalcategory" => categorySet? value
  | "sc" | "script" => scriptSet? value
  | "scx" | "scriptextensions" => (Unicode.scriptNamed? value).map Unicode.extensionSet
  | "age" => Unicode.ageSet? value
  | "gcb" | "graphemeclusterbreak" => Unicode.Grapheme.classSet? value
  | "wb" | "wordbreak" => Unicode.Word.classSet? value
  | "sb" | "sentencebreak" => Unicode.Sentence.classSet? value
  | _ => none

def cutValue? (name : List Char) : List (List Char) → Option (List Char × List Char × List Char)
  | [] => none
  | mark :: marks =>
    match Text.cut mark name with
    | property :: value :: more => some (mark, property, Text.join mark (value :: more))
    | _ => cutValue? name marks

/-- The set of a property, a single name or a property and its value, and whether it is written as
the complement by `!=`. -/
def propertySet? (name : List Char) : Option (CharSet × Bool) :=
  match cutValue? name [['!', '='], [':'], ['=']] with
  | some (mark, property, value) =>
    (valueSet? (plainName property) (plainName value)).map fun set => (set, mark == ['!', '='])
  | none => (singleSet? (plainName name)).map fun set => (set, false)

/-! ## Meaning -/

namespace Flags

def letters (f : Flags) : Letters := if f.unicode then .unicode else .ascii

def fold (f : Flags) (set : CharSet) : CharSet :=
  if f.ignoreCase then if f.unicode then set.caseless else set.caselessAscii else set

/-- A set or its complement; without Unicode a complement would hold octets that are no text. -/
def signed? (f : Flags) (negated : Bool) (set : CharSet) : Option CharSet :=
  if negated then if f.unicode then some set.complement else none else some set

def literal? (f : Flags) (c : Char) (octet : Bool) : Option Char :=
  if !f.unicode && octet && 128 ≤ c.toNat then none else some c

end Flags

def asciiSet (ranges : List (Char × Char)) : CharSet :=
  .ofRanges (ranges.map fun r => (r.1.toNat, r.2.toNat))

def Named.set (letters : Letters) : Named → CharSet
  | .digit => match letters with
    | .unicode => Unicode.decimalSet
    | .ascii => .range 0x30 0x39
  | .blank => match letters with
    | .unicode => Unicode.Property.whiteSpace.set
    | .ascii => asciiSet [('\t', '\r'), (' ', ' ')]
  | .word => match letters with
    | .unicode => Unicode.wordSet
    | .ascii => asciiSet [('0', '9'), ('A', 'Z'), ('_', '_'), ('a', 'z')]

def Assertion.look (f : Flags) : Assertion → Look
  | .textStart => .textStart
  | .textEnd => .textEnd
  | .caret => if f.multiLine then if f.returns then .returnStart else .lineStart else .textStart
  | .dollar => if f.multiLine then if f.returns then .returnEnd else .lineEnd else .textEnd
  | .boundary => .boundary f.letters
  | .noBoundary => .noBoundary f.letters
  | .wordStart => .wordStart f.letters
  | .wordEnd => .wordEnd f.letters
  | .beforeWord => .beforeWord f.letters
  | .afterWord => .afterWord f.letters

def Primitive.set? (f : Flags) : Primitive → Option CharSet
  | .named n negated => f.signed? negated (n.set f.letters)
  | .property name negated =>
    if f.unicode then do
      let (set, unequal) ← propertySet? name
      f.signed? (negated != unequal) (f.fold set)
    else none
  | _ => none

def dotSet? (f : Flags) : Option CharSet :=
  if !f.unicode then none
  else if f.dotAll then some .all
  else if f.returns then some (asciiSet [('\n', '\n'), ('\r', '\r')]).complement
  else some (CharSet.single '\n').complement

/-! ## Escapes -/

def readBraced (spaced : Bool) : Bool → List Char → Option (List Char × List Char)
  | _, [] => none
  | true, c :: rest => readBraced spaced (c ≠ '\n') rest
  | false, c :: rest =>
    if spaced && Text.isBlank c then readBraced spaced false rest
    else if spaced && c == '#' then readBraced spaced true rest
    else if c = '}' then some ([], rest)
    else (readBraced spaced false rest).map fun p => (c :: p.1, p.2)

def scalar? (n : Nat) : Option Char := if n.isValidChar then some (Char.ofNat n) else none

def readHexDigits (f : Flags) : Nat → List Char → Option (List Nat × List Char)
  | 0, s => some ([], s)
  | _ + 1, [] => none
  | n + 1, c :: rest => do
    let d ← Numeral.digitIn? 16 c
    let (ds, s) ← readHexDigits f n (f.skip rest)
    pure (d :: ds, s)

/-- A code point: digits in braces, or as many as the letter before them asks for. -/
def readCodePoint (f : Flags) (digits : Nat) (s : List Char) : Option (Primitive × List Char) :=
  match f.skip s with
  | '\x7b' :: s => do
    let (written, s) ← readBraced f.spaced false s
    let ds ← written.mapM (Numeral.digitIn? 16)
    let c ← if ds = [] then none else scalar? (Numeral.valueIn 16 ds)
    pure (.literal c false, f.skip s)
  | s => do
    let (ds, s) ← readHexDigits f digits s
    let c ← scalar? (Numeral.valueIn 16 ds)
    pure (.literal c (digits = 2), s)

def readProperty (f : Flags) (negated : Bool) (s : List Char) : Option (Primitive × List Char) :=
  match f.skip s with
  | [] => none
  | '\x7b' :: s => (readBraced f.spaced false s).map fun p => (.property p.1 negated, p.2)
  | c :: rest => if c = '\\' then none else some (.property [c] negated, f.skip rest)

def isNameLetter (c : Char) : Bool := ('a' ≤ c && c ≤ 'z') || ('A' ≤ c && c ≤ 'Z') || c == '-'

def readBoundaryName (f : Flags) : Nat → List Char → Option (List Char × List Char)
  | _, [] => none
  | n, c :: rest =>
    if c = '}' then some ([], rest)
    else if isNameLetter c then
      match n with
      | 0 => none
      | n + 1 => (readBoundaryName f n (f.skip rest)).map fun p => (c :: p.1, p.2)
    else none

/-- What follows the `b` of a boundary: a kind in braces, or anything else, a repetition included.
-/
def readBoundary (f : Flags) (s : List Char) : Option (Primitive × List Char) :=
  match s with
  | '\x7b' :: rest =>
    match f.skip rest with
    | [] => none
    | c :: more =>
      if isNameLetter c then do
        let (name, s) ← readBoundaryName f 10 (c :: more)
        let a ← match String.ofList name with
          | "start" => some Assertion.wordStart
          | "end" => some .wordEnd
          | "start-half" => some .beforeWord
          | "end-half" => some .afterWord
          | _ => none
        pure (.assertion a, s)
      else some (.assertion .boundary, s)
  | _ => some (.assertion .boundary, s)

def isMeta (c : Char) : Bool := "\\.+*?()|[]\x7b\x7d^$#&-~".toList.contains c

def isEscapable (c : Char) : Bool :=
  isMeta c || (c.toNat < 128 && !c.isAlphanum && c != '<' && c != '>')

def readEscape (f : Flags) (s : List Char) : Option (Primitive × List Char) :=
  match s with
  | [] => none
  | c :: rest =>
    if isEscapable c then some (.literal c false, rest)
    else
      match c with
      | 'x' => readCodePoint f 2 rest
      | 'u' => readCodePoint f 4 rest
      | 'U' => readCodePoint f 8 rest
      | 'p' => readProperty f false rest
      | 'P' => readProperty f true rest
      | 'd' => some (.named .digit false, rest)
      | 'D' => some (.named .digit true, rest)
      | 's' => some (.named .blank false, rest)
      | 'S' => some (.named .blank true, rest)
      | 'w' => some (.named .word false, rest)
      | 'W' => some (.named .word true, rest)
      | 'a' => some (.literal '\x07' false, rest)
      | 'f' => some (.literal '\x0c' false, rest)
      | 't' => some (.literal '\t' false, rest)
      | 'n' => some (.literal '\n' false, rest)
      | 'r' => some (.literal '\r' false, rest)
      | 'v' => some (.literal '\x0b' false, rest)
      | 'A' => some (.assertion .textStart, rest)
      | 'z' => some (.assertion .textEnd, rest)
      | 'b' => readBoundary f rest
      | 'B' => some (.assertion .noBoundary, rest)
      | '<' => some (.assertion .wordStart, rest)
      | '>' => some (.assertion .wordEnd, rest)
      | _ => none

end DebugControl.Pattern
