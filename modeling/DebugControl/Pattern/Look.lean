import DebugControl.Unicode.Property

/-!
# Looks

A look holds at a position of a text or not, depending on the characters before and behind it.
-/

namespace DebugControl.Pattern

inductive Letters where
  | unicode
  | ascii
deriving Repr, DecidableEq

def isAsciiWord (c : Char) : Bool :=
  ('a' ≤ c && c ≤ 'z') || ('A' ≤ c && c ≤ 'Z') || ('0' ≤ c && c ≤ '9') || c == '_'

def Letters.isWord : Letters → Char → Bool
  | .unicode, c => Unicode.wordSet.contains c
  | .ascii, c => isAsciiWord c

inductive Look where
  | textStart
  | textEnd
  | lineStart
  | lineEnd
  /-- Where a line may also end with a carriage return, alone or before a line feed. -/
  | returnStart
  | returnEnd
  | boundary (l : Letters)
  | noBoundary (l : Letters)
  | wordStart (l : Letters)
  | wordEnd (l : Letters)
  | beforeWord (l : Letters)
  | afterWord (l : Letters)
deriving Repr, DecidableEq

namespace Look

/-- Whether a look holds between two characters, of which there is none at an end of the text. -/
def holds (look : Look) (before behind : Option Char) : Bool :=
  match look with
  | textStart => before.isNone
  | textEnd => behind.isNone
  | lineStart => before.isNone || before == some '\n'
  | lineEnd => behind.isNone || behind == some '\n'
  | returnStart =>
    before.isNone || before == some '\n' || (before == some '\r' && behind != some '\n')
  | returnEnd =>
    behind.isNone || behind == some '\r' || (behind == some '\n' && before != some '\r')
  | boundary l => before.any l.isWord != behind.any l.isWord
  | noBoundary l => before.any l.isWord == behind.any l.isWord
  | wordStart l => !before.any l.isWord && behind.any l.isWord
  | wordEnd l => before.any l.isWord && !behind.any l.isWord
  | beforeWord l => !before.any l.isWord
  | afterWord l => !behind.any l.isWord

end Look

end DebugControl.Pattern
