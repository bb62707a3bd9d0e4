import DebugControl.Shell.Grammar

/-!
# Options of the shell

Options are switched on by words with a hyphen and off by words with a plus sign. A word has
letters, and the letter `o` takes the next word as the name of an option. The words with which a
shell starts have two more letters: `c` for a program that follows, and `l`, which says nothing.
-/

namespace DebugControl.Shell

def optionNames : List (String × Option Char) :=
  [("errexit", some 'e'), ("noglob", some 'f'), ("ignoreeof", some 'I'), ("interactive", some 'i'),
    ("monitor", some 'm'), ("noexec", some 'n'), ("stdin", some 's'), ("xtrace", some 'x'),
    ("verbose", some 'v'), ("vi", some 'V'), ("emacs", some 'E'), ("noclobber", some 'C'),
    ("allexport", some 'a'), ("notify", some 'b'), ("nounset", some 'u'), ("privileged", some 'p'),
    ("nolog", none), ("debug", none)]

structure OptionWords where
  /-- The letters of the options that are on, and the names of those without a letter. -/
  letters : List Char
  names : List String
  /-- What is to be shown. -/
  shown : List Char
  /-- Whether a program is to follow. -/
  awaitsProgram : Bool
  /-- The words behind the options. -/
  rest : Words
  /-- Whether a pair of hyphens ended the options. -/
  isEnded : Bool
  mistake : Option (List Char)

namespace OptionWords

def start (letters : List Char) (names : List String) (words : Words) : OptionWords :=
  ⟨letters, names, [], false, words, false, none⟩

def isOn (o : OptionWords) (option : String × Option Char) : Bool :=
  match option.2 with
  | some c => o.letters.contains c
  | none => o.names.contains option.1

/-- Switches the option of a letter; only one way of editing lines can be on. -/
def switch (o : OptionWords) (on : Bool) (letter : Char) : OptionWords :=
  let others := o.letters.filter (· ≠ letter)
  let others := if on ∧ letter = 'V' then others.filter (· ≠ 'E')
    else if on ∧ letter = 'E' then others.filter (· ≠ 'V') else others
  { o with letters := if on then letter :: others else others }

def sign (on : Bool) : Char := if on then '-' else '+'

def switchNamed (o : OptionWords) (on : Bool) (name : String) : OptionWords :=
  match optionNames.lookup name with
  | some (some letter) => o.switch on letter
  | some none =>
    let others := o.names.filter (· ≠ name)
    { o with names := if on then name :: others else others }
  | none => { o with mistake := some (s!"Illegal option {sign on}o {name}").toList }

/-- Shows all options, as a table or as commands; at the start none is off. -/
def shows (o : OptionWords) (atStart table : Bool) : OptionWords :=
  let line (option : String × Option Char) : String :=
    let on := atStart || o.isOn option
    let name := option.1
    if table then
      let gap := String.ofList (List.replicate (16 - name.length) ' ')
      name ++ gap ++ (if on then "on" else "off") ++ "\n"
    else "set " ++ (if on then "-o " else "+o ") ++ name ++ "\n"
  let front := if table then "Current option settings\n" else ""
  { o with shown := o.shown ++ (front ++ String.join (optionNames.map line)).toList }

def readLetters (atStart on : Bool) : List Char → OptionWords → OptionWords
  | [], o => o
  | c :: more, o =>
    if o.mistake.isSome then o
    else if c = 'o' then
      match o.rest with
      | [] => readLetters atStart on more (o.shows atStart on)
      | name :: rest =>
        readLetters atStart on more ({ o with rest }.switchNamed on (String.ofList name))
    else if atStart ∧ c = 'c' then readLetters atStart on more { o with awaitsProgram := true }
    else if atStart ∧ c = 'l' then readLetters atStart on more o
    else if optionNames.any (·.2 = some c) then readLetters atStart on more (o.switch on c)
    else { o with mistake := some (s!"Illegal option {sign on}{c}").toList }

def read (atStart : Bool) : Nat → OptionWords → OptionWords
  | 0, o => o
  | n + 1, o =>
    if o.mistake.isSome then o
    else
      match o.rest with
      | ['-', '-'] :: rest => { o with rest, isEnded := true }
      | ['-'] :: rest =>
        let o := if atStart then o else (o.switch false 'x').switch false 'v'
        { o with rest }
      | ('-' :: letters) :: rest =>
        read atStart n (readLetters atStart true letters { o with rest })
      | ('+' :: letters) :: rest =>
        read atStart n (readLetters atStart false letters { o with rest })
      | _ => o

end OptionWords

end DebugControl.Shell
