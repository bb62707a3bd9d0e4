import DebugControl.Proofs.Text.Lines
import DebugControl.Proofs.Text.Numeral
import DebugControl.Script.Reader

/-!
# What a script can ask for

Each step of a script is read from one of its lines. Three kinds of lines ask for a command: a line
that is no directive, and two directives with the command as their argument. Each takes the text out
of a trimmed line and trims it again where something is cut off in front, so that the text of every
command that a script sends is a part of one line, with no blank at either end and something in
between. The same holds of a text that is expected, and a number of attempts is below its bound.
-/

namespace DebugControl.Script

open Text

/-- A text that can be sent as one line, without blanks around it. -/
structure Sendable (text : List Char) : Prop where
  nonempty : text ≠ []
  oneLine : '\n' ∉ text
  trimmed : Trimmed text

/-- The steps that a script can ask for. A command that begins like a comment or a directive can only
be the argument of a directive. -/
inductive Expressible : Step → Prop where
  | command {text : List Char} :
      Sendable text → text.head? ≠ some '#' → text.head? ≠ some '@' →
      Expressible (.send (.plain (String.ofList text)))
  | orExit {text : List Char} :
      Sendable text → Expressible (.send (Command.plain (String.ofList text)).orExit)
  | orSimplePrompt {text : List Char} :
      Sendable text → Expressible (.send (Command.plain (String.ofList text)).orSimplePrompt)
  | waitPrompt : Expressible .waitPrompt
  | contToExit {attempts : Nat} : attempts < attemptLimit → Expressible (.contToExit attempts)
  | quit : Expressible .quit
  | expect {text : List Char} : Sendable text → Expressible (.expect (String.ofList text))

variable {line arg name text : List Char} {steps : List Step} {step : Step} {number : Nat}

/-- What a directive can ask for, given its argument. -/
inductive Asks (arg : List Char) : Step → Prop where
  | waitPrompt : Asks arg .waitPrompt
  | quit : Asks arg .quit
  | contToExit {attempts : Nat} : attempts < attemptLimit → Asks arg (.contToExit attempts)
  | expect : arg ≠ [] → Asks arg (.expect (String.ofList arg))
  | orExit : arg ≠ [] → Asks arg (.send (Command.plain (String.ofList arg)).orExit)
  | orSimplePrompt : arg ≠ [] → Asks arg (.send (Command.plain (String.ofList arg)).orSimplePrompt)

theorem asks_of_readAttempts (hread : readAttempts arg = .ok step) : Asks arg step := by
  unfold readAttempts at hread
  split_ifs at hread
  · obtain rfl := Except.ok.inj hread
    exact .contToExit (by decide)
  · split at hread
    · next n hn =>
      obtain rfl := Except.ok.inj hread
      exact .contToExit (Numeral.read_lt (by decide) hn)
    · exact absurd hread nofun

theorem asks_of_readDirective (hread : readDirective name arg = .ok step) : Asks arg step := by
  unfold readDirective at hread
  split_ifs at hread with hwait hquit hcont hexpect hempty hexit hsimple
  · obtain rfl := Except.ok.inj hread
    exact .waitPrompt
  · obtain rfl := Except.ok.inj hread
    exact .quit
  · exact asks_of_readAttempts hread
  · obtain rfl := Except.ok.inj hread
    exact .expect hempty
  · obtain rfl := Except.ok.inj hread
    exact .orExit hexit.2
  · obtain rfl := Except.ok.inj hread
    exact .orSimplePrompt hsimple.2

theorem Asks.expressible (h : Asks arg step) (harg : arg ≠ [] → Sendable arg) :
    Expressible step := by
  cases h with
  | waitPrompt => exact .waitPrompt
  | quit => exact .quit
  | contToExit hattempts => exact .contToExit hattempts
  | expect hne => exact .expect (harg hne)
  | orExit hne => exact .orExit (harg hne)
  | orSimplePrompt hne => exact .orSimplePrompt (harg hne)

theorem Asks.text_eq {c : Command} (h : Asks arg (.send c)) : c.text.toList = arg := by
  cases h with
  | orExit _ => exact String.toList_ofList
  | orSimplePrompt _ => exact String.toList_ofList

theorem expressible_of_readStep (hread : readStep line = .ok step) (hline : Sendable line)
    (hcomment : line.head? ≠ some '#') : Expressible step := by
  unfold readStep at hread
  split at hread
  · next directive =>
    refine (asks_of_readDirective hread).expressible fun hne => ⟨hne, ?_, trimmed_trim _⟩
    intro hmem
    have hrest := (trim_isInfix _).subset hmem
    exact hline.oneLine (List.mem_cons_of_mem _ (List.mem_of_mem_drop hrest))
  · next hplain =>
    obtain rfl := Except.ok.inj hread
    refine .command hline hcomment fun hhead => ?_
    obtain ⟨directive, hdirective⟩ := List.head?_eq_some_iff.1 hhead
    exact hplain directive hdirective

/-- Each step is read from a line that is not skipped; the induction is on the lines. -/
theorem exists_readStep_of_mem {raws : List (List Char)} (hread : readLines number raws = .ok steps)
    (hmem : step ∈ steps) :
    ∃ raw ∈ raws, isSkipped (trim raw) = false ∧ readStep (trim raw) = .ok step := by
  induction raws generalizing number steps with
  | nil =>
    obtain rfl := Except.ok.inj hread
    exact absurd hmem List.not_mem_nil
  | cons raw raws ih =>
    rw [List.exists_mem_cons_iff]
    rw [readLines] at hread
    split_ifs at hread with hskipped
    · exact .inr (ih hread hmem)
    · split at hread
      · exact absurd hread nofun
      · next first hfirst =>
        cases hlater : readLines (number + 1) raws with
        | error e =>
          rw [hlater] at hread
          exact absurd hread nofun
        | ok later =>
          rw [hlater] at hread
          obtain rfl := Except.ok.inj hread
          rcases List.mem_cons.1 hmem with rfl | hmem
          · exact .inl ⟨Bool.eq_false_iff.2 hskipped, hfirst⟩
          · exact .inr (ih hlater hmem)

theorem isSkipped_eq_false_iff : isSkipped line = false ↔ line ≠ [] ∧ line.head? ≠ some '#' := by
  simp [isSkipped]

theorem read_expressible (hread : read text = .ok steps) (hmem : step ∈ steps) :
    Expressible step := by
  obtain ⟨raw, hraw, hskipped, hstep⟩ := exists_readStep_of_mem hread hmem
  obtain ⟨hne, hcomment⟩ := isSkipped_eq_false_iff.1 hskipped
  have honeLine : '\n' ∉ trim raw := fun h =>
    not_mem_of_mem_lines hraw ((trim_isInfix raw).subset h)
  exact expressible_of_readStep hstep ⟨hne, honeLine, trimmed_trim raw⟩ hcomment

theorem Expressible.sendable {c : Command} (h : Expressible (.send c)) :
    Sendable c.text.toList := by
  have of_text : ∀ {text : List Char}, Sendable text → c.text = String.ofList text →
      Sendable c.text.toList := by
    intro text htext hc
    rwa [hc, String.toList_ofList]
  cases h with
  | command htext _ _ => exact of_text htext rfl
  | orExit htext => exact of_text htext rfl
  | orSimplePrompt htext => exact of_text htext rfl

theorem read_sendable {c : Command} (hread : read text = .ok steps) (hmem : .send c ∈ steps) :
    Sendable c.text.toList :=
  (read_expressible hread hmem).sendable

end DebugControl.Script
