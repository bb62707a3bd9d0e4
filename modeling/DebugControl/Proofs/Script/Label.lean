import DebugControl.Proofs.Script.Concatenation
import DebugControl.Proofs.Script.Reader

/-!
# Labels as lines of a script

The label of a step is a line that asks for the same step, unless the step is a command with a flag:
the label of such a command is its text alone, which reads as a command without flags, as a comment,
or as a directive whose argument is shorter. So the labels of steps without flags make up a script of
these steps.
-/

namespace DebugControl

/-- A command whose reply may also end with a simple prompt or with the exit of the debugger. -/
def Step.Flagged : Step → Prop
  | .send c => c.allowExit = true ∨ c.allowSimplePrompt = true
  | _ => False

namespace Script

open Text

variable {line arg name text : List Char} {step : Step} {n : Nat}

theorem isBlank_of_isDigit {c : Char} (h : c.isDigit = true) : isBlank c = false := by
  have hrange : 48 ≤ c.toNat ∧ c.toNat ≤ 57 := by
    simpa [Char.isDigit, UInt32.le_iff_toNat_le] using h
  simp only [isBlank, Bool.or_eq_false_iff, Bool.and_eq_false_iff, decide_eq_false_iff_not,
    beq_eq_false_iff_ne]
  omega

theorem sendable_of_not_blank (hne : text ≠ []) (h : ∀ c ∈ text, isBlank c = false) :
    Sendable text where
  nonempty := hne
  oneLine hmem := absurd (h _ hmem) (by decide)
  trimmed := ⟨fun c hc => h c (List.mem_of_head? hc), fun c hc => h c (List.mem_of_getLast? hc)⟩

theorem sendable_toDigits (n : Nat) : Sendable (Nat.toDigits 10 n) := by
  refine sendable_of_not_blank Nat.toDigits_ne_nil fun c hc => ?_
  exact isBlank_of_isDigit (Nat.isDigit_of_mem_toDigits (by decide) (by decide) hc)

/-! ## Lines of directives -/

def directiveLine (name arg : List Char) : List Char :=
  '@' :: (name ++ if arg = [] then [] else ' ' :: arg)

section Directives

variable (hname : name.any isBlank = false) (harg : arg ≠ [] → Sendable arg)

include hname harg

theorem sendable_directiveLine : Sendable (directiveLine name arg) := by
  have hname : ∀ c ∈ name, isBlank c = false := by simpa using hname
  unfold directiveLine
  split_ifs with hempty
  · refine sendable_of_not_blank (List.cons_ne_nil _ _) ?_
    rw [List.append_nil]
    exact List.forall_mem_cons.2 ⟨by decide, hname⟩
  · have hsendable := harg hempty
    have hlast : ('@' :: (name ++ ' ' :: arg)).getLast? = arg.getLast? := by
      obtain ⟨before, c, rfl⟩ := (List.eq_nil_or_concat' arg).resolve_left hempty
      simp [List.getLast?_cons, List.getLast?_append]
    refine ⟨List.cons_ne_nil _ _, fun hmem => ?_, fun c hc => ?_, fun c hc => ?_⟩
    · have hmem := (List.mem_cons.1 hmem).resolve_left (by decide)
      rcases List.mem_append.1 hmem with hmem | hmem
      · exact absurd (hname _ hmem) (by decide)
      · exact hsendable.oneLine ((List.mem_cons.1 hmem).resolve_left (by decide))
    · obtain rfl := Option.some.inj hc
      decide
    · exact hsendable.trimmed.last c (hlast ▸ hc)

theorem readStep_directiveLine : readStep (directiveLine name arg) = readDirective name arg := by
  have hname : ∀ c ∈ name, isBlank c = false := by simpa using hname
  unfold directiveLine
  generalize hrest : (if arg = [] then [] else ' ' :: arg) = rest
  have hblank : rest.takeWhile (fun c => !isBlank c) = [] ∧ trim rest = arg := by
    split_ifs at hrest with hempty
    · rw [← hrest, hempty]
      exact ⟨rfl, rfl⟩
    · rw [← hrest, trim, List.dropWhile_cons_of_pos (by decide), ← trim,
        (harg hempty).trimmed.trim_eq]
      exact ⟨rfl, rfl⟩
  have htake : (name ++ rest).takeWhile (fun c => !isBlank c) = name := by
    rw [List.takeWhile_append_of_pos fun c hc => by simp [hname c hc], hblank.1, List.append_nil]
  change readDirective ((name ++ rest).takeWhile _) (trim ((name ++ rest).drop _)) = _
  rw [htake, List.drop_left, hblank.2]

end Directives

theorem read_of_readStep (hline : Sendable line) (hcomment : line.head? ≠ some '#')
    (hread : readStep line = .ok step) : read line = .ok [step] := by
  have hskipped : isSkipped line = false := isSkipped_eq_false_iff.2 ⟨hline.nonempty, hcomment⟩
  rw [read_eq_readLines_cut, cut_of_not_mem hline.oneLine, readLines, hline.trimmed.trim_eq]
  simp [hskipped, hread, readLines]

theorem read_directiveLine (hname : name.any isBlank = false)
    (harg : arg ≠ [] → Sendable arg) (hread : readDirective name arg = .ok step) :
    read (directiveLine name arg) = .ok [step] := by
  refine read_of_readStep (sendable_directiveLine hname harg) ?_ ?_
  · exact fun h => absurd (Option.some.inj h) (by decide)
  · rw [readStep_directiveLine hname harg, hread]

/-! ## Labels -/

theorem read_label_contToExit (h : n < attemptLimit) :
    read (Step.contToExit n).label.toList = .ok [.contToExit n] := by
  have hlabel : (Step.contToExit n).label.toList =
      directiveLine "cont-to-exit".toList (Nat.toDigits 10 n) := by
    simp [Step.label, directiveLine, toString]
  have hread : readDirective "cont-to-exit".toList (Nat.toDigits 10 n) = .ok (.contToExit n) := by
    simp [readDirective, readAttempts, Numeral.read_toDigits h]
  rw [hlabel]
  exact read_directiveLine (by decide) (fun _ => sendable_toDigits n) hread

theorem read_label_expect (h : Sendable text) :
    read (Step.expect (String.ofList text)).label.toList = .ok [.expect (String.ofList text)] := by
  have hlabel : (Step.expect (String.ofList text)).label.toList =
      directiveLine "expect".toList text := by
    simp [Step.label, directiveLine, h.nonempty, toString]
  have hread : readDirective "expect".toList text = .ok (.expect (String.ofList text)) := by
    simp [readDirective, h.nonempty]
  rw [hlabel]
  exact read_directiveLine (by decide) (fun _ => h) hread

theorem read_label_command (h : Sendable text) (hcomment : text.head? ≠ some '#')
    (hdirective : text.head? ≠ some '@') :
    read (Step.send (.plain (String.ofList text))).label.toList =
      .ok [.send (.plain (String.ofList text))] := by
  have hlabel : (Step.send (.plain (String.ofList text))).label.toList = text :=
    String.toList_ofList
  rw [hlabel]
  refine read_of_readStep h hcomment ?_
  unfold readStep
  split
  · exact absurd rfl hdirective
  · rfl

theorem read_label_of_not_flagged (h : Expressible step) (hflag : ¬ step.Flagged) :
    read step.label.toList = .ok [step] := by
  cases h with
  | command htext hcomment hdirective => exact read_label_command htext hcomment hdirective
  | orExit _ => exact absurd (.inl rfl) hflag
  | orSimplePrompt _ => exact absurd (.inr rfl) hflag
  | waitPrompt => decide +kernel
  | contToExit hattempts => exact read_label_contToExit hattempts
  | quit => decide +kernel
  | expect htext => exact read_label_expect htext

theorem length_lt_of_flagged {c : Command} (hread : readStep line = .ok (.send c))
    (hflag : (Step.send c).Flagged) : c.text.toList.length < line.length := by
  unfold readStep at hread
  split at hread
  · next directive =>
    rw [(asks_of_readDirective hread).text_eq, List.length_cons, Nat.lt_succ_iff]
    exact (trim_isInfix _).length_le.trans (List.drop_sublist _ _).length_le
  · obtain rfl := Step.send.inj (Except.ok.inj hread)
    exact absurd hflag (by simp [Step.Flagged, Command.plain])

theorem not_flagged_of_read_label (h : Expressible step)
    (hread : read step.label.toList = .ok [step]) : ¬ step.Flagged := by
  intro hflag
  cases step with
  | send c =>
    have hlabel : (Step.send c).label = c.text := rfl
    rw [hlabel, read_eq_readLines_cut, cut_of_not_mem h.sendable.oneLine] at hread
    obtain ⟨raw, hraw, -, hstep⟩ := exists_readStep_of_mem hread List.mem_cons_self
    obtain rfl := List.mem_singleton.1 hraw
    have hlt := length_lt_of_flagged hstep hflag
    exact absurd (hlt.trans_le (trim_isInfix _).length_le) (lt_irrefl _)
  | waitPrompt => exact hflag
  | contToExit n => exact hflag
  | quit => exact hflag
  | expect text => exact hflag

theorem read_join_labels {steps : List Step} (h : ∀ step ∈ steps, Expressible step ∧ ¬ step.Flagged) :
    read (join ['\n'] (steps.map fun step => step.label.toList)) = .ok steps := by
  induction steps with
  | nil => decide +kernel
  | cons step steps ih =>
    obtain ⟨⟨hexpressible, hflag⟩, hrest⟩ := List.forall_mem_cons.1 h
    have hstep := read_label_of_not_flagged hexpressible hflag
    by_cases hempty : steps = []
    · rw [hempty]
      exact hstep
    · rw [List.map_cons, join_cons _ _ (by simpa using hempty), List.append_assoc,
        List.singleton_append, read_append_newline, hstep, ih hrest]
      rfl

/-- The label of a step of a script reads as that step alone exactly if the step has no flag, and the
labels of such steps, also of several scripts, one on each line, read as these steps. Every number of
attempts below `2 ^ 64` has a label that reads back. -/
theorem labels_read_back :
    (∀ {script : List Char} {steps : List Step} {step : Step}, read script = .ok steps →
      step ∈ steps → (read step.label.toList = .ok [step] ↔ ¬ step.Flagged)) ∧
    (∀ {steps : List Step}, (∀ step ∈ steps, ¬ step.Flagged ∧
      ∃ script all, read script = .ok all ∧ step ∈ all) →
      read (join ['\n'] (steps.map fun step => step.label.toList)) = .ok steps) ∧
    ∀ {n : Nat}, n < 2 ^ 64 → read (Step.contToExit n).label.toList = .ok [.contToExit n] := by
  refine ⟨fun hread hmem => ?_, fun h => ?_, read_label_contToExit⟩
  · have hexpressible := read_expressible hread hmem
    exact ⟨not_flagged_of_read_label hexpressible, read_label_of_not_flagged hexpressible⟩
  · refine read_join_labels fun step hstep => ?_
    obtain ⟨hflag, script, all, hread, hmem⟩ := h step hstep
    exact ⟨read_expressible hread hmem, hflag⟩

/-- A directive within a directive, a text with blanks inside, and a number with a sign. -/
def nestedScript : List Char :=
  "@exit-ok @quit\r\n  @expect  a  b \n\nprint x\n@cont-to-exit +007".toList

theorem labels_read_back_nested :
    read nestedScript = .ok [.send (Command.plain "@quit").orExit, .expect "a  b",
      .send (.plain "print x"), .contToExit 7] ∧
    read "@quit".toList ≠ .ok [.send (Command.plain "@quit").orExit] ∧
    read "@expect a  b\nprint x\n@cont-to-exit 7".toList =
      .ok [.expect "a  b", .send (.plain "print x"), .contToExit 7] ∧
    read (Step.contToExit 18446744073709551615).label.toList =
      .ok [.contToExit 18446744073709551615] := by
  have hread : read nestedScript = .ok [.send (Command.plain "@quit").orExit, .expect "a  b",
      .send (.plain "print x"), .contToExit 7] := by
    decide +kernel
  obtain ⟨hone, hall, hnumber⟩ := labels_read_back
  refine ⟨hread, fun h => (hone hread List.mem_cons_self).1 h (.inl rfl), ?_, hnumber (by decide)⟩
  have hsteps : ∀ step ∈ [Step.expect "a  b", .send (.plain "print x"), .contToExit 7],
      ¬ step.Flagged ∧ ∃ script all, read script = .ok all ∧ step ∈ all := by
    intro step hstep
    refine ⟨?_, nestedScript, _, hread, List.mem_cons_of_mem _ hstep⟩
    simp only [List.mem_cons, List.not_mem_nil, or_false] at hstep
    rcases hstep with rfl | rfl | rfl <;> simp [Step.Flagged, Command.plain]
  exact hall hsteps

end Script

end DebugControl
