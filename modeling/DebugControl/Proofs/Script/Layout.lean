import DebugControl.Proofs.Script.Concatenation
import Mathlib.Data.List.TakeWhile

/-!
# The layout of a script

Of a line only what stands between its blanks is read, and a remark is not read at all. So a script
may be laid out as its author likes: with either kind of line end, with its lines indented, with or
without a line feed behind the last of them, and with remarks between them, which only move the
numbers of the lines behind.
-/

namespace DebugControl.Script

open Text

/-- A line that is blank, or whose first character that is not blank is `#`. -/
def IsRemark (line : List Char) : Prop := ∀ c ∈ line.find? fun c => !isBlank c, c = '#'

instance (line : List Char) : Decidable (IsRemark line) :=
  Option.decidableForallMem (line.find? fun c => !isBlank c)

def IsPadding (text : List Char) : Prop := ∀ c ∈ text, isBlank c = true ∧ c ≠ '\n'

instance (text : List Char) : Decidable (IsPadding text) :=
  List.decidableBAll (fun c => isBlank c = true ∧ c ≠ '\n') text

/-- The second line is the first with padding around it, before a carriage return or behind it. -/
inductive Padded : List Char → List Char → Prop where
  | around {front body back ending : List Char} :
      IsPadding front → IsPadding back → ending = [] ∨ ending = ['\r'] →
      Padded (body ++ ending) (front ++ body ++ back ++ ending)

def withReturns (text : List Char) : List Char :=
  text.flatMap fun c => if c = '\n' then ['\r', '\n'] else [c]

/-- A line with the remarks that stand before it. -/
structure Remarked where
  remarks : List (List Char)
  line : List Char

def Remarked.lines (r : Remarked) : List (List Char) := r.remarks ++ [r.line]

/-- How many remarks stand before the line with a number, which counts from one and leaves remarks
out. -/
def remarksBefore (script : List Remarked) (number : Nat) : Nat :=
  ((script.take number).flatMap Remarked.remarks).length

@[simp] theorem remarksBefore_cons (r : Remarked) (script : List Remarked) (number : Nat) :
    remarksBefore (r :: script) (1 + number) = r.remarks.length + remarksBefore script number := by
  simp [remarksBefore, Nat.add_comm 1]

/-! ## Padding -/

section Padding

variable {text line padded : List Char}

theorem Padded.trim_eq (h : Padded line padded) : trim padded = trim line := by
  cases h with
  | @around front body back ending hfront hback hending =>
    have hreturn : ∀ c ∈ ending, isBlank c = true := by
      rcases hending with rfl | rfl <;> simp [isBlank]
    rw [trim_append_blanks hreturn, trim_append_blanks hreturn,
      trim_append_blanks fun c hc => (hback c hc).1, trim_blanks_append fun c hc => (hfront c hc).1]

theorem Padded.not_mem (h : Padded line padded) (hline : '\n' ∉ line) : '\n' ∉ padded := by
  cases h with
  | @around front body back ending hfront hback hending =>
    have hf : '\n' ∉ front := fun hmem => (hfront _ hmem).2 rfl
    have hb : '\n' ∉ back := fun hmem => (hback _ hmem).2 rfl
    simp_all

theorem Padded.refl (line : List Char) : Padded line line := by
  simpa using @Padded.around [] line [] [] (by simp [IsPadding]) (by simp [IsPadding]) (.inl rfl)

theorem Padded.append_return (line : List Char) : Padded line (line ++ ['\r']) := by
  simpa using @Padded.around [] line ['\r'] [] (by simp [IsPadding])
    (by simp [IsPadding, isBlank]) (.inl rfl)

theorem not_mem_padded {raws padded : List (List Char)} (h : List.Forall₂ Padded raws padded)
    (hraws : ∀ raw ∈ raws, '\n' ∉ raw) : ∀ line ∈ padded, '\n' ∉ line := by
  induction h with
  | nil => exact hraws
  | cons hfirst _ ih =>
    obtain ⟨hraw, hrest⟩ := List.forall_mem_cons.1 hraws
    exact List.forall_mem_cons.2 ⟨hfirst.not_mem hraw, ih hrest⟩

theorem readLines_padded {raws padded : List (List Char)} (h : List.Forall₂ Padded raws padded)
    (number : Nat) : readLines number padded = readLines number raws :=
  readLines_congr (h.imp fun _ _ => Padded.trim_eq) number

theorem withReturns_of_not_mem (h : '\n' ∉ text) : withReturns text = text := by
  induction text with
  | nil => rfl
  | cons c text ih =>
    obtain ⟨hc, hrest⟩ := List.ne_and_not_mem_of_not_mem_cons h
    have hfirst : (if c = '\n' then ['\r', '\n'] else [c]) = [c] := if_neg (Ne.symm hc)
    rw [withReturns, List.flatMap_cons, hfirst, List.singleton_append, ← withReturns, ih hrest]

theorem withReturns_append_newline (first second : List Char) :
    withReturns (first ++ '\n' :: second) =
      withReturns first ++ ['\r'] ++ '\n' :: withReturns second := by
  simp [withReturns]

theorem forall₂_cut_withReturns (text : List Char) :
    List.Forall₂ Padded (cut ['\n'] text) (cut ['\n'] (withReturns text)) := by
  induction hlength : text.length using Nat.strongRecOn generalizing text with
  | _ n ih =>
    by_cases hmem : '\n' ∈ text
    · -- the first line is taken off, padded by its carriage return
      obtain ⟨first, rest, rfl, hfirst⟩ := List.eq_append_cons_of_mem hmem
      have hreturn : '\n' ∉ first ++ ['\r'] := by simpa using hfirst
      have hshorter : rest.length < n := by
        rw [← hlength, List.length_append, List.length_cons]
        omega
      have hrest := ih rest.length hshorter rest rfl
      rw [withReturns_append_newline, withReturns_of_not_mem hfirst, cut_append_cons,
        cut_append_cons, cut_of_not_mem hfirst, cut_of_not_mem hreturn]
      exact .cons (.append_return first) hrest
    · rw [withReturns_of_not_mem hmem, cut_of_not_mem hmem]
      exact .cons (.refl text) .nil

theorem read_withReturns (text : List Char) : read (withReturns text) = read text := by
  rw [read_eq_readLines_cut, read_eq_readLines_cut,
    readLines_padded (forall₂_cut_withReturns text)]

theorem read_padded {lines : List (List Char)}
    (h : List.Forall₂ Padded (cut ['\n'] text) lines) : read (join ['\n'] lines) = read text := by
  have hne : lines ≠ [] := by
    rintro rfl
    exact cut_ne_nil (List.cons_ne_nil _ _) text (List.forall₂_nil_right_iff.1 h)
  have hpieces : ∀ line ∈ lines, '\n' ∉ line := not_mem_padded h fun _ => not_mem_of_mem_cut
  rw [read_eq_readLines_cut, cut_join hne hpieces, readLines_padded h, ← read_eq_readLines_cut]

end Padding

theorem read_append_lineFeed (text : List Char) : read (text ++ ['\n']) = read text := by
  have hempty : read [] = .ok [] := rfl
  rw [read_append_newline, hempty]
  cases read text with
  | error e => rfl
  | ok steps => exact congrArg _ (List.append_nil steps)

/-! ## Remarks -/

section Remarks

variable {line text : List Char} {remarks : List (List Char)} {script : List Remarked}

theorem IsRemark.isSkipped (h : IsRemark line) : isSkipped (trim line) = true := by
  cases htrim : trim line with
  | nil => rfl
  | cons c rest =>
    obtain ⟨more, hmore⟩ := trimEnd_isPrefix (line.dropWhile isBlank)
    rw [← trim, htrim, List.cons_append] at hmore
    have hfirst : line.find? (fun c => !isBlank c) = some c := by
      rw [List.find?_not_eq_head?_dropWhile, ← hmore]
      rfl
    rw [h c hfirst]
    rfl

theorem readLines_remarks (h : ∀ remark ∈ remarks, IsRemark remark) (number : Nat)
    (raws : List (List Char)) :
    readLines number (remarks ++ raws) = readLines (number + remarks.length) raws := by
  induction remarks generalizing number with
  | nil => rfl
  | cons remark remarks ih =>
    obtain ⟨hremark, hrest⟩ := List.forall_mem_cons.1 h
    rw [List.cons_append, readLines, if_pos hremark.isSkipped, ih hrest, List.length_cons,
      Nat.add_assoc, Nat.add_comm 1]

/-- A remark moves the lines behind it by one. The induction is on the lines that are no remarks,
and only the first of them that is no step has its number moved. -/
theorem readLines_remarked (h : ∀ r ∈ script, ∀ remark ∈ r.remarks, IsRemark remark)
    (number : Nat) :
    readLines (number + 1) (script.flatMap Remarked.lines) =
      (readLines 1 (script.map Remarked.line)).mapError fun e =>
        ⟨number + e.line + remarksBefore script e.line, e.cause⟩ := by
  induction script generalizing number with
  | nil => rfl
  | cons r script ih =>
    obtain ⟨hremarks, hrest⟩ := List.forall_mem_cons.1 h
    have hmoved : ∀ n, number + 1 + r.remarks.length + n + remarksBefore script n =
        number + (1 + n) + remarksBefore (r :: script) (1 + n) := by
      intro n
      rw [remarksBefore_cons]
      omega
    have hlater : readLines (number + 1 + r.remarks.length + 1) (script.flatMap Remarked.lines) =
        (readLines 1 (script.map Remarked.line)).mapError fun e =>
          ⟨number + (1 + e.line) + remarksBefore (r :: script) (1 + e.line), e.cause⟩ := by
      simp only [← hmoved]
      exact ih hrest _
    have hfirst : number + 1 + r.remarks.length = number + 1 + remarksBefore (r :: script) 1 := by
      simp [remarksBefore]
    rw [List.flatMap_cons, Remarked.lines, List.append_assoc, List.singleton_append,
      readLines_remarks hremarks, List.map_cons, readLines, readLines, hlater, hfirst,
      readLines_add 1 1]
    split_ifs with hskipped
    · cases readLines 1 (script.map Remarked.line) <;> rfl
    · cases readStep (trim r.line) with
      | error cause => rfl
      | ok step => cases readLines 1 (script.map Remarked.line) <;> rfl

theorem read_remarked (hlines : script.map Remarked.line = cut ['\n'] text)
    (h : ∀ r ∈ script, ∀ remark ∈ r.remarks, '\n' ∉ remark ∧ IsRemark remark) :
    read (join ['\n'] (script.flatMap Remarked.lines)) =
      (read text).mapError fun e => ⟨e.line + remarksBefore script e.line, e.cause⟩ := by
  have hne : script.flatMap Remarked.lines ≠ [] := by
    cases hscript : script with
    | nil => exact absurd (hscript ▸ hlines).symm (cut_ne_nil (List.cons_ne_nil _ _) text)
    | cons r rest => simp [Remarked.lines]
  have hpieces : ∀ line ∈ script.flatMap Remarked.lines, '\n' ∉ line := by
    intro line hline
    obtain ⟨r, hr, hline⟩ := List.mem_flatMap.1 hline
    rcases List.mem_append.1 hline with hremark | hlast
    · exact (h r hr line hremark).1
    · have hcut : r.line ∈ cut ['\n'] text := hlines ▸ List.mem_map_of_mem hr
      rw [List.mem_singleton.1 hlast]
      exact not_mem_of_mem_cut hcut
  have hremarks : ∀ r ∈ script, ∀ remark ∈ r.remarks, IsRemark remark :=
    fun r hr remark hremark => (h r hr remark hremark).2
  have hread := readLines_remarked hremarks 0
  simp only [Nat.zero_add] at hread
  rw [read_eq_readLines_cut, cut_join hne hpieces, hread, hlines, ← read_eq_readLines_cut]

end Remarks

/-- The layout of a script does not matter: carriage returns before its line feeds, blank characters
around its lines and a line feed behind the last of them change neither the steps nor the error.
Remarks between the lines move the number in the error by as many as stand before that line, and
change nothing else. -/
theorem read_layout (text : List Char) :
    read (withReturns text) = read text ∧
    (∀ lines, List.Forall₂ Padded (cut ['\n'] text) lines →
      read (join ['\n'] lines) = read text) ∧
    read (text ++ ['\n']) = read text ∧
    ∀ script : List Remarked, script.map Remarked.line = cut ['\n'] text →
      (∀ r ∈ script, ∀ remark ∈ r.remarks, '\n' ∉ remark ∧ IsRemark remark) →
      read (join ['\n'] (script.flatMap Remarked.lines)) =
        (read text).mapError fun e => ⟨e.line + remarksBefore script e.line, e.cause⟩ :=
  ⟨read_withReturns text, fun _ => read_padded, read_append_lineFeed text,
    fun _ => read_remarked⟩

/-- A script of two lines, the second of which is no step, with blanks of several kinds around them
and with remarks before both. -/
theorem read_layout_bogus :
    List.Forall₂ Padded (cut ['\n'] "run\n@bogus".toList)
      ["\u00A0run \r".toList, "\u2028\t@bogus\u3000".toList] ∧
    read "\u00A0run \r\n\u2028\t@bogus\u3000".toList =
      .error ⟨2, .unknownDirective "bogus".toList⟩ ∧
    (∀ r ∈ [Remarked.mk [" # first".toList] "run".toList,
        ⟨["\r".toList, "\u0085#".toList], "@bogus".toList⟩],
      ∀ remark ∈ r.remarks, '\n' ∉ remark ∧ IsRemark remark) ∧
    read " # first\nrun\n\r\n\u0085#\n@bogus".toList =
      .error ⟨5, .unknownDirective "bogus".toList⟩ := by
  have hbare : read "run\n@bogus".toList = .error ⟨2, .unknownDirective "bogus".toList⟩ := by
    decide +kernel
  obtain ⟨-, hpadding, -, hremarks⟩ := read_layout "run\n@bogus".toList
  have hpadded : List.Forall₂ Padded (cut ['\n'] "run\n@bogus".toList)
      ["\u00A0run \r".toList, "\u2028\t@bogus\u3000".toList] := by
    refine .cons ?_ (.cons ?_ .nil)
    · exact @Padded.around ['\u00A0'] "run".toList [' ', '\r'] [] (by decide) (by decide) (.inl rfl)
    · exact @Padded.around ['\u2028', '\t'] "@bogus".toList ['\u3000'] [] (by decide) (by decide)
        (.inl rfl)
  have hscript : ∀ r ∈ [Remarked.mk [" # first".toList] "run".toList,
        ⟨["\r".toList, "\u0085#".toList], "@bogus".toList⟩],
      ∀ remark ∈ r.remarks, '\n' ∉ remark ∧ IsRemark remark := by
    decide +kernel
  refine ⟨hpadded, ?_, hscript, ?_⟩
  · exact (hpadding _ hpadded).trans hbare
  · refine (hremarks _ (by decide +kernel) hscript).trans ?_
    rw [hbare]
    rfl

end DebugControl.Script
