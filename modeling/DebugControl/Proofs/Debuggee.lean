import DebugControl.CommandLine
import DebugControl.Proofs.Text.Cut

/-!
# Reading a connector specification back

A connector specification has the options of a debuggee, a mark and its main class in one text, and
takes both as they are. If the mark occurs again in one of them, another debuggee has the same
specification: its options end at another of the marks. There is no other way for two specifications
to be the same.
-/

namespace DebugControl

namespace Text

variable {sep a b c d : List Char}

theorem exists_between_separators (hu : Unbordered sep) (h : a ++ sep ++ b = c ++ sep ++ d)
    (hlt : a.length < c.length) : ∃ x, c = a ++ sep ++ x ∧ b = x ++ sep ++ d := by
  have hclear : Clear sep c (sep ++ d) := hu.clear c d
  rw [List.append_assoc c] at h
  obtain ⟨x, rfl⟩ := hclear.append_prefix h.symm hlt
  refine ⟨x, rfl, ?_⟩
  rw [List.append_assoc (a ++ sep), List.append_right_inj] at h
  rw [h, List.append_assoc]

theorem append_separator_inj (hu : Unbordered sep) :
    a ++ sep ++ b = c ++ sep ++ d ↔
      (a = c ∧ b = d) ∨ (∃ x, c = a ++ sep ++ x ∧ b = x ++ sep ++ d) ∨
        ∃ x, a = c ++ sep ++ x ∧ d = x ++ sep ++ b := by
  constructor
  · intro h
    obtain hlt | heq | hlt := Nat.lt_trichotomy a.length c.length
    · exact .inr (.inl (exists_between_separators hu h hlt))
    · obtain ⟨hfront, hback⟩ := List.append_inj h (by simp [heq])
      exact .inl ⟨List.append_cancel_right hfront, hback⟩
    · exact .inr (.inr (exists_between_separators hu h.symm hlt))
  · rintro (⟨rfl, rfl⟩ | ⟨x, rfl, rfl⟩ | ⟨x, rfl, rfl⟩) <;> simp

end Text

namespace Debuggee

open Text

def classMark : String := ",main="

theorem unbordered_classMark : Unbordered classMark.toList := by decide

/-- The options of `d` end at one mark of a text, and those of `e` at a later mark of it. -/
def EndsBefore (d e : Debuggee) : Prop :=
  ∃ options between mainClass : String,
    d = ⟨between ++ classMark ++ mainClass, some options⟩ ∧
      e = ⟨mainClass, some (options ++ classMark ++ between)⟩

section Spec

variable (mainClass options : String)

theorem connectorSpec_none :
    connectorSpec ⟨mainClass, none⟩ = commandLineLaunch ++ ":" ++ "" ++ "main=" ++ mainClass := rfl

theorem connectorSpec_some :
    connectorSpec ⟨mainClass, some options⟩ =
      commandLineLaunch ++ ":" ++ ("options=" ++ options ++ ",") ++ "main=" ++ mainClass := rfl

theorem toList_connectorSpec_some :
    (connectorSpec ⟨mainClass, some options⟩).toList =
      (commandLineLaunch ++ ":options=").toList ++
        (options.toList ++ classMark.toList ++ mainClass.toList) := by
  simp [connectorSpec_some, classMark, String.toList_append]

end Spec

theorem connectorSpec_none_inj {mainClass mainClass' : String} :
    connectorSpec ⟨mainClass, none⟩ = connectorSpec ⟨mainClass', none⟩ ↔ mainClass = mainClass' := by
  simp [connectorSpec_none, ← String.toList_inj, String.toList_append]

theorem connectorSpec_none_ne_some (mainClass mainClass' options : String) :
    connectorSpec ⟨mainClass, none⟩ ≠ connectorSpec ⟨mainClass', some options⟩ := by
  intro h
  rw [← String.toList_inj, connectorSpec_none, toList_connectorSpec_some] at h
  simp [commandLineLaunch, String.toList_append] at h

theorem connectorSpec_some_inj {mainClass mainClass' options options' : String} :
    connectorSpec ⟨mainClass, some options⟩ = connectorSpec ⟨mainClass', some options'⟩ ↔
      (options = options' ∧ mainClass = mainClass') ∨
        (∃ x, options' = options ++ classMark ++ x ∧ mainClass = x ++ classMark ++ mainClass') ∨
          ∃ x, options = options' ++ classMark ++ x ∧ mainClass' = x ++ classMark ++ mainClass := by
  have hsurjective : Function.Surjective String.toList := fun x =>
    ⟨String.ofList x, String.toList_ofList⟩
  rw [← String.toList_inj, toList_connectorSpec_some, toList_connectorSpec_some,
    List.append_right_inj, append_separator_inj unbordered_classMark, hsurjective.exists,
    hsurjective.exists]
  simp only [← String.toList_append, String.toList_inj]

theorem endsBefore_some_iff {mainClass mainClass' options options' : String} :
    EndsBefore ⟨mainClass, some options⟩ ⟨mainClass', some options'⟩ ↔
      ∃ x, options' = options ++ classMark ++ x ∧ mainClass = x ++ classMark ++ mainClass' := by
  constructor
  · rintro ⟨o, x, c, hd, he⟩
    cases hd
    cases he
    exact ⟨x, rfl, rfl⟩
  · rintro ⟨x, rfl, rfl⟩
    exact ⟨options, x, mainClass', rfl, rfl⟩

/-- Two debuggees have the same specification exactly if they are the same or if the options of one
end at a later mark of the same text; and the arguments tell no more than the specification. -/
theorem connectorSpec_eq_iff (d e : Debuggee) :
    (d.connectorSpec = e.connectorSpec ↔ d = e ∨ d.EndsBefore e ∨ e.EndsBefore d) ∧
      (d.connectorArgs = e.connectorArgs ↔ d.connectorSpec = e.connectorSpec) := by
  refine ⟨?_, by simp [connectorArgs]⟩
  obtain ⟨mainClass, options⟩ := d
  obtain ⟨mainClass', options'⟩ := e
  cases options with
  | none =>
    cases options' with
    | none => simp [connectorSpec_none_inj, EndsBefore]
    | some options' => simp [connectorSpec_none_ne_some, EndsBefore]
  | some options =>
    cases options' with
    | none => simp [(connectorSpec_none_ne_some _ _ _).symm, EndsBefore]
    | some options' =>
      have heq : (⟨mainClass, some options⟩ : Debuggee) = ⟨mainClass', some options'⟩ ↔
          options = options' ∧ mainClass = mainClass' := by
        rw [Debuggee.mk.injEq, Option.some.injEq, and_comm]
      rw [connectorSpec_some_inj, heq, endsBefore_some_iff, endsBefore_some_iff]

/-- Both are taken from the command line, and their specifications cannot be told apart. -/
theorem connectorSpec_not_injective :
    let d : Debuggee := ⟨"y,main=z", some "x"⟩
    let e : Debuggee := ⟨"z", some "x,main=y"⟩
    Invocation.read? ["launch-args", "--main", "y,main=z", "--options", "x"] =
        some (.request none (.launchArgs d)) ∧
      Invocation.read? ["launch-args", "--main", "z", "--options", "x,main=y"] =
        some (.request none (.launchArgs e)) ∧
      d.connectorSpec = e.connectorSpec ∧ d.mainClass ≠ e.mainClass ∧ d.options ≠ e.options :=
  ⟨by decide +kernel, by decide +kernel, rfl, by decide, by decide⟩

end Debuggee

end DebugControl
