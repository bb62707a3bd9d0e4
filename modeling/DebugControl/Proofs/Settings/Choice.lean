import DebugControl.Settings.Stored

/-!
# Settings that a document names

A document may name any of the settings, in sections that are tables or arrays, or may leave a
section out. The settings that it names take the place of the defaults, and those that it does not
name keep them, in whatever order and among whatever else they stand.
-/

namespace DebugControl

/-- The settings that are named somewhere, each with its value. -/
structure Choice where
  level : Option String
  json : Option Bool
  poll : Option Nat
  timeout : Option Nat
  tool : Option String
  extraArgs : Option (List String)

namespace Choice

open Toml

def onto (c : Choice) (s : Settings) : Settings where
  log := ⟨c.level.getD s.log.level, c.json.getD s.log.json⟩
  timing := ⟨c.poll.getD s.timing.poll, c.timeout.getD s.timing.timeout⟩
  debugger := ⟨c.tool.getD s.debugger.tool, c.extraArgs.getD s.debugger.extraArgs⟩

def all (s : Settings) : Choice :=
  ⟨some s.log.level, some s.log.json, some s.timing.poll, some s.timing.timeout,
    some s.debugger.tool, some s.debugger.extraArgs⟩

theorem onto_all (s s' : Settings) : (all s).onto s' = s := rfl

def textValue (t : String) : Value := .text t.toList

def numberValue (n : Nat) : Value := .integer n

def textsValue (texts : List String) : Value := .array (texts.map textValue)

/-- The names of the settings of a section, in the order in which an array lists them, with what is
chosen for each. -/
abbrev Named := List (String × Option Value)

def log (c : Choice) : Named :=
  [("log_level", c.level.map textValue), ("log_json", c.json.map .boolean)]

def timing (c : Choice) : Named :=
  [("poll_interval_ms", c.poll.map numberValue), ("timeout_ms", c.timeout.map numberValue)]

def debugger (c : Choice) : Named :=
  [("tool", c.tool.map textValue), ("extra_args", c.extraArgs.map textsValue)]

/-- A section, which may be missing, names what is chosen and none of its other settings. -/
inductive Names (named : Named) : Option Value → Prop where
  | absent (h : ∀ p ∈ named, p.2 = none) : Names named none
  | table (origin : Origin) {entries : Entries} (h : ∀ p ∈ named, entries.lookup p.1.toList = p.2) :
      Names named (some (.table origin entries))
  | array {items : List Value}
      (h : ∀ (i : Nat) (p : String × Option Value), named[i]? = some p → items[i]? = p.2) :
      Names named (some (.array items))

section Pair

variable {a b : String × Option Value}

theorem names_table {origin : Origin} {entries : Entries}
    (ha : entries.lookup a.1.toList = a.2) (hb : entries.lookup b.1.toList = b.2) :
    Names [a, b] (some (.table origin entries)) :=
  .table origin (List.forall_mem_cons.2 ⟨ha, List.forall_mem_singleton.2 hb⟩)

theorem names_array {items : List Value} (ha : items[0]? = a.2) (hb : items[1]? = b.2) :
    Names [a, b] (some (.array items)) :=
  .array fun
    | 0, _, rfl => ha
    | 1, _, rfl => hb

end Pair

structure NamedBy (c : Choice) (document : Entries) : Prop where
  log : Names c.log (document.lookup "general".toList)
  timing : Names c.timing (document.lookup "session".toList)
  debugger : Names c.debugger (document.lookup "debugger".toList)

end Choice

namespace Stored

open Toml Choice

variable {document : Entries} {c : Choice}

/-! ## Two kinds of defaults -/

theorem log?_empty : log? (.named []) = some LogSettings.default := rfl

theorem timing?_empty : timing? (.named []) = some Timing.default := rfl

theorem debugger?_empty : debugger? (.named []) = some DebuggerSettings.default := rfl

/-- A document that lacks a section reads like one in which the section is empty, if the default of
the section is made up of those of its settings. -/
theorem section?_of_absent {α : Type} {name : String} {read : Section → Option α} {missing : α}
    (hempty : read (.named []) = some missing)
    (habsent : document.lookup name.toList = none) : section? document name read missing =
      Stored.section? ((name.toList, .table .header []) :: document) name read missing := by
  rw [section?, habsent, section?, List.lookup_cons_self]
  exact hempty.symm

/-! ## What a section names -/

/-- Whatever form a section has, it gives each setting the value that is chosen for it. -/
theorem section?_of_names {α : Type} {name : String} {named : Named} {read : Section → Option α}
    {missing : α} (hempty : read (.named []) = some missing)
    (h : Names named (document.lookup name.toList)) :
    ∃ s, section? document name read missing = read s ∧
      ∀ (i : Nat) (p : String × Option Value), named[i]? = some p → s.value? p.1 i = p.2 := by
  generalize hvalue : document.lookup name.toList = value at h
  cases h with
  | absent hnone =>
    refine ⟨.named [], ?_, fun i p hp => (hnone p (List.mem_of_getElem? hp)).symm⟩
    rw [section?_of_absent hempty hvalue, section?, List.lookup_cons_self]
    rfl
  | @table origin entries hentries =>
    refine ⟨.named entries, ?_, fun i p hp => hentries p (List.mem_of_getElem? hp)⟩
    rw [section?, hvalue]
    rfl
  | @array items hitems =>
    refine ⟨.listed items, ?_, hitems⟩
    rw [section?, hvalue]
    rfl

theorem setting_of_value? {α : Type} {s : Section} {name : String} {position : Nat}
    {read : Value → Option α} {write : α → Value} {chosen : Option α}
    (h : s.value? name position = chosen.map write) (hread : ∀ a, read (write a) = some a)
    (missing : α) : s.setting name position read missing = some (chosen.getD missing) := by
  rw [Section.setting, h]
  cases chosen with
  | none => rfl
  | some a => exact hread a

theorem text?_textValue (t : String) : text? (textValue t) = some t := by
  simp [text?, textValue]

theorem natural?_numberValue (n : Nat) : natural? (numberValue n) = some n := by
  simp [natural?, numberValue]

theorem texts?_textsValue (texts : List String) : texts? (textsValue texts) = some texts := by
  rw [textsValue, texts?]
  induction texts with
  | nil => rfl
  | cons t texts ih =>
    rw [List.map_cons, List.mapM_cons, text?_textValue, ih]
    rfl

theorem settings?_of_namedBy (h : c.NamedBy document) :
    settings? document = some (c.onto .default) := by
  obtain ⟨log, hlog, hlogValue⟩ := section?_of_names log?_empty h.log
  obtain ⟨timing, htiming, htimingValue⟩ := section?_of_names timing?_empty h.timing
  obtain ⟨debugger, hdebugger, hdebuggerValue⟩ := section?_of_names debugger?_empty h.debugger
  have hlogRead : log? log = some (c.onto .default).log := by
    have hlevel : log.value? "log_level" 0 = c.level.map textValue := hlogValue 0 _ rfl
    have hjson : log.value? "log_json" 1 = c.json.map .boolean := hlogValue 1 _ rfl
    rw [log?, setting_of_value? hlevel text?_textValue, setting_of_value? hjson fun _ => rfl]
    rfl
  have htimingRead : timing? timing = some (c.onto .default).timing := by
    have hpoll : timing.value? "poll_interval_ms" 0 = c.poll.map numberValue :=
      htimingValue 0 _ rfl
    have htimeout : timing.value? "timeout_ms" 1 = c.timeout.map numberValue :=
      htimingValue 1 _ rfl
    rw [timing?, setting_of_value? hpoll natural?_numberValue,
      setting_of_value? htimeout natural?_numberValue]
    rfl
  have hdebuggerRead : debugger? debugger = some (c.onto .default).debugger := by
    have htool : debugger.value? "tool" 0 = c.tool.map textValue := hdebuggerValue 0 _ rfl
    have hargs : debugger.value? "extra_args" 1 = c.extraArgs.map textsValue :=
      hdebuggerValue 1 _ rfl
    rw [debugger?, setting_of_value? htool text?_textValue,
      setting_of_value? hargs texts?_textsValue]
    rfl
  rw [settings?, hlog, htiming, hdebugger, hlogRead, htimingRead, hdebuggerRead]
  rfl

end Stored

end DebugControl
