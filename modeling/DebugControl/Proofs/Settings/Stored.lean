import DebugControl.Proofs.Settings.Choice
import DebugControl.Proofs.Toml.Document
import DebugControl.Proofs.Utf8.Stream

/-!
# Stored settings read back

The document that is written for some settings is one of three tables, so that the reader finds each
setting under its name. Settings that can work, and whose times fit into the integers of a document,
are therefore the same after they were written and read.
-/

namespace DebugControl

namespace Text

theorem trim_eq_nil_iff (text : List Char) : trim text = [] ↔ ∀ c ∈ text, isBlank c = true := by
  have hend : trim text = [] ↔ ∀ c ∈ text.dropWhile isBlank, isBlank c = true := by
    rw [trim, trimEnd, List.reverse_eq_nil_iff, List.dropWhile_eq_nil_iff]
    simp only [List.mem_reverse]
  rw [hend]
  constructor
  · intro h c hc
    rw [← List.takeWhile_append_dropWhile (p := isBlank) (l := text), List.mem_append] at hc
    exact hc.elim (List.mem_takeWhile_imp ·) (h c)
  · exact fun h c hc => h c ((List.dropWhile_sublist isBlank).mem hc)

end Text

namespace Utf8

theorem decode?_encode (text : List Char) : decode? (encode text) = some text := by
  have hdecode : decode (encode text) = text := by
    have h := decode_encode_append text []
    simpa using h
  rw [decode?, hdecode]
  exact if_pos rfl

end Utf8

namespace Stored

open Toml

def textField (key text : String) : Field := ⟨key.toList, writeText text.toList, .text text.toList⟩

def booleanField (key : String) (b : Bool) : Field := ⟨key.toList, writeBoolean b, .boolean b⟩

def numberField (key : String) (n : Nat) : Field := ⟨key.toList, (toString n).toList, .integer n⟩

def textsField (key : String) (texts : List String) : Field :=
  let items := texts.map fun t => (writeText t.toList, Value.text t.toList)
  ⟨key.toList, writeArray (items.map Prod.fst), .array (items.map Prod.snd)⟩

def tables (s : Settings) : List Table :=
  [⟨"general".toList, [textField "log_level" s.log.level, booleanField "log_json" s.log.json]⟩,
    ⟨"session".toList,
      [numberField "poll_interval_ms" s.timing.poll, numberField "timeout_ms" s.timing.timeout]⟩,
    ⟨"debugger".toList,
      [textField "tool" s.debugger.tool, textsField "extra_args" s.debugger.extraArgs]⟩]

theorem writeSettings_eq (s : Settings) : writeSettings s = writeDocument [] (tables s) := by
  simp [writeSettings, writeDocument, writeTables, Table.write, tables, textField, booleanField,
    numberField, textsField, Function.comp_def]

theorem written_textField (key text : String) :
    Written (depthLimit - 1) (textField key text).text (textField key text).value :=
  (written_text text.toList).mono (Nat.zero_le _)

theorem written_booleanField (key : String) (b : Bool) :
    Written (depthLimit - 1) (booleanField key b).text (booleanField key b).value :=
  (written_boolean b).mono (Nat.zero_le _)

theorem written_numberField (key : String) {n : Nat} (hn : n < integerLimit) :
    Written (depthLimit - 1) (numberField key n).text (numberField key n).value :=
  (written_number hn).mono (Nat.zero_le _)

theorem written_textsField (key : String) (texts : List String) :
    Written (depthLimit - 1) (textsField key texts).text (textsField key texts).value := by
  have hitems : ∀ p ∈ texts.map fun t => (writeText t.toList, Value.text t.toList),
      Written 0 p.1 p.2 := by
    intro p hp
    obtain ⟨t, -, rfl⟩ := List.mem_map.1 hp
    exact written_text t.toList
  exact (written_array hitems).mono (by decide)

theorem sound_pair {name : Key} {a b : Field} (hname : Bare name) (ha : Bare a.key)
    (hb : Bare b.key) (hab : a.key ≠ b.key) (hva : Written (depthLimit - 1) a.text a.value)
    (hvb : Written (depthLimit - 1) b.text b.value) : Table.Sound ⟨name, [a, b]⟩ where
  name := hname
  fields := List.forall_mem_cons.2 ⟨⟨ha, hva⟩, List.forall_mem_singleton.2 ⟨hb, hvb⟩⟩
  distinct := List.nodup_cons.2 ⟨fun h => hab (List.mem_singleton.1 h), List.pairwise_singleton _ _⟩

theorem tables_sound {s : Settings} (hpoll : s.timing.poll < integerLimit)
    (htimeout : s.timing.timeout < integerLimit) : ∀ t ∈ tables s, t.Sound := by
  have bare : ∀ name ∈ ["general", "session", "debugger", "log_level", "log_json",
      "poll_interval_ms", "timeout_ms", "tool", "extra_args"], Bare name.toList := by
    decide
  have hlog : "log_level".toList ≠ "log_json".toList := by decide
  have htiming : "poll_interval_ms".toList ≠ "timeout_ms".toList := by decide
  have hdebugger : "tool".toList ≠ "extra_args".toList := by decide
  refine List.forall_mem_cons.2 ⟨?_, List.forall_mem_cons.2 ⟨?_, List.forall_mem_singleton.2 ?_⟩⟩
  · exact sound_pair (bare _ (by decide)) (bare "log_level" (by decide))
      (bare "log_json" (by decide)) hlog (written_textField _ _) (written_booleanField _ _)
  · exact sound_pair (bare _ (by decide)) (bare "poll_interval_ms" (by decide))
      (bare "timeout_ms" (by decide)) htiming (written_numberField _ hpoll)
      (written_numberField _ htimeout)
  · exact sound_pair (bare _ (by decide)) (bare "tool" (by decide))
      (bare "extra_args" (by decide)) hdebugger (written_textField _ _) (written_textsField _ _)

theorem lookup_pair {a b : Field} (hab : a.key ≠ b.key) :
    [a.entry, b.entry].lookup a.key = some a.value ∧
      [a.entry, b.entry].lookup b.key = some b.value := by
  have hb : ([a.entry] ++ [(b.key, b.value)]).lookup b.key = some b.value :=
    Entries.lookup_append_self fun h => hab (List.mem_singleton.1 h).symm
  exact ⟨List.lookup_cons_self, hb⟩

theorem textsField_value (key : String) (texts : List String) :
    (textsField key texts).value = Choice.textsValue texts := by
  simp [textsField, Choice.textsValue, Choice.textValue, Function.comp_def]

theorem namedBy_tables (s : Settings) : (Choice.all s).NamedBy (documentEntries [] (tables s)) := by
  have hlog := @lookup_pair (textField "log_level" s.log.level) (booleanField "log_json" s.log.json)
    (by decide : "log_level".toList ≠ "log_json".toList)
  have htiming := @lookup_pair (numberField "poll_interval_ms" s.timing.poll)
    (numberField "timeout_ms" s.timing.timeout)
    (by decide : "poll_interval_ms".toList ≠ "timeout_ms".toList)
  have hdebugger := @lookup_pair (textField "tool" s.debugger.tool)
    (textsField "extra_args" s.debugger.extraArgs) (by decide : "tool".toList ≠ "extra_args".toList)
  rw [textsField_value] at hdebugger
  exact ⟨Choice.names_table hlog.1 hlog.2, Choice.names_table htiming.1 htiming.2,
    Choice.names_table hdebugger.1 hdebugger.2⟩

theorem read_writeSettings {s : Settings} (hpoll : s.timing.poll < integerLimit)
    (htimeout : s.timing.timeout < integerLimit) :
    (Toml.read (writeSettings s)).bind settings? = some s := by
  have hnames : ((documentEntries [] (tables s)).map Prod.fst).Nodup := by
    have hliterals : ["general".toList, "session".toList, "debugger".toList].Nodup := by decide
    exact hliterals
  rw [writeSettings_eq, read_writeDocument (List.forall_mem_nil _) (tables_sound hpoll htimeout)
    hnames, Option.bind_some, settings?_of_namedBy (namedBy_tables s), Choice.onto_all]

end Stored

namespace Settings

open Stored Toml

/-- Settings that cannot work. -/
def Unfit (s : Settings) : Prop :=
  s.timing.poll = 0 ∨ s.timing.timeout < s.timing.poll ∨
    ∀ c ∈ s.debugger.tool.toList, Text.isBlank c = true

theorem validate_of_unfit {s : Settings} (h : s.Unfit) : ∃ v, s.validate = .error v := by
  cases ht : s.timing.validate with
  | error v => exact ⟨v, by rw [validate, ht]; rfl⟩
  | ok u =>
    have hblank : Text.trim s.debugger.tool.toList = [] := by
      rw [Timing.validate] at ht
      split_ifs at ht with hzero hshort
      obtain h | h | h := h
      · exact absurd h hzero
      · exact absurd h hshort
      · exact (Text.trim_eq_nil_iff _).2 h
    exact ⟨.noTool, by rw [validate, ht, DebuggerSettings.validate, if_pos hblank]; rfl⟩

theorem validate_of_not_unfit {s : Settings} (h : ¬ s.Unfit) : s.validate = .ok () := by
  obtain ⟨hzero, h⟩ := not_or.1 h
  obtain ⟨hshort, hblank⟩ := not_or.1 h
  have htool : ¬ Text.trim s.debugger.tool.toList = [] := fun ht =>
    hblank ((Text.trim_eq_nil_iff _).1 ht)
  rw [validate, Timing.validate, if_neg hzero, if_neg hshort, DebuggerSettings.validate,
    if_neg htool]
  rfl

theorem validated_of_not_unfit {s : Settings} (h : ¬ s.Unfit) : s.validated = .ok s := by
  rw [validated, validate_of_not_unfit h]

/-- Some time exceeds `2 ^ 63 - 1`, the largest integer of a document. -/
def Oversized (s : Settings) : Prop :=
  0x7FFFFFFFFFFFFFFF < s.timing.poll ∨ 0x7FFFFFFFFFFFFFFF < s.timing.timeout

theorem oversized_iff {s : Settings} :
    s.Oversized ↔ integerLimit ≤ s.timing.poll ∨ integerLimit ≤ s.timing.timeout := by
  unfold Oversized integerLimit
  omega

theorem write_of_unfit {s : Settings} (h : s.Unfit) :
    ∃ message, s.write = .error (.invalid message) := by
  obtain ⟨v, hv⟩ := validate_of_unfit h
  exact ⟨v.message, by rw [write, validated, hv]; rfl⟩

theorem write_of_oversized {s : Settings} (h : ¬ s.Unfit) (hs : s.Oversized) :
    ∃ message, s.write = .error (.malformed message) := by
  refine ⟨"out-of-range integer", ?_⟩
  rw [write, validated_of_not_unfit h]
  exact if_pos (oversized_iff.1 hs)

theorem write_of_not_oversized {s : Settings} (h : ¬ s.Unfit) (hs : ¬ s.Oversized) :
    s.write = .ok (writeSettings s) := by
  rw [write, validated_of_not_unfit h]
  exact if_neg (mt oversized_iff.2 hs)

theorem loadFile_encode (text : List Char) : loadFile (.ok (Utf8.encode text)) = readText text := by
  rw [loadFile, load, Utf8.decode?_encode]

theorem load_writeSettings {s : Settings} (h : ¬ s.Unfit) (hs : ¬ s.Oversized) :
    loadFile (.ok (Utf8.encode (writeSettings s))) = .ok s := by
  obtain ⟨hpoll, htimeout⟩ := not_or.1 (mt oversized_iff.2 hs)
  have hread := read_writeSettings (Nat.lt_of_not_le hpoll) (Nat.lt_of_not_le htimeout)
  simp only [loadFile_encode, readText, hread, validated_of_not_unfit h]

/-- Writing fails as invalid exactly if the settings cannot work, and otherwise as malformed exactly
if one of the times does not fit into an integer of a document; what is written in all other cases
reads back as the settings that were written. -/
theorem write_load (s : Settings) :
    ((∃ message, s.write = .error (.invalid message)) ↔ s.Unfit) ∧
    ((∃ message, s.write = .error (.malformed message)) ↔ ¬ s.Unfit ∧ s.Oversized) ∧
    ((∃ text, s.write = .ok text ∧ loadFile (.ok (Utf8.encode text)) = .ok s) ↔
      ¬ s.Unfit ∧ ¬ s.Oversized) := by
  by_cases hu : s.Unfit
  · obtain ⟨m, hm⟩ := write_of_unfit hu
    simp [hm, hu]
  · by_cases ho : s.Oversized
    · obtain ⟨m, hm⟩ := write_of_oversized hu ho
      simp [hm, hu, ho]
    · have hw := write_of_not_oversized hu ho
      simp [hw, hu, ho, load_writeSettings hu ho]

end Settings

end DebugControl
