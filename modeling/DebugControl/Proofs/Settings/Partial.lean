import DebugControl.Proofs.Settings.Stored

/-!
# Settings of a partial file

A file that names some of the settings, in sections that are tables or arrays, stands for the
defaults with these settings in their place. They are then checked as a whole, so that what is given
may also be at odds with a default.
-/

namespace DebugControl.Settings

open Toml Stored Choice

theorem loadFile_of_namedBy {text : List Char} {document : Entries} {c : Choice}
    (hread : Toml.read text = some document) (h : c.NamedBy document) :
    loadFile (.ok (Utf8.encode text)) = (c.onto .default).validated := by
  simp only [loadFile_encode, readText, hread, Option.bind_some, settings?_of_namedBy h]

/-- A file that names some settings gives the defaults with these settings in their place if that
can work, and otherwise says why it cannot. This holds of whatever reads as a document, and fields
and tables that are written one after the other do so if no name is given twice. -/
theorem load_named :
    (∀ (text : List Char) (document : Entries) (c : Choice), Toml.read text = some document →
      c.NamedBy document →
      loadFile (.ok (Utf8.encode text)) =
        match (c.onto .default).validate with
        | .ok () => .ok (c.onto .default)
        | .error v => .error (.invalid v.message)) ∧
    ∀ (front : List Field) (tables : List Table) (c : Choice),
      (∀ f ∈ front, Bare f.key ∧ Written (depthLimit - 1) f.text f.value) →
      (∀ t ∈ tables, t.Sound) →
      ((documentEntries front tables).map Prod.fst).Nodup →
      c.NamedBy (documentEntries front tables) →
      loadFile (.ok (Utf8.encode (writeDocument front tables))) =
        match (c.onto .default).validate with
        | .ok () => .ok (c.onto .default)
        | .error v => .error (.invalid v.message) := by
  refine ⟨fun text document c hread h => loadFile_of_namedBy hread h, ?_⟩
  intro front tables c hfront htables hnames h
  exact loadFile_of_namedBy (read_writeDocument hfront htables hnames) h

set_option maxRecDepth 2000 in
/-- The wait that is given is longer than the default timeout in one file, but not in the other. -/
theorem load_named_amidUnknown :
    let text := "session = [70000]
[[other]]
tool = 1979-05-27
[debugger] # the default one
extra_args = [\"-v\"]
[general]
log_json = true
log.json = 1
".toList
    let document : Entries := [("session".toList, .array [.integer 70000]),
      ("other".toList, .tables [("tool".toList, .moment)] []),
      ("debugger".toList, .table .header [("extra_args".toList, .array [.text "-v".toList])]),
      ("general".toList, .table .header
        [("log_json".toList, .boolean true),
          ("log".toList, .table .dotted [("json".toList, .integer 1)])])]
    let named : Choice := ⟨none, some true, some 70000, none, none, some ["-v"]⟩
    let front : List Field := [⟨"session".toList, "[250]".toList, .array [.integer 250]⟩]
    let tables : List Table :=
      [⟨"debugger".toList, [textField "tool" "gdb", numberField "attach" 1]⟩,
        ⟨"general".toList, []⟩]
    let fewer : Choice := ⟨none, none, some 250, none, some "gdb", none⟩
    (Toml.read text = some document ∧ named.NamedBy document ∧
      loadFile (.ok (Utf8.encode text)) =
        .error (.invalid (Violation.timeoutTooShort 60000 70000).message)) ∧
    ((∀ f ∈ front, Bare f.key ∧ Written (depthLimit - 1) f.text f.value) ∧
      (∀ t ∈ tables, t.Sound) ∧ ((documentEntries front tables).map Prod.fst).Nodup ∧
      fewer.NamedBy (documentEntries front tables) ∧
      loadFile (.ok (Utf8.encode (writeDocument front tables))) =
        .ok ⟨.default, ⟨250, 60000⟩, ⟨"gdb", []⟩⟩) := by
  intro text document named front tables fewer
  have hread : Toml.read text = some document := by rfl
  have hnamed : named.NamedBy document :=
    ⟨names_table (Entries.lookup_eq_none (by decide)) List.lookup_cons_self, names_array rfl rfl,
      names_table (Entries.lookup_eq_none (by decide)) List.lookup_cons_self⟩
  have hfront : ∀ f ∈ front, Bare f.key ∧ Written (depthLimit - 1) f.text f.value := by
    have hwait : ∀ p ∈ [("250".toList, Value.integer 250)], Written 0 p.1 p.2 :=
      List.forall_mem_singleton.2 (written_number (by decide : 250 < integerLimit))
    exact List.forall_mem_singleton.2 ⟨by decide, (written_array hwait).mono (by decide)⟩
  have htables : ∀ t ∈ tables, t.Sound := by
    refine List.forall_mem_cons.2 ⟨?_, List.forall_mem_singleton.2 ?_⟩
    · exact sound_pair (by decide) (by decide) (by decide) (by decide)
        (written_textField _ _) (written_numberField _ (by decide))
    · exact ⟨by decide, List.forall_mem_nil _, List.nodup_nil⟩
  have hnames : ((documentEntries front tables).map Prod.fst).Nodup := by decide
  have hfewer : fewer.NamedBy (documentEntries front tables) :=
    ⟨names_table rfl rfl, names_array rfl rfl,
      names_table List.lookup_cons_self (Entries.lookup_eq_none (by decide))⟩
  have hvalid : (fewer.onto .default).validate = .ok () := by decide
  refine ⟨⟨hread, hnamed, ?_⟩, hfront, htables, hnames, hfewer, ?_⟩
  · exact (load_named.1 text document named hread hnamed).trans rfl
  · exact (load_named.2 front tables fewer hfront htables hnames hfewer).trans (by rw [hvalid]; rfl)

end DebugControl.Settings
