import DebugControl.Proofs.Toml.Statement

/-!
# Documents of tables read back

A document of tables, each a header and a line for every field, with a blank line before each header
but the first. It reads as the statements of these tables; and if the names of the tables differ, and
the names of the fields of each table, then the statements bring about these tables and no others.
-/

namespace DebugControl.Toml

/-- A named value and the text that is written for it. -/
structure Field where
  key : Key
  text : List Char
  value : Value

structure Table where
  name : Key
  fields : List Field

def Field.entry (f : Field) : Key × Value := (f.key, f.value)

namespace Table

def entries (t : Table) : Entries := t.fields.map Field.entry

def entry (t : Table) : Key × Value := (t.name, .table .header t.entries)

def write (t : Table) : List Char :=
  writeHeader t.name ++ t.fields.flatMap fun f => writeAssignment f.key f.text

def statements (t : Table) : List Statement :=
  .header [] t.name :: t.fields.map fun f => .assignment [] f.key f.value

structure Sound (t : Table) : Prop where
  name : Bare t.name
  fields : ∀ f ∈ t.fields, Bare f.key ∧ Written (depthLimit - 1) f.text f.value
  distinct : (t.entries.map Prod.fst).Nodup

end Table

/-- Tables one after the other, with a blank line between two of them. -/
def writeTables : List Table → List Char
  | [] => []
  | [t] => t.write
  | t :: ts => t.write ++ '\n' :: writeTables ts

variable {t : Table} {ts : List Table}

theorem readsAs_fields {fields : List Field} {s : List Char} {sts : List Statement}
    (hfields : ∀ f ∈ fields, Bare f.key ∧ Written (depthLimit - 1) f.text f.value)
    (h : ReadsAs s sts) :
    ReadsAs ((fields.flatMap fun f => writeAssignment f.key f.text) ++ s)
      (fields.map (fun f => Statement.assignment [] f.key f.value) ++ sts) := by
  induction fields with
  | nil => exact h
  | cons f fields ih =>
    obtain ⟨⟨hk, hv⟩, hlater⟩ := List.forall_mem_cons.1 hfields
    rw [List.flatMap_cons, List.append_assoc, List.map_cons, List.cons_append]
    exact (ih hlater).assignment hk hv

theorem Table.Sound.readsAs {s : List Char} {sts : List Statement} (ht : t.Sound)
    (h : ReadsAs s sts) : ReadsAs (t.write ++ s) (t.statements ++ sts) := by
  rw [Table.write, Table.statements, List.append_assoc, List.cons_append]
  exact (readsAs_fields ht.fields h).header ht.name

theorem readsAs_writeTables (h : ∀ t ∈ ts, t.Sound) :
    ReadsAs (writeTables ts) (ts.flatMap Table.statements) := by
  induction ts with
  | nil => exact readsAs_nil
  | cons t ts ih =>
    obtain ⟨hfirst, hlater⟩ := List.forall_mem_cons.1 h
    cases ts with
    | nil =>
      have ht := hfirst.readsAs readsAs_nil
      rwa [List.append_nil] at ht
    | cons t' ts => exact hfirst.readsAs (ih hlater).blank

/-! ## What the statements bring about -/

namespace Entries

variable {entries : Entries} {key : Key} {v w : Value}

theorem lookup_eq_none (h : key ∉ entries.map Prod.fst) : entries.lookup key = none := by
  refine List.lookup_eq_none_iff.2 fun e he => ?_
  have hne : key ≠ e.1 := fun heq => h (heq ▸ List.mem_map_of_mem he)
  simpa using hne

theorem not_mem_of_nodup {later : Entries} {e : Key × Value}
    (h : ((entries ++ e :: later).map Prod.fst).Nodup) : e.1 ∉ entries.map Prod.fst := by
  intro hmem
  rw [List.map_append, List.nodup_append] at h
  exact h.2.2 _ hmem _ List.mem_cons_self rfl

theorem lookup_append_self (h : key ∉ entries.map Prod.fst) :
    (entries ++ [(key, v)]).lookup key = some v := by
  rw [List.lookup_append, lookup_eq_none h, List.lookup_cons_self]
  rfl

theorem replace_append_self (h : key ∉ entries.map Prod.fst) :
    replace (entries ++ [(key, v)]) key w = entries ++ [(key, w)] := by
  have hsame : entries.map (fun e => if e.1 = key then (key, w) else e) = entries := by
    refine (List.map_congr_left fun e he => if_neg ?_).trans (List.map_id _)
    exact fun heq => h (heq ▸ List.mem_map_of_mem he)
  rw [replace, List.map_append, hsame]
  simp

theorem assign_nil (h : key ∉ entries.map Prod.fst) :
    assign entries [] key v = some (entries ++ [(key, v)]) := by
  simp [assign, atPath, add, lookup_eq_none h]

theorem openTable_new (h : key ∉ entries.map Prod.fst) :
    openTable entries key = some (entries ++ [(key, .table .header [])]) := by
  simp [openTable, lookup_eq_none h]

end Entries

namespace Draft

variable {root entries : Entries} {name key : Key} {v : Value}

theorem carryOut_header {current : List Key} (h : name ∉ root.map Prod.fst) :
    carryOut ⟨root, current⟩ (.header [] name) =
      some ⟨root ++ [(name, .table .header [])], [name]⟩ := by
  simp [carryOut, Entries.atPath, Entries.openTable_new h]

theorem carryOut_assignment (hname : name ∉ root.map Prod.fst) (hkey : key ∉ entries.map Prod.fst) :
    carryOut ⟨root ++ [(name, .table .header entries)], [name]⟩ (.assignment [] key v) =
      some ⟨root ++ [(name, .table .header (entries ++ [(key, v)]))], [name]⟩ := by
  simp [carryOut, Entries.atPath, Entries.lookup_append_self hname, Entries.assign_nil hkey,
    Entries.replace_append_self hname]

theorem foldlM_fields (hname : name ∉ root.map Prod.fst) {fields : List Field}
    (h : ((entries ++ fields.map Field.entry).map Prod.fst).Nodup) :
    (fields.map fun f => Statement.assignment [] f.key f.value).foldlM carryOut
        ⟨root ++ [(name, .table .header entries)], [name]⟩ =
      some ⟨root ++ [(name, .table .header (entries ++ fields.map Field.entry))], [name]⟩ := by
  induction fields generalizing entries with
  | nil => simp
  | cons f fields ih =>
    have hkey : f.key ∉ entries.map Prod.fst := Entries.not_mem_of_nodup h
    have hlater : entries ++ (f :: fields).map Field.entry =
        entries ++ [f.entry] ++ fields.map Field.entry := by simp
    rw [hlater] at h ⊢
    rw [List.map_cons, List.foldlM_cons, carryOut_assignment hname hkey]
    exact ih h

theorem foldlM_table {t : Table} {current : List Key} (ht : t.Sound)
    (hname : t.name ∉ root.map Prod.fst) :
    t.statements.foldlM carryOut ⟨root, current⟩ = some ⟨root ++ [t.entry], [t.name]⟩ := by
  rw [Table.statements, List.foldlM_cons, carryOut_header hname]
  exact foldlM_fields hname ht.distinct

theorem foldlM_tables {ts : List Table} {current : List Key} (hs : ∀ t ∈ ts, t.Sound)
    (h : ((root ++ ts.map Table.entry).map Prod.fst).Nodup) :
    ((ts.flatMap Table.statements).foldlM carryOut ⟨root, current⟩).map Draft.root =
      some (root ++ ts.map Table.entry) := by
  induction ts generalizing root current with
  | nil => simp
  | cons t ts ih =>
    obtain ⟨ht, hlater⟩ := List.forall_mem_cons.1 hs
    have hname : t.name ∉ root.map Prod.fst := Entries.not_mem_of_nodup h
    have hcons : root ++ (t :: ts).map Table.entry = root ++ [t.entry] ++ ts.map Table.entry := by
      simp
    rw [hcons] at h ⊢
    rw [List.flatMap_cons, List.foldlM_append, foldlM_table ht hname]
    exact ih hlater h

end Draft

theorem head?_writeTables_ne (ts : List Table) : (writeTables ts).head? ≠ some '\uFEFF' := by
  match ts with
  | [] => simp [writeTables]
  | [t] => simp [writeTables, Table.write, writeHeader]
  | t :: t' :: ts => simp [writeTables, Table.write, writeHeader]

end DebugControl.Toml
