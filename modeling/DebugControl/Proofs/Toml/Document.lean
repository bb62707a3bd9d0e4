import DebugControl.Proofs.Toml.Table

/-!
# Documents read back

A document may have fields of its own in front of its tables. If no name is given twice, neither to
a field nor to a table, then the reader finds all of them in the order in which they were written.
-/

namespace DebugControl.Toml

/-- Fields, one on each line, and then tables. -/
def writeDocument (front : List Field) (tables : List Table) : List Char :=
  (front.flatMap fun f => writeAssignment f.key f.text) ++ writeTables tables

def documentEntries (front : List Field) (tables : List Table) : Entries :=
  front.map Field.entry ++ tables.map Table.entry

variable {front : List Field} {tables : List Table}

namespace Draft

theorem foldlM_front {root : Entries}
    (h : ((root ++ front.map Field.entry).map Prod.fst).Nodup) :
    (front.map fun f => Statement.assignment [] f.key f.value).foldlM carryOut ⟨root, []⟩ =
      some ⟨root ++ front.map Field.entry, []⟩ := by
  induction front generalizing root with
  | nil => simp
  | cons f front ih =>
    have hkey : f.key ∉ root.map Prod.fst := Entries.not_mem_of_nodup h
    have hlater : root ++ (f :: front).map Field.entry =
        root ++ [f.entry] ++ front.map Field.entry := by simp
    have hstep : carryOut ⟨root, []⟩ (.assignment [] f.key f.value) =
        some ⟨root ++ [f.entry], []⟩ := by
      simp [carryOut, Entries.atPath, Entries.assign_nil hkey, Field.entry]
    rw [hlater] at h ⊢
    rw [List.map_cons, List.foldlM_cons, hstep]
    exact ih h

end Draft

theorem head?_writeDocument_ne (hfront : ∀ f ∈ front, Bare f.key) :
    (writeDocument front tables).head? ≠ some '\uFEFF' := by
  cases front with
  | nil => exact head?_writeTables_ne tables
  | cons f front =>
    obtain ⟨c, tail, hkey, hc⟩ := (hfront f List.mem_cons_self).cons
    have hmark : c ≠ '\uFEFF' := ne_of_holds hc (by decide)
    simpa [writeDocument, writeAssignment, hkey] using hmark

/-- The reader finds the fields and tables that the writer wrote. -/
theorem read_writeDocument
    (hfront : ∀ f ∈ front, Bare f.key ∧ Written (depthLimit - 1) f.text f.value)
    (htables : ∀ t ∈ tables, t.Sound)
    (hnames : ((documentEntries front tables).map Prod.fst).Nodup) :
    Toml.read (writeDocument front tables) = some (documentEntries front tables) := by
  have hstatements : statements (writeDocument front tables) =
      some (front.map (fun f => Statement.assignment [] f.key f.value) ++
        tables.flatMap Table.statements) := by
    rw [statements, if_neg (head?_writeDocument_ne fun f hf => (hfront f hf).1)]
    exact readsAs_fields hfront (readsAs_writeTables htables) _ (Nat.lt_succ_self _)
  have hfields : (([] ++ front.map Field.entry).map Prod.fst).Nodup := by
    rw [documentEntries, List.map_append] at hnames
    exact (List.nodup_append.1 hnames).1
  rw [Toml.read, hstatements, Option.bind_some, ofStatements, List.foldlM_append,
    Draft.foldlM_front hfields]
  exact Draft.foldlM_tables htables hnames

end DebugControl.Toml
