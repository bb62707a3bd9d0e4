import DebugControl.Proofs.Pattern.Step

/-!
# Reading inside a group

A pattern is read inside a group as it is read alone, with the group around all others, until a
parenthesis closes a group that the pattern has not opened. A pattern in which no parenthesis does
so is read in a group if and only if it is read alone, and the group closes where it ends.
-/

namespace DebugControl.Pattern

namespace Draft

variable {d d' d'' : Draft} {s s' s'' rest : List Char} {c : Char} (o : Outer)

/-- A draft within one more group, around all others. -/
def inside (d : Draft) : Draft := { d with outer := d.outer ++ [o] }

@[simp] theorem inside_pieces (d : Draft) : (d.inside o).pieces = d.pieces := rfl

@[simp] theorem inside_flags (d : Draft) : (d.inside o).flags = d.flags := rfl

theorem inside_outer_ne_nil (d : Draft) : (d.inside o).outer ≠ [] :=
  List.append_ne_nil_of_right_ne_nil d.outer (List.cons_ne_nil o [])

/-! ## Steps -/

theorem openNamed_inside (d : Draft) (s : List Char) :
    openNamed (d.inside o) s = (openNamed d s).map fun p => (p.1.inside o, p.2) := by
  unfold openNamed
  cases readGroupName s with
  | none => rfl
  | some p =>
    obtain ⟨name, rest⟩ := p
    simp only [Option.bind_eq_bind, Option.bind_some]
    change (if d.names.contains name then none else _) = _
    split_ifs <;> rfl

theorem readGroup_inside (d : Draft) (s : List Char) :
    readGroup (d.inside o) s = (readGroup d s).map fun p => (p.1.inside o, p.2) := by
  unfold readGroup
  rw [inside_flags]
  split
  case h_5 => exact openNamed_inside o d _
  case h_6 => exact openNamed_inside o d _
  case h_7 t _ _ _ _ _ _ _ =>
    cases d.flags.read [] false false t with
    | none => rfl
    | some listed =>
      simp only [Option.bind_eq_bind, Option.bind_some]
      split_ifs <;> rfl
  all_goals rfl

theorem repeatLast_inside (d : Draft) (least : Nat) (most : Option Nat) (short : Bool) :
    (d.inside o).repeatLast least most short =
      (d.repeatLast least most short).map (inside o) := by
  unfold repeatLast
  rw [inside_pieces]
  cases d.pieces with
  | nil => rfl
  | cons p rest =>
    dsimp only
    split_ifs <;> rfl

theorem pushPrimitive_inside (d : Draft) (read : Option (Primitive × List Char)) :
    pushPrimitive (d.inside o) read =
      (pushPrimitive d read).map fun p => (p.1.inside o, p.2) := by
  unfold pushPrimitive
  cases read with
  | none => rfl
  | some p =>
    simp only [Option.bind_eq_bind, Option.bind_some, inside_flags]
    cases p.1.piece? d.flags <;> rfl

theorem repeatSign_inside (d : Draft) (least : Nat) (most : Option Nat) (s : List Char) :
    repeatSign (d.inside o) least most s =
      (repeatSign d least most s).map fun p => (p.1.inside o, p.2) := by
  unfold repeatSign
  dsimp only
  rw [repeatLast_inside, Option.map_map, Option.map_map]
  rfl

/-- Only a parenthesis that closes the group itself is read in another way. -/
theorem step_inside (hc : ¬ (c = ')' ∧ d.outer = [])) (s : List Char) :
    (d.inside o).step c s = (d.step c s).map fun p => (p.1.inside o, p.2) := by
  cases c using Draft.step.fun_cases with
  | case1 => exact readGroup_inside o d s
  | case2 =>
    cases houter : d.outer with
    | nil => exact absurd ⟨rfl, houter⟩ hc
    | cons o' outer =>
      simp only [step, closeGroup, inside, houter]
      rfl
  | case3 => rfl
  | case4 =>
    simp only [step, inside_flags, Option.map_map]
    rfl
  | case5 => exact repeatSign_inside o d 0 (some 1) s
  | case6 => exact repeatSign_inside o d 0 none s
  | case7 => exact repeatSign_inside o d 1 none s
  | case8 =>
    simp only [step, inside_flags]
    cases readCounts d.flags s with
    | none => rfl
    | some p =>
      simp only [Option.bind_eq_bind, Option.bind_some, repeatLast_inside]
      cases d.repeatLast p.1.1 p.1.2 p.2.1 <;> rfl
  | case9 | case10 | case11 | case12 => exact pushPrimitive_inside o d _
  | case13 c =>
    have hstep : ∀ d : Draft, d.step c s = pushPrimitive d (some (.literal c false, s)) := by
      intro d
      rw [step] <;> assumption
    rw [hstep, hstep]
    exact pushPrimitive_inside o d _

/-! ## Runs -/

inductive Reads : Draft → List Char → Draft → List Char → Prop
  | refl (d : Draft) (s : List Char) : Reads d s d s
  | step {d d' d'' : Draft} {s s' s'' rest : List Char} {c : Char} :
      d.flags.skip s = c :: rest → d.step c rest = some (d', s') → Reads d' s' d'' s'' →
        Reads d s d'' s''

/-- Reading comes to a parenthesis that closes no group that is open. -/
def ClosesUnopened (d : Draft) (s : List Char) : Prop :=
  ∃ d' s' rest, Reads d s d' s' ∧ d'.flags.skip s' = ')' :: rest ∧ d'.outer = []

theorem readFrom_of_skip_cons {fuel : Nat} (h : d.flags.skip s = c :: rest) :
    readFrom (fuel + 1) d s = d.step c rest >>= fun p => readFrom fuel p.1 p.2 := by
  rw [readFrom, h]

theorem readFrom_of_skip_nil {fuel : Nat} (h : d.flags.skip s = []) :
    readFrom (fuel + 1) d s = some d := by
  rw [readFrom, h]

theorem ClosesUnopened.step (h : d'.ClosesUnopened s') (hskip : d.flags.skip s = c :: rest)
    (hstep : d.step c rest = some (d', s')) : d.ClosesUnopened s := by
  obtain ⟨e, t, more, hreads, hclose, houter⟩ := h
  exact ⟨e, t, more, .step hskip hstep hreads, hclose, houter⟩

theorem exists_fuel_succ {fuel : Nat} (h : readFrom fuel d s = some d') : ∃ n, fuel = n + 1 := by
  cases fuel with
  | zero => exact absurd h nofun
  | succ n => exact ⟨n, rfl⟩

theorem Reads.readFrom (h : Reads d s d' s') {fuel : Nat} (hread : readFrom fuel d s = some d'') :
    ∃ fuel', readFrom fuel' d' s' = some d'' := by
  induction h generalizing fuel with
  | refl d s => exact ⟨fuel, hread⟩
  | step hskip hstep hreads ih =>
    obtain ⟨fuel, rfl⟩ := exists_fuel_succ hread
    rw [readFrom_of_skip_cons hskip, hstep] at hread
    exact ih hread

theorem not_closesUnopened {fuel : Nat} (h : readFrom fuel d s = some d') :
    ¬ d.ClosesUnopened s := by
  rintro ⟨e, t, rest, hreads, hskip, houter⟩
  obtain ⟨fuel', hread⟩ := hreads.readFrom h
  obtain ⟨fuel', rfl⟩ := exists_fuel_succ hread
  have hclose : e.step ')' rest = none := by
    simp only [Draft.step, closeGroup, houter]
    rfl
  rw [readFrom_of_skip_cons hskip, hclose] at hread
  exact absurd hread.symm (Option.some_ne_none d')

/-! ## The end of the group -/

theorem skip_dollar (f : Flags) : f.skip ['$'] = ['$'] := by
  unfold Flags.skip
  split_ifs <;> rfl

theorem skip_nil (f : Flags) : f.skip [] = [] := by
  unfold Flags.skip
  split_ifs <;> rfl

theorem readFrom_dollar {fuel : Nat} (h : readFrom fuel d ['$'] = some d') :
    d' = d.push (.look (Assertion.dollar.look d.flags)) := by
  obtain ⟨fuel, rfl⟩ := exists_fuel_succ h
  rw [readFrom_of_skip_cons (skip_dollar d.flags)] at h
  change readFrom fuel (d.push (.look (Assertion.dollar.look d.flags))) [] = some d' at h
  obtain ⟨fuel, rfl⟩ := exists_fuel_succ h
  rw [readFrom_of_skip_nil (skip_nil _)] at h
  exact (Option.some.inj h).symm

theorem outer_ne_nil_of_overrun {fuel : Nat} (hs : Overrun s)
    (h : readFrom fuel (d.inside o) s = some d') : d'.outer ≠ [] := by
  rcases List.suffix_cons_iff.1 hs with rfl | hnil
  · rw [readFrom_dollar h]
    exact inside_outer_ne_nil o d
  · obtain rfl := List.eq_nil_of_suffix_nil hnil
    obtain ⟨fuel, rfl⟩ := exists_fuel_succ h
    rw [readFrom_of_skip_nil (skip_nil _)] at h
    rw [← Option.some.inj h]
    exact inside_outer_ne_nil o d

/-- The draft when a group has been closed and the end mark behind it has been read. -/
def afterGroup (d : Draft) : Draft :=
  ⟨.look (Assertion.dollar.look o.flags) :: .group o.number d.body :: o.pieces, o.branches,
    o.flags, [], d.names, d.captures⟩

theorem readFrom_closing {fuel : Nat} (hskip : d.flags.skip s = closing) (houter : d.outer = [])
    (h : readFrom fuel (d.inside o) s = some d') : d' = d.afterGroup o := by
  obtain ⟨fuel, rfl⟩ := exists_fuel_succ h
  rw [readFrom_of_skip_cons (d := d.inside o) hskip] at h
  have hclose : (d.inside o).step ')' ['$'] =
      some (⟨.group o.number d.body :: o.pieces, o.branches, o.flags, [], d.names, d.captures⟩,
        ['$']) := by
    simp only [Draft.step, closeGroup, inside, houter]
    rfl
  rw [hclose] at h
  exact readFrom_dollar h

theorem readFrom_end {fuel : Nat} (hskip : d.flags.skip s = closing)
    (h : readFrom fuel (d.inside o) s = some d') (hclosed : d'.outer = []) :
    d.outer = [] ∧ d' = d.afterGroup o := by
  cases houter : d.outer with
  | nil => exact ⟨rfl, readFrom_closing o hskip houter h⟩
  | cons o' outer =>
    have hc : ¬ (')' = ')' ∧ d.outer = []) := by simp [houter]
    obtain ⟨fuel, rfl⟩ := exists_fuel_succ h
    rw [readFrom_of_skip_cons (d := d.inside o) hskip, step_inside o hc] at h
    cases hstep : d.step ')' ['$'] with
    | none =>
      rw [hstep] at h
      exact absurd h.symm (Option.some_ne_none d')
    | some p =>
      rw [hstep] at h
      have hrest : Overrun p.2 := step_suffix d hstep
      exact absurd hclosed (outer_ne_nil_of_overrun o hrest h)

/-- A repetition for which the parenthesis stands in place of the number. -/
theorem readFrom_brace {fuel : Nat} (h : d.flags.skip s = closing) :
    readFrom fuel (d.inside o) ('\x7b' :: s) ≠ some d' := by
  intro hread
  obtain ⟨fuel, rfl⟩ := exists_fuel_succ hread
  rw [readFrom_of_skip_cons (d := d.inside o) (skip_brace d.flags s)] at hread
  simp only [Draft.step, inside_flags, readCounts_closing d.flags h] at hread
  exact absurd hread.symm (Option.some_ne_none d')

/-- The induction is on the fuel, with one step on both sides. -/
theorem readFrom_inside {fuel fuel' : Nat} (h : Follows s s') (hfuel : s.length < fuel)
    (hfuel' : s'.length < fuel') (hread : readFrom fuel' (d.inside o) s' = some d')
    (hclosed : d'.outer = []) :
    d.ClosesUnopened s ∨
      ∃ e, readFrom fuel d s = some e ∧ e.outer = [] ∧ d' = e.afterGroup o := by
  induction fuel generalizing fuel' d s s' with
  | zero => exact absurd hfuel (Nat.not_lt_zero _)
  | succ fuel ih =>
    obtain ⟨fuel', rfl⟩ := exists_fuel_succ hread
    have hlength := skip_length_le d.flags s
    have hlength' := skip_length_le d.flags s'
    have hskip := h.skip d.flags
    generalize ht : d.flags.skip s = t, ht' : d.flags.skip s' = t' at hskip hlength hlength'
    cases hskip with
    | swallowed =>
      -- A comment at the end hides the parenthesis, so that the group stays open.
      rw [readFrom_of_skip_nil (d := d.inside o) ht'] at hread
      rw [← Option.some.inj hread] at hclosed
      exact absurd hclosed (inside_outer_ne_nil o d)
    | behind =>
      cases t with
      | nil =>
        obtain ⟨houter, heq⟩ := readFrom_end o ht' hread hclosed
        exact .inr ⟨d, readFrom_of_skip_nil ht, houter, heq⟩
      | cons c rest =>
        by_cases hc : c = ')' ∧ d.outer = []
        · obtain ⟨rfl, houter⟩ := hc
          exact .inl ⟨d, s, rest, .refl d s, ht, houter⟩
        · rw [List.cons_append] at ht'
          rw [readFrom_of_skip_cons (d := d.inside o) ht', step_inside o hc] at hread
          rw [readFrom_of_skip_cons ht]
          rcases agree_step d c rest with h | ⟨hnone, e, r, hsome, hr⟩
          · generalize hstep : d.step c rest = a, d.step c (rest ++ closing) = b at h hread
            cases h with
            | failed => exact absurd hread.symm (Option.some_ne_none d')
            | @lost e r hrest => exact absurd hclosed (outer_ne_nil_of_overrun o hrest hread)
            | @same e r r' hrest =>
              have hle := (step_suffix d hstep).length_le
              have hle' := hrest.length_le
              rw [List.length_cons] at hlength
              rw [List.length_append, List.length_cons] at hlength'
              have htwo : closing.length = 2 := rfl
              exact (ih hrest (by omega) (by omega) hread).imp_left fun hcloses =>
                hcloses.step ht hstep
          · rw [hsome] at hread
            exact absurd hread (readFrom_brace o hr)

/-! ## Anchored patterns -/

/-- What surrounds a pattern that is anchored at both ends. -/
def anchor : Outer := ⟨[.look .textStart], [], .default, none⟩

theorem readFrom_anchored (fuel : Nat) (pattern : List Char) :
    readFrom (fuel + 2) .empty ('^' :: '(' :: '?' :: ':' :: (pattern ++ closing)) =
      readFrom fuel (empty.inside anchor) (pattern ++ closing) := rfl

end Draft

def Piece.anchored (p : Piece) : Piece :=
  .concat [.look .textStart, .group none p, .look .textEnd]

theorem Piece.anchored_expr (p : Piece) :
    p.anchored.expr = .seq (.look .textStart) (.seq p.expr (.look .textEnd)) := rfl

theorem Piece.anchored_depth (p : Piece) : p.anchored.depth = p.depth + 2 := by
  simp [anchored, concat, maxDepth, look, group]

theorem readPieces_anchored {pattern : List Char} {a : Piece}
    (h : readPieces ('^' :: '(' :: '?' :: ':' :: (pattern ++ closing)) = some a) :
    Draft.empty.ClosesUnopened pattern ∨
      ∃ p, readPieces pattern = some p ∧ a = p.anchored := by
  obtain ⟨d, hread, hbody⟩ := Option.bind_eq_some_iff.1 h
  split_ifs at hbody with houter
  rw [List.isEmpty_iff] at houter
  rw [List.length_cons, List.length_cons, Draft.readFrom_anchored] at hread
  refine (Draft.readFrom_inside Draft.anchor (.behind pattern) (Nat.lt_succ_self _) ?_ hread
    houter).imp_right ?_
  · exact Nat.lt_add_of_pos_right (Nat.succ_pos 2)
  · rintro ⟨e, halone, hempty, rfl⟩
    refine ⟨e.body, ?_, (Option.some.inj hbody).symm⟩
    unfold readPieces
    rw [halone, Option.bind_eq_bind, Option.bind_some, hempty]
    rfl

theorem not_closesUnopened_of_readPieces {pattern : List Char} {p : Piece}
    (h : readPieces pattern = some p) : ¬ Draft.empty.ClosesUnopened pattern := by
  obtain ⟨d, hread, -⟩ := Option.bind_eq_some_iff.1 h
  exact Draft.not_closesUnopened hread

end DebugControl.Pattern
