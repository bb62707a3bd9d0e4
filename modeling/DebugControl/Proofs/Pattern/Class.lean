import DebugControl.Pattern.Bracket
import DebugControl.Proofs.Pattern.Escape

/-!
# Bracketed classes are read locally

A member of a class may take the parenthesis behind a text for a character of its own. That comes to
nothing, since there is no closing bracket behind it: a class that is not closed in the text alone
is not closed with a parenthesis behind it.
-/

namespace DebugControl.Pattern

open Unicode (CharSet)

variable (f : Flags) {s s' rest : List Char}

/-! ## Members -/

theorem readAtom_plain {c : Char} (hc : c ≠ '\\') (rest : List Char) :
    readAtom f (c :: rest) = some (.literal c false, rest) := by
  unfold readAtom
  split
  · next heq => exact absurd heq nofun
  · next heq => exact absurd (List.cons.inj heq).1 hc
  · next heq =>
    obtain ⟨rfl, rfl⟩ := List.cons.inj heq
    rfl

theorem agree_readAtom (h : Follows s s') :
    Agree Overrun (readAtom f s) (readAtom f s') ∨ OpenBrace f (readAtom f s) (readAtom f s') := by
  cases h with
  | swallowed => exact .inl .failed
  | behind =>
    cases s with
    | nil => exact .inl (.lost (List.suffix_refl _))
    | cons c rest =>
      by_cases hc : c = '\\'
      · subst hc
        exact agree_readEscape f rest
      · left
        rw [List.cons_append, readAtom_plain f hc, readAtom_plain f hc]
        exact .same (.behind rest)

theorem readAtom_suffix {c : Char} {p : Primitive} (h : readAtom f (c :: s) = some (p, rest)) :
    rest <:+ s := by
  by_cases hc : c = '\\'
  · subst hc
    cases s with
    | nil => exact absurd h nofun
    | cons d s => exact (readEscape_suffix f h).trans (List.suffix_cons d s)
  · rw [readAtom_plain f hc] at h
    exact (Local.pure _).suffix h

theorem peekSpaced_closing {c : Char} (hc : c ≠ ')') (inComment : Bool) (s : List Char) :
    peekSpaced inComment (s ++ closing) = some c ↔ peekSpaced inComment s = some c := by
  induction s generalizing inComment with
  | nil =>
    have hpeek : peekSpaced inComment closing = some ')' := by cases inComment <;> rfl
    rw [List.nil_append, hpeek, Option.some.injEq]
    exact ⟨fun h => absurd h.symm hc, fun h => absurd h (by cases inComment <;> exact nofun)⟩
  | cons d s ih =>
    rw [List.cons_append, peekSpaced, peekSpaced]
    split_ifs
    · exact ih inComment
    · exact ih true
    · exact Iff.rfl

theorem peek_closing {c : Char} (hc : c ≠ ')') (s : List Char) :
    f.peek (s ++ closing) = some c ↔ f.peek s = some c := by
  unfold Flags.peek
  split_ifs
  · exact peekSpaced_closing hc false s
  · cases s with
    | nil => exact ⟨fun h => absurd (Option.some.inj h).symm hc, fun h => absurd h nofun⟩
    | cons d s => exact Iff.rfl

/-- What is read of a member behind its first character. -/
def readRange (first : Primitive) (s : List Char) : Option (Operand × List Char) :=
  match f.skip s with
  | [] => none
  | c :: rest =>
    let next := f.peek rest
    if c ≠ '-' ∨ next = some ']' ∨ next = some '-' then do
      let set ← atomSet? f first
      pure (⟨set, 0⟩, c :: rest)
    else do
      let (last, s) ← readAtom f (f.skip rest)
      let low ← classLiteral? f first
      let high ← classLiteral? f last
      if low ≤ high then some (⟨.range low.toNat high.toNat, 0⟩, s) else none

theorem readMember_eq (s : List Char) :
    readMember f s = readAtom f s >>= fun p => readRange f p.1 p.2 := rfl

theorem readRange_suffix {first : Primitive} {x : Operand}
    (h : readRange f first s = some (x, rest)) : rest <:+ s := by
  unfold readRange at h
  split at h
  · exact absurd h nofun
  · next c more hskip =>
    have hmore : more <:+ s := by
      have hsuffix := skip_suffix f s
      rw [hskip] at hsuffix
      exact (List.suffix_cons c more).trans hsuffix
    dsimp only at h
    split_ifs at h
    · obtain ⟨set, -, heq⟩ := Option.bind_eq_some_iff.1 h
      obtain ⟨-, rfl⟩ := Prod.mk.inj (Option.some.inj heq)
      rw [← hskip]
      exact skip_suffix f s
    · obtain ⟨⟨last, s'⟩, hlast, heq⟩ := Option.bind_eq_some_iff.1 h
      obtain ⟨low, -, heq⟩ := Option.bind_eq_some_iff.1 heq
      obtain ⟨high, -, heq⟩ := Option.bind_eq_some_iff.1 heq
      split_ifs at heq
      obtain ⟨-, rfl⟩ := Prod.mk.inj (Option.some.inj heq)
      cases hm : f.skip more with
      | nil =>
        rw [hm] at hlast
        exact absurd hlast nofun
      | cons d tail =>
        have htail : d :: tail <:+ more := by
          rw [← hm]
          exact skip_suffix f more
        rw [hm] at hlast
        exact (((readAtom_suffix f hlast).trans (List.suffix_cons d tail)).trans htail).trans hmore

theorem readMember_suffix {c : Char} {x : Operand} (h : readMember f (c :: s) = some (x, rest)) :
    rest <:+ s := by
  obtain ⟨⟨first, s'⟩, hfirst, hrange⟩ := Option.bind_eq_some_iff.1 h
  exact (readRange_suffix f hrange).trans (readAtom_suffix f hfirst)

theorem overrun_suffix_closing (h : Overrun s) : s <:+ closing :=
  h.trans (List.suffix_cons ')' ['$'])

theorem agree_readRange (first : Primitive) (h : Follows s s') :
    Agree (· <:+ closing) (readRange f first s) (readRange f first s') := by
  have hskip := h.skip f
  unfold readRange
  generalize f.skip s = t, f.skip s' = t' at hskip
  cases hskip with
  | swallowed => exact .failed
  | behind =>
    cases t with
    | nil =>
      rw [List.nil_append, closing]
      dsimp only
      rw [if_pos (Or.inl (by decide))]
      cases atomSet? f first with
      | none => exact .failed
      | some set => exact .lost (List.suffix_refl _)
    | cons c rest =>
      simp only [List.cons_append, peek_closing f (show ']' ≠ ')' by decide),
        peek_closing f (show '-' ≠ ')' by decide)]
      split_ifs
      · cases atomSet? f first with
        | none => exact .failed
        | some set => exact .same (.behind (c :: rest))
      · rcases agree_readAtom f ((Follows.behind rest).skip f) with hlast | ⟨hnone, r, hsome, -⟩
        · refine (hlast.bind fun last => ?_).mono fun _ => overrun_suffix_closing
          dsimp only
          refine .bindOption fun low => .bindOption fun high => ?_
          split_ifs
          · exact .pure _
          · exact .fail
        · rw [hnone, hsome]
          cases classLiteral? f first <;> exact .failed

theorem skip_brace (rest : List Char) : f.skip ('\x7b' :: rest) = '\x7b' :: rest := by
  unfold Flags.skip
  split_ifs <;> rfl

/-- A member at the end of a text may take the parenthesis behind it for its own. -/
theorem agree_readMember (s : List Char) :
    Agree (· <:+ closing) (readMember f s) (readMember f (s ++ closing)) := by
  rw [readMember_eq, readMember_eq]
  rcases agree_readAtom f (.behind s) with h | ⟨hnone, r, hsome, -⟩
  · generalize readAtom f s = a, readAtom f (s ++ closing) = b at h
    cases h with
    | same hrest => exact agree_readRange f _ hrest
    | failed => exact .failed
    | @lost first rest hrest =>
      change Agree _ none (readRange f first rest)
      cases hrange : readRange f first rest with
      | none => exact .failed
      | some p => exact .lost ((readRange_suffix f hrange).trans (overrun_suffix_closing hrest))
  · rw [hnone, hsome]
    change Agree _ none (readRange f (.assertion .boundary) ('\x7b' :: r))
    unfold readRange
    rw [skip_brace]
    exact .failed

/-! ## The beginning of a class -/

def hyphen? (c : Char) : Option Operand := if c = '-' then some ⟨.single '-', 0⟩ else none

theorem readHyphens_eq (n : Nat) (s : List Char) :
    readHyphens f n s = readMany f hyphen? n s := by
  induction n generalizing s with
  | zero => cases s <;> rfl
  | succ n ih =>
    cases s with
    | nil => rfl
    | cons c s =>
      by_cases hc : c = '-'
      · subst hc
        rw [readHyphens, ih]
        rfl
      · rw [readMany_other f hyphen? (if_neg hc)]
        unfold readHyphens
        split
        · next heq => exact absurd (List.cons.inj heq).1 hc
        · rfl

theorem local_readHyphens : Local fun s => some (readHyphens f s.length s) where
  suffix {s x rest} h := by
    have hsuffix := readMany_suffix f hyphen? s.length s
    rw [readHyphens_eq] at h
    rw [Option.some.inj h] at hsuffix
    exact hsuffix
  agree s := by
    rw [readHyphens_eq, readHyphens_eq]
    exact agree_readMany f hyphen? rfl (.behind s) le_rfl le_rfl

def readFirst (negated : Bool) (s : List Char) : Bool × List Operand × List Char :=
  let (items, s) := readHyphens f s.length s
  match items, s with
  | [], ']' :: rest => (negated, [⟨.single ']', 0⟩], f.skip rest)
  | _, _ => (negated, items, s)

theorem readOpening_eq (s : List Char) : readOpening f s =
    if (f.skip s).head? == some '^' then readFirst f true (f.skip ((f.skip s).drop 1))
    else readFirst f false (f.skip s) := by
  unfold readOpening
  dsimp only
  by_cases h : ((f.skip s).head? == some '^') = true
  · rw [h]
    rfl
  · rw [Bool.not_eq_true] at h
    rw [h]
    rfl

theorem local_readFirst (negated : Bool) :
    Local fun s => some (regroup (readFirst f negated s)) := by
  refine (local_readHyphens f).bind (g := fun p => some (regroup (match p.1, p.2 with
    | [], ']' :: rest => (negated, [⟨.single ']', 0⟩], f.skip rest)
    | _, _ => (negated, p.1, p.2)))) fun items => ?_
  cases items with
  | nil =>
    refine .of_mark ']' ((Local.pure (negated, [(⟨.single ']', 0⟩ : Operand)])).skip f)
      (Local.pure (negated, [])) (by decide) (fun _ => rfl) fun s hs => ?_
    dsimp only
    split
    · exact absurd rfl hs
    · rfl
  | cons item items => exact .pure (negated, item :: items)

theorem local_readOpening : Local fun s => some (regroup (readOpening f s)) := by
  refine .of_skip_mark f '^' ((local_readFirst f true).skip f) (local_readFirst f false)
    (by decide) (fun s rest h => ?_) fun s h => ?_
  · rw [readOpening_eq, h]
    rfl
  · rw [readOpening_eq, if_neg (by rwa [beq_iff_eq])]

/-! ## Classes with a name and operators -/

def readClassName (negated : Bool) (s : List Char) : Option (CharSet × Bool × List Char) :=
  let name := s.takeWhile (· != ':')
  match s.drop name.length with
  | ':' :: ']' :: rest =>
    (asciiRanges? (String.ofList name)).map fun ranges => (asciiSet ranges, negated, rest)
  | _ => none

theorem asciiClass?_colon (s : List Char) : asciiClass? (':' :: s) =
    if s.head? == some '^' then readClassName true (s.drop 1) else readClassName false s := by
  simp only [asciiClass?]
  by_cases h : (s.head? == some '^') = true
  · rw [h]
    rfl
  · rw [Bool.not_eq_true] at h
    rw [h]
    rfl

theorem asciiClass?_other {c : Char} (hc : c ≠ ':') (s : List Char) :
    asciiClass? (c :: s) = none := by
  unfold asciiClass?
  split
  · next heq => exact absurd (List.cons.inj heq).1 hc
  · rfl

theorem readClassName_closing (negated : Bool) (s : List Char) :
    readClassName negated (s ++ closing) =
      (readClassName negated s).map fun p => (p.1, p.2.1, p.2.2 ++ closing) := by
  unfold readClassName
  dsimp only
  rcases drop_takeWhile_closing (p := (· != ':')) rfl s with ⟨h, h'⟩ | ⟨h, h'⟩
  · rw [h, h']
    rfl
  · rw [h, h']
    generalize s.drop _ = r
    split
    · next more heq =>
      rcases r with _ | ⟨d, _ | ⟨e, r⟩⟩
      · exact absurd heq nofun
      · exact absurd (List.cons.inj (List.cons.inj heq).2).1 nofun
      · obtain ⟨hd, htail⟩ := List.cons.inj heq
        obtain ⟨he, hmore⟩ := List.cons.inj htail
        subst hd he hmore
        cases asciiRanges? (String.ofList (s.takeWhile (· != ':'))) <;> rfl
    · next hne =>
      split
      · next more => exact absurd rfl (hne (more ++ closing))
      · rfl

theorem readClassName_suffix {set : CharSet} {negated negated' : Bool}
    (h : readClassName negated s = some (set, negated', rest)) : rest <:+ s := by
  unfold readClassName at h
  dsimp only at h
  split at h
  · next more hdrop =>
    obtain ⟨ranges, -, heq⟩ := Option.map_eq_some_iff.1 h
    obtain ⟨-, heq⟩ := Prod.mk.inj heq
    obtain ⟨-, rfl⟩ := Prod.mk.inj heq
    have hmore : more <:+ ':' :: ']' :: more :=
      (List.suffix_cons ']' more).trans (List.suffix_cons ':' (']' :: more))
    rw [← hdrop] at hmore
    exact hmore.trans (List.drop_suffix _ s)
  · exact absurd h nofun

theorem asciiClass?_closing (s : List Char) :
    asciiClass? (s ++ closing) = (asciiClass? s).map fun p => (p.1, p.2.1, p.2.2 ++ closing) := by
  cases s with
  | nil => rfl
  | cons c s =>
    rw [List.cons_append]
    by_cases hc : c = ':'
    · subst hc
      rw [asciiClass?_colon, asciiClass?_colon]
      cases s with
      | nil => exact readClassName_closing false []
      | cons d s =>
        rw [List.cons_append, List.head?_cons, List.head?_cons]
        split_ifs
        · exact readClassName_closing true s
        · exact readClassName_closing false (d :: s)
    · rw [asciiClass?_other hc, asciiClass?_other hc]
      rfl

theorem asciiClass?_suffix {set : CharSet} {negated : Bool}
    (h : asciiClass? s = some (set, negated, rest)) : rest <:+ s := by
  cases s with
  | nil => exact absurd h nofun
  | cons c s =>
    by_cases hc : c = ':'
    · subst hc
      rw [asciiClass?_colon] at h
      split_ifs at h
      · exact ((readClassName_suffix h).trans (List.drop_suffix 1 s)).trans (List.suffix_cons ':' s)
      · exact (readClassName_suffix h).trans (List.suffix_cons ':' s)
    · rw [asciiClass?_other hc] at h
      exact absurd h nofun

theorem setOp?_closing (s : List Char) :
    setOp? (s ++ closing) = (setOp? s).map fun p => (p.1, p.2 ++ closing) := by
  rcases s with _ | ⟨c, _ | ⟨d, rest⟩⟩
  · rfl
  · simp only [setOp?, closing, List.cons_append, List.nil_append]
    split <;> simp_all
  · simp only [setOp?, List.cons_append]
    split <;> simp_all

theorem setOp?_suffix {c : Char} {op : SetOp} (h : setOp? (c :: s) = some (op, rest)) :
    rest <:+ s := by
  unfold setOp? at h
  split at h
  case h_4 => exact absurd h nofun
  all_goals
    next heq =>
      obtain ⟨-, rfl⟩ := Prod.mk.inj (Option.some.inj h)
      rw [(List.cons.inj heq).2]
      exact List.suffix_cons _ _

/-! ## Classes -/

theorem follows_readOpening (s : List Char) :
    (readOpening f s).1 = (readOpening f (s ++ closing)).1 ∧
      (readOpening f s).2.1 = (readOpening f (s ++ closing)).2.1 ∧
      Follows (readOpening f s).2.2 (readOpening f (s ++ closing)).2.2 := by
  obtain ⟨heq, hrest⟩ := ((local_readOpening f).agree s).of_some
  obtain ⟨hnegated, hitems⟩ := Prod.mk.inj heq
  exact ⟨hnegated, hitems, hrest⟩

theorem readOpening_suffix (s : List Char) : (readOpening f s).2.2 <:+ s :=
  (local_readOpening f).suffix rfl

/-- A class that is read has a closing bracket. -/
theorem readClassFrom_suffix {fuel : Nat} {pending : Option (SetOp × Operand)}
    {items : List Operand} {x : Operand}
    (h : readClassFrom f fuel pending items s = some (x, rest)) : ']' :: rest <:+ f.skip s := by
  induction fuel generalizing pending items s x rest with
  | zero => exact absurd h nofun
  | succ fuel ih =>
    rw [readClassFrom] at h
    split at h
    · exact absurd h nofun
    · next c more hskip =>
      rw [hskip]
      -- What is read from a part of the text behind the first character ends in that part.
      have hpart : ∀ {t pending' items' x'}, t <:+ c :: more →
          readClassFrom f fuel pending' items' t = some (x', rest) → ']' :: rest <:+ c :: more :=
        fun ht h => ((ih h).trans (skip_suffix f _)).trans ht
      split_ifs at h with hopen hclose
      · split at h
        · next set negated t hclass =>
          obtain ⟨set', -, h⟩ := Option.bind_eq_some_iff.1 h
          exact hpart ((asciiClass?_suffix hclass).trans (List.suffix_cons c more)) h
        · obtain ⟨⟨inner, t⟩, hinner, h⟩ := Option.bind_eq_some_iff.1 h
          obtain ⟨set', -, h⟩ := Option.bind_eq_some_iff.1 h
          have ht : t <:+ (readOpening f more).2.2 :=
            (List.suffix_cons ']' t).trans ((ih hinner).trans (skip_suffix f _))
          exact hpart ((ht.trans (readOpening_suffix f more)).trans (List.suffix_cons c more)) h
      · obtain ⟨-, rfl⟩ := Prod.mk.inj (Option.some.inj h)
        rw [hclose]
      · split at h
        · next op t hop => exact hpart ((setOp?_suffix hop).trans (List.suffix_cons c more)) h
        · obtain ⟨⟨item, t⟩, hitem, h⟩ := Option.bind_eq_some_iff.1 h
          exact hpart ((readMember_suffix f hitem).trans (List.suffix_cons c more)) h

theorem skip_closing : f.skip closing = closing := by
  unfold Flags.skip
  split_ifs <;> rfl

theorem readClassFrom_lost (hs : s <:+ closing) (fuel : Nat) (pending : Option (SetOp × Operand))
    (items : List Operand) : readClassFrom f fuel pending items s = none := by
  cases h : readClassFrom f fuel pending items s with
  | none => rfl
  | some p =>
    have hmem : ']' ∈ closing := hs.subset ((skip_suffix f s).subset
      ((readClassFrom_suffix f h).subset List.mem_cons_self))
    exact absurd hmem (by decide)

/-- The induction is on the fuel, of which each text has enough for its characters. -/
theorem agree_readClassFrom {fuel fuel' : Nat} (h : Follows s s') (hfuel : s.length < fuel)
    (hfuel' : s'.length < fuel') (pending : Option (SetOp × Operand)) (items : List Operand) :
    Agree (fun _ => False) (readClassFrom f fuel pending items s)
      (readClassFrom f fuel' pending items s') := by
  induction fuel generalizing fuel' pending items s s' with
  | zero => exact absurd hfuel (Nat.not_lt_zero _)
  | succ fuel ih =>
    cases fuel' with
    | zero => exact absurd hfuel' (Nat.not_lt_zero _)
    | succ fuel' =>
      have hlength := skip_length_le f s
      have hlength' := skip_length_le f s'
      have hskip := h.skip f
      rw [readClassFrom, readClassFrom]
      generalize f.skip s = t, f.skip s' = t' at hskip hlength hlength'
      cases hskip with
      | swallowed => exact .failed
      | behind =>
        cases t with
        | nil =>
          have hlost := readClassFrom_lost f (List.suffix_refl closing) (fuel' + 1) pending items
          rw [readClassFrom, skip_closing] at hlost
          rw [List.nil_append, hlost]
          exact .failed
        | cons c more =>
          have hpart : ∀ {t t' : List Char} (pending items), t <:+ more → Follows t t' →
              Agree (fun _ => False) (readClassFrom f fuel pending items t)
                (readClassFrom f fuel' pending items t') := by
            intro t t' pending items ht hfollows
            have hle := ht.length_le
            have hle' := hfollows.length_le
            rw [List.length_cons] at hlength
            rw [List.cons_append, List.length_cons, List.length_append] at hlength'
            have htwo : closing.length = 2 := rfl
            exact ih hfollows (by omega) (by omega) pending items
          dsimp only [List.cons_append]
          split_ifs with hopen hclose
          · rw [asciiClass?_closing]
            cases hclass : asciiClass? more with
            | some p =>
              obtain ⟨set, negated, t⟩ := p
              dsimp only [Option.map_some]
              cases f.signed? negated (f.fold set) with
              | none => exact .failed
              | some set => exact hpart _ _ (asciiClass?_suffix hclass) (.behind t)
            | none =>
              have hsuffix := readOpening_suffix f more
              obtain ⟨hnegated, hfirst, hfollows⟩ := follows_readOpening f more
              dsimp only [Option.map_none]
              rw [← hnegated, ← hfirst]
              generalize (readOpening f more).1 = negated, (readOpening f more).2.1 = first,
                (readOpening f more).2.2 = t, (readOpening f (more ++ closing)).2.2 = t'
                at hsuffix hfollows
              have hinner := hpart none first hsuffix hfollows
              generalize ha : readClassFrom f fuel none first t = a,
                readClassFrom f fuel' none first t' = b at hinner
              cases hinner with
              | failed => exact .failed
              | lost hrest => exact hrest.elim
              | @same inner r r' hrest =>
                have hr : r <:+ t := (List.suffix_cons ']' r).trans
                  ((readClassFrom_suffix f ha).trans (skip_suffix f t))
                change Agree _ (f.signed? _ _ >>= _) (f.signed? _ _ >>= _)
                cases f.signed? negated (f.fold inner.set) with
                | none => exact .failed
                | some set => exact hpart _ _ (hr.trans hsuffix) hrest
          · exact .same (.behind more)
          · rw [← List.cons_append, setOp?_closing]
            cases hop : setOp? (c :: more) with
            | some p =>
              exact hpart _ _ (setOp?_suffix hop) (.behind p.2)
            | none =>
              have hmember := agree_readMember f (c :: more)
              dsimp only [Option.map_none]
              generalize ha : readMember f (c :: more) = a,
                readMember f (c :: more ++ closing) = b at hmember
              cases hmember with
              | same hrest => exact hpart _ _ (readMember_suffix f ha) hrest
              | failed => exact .failed
              | @lost item r hrest =>
                change Agree _ none (readClassFrom f fuel' pending (item :: items) r)
                rw [readClassFrom_lost f hrest]
                exact .failed

theorem local_readClass : Local (readClass f) where
  suffix {s x rest} h := by
    obtain ⟨⟨inner, t⟩, hinner, h⟩ := Option.bind_eq_some_iff.1 h
    obtain ⟨set, -, heq⟩ := Option.bind_eq_some_iff.1 h
    obtain ⟨-, rfl⟩ := Prod.mk.inj (Option.some.inj heq)
    exact ((List.suffix_cons ']' t).trans ((readClassFrom_suffix f hinner).trans
      (skip_suffix f _))).trans (readOpening_suffix f s)
  agree s := by
    obtain ⟨hnegated, hfirst, hfollows⟩ := follows_readOpening f s
    unfold readClass
    dsimp only
    rw [← hnegated, ← hfirst]
    have hinner := agree_readClassFrom f hfollows (Nat.lt_succ_self _) (Nat.lt_succ_self _) none
      (readOpening f s).2.1
    refine (hinner.mono fun _ => False.elim).bind fun inner => ?_
    dsimp only
    exact .bindOption fun set => .pure _

end DebugControl.Pattern
