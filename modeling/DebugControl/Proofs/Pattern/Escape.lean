import DebugControl.Pattern.Primitive
import DebugControl.Proofs.Pattern.Local

/-!
# Escapes are read locally

An escape ends with a character of its own, so that it is read in the same way with a parenthesis
behind the text. The one exception is a boundary: it looks whether a kind in braces follows.
-/

namespace DebugControl.Pattern

variable (f : Flags)

theorem local_readBraced (spaced inComment : Bool) : Local (readBraced spaced inComment) where
  suffix {s x rest} hread := by
    induction s generalizing inComment x with
    | nil => exact absurd hread (by cases inComment <;> exact nofun)
    | cons c s ih =>
      cases inComment with
      | true => exact (ih _ hread).trans (List.suffix_cons c s)
      | false =>
        rw [readBraced] at hread
        split_ifs at hread
        · exact (ih _ hread).trans (List.suffix_cons c s)
        · exact (ih _ hread).trans (List.suffix_cons c s)
        · obtain ⟨-, rfl⟩ := Prod.mk.inj (Option.some.inj hread)
          exact List.suffix_cons c s
        · obtain ⟨⟨text, rest'⟩, hrest, heq⟩ := Option.map_eq_some_iff.1 hread
          obtain ⟨-, rfl⟩ := Prod.mk.inj heq
          exact (ih _ hrest).trans (List.suffix_cons c s)
  agree s := by
    induction s generalizing inComment with
    | nil => cases inComment <;> cases spaced <;> exact .failed
    | cons c s ih =>
      rw [List.cons_append]
      cases inComment with
      | true => exact ih _
      | false =>
        rw [readBraced, readBraced]
        split_ifs
        · exact ih _
        · exact ih _
        · exact .same (.behind s)
        · exact (ih _).map fun text => c :: text

theorem local_readHexDigits (n : Nat) : Local (readHexDigits f n) := by
  induction n with
  | zero => exact .pure []
  | succ n ih =>
    refine .of_cons (fun c s => readHexDigits f (n + 1) (c :: s)) (fun c => ?_) rfl
      fun _ _ => rfl
    exact .bindOption fun d => (ih.skip f).bind fun ds => .pure (d :: ds)

theorem local_readCodePoint (digits : Nat) : Local (readCodePoint f digits) := by
  refine .of_skip_mark f '\x7b'
    (p := fun s => do
      let written ← readBraced f.spaced false s
      let ds ← written.1.mapM (Numeral.digitIn? 16)
      let c ← if ds = [] then none else scalar? (Numeral.valueIn 16 ds)
      pure (.literal c false, f.skip written.2))
    (q := fun s => do
      let ds ← readHexDigits f digits s
      let c ← scalar? (Numeral.valueIn 16 ds.1)
      pure (.literal c (digits = 2), ds.2)) ?_ ?_ (by decide) ?_ ?_
  · refine (local_readBraced _ _).bind fun written => ?_
    dsimp only
    refine .bindOption fun ds => ?_
    by_cases hds : ds = []
    · simp only [if_pos hds]
      exact .fail
    · simp only [if_neg hds]
      exact .bindOption fun c => (Local.pure _).skip f
  · refine (local_readHexDigits f digits).bind fun ds => ?_
    dsimp only
    exact .bindOption fun c => .pure _
  · intro s rest h
    unfold readCodePoint
    rw [h]
    rfl
  · intro s h
    unfold readCodePoint
    split
    · next s' h' =>
      rw [h'] at h
      exact absurd rfl h
    · rfl

def readLetter (negated : Bool) (s : List Char) : Option (Primitive × List Char) :=
  s.head?.bind fun c =>
    if c = '\\' then none else some (.property [c] negated, f.skip s.tail)

theorem local_readLetter (negated : Bool) : Local (readLetter f negated) := by
  refine .of_cons (fun c rest =>
    if c = '\\' then none else some (.property [c] negated, f.skip rest))
    (fun c => ?_) rfl fun _ _ => rfl
  by_cases hc : c = '\\'
  · simp only [if_pos hc]
    exact .fail
  · simp only [if_neg hc]
    exact (Local.pure _).skip f

theorem local_readProperty (negated : Bool) : Local (readProperty f negated) := by
  refine .of_skip_mark f '\x7b'
    ((local_readBraced f.spaced false).map fun name => Primitive.property name negated)
    (local_readLetter f negated) (by decide) (fun s rest h => ?_) fun s h => ?_
  · unfold readProperty
    rw [h]
    rfl
  · unfold readProperty
    split
    · next h' =>
      rw [h']
      rfl
    · next s' h' =>
      rw [h'] at h
      exact absurd rfl h
    · next c rest _ h' =>
      rw [h']
      rfl

theorem local_readBoundaryName (n : Nat) : Local (readBoundaryName f n) := by
  induction n with
  | zero =>
    refine .of_cons (fun c rest => readBoundaryName f 0 (c :: rest)) (fun c => ?_) rfl
      fun _ _ => rfl
    simp only [readBoundaryName]
    split_ifs
    · exact .pure []
    · exact .fail
    · exact .fail
  | succ n ih =>
    refine .of_cons (fun c rest => readBoundaryName f (n + 1) (c :: rest)) (fun c => ?_)
      rfl fun _ _ => rfl
    simp only [readBoundaryName]
    split_ifs
    · exact .pure []
    · exact (ih.skip f).map fun name => c :: name
    · exact .fail

/-! ## Boundaries -/

/-- The one reader that looks beyond what it reads: an opening brace at the end of a pattern is
refused behind a boundary, but left for a repetition if a parenthesis follows. -/
def OpenBrace (a b : Option (Primitive × List Char)) : Prop :=
  a = none ∧ ∃ rest, b = some (.assertion .boundary, '\x7b' :: rest) ∧ f.skip rest = closing

theorem local_kind (name : List Char) : Local fun s => do
    let a ← match String.ofList name with
      | "start" => some Assertion.wordStart
      | "end" => some .wordEnd
      | "start-half" => some .beforeWord
      | "end-half" => some .afterWord
      | _ => none
    pure (Primitive.assertion a, s) where
  suffix h := by
    dsimp only at h
    split at h
    case h_5 => exact absurd h nofun
    all_goals
      exact (Local.pure _).suffix h
  agree s := by
    dsimp only
    split
    case h_5 => exact .failed
    all_goals exact .same (.behind s)

theorem agree_readBoundary (s : List Char) :
    Agree Overrun (readBoundary f s) (readBoundary f (s ++ closing)) ∨
      OpenBrace f (readBoundary f s) (readBoundary f (s ++ closing)) := by
  cases s with
  | nil => exact .inl (.same (.behind []))
  | cons c rest =>
    rw [List.cons_append]
    by_cases hc : c = '\x7b'
    · subst hc
      have hfollows := (Follows.behind rest).skip f
      generalize hr : f.skip rest = r, hr' : f.skip (rest ++ closing) = r' at hfollows
      cases hfollows with
      | swallowed =>
        left
        simp only [readBoundary, hr, hr']
        exact .failed
      | behind =>
        cases r with
        | nil =>
          right
          refine ⟨by simp only [readBoundary, hr], rest ++ closing, ?_, hr'⟩
          simp only [readBoundary, hr']
          rfl
        | cons d more =>
          left
          simp only [readBoundary, hr, hr', List.cons_append]
          split_ifs
          · exact ((local_readBoundaryName f 10).agree (d :: more)).bind local_kind
          · exact .same (.behind ('\x7b' :: rest))
    · left
      unfold readBoundary
      split
      · next heq => exact absurd (List.cons.inj heq).1 hc
      · split
        · next heq => exact absurd (List.cons.inj heq).1 hc
        · exact .same (.behind (c :: rest))

theorem readBoundary_suffix {s rest : List Char} {p : Primitive}
    (h : readBoundary f s = some (p, rest)) : rest <:+ s := by
  unfold readBoundary at h
  split at h
  · next more =>
    have hmore : more <:+ '\x7b' :: more := List.suffix_cons _ more
    split at h
    · exact absurd h nofun
    · next c tail hskip =>
      split_ifs at h
      · have hsuffix := ((local_readBoundaryName f 10).bind local_kind).suffix h
        rw [← hskip] at hsuffix
        exact (hsuffix.trans (skip_suffix f more)).trans hmore
      · exact (Local.pure _).suffix h
  · exact (Local.pure _).suffix h

/-! ## Escapes -/

theorem agree_readEscape (s : List Char) :
    Agree Overrun (readEscape f s) (readEscape f (s ++ closing)) ∨
      OpenBrace f (readEscape f s) (readEscape f (s ++ closing)) := by
  cases s with
  | nil => exact .inl (.lost (List.suffix_refl _))
  | cons c rest =>
    unfold readEscape
    dsimp only [List.cons_append]
    split_ifs
    · exact .inl (.same (.behind rest))
    · split
      case h_1 => exact .inl ((local_readCodePoint f 2).agree rest)
      case h_2 => exact .inl ((local_readCodePoint f 4).agree rest)
      case h_3 => exact .inl ((local_readCodePoint f 8).agree rest)
      case h_4 => exact .inl ((local_readProperty f false).agree rest)
      case h_5 => exact .inl ((local_readProperty f true).agree rest)
      case h_20 => exact agree_readBoundary f rest
      case h_24 => exact .inl .failed
      all_goals exact .inl (.same (.behind rest))

theorem readEscape_suffix {c : Char} {s rest : List Char} {p : Primitive}
    (h : readEscape f (c :: s) = some (p, rest)) : rest <:+ s := by
  unfold readEscape at h
  dsimp only at h
  split_ifs at h
  · exact (Local.pure _).suffix h
  · split at h
    case h_1 => exact (local_readCodePoint f 2).suffix h
    case h_2 => exact (local_readCodePoint f 4).suffix h
    case h_3 => exact (local_readCodePoint f 8).suffix h
    case h_4 => exact (local_readProperty f false).suffix h
    case h_5 => exact (local_readProperty f true).suffix h
    case h_20 => exact readBoundary_suffix f h
    case h_24 => exact absurd h nofun
    all_goals
      exact (Local.pure _).suffix h

end DebugControl.Pattern
