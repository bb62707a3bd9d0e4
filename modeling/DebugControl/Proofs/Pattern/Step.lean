import DebugControl.Pattern.Reader
import DebugControl.Proofs.Pattern.Class

/-!
# Steps are local

Each part of a pattern is read in the same way with a parenthesis behind the text, with one
exception: a boundary in front of a brace at the end of the text. What is left then is a repetition
without a number, so that no step follows it.
-/

namespace DebugControl.Pattern

variable (f : Flags) (d : Draft) {s s' rest : List Char}

/-! ## Repetitions -/

theorem local_readShort : Local fun s => some (readShort s) := by
  refine .of_mark '?' (.pure true) (.pure false) (by decide) (fun _ => rfl) fun s hs => ?_
  unfold readShort
  split
  · exact absurd rfl hs
  · rfl

theorem readDigits_eq (n : Nat) (s : List Char) :
    readDigits f n s = readMany f Numeral.digit? n s := by
  induction n generalizing s with
  | zero => cases s <;> rfl
  | succ n ih =>
    cases s with
    | nil => rfl
    | cons c s =>
      rw [readDigits, readMany, ih]
      cases Numeral.digit? c <;> rfl

theorem dropWhile_closing (s : List Char) :
    (s ++ closing).dropWhile Text.isBlank = s.dropWhile Text.isBlank ++ closing := by
  rw [List.dropWhile_append]
  split_ifs with hempty
  · rw [List.isEmpty_iff.1 hempty]
    rfl
  · rfl

theorem Follows.dropBlank (h : Follows s s') :
    Follows (s.dropWhile Text.isBlank) (s'.dropWhile Text.isBlank) := by
  cases h with
  | swallowed => exact .swallowed
  | behind =>
    rw [dropWhile_closing]
    exact .behind _

theorem Follows.skipAround (h : Follows s s') : Follows (skipAround f s) (skipAround f s') := by
  unfold Pattern.skipAround
  cases h with
  | swallowed => exact .swallowed
  | behind =>
    dsimp only
    rw [dropWhile_closing, List.length_append, List.length_append]
    simp only [Nat.add_lt_add_iff_right]
    split_ifs
    · exact (Follows.behind _).skip f
    · exact .behind s

theorem skipAround_suffix (s : List Char) : skipAround f s <:+ s := by
  unfold skipAround
  dsimp only
  split_ifs
  · exact (skip_suffix f _).trans (List.dropWhile_suffix _)
  · exact List.suffix_refl s

theorem local_readCount : Local (readCount f) where
  suffix {s x rest} h := by
    have hsuffix := readMany_suffix f Numeral.digit? s.length
      (s.dropWhile Text.isBlank)
    unfold readCount at h
    rw [readDigits_eq] at h
    dsimp only at h
    split_ifs at h
    obtain ⟨-, rfl⟩ := Prod.mk.inj (Option.some.inj h)
    exact ((skipAround_suffix f _).trans hsuffix).trans (List.dropWhile_suffix _)
  agree s := by
    have hdigits := agree_readMany f Numeral.digit? rfl (Follows.behind s).dropBlank
      (List.dropWhile_suffix _).length_le (List.dropWhile_suffix _).length_le
    obtain ⟨hds, hrest⟩ := hdigits.of_some
    unfold readCount
    rw [readDigits_eq, readDigits_eq]
    dsimp only
    rw [← hds]
    split_ifs
    · exact .failed
    · exact .same (hrest.skipAround f)

theorem local_closeCount : Local (closeCount f) := by
  refine .of_mark '}' (p := fun s => some (readShort (f.skip s)))
    (q := fun _ => none) (local_readShort.skip f) .fail (by decide) (fun _ => rfl) fun s hs => ?_
  unfold closeCount
  split
  · exact absurd rfl hs
  · rfl

/-- What is read of a counted repetition from its second number on. -/
def readGreatest (least : Nat) (s : List Char) :
    Option (((Nat × Option Nat) × Bool) × List Char) := do
  let (most, s) ← readCount f s
  let (short, s) ← closeCount f s
  if least ≤ most then some (((least, some most), short), s) else none

theorem local_readGreatest (least : Nat) : Local (readGreatest f least) := by
  refine (local_readCount f).bind fun most => (local_closeCount f).bind fun short => ?_
  dsimp only
  split_ifs
  · exact .pure _
  · exact .fail

def readMost (least : Nat) (s : List Char) : Option (((Nat × Option Nat) × Bool) × List Char) :=
  match f.skip s with
  | '}' :: rest => (closeCount f ('}' :: rest)).map fun p => (((least, none), p.1), p.2)
  | s => readGreatest f least s

theorem readMost_brace (h : f.skip s = '}' :: rest) (least : Nat) : readMost f least s =
    (some (readShort (f.skip rest))).map fun p => (((least, none), p.1), p.2) := by
  unfold readMost
  rw [h]
  rfl

theorem readMost_number (h : (f.skip s).head? ≠ some '}') (least : Nat) :
    readMost f least s = readGreatest f least (f.skip s) := by
  unfold readMost
  split
  · next hs =>
    rw [hs] at h
    exact absurd rfl h
  · rfl

theorem local_readMost (least : Nat) : Local (readMost f least) :=
  .of_skip_mark f '}' ((local_readShort.skip f).map fun short => ((least, none), short))
    (local_readGreatest f least) (by decide) (fun _ _ h => readMost_brace f h least)
    fun _ h => readMost_number f h least

def readBounds (least : Nat) (s : List Char) : Option (((Nat × Option Nat) × Bool) × List Char) :=
  match s with
  | ',' :: s => readMost f least s
  | s => (closeCount f s).map fun p => (((least, some least), p.1), p.2)

theorem local_readBounds (least : Nat) : Local (readBounds f least) := by
  refine .of_mark ',' (local_readMost f least)
    ((local_closeCount f).map fun short => ((least, some least), short)) (by decide)
    (fun _ => rfl) fun s hs => ?_
  unfold readBounds
  split
  · exact absurd rfl hs
  · rfl

theorem readCounts_regroup (s : List Char) : (readCounts f s).map regroup =
    readCount f (f.skip s) >>= fun p => readBounds f p.1 p.2 := by
  unfold readCounts
  cases readCount f (f.skip s) with
  | none => rfl
  | some p =>
    obtain ⟨least, s⟩ := p
    simp only [Option.bind_eq_bind, Option.bind_some]
    split
    · next t =>
      change _ = readMost f least t
      split
      · next rest heq =>
        rw [readMost_brace f heq]
        rfl
      · next hne =>
        rw [readMost_number f fun h => by
          obtain ⟨rest, heq⟩ := List.head?_eq_some_iff.1 h
          exact hne rest heq]
        unfold readGreatest
        cases readCount f (f.skip t) with
        | none => rfl
        | some q =>
          simp only [Option.bind_eq_bind, Option.bind_some]
          cases closeCount f q.2 with
          | none => rfl
          | some r =>
            simp only [Option.bind_some]
            split_ifs <;> rfl
    · next hne =>
      unfold readBounds
      split
      · next t => exact absurd rfl (hne t)
      · cases closeCount f s <;> rfl

theorem local_readCounts : Local fun s => (readCounts f s).map regroup := by
  simp only [readCounts_regroup]
  exact ((local_readCount f).skip f).bind fun least => local_readBounds f least

theorem readCounts_closing (h : f.skip s = closing) : readCounts f s = none := by
  have hcount : readCount f closing = none := by
    have hblank : closing.dropWhile Text.isBlank = ')' :: ['$'] := rfl
    unfold readCount
    rw [readDigits_eq, hblank, readMany_other f Numeral.digit? rfl]
    rfl
  unfold readCounts
  rw [h, hcount]
  rfl

/-! ## Groups -/

theorem Local.of_closing {α : Type} {read : List Char → Option (α × List Char)}
    (hsuffix : ∀ {s x rest}, read s = some (x, rest) → rest <:+ s)
    (hread : ∀ s, read (s ++ closing) = (read s).map fun p => (p.1, p.2 ++ closing)) :
    Local read where
  suffix := hsuffix
  agree s := by
    rw [hread]
    cases read s with
    | none => exact .failed
    | some p => exact .same (.behind p.2)

theorem readGroupName_of_drop_nil (h : s.drop (s.takeWhile (· != '>')).length = []) :
    readGroupName s = none := by
  unfold readGroupName
  dsimp only
  rw [h]
  split
  · next c more rest _ heq => exact absurd heq nofun
  · rfl

theorem local_readGroupName : Local readGroupName := by
  refine .of_closing (fun {s x rest} h => ?_) fun s => ?_
  · unfold readGroupName at h
    dsimp only at h
    split at h
    · next c more rest hname hdrop =>
      split_ifs at h
      obtain ⟨-, rfl⟩ := Prod.mk.inj (Option.some.inj h)
      have hsuffix := List.suffix_cons '>' rest
      rw [← hdrop] at hsuffix
      exact hsuffix.trans (List.drop_suffix _ s)
    · exact absurd h nofun
  · rcases drop_takeWhile_closing (p := (· != '>')) rfl s with ⟨h, h'⟩ | ⟨h, h'⟩
    · rw [readGroupName_of_drop_nil h, readGroupName_of_drop_nil h']
      rfl
    · unfold readGroupName
      dsimp only
      rw [h, h']
      generalize s.takeWhile _ = name, s.drop _ = r
      cases name with
      | nil => rfl
      | cons c more =>
        cases r with
        | nil => rfl
        | cons d r =>
          rw [List.cons_append]
          by_cases hd : d = '>'
          · subst hd
            change (if _ then _ else _) = Option.map _ (if _ then _ else _)
            split_ifs <;> rfl
          · split
            · next heq => exact absurd (List.cons.inj heq).1 hd
            · split
              · next heq => exact absurd (List.cons.inj heq).1 hd
              · rfl

theorem local_openNamed : Local (openNamed d) := by
  refine local_readGroupName.bind fun name => ?_
  dsimp only
  split_ifs
  · exact .fail
  · exact .pure _

/-- What a list of flags opens or changes. -/
def readListed (s : List Char) : Option (Draft × List Char) := do
  let listed ← d.flags.read [] false false s
  if listed.closing = ':' then some (d.openGroup listed.flags false, listed.rest)
  else if listed.some? then some ({ d.push .flagList with flags := listed.flags }, listed.rest)
  else none

theorem local_readListed : Local (readListed d) := by
  have hread : readListed d = fun s =>
      (d.flags.read [] false false s).map Flags.Listed.split >>= fun p =>
        if p.1.2.2 = ':' then some (d.openGroup p.1.1 false, p.2)
        else if p.1.2.1 then some ({ d.push .flagList with flags := p.1.1 }, p.2)
        else none := by
    funext s
    unfold readListed
    cases d.flags.read [] false false s <;> rfl
  rw [hread]
  refine (local_readFlags d.flags [] false false).bind fun listed => ?_
  dsimp only
  split_ifs
  · exact .pure _
  · exact .pure _
  · exact .fail

def readSign : List Char → Option (Draft × List Char) :=
  onMark '=' (fun _ => none) <| onMark '!' (fun _ => none) <|
    onMark '<' (onMark '=' (fun _ => none) <| onMark '!' (fun _ => none) <| openNamed d) <|
      onMark 'P' (onMark '<' (openNamed d) fun _ => none) <| readListed d

theorem local_readSign : Local (readSign d) := by
  have hnamed := local_openNamed d
  have hangle := Local.fail.onMark '=' (Local.fail.onMark '!' hnamed
    (by decide)) (by decide)
  have hletter := hnamed.onMark '<' .fail (by decide)
  refine Local.fail.onMark _ (Local.fail.onMark _ (hangle.onMark _ ?_ (by decide)) (by decide))
    (by decide)
  exact hletter.onMark _ (local_readListed d) (by decide)

theorem readGroup_eq : readGroup d = fun s =>
    onMark '?' (readSign d) (fun t => some (d.openGroup d.flags true, t)) (d.flags.skip s) := by
  funext s
  unfold readGroup
  generalize d.flags.skip s = t
  split
  case h_6 t hequal hbang =>
    change _ = onMark '=' (fun _ => none) (onMark '!' (fun _ => none) (openNamed d)) t
    rw [onMark_of_ne hequal, onMark_of_ne hbang]
  case h_7 t hequal hbang _ _ hletter hangle =>
    rw [onMark_cons, readSign, onMark_of_ne hequal, onMark_of_ne hbang, onMark_of_ne hangle]
    by_cases h : ∃ rest, t = 'P' :: rest
    · obtain ⟨rest, rfl⟩ := h
      rw [onMark_cons, onMark_of_ne fun r hr => hletter r (congrArg _ hr)]
      rfl
    · rw [onMark_of_ne fun rest hrest => h ⟨rest, hrest⟩]
      rfl
  case h_8 hother => rw [onMark_of_ne hother]
  all_goals rfl

theorem local_readGroup : Local (readGroup d) := by
  rw [readGroup_eq]
  exact ((local_readSign d).onMark '?' (.pure _) (by decide)).skip d.flags

/-! ## Steps -/

theorem local_repeatSign (least : Nat) (most : Option Nat) :
    Local (repeatSign d least most) := by
  refine local_readShort.bind (g := fun p =>
    (d.repeatLast least most p.1).map fun d => (d, p.2)) fun short => ?_
  dsimp only
  cases d.repeatLast least most short with
  | none => exact .fail
  | some d => exact .pure d

theorem local_pushPrimitive (p : Primitive) :
    Local fun s => pushPrimitive d (some (p, s)) := by
  unfold pushPrimitive
  simp only [Option.bind_eq_bind, Option.bind_some]
  exact .bindOption fun piece => .pure _

theorem local_repeatCounts : Local (d.step '\x7b') := by
  have hstep : d.step '\x7b' = fun s => (readCounts d.flags s).map regroup >>= fun p =>
      (d.repeatLast p.1.1.1 p.1.1.2 p.1.2).map fun d => (d, p.2) := by
    funext s
    simp only [Draft.step]
    cases readCounts d.flags s with
    | none => rfl
    | some p =>
      obtain ⟨⟨least, most⟩, short, s⟩ := p
      simp only [Option.bind_eq_bind, Option.bind_some, Option.map_some, regroup]
      cases d.repeatLast least most short <;> rfl
  rw [hstep]
  refine (local_readCounts d.flags).bind fun p => ?_
  dsimp only
  cases d.repeatLast p.1.1 p.1.2 p.2 with
  | none => exact .fail
  | some d => exact .pure d

theorem local_step {c : Char} (hc : c ≠ '\\') : Local (d.step c) := by
  cases c using Draft.step.fun_cases with
  | case1 => exact local_readGroup d
  | case2 =>
    change Local fun s => d.closeGroup.map fun d => (d, s)
    cases d.closeGroup with
    | none => exact .fail
    | some d => exact .pure d
  | case3 => exact .pure d.nextBranch
  | case4 =>
    exact (local_readClass d.flags).map fun x => d.push (.set (!d.flags.unicode) x.set x.depth)
  | case5 => exact local_repeatSign d 0 (some 1)
  | case6 => exact local_repeatSign d 0 none
  | case7 => exact local_repeatSign d 1 none
  | case8 => exact local_repeatCounts d
  | case9 => exact absurd rfl hc
  | case10 => exact local_pushPrimitive d .dot
  | case11 => exact local_pushPrimitive d (.assertion .caret)
  | case12 => exact local_pushPrimitive d (.assertion .dollar)
  | case13 c =>
    have hstep : d.step c = fun s => pushPrimitive d (some (.literal c false, s)) := by
      funext s
      rw [Draft.step] <;> assumption
    rw [hstep]
    exact local_pushPrimitive d (.literal c false)

theorem step_suffix {c : Char} {d' : Draft} (h : d.step c s = some (d', rest)) : rest <:+ s := by
  by_cases hc : c = '\\'
  · subst hc
    obtain ⟨⟨p, t⟩, hp, h⟩ := Option.bind_eq_some_iff.1 h
    obtain ⟨piece, -, heq⟩ := Option.bind_eq_some_iff.1 h
    obtain ⟨-, rfl⟩ := Prod.mk.inj (Option.some.inj heq)
    cases s with
    | nil => exact absurd hp nofun
    | cons c s => exact (readEscape_suffix d.flags hp).trans (List.suffix_cons c s)
  · exact (local_step d hc).suffix h

/-- Where a step on the text alone fails, a step with a parenthesis behind the text fails too, has
read the parenthesis, or comes to a brace that the next step cannot read. -/
theorem agree_step (c : Char) (s : List Char) :
    Agree Overrun (d.step c s) (d.step c (s ++ closing)) ∨
      d.step c s = none ∧ ∃ d' r, d.step c (s ++ closing) = some (d', '\x7b' :: r) ∧
        d'.flags.skip r = closing := by
  by_cases hc : c = '\\'
  · subst hc
    change Agree Overrun (pushPrimitive d _) (pushPrimitive d _) ∨
      pushPrimitive d _ = none ∧ ∃ d' r, pushPrimitive d _ = _ ∧ _
    rcases agree_readEscape d.flags s with h | ⟨hnone, r, hsome, hskip⟩
    · left
      refine h.bind fun p => ?_
      dsimp only
      exact .bindOption fun piece => .pure _
    · right
      rw [hnone, hsome]
      exact ⟨rfl, _, r, rfl, hskip⟩
  · exact .inl ((local_step d hc).agree s)

end DebugControl.Pattern
