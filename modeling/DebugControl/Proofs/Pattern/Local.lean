import DebugControl.Pattern.Flags
import Mathlib.Data.List.Infix
import Mathlib.Data.List.TakeWhile

/-!
# Reading with a closing parenthesis behind

A pattern that must match a whole line is read inside a group, with a parenthesis and an end mark
behind it. A reader is local if this makes no difference to it: it reads the same from a text with
and without these two characters behind it, or fails on the text alone and has read the parenthesis
where it does not fail. There is one way in which they can get lost: where white space and comments
are skipped, a comment at the end of the text swallows them.
-/

namespace DebugControl.Pattern

/-- What closes the group around a pattern. -/
def closing : List Char := [')', '$']

/-- The rest of a text, and the rest of the same text with `closing` behind it. -/
inductive Follows : List Char → List Char → Prop
  | behind (rest : List Char) : Follows rest (rest ++ closing)
  | swallowed : Follows [] []

/-- What a reader makes of a text, and of the same text with `closing` behind it; `lost` are the
texts that it may leave of the second if it fails on the first. -/
inductive Agree {α : Type} (lost : List Char → Prop) :
    Option (α × List Char) → Option (α × List Char) → Prop
  | same {x : α} {rest rest' : List Char} :
      Follows rest rest' → Agree lost (some (x, rest)) (some (x, rest'))
  | failed : Agree lost none none
  | lost {x : α} {rest : List Char} : lost rest → Agree lost none (some (x, rest))

/-- What is left when the parenthesis has been read. -/
def Overrun (rest : List Char) : Prop := rest <:+ ['$']

structure Local {α : Type} (read : List Char → Option (α × List Char)) : Prop where
  suffix {s : List Char} {x : α} {rest : List Char} : read s = some (x, rest) → rest <:+ s
  agree (s : List Char) : Agree Overrun (read s) (read (s ++ closing))

variable {α β : Type} {lost lost' : List Char → Prop} {s rest rest' : List Char}
  {read : List Char → Option (α × List Char)}

theorem Agree.mono {a b : Option (α × List Char)} (h : Agree lost a b)
    (hlost : ∀ rest, lost rest → lost' rest) : Agree lost' a b := by
  cases h with
  | same hrest => exact .same hrest
  | failed => exact .failed
  | lost hrest => exact .lost (hlost _ hrest)

theorem Agree.map {a b : Option (α × List Char)} (h : Agree lost a b) (g : α → β) :
    Agree lost (a.map fun p => (g p.1, p.2)) (b.map fun p => (g p.1, p.2)) := by
  cases h with
  | same hrest => exact .same hrest
  | failed => exact .failed
  | lost hrest => exact .lost hrest

theorem Agree.of_some {p q : α × List Char} (h : Agree lost (some p) (some q)) :
    p.1 = q.1 ∧ Follows p.2 q.2 := by
  cases h with
  | same hrest => exact ⟨rfl, hrest⟩

namespace Local

theorem agree_follows (h : Local read) (hrest : Follows rest rest') :
    Agree Overrun (read rest) (read rest') := by
  cases hrest with
  | behind => exact h.agree rest
  | swallowed =>
    cases hread : read [] with
    | none => exact .failed
    | some p =>
      obtain ⟨x, rest⟩ := p
      obtain rfl := List.eq_nil_of_suffix_nil (h.suffix hread)
      exact .same .swallowed

theorem overrun (h : Local read) (hs : Overrun s) {x : α} (hread : read s = some (x, rest)) :
    Overrun rest := (h.suffix hread).trans hs

end Local

theorem Agree.bind {a b : Option (α × List Char)} {next : α × List Char → Option (β × List Char)}
    (h : Agree Overrun a b) (hnext : ∀ x, Local fun s => next (x, s)) :
    Agree Overrun (a >>= next) (b >>= next) := by
  cases h with
  | same hrest => exact (hnext _).agree_follows hrest
  | failed => exact .failed
  | @lost x rest hrest =>
    change Agree Overrun none (next (x, rest))
    cases hread : next (x, rest) with
    | none => exact .failed
    | some p => exact .lost ((hnext x).overrun hrest hread)

namespace Local

theorem pure (x : α) : Local fun s => some (x, s) where
  suffix h := by
    obtain ⟨-, rfl⟩ := Prod.mk.inj (Option.some.inj h)
    exact List.suffix_refl _
  agree s := .same (.behind s)

theorem fail : Local fun _ => (none : Option (α × List Char)) where
  suffix h := absurd h nofun
  agree _ := .failed

theorem bindOption {o : Option β} {next : β → List Char → Option (α × List Char)}
    (h : ∀ x, Local (next x)) : Local fun s => o >>= fun x => next x s := by
  cases o with
  | none => exact fail
  | some x => exact h x

theorem bind {g : α × List Char → Option (β × List Char)} (h : Local read)
    (hnext : ∀ x, Local fun s => g (x, s)) : Local fun s => read s >>= g where
  suffix hread := by
    obtain ⟨⟨x, rest⟩, hfirst, hsecond⟩ := Option.bind_eq_some_iff.1 hread
    exact ((hnext x).suffix hsecond).trans (h.suffix hfirst)
  agree s := (h.agree s).bind hnext

theorem map (h : Local read) (g : α → β) :
    Local fun s => (read s).map fun p => (g p.1, p.2) where
  suffix hread := by
    obtain ⟨⟨x, rest⟩, hfirst, hsecond⟩ := Option.map_eq_some_iff.1 hread
    obtain ⟨-, rfl⟩ := Prod.mk.inj hsecond
    exact h.suffix hfirst
  agree s := (h.agree s).map g

theorem of_cons (first : Char → List Char → Option (α × List Char)) (hfirst : ∀ c, Local (first c))
    (hnil : read [] = none) (hcons : ∀ c rest, read (c :: rest) = first c rest) : Local read where
  suffix {s x rest} hread := by
    cases s with
    | nil =>
      rw [hnil] at hread
      exact absurd hread nofun
    | cons c s =>
      rw [hcons] at hread
      exact ((hfirst c).suffix hread).trans (List.suffix_cons c s)
  agree s := by
    cases s with
    | nil =>
      rw [hnil, List.nil_append, closing, hcons]
      cases hread : first ')' ['$'] with
      | none => exact .failed
      | some p => exact .lost ((hfirst ')').suffix hread)
    | cons c s =>
      rw [List.cons_append, hcons, hcons]
      exact (hfirst c).agree s

end Local

def onMark (mark : Char) (marked plain : List Char → Option (α × List Char)) (s : List Char) :
    Option (α × List Char) :=
  if s.head? = some mark then marked s.tail else plain s

section Mark

variable {p q : List Char → Option (α × List Char)}

theorem onMark_cons (mark : Char) (rest : List Char) : onMark mark p q (mark :: rest) = p rest :=
  if_pos rfl

theorem onMark_of_ne {mark : Char} (h : ∀ rest, s = mark :: rest → False) :
    onMark mark p q s = q s :=
  if_neg fun hhead => (List.head?_eq_some_iff.1 hhead).elim h

namespace Local

theorem onMark (mark : Char) (hp : Local p) (hq : Local q) (hmark : mark ≠ ')') :
    Local (onMark mark p q) where
  suffix {s x rest} hread := by
    unfold Pattern.onMark at hread
    split_ifs at hread with hhead
    · exact (hp.suffix hread).trans (List.tail_suffix s)
    · exact hq.suffix hread
  agree s := by
    cases s with
    | nil =>
      have hclosing : Pattern.onMark mark p q closing = q closing :=
        onMark_of_ne fun rest h => hmark (List.cons.inj h).1.symm
      rw [List.nil_append, hclosing]
      exact hq.agree []
    | cons c s =>
      unfold Pattern.onMark
      rw [List.cons_append, List.head?_cons, List.head?_cons]
      split_ifs
      · exact hp.agree s
      · exact hq.agree (c :: s)

theorem of_mark (mark : Char) (hp : Local p) (hq : Local q) (hmark : mark ≠ ')')
    (hcons : ∀ rest, read (mark :: rest) = p rest)
    (helse : ∀ s, s.head? ≠ some mark → read s = q s) : Local read := by
  have hread : read = Pattern.onMark mark p q := by
    funext s
    unfold Pattern.onMark
    split_ifs with hhead
    · obtain ⟨rest, rfl⟩ := List.head?_eq_some_iff.1 hhead
      exact hcons rest
    · exact helse s hhead
  rw [hread]
  exact hp.onMark mark hq hmark

end Local

end Mark

/-- What is read with the rest of the text apart. -/
def regroup (p : α × β × List Char) : (α × β) × List Char := ((p.1, p.2.1), p.2.2)

/-! ## Skipping -/

theorem follows_skipSpaced (inComment : Bool) (s : List Char) :
    Follows (Flags.skipSpaced inComment s) (Flags.skipSpaced inComment (s ++ closing)) := by
  induction s generalizing inComment with
  | nil =>
    cases inComment with
    | true => exact .swallowed
    | false => exact .behind []
  | cons c s ih =>
    rw [List.cons_append]
    cases inComment with
    | true =>
      rw [Flags.skipSpaced, Flags.skipSpaced]
      exact ih _
    | false =>
      rw [Flags.skipSpaced, Flags.skipSpaced]
      split_ifs
      · exact ih _
      · exact ih _
      · exact .behind (c :: s)

theorem skipSpaced_suffix (inComment : Bool) (s : List Char) :
    Flags.skipSpaced inComment s <:+ s := by
  induction s generalizing inComment with
  | nil => cases inComment <;> exact List.suffix_refl _
  | cons c s ih =>
    cases inComment with
    | true =>
      rw [Flags.skipSpaced]
      exact (ih _).trans (List.suffix_cons c s)
    | false =>
      rw [Flags.skipSpaced]
      split_ifs
      · exact (ih _).trans (List.suffix_cons c s)
      · exact (ih _).trans (List.suffix_cons c s)
      · exact List.suffix_refl _

variable (f : Flags)

theorem Follows.skip (h : Follows rest rest') : Follows (f.skip rest) (f.skip rest') := by
  cases h with
  | behind =>
    unfold Flags.skip
    split_ifs
    · exact follows_skipSpaced false rest
    · exact .behind rest
  | swallowed =>
    unfold Flags.skip
    split_ifs <;> exact .swallowed

theorem skip_suffix (s : List Char) : f.skip s <:+ s := by
  unfold Flags.skip
  split_ifs
  · exact skipSpaced_suffix false s
  · exact List.suffix_refl s

theorem Local.skip (h : Local read) : Local fun s => read (f.skip s) where
  suffix hread := (h.suffix hread).trans (skip_suffix f _)
  agree s := h.agree_follows ((Follows.behind s).skip f)

theorem Local.of_skip_mark (mark : Char) {p q : List Char → Option (α × List Char)}
    (hp : Local p) (hq : Local q) (hmark : mark ≠ ')')
    (hcons : ∀ s rest, f.skip s = mark :: rest → read s = p rest)
    (helse : ∀ s, (f.skip s).head? ≠ some mark → read s = q (f.skip s)) : Local read := by
  have hread : read = fun s => Pattern.onMark mark p q (f.skip s) := by
    funext s
    unfold Pattern.onMark
    split_ifs with hhead
    · obtain ⟨rest, hrest⟩ := List.head?_eq_some_iff.1 hhead
      rw [hcons s rest hrest, hrest, List.tail_cons]
    · exact helse s hhead
  rw [hread]
  exact (hp.onMark mark hq hmark).skip f

theorem Follows.length_le (h : Follows rest rest') : rest'.length ≤ rest.length + 2 := by
  cases h with
  | behind => exact (List.length_append).le
  | swallowed => exact Nat.zero_le _

theorem skip_length_le (s : List Char) : (f.skip s).length ≤ s.length :=
  (skip_suffix f s).length_le

/-! ## Items -/

def readMany (item : Char → Option α) : Nat → List Char → List α × List Char
  | n + 1, c :: rest =>
    match item c with
    | some x =>
      let (xs, s) := readMany item n (f.skip rest)
      (x :: xs, s)
    | none => ([], c :: rest)
  | _, s => ([], s)

variable (item : Char → Option α)

theorem readMany_nil (n : Nat) : readMany f item n [] = ([], []) := by
  cases n <;> rfl

theorem readMany_other {c : Char} (hc : item c = none) (n : Nat) (rest : List Char) :
    readMany f item n (c :: rest) = ([], c :: rest) := by
  cases n with
  | zero => rfl
  | succ n => rw [readMany, hc]

theorem readMany_suffix (n : Nat) (s : List Char) : (readMany f item n s).2 <:+ s := by
  induction n generalizing s with
  | zero => exact List.suffix_refl s
  | succ n ih =>
    cases s with
    | nil => exact List.suffix_refl []
    | cons c s =>
      cases hc : item c with
      | none => rw [readMany_other f item hc]
      | some x =>
        rw [readMany, hc]
        exact ((ih (f.skip s)).trans (skip_suffix f s)).trans (List.suffix_cons c s)

/-- Fuel for each character is enough, so that the longer text is read in the same way. -/
theorem agree_readMany (hitem : item ')' = none) {n n' : Nat} (h : Follows s rest)
    (hn : s.length ≤ n) (hn' : rest.length ≤ n') :
    Agree Overrun (some (readMany f item n s)) (some (readMany f item n' rest)) := by
  induction n generalizing n' s rest with
  | zero =>
    obtain rfl := List.length_eq_zero_iff.1 (Nat.le_zero.1 hn)
    cases h with
    | swallowed =>
      rw [readMany_nil, readMany_nil]
      exact .same .swallowed
    | behind =>
      rw [readMany_nil, List.nil_append, closing, readMany_other f item hitem]
      exact .same (.behind [])
  | succ n ih =>
    cases h with
    | swallowed =>
      rw [readMany_nil, readMany_nil]
      exact .same .swallowed
    | behind =>
      cases s with
      | nil =>
        rw [readMany_nil, List.nil_append, closing, readMany_other f item hitem]
        exact .same (.behind [])
      | cons c s =>
        cases hc : item c with
        | none =>
          rw [List.cons_append, readMany_other f item hc, readMany_other f item hc]
          exact .same (.behind (c :: s))
        | some x =>
          cases n' with
          | zero => exact absurd hn' (Nat.not_succ_le_zero _)
          | succ n' =>
            have hle := (skip_length_le f s).trans (Nat.le_of_succ_le_succ hn)
            have hle' := (skip_length_le f (s ++ closing)).trans (Nat.le_of_succ_le_succ hn')
            rw [List.cons_append, readMany, readMany, hc]
            exact (ih ((Follows.behind s).skip f) hle hle').map fun xs => x :: xs

/-! ## Names -/

/-- A name up to a mark that does not occur in `closing` either is cut in the same place, or there is
no mark at all. -/
theorem drop_takeWhile_closing {p : Char → Bool} (hp : closing.all p = true) (s : List Char) :
    (s.drop (s.takeWhile p).length = [] ∧
        (s ++ closing).drop ((s ++ closing).takeWhile p).length = []) ∨
      ((s ++ closing).takeWhile p = s.takeWhile p ∧
        (s ++ closing).drop (s.takeWhile p).length = s.drop (s.takeWhile p).length ++ closing) := by
  rw [List.takeWhile_append]
  split_ifs with h
  · left
    rw [List.takeWhile_eq_self_iff.2 (List.all_eq_true.1 hp), h]
    exact ⟨List.drop_length, List.drop_length⟩
  · exact .inr ⟨rfl, List.drop_append_of_le_length (List.takeWhile_prefix p).length_le⟩

/-! ## Lists of flags -/

def Flags.Listed.split (l : Flags.Listed) : (Flags × Bool × Char) × List Char :=
  ((l.flags, l.some?, l.closing), l.rest)

theorem local_readFlags (seen : List Char) (off dangling : Bool) :
    Local fun s => (f.read seen off dangling s).map Flags.Listed.split where
  suffix {s x rest} hread := by
    induction s generalizing f seen off dangling with
    | nil => exact absurd hread nofun
    | cons c s ih =>
      rw [Flags.read] at hread
      split_ifs at hread
      · exact absurd hread nofun
      · obtain ⟨-, rfl⟩ := Prod.mk.inj (Option.some.inj hread)
        exact List.suffix_cons c s
      · exact absurd hread nofun
      · exact (ih _ _ _ _ hread).trans (List.suffix_cons c s)
      · split at hread
        · exact absurd hread nofun
        · exact (ih _ _ _ _ hread).trans (List.suffix_cons c s)
  agree s := by
    induction s generalizing f seen off dangling with
    | nil =>
      cases dangling with
      | true => exact .failed
      | false => exact .lost (List.suffix_refl _)
    | cons c s ih =>
      rw [List.cons_append, Flags.read, Flags.read]
      split_ifs
      · exact .failed
      · exact .same (.behind s)
      · exact .failed
      · exact ih _ _ _ _
      · split
        · exact .failed
        · exact ih _ _ _ _

end DebugControl.Pattern
