import DebugControl.Proofs.Utf8.Balance

/-!
# The text of two streams

Two streams write to one decoder, a piece at a time. If neither writes while the other has written
only a part of a character, the decoded text is an interleaving of their two texts. Otherwise the
character is given up and the text is longer than both together, so that it is no interleaving.
-/

namespace DebugControl

/-- A list is put together from two others, each in its own order. -/
inductive Interleaved {α : Type} : List α → List α → List α → Prop where
  | done : Interleaved [] [] []
  | left {x : α} {a b c : List α} : Interleaved a b c → Interleaved (x :: a) b (x :: c)
  | right {x : α} {a b c : List α} : Interleaved a b c → Interleaved a (x :: b) (x :: c)

namespace Interleaved

variable {α : Type} {a b c : List α}

theorem symm (h : Interleaved a b c) : Interleaved b a c := by
  induction h with
  | done => exact .done
  | left _ ih => exact .right ih
  | right _ ih => exact .left ih

theorem perm (h : Interleaved a b c) : c.Perm (a ++ b) := by
  induction h with
  | done => exact .nil
  | left _ ih => exact ih.cons _
  | right _ ih => exact (ih.cons _).trans List.perm_middle.symm

theorem length_eq (h : Interleaved a b c) : c.length = a.length + b.length := by
  rw [h.perm.length_eq, List.length_append]

theorem append_left (h : Interleaved a b c) (x : List α) : Interleaved (a ++ x) b (c ++ x) := by
  induction h with
  | done =>
    induction x with
    | nil => exact .done
    | cons y x ih => exact .left ih
  | left _ ih => exact .left ih
  | right _ ih => exact .right ih

end Interleaved

namespace Utf8

/-! ## Pieces of two streams -/

structure Piece where
  stream : Bool
  bytes : List UInt8
deriving Repr, DecidableEq

def merged (pieces : List Piece) : List UInt8 := pieces.flatMap Piece.bytes

def bytesOf (i : Bool) (pieces : List Piece) : List UInt8 :=
  merged (pieces.filter fun p => p.stream = i)

/-- Whenever a stream writes something, the other one has written whole characters. -/
def Whole (pieces : List Piece) : Prop :=
  ∀ before p after, pieces = before ++ p :: after → p.bytes ≠ [] →
    ∃ text, bytesOf (!p.stream) before = encode text

section

variable {p : Piece} {before pieces : List Piece}

@[simp] theorem merged_append (a b : List Piece) : merged (a ++ b) = merged a ++ merged b :=
  List.flatMap_append

@[simp] theorem merged_singleton (p : Piece) : merged [p] = p.bytes := List.append_nil _

@[simp] theorem bytesOf_append (i : Bool) (a b : List Piece) :
    bytesOf i (a ++ b) = bytesOf i a ++ bytesOf i b := by
  rw [bytesOf, List.filter_append, merged_append]
  rfl

theorem bytesOf_same (p : Piece) : bytesOf p.stream [p] = p.bytes := by
  simp [bytesOf]

theorem bytesOf_other {i : Bool} (h : p.stream ≠ i) : bytesOf i [p] = [] := by
  simp [bytesOf, h, merged]

theorem merged_perm (pieces : List Piece) :
    (merged pieces).Perm (bytesOf false pieces ++ bytesOf true pieces) := by
  have hother : (pieces.filter fun p => p.stream = true) =
      pieces.filter fun p => !decide (p.stream = false) :=
    List.filter_congr fun p _ => by simp
  rw [bytesOf, bytesOf, hother, ← merged_append]
  exact (List.filter_append_perm _ pieces).symm.flatMap_right _

theorem whole_concat :
    Whole (before ++ [p]) ↔
      Whole before ∧ (p.bytes ≠ [] → ∃ text, bytesOf (!p.stream) before = encode text) := by
  constructor
  · intro h
    refine ⟨fun first q after he hq => ?_, fun hp => h before p [] rfl hp⟩
    exact h first q (after ++ [p]) (by simp [he]) hq
  · rintro ⟨hbefore, hlast⟩ first q after he hq
    obtain rfl | ⟨init, last, rfl⟩ := List.eq_nil_or_concat' after
    · obtain ⟨rfl, hpq⟩ := List.append_inj' he rfl
      obtain rfl : p = q := List.singleton_inj.1 hpq
      exact hlast hq
    · rw [← List.cons_append, ← List.append_assoc] at he
      obtain ⟨rfl, -⟩ := List.append_inj' he rfl
      exact hbefore first q init rfl hq

end

/-! ## Whole characters -/

def textOf (i : Bool) (pieces : List Piece) : List Char := (decodeStream (bytesOf i pieces)).1

/-- The unfinished character that a stream has come to. -/
def tailOf (i : Bool) (pieces : List Piece) : List UInt8 := (decodeStream (bytesOf i pieces)).2

def WellFormed (pieces : List Piece) : Prop := ∀ i, ∃ text, bytesOf i pieces <+: encode text

/-- All that was written is an interleaving of the characters of both streams, up to an unfinished
character of one of them. -/
def Orderly (i : Bool) (pieces : List Piece) : Prop :=
  ∃ text, Interleaved (textOf i pieces) (textOf (!i) pieces) text ∧
    (tailOf (!i) pieces = [] ∧ merged pieces = encode text ++ tailOf i pieces ∨
      tailOf i pieces = [] ∧ merged pieces = encode text ++ tailOf (!i) pieces)

section

variable {i : Bool} {p : Piece} {before pieces : List Piece}

theorem tailOf_unfinished (h : tailOf i pieces ≠ []) : Unfinished (tailOf i pieces) :=
  (unfinishedEnd_decodeStream _).unfinished h

theorem tailOf_eq_nil (h : ∃ text, bytesOf i pieces = encode text) : tailOf i pieces = [] := by
  obtain ⟨text, htext⟩ := h
  rw [tailOf, htext, decodeStream_encode]

theorem WellFormed.bytesOf_eq (h : WellFormed pieces) (i : Bool) :
    bytesOf i pieces = encode (textOf i pieces) ++ tailOf i pieces := by
  obtain ⟨text, htext⟩ := h i
  exact eq_encode_append_of_prefix htext

theorem WellFormed.of_concat (h : WellFormed (before ++ [p])) : WellFormed before := by
  intro i
  obtain ⟨text, htext⟩ := h i
  rw [bytesOf_append] at htext
  exact ⟨text, (List.prefix_append _ _).trans htext⟩

theorem WellFormed.exists_added (h : WellFormed (before ++ [p])) :
    ∃ added, textOf p.stream (before ++ [p]) = textOf p.stream before ++ added ∧
      tailOf p.stream before ++ p.bytes = encode added ++ tailOf p.stream (before ++ [p]) := by
  have hall : bytesOf p.stream (before ++ [p]) = bytesOf p.stream before ++ p.bytes := by
    rw [bytesOf_append, bytesOf_same]
  have htext : textOf p.stream (before ++ [p]) =
      textOf p.stream before ++ (decodeStream (tailOf p.stream before ++ p.bytes)).1 := by
    rw [textOf, hall, decodeStream_append]
    rfl
  refine ⟨_, htext, ?_⟩
  have hbytes := h.bytesOf_eq p.stream
  rwa [hall, htext, h.of_concat.bytesOf_eq, encode_append, List.append_assoc, List.append_assoc,
    List.append_cancel_left_eq] at hbytes

theorem Orderly.not (h : Orderly i pieces) : Orderly (!i) pieces := by
  obtain ⟨text, htext, hmerged⟩ := h
  rw [Orderly, Bool.not_not]
  exact ⟨text, htext.symm, hmerged.symm⟩

theorem orderly_of_eq_nil (h : Orderly i before) (hp : p.bytes = []) :
    Orderly i (before ++ [p]) := by
  have hnone : ∀ i, bytesOf i [p] = [] := by
    intro i
    by_cases hi : p.stream = i
    · rw [← hi, bytesOf_same, hp]
    · exact bytesOf_other hi
  simpa only [Orderly, textOf, tailOf, bytesOf_append, hnone, merged_append, merged_singleton, hp,
    List.append_nil] using h

theorem Orderly.concat (h : Orderly p.stream before) (hother : tailOf (!p.stream) before = [])
    (hformed : WellFormed (before ++ [p])) : Orderly p.stream (before ++ [p]) := by
  obtain ⟨text, htext, hmerged⟩ : ∃ text,
      Interleaved (textOf p.stream before) (textOf (!p.stream) before) text ∧
        merged before = encode text ++ tailOf p.stream before := by
    obtain ⟨text, htext, ⟨-, hm⟩ | ⟨htail, hm⟩⟩ := h
    · exact ⟨text, htext, hm⟩
    · exact ⟨text, htext, by rw [hm, htail, hother]⟩
  obtain ⟨added, hnew, hbytes⟩ := hformed.exists_added
  have hkept : bytesOf (!p.stream) (before ++ [p]) = bytesOf (!p.stream) before := by
    rw [bytesOf_append, bytesOf_other (by simp), List.append_nil]
  have hrest : textOf (!p.stream) (before ++ [p]) = textOf (!p.stream) before := by
    rw [textOf, hkept, textOf]
  refine ⟨text ++ added, ?_, .inl ⟨?_, ?_⟩⟩
  · rw [hnew, hrest]
    exact htext.append_left added
  · rw [tailOf, hkept]
    exact hother
  · rw [merged_append, merged_singleton, hmerged, List.append_assoc, hbytes, encode_append,
      List.append_assoc]

theorem Whole.orderly (h : Whole pieces) (hformed : WellFormed pieces) (i : Bool) :
    Orderly i pieces := by
  induction pieces using List.reverseRecOn generalizing i with
  | nil => exact ⟨[], .done, .inl ⟨rfl, rfl⟩⟩
  | append_singleton before p ih =>
    obtain ⟨hbefore, hlast⟩ := whole_concat.1 h
    have hseen := ih hbefore hformed.of_concat
    by_cases hp : p.bytes = []
    · exact orderly_of_eq_nil (hseen i) hp
    · have hconcat := (hseen p.stream).concat (tailOf_eq_nil (hlast hp)) hformed
      by_cases hi : i = p.stream
      · rw [hi]
        exact hconcat
      · rw [Bool.eq_not.2 hi]
        exact hconcat.not

theorem whole_of_gaps (hgaps : Decoder.empty.gaps (merged pieces) = 0)
    (hformed : WellFormed pieces) : Whole pieces := by
  induction pieces using List.reverseRecOn with
  | nil =>
    intro before p after he
    exact absurd he.symm (by simp)
  | append_singleton before p ih =>
    rw [merged_append, merged_singleton, Decoder.gaps_append, Nat.add_eq_zero_iff] at hgaps
    have hbefore := ih hgaps.1 hformed.of_concat
    refine whole_concat.2 ⟨hbefore, fun hp => ?_⟩
    by_cases htail : tailOf (!p.stream) before = []
    · have hbytes := hformed.of_concat.bytesOf_eq (!p.stream)
      rw [htail, List.append_nil] at hbytes
      exact ⟨_, hbytes⟩
    · -- the first byte of the piece begins a character, and interrupts the one of the other stream
      obtain ⟨text, -, ⟨hnil, -⟩ | ⟨hsame, hmerged⟩⟩ :=
        hbefore.orderly hformed.of_concat p.stream
      · exact absurd hnil htail
      · have hpending : (decodeStream (merged before)).2 ≠ [] := by
          rw [hmerged, tail_of_unfinished (tailOf_unfinished htail)]
          exact htail
        obtain ⟨added, -, hbytes⟩ := hformed.exists_added
        rw [hsame, List.nil_append] at hbytes
        obtain ⟨b, rest, hb⟩ := List.exists_cons_of_ne_nil hp
        rw [hb] at hbytes hgaps
        have hgap := gap_pos hpending (lead_head hbytes tailOf_unfinished)
        rw [Decoder.gaps, Nat.add_eq_zero_iff] at hgaps
        omega

end

/-- The text of two streams is an interleaving of their texts exactly if neither of them writes
while the other has written a part of a character. -/
theorem interleaved_iff_whole {pieces : List Piece} {a b : List Char}
    (ha : bytesOf false pieces = encode a) (hb : bytesOf true pieces = encode b) :
    Interleaved a b (decode (merged pieces)) ↔ Whole pieces := by
  have hformed : WellFormed pieces
    | false => ⟨a, by rw [ha]⟩
    | true => ⟨b, by rw [hb]⟩
  constructor
  · intro h
    have hperm := merged_perm pieces
    rw [ha, hb, ← encode_append] at hperm
    obtain ⟨hbeginnings, hneeds⟩ := encode_counts (a ++ b)
    have hlength : (decode (merged pieces)).length = beginnings (merged pieces) := by
      rw [h.length_eq, beginnings, hperm.countP_eq, ← beginnings, hbeginnings, List.length_append]
    have hfollowers : followers (merged pieces) = needs (merged pieces) := by
      rw [followers, hperm.countP_eq, ← followers, hneeds, needs_eq_of_perm hperm]
    exact whole_of_gaps (gaps_eq_zero hlength hfollowers) hformed
  · intro h
    obtain ⟨text, htext, hmerged⟩ := h.orderly hformed false
    have hfalse : textOf false pieces = a ∧ tailOf false pieces = [] := by
      rw [textOf, tailOf, ha, decodeStream_encode]
      exact ⟨rfl, rfl⟩
    have htrue : textOf (!false) pieces = b ∧ tailOf (!false) pieces = [] := by
      rw [textOf, tailOf, Bool.not_false, hb, decodeStream_encode]
      exact ⟨rfl, rfl⟩
    rw [hfalse.2, htrue.2, or_self] at hmerged
    rw [hfalse.1, htrue.1] at htext
    rw [hmerged.2, decode_encode_append, decode_nil, List.append_nil]
    exact htext

end Utf8

end DebugControl
