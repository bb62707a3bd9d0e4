import DebugControl.Proofs.Source.Delivery
import Mathlib.Algebra.Group.Nat.Defs

/-!
# The growth of the read buffer

The length that is wanted may be bogus, so the buffer follows what was received. `stage` runs the
loop of `fill` round by round. Before every round the buffer holds what was received and is no larger
than the length, nor than twice what was received and 1024 more; in a round it keeps these bounds and
has room for at least one byte, so that no bytes mean the end of input. None of the sums involved
leaves the machine's range.
-/

namespace DebugControl.Source

/-- The loop between two rounds: what was received, the size of the buffer, and the source. -/
structure Filling where
  received : List UInt8
  size : Nat
  source : Source

/-- The result on the left, the state before the next round on the right. -/
abbrev Stage := (Answer × Source) ⊕ Filling

namespace Filling

variable (length : Nat) (whole : Bool) (x : Filling)

def grown : Nat := grow length x.size x.received.length

def room : Nat := x.grown length - x.received.length

def round : Stage :=
  if x.received.length < length then
    match x.source.read (x.room length) with
    | (.ok [], t) =>
      .inl (if whole then .error (prematureEnd x.received.length length) else .ok x.received, t)
    | (.ok (b :: bytes), t) => .inr ⟨x.received ++ b :: bytes, x.grown length, t⟩
    | (.error f, t) =>
      if f.kind = .interrupted then .inr ⟨x.received, x.grown length, t⟩ else .inl (.error f, t)
  else .inl (.ok (x.received ++ List.replicate (x.size - x.received.length) 0), x.source)

def rest : Answer × Source := fill length whole x.received x.size x.source

theorem rest_eq_round : x.rest length whole = (x.round length whole).elim id (rest length whole) := by
  rw [rest, fill, round]
  by_cases hlt : x.received.length < length
  · rw [if_pos hlt, if_pos hlt]
    dsimp only
    split
    · next t hread =>
      have hread : x.source.read (x.room length) = (.ok [], t) := hread
      rw [hread]
      cases whole <;> rfl
    · next b bytes t hread =>
      have hread : x.source.read (x.room length) = (.ok (b :: bytes), t) := hread
      rw [hread]
      rfl
    · next f t hread =>
      have hread : x.source.read (x.room length) = (.error f, t) := hread
      rw [hread]
      dsimp only
      split_ifs <;> rfl
  · rw [if_neg hlt, if_neg hlt]
    rfl

def stage : Nat → Stage
  | 0 => .inr x
  | n + 1 => (stage n).elim .inl (round length whole)

/-- What the buffer keeps to between two rounds. -/
structure Fits : Prop where
  received_le : x.received.length ≤ x.size
  size_le_length : x.size ≤ length
  size_le_received : x.size ≤ 2 * x.received.length + 1024

variable {length whole} {x : Filling}

namespace Fits

variable (h : x.Fits length)

include h

/-- The buffer grows only when it is full, so that its own size is what was received. -/
theorem grown_le_received : x.grown length ≤ 2 * x.received.length + 1024 := by
  have hreceived := h.received_le
  have hsize := h.size_le_received
  unfold grown grow
  split_ifs <;> omega

theorem grown_le_length (hlt : x.received.length < length) : x.grown length ≤ length :=
  grow_le hlt h.size_le_length

theorem of_round {y : Filling} (hround : x.round length whole = .inr y) : y.Fits length := by
  unfold round at hround
  by_cases hlt : x.received.length < length
  · have hgrown : x.received.length < x.grown length := lt_grow hlt
    have hlength := h.grown_le_length hlt
    have hreceived := h.grown_le_received
    rw [if_pos hlt] at hround
    split at hround
    · exact absurd hround nofun
    · next b bytes t hread =>
      obtain rfl := Sum.inr.inj hround
      obtain ⟨-, hfits⟩ := deliverable_of_read_bytes (List.cons_ne_nil b bytes) hread
      unfold room at hfits
      refine ⟨?_, hlength, ?_⟩
      · dsimp only
        rw [List.length_append]
        omega
      · dsimp only
        rw [List.length_append]
        omega
    · next f t hread =>
      split_ifs at hround
      obtain rfl := Sum.inr.inj hround
      exact ⟨hgrown.le, hlength, hreceived⟩
  · rw [if_neg hlt] at hround
    exact absurd hround nofun

end Fits

theorem Fits.stage (h : x.Fits length) {n : Nat} {y : Filling}
    (hstage : x.stage length whole n = .inr y) : y.Fits length := by
  induction n generalizing y with
  | zero =>
    obtain rfl := Sum.inr.inj hstage
    exact h
  | succ n ih =>
    rw [Filling.stage] at hstage
    cases hn : x.stage length whole n with
    | inl result =>
      rw [hn] at hstage
      exact absurd hstage nofun
    | inr z =>
      rw [hn] at hstage
      exact (ih hn).of_round hstage

/-! ## The loop ends -/

theorem weight_lt_of_round {y : Filling} (hround : x.round length whole = .inr y) :
    y.source.weight < x.source.weight := by
  unfold round at hround
  split at hround
  · split at hround
    · exact absurd hround nofun
    · next b bytes t hread =>
      obtain rfl := Sum.inr.inj hround
      exact weight_lt_of_read hread (List.cons_ne_nil _ _)
    · next f t hread =>
      split_ifs at hround
      obtain rfl := Sum.inr.inj hround
      exact weight_lt_of_fault hread
  · exact absurd hround nofun

theorem stage_succ_of_round {y : Filling} (hround : x.round length whole = .inr y) (n : Nat) :
    x.stage length whole (n + 1) = y.stage length whole n := by
  induction n with
  | zero => exact hround
  | succ n ih =>
    rw [stage, ih]
    rfl

/-- The induction is on what is left to read. -/
theorem exists_stage_eq_rest (x : Filling) :
    ∃ n, x.stage length whole n = .inl (x.rest length whole) := by
  induction hweight : x.source.weight using Nat.strongRecOn generalizing x with
  | _ weight ih =>
    have hrest := x.rest_eq_round length whole
    cases hround : x.round length whole with
    | inl result =>
      rw [hround] at hrest
      refine ⟨1, ?_⟩
      rw [hrest]
      exact hround
    | inr y =>
      rw [hround] at hrest
      have hlt := weight_lt_of_round hround
      rw [hweight] at hlt
      obtain ⟨n, hn⟩ := ih _ hlt y rfl
      refine ⟨n + 1, ?_⟩
      rw [stage_succ_of_round hround, hn, hrest]
      rfl

end Filling

def start (s : Source) : Filling := ⟨[], 0, s⟩

theorem fits_start (length : Nat) (s : Source) : (start s).Fits length :=
  ⟨Nat.zero_le _, Nat.zero_le _, Nat.zero_le _⟩

/-- Whatever length is asked for, the buffer keeps to what was received, every read has room, and no
sum overflows while the buffer is below half the range of a machine word. -/
theorem buffer_follows_received (length : Nat) (whole : Bool) (s : Source)
    (hlength : length < 2 ^ 64) :
    (∃ n, (start s).stage length whole n = .inl (readFully length whole s)) ∧
      ∀ n x, (start s).stage length whole n = .inr x →
        x.size ≤ min length (2 * x.received.length + 1024) ∧
        (x.received.length < length →
          x.grown length ≤ min length (2 * x.received.length + 1024) ∧
          0 < x.room length ∧
          ((x.source.read (x.room length)).1 = .ok [] → x.source.deliverable = ([], none)) ∧
          (x.size < 2 ^ 63 →
            x.size + 1024 < 2 ^ 64 ∧
            x.received.length + min (length - x.received.length) (x.size + 1024) < 2 ^ 64)) := by
  refine ⟨(start s).exists_stage_eq_rest, fun n x hstage => ?_⟩
  have hfits : x.Fits length := (fits_start length s).stage hstage
  refine ⟨le_min hfits.size_le_length hfits.size_le_received, fun hlt => ?_⟩
  have hroom : 0 < x.room length := Nat.sub_pos_of_lt (lt_grow hlt)
  refine ⟨le_min (hfits.grown_le_length hlt) hfits.grown_le_received, hroom, ?_, ?_⟩
  · intro hread
    exact deliverable_of_read_nil hroom (Prod.ext hread rfl)
  · intro hsize
    constructor <;> omega

/-- A bogus length: after two bytes and an interruption the buffer still has its first size. -/
theorem buffer_follows_received_bogusLength :
    2 ^ 64 - 1 < 2 ^ 64 ∧
      ∃ x, (start (ofEvents [.bytes [7, 7], .fault .interrupted, .bytes [7]])).stage (2 ^ 64 - 1)
          true 2 = .inr x ∧
        x.received = [7, 7] ∧ x.size = 1024 ∧
        x.grown (2 ^ 64 - 1) ≤ min (2 ^ 64 - 1) (2 * 2 + 1024) ∧ 0 < x.room (2 ^ 64 - 1) := by
  have hlength : 2 ^ 64 - 1 < 2 ^ 64 := by decide
  have hstage : (start (ofEvents [.bytes [7, 7], .fault .interrupted, .bytes [7]])).stage
      (2 ^ 64 - 1) true 2 = .inr ⟨[7, 7], 1024, ⟨[.bytes [7]], [1022, 1024]⟩⟩ := by
    rfl
  obtain ⟨-, hbounds⟩ := buffer_follows_received _ true
    (ofEvents [.bytes [7, 7], .fault .interrupted, .bytes [7]]) hlength
  obtain ⟨-, hround⟩ := hbounds 2 _ hstage
  obtain ⟨hgrown, hroom, -⟩ := hround (by decide)
  exact ⟨hlength, _, hstage, rfl, rfl, hgrown, hroom⟩

end DebugControl.Source
