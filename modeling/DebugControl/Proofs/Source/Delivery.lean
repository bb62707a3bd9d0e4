import DebugControl.Source
import Mathlib.Data.List.Infix

/-!
# What a source delivers

A source can deliver the bytes before its first end of input, or before its first fault that is no
interruption. Reading a length returns the beginning of these bytes and nothing else, whatever pieces
they come in and wherever the source is interrupted: each round of `fill` moves bytes from what can
still be delivered to what was received, and the buffer never grows beyond the length, so that no
part of it is left unwritten when the length is reached.
-/

namespace DebugControl.Source

/-- The bytes that can be read before the first end of input or the first fault other than an
interruption, and that fault, if it comes first. A piece without bytes is an end of input. -/
def deliverableFrom : List ReadEvent → List UInt8 × Option Fault
  | [] => ([], none)
  | .ended :: _ => ([], none)
  | .bytes bytes :: rest =>
    if bytes = [] then ([], none)
    else (bytes ++ (deliverableFrom rest).1, (deliverableFrom rest).2)
  | .fault f :: rest => if f.kind = .interrupted then deliverableFrom rest else ([], some f)

def deliverable (s : Source) : List UInt8 × Option Fault := deliverableFrom s.events

/-- What reading a length comes to if these bytes can be delivered, and this fault behind them. -/
def outcome (length : Nat) (whole : Bool) (bytes : List UInt8) (fault : Option Fault) :
    Except Fault (List UInt8) :=
  if length ≤ bytes.length then .ok (bytes.take length)
  else
    match fault with
    | some f => .error f
    | none => if whole then .error (prematureEnd bytes.length length) else .ok bytes

section

variable {length : Nat} {whole : Bool} {bytes result : List UInt8} {fault : Option Fault}

theorem outcome_of_le (h : length ≤ bytes.length) :
    outcome length whole bytes fault = .ok (bytes.take length) := by
  unfold outcome
  rw [if_pos h]

theorem outcome_of_end (h : bytes.length < length) :
    outcome length whole bytes none =
      if whole then .error (prematureEnd bytes.length length) else .ok bytes := by
  rw [outcome, if_neg (by omega)]

theorem outcome_of_fault {f : Fault} (h : bytes.length < length) :
    outcome length whole bytes (some f) = .error f := by
  rw [outcome, if_neg (by omega)]

theorem eq_take_of_outcome (h : outcome length whole bytes fault = .ok result) :
    result = bytes.take length := by
  by_cases hle : length ≤ bytes.length
  · rw [outcome_of_le hle] at h
    exact (Except.ok.inj h).symm
  · have hlt : bytes.length < length := by omega
    rw [List.take_of_length_le hlt.le]
    cases fault with
    | some f =>
      rw [outcome_of_fault hlt] at h
      exact absurd h nofun
    | none =>
      rw [outcome_of_end hlt] at h
      split_ifs at h
      exact (Except.ok.inj h).symm

end

abbrev Answer := Except Fault (List UInt8)

inductive Calls : Source → List Answer → Source → Prop
  | none (s : Source) : Calls s [] s
  | next {s t u : Source} {room : Nat} {answer : Answer} {answers : List Answer} :
      s.read room = (answer, t) → Calls t answers u → Calls s (answer :: answers) u

def gained (answers : List Answer) : List UInt8 :=
  answers.flatMap fun answer => answer.toOption.getD []

variable {s t : Source} {room : Nat} {f : Fault} {bytes received : List UInt8}
  {answers : List Answer}

@[simp] theorem gained_nil : gained [] = [] := rfl

/-! ## One read -/

theorem deliverable_of_read_nil (hroom : 0 < room) (h : s.read room = (.ok [], t)) :
    s.deliverable = ([], none) := by
  obtain ⟨events, offered⟩ := s
  cases events with
  | nil => rfl
  | cons event rest =>
    cases event with
    | ended => rfl
    | fault f => exact absurd (Prod.mk.inj h).1 nofun
    | bytes piece =>
      dsimp only [read] at h
      split_ifs at h with hfits
      · obtain rfl := Except.ok.inj (Prod.mk.inj h).1
        rfl
      · rcases List.take_eq_nil_iff.1 (Except.ok.inj (Prod.mk.inj h).1) with hzero | rfl
        · omega
        · exact absurd (Nat.zero_le room) hfits

theorem deliverable_of_read_bytes (hbytes : bytes ≠ []) (h : s.read room = (.ok bytes, t)) :
    s.deliverable = (bytes ++ t.deliverable.1, t.deliverable.2) ∧ bytes.length ≤ room := by
  obtain ⟨events, offered⟩ := s
  cases events with
  | nil => exact absurd (Except.ok.inj (Prod.mk.inj h).1).symm hbytes
  | cons event rest =>
    cases event with
    | ended => exact absurd (Except.ok.inj (Prod.mk.inj h).1).symm hbytes
    | fault f => exact absurd (Prod.mk.inj h).1 nofun
    | bytes piece =>
      dsimp only [read] at h
      split_ifs at h with hfits
      · obtain ⟨hpiece, rfl⟩ := Prod.mk.inj h
        obtain rfl := Except.ok.inj hpiece
        exact ⟨if_neg hbytes, hfits⟩
      · obtain ⟨hpiece, rfl⟩ := Prod.mk.inj h
        obtain rfl := Except.ok.inj hpiece
        have hdrop : piece.drop room ≠ [] := mt List.drop_eq_nil_iff.1 hfits
        have hpiece : piece ≠ [] := fun hnil => hdrop (by rw [hnil, List.drop_nil])
        refine ⟨?_, List.length_take_le _ _⟩
        simp only [deliverable, deliverableFrom, if_neg hdrop, if_neg hpiece]
        rw [← List.append_assoc, List.take_append_drop]

theorem deliverable_of_read_error (h : s.read room = (.error f, t)) :
    s.deliverable = if f.kind = .interrupted then t.deliverable else ([], some f) := by
  obtain ⟨events, offered⟩ := s
  cases events with
  | nil => exact absurd (Prod.mk.inj h).1 nofun
  | cons event rest =>
    cases event with
    | ended => exact absurd (Prod.mk.inj h).1 nofun
    | fault g =>
      obtain ⟨hfault, rfl⟩ := Prod.mk.inj h
      obtain rfl := Except.error.inj hfault
      rfl
    | bytes piece =>
      dsimp only [read] at h
      split_ifs at h <;> exact absurd (Prod.mk.inj h).1 nofun

/-! ## The buffer of a round -/

section

variable {length size pos : Nat}

theorem grow_le (hpos : pos < length) (hsize : size ≤ length) : grow length size pos ≤ length := by
  unfold grow
  split_ifs <;> omega

theorem lt_grow (hpos : pos < length) : pos < grow length size pos := by
  unfold grow
  split_ifs <;> omega

end

/-! ## All rounds -/

/-- What the loop comes to from a state on: with what was received and what can be delivered, the
outcome and the rest are as for a source that has delivered nothing yet. -/
structure Filled (length : Nat) (whole : Bool) (received : List UInt8) (s : Source)
    (result : Answer × Source) (answers : List Answer) : Prop where
  outcome_eq : result.1 =
    outcome length whole (received ++ s.deliverable.1) s.deliverable.2
  calls : Calls s answers result.2
  wanted : ∀ before answer after, answers = before ++ answer :: after →
    (received ++ gained before).length < length
  gained_eq : received ++ gained answers = (received ++ s.deliverable.1).take length
  rest : length ≤ (received ++ s.deliverable.1).length →
    result.2.deliverable = ((received ++ s.deliverable.1).drop length, s.deliverable.2)

section

variable {length : Nat} {whole : Bool} {result : Answer × Source}

theorem filled_of_length_eq (h : received.length = length) :
    Filled length whole received s (.ok received, s) [] where
  outcome_eq := by
    have hle : length ≤ (received ++ s.deliverable.1).length := by
      rw [List.length_append]
      omega
    rw [outcome_of_le hle, List.take_left' h]
  calls := .none s
  wanted before answer after heq :=
    absurd heq.symm (List.append_ne_nil_of_right_ne_nil _ (List.cons_ne_nil _ _))
  gained_eq := by rw [gained_nil, List.append_nil, List.take_left' h]
  rest _ := by rw [List.drop_left' h]

theorem Filled.last {answer : Answer} (hlt : received.length < length)
    (hread : s.read room = (answer, t)) (hgained : gained [answer] = [])
    (hdeliverable : s.deliverable.1 = [])
    (houtcome : result.1 = outcome length whole received s.deliverable.2) (hresult : result.2 = t) :
    Filled length whole received s result [answer] where
  outcome_eq := by rw [hdeliverable, List.append_nil, houtcome]
  calls := by
    rw [hresult]
    exact .next hread (.none t)
  wanted before next after heq := by
    obtain ⟨rfl, -⟩ | ⟨more, -, hmore⟩ := List.append_eq_cons_iff.1 heq.symm
    · simpa using hlt
    · exact absurd hmore.symm (List.append_ne_nil_of_right_ne_nil _ (List.cons_ne_nil _ _))
  gained_eq := by rw [hgained, hdeliverable, List.append_nil, List.take_of_length_le hlt.le]
  rest h := by
    rw [hdeliverable, List.append_nil] at h
    omega

theorem Filled.next {answer : Answer} {got : List UInt8} (hlt : received.length < length)
    (hread : s.read room = (answer, t)) (hgot : answer.toOption.getD [] = got)
    (hdeliverable : s.deliverable = (got ++ t.deliverable.1, t.deliverable.2))
    (h : Filled length whole (received ++ got) t result answers) :
    Filled length whole received s result (answer :: answers) := by
  have hgained : ∀ answers, received ++ gained (answer :: answers) =
      received ++ got ++ gained answers := by
    intro answers
    rw [gained, List.flatMap_cons, hgot, List.append_assoc]
    rfl
  have htotal : received ++ s.deliverable.1 = received ++ got ++ t.deliverable.1 := by
    rw [hdeliverable, List.append_assoc]
  have hfault : s.deliverable.2 = t.deliverable.2 := by rw [hdeliverable]
  refine ⟨?_, .next hread h.calls, ?_, ?_, ?_⟩
  · rw [htotal, hfault, h.outcome_eq]
  · intro before next after heq
    cases before with
    | nil => simpa using hlt
    | cons first before =>
      obtain ⟨rfl, hanswers⟩ := List.cons.inj heq
      rw [hgained]
      exact h.wanted before next after hanswers
  · rw [hgained, htotal, h.gained_eq]
  · rw [htotal, hfault]
    exact h.rest

end

/-- The induction is on the rounds: each moves bytes from the source to those received. -/
theorem exists_filled (length : Nat) (whole : Bool) (received : List UInt8) (size : Nat)
    (s : Source) (hreceived : received.length ≤ length) (hsize : size ≤ length) :
    ∃ answers, Filled length whole received s (fill length whole received size s) answers := by
  fun_induction fill length whole received size s with
  | case1 received size s hlt grown t hread hwhole =>
    have hend := deliverable_of_read_nil (Nat.sub_pos_of_lt (lt_grow hlt)) hread
    refine ⟨_, .last hlt hread rfl (by rw [hend]) ?_ rfl⟩
    rw [hend, outcome_of_end hlt, if_pos hwhole]
  | case2 received size s hlt grown t hread hwhole =>
    have hend := deliverable_of_read_nil (Nat.sub_pos_of_lt (lt_grow hlt)) hread
    refine ⟨_, .last hlt hread rfl (by rw [hend]) ?_ rfl⟩
    rw [hend, outcome_of_end hlt, if_neg hwhole]
  | case3 received size s hlt grown b bytes t hread ih =>
    obtain ⟨hdeliverable, hfits⟩ := deliverable_of_read_bytes (List.cons_ne_nil b bytes) hread
    have hgrown : grown ≤ length := grow_le hlt hsize
    have hlength : (received ++ b :: bytes).length ≤ length := by
      rw [List.length_append]
      omega
    obtain ⟨answers, hfilled⟩ := ih hlength hgrown
    exact ⟨_, .next hlt hread rfl hdeliverable hfilled⟩
  | case4 received size s hlt grown f t hread hinterrupted ih =>
    have hdeliverable := deliverable_of_read_error hread
    rw [if_pos hinterrupted] at hdeliverable
    obtain ⟨answers, hfilled⟩ := ih hreceived (grow_le hlt hsize)
    have hnext : Filled length whole (received ++ []) t
        (fill length whole received grown t) answers := by
      rwa [List.append_nil]
    exact ⟨_, .next hlt hread rfl hdeliverable hnext⟩
  | case5 received size s hlt grown f t hread hfault =>
    have hdeliverable := deliverable_of_read_error hread
    rw [if_neg hfault] at hdeliverable
    refine ⟨_, .last hlt hread rfl (by rw [hdeliverable]) ?_ rfl⟩
    rw [hdeliverable, outcome_of_fault hlt]
  | case6 received size s hge =>
    have hlength : received.length = length := by omega
    have hunused : size - received.length = 0 := by omega
    rw [hunused, List.replicate_zero, List.append_nil]
    exact ⟨_, filled_of_length_eq hlength⟩

/-- Reading a length returns the beginning of what the source can deliver, however it is cut and
interrupted. The reads bring just these bytes, none is made once the length is there, and what they
leave can still be delivered. -/
theorem readFully_exact (length : Nat) (whole : Bool) (s : Source) :
    ∃ answers t,
      readFully length whole s = (outcome length whole s.deliverable.1 s.deliverable.2, t) ∧
      Calls s answers t ∧
      (∀ before answer after, answers = before ++ answer :: after →
        (gained before).length < length) ∧
      gained answers = s.deliverable.1.take length ∧
      (length ≤ s.deliverable.1.length →
        t.deliverable = (s.deliverable.1.drop length, s.deliverable.2)) ∧
      ∀ bytes, (readFully length whole s).1 = .ok bytes → bytes = gained answers := by
  obtain ⟨answers, h⟩ := exists_filled length whole [] 0 s (Nat.zero_le _) (Nat.zero_le _)
  refine ⟨answers, (readFully length whole s).2, ?_, h.calls, h.wanted, h.gained_eq, h.rest, ?_⟩
  · exact Prod.ext h.outcome_eq rfl
  · intro bytes hbytes
    rw [← List.nil_append (gained answers), h.gained_eq]
    exact eq_take_of_outcome (h.outcome_eq.symm.trans hbytes)

end DebugControl.Source
