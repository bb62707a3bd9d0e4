import DebugControl.Proofs.Session.Outcome
import DebugControl.Proofs.Sink.Pending
import Mathlib.Algebra.Order.Floor.Div

/-!
# How long a wait goes on

In each iteration of its loop a wait lets time pass until there is output, and the silence is counted
anew if there is. The output that it finds is absorbed by the look that follows, so that the sink pays
for it; and the iterations that find nothing are paid for by the clock. If a wait in vain lasts as
long as it may, only so many iterations fit between two that find output.
-/

namespace DebugControl

/-- Time does not run backwards, and a wait for what does not come lasts as long as it may. -/
structure Host.Punctual (σ : Type) [Host σ] : Prop where
  turn : ∀ h : σ, clock h ≤ clock (Host.turn h).2
  await : ∀ (limit : Nat) (ready : List Arrival → Bool) (h : σ),
    clock h ≤ clock (Host.await limit ready h).2
  expired : ∀ (limit : Nat) (ready : List Arrival → Bool) (h : σ),
    ready (Host.await limit ready h).1 = false →
      clock h + limit ≤ clock (Host.await limit ready h).2

namespace Moment

def writesOf (moments : List Moment) : Nat := writes (arrivalsOf moments)

/-- The iterations of the loop of a wait: it waits for output once in each. After a probe has found
the exit, the wait is for the streams to be closed. -/
def iterationsOf : List Moment → Nat
  | [] => 0
  | .waited _ _ :: moments => iterationsOf moments + 1
  | .probed (some _) :: _ => 0
  | _ :: moments => iterationsOf moments

@[simp] theorem writesOf_append (a b : List Moment) :
    writesOf (a ++ b) = writesOf a + writesOf b := by
  rw [writesOf, arrivalsOf_append, writes_append]
  rfl

end Moment

namespace Session

open Moment

variable {σ : Type} [Host σ] {s t : Session σ} {m : Moment} {moments : List Moment}

theorem Step.potential_le (h : Step s m t) :
    t.sink.potential ≤ s.sink.potential + writes m.arrivals := by
  rw [h.sink_eq]
  cases m with
  | received arrivals => exact Sink.potential_receiveAll _ _
  | waited limit arrivals => exact Sink.potential_receiveAll _ _
  | looked reply => exact Nat.le_of_add_right_le (Sink.potential_absorb s.sink).le
  | took reply => exact Nat.le_refl _
  | probed status => exact Nat.le_refl _
  | timed now => exact Nat.le_refl _
  | sent bytes result => exact Nat.le_refl _
  | killed => exact Nat.le_refl _

theorem Trace.potential_le (h : Trace s moments t) :
    t.sink.potential ≤ s.sink.potential + writesOf moments := by
  induction h with
  | done s => exact Nat.le_refl _
  | @step s t u m moments hstep _ ih =>
    have hfirst := hstep.potential_le
    have hwrites : writesOf (m :: moments) = writes m.arrivals + writesOf moments :=
      writes_append _ _
    omega
  | noted log _ ih => exact ih

end Session

namespace Playback

open Session Moment

theorem punctual : Host.Punctual Playback where
  turn p := by
    cases h : p.next fun _ => true with
    | none => simp [Host.turn, h]
    | some r =>
      obtain ⟨-, -, hnow⟩ := next_eq_some h
      simp [Host.turn, Host.clock, h, hnow]
  await limit ready p := by
    cases h : p.next ready with
    | none => simp [Host.await, Host.clock, h]
    | some r =>
      obtain ⟨-, -, hnow⟩ := next_eq_some h
      simp [Host.await, Host.clock, h, hnow]
  expired limit ready p hvain := by
    cases h : p.next ready with
    | none => simp [Host.await, Host.clock, h]
    | some r =>
      obtain ⟨hready, -, -⟩ := next_eq_some h
      simp [Host.await, h, hready] at hvain

theorem writes_next {p q : Playback} (ready : List Arrival → Bool)
    (hq : q.portions = p.portions) :
    writes ((p.next ready).getD ([], q)).1 +
        writes ((p.next ready).getD ([], q)).2.portions.flatten =
      writes p.portions.flatten := by
  cases h : p.next ready with
  | none => simp [hq]
  | some r =>
    obtain ⟨-, hportions, -⟩ := next_eq_some h
    simp [hportions]

theorem writesOf_le {s t : Session Playback} {moments : List Moment}
    (h : Trace s moments t) :
    writesOf moments + writes t.host.portions.flatten ≤ writes s.host.portions.flatten := by
  induction h with
  | done s => exact (Nat.zero_add _).le
  | @step s t u m moments hstep _ ih =>
    have hwrites : writesOf (m :: moments) = writes m.arrivals + writesOf moments :=
      writes_append _ _
    have hm : writes m.arrivals + writes t.host.portions.flatten =
        writes s.host.portions.flatten := by
      cases hstep with
      | turn => exact writes_next _ rfl
      | await limit ready => exact writes_next ready rfl
      | look => exact Nat.zero_add _
      | take => exact Nat.zero_add _
      | probe => exact Nat.zero_add _
      | time => exact Nat.zero_add _
      | send bytes => exact Nat.zero_add _
      | kill => exact Nat.zero_add _
    omega
  | noted log _ ih => exact ih

end Playback

/-- How many iterations a wait makes at most while so much is written: those that find output, and
those in vain before, between and after them. -/
def Timing.mostIterations (t : Timing) (written : Nat) : Nat :=
  written + 2 + (written + 3) * (t.silence.nanoseconds ⌈/⌉ t.pollInterval.nanoseconds)

namespace Control

open Session Moment

def allowance (silence poll found : Nat) : Nat := found + (found + 1) * (silence ⌈/⌉ poll)

section Arithmetic

variable {silence poll found found' k n : Nat}

theorem le_allowance (h : k ≤ silence ⌈/⌉ poll) : k ≤ allowance silence poll found := by
  have hmul : silence ⌈/⌉ poll ≤ (found + 1) * (silence ⌈/⌉ poll) :=
    Nat.le_mul_of_pos_left _ found.succ_pos
  rw [allowance]
  omega

theorem allowance_mono (silence poll : Nat) (h : found ≤ found') :
    allowance silence poll found ≤ allowance silence poll found' :=
  Nat.add_le_add h (Nat.mul_le_mul_right _ (Nat.succ_le_succ h))

theorem le_allowance_of_found (hk : k ≤ silence ⌈/⌉ poll) (hfound : found + 1 ≤ found')
    (hn : n ≤ allowance silence poll found) : n + 1 + k ≤ allowance silence poll found' := by
  calc n + 1 + k ≤ allowance silence poll found + 1 + silence ⌈/⌉ poll := by omega
    _ = allowance silence poll (found + 1) := by
      rw [allowance, allowance, Nat.add_one_mul (found + 1)]
      omega
    _ ≤ allowance silence poll found' := allowance_mono _ _ hfound

theorem le_allowance_of_vain (hfound : found ≤ found')
    (hn : n + (k + 1) ≤ allowance silence poll found) :
    n + 1 + k ≤ allowance silence poll found' := by
  calc n + 1 + k = n + (k + 1) := by omega
    _ ≤ allowance silence poll found := hn
    _ ≤ allowance silence poll found' := allowance_mono _ _ hfound

/-- As long as the silence is bearable, there may be one more iteration in vain. -/
theorem succ_le_ceilDiv {quiet now : Nat} (hpoll : 0 < poll) (hquiet : quiet + k * poll ≤ now)
    (hnow : now - quiet < silence) : k + 1 ≤ silence ⌈/⌉ poll := by
  refine Nat.succ_le_of_lt ((lt_iff_lt_of_le_iff_le (ceilDiv_le_iff_le_mul hpoll)).2 ?_)
  rw [Nat.mul_comm poll k]
  omega

end Arithmetic

variable {σ : Type} [Host σ] {s t u v : Session σ} {g : Goal} {moments : List Moment}
  {poll silence rounds quiet : Nat}

theorem clock_le_of_idle (hp : Host.Punctual σ) (h : Trace s moments t)
    (hidle : ∀ m ∈ moments, Idle g m) : Host.clock s.host ≤ Host.clock t.host := by
  induction h with
  | done s => exact Nat.le_refl _
  | @step s t u m moments hstep _ ih =>
    obtain ⟨hm, hrest⟩ := List.forall_mem_cons.1 hidle
    refine Nat.le_trans ?_ (ih hrest)
    cases hstep with
    | turn => exact hp.turn _
    | await limit ready => exact hp.await limit ready _
    | look => exact Nat.le_refl _
    | take => exact absurd hm id
    | probe => exact Nat.le_refl _
    | time => exact Nat.le_refl _
    | send bytes => exact absurd hm id
    | kill => exact absurd hm id
  | noted log _ ih => exact ih hidle

/-- How an iteration begins, up to its look: it finds output, or it has waited in vain. -/
inductive Opening (poll silence quiet : Nat) (s u : Session σ) : List Moment → Nat → Prop where
  | found {now quiet' : Nat} {late : List Arrival} :
      Trace s [.timed now, .waited poll late, .timed quiet'] u → u.sink.hasPending = true →
      quiet' = Host.clock u.host →
      Opening poll silence quiet s u [.timed now, .waited poll late, .timed quiet'] quiet'
  | vain {now : Nat} {late : List Arrival} :
      Trace s [.timed now, .waited poll late] u → Host.clock s.host - quiet < silence →
      Host.clock s.host + poll ≤ Host.clock u.host →
      Opening poll silence quiet s u [.timed now, .waited poll late] quiet

theorem awaitData_found {fresh : Bool} (h : (awaitData poll).run s = some (fresh, t)) :
    fresh = t.sink.hasPending := by
  obtain ⟨late, -, hfresh⟩ := awaitSink_trace h
  exact hfresh

theorem awaitData_vain (hp : Host.Punctual σ) (h : (awaitData poll).run s = some (false, t)) :
    Host.clock s.host + poll ≤ Host.clock t.host := by
  obtain ⟨hfalse, rfl⟩ := Prod.mk.inj (Option.some.inj h)
  exact hp.expired poll _ s.host hfalse

theorem clock_eq {now : Nat} (h : clock.run s = some (now, t)) :
    now = Host.clock s.host ∧ t.host = s.host ∧ t.sink = s.sink := by
  obtain ⟨rfl, rfl⟩ := Prod.mk.inj (Option.some.inj h)
  exact ⟨rfl, rfl, rfl⟩

theorem waitFrom_succ (hp : Host.Punctual σ) (g : Goal) (poll silence rounds quiet : Nat)
    (s : Session σ) :
    (∃ now u, Trace s [.timed now] u ∧
      (waitFrom g poll silence (rounds + 1) quiet).run s = (giveUp g).run u) ∨
    ∃ u moments quiet', Opening poll silence quiet s u moments quiet' ∧
      (waitFrom g poll silence (rounds + 1) quiet).run s =
        (examine g poll silence rounds quiet').run u := by
  obtain ⟨now, s₁, hclock⟩ : ∃ now s₁, clock.run s = some (now, s₁) := ⟨_, _, rfl⟩
  have htime := clock_trace hclock
  obtain ⟨rfl, hhost, hsink⟩ := clock_eq hclock
  rw [waitFrom, run_bind_of_eq_some hclock]
  split_ifs with hquiet
  · obtain ⟨fresh, s₂, hawait⟩ : ∃ fresh s₂, (awaitData poll).run s₁ = some (fresh, s₂) :=
      ⟨_, _, rfl⟩
    obtain ⟨late, hlate, -⟩ := awaitSink_trace hawait
    have hpaused := htime.append hlate
    rw [run_bind_of_eq_some hawait]
    cases fresh with
    | true =>
      obtain ⟨quiet', s₃, hclock'⟩ : ∃ quiet' s₃, clock.run s₂ = some (quiet', s₃) := ⟨_, _, rfl⟩
      obtain ⟨hquiet', hhost', hsink'⟩ := clock_eq hclock'
      refine .inr ⟨s₃, _, quiet', .found (hpaused.append (clock_trace hclock')) ?_ ?_, ?_⟩
      · rw [hsink', ← awaitData_found hawait]
      · rw [hquiet', hhost']
      · rw [if_pos rfl]
        exact run_bind_of_eq_some hclock'
    | false =>
      have hlasted := awaitData_vain hp hawait
      rw [hhost] at hlasted
      exact .inr ⟨s₂, _, quiet, .vain hpaused hquiet hlasted, rfl⟩
  · exact .inl ⟨_, s₁, htime, rfl⟩

theorem look_potential {arrivals : List Arrival} {reply : List Line}
    (h : Trace s [.received arrivals, .looked reply] t) :
    t.sink.potential + s.sink.hasPending.toNat ≤ s.sink.potential + writes arrivals := by
  have hpaid := Sink.potential_absorb (s.sink.receiveAll arrivals)
  have hreceived := Sink.potential_receiveAll s.sink arrivals
  have hsink : t.sink = (s.sink.receiveAll arrivals).absorb := h.sink_eq
  rw [hsink]
  cases hpending : s.sink.hasPending with
  | true =>
    rw [Sink.hasPending_receiveAll hpending, Bool.toNat_true] at hpaid
    rw [Bool.toNat_true]
    omega
  | false =>
    rw [Bool.toNat_false]
    omega

theorem concludeExit_total (g : Goal) (poll : Nat) :
    Total (concludeExit g poll : Control σ (Except Failure (List Line))) := by
  refine .bind (fun _ => Option.some_ne_none _) fun closed => ?_
  refine .bind (fun _ => Option.some_ne_none _) fun reply => ?_
  refine .bind (fun _ => Option.some_ne_none _) fun _ => ?_
  intro s h
  split_ifs at h <;> exact absurd h (Option.some_ne_none _)

theorem giveUp_total (g : Goal) : Total (giveUp g : Control σ (Except Failure (List Line))) := by
  refine .bind (fun _ => Option.some_ne_none _) fun reply => ?_
  refine .bind (fun _ => Option.some_ne_none _) fun _ => ?_
  exact fun _ => Option.some_ne_none _

theorem examine_cases (g : Goal) (poll silence rounds quiet : Nat) (s : Session σ) :
    ∃ arrivals reply t, Trace s [.received arrivals, .looked reply] t ∧
      ((∃ last r v, Trace t last v ∧ iterationsOf last = 0 ∧
          (examine g poll silence rounds quiet).run s = some (r, v)) ∨
        ∃ arrivals' v, g.isMet reply = false ∧ Trace t [.received arrivals', .probed none] v ∧
          (examine g poll silence rounds quiet).run s =
            (waitFrom g poll silence rounds quiet).run v) := by
  obtain ⟨reply, t, hsnapshot⟩ : ∃ reply t, snapshot.run s = some (reply, t) := ⟨_, _, rfl⟩
  obtain ⟨arrivals, hlook, -⟩ := snapshot_trace hsnapshot
  refine ⟨arrivals, reply, t, hlook, ?_⟩
  rw [examine, run_bind_of_eq_some hsnapshot]
  split_ifs with hmet
  · obtain ⟨⟨⟩, u, hnote⟩ : ∃ a u, (noteReply reply).run t = some (a, u) := ⟨_, _, rfl⟩
    obtain ⟨lines, v, hreset⟩ : ∃ lines v, reset.run u = some (lines, v) := ⟨_, _, rfl⟩
    obtain ⟨hnoted, -⟩ := noteReply_trace hnote
    obtain ⟨-, arrivals', htake⟩ := reset_trace hreset
    rw [run_bind_of_eq_some hnote, run_bind_of_eq_some hreset]
    exact .inl ⟨_, _, v, hnoted.append htake, rfl, rfl⟩
  · obtain ⟨terminated, v, hfound⟩ := exists_isTerminated t
    obtain ⟨arrivals', status, hprobed, rfl⟩ := isTerminated_trace hfound
    rw [run_bind_of_eq_some hfound]
    cases status with
    | some status =>
      obtain ⟨r, w, hrun⟩ := (concludeExit_total g poll).exists_run v
      obtain ⟨late, arrivals'', reply', verdict, hend, -⟩ := concludeExit_judged hrun
      exact .inl ⟨_, r, w, hprobed.append hend, rfl, hrun⟩
    | none => exact .inr ⟨arrivals', v, Bool.eq_false_iff.2 hmet, hprobed, rfl⟩

/-- The moments of a wait that is over, or of one that has not ended after so many iterations. -/
inductive Reached {α : Type} (g : Goal) (rounds : Nat) (s : Session σ) (moments : List Moment) :
    Option (α × Session σ) → Prop where
  | ended {r : α} {t : Session σ} : Trace s moments t → Reached g rounds s moments (some (r, t))
  | unfinished {t : Session σ} :
      Trace s moments t → (∀ m ∈ moments, Idle g m) → iterationsOf moments = rounds →
      Reached g rounds s moments none

theorem Reached.prepend {α : Type} {first : List Moment} {x : Option (α × Session σ)} {n : Nat}
    (h : Trace s first u) (hidle : ∀ m ∈ first, Idle g m)
    (hfirst : iterationsOf (first ++ moments) = iterationsOf moments + n)
    (hx : Reached g rounds u moments x) : Reached g (rounds + n) s (first ++ moments) x := by
  cases hx with
  | ended htrace => exact .ended (h.append htrace)
  | unfinished htrace hrest hcount =>
    refine .unfinished (h.append htrace) (List.forall_mem_append.2 ⟨hidle, hrest⟩) ?_
    rw [hfirst, hcount]

section Opening

variable {opening : List Moment} {quiet' : Nat}

theorem Opening.trace (h : Opening poll silence quiet s u opening quiet') : Trace s opening u := by
  cases h with
  | found htrace _ _ => exact htrace
  | vain htrace _ _ => exact htrace

theorem Opening.idle (h : Opening poll silence quiet s u opening quiet') :
    ∀ m ∈ opening, Idle g m := by
  cases h with
  | found _ _ _ => simp [Idle]
  | vain _ _ _ => simp [Idle]

theorem Opening.iterationsOf_append (h : Opening poll silence quiet s u opening quiet')
    (rest : List Moment) : iterationsOf (opening ++ rest) = iterationsOf rest + 1 := by
  cases h with
  | found _ _ _ => rfl
  | vain _ _ _ => rfl

/-- An iteration is paid for: if it has found output, by the sink, and otherwise by the clock. Before
it, `k` iterations have been in vain since output was last seen, and after it `k'` have. -/
theorem Opening.paid {arrivals : List Arrival} {reply : List Line} {k : Nat} (hpoll : 0 < poll)
    (h : Opening poll silence quiet s u opening quiet')
    (hlook : Trace u [.received arrivals, .looked reply] t) (hk : k ≤ silence ⌈/⌉ poll)
    (hquiet : quiet + k * poll ≤ Host.clock s.host) :
    ∃ k', k' ≤ silence ⌈/⌉ poll ∧ quiet' + k' * poll ≤ Host.clock u.host ∧
      ∀ later, iterationsOf later + k' ≤
          allowance silence poll (t.sink.potential + writesOf later) →
        iterationsOf (opening ++ .received arrivals :: .looked reply :: later) + k ≤
          allowance silence poll (s.sink.potential +
            writesOf (opening ++ .received arrivals :: .looked reply :: later)) := by
  have hopening := h.trace.potential_le
  have hpaid := look_potential hlook
  have hcount (later : List Moment) :
      iterationsOf (opening ++ .received arrivals :: .looked reply :: later) =
        iterationsOf later + 1 :=
    h.iterationsOf_append _
  have hwrites (later : List Moment) :
      writesOf (opening ++ .received arrivals :: .looked reply :: later) =
        writesOf opening + (writes arrivals + writesOf later) := by
    rw [writesOf_append]
    exact congrArg _ (writes_append _ _)
  cases h with
  | found _ hpending hnow =>
    rw [hpending, Bool.toNat_true] at hpaid
    refine ⟨0, Nat.zero_le _, by omega, ?_⟩
    intro later hlater
    rw [hcount, hwrites]
    exact le_allowance_of_found hk (by omega) hlater
  | vain _ hnow hlasted =>
    refine ⟨k + 1, succ_le_ceilDiv hpoll hquiet hnow, by rw [Nat.add_one_mul]; omega, ?_⟩
    intro later hlater
    rw [hcount, hwrites]
    exact le_allowance_of_vain (by omega) hlater

end Opening

/-- The iterations since output was last seen have been in vain, and the clock has gone on for each of
them; the induction is on how many iterations there may be. -/
theorem waitFrom_reached (hp : Host.Punctual σ) (hpoll : 0 < poll) (g : Goal)
    (silence rounds : Nat) {k : Nat}
    (hk : k ≤ silence ⌈/⌉ poll) (hquiet : quiet + k * poll ≤ Host.clock s.host) :
    ∃ moments, Reached g rounds s moments ((waitFrom g poll silence rounds quiet).run s) ∧
      iterationsOf moments + k ≤
        allowance silence poll (s.sink.potential + writesOf moments) := by
  induction rounds generalizing s quiet k with
  | zero =>
    refine ⟨[], .unfinished (.done s) nofun rfl, ?_⟩
    rw [iterationsOf, Nat.zero_add]
    exact le_allowance hk
  | succ rounds ih =>
    rcases waitFrom_succ hp g poll silence rounds quiet s with
      ⟨now, u, htime, hrun⟩ | ⟨u, opening, quiet', hopening, hrun⟩
    · obtain ⟨r, t, hgave⟩ := (giveUp_total g).exists_run u
      obtain ⟨arrivals, reply, hend, -⟩ := giveUp_trace hgave
      have hnone : iterationsOf ([.timed now] ++ [.received arrivals, .looked reply]) = 0 := rfl
      rw [hrun, hgave]
      refine ⟨_, .ended (htime.append hend), ?_⟩
      rw [hnone, Nat.zero_add]
      exact le_allowance hk
    · obtain ⟨arrivals, reply, t, hlook, hcases⟩ :=
        examine_cases g poll silence rounds quiet' u
      obtain ⟨k', hk', hquiet', hpaid⟩ := hopening.paid hpoll hlook hk hquiet
      rw [hrun]
      rcases hcases with ⟨last, r, v, hlast, hnone, hend⟩ | ⟨arrivals', v, hmet, hpause, hrest⟩
      · rw [hend]
        refine ⟨_, .ended (hopening.trace.append (hlook.append hlast)), hpaid last ?_⟩
        rw [hnone, Nat.zero_add]
        exact le_allowance hk'
      · have hidle : ∀ m ∈ [.received arrivals, .looked reply, .received arrivals', .probed none],
            Idle g m := by
          simpa [Idle] using hmet
        have hround := hlook.append hpause
        obtain ⟨rest, hreached, hrest'⟩ :=
          ih hk' (hquiet'.trans (clock_le_of_idle hp hround hidle))
        have hpotential := hpause.potential_le
        have hwrites : writesOf (.received arrivals' :: .probed none :: rest) =
            writesOf [.received arrivals', .probed none] + writesOf rest :=
          writesOf_append [.received arrivals', .probed none] rest
        rw [hrest]
        refine ⟨opening ++ ([.received arrivals, .looked reply, .received arrivals', .probed none] ++
          rest), ?_, hpaid (.received arrivals' :: .probed none :: rest) ?_⟩
        · rw [← List.append_assoc]
          refine hreached.prepend (hopening.trace.append hround)
            (List.forall_mem_append.2 ⟨hopening.idle, hidle⟩) ?_
          rw [List.append_assoc]
          exact hopening.iterationsOf_append _
        · rw [hwrites]
          exact hrest'.trans (allowance_mono _ _ (by omega))

theorem waitFor_reached (hp : Host.Punctual σ) (hs : s.timing.validate = .ok ()) (rounds : Nat)
    (g : Goal) :
    ∃ moments, Reached g rounds s moments ((waitFor rounds g).run s) ∧
      iterationsOf moments ≤ s.timing.mostIterations (writesOf moments) := by
  have hpoll : 0 < s.timing.pollInterval.nanoseconds := by
    rw [Timing.validate] at hs
    split_ifs at hs with hzero hshort
    exact Nat.mul_pos (Nat.pos_of_ne_zero hzero) (by decide)
  obtain ⟨now, u, hclock⟩ : ∃ now u, clock.run s = some (now, u) := ⟨_, _, rfl⟩
  obtain ⟨rfl, hhost, hsink⟩ := clock_eq hclock
  have hstart : Host.clock s.host + 0 * s.timing.pollInterval.nanoseconds ≤
      Host.clock u.host := by
    rw [hhost]
    omega
  obtain ⟨moments, hreached, hcount⟩ := waitFrom_reached hp hpoll g
    s.timing.silence.nanoseconds rounds (Nat.zero_le _) hstart
  have hrun : (waitFor rounds g).run s =
      (waitFrom g s.timing.pollInterval.nanoseconds s.timing.silence.nanoseconds rounds
        (Host.clock s.host)).run u := by
    rw [waitFor, run_bind_of_eq_some (run_get_eq_some.2 ⟨rfl, rfl⟩), run_bind_of_eq_some hclock]
  have htwo := Sink.potential_le_two u.sink
  rw [hrun]
  refine ⟨[.timed (Host.clock s.host)] ++ moments, ?_, ?_⟩
  · exact hreached.prepend (n := 0) (clock_trace hclock) (by simp [Idle]) rfl
  · change iterationsOf moments ≤ allowance _ _ (writesOf moments + 2)
    exact hcount.trans (allowance_mono _ _ (by omega))

/-- On output that ends, a wait ends. Its iterations are bounded by the writes, whether it is over or
has not ended after so many rounds; so it is over after more rounds than that. Of the iterations that
find output, one is for what waits in the sink at first and one for the end of input: after a look
nothing is pending, and a wait for output finds some only if bytes have arrived since, or if the end
of input has released what was carried. -/
theorem waitFor_iterations_le (hp : Host.Punctual σ) (hs : s.timing.validate = .ok ())
    (rounds : Nat) (g : Goal) :
    (∀ r t moments, (waitFor rounds g).run s = some (r, t) → Trace s moments t →
      iterationsOf moments ≤ s.timing.mostIterations (writesOf moments)) ∧
    ((waitFor rounds g).run s = none → ∃ moments t, Trace s moments t ∧
      (∀ m ∈ moments, Idle g m) ∧ iterationsOf moments = rounds ∧
      rounds ≤ s.timing.mostIterations (writesOf moments)) ∧
    (∀ w, (∀ moments t, Trace s moments t → (∀ m ∈ moments, Idle g m) → writesOf moments ≤ w) →
      s.timing.mostIterations w < rounds → ∃ r t, (waitFor rounds g).run s = some (r, t)) ∧
    (∀ k : Sink, k.snapshot.2.raw = [] ∧
      (k.snapshot.2.finished = true → k.snapshot.2.carry = [])) ∧
    ∀ (k : Sink) (arrivals : List Arrival) (u v : Session σ) (limit : Nat) (fresh : Bool),
      u.sink = k.snapshot.2.receiveAll arrivals → (awaitData limit).run u = some (fresh, v) →
      ∃ late, Trace u [.waited limit late] v ∧
        (fresh = true ↔ arrivedBytes (arrivals ++ late) ≠ [] ∨
          k.snapshot.2.finished = false ∧
            (k.snapshot.2.receiveAll (arrivals ++ late)).finished = true ∧
            k.snapshot.2.carry ≠ []) := by
  obtain ⟨moments, hreached, hcount⟩ := waitFor_reached hp hs rounds g
  have hunfinished : (waitFor rounds g).run s = none → ∃ moments t, Trace s moments t ∧
      (∀ m ∈ moments, Idle g m) ∧ iterationsOf moments = rounds ∧
      rounds ≤ s.timing.mostIterations (writesOf moments) := by
    intro h
    rw [h] at hreached
    cases hreached with
    | unfinished htrace hidle hrounds => exact ⟨_, _, htrace, hidle, hrounds, hrounds ▸ hcount⟩
  refine ⟨?_, hunfinished, ?_, ?_, ?_⟩
  · intro r t moments' h htrace'
    rw [h] at hreached
    cases hreached with
    | ended htrace =>
      obtain rfl := htrace'.moments_unique htrace
      exact hcount
  · intro w hw hrounds
    cases h : (waitFor rounds g).run s with
    | some p => exact ⟨p.1, p.2, rfl⟩
    | none =>
      obtain ⟨moments, t, htrace, hidle, -, hle⟩ := hunfinished h
      have hwrites := hw moments t htrace hidle
      have hmono := allowance_mono s.timing.silence.nanoseconds
        s.timing.pollInterval.nanoseconds (Nat.add_le_add_right hwrites 2)
      exact absurd (hle.trans hmono) (Nat.not_le_of_lt hrounds)
  · intro k
    exact Sink.hasPending_eq_false.1 (Sink.hasPending_absorb k)
  · intro k arrivals u v limit fresh hu hawait
    obtain ⟨late, hlate, hfresh⟩ := awaitSink_trace hawait
    have hsink : v.sink = k.snapshot.2.receiveAll (arrivals ++ late) := by
      rw [hlate.sink_eq, hu, Sink.receiveAll_append]
      rfl
    refine ⟨late, hlate, ?_⟩
    rw [hfresh, hsink]
    exact Sink.hasPending_receiveAll_iff (Sink.hasPending_absorb k) _

/-- One write, in the second iteration, and no prompt. -/
def oneWrite : Session Playback :=
  Playback.session ⟨0, [[], [], [.wrote [0x61]]], none⟩ simplePrompt ⟨50, 100⟩

theorem waitFor_iterations_le_oneWrite :
    Host.Punctual Playback ∧ oneWrite.timing.validate = .ok () ∧
    (∃ r t moments, (waitFor 12 ⟨simplePrompt, true, 1, false⟩).run oneWrite = some (r, t) ∧
      Trace oneWrite moments t ∧
      iterationsOf moments ≤ oneWrite.timing.mostIterations (writesOf moments)) ∧
    (∃ moments t, (waitFor 2 ⟨simplePrompt, true, 1, false⟩).run oneWrite = none ∧
      Trace oneWrite moments t ∧ iterationsOf moments = 2 ∧
      2 ≤ oneWrite.timing.mostIterations (writesOf moments)) := by
  have hvalid : oneWrite.timing.validate = .ok () := by decide
  refine ⟨Playback.punctual, hvalid, ?_, ?_⟩
  · obtain ⟨hover, -, hends, -⟩ := waitFor_iterations_le Playback.punctual hvalid 12
      ⟨simplePrompt, true, 1, false⟩
    have hwrites : ∀ moments t, Trace oneWrite moments t →
        (∀ m ∈ moments, Idle ⟨simplePrompt, true, 1, false⟩ m) → writesOf moments ≤ 1 :=
      fun moments t htrace _ => Nat.le_of_add_right_le (Playback.writesOf_le htrace)
    obtain ⟨r, t, h⟩ := hends 1 hwrites (by decide)
    obtain ⟨before, last, htrace, -⟩ := waitFor_endsIn h
    exact ⟨r, t, _, h, htrace, hover r t _ h htrace⟩
  · have hnone : ((waitFor 2 ⟨simplePrompt, true, 1, false⟩).run oneWrite).isNone = true := by
      decide +kernel
    have hrun := Option.isNone_iff_eq_none.1 hnone
    obtain ⟨-, hunfinished, -⟩ := waitFor_iterations_le Playback.punctual hvalid 2
      ⟨simplePrompt, true, 1, false⟩
    obtain ⟨moments, t, htrace, -, hcount, hle⟩ := hunfinished hrun
    exact ⟨moments, t, hrun, htrace, hcount, hle⟩

end Control

end DebugControl
