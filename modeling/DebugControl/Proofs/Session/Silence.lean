import DebugControl.Proofs.Session.Waiting

/-!
# When a wait gives up

A wait says that it has met with silence only after it has read the clock twice, at moments that lie
as far apart as the session bears silence: once when it began or when output was last seen, and once
before the look with which it gives up.
-/

namespace DebugControl.Control

open Session Moment

/-- The clock was read twice in some moments, so many nanoseconds apart. -/
def SilentFor (time : Nat) (moments : List Moment) : Prop :=
  ∃ since now, .timed since ∈ moments ∧ .timed now ∈ moments ∧ time ≤ now - since

theorem SilentFor.mono {time : Nat} {moments all : List Moment} (h : SilentFor time moments)
    (hsub : moments ⊆ all) : SilentFor time all := by
  obtain ⟨since, now, hsince, hnow, htime⟩ := h
  exact ⟨since, now, hsub hsince, hsub hnow, htime⟩

def SaysSilent (r : Except Failure (List Line)) : Prop :=
  ∃ limit pattern tail, r = .error (.timeout limit pattern tail false)

variable {σ : Type} [Host σ] {s t u : Session σ} {g : Goal} {r : Except Failure (List Line)}

theorem concludeExit_not_silent {poll : Nat} (h : (concludeExit g poll).run s = some (r, t)) :
    ¬ SaysSilent r := by
  obtain ⟨late, arrivals, reply, verdict, -, hjudged⟩ := concludeExit_judged h
  rintro ⟨limit, pattern, tail, rfl⟩
  cases hjudged

theorem SilentFor.prepend {time quiet quiet' : Nat} {first moments : List Moment}
    (h : SilentFor time (.timed quiet' :: moments)) (hq : .timed quiet' ∈ .timed quiet :: first) :
    SilentFor time (.timed quiet :: (first ++ moments)) := by
  refine h.mono (List.cons_subset.2 ⟨?_, ?_⟩)
  · exact List.mem_append_left moments hq
  · exact fun m hm => List.mem_cons_of_mem _ (List.mem_append_right _ hm)

theorem examine_silentFor {poll silence rounds quiet : Nat} (hr : SaysSilent r)
    (ih : ∀ {s : Session σ} {moments : List Moment},
      (waitFrom g poll silence rounds quiet).run s = some (r, t) → Trace s moments t →
        SilentFor silence (.timed quiet :: moments))
    (h : (examine g poll silence rounds quiet).run s = some (r, t)) :
    ∃ moments, Trace s moments t ∧ SilentFor silence (.timed quiet :: moments) := by
  obtain ⟨reply, u, hsnapshot, h⟩ := run_bind_eq_some.1 h
  obtain ⟨arrivals, hlook, hlines⟩ := snapshot_trace hsnapshot
  split_ifs at h with hmet
  · obtain ⟨⟨⟩, v, hnote, h⟩ := run_bind_eq_some.1 h
    obtain ⟨-, hsink⟩ := noteReply_trace hnote
    obtain ⟨rfl, -⟩ := takeReply_trace (hsink ▸ hlines) h
    obtain ⟨limit, pattern, tail, hfalse⟩ := hr
    exact absurd hfalse nofun
  · obtain ⟨terminated, v, hprobe, h⟩ := run_bind_eq_some.1 h
    obtain ⟨arrivals', status, hprobed, rfl⟩ := isTerminated_trace hprobe
    cases status with
    | some status => exact absurd hr (concludeExit_not_silent h)
    | none =>
      obtain ⟨before, last, hrest, -, -⟩ := waitFrom_endsIn h
      exact ⟨_, (hlook.append hprobed).append hrest, (ih h hrest).prepend List.mem_cons_self⟩

/-- The clock had been read at `quiet` before the moments in question. -/
theorem waitFrom_silentFor {poll silence rounds quiet : Nat} {moments : List Moment}
    (hr : SaysSilent r) (h : (waitFrom g poll silence rounds quiet).run s = some (r, t))
    (hm : Trace s moments t) : SilentFor silence (.timed quiet :: moments) := by
  induction rounds generalizing s quiet moments with
  | zero => exact absurd h.symm (Option.some_ne_none _)
  | succ rounds ih =>
    obtain ⟨now, s₁, hclock, h⟩ := run_bind_eq_some.1 h
    have htime := clock_trace hclock
    split_ifs at h with hquiet
    · obtain ⟨fresh, s₂, hawait, h⟩ := run_bind_eq_some.1 h
      obtain ⟨late, hlate, -⟩ := awaitSink_trace hawait
      have hpaused := htime.append hlate
      -- Silence is counted from the new reading of the clock, or from the old one.
      cases fresh with
      | true =>
        obtain ⟨now', s₃, hclock', h⟩ := run_bind_eq_some.1 h
        obtain ⟨rest, hrest, hsilent⟩ := examine_silentFor hr ih h
        rw [hm.moments_unique ((hpaused.append (clock_trace hclock')).append hrest)]
        exact hsilent.prepend (by simp)
      | false =>
        obtain ⟨rest, hrest, hsilent⟩ := examine_silentFor hr ih h
        rw [hm.moments_unique (hpaused.append hrest)]
        exact hsilent.prepend List.mem_cons_self
    · obtain ⟨before, last, hrest, -, -⟩ := giveUp_endsIn h
      rw [hm.moments_unique (htime.append hrest)]
      exact ⟨quiet, now, by simp, by simp, Nat.le_of_not_lt hquiet⟩

theorem waitFor_silentFor {rounds : Nat} {moments : List Moment}
    (h : (waitFor rounds g).run s = some (r, t)) (hr : SaysSilent r) (hm : Trace s moments t) :
    SilentFor s.timing.silence.nanoseconds moments := by
  obtain ⟨session, u, hget, h⟩ := run_bind_eq_some.1 h
  obtain ⟨rfl, rfl⟩ := run_get_eq_some.1 hget
  obtain ⟨now, u, hclock, hwait⟩ := run_bind_eq_some.1 h
  obtain ⟨before, last, hrest, -, -⟩ := waitFrom_endsIn hwait
  rw [hm.moments_unique ((clock_trace hclock).append hrest)]
  exact waitFrom_silentFor hr hwait hrest

end DebugControl.Control
