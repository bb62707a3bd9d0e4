import DebugControl.Settings
import Mathlib.Tactic.SplitIfs

/-!
# Times given as durations

A session counts whole milliseconds in a machine word. Durations of fewer milliseconds than a word
can count are kept, rounded down, and their order with them. Of longer ones only the rest is kept
that their milliseconds leave when divided by the size of a word, so that a very long timeout may
come out shorter than the poll interval.
-/

namespace DebugControl

namespace Duration

/-- The duration without its fraction of a millisecond. -/
def wholeMilliseconds (d : Duration) : Duration := ⟨d.nanoseconds - d.nanoseconds % 1000000⟩

theorem wholeMilliseconds_eq (d : Duration) :
    d.wholeMilliseconds = .ofMilliseconds d.milliseconds := by
  rw [wholeMilliseconds, ofMilliseconds, milliseconds, Nat.div_mul_self_eq_mod_sub_self]

theorem ofMilliseconds_inj {m n : Nat} : ofMilliseconds m = ofMilliseconds n ↔ m = n := by
  rw [ofMilliseconds, ofMilliseconds, Duration.mk.injEq]
  omega

theorem milliseconds_le {a b : Duration} (h : a.nanoseconds ≤ b.nanoseconds) :
    a.milliseconds ≤ b.milliseconds := Nat.div_le_div_right h

end Duration

namespace Timing

theorem validate_eq_ok_iff (t : Timing) :
    t.validate = .ok () ↔ 0 < t.poll ∧ t.poll ≤ t.timeout := by
  unfold validate
  split_ifs with hzero hshort
  · simp [hzero]
  · exact ⟨nofun, fun h => absurd h.2 (Nat.not_le_of_lt hshort)⟩
  · exact ⟨fun _ => ⟨Nat.pos_of_ne_zero hzero, Nat.le_of_not_lt hshort⟩, fun _ => rfl⟩

variable {poll timeout : Duration}

theorem limit_ne_zero : limit ≠ 0 := by decide

theorem pollInterval_ofDurations_iff :
    (ofDurations poll timeout).pollInterval = poll.wholeMilliseconds ↔
      poll.milliseconds < limit := by
  rw [Duration.wholeMilliseconds_eq, pollInterval, Duration.ofMilliseconds_inj]
  exact Nat.mod_eq_iff_lt limit_ne_zero

theorem silence_ofDurations_iff :
    (ofDurations poll timeout).silence = timeout.wholeMilliseconds ↔
      timeout.milliseconds < limit := by
  rw [Duration.wholeMilliseconds_eq, silence, Duration.ofMilliseconds_inj]
  exact Nat.mod_eq_iff_lt limit_ne_zero

theorem validate_ofDurations (hpoll : 0 < poll.milliseconds)
    (hle : poll.milliseconds ≤ timeout.milliseconds) (hlimit : timeout.milliseconds < limit) :
    (ofDurations poll timeout).validate = .ok () := by
  rw [validate_eq_ok_iff, ofDurations, Nat.mod_eq_of_lt hlimit,
    Nat.mod_eq_of_lt (Nat.lt_of_le_of_lt hle hlimit)]
  exact ⟨hpoll, hle⟩

/-- A timeout that is at least the poll interval, which is at least a millisecond: the settings can
work and keep both durations, but for fractions of a millisecond, if and only if the milliseconds of
the timeout can be counted in a word; and among such timeouts a longer one is never kept as a
shorter one. -/
theorem ofDurations_faithful_iff (hpoll : 1000000 ≤ poll.nanoseconds)
    (htimeout : poll.nanoseconds ≤ timeout.nanoseconds) :
    ((ofDurations poll timeout).validate = .ok () ∧
        (ofDurations poll timeout).pollInterval = poll.wholeMilliseconds ∧
        (ofDurations poll timeout).silence = timeout.wholeMilliseconds ↔
      timeout.milliseconds < limit) ∧
    ∀ longer : Duration, timeout.nanoseconds ≤ longer.nanoseconds → longer.milliseconds < limit →
      (ofDurations poll timeout).silence.nanoseconds ≤
        (ofDurations poll longer).silence.nanoseconds := by
  have hle := Duration.milliseconds_le htimeout
  have hpositive : 0 < poll.milliseconds := Nat.div_pos hpoll (by decide)
  refine ⟨⟨fun h => silence_ofDurations_iff.1 h.2.2, fun hlimit => ⟨?_, ?_, ?_⟩⟩, ?_⟩
  · exact validate_ofDurations hpositive hle hlimit
  · exact pollInterval_ofDurations_iff.2 (Nat.lt_of_le_of_lt hle hlimit)
  · exact silence_ofDurations_iff.2 hlimit
  · intro longer hlonger hlimit
    have hmore := Duration.milliseconds_le hlonger
    have hkept : (ofDurations poll timeout).silence = timeout.wholeMilliseconds :=
      silence_ofDurations_iff.2 (Nat.lt_of_le_of_lt hmore hlimit)
    have hkept' : (ofDurations poll longer).silence = longer.wholeMilliseconds :=
      silence_ofDurations_iff.2 hlimit
    rw [hkept, hkept', Duration.wholeMilliseconds_eq, Duration.wholeMilliseconds_eq]
    exact Nat.mul_le_mul_right _ hmore

/-- The longest timeout that can be counted, with a fraction of a millisecond, and one that is a
millisecond shorter. -/
theorem ofDurations_faithful_iff_longest :
    1000000 ≤ (Duration.ofSeconds 1 999999).nanoseconds ∧
      (Duration.ofSeconds 1 999999).nanoseconds ≤
        (Duration.ofSeconds 18446744073709551 614999999).nanoseconds ∧
      (ofDurations (.ofSeconds 1 999999)
        (.ofSeconds 18446744073709551 614999999)).validate = .ok () ∧
      (ofDurations (.ofSeconds 1 999999) (.ofSeconds 18446744073709551 614999999)).silence =
        .ofSeconds 18446744073709551 614000000 ∧
      (Duration.ofSeconds 18446744073709551 614000000).nanoseconds ≤
        (ofDurations (.ofSeconds 1 999999)
          (.ofSeconds 18446744073709551 615999999)).silence.nanoseconds := by
  have hpoll : 1000000 ≤ (Duration.ofSeconds 1 999999).nanoseconds := by decide
  have htimeout : (Duration.ofSeconds 1 999999).nanoseconds ≤
      (Duration.ofSeconds 18446744073709551 614999999).nanoseconds := by decide
  obtain ⟨hkept, hlonger⟩ := ofDurations_faithful_iff hpoll htimeout
  obtain ⟨hvalid, -, hsilence⟩ := hkept.2 (by decide)
  exact ⟨hpoll, htimeout, hvalid, hsilence, hlonger _ (by decide) (by decide)⟩

/-- A timeout of 2 ^ 64 + 384 milliseconds is kept as one of 384, and refused as shorter than the
poll interval of a second; a timeout of a minute is kept as a longer one. -/
theorem long_timeout_refused :
    1000000 ≤ (Duration.ofSeconds 1 0).nanoseconds ∧
      (Duration.ofSeconds 60 0).nanoseconds ≤ (Duration.ofSeconds 18446744073709552 0).nanoseconds ∧
      (ofDurations (.ofSeconds 1 0) (.ofSeconds 18446744073709552 0)).validate =
        .error (.timeoutTooShort 384 1000) ∧
      (ofDurations (.ofSeconds 1 0) (.ofSeconds 18446744073709552 0)).silence ≠
        (Duration.ofSeconds 18446744073709552 0).wholeMilliseconds ∧
      (ofDurations (.ofSeconds 1 0) (.ofSeconds 18446744073709552 0)).silence.nanoseconds <
        (ofDurations (.ofSeconds 1 0) (.ofSeconds 60 0)).silence.nanoseconds :=
  ⟨by decide, by decide, rfl, by decide, by decide⟩

end Timing

end DebugControl
