import DropletClient.CommandLine.Program
import DropletClient.Proofs.Poll.Bound
import DropletClient.Proofs.Settings.Check

namespace DropletClient

/-!
# Settings that pass the check

What the check promises of settings that it accepts: no wait is longer than a
week, and the periods between looks are positive and in order. That makes every
policy of such settings a bounded one.
-/

namespace Settings

variable {settings : Settings}

/-- A wait that is accepted is not longer than the longest one. -/
theorem wait_le
    (accepted : settings.validate = .ok ())
    (kind : EventKind) :
    settings.wait kind ≤ longestWait :=
  (validate_eq_ok_iff_isValid.mp accepted).waits kind

theorem pollInitialPeriod_pos
    (accepted : settings.validate = .ok ()) :
    0 < settings.pollInitialPeriod :=
  (validate_eq_ok_iff_isValid.mp accepted).pollInitialPeriod

theorem pollInitialPeriod_le
    (accepted : settings.validate = .ok ()) :
    settings.pollInitialPeriod ≤ settings.pollMaxPeriod :=
  (validate_eq_ok_iff_isValid.mp accepted).ordered

theorem pollPolicies_get
    (kind : EventKind) :
    settings.pollPolicies.get kind = settings.pollPolicy kind := by
  cases kind <;> rfl

/-- The policies of accepted settings are bounded. -/
theorem isBounded_pollPolicy
    (accepted : settings.validate = .ok ())
    (kind : EventKind) :
    (settings.pollPolicy kind).IsBounded where
  positive := Nat.mul_pos (pollInitialPeriod_pos accepted) (by decide)
  ordered := Nat.mul_le_mul_right _ (pollInitialPeriod_le accepted)
  short := by
    have week : longestWait * nanosecondsPerSecond ≤ Workflow.longestSleep := by
      decide
    exact Nat.le_trans
      (Nat.mul_le_mul_right nanosecondsPerSecond (wait_le accepted kind)) week

/-- The program has patience for every wait that accepted settings allow. -/
theorem mostLooks_le_patience
    (accepted : settings.validate = .ok ())
    (kind : EventKind) :
    (settings.pollPolicy kind).mostLooks ≤ CommandLine.patience := by
  have short := wait_le accepted kind
  have positive := pollInitialPeriod_pos accepted
  have fewer :
      (settings.wait kind * nanosecondsPerSecond +
          settings.pollInitialPeriod * nanosecondsPerMillisecond - 1) /
        (settings.pollInitialPeriod * nanosecondsPerMillisecond) <
          604800001 := by
    apply Nat.div_lt_of_lt_mul
    simp only [longestWait, nanosecondsPerSecond, nanosecondsPerMillisecond]
      at short ⊢
    omega
  simp only [PollPolicy.mostLooks, pollPolicy, CommandLine.patience]
  omega

end Settings

end DropletClient
