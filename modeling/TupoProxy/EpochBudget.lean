import Mathlib.Tactic

/-!
# Budgets per epoch

A meter counts what was granted in its epoch and starts again at zero in a
later one.  A refund lowers the count, whichever epoch the refunded grant
belongs to.  The log lists all grants and refunds with the epoch in which they
happened.  If no grant lifts the count over a cap, then in every window of
consecutive epochs the grants exceed the refunds by at most one cap per epoch.
-/

namespace TupoProxy.EpochBudget

open List

structure Entry where
  epoch : ℕ
  granted : ℕ
  refunded : ℕ
  deriving Repr, DecidableEq

structure Meter where
  epoch : ℕ
  used : ℕ
  deriving Repr, DecidableEq

/-- An amount of the entries in `count` consecutive epochs. -/
def amountIn (amount : Entry → ℕ) (log : List Entry) (first count : ℕ) : ℕ :=
  ((log.filter fun entry => first ≤ entry.epoch ∧ entry.epoch < first + count).map amount).sum

def amountAt (amount : Entry → ℕ) (log : List Entry) (epoch : ℕ) : ℕ :=
  ((log.filter fun entry => entry.epoch = epoch).map amount).sum

def grantedIn (log : List Entry) (first count : ℕ) : ℕ := amountIn Entry.granted log first count

def refundedIn (log : List Entry) (first count : ℕ) : ℕ := amountIn Entry.refunded log first count

variable {amount : Entry → ℕ} {log : List Entry} {cap clock : ℕ} {meter : Meter}

theorem amountAt_concat (entry : Entry) (epoch : ℕ) :
    amountAt amount (log ++ [entry]) epoch =
      amountAt amount log epoch + if entry.epoch = epoch then amount entry else 0 := by
  rw [amountAt, amountAt, filter_append, map_append, sum_append]
  by_cases hepoch : entry.epoch = epoch
  · simp [hepoch]
  · simp [hepoch]

theorem amountIn_zero (first : ℕ) : amountIn amount log first 0 = 0 := by
  have hnone : (log.filter fun entry =>
      first ≤ entry.epoch ∧ entry.epoch < first + 0) = [] := by
    rw [filter_eq_nil_iff]
    intro entry _ hinside
    have hinside := of_decide_eq_true hinside
    omega
  rw [amountIn, hnone]
  rfl

theorem amountIn_succ (first count : ℕ) :
    amountIn amount log first (count + 1) =
      amountIn amount log first count + amountAt amount log (first + count) := by
  induction log with
  | nil => rfl
  | cons entry log ih =>
    unfold amountIn amountAt at ih ⊢
    simp only [filter_cons, decide_eq_true_eq]
    by_cases hlast : entry.epoch = first + count
    · rw [if_pos (by omega), if_neg (by omega), if_pos hlast]
      simp only [map_cons, sum_cons]
      omega
    · by_cases hinside : first ≤ entry.epoch ∧ entry.epoch < first + count
      · rw [if_pos (by omega), if_pos hinside, if_neg hlast]
        simp only [map_cons, sum_cons]
        omega
      · rw [if_neg (by omega), if_neg hinside, if_neg hlast]
        exact ih

/-! ## Meters within their cap -/

def Meter.usedAt (meter : Meter) (clock : ℕ) : ℕ :=
  if meter.epoch = clock then meter.used else 0

def Meter.sync (meter : Meter) (clock : ℕ) : Meter :=
  if meter.epoch < clock then ⟨clock, 0⟩ else meter

/-- The grants of the log are within the cap, and the meter knows those of the
present epoch. -/
structure Within (cap clock : ℕ) (meter : Meter) (log : List Entry) : Prop where
  behind : meter.epoch ≤ clock
  used : meter.used ≤ cap
  each : ∀ epoch, amountAt Entry.granted log epoch ≤ cap + amountAt Entry.refunded log epoch
  present : amountAt Entry.granted log clock ≤
    meter.usedAt clock + amountAt Entry.refunded log clock
  later : ∀ epoch, clock < epoch → amountAt Entry.granted log epoch = 0

theorem within_new (cap clock : ℕ) : Within cap clock ⟨0, 0⟩ [] where
  behind := Nat.zero_le clock
  used := Nat.zero_le cap
  each := fun _ => Nat.zero_le _
  present := Nat.zero_le _
  later := fun _ _ => rfl

section

variable (hwithin : Within cap clock meter log)
include hwithin

theorem Within.tick {now : ℕ} (hnow : clock ≤ now) :
    Within cap now meter log where
  behind := hwithin.behind.trans hnow
  used := hwithin.used
  each := hwithin.each
  present := by
    rcases hnow.eq_or_lt with rfl | hlater
    · exact hwithin.present
    · rw [hwithin.later now hlater]
      exact Nat.zero_le _
  later := fun epoch hepoch => hwithin.later epoch (hnow.trans_lt hepoch)

theorem Within.sync : Within cap clock (meter.sync clock) log := by
  have hpresent := hwithin.present
  unfold Meter.sync
  split
  · refine ⟨le_refl clock, Nat.zero_le cap, hwithin.each, ?_, hwithin.later⟩
    rw [Meter.usedAt, if_neg (by omega)] at hpresent
    rw [Meter.usedAt, if_pos rfl]
    exact hpresent
  · exact hwithin

theorem Within.epoch_sync : (meter.sync clock).epoch = clock := by
  have hbehind := hwithin.behind
  unfold Meter.sync
  split
  · rfl
  · omega

theorem Within.grant (hepoch : meter.epoch = clock)
    {bytes : ℕ} (hbytes : meter.used + bytes ≤ cap) :
    Within cap clock ⟨clock, meter.used + bytes⟩ (log ++ [⟨clock, bytes, 0⟩]) := by
  have hpresent := hwithin.present
  rw [Meter.usedAt, if_pos hepoch] at hpresent
  refine ⟨le_refl clock, hbytes, ?_, ?_, ?_⟩
  · intro epoch
    have heach := hwithin.each epoch
    rw [amountAt_concat, amountAt_concat]
    dsimp only
    by_cases hclock : clock = epoch
    · subst hclock
      rw [if_pos rfl, if_pos rfl]
      omega
    · rw [if_neg hclock, if_neg hclock]
      omega
  · rw [amountAt_concat, amountAt_concat, Meter.usedAt]
    dsimp only
    rw [if_pos rfl, if_pos rfl, if_pos rfl]
    omega
  · intro epoch hlater
    rw [amountAt_concat, if_neg hlater.ne, hwithin.later epoch hlater]

theorem Within.refund (bytes : ℕ) :
    Within cap clock ⟨meter.epoch, meter.used - bytes⟩ (log ++ [⟨clock, 0, bytes⟩]) := by
  have hused := hwithin.used
  have hpresent := hwithin.present
  refine ⟨hwithin.behind, by dsimp only; omega, ?_, ?_, ?_⟩
  · intro epoch
    have heach := hwithin.each epoch
    rw [amountAt_concat, amountAt_concat]
    dsimp only
    split <;> omega
  · unfold Meter.usedAt at hpresent ⊢
    rw [amountAt_concat, amountAt_concat]
    dsimp only at hpresent ⊢
    rw [if_pos rfl, if_pos rfl]
    split at hpresent
    · rename_i hepoch
      rw [if_pos hepoch]
      omega
    · rename_i hepoch
      omega
  · intro epoch hlater
    rw [amountAt_concat, if_neg hlater.ne, hwithin.later epoch hlater]

end

/-- What a request for a grant may do to the meter: it is refused, before or
after the meter is brought to the present epoch, or it is granted within the
cap. -/
inductive Charge (cap clock : ℕ) (meter : Meter) : ℕ → Meter → Prop
  | idle : Charge cap clock meter 0 meter
  | refused : Charge cap clock meter 0 (meter.sync clock)
  | granted {bytes : ℕ} (hbytes : (meter.sync clock).used + bytes ≤ cap) :
      Charge cap clock meter bytes
        ⟨(meter.sync clock).epoch, (meter.sync clock).used + bytes⟩

theorem Charge.refused_of_sync {synced : Meter} (hsync : synced = meter.sync clock) :
    Charge cap clock meter 0 synced := by
  subst hsync
  exact .refused

theorem Charge.granted_of_sync {bytes : ℕ} {synced : Meter} (hsync : synced = meter.sync clock)
    (hbytes : synced.used + bytes ≤ cap) :
    Charge cap clock meter bytes ⟨synced.epoch, synced.used + bytes⟩ := by
  subst hsync
  exact .granted hbytes

theorem Within.charge (hwithin : Within cap clock meter log) {bytes : ℕ} {after : Meter}
    (hcharge : Charge cap clock meter bytes after) :
    Within cap clock after (log ++ [⟨clock, bytes, 0⟩]) := by
  cases hcharge with
  | idle => exact hwithin.refund 0
  | refused => exact hwithin.sync.refund 0
  | granted hbytes =>
    rw [hwithin.epoch_sync]
    exact hwithin.sync.grant hwithin.epoch_sync hbytes

/-- In every window the grants exceed the refunds by at most one cap per epoch. -/
theorem Within.window (hwithin : Within cap clock meter log) (first count : ℕ) :
    grantedIn log first count ≤ count * cap + refundedIn log first count := by
  unfold grantedIn refundedIn
  induction count with
  | zero =>
    rw [amountIn_zero]
    exact Nat.zero_le _
  | succ count ih =>
    have heach := hwithin.each (first + count)
    rw [amountIn_succ, amountIn_succ, Nat.succ_mul]
    omega

end TupoProxy.EpochBudget
