import TupoProxy.DirectBudget
import TupoProxy.Runs

/-!
# The books of the copy-buffer budget

The budget counts the reserved bytes and the sessions of each tier.  Only the
code of the leases ties these counters to the leases that are alive.  Here the
leases are the rows of a table and the operations on them come in any order;
each counter is shown to be the sum it stands for.
-/

namespace TupoProxy.DirectRelay

open Runs DirectBufferBudget

structure Ledger where
  budget : DirectBufferBudget
  leases : Table ℕ DirectBufferLease

namespace Ledger

inductive Action where
  | tryReserve (id bytes : ℕ) (allowAboveTarget : Bool)
  | tryGrowTo (id bytes : ℕ)
  | shrinkTo (id bytes : ℕ)
  | setTier (id tier : ℕ)
  | setTargetBytes (target : ℕ)
  | drop (id : ℕ)

def new (hardLimitBytes : ℕ) : Ledger := ⟨.new hardLimitBytes, ∅⟩

def withLease (ledger : Ledger) (id : ℕ)
    (change : DirectBufferLease → DirectBufferBudget → DirectBufferLease × DirectBufferBudget) :
    Ledger :=
  match ledger.leases.lookup id with
  | none => ledger
  | some lease =>
    ⟨(change lease ledger.budget).2, ledger.leases.insert id (change lease ledger.budget).1⟩

def step : Action → Ledger → Ledger
  | .tryReserve id bytes above, ledger =>
    match ledger.leases.lookup id, ledger.budget.tryReserve bytes above with
    | none, some (lease, budget) => ⟨budget, ledger.leases.insert id lease⟩
    | _, _ => ledger
  | .tryGrowTo id bytes, ledger =>
    ledger.withLease id fun lease budget => (lease.tryGrowTo bytes budget).2
  | .shrinkTo id bytes, ledger =>
    ledger.withLease id fun lease budget => lease.shrinkTo bytes budget
  | .setTier id tier, ledger =>
    ledger.withLease id fun lease budget => lease.setTier tier budget
  | .setTargetBytes target, ledger =>
    { ledger with budget := ledger.budget.setTargetBytes target }
  | .drop id, ledger =>
    match ledger.leases.lookup id with
    | none => ledger
    | some lease => ⟨lease.drop ledger.budget, ledger.leases.erase id⟩

end Ledger

/-- What the budget counts: bytes, and the sessions of each tier. -/
inductive Gauge where
  | bytes
  | tier (tier : Fin 4)

namespace Gauge

def ofLease : Gauge → DirectBufferLease → ℕ
  | .bytes, lease => lease.reservedBytes
  | .tier counted, lease => if lease.tier = counted then 1 else 0

def ofBudget : Gauge → DirectBufferBudget → ℕ
  | .bytes, budget => budget.reservedBytes
  | .tier counted, budget => budget.tierSessions counted

section

variable (gauge : Gauge) (budget : DirectBufferBudget) (tier : Fin 4)

theorem ofBudget_enterTier :
    gauge.ofBudget (budget.enterTier tier) = gauge.ofBudget budget + gauge.ofLease ⟨0, tier⟩ := by
  cases gauge with
  | bytes => rfl
  | tier counted =>
    by_cases hsame : tier = counted
    · subst hsame
      simp [ofBudget, ofLease, enterTier]
    · simp [ofBudget, ofLease, enterTier, Ne.symm hsame, hsame]

theorem ofBudget_leaveTier :
    gauge.ofBudget (budget.leaveTier tier) = gauge.ofBudget budget - gauge.ofLease ⟨0, tier⟩ := by
  cases gauge with
  | bytes => rfl
  | tier counted =>
    by_cases hsame : tier = counted
    · subst hsame
      simp [ofBudget, ofLease, leaveTier]
    · simp [ofBudget, ofLease, leaveTier, Ne.symm hsame, hsame]

end

end Gauge

namespace DirectBufferBudget

structure Within (budget : DirectBufferBudget) : Prop where
  reserved : budget.reservedBytes ≤ budget.hardLimitBytes
  target : budget.targetBytes ≤ budget.hardLimitBytes

theorem tryAddReserved_within {budget grown : DirectBufferBudget} {bytes limit : ℕ}
    (hwithin : budget.Within) (hlimit : limit ≤ budget.hardLimitBytes)
    (hadd : budget.tryAddReserved bytes limit = some grown) : grown.Within := by
  unfold tryAddReserved at hadd
  split at hadd
  · cases hadd
  · rename_i hfits
    cases hadd
    have hreserved := hwithin.reserved
    refine ⟨?_, hwithin.target⟩
    simp only
    omega

theorem setTargetBytes_within {budget : DirectBufferBudget} (hwithin : budget.Within)
    (target : ℕ) : (budget.setTargetBytes target).Within := by
  refine ⟨hwithin.reserved, ?_⟩
  have hfloor : budget.targetFloorBytes ≤ budget.hardLimitBytes := min_le_right _ _
  calc
    (budget.setTargetBytes target).targetBytes
        ≤ max budget.targetFloorBytes (min budget.hardLimitBytes target) := Nat.div_mul_le_self _ _
    _ ≤ budget.hardLimitBytes := max_le hfloor (min_le_left _ _)

end DirectBufferBudget

namespace DirectBufferLease

/-- An operation of one lease keeps the bounds of the budget, and every counter
follows what the lease adds to it or takes from it. -/
structure Booked (lease : DirectBufferLease) (budget : DirectBufferBudget)
    (lease' : DirectBufferLease) (budget' : DirectBufferBudget) : Prop where
  hardLimit : budget'.hardLimitBytes = budget.hardLimitBytes
  within : budget.Within → budget'.Within
  gauges : ∀ gauge : Gauge, gauge.ofLease lease ≤ gauge.ofBudget budget →
    gauge.ofBudget budget' + gauge.ofLease lease = gauge.ofBudget budget + gauge.ofLease lease'

variable (lease : DirectBufferLease)

theorem tryGrowTo_booked (bytes : ℕ) (budget : DirectBufferBudget) :
    lease.Booked budget (lease.tryGrowTo bytes budget).2.1 (lease.tryGrowTo bytes budget).2.2 := by
  simp only [tryGrowTo]
  split
  · exact ⟨rfl, id, fun _ _ => rfl⟩
  · split
    · refine ⟨rfl, fun hwithin => ⟨hwithin.reserved, hwithin.target⟩, fun gauge _ => ?_⟩
      cases gauge <;> rfl
    · rename_i hlarger _ grown hadd
      have hgrown := tryAddReserved_eq_some hadd
      refine ⟨by rw [hgrown], fun hwithin => ?_, fun gauge _ => ?_⟩
      · have hafter := tryAddReserved_within hwithin (min_le_right _ _) hadd
        exact ⟨hafter.reserved, hafter.target⟩
      · cases gauge with
        | bytes =>
          rw [hgrown]
          simp only [Gauge.ofBudget, Gauge.ofLease]
          omega
        | tier counted =>
          rw [hgrown]
          rfl

theorem shrinkTo_booked (bytes : ℕ) (budget : DirectBufferBudget) :
    lease.Booked budget (lease.shrinkTo bytes budget).1 (lease.shrinkTo bytes budget).2 := by
  simp only [shrinkTo]
  split
  · exact ⟨rfl, id, fun _ _ => rfl⟩
  · rename_i hsmaller
    refine ⟨rfl, fun hwithin => ⟨?_, hwithin.target⟩, fun gauge hheld => ?_⟩
    · exact (Nat.sub_le _ _).trans hwithin.reserved
    · cases gauge with
      | bytes =>
        simp only [Gauge.ofBudget, Gauge.ofLease] at hheld ⊢
        omega
      | tier counted => rfl

theorem setTier_booked (tier : ℕ) (budget : DirectBufferBudget) :
    lease.Booked budget (lease.setTier tier budget).1 (lease.setTier tier budget).2 := by
  simp only [setTier]
  split
  · exact ⟨rfl, id, fun _ _ => rfl⟩
  · rename_i hother
    refine ⟨rfl, fun hwithin => ⟨hwithin.reserved, hwithin.target⟩, fun gauge hheld => ?_⟩
    rw [Gauge.ofBudget_enterTier, Gauge.ofBudget_leaveTier]
    cases gauge with
    | bytes => rfl
    | tier counted =>
      simp only [Gauge.ofLease] at hheld ⊢
      omega

end DirectBufferLease

/-! ## Runs -/

namespace Ledger

def sum (ledger : Ledger) (gauge : Gauge) : ℕ :=
  Table.total ledger.leases fun _ lease => gauge.ofLease lease

structure Balanced (hardLimitBytes : ℕ) (ledger : Ledger) : Prop where
  hardLimit : ledger.budget.hardLimitBytes = (new hardLimitBytes).budget.hardLimitBytes
  within : ledger.budget.Within
  gauges : ∀ gauge : Gauge, gauge.ofBudget ledger.budget = ledger.sum gauge

theorem new_balanced (hardLimitBytes : ℕ) : (new hardLimitBytes).Balanced hardLimitBytes where
  hardLimit := rfl
  within := ⟨Nat.zero_le _, le_rfl⟩
  gauges gauge := by cases gauge <;> rfl

variable {hardLimitBytes : ℕ} {ledger : Ledger}

theorem withLease_balanced (hbalanced : ledger.Balanced hardLimitBytes) (id : ℕ)
    {change : DirectBufferLease → DirectBufferBudget → DirectBufferLease × DirectBufferBudget}
    (hbooked : ∀ (lease : DirectBufferLease) budget,
      lease.Booked budget (change lease budget).1 (change lease budget).2) :
    (ledger.withLease id change).Balanced hardLimitBytes := by
  unfold withLease
  split
  · exact hbalanced
  · rename_i lease hlookup
    have hbook := hbooked lease ledger.budget
    refine ⟨hbook.hardLimit.trans hbalanced.hardLimit, hbook.within hbalanced.within,
      fun gauge => ?_⟩
    have hsum := hbalanced.gauges gauge
    have hheld : gauge.ofLease lease ≤ ledger.sum gauge :=
      Table.weight_le_total (fun _ lease => gauge.ofLease lease) hlookup
    have hmoved := hbook.gauges gauge (hsum ▸ hheld)
    have htotal := Table.total_insert_replace (fun _ lease => gauge.ofLease lease)
      (change lease ledger.budget).1 hlookup
    simp only [sum] at hsum ⊢
    omega

/-- Every call on the budget and its leases keeps the books. -/
theorem step_balanced (hbalanced : ledger.Balanced hardLimitBytes) (action : Action) :
    (step action ledger).Balanced hardLimitBytes := by
  cases action with
  | tryReserve id bytes above =>
    simp only [step]
    split
    · rename_i lease budget hfresh hreserve
      obtain ⟨grown, hadd, hpair⟩ := Option.map_eq_some_iff.mp hreserve
      have hgrown := tryAddReserved_eq_some hadd
      have hwithin := tryAddReserved_within hbalanced.within
        (by split <;> simp) hadd
      cases hpair
      refine ⟨?_, ⟨hwithin.reserved, hwithin.target⟩, fun gauge => ?_⟩
      · rw [← hbalanced.hardLimit, hgrown]
        rfl
      · have hsum := hbalanced.gauges gauge
        simp only [sum] at hsum ⊢
        rw [Gauge.ofBudget_enterTier, Table.total_insert_new _ hfresh, ← hsum, hgrown]
        cases gauge with
        | bytes => exact Nat.add_comm _ (alignUp bytes)
        | tier counted => exact Nat.add_comm _ _
    · exact hbalanced
  | tryGrowTo id bytes =>
    exact withLease_balanced hbalanced id fun lease budget => lease.tryGrowTo_booked bytes budget
  | shrinkTo id bytes =>
    exact withLease_balanced hbalanced id fun lease budget => lease.shrinkTo_booked bytes budget
  | setTier id tier =>
    exact withLease_balanced hbalanced id fun lease budget => lease.setTier_booked tier budget
  | setTargetBytes target =>
    refine ⟨hbalanced.hardLimit, ?_, fun gauge => ?_⟩
    · exact setTargetBytes_within hbalanced.within target
    · have hsum := hbalanced.gauges gauge
      cases gauge <;> exact hsum
  | drop id =>
    simp only [step]
    split
    · exact hbalanced
    · rename_i lease hlookup
      refine ⟨hbalanced.hardLimit, ⟨?_, hbalanced.within.target⟩, fun gauge => ?_⟩
      · exact (Nat.sub_le _ _).trans hbalanced.within.reserved
      · have hsum := hbalanced.gauges gauge
        have htotal := Table.total_erase_add (fun _ lease => gauge.ofLease lease) hlookup
        rw [DirectBufferLease.drop, Gauge.ofBudget_leaveTier]
        simp only [sum] at hsum ⊢
        cases gauge <;> simp only [Gauge.ofBudget, Gauge.ofLease] at hsum htotal ⊢ <;> omega

/-- For every run the reserved bytes and the sessions of each tier are the sums over the
open leases, within the hard limit. -/
theorem budget_books_balance (hardLimitBytes : ℕ) (actions : List Action) :
    let ledger := run step actions (new hardLimitBytes)
    ledger.budget.reservedBytes = Table.total ledger.leases (fun _ lease => lease.reservedBytes) ∧
      ledger.budget.reservedBytes ≤ ledger.budget.hardLimitBytes ∧
      (∀ tier, ledger.budget.tierSessions tier =
        Table.total ledger.leases (fun _ lease => if lease.tier = tier then 1 else 0)) ∧
      ledger.budget.targetBytes ≤ ledger.budget.hardLimitBytes ∧
      ledger.budget.hardLimitBytes = alignDown (max hardLimitBytes directBufferUnitBytes) := by
  have hbalanced : (run step actions (new hardLimitBytes)).Balanced hardLimitBytes := by
    apply (along_true actions _).invariant
    · intro ledger action hbalanced _
      exact step_balanced hbalanced action
    · exact new_balanced hardLimitBytes
  exact ⟨hbalanced.gauges .bytes, hbalanced.within.reserved,
    fun tier => hbalanced.gauges (.tier tier), hbalanced.within.target, hbalanced.hardLimit⟩

end Ledger
end TupoProxy.DirectRelay
