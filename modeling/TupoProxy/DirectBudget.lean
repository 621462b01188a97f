import TupoProxy.MachineWords
import TupoProxy.KeyedTotal

/-!
# The budget of the direct-relay copy buffers

One budget bounds the copy buffers of all direct sessions.  A session holds a
lease, a number of reserved bytes that it may grow under the adaptive target
and give back in part.  Atomic updates of the budget are single steps here.
The counter of reserved bytes is decremented with `fetch_sub`; that it never
goes below zero is a result about the sessions, not an assumption.
-/

namespace TupoProxy.DirectRelay

def saturatingAdd (left right : ℕ) : ℕ := min (left + right) usizeMax

def saturatingMul (left right : ℕ) : ℕ := min (left * right) usizeMax

def directBufferUnitBytes : ℕ := 4 * 1024
def directBaseC2sBytes : ℕ := 4 * 1024
def directBaseS2cBytes : ℕ := 8 * 1024
def targetFloorMinBytes : ℕ := 16 * 1024 * 1024

def alignUp (bytes : ℕ) : ℕ :=
  saturatingMul ((bytes + (directBufferUnitBytes - 1)) / directBufferUnitBytes)
    directBufferUnitBytes

def alignDown (bytes : ℕ) : ℕ := bytes / directBufferUnitBytes * directBufferUnitBytes

theorem alignUp_le_usizeMax (bytes : ℕ) : alignUp bytes ≤ usizeMax :=
  min_le_right _ _

theorem le_alignUp {bytes : ℕ} (hbytes : bytes ≤ usizeMax) : bytes ≤ alignUp bytes := by
  refine le_min ?_ hbytes
  rw [directBufferUnitBytes]
  omega

structure DirectBufferBudget where
  hardLimitBytes : ℕ
  targetBytes : ℕ
  reservedBytes : ℕ
  pressureGeneration : ℕ
  promotionTotal : ℕ
  promotionDeniedTotal : ℕ
  minimumFallbackTotal : ℕ
  admissionRejectedTotal : ℕ
  quietDemotionTotal : ℕ
  writePressureDemotionTotal : ℕ
  globalPressureDemotionTotal : ℕ
  tierSessions : Fin 4 → ℕ

/-- The bytes reserved by one direct session and the tier it is counted in. -/
structure DirectBufferLease where
  reservedBytes : ℕ
  tier : Fin 4

namespace DirectBufferBudget

def new (hardLimitBytes : ℕ) : DirectBufferBudget :=
  let hardLimitBytes := alignDown (max hardLimitBytes directBufferUnitBytes)
  { hardLimitBytes := hardLimitBytes
    targetBytes := hardLimitBytes
    reservedBytes := 0
    pressureGeneration := 0
    promotionTotal := 0
    promotionDeniedTotal := 0
    minimumFallbackTotal := 0
    admissionRejectedTotal := 0
    quietDemotionTotal := 0
    writePressureDemotionTotal := 0
    globalPressureDemotionTotal := 0
    tierSessions := fun _ => 0 }

/-- The compare-and-exchange loop of the source; `none` when the bytes do not
fit below the limit. -/
def tryAddReserved (budget : DirectBufferBudget) (bytes limit : ℕ) :
    Option DirectBufferBudget :=
  if bytes > limit - budget.reservedBytes then none
  else some { budget with reservedBytes := budget.reservedBytes + bytes }

def enterTier (budget : DirectBufferBudget) (tier : Fin 4) : DirectBufferBudget :=
  { budget with
    tierSessions := Function.update budget.tierSessions tier (budget.tierSessions tier + 1) }

def leaveTier (budget : DirectBufferBudget) (tier : Fin 4) : DirectBufferBudget :=
  { budget with
    tierSessions := Function.update budget.tierSessions tier (budget.tierSessions tier - 1) }

def tryReserve (budget : DirectBufferBudget) (bytes : ℕ) (allowAboveTarget : Bool) :
    Option (DirectBufferLease × DirectBufferBudget) :=
  let bytes := alignUp bytes
  let limit :=
    if allowAboveTarget then budget.hardLimitBytes
    else min budget.targetBytes budget.hardLimitBytes
  (budget.tryAddReserved bytes limit).map fun budget => (⟨bytes, 0⟩, budget.enterTier 0)

def targetFloorBytes (budget : DirectBufferBudget) : ℕ :=
  min (max (budget.hardLimitBytes / 8) targetFloorMinBytes) budget.hardLimitBytes

def setTargetBytes (budget : DirectBufferBudget) (target : ℕ) : DirectBufferBudget :=
  let target := alignDown (max budget.targetFloorBytes (min budget.hardLimitBytes target))
  { budget with
    targetBytes := target
    pressureGeneration :=
      if target < budget.targetBytes then budget.pressureGeneration + 1
      else budget.pressureGeneration }

def incrementMinimumFallback (budget : DirectBufferBudget) : DirectBufferBudget :=
  { budget with minimumFallbackTotal := budget.minimumFallbackTotal + 1 }

def incrementAdmissionRejected (budget : DirectBufferBudget) : DirectBufferBudget :=
  { budget with admissionRejectedTotal := budget.admissionRejectedTotal + 1 }

def incrementQuietDemotion (budget : DirectBufferBudget) : DirectBufferBudget :=
  { budget with quietDemotionTotal := budget.quietDemotionTotal + 1 }

def incrementWritePressureDemotion (budget : DirectBufferBudget) : DirectBufferBudget :=
  { budget with writePressureDemotionTotal := budget.writePressureDemotionTotal + 1 }

def incrementGlobalPressureDemotion (budget : DirectBufferBudget) : DirectBufferBudget :=
  { budget with globalPressureDemotionTotal := budget.globalPressureDemotionTotal + 1 }

theorem tryAddReserved_eq_some {budget grown : DirectBufferBudget} {bytes limit : ℕ}
    (hadd : budget.tryAddReserved bytes limit = some grown) :
    grown = { budget with reservedBytes := budget.reservedBytes + bytes } := by
  unfold tryAddReserved at hadd
  split at hadd
  · cases hadd
  · exact (Option.some.inj hadd).symm

theorem tryReserve_eq_some {budget after : DirectBufferBudget} {bytes : ℕ} {above : Bool}
    {lease : DirectBufferLease} (hreserve : budget.tryReserve bytes above = some (lease, after)) :
    lease = ⟨alignUp bytes, 0⟩ ∧ after.reservedBytes = budget.reservedBytes + alignUp bytes := by
  obtain ⟨grown, hgrown, hpair⟩ := Option.map_eq_some_iff.mp hreserve
  have hreserved := tryAddReserved_eq_some hgrown
  cases hpair
  exact ⟨rfl, congrArg DirectBufferBudget.reservedBytes hreserved⟩

end DirectBufferBudget

/-! ## The lease -/

namespace DirectBufferLease

def tryGrowTo (lease : DirectBufferLease) (bytes : ℕ) (budget : DirectBufferBudget) :
    Bool × DirectBufferLease × DirectBufferBudget :=
  let bytes := alignUp bytes
  if bytes ≤ lease.reservedBytes then (true, lease, budget)
  else
    let delta := bytes - lease.reservedBytes
    let limit := min budget.targetBytes budget.hardLimitBytes
    match budget.tryAddReserved delta limit with
    | none =>
      (false, lease, { budget with promotionDeniedTotal := budget.promotionDeniedTotal + 1 })
    | some budget =>
      (true, { lease with reservedBytes := bytes },
        { budget with promotionTotal := budget.promotionTotal + 1 })

def shrinkTo (lease : DirectBufferLease) (bytes : ℕ) (budget : DirectBufferBudget) :
    DirectBufferLease × DirectBufferBudget :=
  let bytes := alignUp bytes
  if bytes ≥ lease.reservedBytes then (lease, budget)
  else
    let released := lease.reservedBytes - bytes
    ({ lease with reservedBytes := bytes },
      { budget with reservedBytes := budget.reservedBytes - released })

def setTier (lease : DirectBufferLease) (tier : ℕ) (budget : DirectBufferBudget) :
    DirectBufferLease × DirectBufferBudget :=
  let tier : Fin 4 := ⟨min tier 3, by omega⟩
  if tier = lease.tier then (lease, budget)
  else ({ lease with tier := tier }, (budget.leaveTier lease.tier).enterTier tier)

def drop (lease : DirectBufferLease) (budget : DirectBufferBudget) : DirectBufferBudget :=
  DirectBufferBudget.leaveTier
    { budget with reservedBytes := budget.reservedBytes - lease.reservedBytes } lease.tier

/-- A granted lease has at least the aligned size; a refused one stays as it is. -/
theorem tryGrowTo_spec {lease lease' : DirectBufferLease} {bytes : ℕ}
    {budget budget' : DirectBufferBudget} {granted : Bool}
    (hgrow : lease.tryGrowTo bytes budget = (granted, lease', budget')) :
    lease'.reservedBytes =
      if granted then max lease.reservedBytes (alignUp bytes) else lease.reservedBytes := by
  simp only [tryGrowTo] at hgrow
  split at hgrow
  · cases hgrow
    rename_i hfits
    exact (max_eq_left hfits).symm
  · rename_i hlarger
    split at hgrow
    · cases hgrow
      rfl
    · cases hgrow
      exact (max_eq_right (not_le.mp hlarger).le).symm

theorem shrinkTo_spec (lease : DirectBufferLease) (bytes : ℕ) (budget : DirectBufferBudget) :
    (lease.shrinkTo bytes budget).1.reservedBytes = min lease.reservedBytes (alignUp bytes) := by
  simp only [shrinkTo]
  split
  · rename_i hkeeps
    exact (min_eq_left hkeeps).symm
  · rename_i hsmaller
    exact (min_eq_right (not_le.mp hsmaller).le).symm

theorem setTier_reserved (lease : DirectBufferLease) (tier : ℕ) (budget : DirectBufferBudget) :
    (lease.setTier tier budget).1.reservedBytes = lease.reservedBytes := by
  simp only [setTier]
  split <;> rfl

end DirectBufferLease

end TupoProxy.DirectRelay
