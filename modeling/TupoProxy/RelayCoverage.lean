import TupoProxy.AdaptiveRelay

/-!
# Copy buffers and their reservation

A session is covered when its lease holds, for each direction, the larger of
the current and the desired buffer size.  Reader polls, demotions and
reconciliations keep a session covered.  A promotion keeps it covered unless
one buffer still waits to shrink below its size at the new tier while the other
has room to grow: the lease then grows to the sum of the new sizes only.
-/

namespace TupoProxy.DirectRelay

open Runs

namespace Session

structure Covered (session : Session) : Prop where
  base_c2s : session.base.1 ≤ session.ceilings.c2s
  base_s2c : session.base.2 ≤ session.ceilings.s2c
  desired_c2s : session.c2s.state.desiredBytes = (session.sizesAt session.controller.tier).1
  desired_s2c : session.s2c.state.desiredBytes = (session.sizesAt session.controller.tier).2
  lease_le : session.lease.reservedBytes ≤ usizeMax
  covered : session.c2s.covered + session.s2c.covered ≤ session.lease.reservedBytes

variable {session : Session}

theorem Covered.buffers_le (hcovered : session.Covered) :
    session.c2s.bufferLen + session.s2c.bufferLen ≤ session.lease.reservedBytes := by
  have hc2s : session.c2s.bufferLen ≤ session.c2s.covered :=
    session.c2s.bufferLen_eq.trans_le (le_max_left _ _)
  have hs2c : session.s2c.bufferLen ≤ session.s2c.covered :=
    session.s2c.bufferLen_eq.trans_le (le_max_left _ _)
  exact (Nat.add_le_add hc2s hs2c).trans hcovered.covered

variable {ceilings : CopyCeilings} {base : ℕ × ℕ}

section

variable (hc2s : base.1 ≤ ceilings.c2s) (hs2c : base.2 ≤ ceilings.s2c)
  (hpos : 1 ≤ base.1 ∧ 1 ≤ base.2)
include hc2s hs2c hpos

theorem new_covered {lease : DirectBufferLease} (hlease : lease.reservedBytes ≤ usizeMax)
    (hsum : base.1 + base.2 ≤ lease.reservedBytes) : (new ceilings lease base).Covered where
  base_c2s := hc2s
  base_s2c := hs2c
  desired_c2s := (directDirectionSize_base _ _).symm
  desired_s2c := (directDirectionSize_base _ _).symm
  lease_le := hlease
  covered := by
    simp only [new, AdaptiveBufReader.new, AdaptiveBufReader.covered, AdaptiveBufferState.new]
    omega

theorem effectiveBase_covered {bytes : ℕ}
    (hbytes : directBaseC2sBytes + directBaseS2cBytes ≤ alignUp bytes ∨
      saturatingAdd base.1 base.2 ≤ alignUp bytes) :
    (new ceilings ⟨alignUp bytes, 0⟩ (effectiveBase ⟨alignUp bytes, 0⟩ base)).Covered := by
  have hceiling := ceilings.c2s_range
  have hceiling' := ceilings.s2c_range
  have hlease := alignUp_le_usizeMax bytes
  have hsum : saturatingAdd base.1 base.2 = base.1 + base.2 := by
    simp only [saturatingAdd, usizeMax]
    omega
  simp only [effectiveBase, hsum]
  split
  · rename_i hshort
    simp only [directBaseC2sBytes, directBaseS2cBytes] at hbytes ⊢
    exact new_covered (by simp only; omega) (by simp only; omega) (by simp)
      hlease (by simp only; omega)
  · rename_i henough
    exact new_covered hc2s hs2c hpos hlease (not_lt.mp henough)

end

variable {maxConnections : ℕ} {budget budget' : DirectBufferBudget}

theorem start_covered (hstart : start ceilings maxConnections budget = (.ok session, budget')) :
    session.Covered := by
  obtain ⟨hc2s, hs2c⟩ := initialBaseSizes_le ceilings maxConnections budget.targetBytes
  have hpos := one_le_initialBaseSizes ceilings maxConnections budget.targetBytes
  simp only [start] at hstart
  split at hstart
  · rename_i lease after hreserve
    obtain ⟨rfl, -⟩ := DirectBufferBudget.tryReserve_eq_some hreserve
    cases hstart
    exact effectiveBase_covered hc2s hs2c hpos (Or.inr (le_alignUp (min_le_right _ _)))
  · split at hstart
    · rename_i lease after hreserve
      obtain ⟨rfl, -⟩ := DirectBufferBudget.tryReserve_eq_some hreserve
      cases hstart
      exact effectiveBase_covered hc2s hs2c hpos (Or.inl (le_alignUp (by decide)))
    · cases hstart

section

variable (hcovered : session.Covered)
include hcovered

theorem poll_covered (op : AdaptiveBufReader.Op)
    (direction : Direction) : (session.poll op direction).Covered := by
  have hsum := hcovered.covered
  cases direction with
  | c2s =>
    obtain ⟨hdesired, hle⟩ := session.c2s.apply_polled op
    exact { hcovered with
      desired_c2s := hdesired.trans hcovered.desired_c2s
      covered := (Nat.add_le_add_right hle _).trans hsum }
  | s2c =>
    obtain ⟨hdesired, hle⟩ := session.s2c.apply_polled op
    exact { hcovered with
      desired_s2c := hdesired.trans hcovered.desired_s2c
      covered := (Nat.add_le_add_left hle _).trans hsum }

theorem reconcileReservation_covered (budget : DirectBufferBudget) :
    (session.reconcileReservation budget).1.Covered := by
  have hreserved := session.lease.shrinkTo_spec
    (saturatingAdd session.c2s.covered session.s2c.covered) budget
  have hsum := hcovered.covered
  have hle := hcovered.lease_le
  have hexact : saturatingAdd session.c2s.covered session.s2c.covered =
      session.c2s.covered + session.s2c.covered := min_eq_left (hsum.trans hle)
  have halign := le_alignUp (hsum.trans hle)
  nth_rewrite 2 [hexact] at hreserved
  exact { hcovered with
    lease_le := hreserved.trans_le ((min_le_left _ _).trans hle)
    covered := (le_min hsum halign).trans_eq hreserved.symm }

omit hcovered in
theorem setTier_covered {tier : AdaptiveTier}
    (hbase : session.base.1 ≤ session.ceilings.c2s ∧ session.base.2 ≤ session.ceilings.s2c)
    (htier : session.controller.tier = tier) (hlease : session.lease.reservedBytes ≤ usizeMax)
    (hsum : max session.c2s.state.actualBytes (session.sizesAt tier).1 +
      max session.s2c.state.actualBytes (session.sizesAt tier).2 ≤ session.lease.reservedBytes)
    (budget : DirectBufferBudget) :
    ((session.setDesiredSizes (session.sizesAt tier)).setTier tier budget).1.Covered := by
  subst htier
  have hc2s : max (session.sizesAt session.controller.tier).1 1 =
      (session.sizesAt session.controller.tier).1 := max_eq_left (directDirectionSize_pos _ _ _)
  have hs2c : max (session.sizesAt session.controller.tier).2 1 =
      (session.sizesAt session.controller.tier).2 := max_eq_left (directDirectionSize_pos _ _ _)
  have hreserved := session.lease.setTier_reserved session.controller.tier.asU8 budget
  refine ⟨hbase.1, hbase.2, hc2s, hs2c, hreserved.trans_le hlease, ?_⟩
  refine le_trans (le_of_eq ?_) (hsum.trans_eq hreserved.symm)
  exact congrArg₂ (fun left right => max _ left + max _ right) hc2s hs2c

theorem Covered.demoted_le :
    max session.c2s.state.actualBytes (session.sizesAt session.controller.tier.demote).1 +
      max session.s2c.state.actualBytes (session.sizesAt session.controller.tier.demote).2 ≤
        session.lease.reservedBytes := by
  have hdown := session.controller.tier.demote_le
  refine le_trans (Nat.add_le_add ?_ ?_) hcovered.covered
  · rw [AdaptiveBufReader.covered, hcovered.desired_c2s]
    exact max_le_max le_rfl (directDirectionSize_mono hdown)
  · rw [AdaptiveBufReader.covered, hcovered.desired_s2c]
    exact max_le_max le_rfl (directDirectionSize_mono hdown)

omit hcovered in
theorem lopsided_eq_false : session.lopsided = false ↔
    let sizes := session.sizesAt session.controller.tier.promote
    (session.c2s.state.actualBytes ≤ sizes.1 ∨ sizes.2 ≤ session.s2c.state.actualBytes) ∧
      (sizes.1 ≤ session.c2s.state.actualBytes ∨ session.s2c.state.actualBytes ≤ sizes.2) := by
  simp only [lopsided, Bool.or_eq_false_iff, Bool.and_eq_false_iff, decide_eq_false_iff_not, not_lt]

theorem Covered.promoted_le (hlevel : session.lopsided = false) :
    let sizes := session.sizesAt session.controller.tier.promote
    max session.c2s.state.actualBytes sizes.1 + max session.s2c.state.actualBytes sizes.2 ≤
      max session.lease.reservedBytes (alignUp (saturatingAdd sizes.1 sizes.2)) := by
  intro sizes
  have hc2s : sizes.1 ≤ 2 * 1024 * 1024 :=
    directDirectionSize_le
      (hcovered.base_c2s.trans (session.ceilings.c2s_range.2.trans (by decide)))
      (session.ceilings.c2s_range.2.trans (by decide)) (by decide)
  have hs2c : sizes.2 ≤ 2 * 1024 * 1024 :=
    directDirectionSize_le (hcovered.base_s2c.trans session.ceilings.s2c_range.2)
      session.ceilings.s2c_range.2 (by decide)
  have hexact : saturatingAdd sizes.1 sizes.2 = sizes.1 + sizes.2 := by
    simp only [saturatingAdd, usizeMax]
    omega
  have halign : sizes.1 + sizes.2 ≤ alignUp (saturatingAdd sizes.1 sizes.2) := by
    rw [hexact]
    apply le_alignUp
    rw [usizeMax]
    omega
  have hactual : session.c2s.state.actualBytes + session.s2c.state.actualBytes ≤
      session.lease.reservedBytes :=
    (Nat.add_le_add (le_max_left _ _) (le_max_left _ _)).trans hcovered.covered
  obtain ⟨hleft, hright⟩ := lopsided_eq_false.mp hlevel
  change session.c2s.state.actualBytes ≤ sizes.1 ∨ sizes.2 ≤ session.s2c.state.actualBytes at hleft
  change sizes.1 ≤ session.c2s.state.actualBytes ∨ session.s2c.state.actualBytes ≤ sizes.2 at hright
  clear_value sizes
  omega

/-! ## Watchdog ticks and global pressure -/

theorem applyGlobalPressureDemotion_covered
    (budget : DirectBufferBudget) : (session.applyGlobalPressureDemotion budget).1.Covered := by
  simp only [applyGlobalPressureDemotion]
  split
  · exact hcovered
  · have hdemoted := hcovered.demoted_le
    exact @setTier_covered { session with controller := .new _ } _
      ⟨hcovered.base_c2s, hcovered.base_s2c⟩ rfl hcovered.lease_le hdemoted budget

theorem pressureChanged_covered (budget : DirectBufferBudget) :
    (session.pressureChanged budget).1.Covered :=
  reconcileReservation_covered (applyGlobalPressureDemotion_covered hcovered budget) _

variable {controller : SessionAdaptiveController}

theorem promotion_covered (hlevel : session.lopsided = false)
    (htier : controller.tier = session.controller.tier.promote)
    (hup : session.controller.tier.asU8 < session.controller.tier.promote.asU8)
    (reason : TierTransitionReason) (sample : RelaySignalSample) (budget : DirectBufferBudget) :
    ({ session with controller := controller, previous := sample }.applyControllerTransition
      ⟨session.controller.tier, session.controller.tier.promote, reason⟩ budget).1.Covered := by
  have hpromoted := hcovered.promoted_le hlevel
  have hle := hcovered.lease_le
  simp only [applyControllerTransition, if_pos hup]
  split
  · rename_i lease after hgrow
    have hsame := DirectBufferLease.tryGrowTo_spec hgrow
    exact { hcovered with
      lease_le := hsame.trans_le hle
      covered := hcovered.covered.trans_eq hsame.symm }
  · rename_i lease after hgrow
    have hgrown := DirectBufferLease.tryGrowTo_spec hgrow
    have hbound := alignUp_le_usizeMax (saturatingAdd
      (session.sizesAt session.controller.tier.promote).1
      (session.sizesAt session.controller.tier.promote).2)
    exact @setTier_covered
      { session with controller := controller, previous := sample, lease := lease } _
      ⟨hcovered.base_c2s, hcovered.base_s2c⟩ htier
      (hgrown.trans_le (max_le hle hbound)) (hpromoted.trans_eq hgrown.symm) after

theorem demotion_covered
    (htier : controller.tier = session.controller.tier.demote) (reason : TierTransitionReason)
    (sample : RelaySignalSample) (budget : DirectBufferBudget) :
    ({ session with controller := controller, previous := sample }.applyControllerTransition
      ⟨session.controller.tier, session.controller.tier.demote, reason⟩ budget).1.Covered := by
  have hdown := not_lt.mpr session.controller.tier.demote_le
  simp only [applyControllerTransition, if_neg hdown]
  exact @setTier_covered { session with controller := controller, previous := sample } _
    ⟨hcovered.base_c2s, hcovered.base_s2c⟩ htier hcovered.lease_le hcovered.demoted_le _

theorem tick_covered {sample : RelaySignalSample} {tickSecs : ℚ}
    (hlevel : session.promotes sample tickSecs = true → session.lopsided = false)
    (budget : DirectBufferBudget) : (session.tick sample tickSecs budget).1.Covered := by
  have hmoves := session.controller.observe_moves (sampleDelta sample session.previous) tickSecs
  change SessionAdaptiveController.Moves _ (session.observation sample tickSecs) at hmoves
  simp only [tick]
  apply reconcileReservation_covered
  generalize hobserved : session.observation sample tickSecs = observed at hmoves
  cases hmoves with
  | stay controller htier =>
    exact { hcovered with
      desired_c2s := by rw [hcovered.desired_c2s, htier]; rfl
      desired_s2c := by rw [hcovered.desired_s2c, htier]; rfl }
  | up controller reason htier hup =>
    have hpromotes : session.promotes sample tickSecs = true := by
      rw [promotes, hobserved]
      exact decide_eq_true hup
    exact promotion_covered hcovered (hlevel hpromotes) htier hup reason sample budget
  | down controller reason htier =>
    exact demotion_covered hcovered htier reason sample budget

end

end Session

/-! ## Runs of all sessions -/

namespace Relays

variable {id : ℕ} {relays : Relays}
  {change : Session → DirectBufferBudget → Session × DirectBufferBudget}

def AllCovered (relays : Relays) : Prop :=
  ∀ id session, relays.sessions.lookup id = some session → session.Covered

theorem withSession_covered (hall : relays.AllCovered)
    (hchange : ∀ session, relays.sessions.lookup id = some session →
      (change session relays.budget).1.Covered) : (relays.withSession id change).AllCovered := by
  unfold withSession
  split
  · exact hall
  · rename_i session hlookup
    intro other found hfound
    rcases Table.lookup_insert_some hfound with ⟨rfl, rfl⟩ | ⟨-, hold⟩
    · exact hchange session hlookup
    · exact hall other found hold

/-- Unless it promotes a lopsided session, a step leaves all buffers within their leases. -/
theorem step_covered (hall : relays.AllCovered) {action : Action}
    (hlevel : relays.promotesLevel action = true) : (step action relays).AllCovered := by
  cases action with
  | connect id ceilings maxConnections =>
    simp only [step]
    split
    · exact hall
    · rename_i session budget hlookup hstart
      intro other found hfound
      rcases Table.lookup_insert_some hfound with ⟨rfl, rfl⟩ | ⟨-, hold⟩
      · exact Session.start_covered hstart
      · exact hall other found hold
    · exact hall
  | tick id sample tickSecs =>
    apply withSession_covered hall
    intro session hlookup
    apply Session.tick_covered (hall id session hlookup)
    intro hpromotes
    simpa [promotesLevel, hlookup, hpromotes] using hlevel
  | pressureChanged id =>
    apply withSession_covered hall
    intro session hlookup
    exact Session.pressureChanged_covered (hall id session hlookup) relays.budget
  | poll id direction op =>
    apply withSession_covered hall
    intro session hlookup
    exact Session.poll_covered (hall id session hlookup) op direction
  | close id =>
    simp only [step]
    split
    · exact hall
    · intro other found hfound
      exact hall other found (Table.lookup_erase_some hfound).2
  | setTarget target => exact hall

/-- The two copy buffers of every session fit into its reservation, in every
run that promotes no session while its buffers are lopsided. -/
theorem buffers_within_lease (hardLimitBytes : ℕ) (actions : List Action)
    (hlevel : Along step (fun relays action => relays.promotesLevel action = true) actions
      (new hardLimitBytes)) (id : ℕ) (session : Session)
    (hlookup : (run step actions (new hardLimitBytes)).sessions.lookup id = some session) :
    session.c2s.bufferLen + session.s2c.bufferLen ≤ session.lease.reservedBytes := by
  have hall : (run step actions (new hardLimitBytes)).AllCovered := by
    apply hlevel.invariant
    · intro relays action hcovered hgood
      exact step_covered hcovered hgood
    · intro id session hlookup
      cases hlookup
  exact (hall id session hlookup).buffers_le

def defaultCeilings : CopyCeilings := ⟨64 * 1024, 256 * 1024, by decide, by decide⟩

def blockedWrites : RelaySignalSample := ⟨0, 0, 0, 0, 0, 3⟩

def quietSample : RelaySignalSample := ⟨0, 0, 0, 0, 0, 0⟩

/-- Two promotions, and both buffers grow.  The upload buffer is then left with
unread bytes while the download buffer stays empty. -/
def stalledUpload : List Action :=
  [.connect 0 defaultCeilings 10000,
    .tick 0 blockedWrites 10, .tick 0 blockedWrites 10,
    .poll 0 .c2s (.fillBuf (.ready [1, 2, 3])), .poll 0 .c2s (.consume 1),
    .poll 0 .s2c (.fillBuf .pending)]

/-- The target falls twice, and the download buffer shrinks to its base size. -/
def fallingTarget : List Action :=
  [.setTarget (256 * 1024 * 1024), .pressureChanged 0,
    .setTarget (128 * 1024 * 1024), .pressureChanged 0,
    .poll 0 .s2c (.fillBuf .pending), .tick 0 quietSample 10]

theorem buffers_within_lease_falling :
    ((run step (stalledUpload ++ fallingTarget) (new (512 * 1024 * 1024))).sessions.lookup 0).map
        (fun session => (session.c2s.bufferLen, session.s2c.bufferLen,
          session.lease.reservedBytes)) = some (32768, 8192, 40960) ∧
      ∀ session, (run step (stalledUpload ++ fallingTarget)
          (new (512 * 1024 * 1024))).sessions.lookup 0 = some session →
        session.c2s.bufferLen + session.s2c.bufferLen ≤ session.lease.reservedBytes :=
  ⟨by decide +kernel, buffers_within_lease (512 * 1024 * 1024) _ (by decide +kernel) 0⟩

/-- A promotion then reserves the two sizes of the first tier, although the
upload buffer still has the size of the second. -/
theorem buffers_outgrow_lease :
    ∃ session, (run step (stalledUpload ++ fallingTarget ++
          [.tick 0 blockedWrites 10, .poll 0 .s2c (.fillBuf .pending)])
        (new (512 * 1024 * 1024))).sessions.lookup 0 = some session ∧
      (session.c2s.bufferLen, session.s2c.bufferLen, session.lease.reservedBytes) =
        (32768, 65536, 81920) :=
  Option.map_eq_some_iff.mp (by decide +kernel)

end Relays

end TupoProxy.DirectRelay
