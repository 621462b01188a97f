import TupoProxy.PoolWriters

/-!
# Reinit of the pool after a change of the endpoint map

A cycle connects to the endpoints of the new map, checks how many of the
desired DCs are covered, selects the stale writers and drains or drops them.
What the connecting step leaves behind is an argument, and so is every reading
of the clock.  The ratio test compares covered and total DC counts exactly.
-/

namespace TupoProxy.MiddleProxy

open List

abbrev DesiredMap := Table ℤ (Finset SocketAddr)

def meHardswapPendingTtlSecs : ℕ := 1800
def meForceCloseSafetyFallbackSecs : ℕ := 300

def MePool.forceCloseTimeout (pool : MePool) : Option ℕ :=
  some (if pool.mePoolForceCloseSecs = 0 then meForceCloseSafetyFallbackSecs
    else pool.mePoolForceCloseSecs)

def MePool.setLastDrainGate (routeQuorumOk redundancyOk : Bool)
    (blockReason : MeDrainGateReason) (now : ℕ) (pool : MePool) : MePool :=
  { pool with lastDrainGate := ⟨routeQuorumOk, redundancyOk, blockReason, now⟩ }

def MePool.isFamilyTemporarilySuppressed (family : IpFamily) (now : ℕ) (pool : MePool) :
    Bool :=
  match family with
  | .v4 => now < pool.suppressedUntilV4
  | .v6 => now < pool.suppressedUntilV6

def MePool.familyEnabledForDrainCoverage (family : IpFamily) (now : ℕ) (pool : MePool) :
    Bool :=
  let configured :=
    match family with
    | .v4 => pool.decision.ipv4Me
    | .v6 => pool.decision.ipv6Me
  configured && !pool.isFamilyTemporarilySuppressed family now

def addEndpoints (out : DesiredMap) (map : ProxyMap) : DesiredMap :=
  map.entries.foldl
    (fun out row =>
      out.insert row.1
        ((out.lookup row.1).getD ∅ ∪ (row.2.map fun addr => ⟨addr.1, addr.2⟩).toFinset))
    out

def MePool.desiredDcEndpoints (now : ℕ) (pool : MePool) : DesiredMap :=
  let out : DesiredMap := ∅
  let out :=
    if pool.familyEnabledForDrainCoverage .v4 now then addEndpoints out pool.proxyMapV4 else out
  if pool.familyEnabledForDrainCoverage .v6 now then addEndpoints out pool.proxyMapV6 else out

structure Coverage where
  covered : ℕ
  total : ℕ
  missingDc : List ℤ
  deriving DecidableEq

def Coverage.count (active : List (ℤ × SocketAddr)) (coverage : Coverage)
    (row : Sigma fun _ : ℤ => Finset SocketAddr) : Coverage :=
  if row.2 = ∅ then coverage
  else if ∃ addr ∈ row.2, (row.1, addr) ∈ active then
    { coverage with total := coverage.total + 1, covered := coverage.covered + 1 }
  else
    { coverage with
      total := coverage.total + 1
      missingDc := coverage.missingDc ++ [row.1] }

def coverageRatio (desiredByDc : DesiredMap) (active : List (ℤ × SocketAddr)) : Coverage :=
  let coverage := desiredByDc.entries.foldl (Coverage.count active) ⟨0, 0, []⟩
  { coverage with missingDc := coverage.missingDc.insertionSort (· ≤ ·) }

/-- The ratio, which is one when nothing is desired, is not below the minimum. -/
def Coverage.reaches (permille : ℕ) (coverage : Coverage) : Bool :=
  coverage.total = 0 ∨ min permille 1000 * coverage.total ≤ coverage.covered * 1000

def requiredDcs (desiredByDc : DesiredMap) : Finset ℤ :=
  ((desiredByDc.entries.filter fun row => row.2 ≠ ∅).map Sigma.fst).toFinset

def coversRequired (required : Finset ℤ) : Finset ℤ → List MeWriter → Bool
  | _, [] => false
  | covered, writer :: writers =>
    if writer.draining then coversRequired required covered writers
    else if writer.writerDc ∈ required then
      if (insert writer.writerDc covered).card = required.card then true
      else coversRequired required (insert writer.writerDc covered) writers
    else coversRequired required covered writers

def MePool.hasNonDrainingWriterPerDesiredDcGroup (now : ℕ) (pool : MePool) : Bool :=
  let required := requiredDcs (pool.desiredDcEndpoints now)
  if required = ∅ then true else coversRequired required ∅ pool.writers.entries

/-- The clock as a cycle reads it: before the map is read, after it, before the
stale writers are processed, and for each writer that is marked. -/
structure ReinitClock where
  mapAt : ℕ
  startedAt : ℕ
  dropAt : ℕ
  markAt : ℕ → ℕ

/-- What a cycle decides before it connects. -/
structure ReinitCycle where
  desiredByDc : DesiredMap
  nowEpochSecs : ℕ
  hardswap : Bool
  generation : ℕ

def ReinitCore.clearPendingHardswapState (reinit : ReinitCore) : ReinitCore :=
  { reinit with
    pendingHardswapGeneration := 0
    pendingHardswapStartedAtEpochSecs := 0
    pendingHardswapMapHash := 0
    warmGeneration := 0 }

def ReinitCore.selectGeneration (desiredMapHash now : ℕ) (reinit : ReinitCore) :
    ℕ × ReinitCore :=
  let nextGeneration := (reinit.generation + 1) % 2 ^ 64
  if reinit.hardswap then
    let pendingAgeSecs := now - reinit.pendingHardswapStartedAtEpochSecs
    let pendingTtlExpired :=
      0 < reinit.pendingHardswapStartedAtEpochSecs ∧ meHardswapPendingTtlSecs < pendingAgeSecs
    let pendingMatchesMap :=
      reinit.pendingHardswapMapHash ≠ 0 ∧ reinit.pendingHardswapMapHash = desiredMapHash
    if reinit.pendingHardswapGeneration ≠ 0 ∧
        reinit.activeGeneration ≤ reinit.pendingHardswapGeneration ∧
        pendingMatchesMap ∧ ¬ pendingTtlExpired then
      (reinit.pendingHardswapGeneration,
        { reinit with warmGeneration := reinit.pendingHardswapGeneration })
    else
      (nextGeneration,
        { reinit with
          generation := nextGeneration
          pendingHardswapGeneration := nextGeneration
          pendingHardswapStartedAtEpochSecs := now
          pendingHardswapMapHash := desiredMapHash
          warmGeneration := nextGeneration })
  else
    (nextGeneration,
      { reinit.clearPendingHardswapState with generation := nextGeneration })

def MePool.beginCycle (desiredMapHash : DesiredMap → ℕ) (clock : ReinitClock)
    (pool : MePool) : ReinitCycle × MePool :=
  let desiredByDc := pool.desiredDcEndpoints clock.mapAt
  let selected :=
    pool.reinit.selectGeneration (desiredMapHash desiredByDc) clock.startedAt
  (⟨desiredByDc, clock.startedAt, pool.reinit.hardswap, selected.1⟩,
    { pool with reinit := selected.2 })

def MeWriter.promote (generation : ℕ) (writer : MeWriter) : MeWriter :=
  { writer with
    contour :=
      if writer.draining = false ∧ writer.generation = generation then .active
      else writer.contour }

theorem MeWriter.promote_id (generation : ℕ) (writer : MeWriter) :
    (writer.promote generation).id = writer.id := rfl

def MePool.promoteWarmGenerationToActive (generation : ℕ) (pool : MePool) : MePool :=
  { pool with
    reinit := { pool.reinit with activeGeneration := generation, warmGeneration := 0 }
    writers := pool.writers.map (MeWriter.promote generation) (MeWriter.promote_id generation) }

/-- The addresses that count for the gate: in a hardswap only those of the
generation of the cycle. -/
def ReinitCycle.gateAddrs (cycle : ReinitCycle) (pool : MePool) : List (ℤ × SocketAddr) :=
  (pool.writers.entries.filter fun writer =>
    writer.draining = false ∧ (cycle.hardswap → writer.generation = cycle.generation)).map
    fun writer => (writer.writerDc, writer.addr)

def ReinitCycle.gate (cycle : ReinitCycle) (pool : MePool) : Coverage :=
  coverageRatio cycle.desiredByDc (cycle.gateAddrs pool)

def ReinitCycle.gateOpen (cycle : ReinitCycle) (pool : MePool) : Bool :=
  (cycle.gate pool).reaches pool.mePoolMinFreshRatioPermille

def ReinitCycle.desiredAddr (cycle : ReinitCycle) (dc : ℤ) (addr : SocketAddr) : Bool :=
  ∃ row ∈ cycle.desiredByDc.entries, row.1 = dc ∧ addr ∈ row.2

def ReinitCycle.isStale (cycle : ReinitCycle) (writer : MeWriter) : Bool :=
  writer.draining = false ∧
    if cycle.hardswap then writer.generation < cycle.generation
    else cycle.desiredAddr writer.writerDc writer.addr = false

def ReinitCycle.staleWriterIds (cycle : ReinitCycle) (pool : MePool) : List ℕ :=
  (pool.writers.entries.filter cycle.isStale).map MeWriter.id

def WriterPool.drainStale (markAt : ℕ → ℕ) (timeout : Option ℕ) (hardswap canDrop : Bool) :
    List ℕ → WriterPool → WriterPool
  | [], pool => pool
  | writerId :: writerIds, pool =>
    let marked :=
      pool.markWriterDrainingWithTimeout writerId (markAt writerId) timeout (!hardswap)
    drainStale markAt timeout hardswap canDrop writerIds
      (if canDrop then (marked.removeWriterAndCloseClients writerId).2 else marked)

def MePool.clearPending (hardswap : Bool) (pool : MePool) : MePool :=
  if hardswap then { pool with reinit := pool.reinit.clearPendingHardswapState } else pool

def ReinitCycle.promoted (cycle : ReinitCycle) (pool : MePool) : MePool :=
  if cycle.hardswap then pool.promoteWarmGenerationToActive cycle.generation else pool

/-- The cycle from the coverage gate on. -/
def ReinitCycle.drainPhase (cycle : ReinitCycle) (clock : ReinitClock) (pool : MePool) :
    Bool × MePool :=
  let redundancyOk := (cycle.gate pool).missingDc.isEmpty
  if cycle.gateOpen pool = false then
    (false, pool.setLastDrainGate false redundancyOk .coverageQuorum cycle.nowEpochSecs)
  else
    let pool := cycle.promoted
      (pool.setLastDrainGate true redundancyOk .opened cycle.nowEpochSecs)
    let staleWriterIds := cycle.staleWriterIds pool
    if staleWriterIds = [] then (true, pool.clearPending cycle.hardswap)
    else
      let canDropWithReplacement := pool.hasNonDrainingWriterPerDesiredDcGroup clock.dropAt
      let drained :=
        pool.toWriterPool.drainStale clock.markAt pool.forceCloseTimeout cycle.hardswap
          canDropWithReplacement staleWriterIds
      (true, { pool with toWriterPool := drained }.clearPending cycle.hardswap)

def MePool.zeroDowntimeReinitAfterMapChange (desiredMapHash : DesiredMap → ℕ)
    (clock : ReinitClock) (warmup : ReinitCycle → MePool → MePool) (pool : MePool) :
    Bool × MePool :=
  let begun := pool.beginCycle desiredMapHash clock
  if begun.1.desiredByDc.entries = [] then
    let reason : MeDrainGateReason :=
      if (pool.decision.ipv4Me && pool.isFamilyTemporarilySuppressed .v4 clock.startedAt) ||
          (pool.decision.ipv6Me && pool.isFamilyTemporarilySuppressed .v6 clock.startedAt) then
        .suppressionActive
      else .coverageQuorum
    (false, pool.setLastDrainGate false false reason clock.startedAt)
  else begun.1.drainPhase clock (warmup begun.1 begun.2)

/-! ## Coverage as a statement about DCs -/

def Desired (desiredByDc : DesiredMap) (dc : ℤ) : Prop :=
  ∃ endpoints, desiredByDc.lookup dc = some endpoints ∧ endpoints ≠ ∅

def HasActiveWriter (pool : WriterPool) (dc : ℤ) : Prop :=
  ∃ writer ∈ pool.writers, writer.draining = false ∧ writer.writerDc = dc

variable {desiredByDc : DesiredMap}

theorem mem_requiredDcs {dc : ℤ} : dc ∈ requiredDcs desiredByDc ↔ Desired desiredByDc dc := by
  rw [requiredDcs, mem_toFinset, mem_map]
  constructor
  · rintro ⟨⟨other, endpoints⟩, hrow, rfl⟩
    obtain ⟨hrow, hsome⟩ := mem_filter.mp hrow
    exact ⟨endpoints, AList.mem_lookup_iff.mpr hrow, of_decide_eq_true hsome⟩
  · rintro ⟨endpoints, hlookup, hsome⟩
    have hrow := AList.mem_lookup_iff.mp hlookup
    exact ⟨⟨dc, endpoints⟩, mem_filter.mpr ⟨hrow, decide_eq_true hsome⟩, rfl⟩

theorem coversRequired_iff {required covered : Finset ℤ} (hsub : covered ⊆ required)
    (hmissing : covered ≠ required) (writers : List MeWriter) :
    coversRequired required covered writers = true ↔ ∀ dc ∈ required, dc ∈ covered ∨
        ∃ writer ∈ writers, writer.draining = false ∧ writer.writerDc = dc := by
  induction writers generalizing covered with
  | nil =>
    constructor
    · intro hfalse
      cases hfalse
    · intro hall
      have hsup : required ⊆ covered := by
        intro dc hdc
        rcases hall dc hdc with hcovered | ⟨writer, hwriter, -⟩
        · exact hcovered
        · cases hwriter
      exact absurd (Finset.Subset.antisymm hsub hsup) hmissing
  | cons writer writers ih =>
    rw [coversRequired]
    by_cases hdraining : writer.draining = true
    · rw [if_pos hdraining, ih hsub hmissing]
      simp only [exists_mem_cons_iff, hdraining, Bool.true_eq_false, false_and, false_or]
    · rw [if_neg hdraining]
      have hactive : writer.draining = false := Bool.eq_false_of_not_eq_true hdraining
      by_cases hmem : writer.writerDc ∈ required
      · rw [if_pos hmem]
        have hinsert : insert writer.writerDc covered ⊆ required := Finset.insert_subset hmem hsub
        by_cases hcard : (insert writer.writerDc covered).card = required.card
        · rw [if_pos hcard]
          have hfull := Finset.eq_of_subset_of_card_le hinsert hcard.ge
          refine iff_of_true rfl ?_
          intro dc hdc
          rw [← hfull, Finset.mem_insert] at hdc
          rcases hdc with rfl | hdc
          · exact Or.inr ⟨writer, mem_cons_self, hactive, rfl⟩
          · exact Or.inl hdc
        · have hnot : insert writer.writerDc covered ≠ required := by
            intro hfull
            exact hcard (congrArg Finset.card hfull)
          rw [if_neg hcard, ih hinsert hnot]
          simp only [Finset.mem_insert, exists_mem_cons_iff, hactive, true_and,
            eq_comm, or_assoc, or_left_comm]
      · rw [if_neg hmem, ih hsub hmissing]
        have hother : ∀ dc ∈ required, writer.writerDc ≠ dc := by
          rintro dc hdc rfl
          exact hmem hdc
        refine forall₂_congr fun dc hdc => ?_
        simp only [exists_mem_cons_iff, hother dc hdc, and_false, false_or]

variable {now : ℕ} {pool : MePool}

/-- The check of the pool is the coverage of every desired DC. -/
theorem hasNonDrainingWriterPerDesiredDcGroup_iff :
    pool.hasNonDrainingWriterPerDesiredDcGroup now = true ↔
      ∀ dc, Desired (pool.desiredDcEndpoints now) dc → HasActiveWriter pool.toWriterPool dc := by
  rw [MePool.hasNonDrainingWriterPerDesiredDcGroup]
  simp only [← mem_requiredDcs]
  by_cases hnone : requiredDcs (pool.desiredDcEndpoints now) = ∅
  · rw [if_pos hnone, hnone]
    exact iff_of_true rfl fun dc hdc => absurd hdc (Finset.notMem_empty dc)
  · rw [if_neg hnone, coversRequired_iff (Finset.empty_subset _) (Ne.symm hnone)]
    simp only [Finset.notMem_empty, false_or]
    exact Iff.rfl

section Loop

variable {markAt : ℕ → ℕ} {timeout : Option ℕ} {hardswap : Bool} {writerIds : List ℕ}
  {pool : WriterPool} {writer : MeWriter}

theorem mem_drainStale_dropped :
    writer ∈ (pool.drainStale markAt timeout hardswap true writerIds).writers ↔
      writer ∈ pool.writers ∧ writer.id ∉ writerIds := by
  induction writerIds generalizing pool with
  | nil => exact ⟨fun hmem => ⟨hmem, not_mem_nil⟩, And.left⟩
  | cons writerId writerIds ih =>
    rw [WriterPool.drainStale, ih, if_pos rfl, mem_removeWriterAndCloseClients,
      mem_markWriterDraining, mem_cons, not_or]
    constructor
    · rintro ⟨⟨⟨hmem, hid⟩ | ⟨old, -, hid, rfl⟩, hne⟩, hrest⟩
      · exact ⟨hmem, hid, hrest⟩
      · exact absurd hid hne
    · rintro ⟨hmem, hid, hrest⟩
      exact ⟨⟨Or.inl ⟨hmem, hid⟩, hid⟩, hrest⟩

theorem mem_drainStale_kept :
    writer ∈ (pool.drainStale markAt timeout hardswap false writerIds).writers ↔
      (writer ∈ pool.writers ∧ writer.id ∉ writerIds) ∨ ∃ old ∈ pool.writers, old.id ∈ writerIds ∧
          old.beginDrain (markAt old.id) timeout (!hardswap) = writer := by
  induction writerIds generalizing pool with
  | nil => simp [WriterPool.drainStale]
  | cons writerId writerIds ih =>
    rw [WriterPool.drainStale, ih, if_neg Bool.false_ne_true]
    simp only [mem_markWriterDraining, mem_cons, not_or]
    constructor
    · rintro (⟨⟨hmem, hid⟩ | ⟨old, hold, rfl, rfl⟩, hrest⟩ |
        ⟨old, ⟨hold, hid⟩ | ⟨first, hfirst, rfl, rfl⟩, hrest, rfl⟩)
      · exact Or.inl ⟨hmem, hid, hrest⟩
      · exact Or.inr ⟨old, hold, Or.inl rfl, rfl⟩
      · exact Or.inr ⟨old, hold, Or.inr hrest, rfl⟩
      · exact Or.inr ⟨first, hfirst, Or.inl rfl, rfl⟩
    · rintro (⟨hmem, hid, hrest⟩ | ⟨old, hold, hid, rfl⟩)
      · exact Or.inl ⟨Or.inl ⟨hmem, hid⟩, hrest⟩
      · by_cases hfirst : old.id = writerId
        · subst hfirst
          by_cases hagain : old.id ∈ writerIds
          · exact Or.inr ⟨_, Or.inr ⟨old, hold, rfl, rfl⟩, hagain, rfl⟩
          · exact Or.inl ⟨Or.inr ⟨old, hold, rfl, rfl⟩, hagain⟩
        · exact Or.inr ⟨old, Or.inl ⟨hold, hfirst⟩, hid.resolve_left hfirst, rfl⟩

end Loop

section Cycle

variable {cycle : ReinitCycle} {pool : MePool}

theorem mem_staleWriterIds {writer : MeWriter} (hmem : writer ∈ pool.writers) :
    writer.id ∈ cycle.staleWriterIds pool ↔ cycle.isStale writer = true := by
  rw [ReinitCycle.staleWriterIds, mem_map]
  constructor
  · rintro ⟨other, hother, hid⟩
    obtain ⟨hother, hstale⟩ := mem_filter.mp hother
    rwa [← KeyedList.eq_of_key hother hmem hid]
  · intro hstale
    exact ⟨writer, mem_filter.mpr ⟨hmem, hstale⟩, rfl⟩

theorem exists_promoted {good : MeWriter → Prop}
    (hgood : ∀ generation writer, good (MeWriter.promote generation writer) ↔ good writer) :
    (∃ writer ∈ (cycle.promoted pool).writers, good writer) ↔
      ∃ writer ∈ pool.writers, good writer := by
  rw [ReinitCycle.promoted]
  split
  · constructor
    · rintro ⟨writer, hmem, hwriter⟩
      obtain ⟨old, hold, rfl⟩ := (KeyedList.mem_map (MeWriter.promote_id _)).mp hmem
      exact ⟨old, hold, (hgood _ old).mp hwriter⟩
    · rintro ⟨writer, hmem, hwriter⟩
      exact ⟨_, (KeyedList.mem_map (MeWriter.promote_id _)).mpr ⟨writer, hmem, rfl⟩,
        (hgood _ writer).mpr hwriter⟩
  · exact Iff.rfl

theorem hasNonDraining_promoted {now : ℕ} :
    (cycle.promoted pool).hasNonDrainingWriterPerDesiredDcGroup now =
      pool.hasNonDrainingWriterPerDesiredDcGroup now := by
  have hmap : (cycle.promoted pool).desiredDcEndpoints now = pool.desiredDcEndpoints now := by
    rw [ReinitCycle.promoted]
    split
    · rfl
    · rfl
  rw [Bool.eq_iff_iff, hasNonDrainingWriterPerDesiredDcGroup_iff,
    hasNonDrainingWriterPerDesiredDcGroup_iff, hmap]
  refine forall₂_congr fun dc _ => ?_
  exact exists_promoted fun _ _ => Iff.rfl

theorem clearPending_writers (hardswap : Bool) (pool : MePool) :
    (pool.clearPending hardswap).writers = pool.writers := by
  rw [MePool.clearPending]
  split
  · rfl
  · rfl

theorem drainPhase_closed {clock : ReinitClock} (hclosed : cycle.gateOpen pool = false) :
    (cycle.drainPhase clock pool).2.writers = pool.writers := by
  rw [ReinitCycle.drainPhase, if_pos hclosed]
  rfl

/-- The pool on which an open cycle selects the stale writers. -/
def ReinitCycle.opened (cycle : ReinitCycle) (pool : MePool) : MePool :=
  cycle.promoted
    (pool.setLastDrainGate true (cycle.gate pool).missingDc.isEmpty .opened cycle.nowEpochSecs)

theorem drainPhase_open {clock : ReinitClock} (hopen : cycle.gateOpen pool = true) :
    (cycle.drainPhase clock pool).2.writers =
      ((cycle.opened pool).toWriterPool.drainStale clock.markAt
        (cycle.opened pool).forceCloseTimeout cycle.hardswap
        ((cycle.opened pool).hasNonDrainingWriterPerDesiredDcGroup clock.dropAt)
        (cycle.staleWriterIds (cycle.opened pool))).writers := by
  rw [ReinitCycle.drainPhase, if_neg (by rw [hopen]; exact nofun)]
  rw [← ReinitCycle.opened]
  by_cases hnone : cycle.staleWriterIds (cycle.opened pool) = []
  · rw [if_pos hnone, hnone, clearPending_writers]
    rfl
  · rw [if_neg hnone, clearPending_writers]

theorem exists_opened {good : MeWriter → Prop}
    (hgood : ∀ generation writer, good (MeWriter.promote generation writer) ↔ good writer) :
    (∃ writer ∈ (cycle.opened pool).writers, good writer) ↔ ∃ writer ∈ pool.writers, good writer :=
  exists_promoted hgood

theorem opened_forceCloseTimeout :
    (cycle.opened pool).forceCloseTimeout = pool.forceCloseTimeout := by
  rw [ReinitCycle.opened, ReinitCycle.promoted]
  split
  · rfl
  · rfl

theorem exists_drainPhase {clock : ReinitClock} {good : MeWriter → Prop}
    (hgood : ∀ generation writer, good (MeWriter.promote generation writer) ↔ good writer)
    (hdrained : ∀ generation now timeout allow writer,
      good ((MeWriter.promote generation writer).beginDrain now timeout allow) ↔
        good (writer.beginDrain now timeout allow)) (hopen : cycle.gateOpen pool = true) :
    (∃ writer ∈ (cycle.drainPhase clock pool).2.writers, good writer) ↔
      (∃ writer ∈ pool.writers, cycle.isStale writer = false ∧ good writer) ∨
        pool.hasNonDrainingWriterPerDesiredDcGroup clock.dropAt = false ∧
          ∃ writer ∈ pool.writers, cycle.isStale writer = true ∧
            good (writer.beginDrain (clock.markAt writer.id) pool.forceCloseTimeout
              (!cycle.hardswap)) := by
  have hcan : (cycle.opened pool).hasNonDrainingWriterPerDesiredDcGroup clock.dropAt =
      pool.hasNonDrainingWriterPerDesiredDcGroup clock.dropAt := hasNonDraining_promoted
  have hfresh : (∃ writer ∈ (cycle.opened pool).writers,
        writer.id ∉ cycle.staleWriterIds (cycle.opened pool) ∧ good writer) ↔
      ∃ writer ∈ pool.writers, cycle.isStale writer = false ∧ good writer := by
    refine Iff.trans ?_ (@exists_opened cycle _
      (fun writer => cycle.isStale writer = false ∧ good writer) fun generation writer =>
        and_congr Iff.rfl (hgood generation writer))
    refine exists_congr fun writer => and_congr_right fun hmem => ?_
    rw [mem_staleWriterIds hmem, Bool.not_eq_true]
  have hstale : (∃ writer ∈ (cycle.opened pool).writers,
        writer.id ∈ cycle.staleWriterIds (cycle.opened pool) ∧
          good (writer.beginDrain (clock.markAt writer.id) pool.forceCloseTimeout
            (!cycle.hardswap))) ↔
      ∃ writer ∈ pool.writers, cycle.isStale writer = true ∧
        good (writer.beginDrain (clock.markAt writer.id) pool.forceCloseTimeout
          (!cycle.hardswap)) := by
    refine Iff.trans ?_ (@exists_opened cycle _
      (fun writer => cycle.isStale writer = true ∧
        good (writer.beginDrain (clock.markAt writer.id) pool.forceCloseTimeout
          (!cycle.hardswap))) fun generation writer =>
        and_congr Iff.rfl (hdrained generation _ _ _ writer))
    refine exists_congr fun writer => and_congr_right fun hmem => ?_
    rw [mem_staleWriterIds hmem]
  rw [drainPhase_open hopen, hcan, opened_forceCloseTimeout, ← hfresh, ← hstale]
  cases pool.hasNonDrainingWriterPerDesiredDcGroup clock.dropAt with
  | true =>
    simp only [mem_drainStale_dropped, Bool.true_eq_false, false_and, or_false, and_assoc]
  | false =>
    simp only [mem_drainStale_kept, true_and]
    constructor
    · rintro ⟨writer, ⟨hmem, hid⟩ | ⟨old, hold, hid, rfl⟩, hwriter⟩
      · exact Or.inl ⟨writer, hmem, hid, hwriter⟩
      · exact Or.inr ⟨old, hold, hid, hwriter⟩
    · rintro (⟨writer, hmem, hid, hwriter⟩ | ⟨old, hold, hid, hwriter⟩)
      · exact ⟨writer, Or.inl ⟨hmem, hid⟩, hwriter⟩
      · exact ⟨_, Or.inr ⟨old, hold, hid, rfl⟩, hwriter⟩

end Cycle

/-- A writer that clients can be bound to: it is not draining, or it is kept as
a fallback. -/
def MeWriter.Serving (writer : MeWriter) : Prop :=
  writer.draining = false ∨ writer.allowDrainFallback = true

def HasServingWriter (pool : WriterPool) (dc : ℤ) : Prop :=
  ∃ writer ∈ pool.writers, writer.Serving ∧ writer.writerDc = dc

/-- The desired DCs that had a writer keep one. -/
def KeepsCovered (desiredByDc : DesiredMap) (before after : WriterPool) : Prop :=
  ∀ dc, Desired desiredByDc dc → HasActiveWriter before dc → HasServingWriter after dc

def Replaced (cycle : ReinitCycle) (pool : MePool) : Prop :=
  ∀ dc, Desired cycle.desiredByDc dc → HasActiveWriter pool.toWriterPool dc →
    ∃ writer ∈ pool.writers, cycle.isStale writer = false ∧ writer.Serving ∧
      writer.writerDc = dc

theorem beginDrain_serving {timeout : Option ℕ} {allow : Bool}
    {writer : MeWriter} : (writer.beginDrain now timeout allow).Serving ↔ allow = true := by
  simp [MeWriter.Serving, MeWriter.beginDrain]

/-- The drain keeps every covered DC exactly if the gate is shut, it drains nothing, or the
fresh writers replace what it drains. -/
theorem drainPhase_keeps_iff {cycle : ReinitCycle} {clock : ReinitClock} :
    KeepsCovered cycle.desiredByDc pool.toWriterPool (cycle.drainPhase clock pool).2.toWriterPool ↔
      cycle.gateOpen pool = false ∨ (cycle.hardswap = false ∧
          pool.hasNonDrainingWriterPerDesiredDcGroup clock.dropAt = false) ∨
        Replaced cycle pool := by
  cases hgate : cycle.gateOpen pool with
  | false =>
    refine iff_of_true ?_ (Or.inl rfl)
    intro dc _ hactive
    obtain ⟨writer, hmem, hactive, hdc⟩ := hactive
    refine ⟨writer, ?_, Or.inl hactive, hdc⟩
    rw [drainPhase_closed hgate]
    exact hmem
  | true =>
    have hleft : ∀ dc, HasServingWriter (cycle.drainPhase clock pool).2.toWriterPool dc ↔ _ :=
      fun dc => @exists_drainPhase cycle pool clock
        (fun writer => writer.Serving ∧ writer.writerDc = dc) (fun _ _ => Iff.rfl)
        (fun _ _ _ _ _ => Iff.rfl) hgate
    simp only [KeepsCovered, Replaced, hleft, beginDrain_serving, Bool.not_eq_true',
      Bool.true_eq_false, false_or]
    constructor
    · intro hkeeps
      by_cases hfallback : cycle.hardswap = false ∧
          pool.hasNonDrainingWriterPerDesiredDcGroup clock.dropAt = false
      · exact Or.inl hfallback
      · right
        intro dc hdesired hactive
        rcases hkeeps dc hdesired hactive with hfresh | ⟨hcan, writer, -, -, hhardswap, -⟩
        · exact hfresh
        · exact absurd ⟨hhardswap, hcan⟩ hfallback
    · rintro (⟨hhardswap, hcan⟩ | hreplaced) dc hdesired hactive
      · obtain ⟨writer, hmem, hnot, hdc⟩ := hactive
        cases hstale : cycle.isStale writer with
        | false => exact Or.inl ⟨writer, hmem, hstale, Or.inl hnot, hdc⟩
        | true => exact Or.inr ⟨hcan, writer, hmem, hstale, hhardswap, hdc⟩
      · exact Or.inl (hreplaced dc hdesired hactive)

theorem not_desired_empty (hnone : desiredByDc.entries = [])
    (dc : ℤ) : ¬ Desired desiredByDc dc := by
  rintro ⟨endpoints, hlookup, -⟩
  have hrow := AList.mem_lookup_iff.mp hlookup
  rw [hnone] at hrow
  cases hrow

/-- A cycle keeps a writer for every desired DC that had one exactly if it does
not get past its gate, or keeps the stale writers as a fallback, or every such
DC has a writer that is not stale. -/
theorem zeroDowntimeReinit_keeps_iff (desiredMapHash : DesiredMap → ℕ) (clock : ReinitClock)
    (warmup : ReinitCycle → MePool → MePool) (pool : MePool) :
    let begun := pool.beginCycle desiredMapHash clock
    let selected := warmup begun.1 begun.2
    KeepsCovered begun.1.desiredByDc selected.toWriterPool
        (pool.zeroDowntimeReinitAfterMapChange desiredMapHash clock warmup).2.toWriterPool ↔
      begun.1.gateOpen selected = false ∨ (begun.1.hardswap = false ∧
          ∃ dc, Desired (selected.desiredDcEndpoints clock.dropAt) dc ∧
            ¬ HasActiveWriter selected.toWriterPool dc) ∨ Replaced begun.1 selected := by
  intro begun selected
  have hcan : (∃ dc, Desired (selected.desiredDcEndpoints clock.dropAt) dc ∧
        ¬ HasActiveWriter selected.toWriterPool dc) ↔
      selected.hasNonDrainingWriterPerDesiredDcGroup clock.dropAt = false := by
    rw [← Bool.not_eq_true, hasNonDrainingWriterPerDesiredDcGroup_iff]
    simp only [not_forall, exists_prop]
  rw [hcan]
  by_cases hnone : begun.1.desiredByDc.entries = []
  · refine iff_of_true ?_ (Or.inr (Or.inr ?_))
    · intro dc hdesired
      exact absurd hdesired (not_desired_empty hnone dc)
    · intro dc hdesired
      exact absurd hdesired (not_desired_empty hnone dc)
  · rw [MePool.zeroDowntimeReinitAfterMapChange]
    rw [if_neg hnone]
    exact drainPhase_keeps_iff

/-! ## A DC that loses its only writer -/

def dcAddr (dc : ℕ) : SocketAddr := ⟨.v4 149 154 175 (UInt8.ofNat dc), 8888⟩

def dcWriter (id generation dc : ℕ) : MeWriter where
  id := id
  addr := dcAddr dc
  sourceIp := .v4 198 51 100 1
  writerDc := dc
  generation := generation
  contour := .active
  draining := false
  drainingStartedAtEpochSecs := 0
  drainDeadlineEpochSecs := 0
  allowDrainFallback := false

def fiveDcs : ProxyMap :=
  ⟨[⟨1, [((dcAddr 1).ip, 8888)]⟩, ⟨2, [((dcAddr 2).ip, 8888)]⟩, ⟨3, [((dcAddr 3).ip, 8888)]⟩,
    ⟨4, [((dcAddr 4).ip, 8888)]⟩, ⟨5, [((dcAddr 5).ip, 8888)]⟩],
    (by decide : ([1, 2, 3, 4, 5] : List ℤ).Nodup)⟩

def firstWriters : Writers :=
  ⟨[dcWriter 1 1 1, dcWriter 2 1 2, dcWriter 3 1 3, dcWriter 4 1 4, dcWriter 5 1 5], by decide⟩

/-- The middle-end of DC 5 does not answer, so the new generation covers the
other four DCs only. -/
def warmedWriters : Writers :=
  ⟨[dcWriter 1 1 1, dcWriter 2 1 2, dcWriter 3 1 3, dcWriter 4 1 4, dcWriter 5 1 5,
    dcWriter 6 2 1, dcWriter 7 2 2, dcWriter 8 2 3, dcWriter 9 2 4], by decide⟩

def hardswapPool : MePool where
  writers := firstWriters
  connCount := 5
  drainingActiveRuntime := 0
  proxyMapV4 := fiveDcs
  proxyMapV6 := ∅
  decision := ⟨true, false⟩
  suppressedUntilV4 := 0
  suppressedUntilV6 := 0
  reinit := ⟨1, 1, 0, 0, 0, 0, true⟩
  mePoolMinFreshRatioPermille := 800
  mePoolForceCloseSecs := 300
  lastDrainGate := ⟨false, false, .opened, 0⟩

def noonClock : ReinitClock := ⟨1000, 1000, 1000, fun _ => 1000⟩

/-- With the default settings, four of five DCs pass the gate.  The only writer
of DC 5 counts as its own replacement and is dropped with the others. -/
theorem zeroDowntimeReinit_empties_dc :
    let warmup := fun (_ : ReinitCycle) (pool : MePool) =>
      { pool with writers := warmedWriters, connCount := 9 }
    let begun := hardswapPool.beginCycle (fun _ => 7) noonClock
    let selected := warmup begun.1 begun.2
    let cycle := hardswapPool.zeroDowntimeReinitAfterMapChange (fun _ => 7) noonClock warmup
    Desired begun.1.desiredByDc 5 ∧ HasActiveWriter selected.toWriterPool 5 ∧
      cycle.1 = true ∧ cycle.2.writers.entries.map MeWriter.writerDc = [1, 2, 3, 4] := by
  refine ⟨⟨{dcAddr 5}, ?_, ?_⟩, ⟨dcWriter 5 1 5, ?_, rfl, rfl⟩, ?_, ?_⟩
  · decide +kernel
  · decide
  · decide
  · decide +kernel
  · decide +kernel

end TupoProxy.MiddleProxy
