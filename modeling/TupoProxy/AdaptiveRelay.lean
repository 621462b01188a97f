import TupoProxy.ByteWords
import TupoProxy.DirectBudget
import TupoProxy.Runs

/-!
# Direct sessions with resizable copy buffers

A direct session copies through two buffers whose sizes follow the tier of its
controller.  A promotion reserves the sizes of the new tier before either
reader grows, a demotion takes effect in each direction when the buffer of
that direction has drained, and the lease gives bytes back only when a
reconciliation finds smaller buffers.  All sessions share one budget.

Rates are rational numbers here and durations are nanoseconds.
-/

namespace TupoProxy.DirectRelay

open Runs

inductive AdaptiveTier where
  | base
  | tier1
  | tier2
  | tier3
  deriving Repr, DecidableEq

namespace AdaptiveTier

def promote : AdaptiveTier → AdaptiveTier
  | .base => .tier1
  | .tier1 => .tier2
  | .tier2 => .tier3
  | .tier3 => .tier3

def demote : AdaptiveTier → AdaptiveTier
  | .base => .base
  | .tier1 => .base
  | .tier2 => .tier1
  | .tier3 => .tier2

def asU8 : AdaptiveTier → ℕ
  | .base => 0
  | .tier1 => 1
  | .tier2 => 2
  | .tier3 => 3

theorem promote_of_ne {tier : AdaptiveTier} (hne : tier ≠ tier.promote) :
    tier.asU8 < tier.promote.asU8 := by
  cases tier with
  | base | tier1 | tier2 => decide
  | tier3 => exact absurd rfl hne

theorem demote_le (tier : AdaptiveTier) : tier.demote.asU8 ≤ tier.asU8 := by
  cases tier <;> decide

end AdaptiveTier

inductive TierTransitionReason where
  | softConfirmed
  | hardPressure
  | quietDemotion
  | sustainedWritePressure
  deriving Repr, DecidableEq

structure TierTransition where
  source : AdaptiveTier
  target : AdaptiveTier
  reason : TierTransitionReason
  deriving Repr, DecidableEq

structure RelaySignalSample where
  c2sBytes : ℕ
  s2cRequestedBytes : ℕ
  s2cWrittenBytes : ℕ
  s2cWriteOps : ℕ
  s2cPartialWrites : ℕ
  s2cConsecutivePendingWrites : ℕ
  deriving Repr, DecidableEq

def emaAlpha : ℚ := 0.2
def throughputUpBps : ℚ := 8000000
def throughputDownBps : ℚ := 2000000
def ratioConfirmThreshold : ℚ := 1.12
def hardPartialRatioThreshold : ℚ := 0.25
def hardPendingThreshold : ℕ := 3

def nanosPerSec : ℕ := 10 ^ 9
def tier1HoldNanos : ℕ := 2 * nanosPerSec
def tier2HoldNanos : ℕ := 1 * nanosPerSec
def quietDemoteNanos : ℕ := 120 * nanosPerSec
def hardCooldownNanos : ℕ := 5 * nanosPerSec
def sustainedPressureDemoteNanos : ℕ := 30 * nanosPerSec
def pressureDemoteCooldownNanos : ℕ := 60 * nanosPerSec

/-- `f64::EPSILON`. -/
def f64Epsilon : ℚ := 1 / 2 ^ 52

def ema (prev value : ℚ) : ℚ :=
  if prev ≤ f64Epsilon then value else prev * (1 - emaAlpha) + value * emaAlpha

structure SessionAdaptiveController where
  tier : AdaptiveTier
  maxTierSeen : AdaptiveTier
  throughputEmaBps : ℚ
  incomingEmaBps : ℚ
  outgoingEmaBps : ℚ
  tier1Hold : ℕ
  tier2Hold : ℕ
  quiet : ℕ
  hardCooldown : ℕ
  sustainedPressure : ℕ
  deriving Repr, DecidableEq

namespace SessionAdaptiveController

def new (initialTier : AdaptiveTier) : SessionAdaptiveController :=
  ⟨initialTier, initialTier, 0, 0, 0, 0, 0, 0, 0, 0⟩

def promote (controller : SessionAdaptiveController) (reason : TierTransitionReason)
    (hardCooldown : ℕ) : SessionAdaptiveController × Option TierTransition :=
  let source := controller.tier
  let target := source.promote
  if source = target then (controller, none)
  else
    ({ controller with
        tier := target
        maxTierSeen :=
          if target.asU8 < controller.maxTierSeen.asU8 then controller.maxTierSeen else target
        hardCooldown := hardCooldown
        tier1Hold := 0
        tier2Hold := 0
        quiet := 0 },
      some ⟨source, target, reason⟩)

def demote (controller : SessionAdaptiveController) (reason : TierTransitionReason)
    (hardCooldown : ℕ) : SessionAdaptiveController × Option TierTransition :=
  let source := controller.tier
  let target := source.demote
  if source = target then (controller, none)
  else
    ({ controller with
        tier := target
        hardCooldown := hardCooldown
        tier1Hold := 0
        tier2Hold := 0 },
      some ⟨source, target, reason⟩)

def tickNanos (tickSecs : ℚ) : ℕ := (round (tickSecs * nanosPerSec)).toNat

/-- The smoothed rates after one period, before the holds are looked at. -/
def measure (controller : SessionAdaptiveController) (sample : RelaySignalSample)
    (tickSecs : ℚ) : SessionAdaptiveController :=
  let c2sBps := (sample.c2sBytes * 8 : ℚ) / tickSecs
  let incomingBps := (sample.s2cRequestedBytes * 8 : ℚ) / tickSecs
  let outgoingBps := (sample.s2cWrittenBytes * 8 : ℚ) / tickSecs
  { controller with
    hardCooldown := controller.hardCooldown - tickNanos tickSecs
    throughputEmaBps := ema controller.throughputEmaBps (max c2sBps outgoingBps)
    incomingEmaBps := ema controller.incomingEmaBps incomingBps
    outgoingEmaBps := ema controller.outgoingEmaBps outgoingBps }

def tier2Now (controller : SessionAdaptiveController) : Bool :=
  let ratio :=
    if controller.outgoingEmaBps ≤ f64Epsilon then 0
    else controller.incomingEmaBps / controller.outgoingEmaBps
  ratioConfirmThreshold ≤ ratio

def hold (controller : SessionAdaptiveController) (tick : ℕ) : SessionAdaptiveController :=
  { controller with
    tier1Hold :=
      if throughputUpBps ≤ controller.throughputEmaBps then controller.tier1Hold + tick else 0
    tier2Hold := if controller.tier2Now then controller.tier2Hold + tick else 0 }

def hardNow (sample : RelaySignalSample) : Bool :=
  let partialRatio : ℚ :=
    if sample.s2cWriteOps = 0 then 0 else sample.s2cPartialWrites / sample.s2cWriteOps
  hardPendingThreshold ≤ sample.s2cConsecutivePendingWrites ||
    hardPartialRatioThreshold ≤ partialRatio

/-- The part of `observe` after the pressure check that may end it. -/
def conclude (controller : SessionAdaptiveController) (hard : Bool) (tick : ℕ) :
    SessionAdaptiveController × Option TierTransition :=
  if hard ∧ controller.hardCooldown = 0 then
    controller.promote .hardPressure hardCooldownNanos
  else if tier1HoldNanos ≤ controller.tier1Hold ∧ tier2HoldNanos ≤ controller.tier2Hold then
    controller.promote .softConfirmed 0
  else if controller.throughputEmaBps < throughputDownBps ∧ ¬ controller.tier2Now ∧ ¬ hard then
    let quiet := controller.quiet + tick
    if quietDemoteNanos ≤ quiet then
      { controller with quiet := 0 }.demote .quietDemotion 0
    else ({ controller with quiet := quiet }, none)
  else ({ controller with quiet := 0 }, none)

/-- One sample of the controller.  The rates, `f64` in the source, are exact rationals here. -/
def observe (controller : SessionAdaptiveController) (sample : RelaySignalSample)
    (tickSecs : ℚ) : SessionAdaptiveController × Option TierTransition :=
  if tickSecs ≤ f64Epsilon then (controller, none)
  else
    let tick := tickNanos tickSecs
    let held := (controller.measure sample tickSecs).hold tick
    let hard := hardNow sample
    if hard then
      let pressed := { held with sustainedPressure := held.sustainedPressure + tick }
      if sustainedPressureDemoteNanos ≤ pressed.sustainedPressure then
        { pressed with sustainedPressure := 0 }.demote .sustainedWritePressure
          pressureDemoteCooldownNanos
      else pressed.conclude hard tick
    else { held with sustainedPressure := 0 }.conclude hard tick

inductive Moves (tier : AdaptiveTier) :
    SessionAdaptiveController × Option TierTransition → Prop where
  | stay (after : SessionAdaptiveController) (htier : after.tier = tier) :
      Moves tier (after, none)
  | up (after : SessionAdaptiveController) (reason : TierTransitionReason)
      (htier : after.tier = tier.promote) (hup : tier.asU8 < tier.promote.asU8) :
      Moves tier (after, some ⟨tier, tier.promote, reason⟩)
  | down (after : SessionAdaptiveController) (reason : TierTransitionReason)
      (htier : after.tier = tier.demote) :
      Moves tier (after, some ⟨tier, tier.demote, reason⟩)

variable {controller : SessionAdaptiveController} {tier : AdaptiveTier}

section

variable (htier : controller.tier = tier) (reason : TierTransitionReason) (hardCooldown : ℕ)
include htier

theorem promote_moves : Moves tier (controller.promote reason hardCooldown) := by
  subst htier
  simp only [promote]
  split
  · exact .stay _ rfl
  · rename_i hne
    exact .up _ _ rfl (AdaptiveTier.promote_of_ne hne)

theorem demote_moves : Moves tier (controller.demote reason hardCooldown) := by
  subst htier
  simp only [demote]
  split
  · exact .stay _ rfl
  · exact .down _ _ rfl

end

theorem conclude_moves (htier : controller.tier = tier) (hard : Bool) (tick : ℕ) :
    Moves tier (controller.conclude hard tick) := by
  simp only [conclude]
  split
  · exact promote_moves htier _ _
  split
  · exact promote_moves htier _ _
  split
  · split
    · apply demote_moves
      exact htier
    · exact .stay _ htier
  · exact .stay _ htier

theorem observe_moves (controller : SessionAdaptiveController) (sample : RelaySignalSample)
    (tickSecs : ℚ) : Moves controller.tier (controller.observe sample tickSecs) := by
  simp only [observe]
  split
  · exact .stay _ rfl
  split
  · split
    · apply demote_moves
      rfl
    · apply conclude_moves
      rfl
  · apply conclude_moves
    rfl

end SessionAdaptiveController

/-- The configured sizes, within the ranges that the loader accepts. -/
structure CopyCeilings where
  c2s : ℕ
  s2c : ℕ
  c2s_range : 4096 ≤ c2s ∧ c2s ≤ 1024 * 1024
  s2c_range : 8192 ≤ s2c ∧ s2c ≤ 2 * 1024 * 1024

def directDirectionSize (tier : AdaptiveTier) (base ceiling : ℕ) : ℕ :=
  let target :=
    match tier with
    | .base => base
    | .tier1 => ceiling / 4
    | .tier2 => ceiling / 2
    | .tier3 => ceiling
  max (min (max target base) (max ceiling base)) 1

def directCopyBuffersForTierWithCeilings (tier : AdaptiveTier) (base : ℕ × ℕ)
    (ceilings : CopyCeilings) : ℕ × ℕ :=
  (directDirectionSize tier base.1 ceilings.c2s, directDirectionSize tier base.2 ceilings.s2c)

theorem directDirectionSize_pos (tier : AdaptiveTier) (base ceiling : ℕ) :
    1 ≤ directDirectionSize tier base ceiling :=
  le_max_right _ _

theorem directDirectionSize_base (base ceiling : ℕ) :
    directDirectionSize .base base ceiling = max base 1 := by
  simp only [directDirectionSize]
  omega

theorem directDirectionSize_le {tier : AdaptiveTier} {base ceiling limit : ℕ}
    (hbase : base ≤ limit) (hceiling : ceiling ≤ limit) (hlimit : 1 ≤ limit) :
    directDirectionSize tier base ceiling ≤ limit := by
  simp only [directDirectionSize]
  omega

theorem directDirectionSize_mono {lower upper : AdaptiveTier} {base ceiling : ℕ}
    (hle : lower.asU8 ≤ upper.asU8) :
    directDirectionSize lower base ceiling ≤ directDirectionSize upper base ceiling := by
  cases lower <;> cases upper <;>
    simp only [AdaptiveTier.asU8, directDirectionSize] at hle ⊢ <;> omega

def initialBaseSizes (ceilings : CopyCeilings) (maxConnections targetBytes : ℕ) : ℕ × ℕ :=
  let configuredTotal := saturatingAdd ceilings.c2s ceilings.s2c
  let configuredWorstCase := saturatingMul configuredTotal maxConnections
  if maxConnections ≠ 0 ∧ configuredWorstCase ≤ targetBytes then (ceilings.c2s, ceilings.s2c)
  else (min directBaseC2sBytes ceilings.c2s, min directBaseS2cBytes ceilings.s2c)

section

variable (ceilings : CopyCeilings) (maxConnections targetBytes : ℕ)

theorem initialBaseSizes_le :
    (initialBaseSizes ceilings maxConnections targetBytes).1 ≤ ceilings.c2s ∧
      (initialBaseSizes ceilings maxConnections targetBytes).2 ≤ ceilings.s2c := by
  simp only [initialBaseSizes]
  split
  · exact ⟨le_rfl, le_rfl⟩
  · exact ⟨min_le_right _ _, min_le_right _ _⟩

theorem one_le_initialBaseSizes :
    1 ≤ (initialBaseSizes ceilings maxConnections targetBytes).1 ∧
      1 ≤ (initialBaseSizes ceilings maxConnections targetBytes).2 := by
  have hc2s := ceilings.c2s_range
  have hs2c := ceilings.s2c_range
  simp only [initialBaseSizes]
  split
  · omega
  · simp only [directBaseC2sBytes, directBaseS2cBytes]
    omega

end

/-! ## Readers -/

structure AdaptiveBufferState where
  desiredBytes : ℕ
  actualBytes : ℕ
  desired_pos : 1 ≤ desiredBytes

def AdaptiveBufferState.new (bytes : ℕ) : AdaptiveBufferState :=
  ⟨max bytes 1, max bytes 1, le_max_right _ _⟩

/-- What a reader below answers to one poll: the bytes it adds to the buffer
that it is given, which are none at the end of the stream. -/
inductive PollRead where
  | pending
  | failed
  | ready (bytes : List Byte)
  deriving Repr, DecidableEq

/-- A reader never adds more than the buffer has room for. -/
def PollRead.within (room : ℕ) : PollRead → PollRead
  | .ready bytes => .ready (bytes.take room)
  | other => other

/-- The bytes of the boxed buffer up to `cap` are `filled`; nothing behind them
is ever read. -/
structure AdaptiveBufReader where
  bufferLen : ℕ
  filled : List Byte
  pos : ℕ
  state : AdaptiveBufferState
  bufferLen_eq : bufferLen = state.actualBytes
  pos_le : pos ≤ filled.length
  filled_le : filled.length ≤ bufferLen

namespace AdaptiveBufReader

def new (bytes : ℕ) : AdaptiveBufReader :=
  ⟨max bytes 1, [], 0, .new bytes, rfl, le_rfl, Nat.zero_le _⟩

def cap (reader : AdaptiveBufReader) : ℕ := reader.filled.length

def resizeIfDrained (reader : AdaptiveBufReader) : AdaptiveBufReader :=
  if reader.pos ≠ reader.cap then reader
  else
    let desired := max reader.state.desiredBytes 1
    if desired = reader.bufferLen then reader
    else
      { bufferLen := desired
        filled := []
        pos := 0
        state := { reader.state with actualBytes := desired }
        bufferLen_eq := rfl
        pos_le := le_rfl
        filled_le := Nat.zero_le _ }

/-- Serves buffered bytes first, and otherwise lets the reader below write
straight into the output. -/
def pollRead (reader : AdaptiveBufReader) (remaining : ℕ) (inner : PollRead) :
    AdaptiveBufReader × PollRead :=
  if reader.pos < reader.cap then
    let available := reader.filled.drop reader.pos
    let copied := min available.length remaining
    ({ reader with
        pos := reader.pos + copied
        pos_le := by
          have havailable : available.length = reader.filled.length - reader.pos :=
            List.length_drop
          have hpos := reader.pos_le
          omega },
      .ready (available.take copied))
  else (reader.resizeIfDrained, inner.within remaining)

def pollFillBuf (reader : AdaptiveBufReader) (inner : PollRead) :
    AdaptiveBufReader × PollRead :=
  if reader.pos < reader.cap then (reader, .ready (reader.filled.drop reader.pos))
  else
    let reader := reader.resizeIfDrained
    match inner with
    | .ready bytes =>
      let filled := bytes.take reader.bufferLen
      ({ reader with
          filled := filled
          pos := 0
          pos_le := Nat.zero_le _
          filled_le := List.length_take_le _ _ },
        .ready filled)
    | .failed => (reader, .failed)
    | .pending => (reader, .pending)

def consume (reader : AdaptiveBufReader) (amount : ℕ) : AdaptiveBufReader :=
  { reader with
    pos := min (saturatingAdd reader.pos amount) reader.cap
    pos_le := min_le_right _ _ }

def setDesired (reader : AdaptiveBufReader) (bytes : ℕ) : AdaptiveBufReader :=
  { reader with
    state := { reader.state with desiredBytes := max bytes 1, desired_pos := le_max_right _ _ }
    bufferLen_eq := reader.bufferLen_eq }

def covered (reader : AdaptiveBufReader) : ℕ :=
  max reader.state.actualBytes reader.state.desiredBytes

def Polled (reader after : AdaptiveBufReader) : Prop :=
  after.state.desiredBytes = reader.state.desiredBytes ∧ after.covered ≤ reader.covered

variable (reader : AdaptiveBufReader)

theorem resizeIfDrained_polled : reader.Polled reader.resizeIfDrained := by
  have hpos := reader.state.desired_pos
  simp only [resizeIfDrained]
  split
  · exact ⟨rfl, le_rfl⟩
  split
  · exact ⟨rfl, le_rfl⟩
  · refine ⟨rfl, ?_⟩
    simp only [covered]
    omega

theorem pollRead_polled (remaining : ℕ) (inner : PollRead) :
    reader.Polled (reader.pollRead remaining inner).1 := by
  simp only [pollRead]
  split
  · exact ⟨rfl, le_rfl⟩
  · exact reader.resizeIfDrained_polled

theorem pollFillBuf_polled (inner : PollRead) : reader.Polled (reader.pollFillBuf inner).1 := by
  simp only [pollFillBuf]
  split
  · exact ⟨rfl, le_rfl⟩
  · cases inner with
    | pending | failed | ready bytes => exact reader.resizeIfDrained_polled

inductive Op where
  | read (remaining : ℕ) (inner : PollRead)
  | fillBuf (inner : PollRead)
  | consume (amount : ℕ)
  deriving Repr, DecidableEq

def apply (reader : AdaptiveBufReader) : Op → AdaptiveBufReader
  | .read remaining inner => (reader.pollRead remaining inner).1
  | .fillBuf inner => (reader.pollFillBuf inner).1
  | .consume amount => reader.consume amount

theorem apply_polled (op : Op) : reader.Polled (reader.apply op) := by
  cases op with
  | read remaining inner => exact reader.pollRead_polled remaining inner
  | fillBuf inner => exact reader.pollFillBuf_polled inner
  | consume amount => exact ⟨rfl, le_rfl⟩

end AdaptiveBufReader

structure Session where
  ceilings : CopyCeilings
  base : ℕ × ℕ
  controller : SessionAdaptiveController
  lease : DirectBufferLease
  c2s : AdaptiveBufReader
  s2c : AdaptiveBufReader
  previous : RelaySignalSample

namespace Session

def effectiveBase (lease : DirectBufferLease) (base : ℕ × ℕ) : ℕ × ℕ :=
  if lease.reservedBytes < saturatingAdd base.1 base.2 then
    (directBaseC2sBytes, directBaseS2cBytes)
  else base

def new (ceilings : CopyCeilings) (lease : DirectBufferLease) (base : ℕ × ℕ) : Session where
  ceilings := ceilings
  base := base
  controller := .new .base
  lease := lease
  c2s := .new base.1
  s2c := .new base.2
  previous := ⟨0, 0, 0, 0, 0, 0⟩

/-- The entry of `relay_direct_adaptive`, up to its loop. -/
def start (ceilings : CopyCeilings) (maxConnections : ℕ) (budget : DirectBufferBudget) :
    Except String Session × DirectBufferBudget :=
  let base := initialBaseSizes ceilings maxConnections budget.targetBytes
  match budget.tryReserve (saturatingAdd base.1 base.2) false with
  | some (lease, budget) => (.ok (.new ceilings lease (effectiveBase lease base)), budget)
  | none =>
    match budget.tryReserve (directBaseC2sBytes + directBaseS2cBytes) true with
    | some (lease, budget) =>
      (.ok (.new ceilings lease (effectiveBase lease base)), budget.incrementMinimumFallback)
    | none =>
      (.error "Direct relay buffer pressure: budget exhausted",
        budget.incrementAdmissionRejected)

def sizesAt (session : Session) (tier : AdaptiveTier) : ℕ × ℕ :=
  directCopyBuffersForTierWithCeilings tier session.base session.ceilings

def setDesiredSizes (session : Session) (sizes : ℕ × ℕ) : Session :=
  { session with
    c2s := session.c2s.setDesired sizes.1
    s2c := session.s2c.setDesired sizes.2 }

def setTier (session : Session) (tier : AdaptiveTier) (budget : DirectBufferBudget) :
    Session × DirectBufferBudget :=
  let (lease, budget) := session.lease.setTier tier.asU8 budget
  ({ session with lease := lease }, budget)

def countDemotion (reason : TierTransitionReason) (budget : DirectBufferBudget) :
    DirectBufferBudget :=
  match reason with
  | .quietDemotion => budget.incrementQuietDemotion
  | .sustainedWritePressure => budget.incrementWritePressureDemotion
  | .softConfirmed | .hardPressure => budget

def applyControllerTransition (transition : TierTransition) (session : Session)
    (budget : DirectBufferBudget) : Session × DirectBufferBudget :=
  let sizes := session.sizesAt transition.target
  if transition.source.asU8 < transition.target.asU8 then
    match session.lease.tryGrowTo (saturatingAdd sizes.1 sizes.2) budget with
    | (false, lease, budget) =>
      ({ session with lease := lease, controller := .new transition.source }, budget)
    | (true, lease, budget) =>
      ({ session with lease := lease }.setDesiredSizes sizes).setTier transition.target budget
  else
    (session.setDesiredSizes sizes).setTier transition.target
      (countDemotion transition.reason budget)

def applyGlobalPressureDemotion (session : Session) (budget : DirectBufferBudget) :
    Session × DirectBufferBudget :=
  let current := session.controller.tier
  let target := current.demote
  if target = current then (session, budget)
  else
    let (session, budget) :=
      ({ session with controller := .new target }.setDesiredSizes
        (session.sizesAt target)).setTier target budget
    (session, budget.incrementGlobalPressureDemotion)

def reconcileReservation (session : Session) (budget : DirectBufferBudget) :
    Session × DirectBufferBudget :=
  let (lease, budget) :=
    session.lease.shrinkTo (saturatingAdd session.c2s.covered session.s2c.covered) budget
  ({ session with lease := lease }, budget)

def sampleDelta (current previous : RelaySignalSample) : RelaySignalSample where
  c2sBytes := current.c2sBytes - previous.c2sBytes
  s2cRequestedBytes := current.s2cRequestedBytes - previous.s2cRequestedBytes
  s2cWrittenBytes := current.s2cWrittenBytes - previous.s2cWrittenBytes
  s2cWriteOps := current.s2cWriteOps - previous.s2cWriteOps
  s2cPartialWrites := current.s2cPartialWrites - previous.s2cPartialWrites
  s2cConsecutivePendingWrites := current.s2cConsecutivePendingWrites

def observation (session : Session) (sample : RelaySignalSample) (tickSecs : ℚ) :
    SessionAdaptiveController × Option TierTransition :=
  session.controller.observe (sampleDelta sample session.previous) tickSecs

def tick (session : Session) (sample : RelaySignalSample) (tickSecs : ℚ)
    (budget : DirectBufferBudget) : Session × DirectBufferBudget :=
  let (controller, transition) := session.observation sample tickSecs
  let session := { session with controller := controller, previous := sample }
  let (session, budget) :=
    match transition with
    | some transition => session.applyControllerTransition transition budget
    | none => (session, budget)
  session.reconcileReservation budget

/-- The pressure channel announced a lower target. -/
def pressureChanged (session : Session) (budget : DirectBufferBudget) :
    Session × DirectBufferBudget :=
  let (session, budget) := session.applyGlobalPressureDemotion budget
  session.reconcileReservation budget

inductive Direction where
  | c2s
  | s2c
  deriving Repr, DecidableEq

def poll (session : Session) (op : AdaptiveBufReader.Op) : Direction → Session
  | .c2s => { session with c2s := session.c2s.apply op }
  | .s2c => { session with s2c := session.s2c.apply op }

/-- One buffer is larger than its size at the next tier while the other is
smaller than its own. -/
def lopsided (session : Session) : Bool :=
  let sizes := session.sizesAt session.controller.tier.promote
  (sizes.1 < session.c2s.state.actualBytes && session.s2c.state.actualBytes < sizes.2) ||
    (session.c2s.state.actualBytes < sizes.1 && sizes.2 < session.s2c.state.actualBytes)

def promotes (session : Session) (sample : RelaySignalSample) (tickSecs : ℚ) : Bool :=
  match (session.observation sample tickSecs).2 with
  | some transition => transition.source.asU8 < transition.target.asU8
  | none => false

end Session

structure Relays where
  budget : DirectBufferBudget
  sessions : Table ℕ Session

namespace Relays

def new (hardLimitBytes : ℕ) : Relays := ⟨.new hardLimitBytes, ∅⟩

inductive Action where
  | connect (id : ℕ) (ceilings : CopyCeilings) (maxConnections : ℕ)
  | tick (id : ℕ) (sample : RelaySignalSample) (tickSecs : ℚ)
  | pressureChanged (id : ℕ)
  | poll (id : ℕ) (direction : Session.Direction) (op : AdaptiveBufReader.Op)
  | close (id : ℕ)
  | setTarget (target : ℕ)

/-- One live session takes a step together with the budget. -/
def withSession (relays : Relays) (id : ℕ)
    (change : Session → DirectBufferBudget → Session × DirectBufferBudget) : Relays :=
  match relays.sessions.lookup id with
  | none => relays
  | some session =>
    let (session, budget) := change session relays.budget
    ⟨budget, relays.sessions.insert id session⟩

def step (action : Action) (relays : Relays) : Relays :=
  match action with
  | .connect id ceilings maxConnections =>
    match relays.sessions.lookup id, Session.start ceilings maxConnections relays.budget with
    | some _, _ => relays
    | none, (.ok session, budget) => ⟨budget, relays.sessions.insert id session⟩
    | none, (.error _, budget) => { relays with budget := budget }
  | .tick id sample tickSecs =>
    relays.withSession id fun session budget => session.tick sample tickSecs budget
  | .pressureChanged id => relays.withSession id Session.pressureChanged
  | .poll id direction op =>
    relays.withSession id fun session budget => (session.poll op direction, budget)
  | .close id =>
    match relays.sessions.lookup id with
    | none => relays
    | some session => ⟨session.lease.drop relays.budget, relays.sessions.erase id⟩
  | .setTarget target => { relays with budget := relays.budget.setTargetBytes target }

def promotesLevel (relays : Relays) : Action → Bool
  | .tick id sample tickSecs =>
    match relays.sessions.lookup id with
    | none => true
    | some session => !(session.promotes sample tickSecs && session.lopsided)
  | _ => true

end Relays

end TupoProxy.DirectRelay
