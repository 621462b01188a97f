import TupoProxy.MachineWords
import TupoProxy.ByteWords
import Mathlib.Tactic

/-!
# Flow state and pressure of the fairness scheduler

The reader of a middle-end connection keeps one queue for each client
connection.  This file has the record that the scheduler keeps for a flow,
its classification, and the evaluator that turns queue sizes, rejects and
stalls into one pressure state for the whole worker.

Instants and durations are natural numbers of one unit.  Machine counters are
natural numbers with the saturation of the source written out.
-/

namespace TupoProxy.Fairness

def satAdd (limit left right : ℕ) : ℕ := min (left + right) limit

theorem satAdd_le_add (limit left right : ℕ) : satAdd limit left right ≤ left + right :=
  Nat.min_le_left _ _

theorem satAdd_le_limit (limit left right : ℕ) : satAdd limit left right ≤ limit :=
  Nat.min_le_right _ _

inductive PressureState where
  | normal
  | pressured
  | shedding
  | saturated
  deriving Repr, DecidableEq

def PressureState.asU8 : PressureState → ℕ
  | .normal => 0
  | .pressured => 1
  | .shedding => 2
  | .saturated => 3

instance : LE PressureState := ⟨fun left right => left.asU8 ≤ right.asU8⟩

instance (left right : PressureState) : Decidable (left ≤ right) :=
  inferInstanceAs (Decidable (left.asU8 ≤ right.asU8))

inductive FlowPressureClass where
  | healthy
  | bursty
  | backpressured
  | standing
  deriving Repr, DecidableEq

inductive StandingQueueState where
  | transient
  | standing
  deriving Repr, DecidableEq

inductive FlowSchedulerState where
  | idle
  | active
  | backpressured
  | penalized
  | sheddingCandidate
  deriving Repr, DecidableEq

structure QueuedFrame where
  connId : ℕ
  flags : ℕ
  data : List Byte
  enqueuedAt : ℕ
  deriving Repr, DecidableEq

def QueuedFrame.queuedBytes (frame : QueuedFrame) : ℕ := frame.data.length

structure FlowFairnessState where
  pendingBytes : ℕ
  deficitBytes : ℤ
  queueStartedAt : Option ℕ
  lastDrainAt : Option ℕ
  recentDrainBytes : ℕ
  consecutiveStalls : ℕ
  consecutiveSkips : ℕ
  penaltyScore : ℕ
  pressureClass : FlowPressureClass
  standingState : StandingQueueState
  schedulerState : FlowSchedulerState
  bucketId : ℕ
  weightQuanta : ℕ
  inActiveRing : Bool
  deriving Repr, DecidableEq

def FlowFairnessState.new (bucketId weightQuanta : ℕ) : FlowFairnessState where
  pendingBytes := 0
  deficitBytes := 0
  queueStartedAt := none
  lastDrainAt := none
  recentDrainBytes := 0
  consecutiveStalls := 0
  consecutiveSkips := 0
  penaltyScore := 0
  pressureClass := .healthy
  standingState := .transient
  schedulerState := .idle
  bucketId := bucketId
  weightQuanta := max weightQuanta 1
  inActiveRing := false

inductive AdmissionDecision where
  | admitted
  | rejectWorkerCap
  | rejectFlowCap
  | rejectBucketCap
  | rejectSaturated
  | rejectStandingFlow
  deriving Repr, DecidableEq

structure DispatchCandidate where
  frame : QueuedFrame
  pressureState : PressureState
  flowClass : FlowPressureClass
  deriving Repr, DecidableEq

inductive SchedulerDecision where
  | idle
  | dispatch (candidate : DispatchCandidate)
  deriving Repr, DecidableEq

inductive DispatchFeedback where
  | routed
  | queueFull
  | channelClosed
  | noConn
  deriving Repr, DecidableEq

inductive DispatchAction where
  | continue
  | closeFlow
  deriving Repr, DecidableEq

structure PressureSignals where
  activeFlows : ℕ
  totalQueuedBytes : ℕ
  standingFlows : ℕ
  backpressuredFlows : ℕ
  deriving Repr, DecidableEq

structure PressureConfig where
  backpressureEnabled : Bool := true
  evaluateEveryRounds : ℕ := 8
  transitionHysteresisRounds : ℕ := 3
  standingRatioPressuredPct : ℕ := 20
  standingRatioSheddingPct : ℕ := 35
  standingRatioSaturatedPct : ℕ := 50
  queueRatioPressuredPct : ℕ := 65
  queueRatioSheddingPct : ℕ := 82
  queueRatioSaturatedPct : ℕ := 94
  rejectWindow : ℕ := 2000
  rejectsPressured : ℕ := 32
  rejectsShedding : ℕ := 96
  rejectsSaturated : ℕ := 256
  stallsPressured : ℕ := 32
  stallsShedding : ℕ := 96
  stallsSaturated : ℕ := 256
  deriving Repr, DecidableEq

structure PressureEvaluator where
  state : PressureState
  candidateState : PressureState
  candidateHits : ℕ
  roundsSinceEval : ℕ
  windowStartedAt : ℕ
  admissionRejectsWindow : ℕ
  routeStallsWindow : ℕ
  deriving Repr, DecidableEq

namespace PressureEvaluator

def new (now : ℕ) : PressureEvaluator where
  state := .normal
  candidateState := .normal
  candidateHits := 0
  roundsSinceEval := 0
  windowStartedAt := now
  admissionRejectsWindow := 0
  routeStallsWindow := 0

def rotateWindowIfNeeded (evaluator : PressureEvaluator) (now : ℕ)
    (cfg : PressureConfig) : PressureEvaluator :=
  if now - evaluator.windowStartedAt < cfg.rejectWindow then evaluator
  else
    { evaluator with
      windowStartedAt := now
      admissionRejectsWindow := 0
      routeStallsWindow := 0 }

def noteAdmissionReject (evaluator : PressureEvaluator) (now : ℕ)
    (cfg : PressureConfig) : PressureEvaluator :=
  let evaluator := evaluator.rotateWindowIfNeeded now cfg
  { evaluator with
    admissionRejectsWindow := satAdd u32Max evaluator.admissionRejectsWindow 1 }

def noteRouteStall (evaluator : PressureEvaluator) (now : ℕ)
    (cfg : PressureConfig) : PressureEvaluator :=
  let evaluator := evaluator.rotateWindowIfNeeded now cfg
  { evaluator with
    routeStallsWindow := satAdd u32Max evaluator.routeStallsWindow 1 }

def thresholdScore (value pressured shedding saturated : ℕ) : ℕ :=
  let score := if pressured ≤ value then 1 else 0
  let score := if shedding ≤ value then max score 2 else score
  if saturated ≤ value then max score 3 else score

def deriveTargetState (evaluator : PressureEvaluator) (cfg : PressureConfig)
    (maxTotalQueuedBytes : ℕ) (signals : PressureSignals) : PressureState :=
  if !cfg.backpressureEnabled then .normal
  else
    let queueRatioPct :=
      if maxTotalQueuedBytes = 0 then 100
      else min (min (signals.totalQueuedBytes * 100) u64Max / maxTotalQueuedBytes) 100
    let standingRatioPct :=
      if signals.activeFlows = 0 then 0
      else min (min (signals.standingFlows * 100) u64Max / signals.activeFlows) 100
    let score :=
      thresholdScore queueRatioPct cfg.queueRatioPressuredPct
        cfg.queueRatioSheddingPct cfg.queueRatioSaturatedPct
    let score :=
      max score
        (thresholdScore standingRatioPct cfg.standingRatioPressuredPct
          cfg.standingRatioSheddingPct cfg.standingRatioSaturatedPct)
    let score :=
      max score
        (thresholdScore evaluator.admissionRejectsWindow cfg.rejectsPressured
          cfg.rejectsShedding cfg.rejectsSaturated)
    let score :=
      max score
        (thresholdScore evaluator.routeStallsWindow cfg.stallsPressured
          cfg.stallsShedding cfg.stallsSaturated)
    let score :=
      if signals.activeFlows / 2 < signals.backpressuredFlows ∧
          0 < signals.activeFlows then
        max score 2
      else score
    match score with
    | 0 => .normal
    | 1 => .pressured
    | 2 => .shedding
    | _ => .saturated

/-- The state moves to a new target only after the target was derived in
enough evaluations in a row. -/
def approach (evaluator : PressureEvaluator) (cfg : PressureConfig)
    (target : PressureState) : PressureEvaluator :=
  if target = evaluator.state then
    { evaluator with candidateState := target, candidateHits := 0 }
  else
    let hits :=
      if evaluator.candidateState = target then satAdd u8Max evaluator.candidateHits 1
      else 1
    if max cfg.transitionHysteresisRounds 1 ≤ hits then
      { evaluator with state := target, candidateState := target, candidateHits := 0 }
    else
      { evaluator with candidateState := target, candidateHits := hits }

def maybeEvaluate (evaluator : PressureEvaluator) (now : ℕ) (cfg : PressureConfig)
    (maxTotalQueuedBytes : ℕ) (signals : PressureSignals) (force : Bool) :
    PressureEvaluator :=
  let evaluator := evaluator.rotateWindowIfNeeded now cfg
  if !cfg.backpressureEnabled then
    { evaluator with
      state := .normal
      candidateState := .normal
      candidateHits := 0
      roundsSinceEval := 0 }
  else
    let rounds := satAdd u32Max evaluator.roundsSinceEval 1
    if !force && decide (rounds < max cfg.evaluateEveryRounds 1) then
      { evaluator with roundsSinceEval := rounds }
    else
      let evaluator := { evaluator with roundsSinceEval := 0 }
      evaluator.approach cfg
        (evaluator.deriveTargetState cfg maxTotalQueuedBytes signals)

end PressureEvaluator

structure WorkerFairnessConfig where
  backpressureEnabled : Bool := true
  maxActiveFlows : ℕ := 4096
  maxTotalQueuedBytes : ℕ := 16 * 1024 * 1024
  maxFlowQueuedBytes : ℕ := 512 * 1024
  baseQuantumBytes : ℕ := 32 * 1024
  pressuredQuantumBytes : ℕ := 16 * 1024
  penalizedQuantumBytes : ℕ := 8 * 1024
  standingQueueMinAge : ℕ := 250
  standingQueueMinBacklogBytes : ℕ := 64 * 1024
  standingStallThreshold : ℕ := 3
  maxConsecutiveStallsBeforeShed : ℕ := 4
  maxConsecutiveStallsBeforeClose : ℕ := 16
  softBucketCount : ℕ := 64
  softBucketSharePct : ℕ := 25
  defaultFlowWeight : ℕ := 1
  quickackFlowWeight : ℕ := 4
  pressure : PressureConfig := {}
  deriving Repr, DecidableEq

namespace WorkerFairnessConfig

def rpcFlagQuickack : ℕ := 0x80000000

def weightForFlags (config : WorkerFairnessConfig) (flags : ℕ) : ℕ :=
  if flags &&& rpcFlagQuickack ≠ 0 then max config.quickackFlowWeight 1
  else max config.defaultFlowWeight 1

def bucketCap (config : WorkerFairnessConfig) : ℕ :=
  max
    (min (config.maxTotalQueuedBytes * max config.softBucketSharePct 1) u64Max / 100)
    config.maxFlowQueuedBytes

end WorkerFairnessConfig

/-! ## Classification of a flow -/

structure FlowClassification where
  pressureClass : FlowPressureClass
  standingState : StandingQueueState
  schedulerState : FlowSchedulerState
  standing : Bool
  deriving Repr, DecidableEq

def deriveFlowClassification (config : WorkerFairnessConfig)
    (pressureState : PressureState) (now : ℕ) (fairness : FlowFairnessState) :
    FlowClassification :=
  if fairness.pendingBytes = 0 then ⟨.healthy, .transient, .idle, false⟩
  else
    let queueAge := (fairness.queueStartedAt.map fun ts => now - ts).getD 0
    let drainStalled :=
      (fairness.lastDrainAt.map fun ts =>
        decide (config.standingQueueMinAge ≤ now - ts)).getD true
    let standing :=
      decide (config.standingQueueMinBacklogBytes ≤ fairness.pendingBytes) &&
        decide (config.standingQueueMinAge ≤ queueAge) &&
        (decide (config.standingStallThreshold ≤ fairness.consecutiveStalls) ||
          drainStalled)
    if standing then
      let schedulerState :=
        if PressureState.shedding ≤ pressureState then
          FlowSchedulerState.sheddingCandidate
        else .penalized
      ⟨.standing, .standing, schedulerState, true⟩
    else if 0 < fairness.consecutiveStalls then
      ⟨.backpressured, .transient, .backpressured, false⟩
    else if config.standingQueueMinBacklogBytes ≤ fairness.pendingBytes then
      ⟨.bursty, .transient, .active, false⟩
    else ⟨.healthy, .transient, .active, false⟩

def classifyFlow (config : WorkerFairnessConfig) (pressureState : PressureState)
    (now : ℕ) (fairness : FlowFairnessState) : FlowFairnessState :=
  let derived := deriveFlowClassification config pressureState now fairness
  { fairness with
    pressureClass := derived.pressureClass
    standingState := derived.standingState
    schedulerState := derived.schedulerState
    deficitBytes :=
      if derived.schedulerState = .idle then 0 else fairness.deficitBytes
    penaltyScore :=
      if derived.standing then satAdd u16Max fairness.penaltyScore 1
      else fairness.penaltyScore - 1 }

@[simp] theorem classifyFlow_pendingBytes (config : WorkerFairnessConfig)
    (pressureState : PressureState) (now : ℕ) (fairness : FlowFairnessState) :
    (classifyFlow config pressureState now fairness).pendingBytes = fairness.pendingBytes := rfl

/-- A flow without pending bytes is never classified as standing. -/
theorem classifyFlow_transient {config : WorkerFairnessConfig}
    {pressureState : PressureState} {now : ℕ} {fairness : FlowFairnessState}
    (hpending : fairness.pendingBytes = 0) :
    (classifyFlow config pressureState now fairness).standingState = .transient := by
  simp [classifyFlow, deriveFlowClassification, hpending]

def schedulerStateIsBackpressured : FlowSchedulerState → Bool
  | .backpressured | .penalized | .sheddingCandidate => true
  | .idle | .active => false

/-- Whether the flow counts as standing, and whether it counts as
backpressured. -/
def flowMembership (fairness : FlowFairnessState) : Bool × Bool :=
  (decide (fairness.standingState = .standing),
    schedulerStateIsBackpressured fairness.schedulerState)

def clampDeficitBytes (config : WorkerFairnessConfig) (fairness : FlowFairnessState) :
    FlowFairnessState :=
  let maxDeficit := min (config.maxFlowQueuedBytes : ℤ) i64Max
  { fairness with deficitBytes := max 0 (min fairness.deficitBytes maxDeficit) }

def effectiveQuantumBytes (config : WorkerFairnessConfig)
    (pressureState : PressureState) (fairness : FlowFairnessState) : ℕ :=
  match fairness.schedulerState with
  | .penalized | .sheddingCandidate => max config.penalizedQuantumBytes 1
  | .idle | .active | .backpressured =>
    let baseQuantum :=
      match pressureState with
      | .normal => max config.baseQuantumBytes 1
      | .pressured => max config.pressuredQuantumBytes 1
      | .shedding => max config.pressuredQuantumBytes 1
      | .saturated => max config.penalizedQuantumBytes 1
    max (min (baseQuantum * max fairness.weightQuanta 1) u32Max) 1

end TupoProxy.Fairness
