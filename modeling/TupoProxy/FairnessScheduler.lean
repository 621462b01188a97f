import TupoProxy.FairnessModel
import TupoProxy.KeyedTotal

/-!
# The fairness scheduler of a reader worker

The scheduler admits frames into the queues of flows, picks the next frame by
deficit round robin over the ring of active flows, and takes the feedback of
the routing step for the picked frame.

A run is a list of operations.  Picking a frame and giving feedback for it is
one operation, since the reader never separates the two.
-/

namespace TupoProxy.Fairness

structure FlowEntry where
  fairness : FlowFairnessState
  queue : List QueuedFrame
  deriving Repr, DecidableEq

def queueBytes (queue : List QueuedFrame) : ℕ :=
  (queue.map QueuedFrame.queuedBytes).sum

@[simp] theorem queueBytes_nil : queueBytes [] = 0 := rfl

@[simp] theorem queueBytes_cons (frame : QueuedFrame) (queue : List QueuedFrame) :
    queueBytes (frame :: queue) = frame.queuedBytes + queueBytes queue := by
  simp [queueBytes]

@[simp] theorem queueBytes_append (left right : List QueuedFrame) :
    queueBytes (left ++ right) = queueBytes left + queueBytes right := by
  simp [queueBytes]

namespace FlowEntry

def new (bucketId weightQuanta : ℕ) : FlowEntry :=
  ⟨.new bucketId weightQuanta, []⟩

def pushBack (config : WorkerFairnessConfig) (pressureState : PressureState)
    (now : ℕ) (frame : QueuedFrame) (flow : FlowEntry) : FlowEntry :=
  { queue := flow.queue ++ [frame]
    fairness :=
      classifyFlow config pressureState now
        { flow.fairness with
          pendingBytes := satAdd u64Max flow.fairness.pendingBytes frame.queuedBytes
          queueStartedAt := some (flow.fairness.queueStartedAt.getD now)
          inActiveRing := true } }

/-- What the scheduler finds when it visits the flow at the ring's front. -/
inductive Visit where
  | idle
  | skipped
  | drained (frame : QueuedFrame)
  deriving Repr, DecidableEq

/-- The deficit is topped up by one quantum; the front frame is taken if the
deficit covers its length. -/
def visit (config : WorkerFairnessConfig) (pressureState : PressureState) (now : ℕ)
    (flow : FlowEntry) : Visit × FlowEntry :=
  let fairness := { flow.fairness with inActiveRing := false }
  match flow.queue with
  | [] =>
    (.idle,
      { queue := []
        fairness :=
          { fairness with
            schedulerState := .idle
            pendingBytes := 0
            deficitBytes := 0
            queueStartedAt := none } })
  | front :: rest =>
    let fairness := classifyFlow config pressureState now fairness
    let quantum := effectiveQuantumBytes config pressureState fairness
    let fairness :=
      clampDeficitBytes config
        { fairness with
          deficitBytes := min (fairness.deficitBytes + quantum) i64Max }
    if fairness.deficitBytes < front.queuedBytes then
      (.skipped,
        { queue := front :: rest
          fairness :=
            { fairness with
              consecutiveSkips := satAdd u8Max fairness.consecutiveSkips 1
              inActiveRing := true } })
    else
      let fairness :=
        clampDeficitBytes config
          { fairness with
            pendingBytes := fairness.pendingBytes - front.queuedBytes
            deficitBytes := fairness.deficitBytes - front.queuedBytes }
      let fairness :=
        { fairness with
          consecutiveSkips := 0
          queueStartedAt := rest.head?.map QueuedFrame.enqueuedAt }
      let fairness :=
        if rest.isEmpty then
          { fairness with
            schedulerState := .idle
            inActiveRing := false
            deficitBytes := 0 }
        else { fairness with inActiveRing := true }
      (.drained front, { queue := rest, fairness := fairness })

def noteRouted (config : WorkerFairnessConfig) (pressureState : PressureState)
    (now : ℕ) (frame : QueuedFrame) (flow : FlowEntry) : FlowEntry :=
  { flow with
    fairness :=
      classifyFlow config pressureState now
        { flow.fairness with
          lastDrainAt := some now
          recentDrainBytes :=
            satAdd u64Max flow.fairness.recentDrainBytes frame.queuedBytes
          consecutiveStalls := 0
          schedulerState :=
            if flow.fairness.schedulerState = .idle then .idle else .active } }

def noteStall (config : WorkerFairnessConfig) (flow : FlowEntry) : FlowEntry :=
  if config.backpressureEnabled then
    { flow with
      fairness :=
        { flow.fairness with
          consecutiveStalls := satAdd u8Max flow.fairness.consecutiveStalls 1
          schedulerState := .backpressured
          pressureClass := .backpressured } }
  else flow

/-- The shedding rule for a frame whose route is full, read after the stall
was counted. -/
def shouldShedFrame (config : WorkerFairnessConfig) (pressureState : PressureState)
    (flow : FlowEntry) : Bool :=
  config.backpressureEnabled &&
    (decide (pressureState = .saturated) ||
      (decide (pressureState = .shedding) &&
        decide (flow.fairness.standingState = .standing) &&
        decide (config.maxConsecutiveStallsBeforeShed ≤
          flow.fairness.consecutiveStalls)))

def pushFront (frame : QueuedFrame) (flow : FlowEntry) : FlowEntry :=
  { queue := frame :: flow.queue
    fairness :=
      { flow.fairness with
        pendingBytes := satAdd u64Max flow.fairness.pendingBytes frame.queuedBytes
        queueStartedAt := some frame.enqueuedAt
        inActiveRing := true } }

def classify (config : WorkerFairnessConfig) (pressureState : PressureState)
    (now : ℕ) (flow : FlowEntry) : FlowEntry :=
  { flow with fairness := classifyFlow config pressureState now flow.fairness }

end FlowEntry

structure WorkerFairnessState where
  config : WorkerFairnessConfig
  pressure : PressureEvaluator
  flows : Table ℕ FlowEntry
  activeRing : List ℕ
  activeRingMembers : Finset ℕ
  totalQueuedBytes : ℕ
  bucketQueuedBytes : List ℕ
  bucketActiveFlows : List ℕ
  standingFlowCount : ℕ
  backpressuredFlowCount : ℕ
  schedulerRounds : ℕ
  deficitGrants : ℕ
  deficitSkips : ℕ
  enqueueRejects : ℕ
  shedDrops : ℕ
  fairnessPenalties : ℕ
  downstreamStalls : ℕ
  deriving DecidableEq

namespace WorkerFairnessState

def new (config : WorkerFairnessConfig) (now : ℕ) : WorkerFairnessState where
  config :=
    { config with
      pressure :=
        { config.pressure with backpressureEnabled := config.backpressureEnabled } }
  pressure := .new now
  flows := ∅
  activeRing := []
  activeRingMembers := ∅
  totalQueuedBytes := 0
  bucketQueuedBytes := List.replicate (max config.softBucketCount 1) 0
  bucketActiveFlows := List.replicate (max config.softBucketCount 1) 0
  standingFlowCount := 0
  backpressuredFlowCount := 0
  schedulerRounds := 0
  deficitGrants := 0
  deficitSkips := 0
  enqueueRejects := 0
  shedDrops := 0
  fairnessPenalties := 0
  downstreamStalls := 0

def bucketFor (state : WorkerFairnessState) (connId : ℕ) : ℕ :=
  connId % max state.bucketQueuedBytes.length 1

def queueOf (state : WorkerFairnessState) (connId : ℕ) : List QueuedFrame :=
  (state.flows.lookup connId).elim [] FlowEntry.queue

def evaluatePressure (state : WorkerFairnessState) (now : ℕ) (force : Bool) :
    WorkerFairnessState :=
  { state with
    pressure :=
      state.pressure.maybeEvaluate now state.config.pressure
        state.config.maxTotalQueuedBytes
        { activeFlows := state.flows.keys.length
          totalQueuedBytes := state.totalQueuedBytes
          standingFlows := state.standingFlowCount
          backpressuredFlows := state.backpressuredFlowCount }
        force }

def setBackpressureEnabled (state : WorkerFairnessState) (enabled : Bool) (now : ℕ) :
    WorkerFairnessState :=
  if state.config.backpressureEnabled = enabled then state
  else
    let state :=
      { state with
        config :=
          { state.config with
            backpressureEnabled := enabled
            pressure :=
              { state.config.pressure with backpressureEnabled := enabled } } }
    state.evaluatePressure now true

def enqueueActiveConn (state : WorkerFairnessState) (connId : ℕ) :
    WorkerFairnessState :=
  if connId ∈ state.activeRingMembers then state
  else
    { state with
      activeRingMembers := insert connId state.activeRingMembers
      activeRing := state.activeRing ++ [connId] }

/-- The number of members after one flow changed from `before` to `after`. -/
def memberCount (count : ℕ) (before after : Bool) : ℕ :=
  if before = after then count
  else if after then satAdd u64Max count 1
  else count - 1

def applyFlowMembershipDelta (state : WorkerFairnessState)
    (before after : Bool × Bool) : WorkerFairnessState :=
  { state with
    standingFlowCount := memberCount state.standingFlowCount before.1 after.1
    backpressuredFlowCount := memberCount state.backpressuredFlowCount before.2 after.2 }

def putFlow (state : WorkerFairnessState) (connId : ℕ) (before after : FlowEntry) :
    WorkerFairnessState :=
  { state with flows := state.flows.insert connId after }.applyFlowMembershipDelta
    (flowMembership before.fairness) (flowMembership after.fairness)

def chargeBytes (state : WorkerFairnessState) (bucketId bytes : ℕ) :
    WorkerFairnessState :=
  { state with
    totalQueuedBytes := satAdd u64Max state.totalQueuedBytes bytes
    bucketQueuedBytes :=
      state.bucketQueuedBytes.modify bucketId fun queued => satAdd u64Max queued bytes }

def releaseBytes (state : WorkerFairnessState) (bucketId bytes : ℕ) :
    WorkerFairnessState :=
  { state with
    totalQueuedBytes := state.totalQueuedBytes - bytes
    bucketQueuedBytes :=
      state.bucketQueuedBytes.modify bucketId fun queued => queued - bytes }

def noteAdmissionReject (state : WorkerFairnessState) (now : ℕ) :
    WorkerFairnessState :=
  { state with
    pressure := state.pressure.noteAdmissionReject now state.config.pressure
    enqueueRejects := satAdd u64Max state.enqueueRejects 1 }

def rejectFrame (state : WorkerFairnessState) (decision : AdmissionDecision)
    (now : ℕ) : AdmissionDecision × WorkerFairnessState :=
  (decision, (state.noteAdmissionReject now).evaluatePressure now true)

/-- The entry of the connection, created when there is none, with the weight
of the new frame taken into account. -/
def openFlow (state : WorkerFairnessState) (connId frameWeight : ℕ) :
    FlowEntry × WorkerFairnessState :=
  let bucketId := state.bucketFor connId
  let weighted := fun flow : FlowEntry =>
    { flow with
      fairness :=
        { flow.fairness with
          weightQuanta := max flow.fairness.weightQuanta frameWeight } }
  match state.flows.lookup connId with
  | some flow =>
    (weighted flow, { state with flows := state.flows.insert connId (weighted flow) })
  | none =>
    let flow := weighted (FlowEntry.new bucketId frameWeight)
    (flow,
      { state with
        bucketActiveFlows :=
          state.bucketActiveFlows.modify bucketId fun count => satAdd u64Max count 1
        flows := state.flows.insert connId flow })

def admitFrame (state : WorkerFairnessState) (connId : ℕ) (flow : FlowEntry)
    (frame : QueuedFrame) (now : ℕ) : WorkerFairnessState :=
  let queued := flow.pushBack state.config state.pressure.state now frame
  let state := state.chargeBytes (state.bucketFor connId) frame.queuedBytes
  let state :=
    if flow.fairness.inActiveRing then state else state.enqueueActiveConn connId
  (state.putFlow connId flow queued).evaluatePressure now true

def enqueueData (state : WorkerFairnessState) (connId flags : ℕ) (data : List Byte)
    (now : ℕ) : AdmissionDecision × WorkerFairnessState :=
  let frame : QueuedFrame := ⟨connId, flags, data, now⟩
  let frameBytes := frame.queuedBytes
  if state.config.backpressureEnabled ∧ state.pressure.state = .saturated then
    (.rejectSaturated, state.noteAdmissionReject now)
  else if state.config.maxTotalQueuedBytes <
      satAdd u64Max state.totalQueuedBytes frameBytes then
    state.rejectFrame .rejectWorkerCap now
  else if connId ∉ state.flows ∧ state.config.maxActiveFlows ≤ state.flows.keys.length then
    state.rejectFrame .rejectWorkerCap now
  else if state.config.bucketCap <
      satAdd u64Max (state.bucketQueuedBytes.getD (state.bucketFor connId) 0)
        frameBytes then
    state.rejectFrame .rejectBucketCap now
  else
    let frameWeight := state.config.weightForFlags flags
    let (flow, state) := state.openFlow connId frameWeight
    if state.config.maxFlowQueuedBytes <
        satAdd u64Max flow.fairness.pendingBytes frameBytes then
      state.rejectFrame .rejectFlowCap now
    else if state.config.backpressureEnabled ∧
        PressureState.shedding ≤ state.pressure.state ∧
        flow.fairness.standingState = .standing then
      state.rejectFrame .rejectStandingFlow now
    else
      (.admitted, state.admitFrame connId flow frame now)

/-! ## Dispatch -/

/-- The effects of a visit outside the visited entry. -/
def settleVisit (state : WorkerFairnessState) (connId : ℕ) (visited : FlowEntry) :
    FlowEntry.Visit → Option DispatchCandidate × WorkerFairnessState
  | .idle => (none, state)
  | .skipped =>
    let state :=
      { state with
        deficitGrants := satAdd u64Max state.deficitGrants 1
        deficitSkips := satAdd u64Max state.deficitSkips 1 }
    (none, state.enqueueActiveConn connId)
  | .drained frame =>
    let state := { state with deficitGrants := satAdd u64Max state.deficitGrants 1 }
    let state :=
      if 0 < frame.queuedBytes then
        state.releaseBytes visited.fairness.bucketId frame.queuedBytes
      else state
    let state :=
      if visited.queue.isEmpty then state else state.enqueueActiveConn connId
    (some ⟨frame, state.pressure.state, visited.fairness.pressureClass⟩, state)

/-- Visit of the flow of a connection that was just taken from the ring. -/
def visitConn (state : WorkerFairnessState) (connId now : ℕ) :
    Option DispatchCandidate × WorkerFairnessState :=
  match state.flows.lookup connId with
  | none => (none, state)
  | some flow =>
    let (found, visited) := flow.visit state.config state.pressure.state now
    (state.putFlow connId flow visited).settleVisit connId visited found

def popRing (state : WorkerFairnessState) (ring : List ℕ) : WorkerFairnessState :=
  { state with activeRing := ring }

def leaveRing (state : WorkerFairnessState) (connId : ℕ) : WorkerFairnessState :=
  { state with activeRingMembers := state.activeRingMembers.erase connId }

/-- The loop over the ring.  Its bound is the ring's length at the start. -/
def visitRing : ℕ → WorkerFairnessState → ℕ →
    SchedulerDecision × WorkerFairnessState
  | 0, state, _ => (.idle, state)
  | rounds + 1, state, now =>
    match state.activeRing with
    | [] => (.idle, state)
    | connId :: ring =>
      if connId ∈ state.activeRingMembers then
        match ((state.popRing ring).leaveRing connId).visitConn connId now with
        | (some candidate, state) => (.dispatch candidate, state)
        | (none, state) => visitRing rounds state now
      else visitRing rounds (state.popRing ring) now

def countRound (state : WorkerFairnessState) : WorkerFairnessState :=
  { state with schedulerRounds := satAdd u64Max state.schedulerRounds 1 }

def nextDecision (state : WorkerFairnessState) (now : ℕ) :
    SchedulerDecision × WorkerFairnessState :=
  let state := state.countRound.evaluatePressure now false
  visitRing state.activeRing.length state now

/-- The bytes of a removed queue, added up as the source does. -/
def reclaimedBytes (queue : List QueuedFrame) : ℕ :=
  queue.foldl (fun reclaimed frame => satAdd u64Max reclaimed frame.queuedBytes) 0

def removeFlow (state : WorkerFairnessState) (connId : ℕ) : WorkerFairnessState :=
  match state.flows.lookup connId with
  | none => state
  | some entry =>
    let membership := flowMembership entry.fairness
    let state :=
      { state with
        flows := state.flows.erase connId
        activeRingMembers := state.activeRingMembers.erase connId
        activeRing := state.activeRing.filter fun queued => queued ≠ connId
        standingFlowCount :=
          if membership.1 then state.standingFlowCount - 1
          else state.standingFlowCount
        backpressuredFlowCount :=
          if membership.2 then state.backpressuredFlowCount - 1
          else state.backpressuredFlowCount
        bucketActiveFlows :=
          state.bucketActiveFlows.modify entry.fairness.bucketId fun count => count - 1 }
    state.releaseBytes entry.fairness.bucketId (reclaimedBytes entry.queue)

def feedbackRouted (state : WorkerFairnessState) (connId : ℕ) (frame : QueuedFrame)
    (now : ℕ) : WorkerFairnessState :=
  match state.flows.lookup connId with
  | none => state.evaluatePressure now false
  | some flow =>
    let routed := flow.noteRouted state.config state.pressure.state now frame
    (state.putFlow connId flow routed).evaluatePressure now false

/-- Counting of a full route for the whole worker. -/
def noteRouteStall (state : WorkerFairnessState) (now : ℕ) : WorkerFairnessState :=
  if state.config.backpressureEnabled then
    { state with
      pressure := state.pressure.noteRouteStall now state.config.pressure
      downstreamStalls := satAdd u64Max state.downstreamStalls 1 }
  else state

def shedFrame (state : WorkerFairnessState) (connId : ℕ) (flow : FlowEntry)
    (now : ℕ) : WorkerFairnessState :=
  let shed := (flow.noteStall state.config).classify state.config state.pressure.state now
  let state :=
    { state with
      shedDrops := satAdd u64Max state.shedDrops 1
      fairnessPenalties := satAdd u64Max state.fairnessPenalties 1 }
  state.putFlow connId flow shed

def requeueFrame (state : WorkerFairnessState) (connId : ℕ) (flow : FlowEntry)
    (frame : QueuedFrame) (now : ℕ) : WorkerFairnessState :=
  let requeued :=
    ((flow.noteStall state.config).pushFront frame).classify state.config
      state.pressure.state now
  let state := state.chargeBytes flow.fairness.bucketId frame.queuedBytes
  let state :=
    if flow.fairness.inActiveRing then state else state.enqueueActiveConn connId
  state.putFlow connId flow requeued

/-- The part of the full-route feedback before the close decision. -/
def stallFrame (state : WorkerFairnessState) (connId : ℕ) (flow : FlowEntry)
    (frame : QueuedFrame) (now : ℕ) : WorkerFairnessState :=
  if (flow.noteStall state.config).shouldShedFrame state.config state.pressure.state then
    state.shedFrame connId flow now
  else state.requeueFrame connId flow frame now

def shouldCloseFlow (state : WorkerFairnessState) (flow : FlowEntry) : Bool :=
  state.config.backpressureEnabled &&
    decide (state.config.maxConsecutiveStallsBeforeClose ≤
      (flow.noteStall state.config).fairness.consecutiveStalls) &&
    decide (state.pressure.state = .saturated)

def feedbackQueueFull (state : WorkerFairnessState) (connId : ℕ) (frame : QueuedFrame)
    (now : ℕ) : DispatchAction × WorkerFairnessState :=
  let state := state.noteRouteStall now
  match state.flows.lookup connId with
  | none => (.continue, state.evaluatePressure now true)
  | some flow =>
    let stalled := state.stallFrame connId flow frame now
    if state.shouldCloseFlow flow then
      (.closeFlow, (stalled.removeFlow connId).evaluatePressure now true)
    else (.continue, stalled.evaluatePressure now true)

def applyDispatchFeedback (state : WorkerFairnessState) (connId : ℕ)
    (candidate : DispatchCandidate) (feedback : DispatchFeedback) (now : ℕ) :
    DispatchAction × WorkerFairnessState :=
  match feedback with
  | .routed => (.continue, state.feedbackRouted connId candidate.frame now)
  | .queueFull => state.feedbackQueueFull connId candidate.frame now
  | .channelClosed | .noConn =>
    (.closeFlow, (state.removeFlow connId).evaluatePressure now true)

/-! ## Runs -/

inductive Op where
  | enqueueData (connId flags : ℕ) (data : List Byte) (now : ℕ)
  | dispatch (now : ℕ) (feedback : DispatchFeedback) (feedbackAt : ℕ)
  | removeFlow (connId : ℕ)
  | setBackpressureEnabled (enabled : Bool) (now : ℕ)
  deriving Repr, DecidableEq

def dispatch (state : WorkerFairnessState) (now : ℕ) (feedback : DispatchFeedback)
    (feedbackAt : ℕ) : WorkerFairnessState :=
  match state.nextDecision now with
  | (.idle, state) => state
  | (.dispatch candidate, state) =>
    (state.applyDispatchFeedback candidate.frame.connId candidate feedback
      feedbackAt).2

def step (state : WorkerFairnessState) : Op → WorkerFairnessState
  | .enqueueData connId flags data now => (state.enqueueData connId flags data now).2
  | .dispatch now feedback feedbackAt => state.dispatch now feedback feedbackAt
  | .removeFlow connId => state.removeFlow connId
  | .setBackpressureEnabled enabled now => state.setBackpressureEnabled enabled now

def run (state : WorkerFairnessState) (ops : List Op) : WorkerFairnessState :=
  ops.foldl step state

end WorkerFairnessState
end TupoProxy.Fairness
