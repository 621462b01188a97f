import TupoProxy.FairnessHistory
import TupoProxy.RpcCodec
import TupoProxy.Runs

/-!
# The reader loop of a middle-end connection

The loop reads decrypted bytes, cuts RPC frames out of them and hands data frames to
client channels.  With fair share on, a data frame goes through the fairness scheduler,
which is drained after every frame and by a retry timer while it has a backlog.  With
fair share off, a data frame is routed at once.  Both switches are read at the top of
every round.

What surrounds the loop is a `World`: the clock, the answers of the route table and of
the writer's command channel.  Each answer is indexed by the number of questions asked
before.  The events of a run, its scheduler operations and the frames it cut out are
recorded beside the state and read by no function.
-/

namespace TupoProxy.ReaderLoop

open ByteWords RpcCodec Fairness

inductive RouteResult where
  | noConn
  | channelClosed
  | queueFullBase
  | queueFullHigh
  | routed
  deriving Repr, DecidableEq

def dataRouteMaxAttempts : ℕ := 3
def dataRouteQueueFullStarvationThreshold : ℕ := 3
def fairnessDrainBudgetPerLoop : ℕ := 128

def shouldCloseOnRouteResultForData : RouteResult → Bool
  | .noConn | .channelClosed => true
  | .queueFullBase | .queueFullHigh | .routed => false

def shouldCloseOnRouteResultForAck : RouteResult → Bool
  | .noConn | .channelClosed => true
  | .queueFullBase | .queueFullHigh | .routed => false

def isDataRouteQueueFull : RouteResult → Bool
  | .queueFullBase | .queueFullHigh => true
  | .noConn | .channelClosed | .routed => false

def shouldCloseOnQueueFullStreakWithPolicy (streak : ℕ) (pressureState : PressureState)
    (backpressureEnabled : Bool) : Bool :=
  if !backpressureEnabled then false
  else if ¬ PressureState.shedding ≤ pressureState then false
  else decide (dataRouteQueueFullStarvationThreshold ≤ streak)

def shouldScheduleFairnessRetry (totalQueuedBytes : ℕ) : Bool :=
  decide (0 < totalQueuedBytes)

def routeFeedback : RouteResult → DispatchFeedback
  | .routed => .routed
  | .noConn => .noConn
  | .channelClosed => .channelClosed
  | .queueFullBase | .queueFullHigh => .queueFull

def rpcProxyAns : ℕ := 0x4403da0d
def rpcCloseConn : ℕ := 0x1fcf425d
def rpcCloseExt : ℕ := 0x5eb634a2
def rpcSimpleAck : ℕ := 0x3bac409b
def rpcPing : ℕ := 0x5730a2df
def rpcPong : ℕ := 0x8430eaa7

inductive RpcMessage where
  | proxyAns (flags connId : ℕ) (data : List Byte)
  | simpleAck (connId cfm : ℕ)
  | closeExt (connId : ℕ)
  | closeConn (connId : ℕ)
  | ping (pingId : ℕ)
  | pong (pingId : ℕ)
  | unknown (rpcType len : ℕ)
  deriving Repr, DecidableEq

def parseMessage (payload : List Byte) : RpcMessage :=
  let pt := leNat (payload.take 4)
  let body := payload.drop 4
  if pt = rpcProxyAns ∧ 12 ≤ body.length then
    .proxyAns (leNat (body.take 4)) (leNat ((body.drop 4).take 8)) (body.drop 12)
  else if pt = rpcSimpleAck ∧ 12 ≤ body.length then
    .simpleAck (leNat (body.take 8)) (leNat ((body.drop 8).take 4))
  else if pt = rpcCloseExt ∧ 8 ≤ body.length then .closeExt (leNat (body.take 8))
  else if pt = rpcCloseConn ∧ 8 ≤ body.length then .closeConn (leNat (body.take 8))
  else if pt = rpcPing ∧ 8 ≤ body.length then .ping (leNat (body.take 8))
  else if pt = rpcPong ∧ 8 ≤ body.length then .pong (leNat (body.take 8))
  else .unknown pt body.length

inductive PongSend where
  | sent
  | full
  | closed
  deriving Repr, DecidableEq

structure World where
  rpcCrc : Checksum
  clock : ℕ → ℕ
  route : ℕ → RouteResult
  pong : ℕ → PongSend

inductive ReaderEvent where
  | received (connId flags : ℕ) (data : List Byte)
  | scheduled (event : FrameEvent)
  | direct (connId flags : ℕ) (data : List Byte)
  | ackDelivered (connId cfm : ℕ)
  | closeDelivered (connId : ℕ)
  | unregistered (connId : ℕ)
  | closeSent (connId : ℕ)
  deriving Repr, DecidableEq

structure Routing where
  fairness : WorkerFairnessState
  dataRouteQueueFullStreak : Table ℕ ℕ
  snapshotBytes : ℕ
  clockReads : ℕ
  routeCalls : ℕ
  pongCalls : ℕ
  ops : List WorkerFairnessState.Op
  events : List ReaderEvent
  deriving DecidableEq

namespace Routing

variable (world : World)

def log (events : List ReaderEvent) (routing : Routing) : Routing :=
  { routing with events := routing.events ++ events }

def applyOp (op : WorkerFairnessState.Op) (routing : Routing) : Routing :=
  { routing with
    fairness := routing.fairness.step op
    ops := routing.ops ++ [op]
    events := routing.events ++ (routing.fairness.events op).map .scheduled }

def readClock (routing : Routing) : Routing :=
  { routing with clockReads := routing.clockReads + 1 }

def streakOf (connId : ℕ) (routing : Routing) : ℕ :=
  (routing.dataRouteQueueFullStreak.lookup connId).getD 0

def clearStreak (connId : ℕ) (routing : Routing) : Routing :=
  { routing with
    dataRouteQueueFullStreak := routing.dataRouteQueueFullStreak.erase connId }

def bumpStreak (connId : ℕ) (routing : Routing) : Routing :=
  { routing with
    dataRouteQueueFullStreak :=
      routing.dataRouteQueueFullStreak.insert connId
        (satAdd u8Max (routing.streakOf connId) 1) }

def refreshSnapshot (routing : Routing) : Routing :=
  { routing with snapshotBytes := routing.fairness.totalQueuedBytes }

def dropConn (connId : ℕ) (routing : Routing) : Routing :=
  ((routing.applyOp (.removeFlow connId)).clearStreak connId).log
    [.unregistered connId, .closeSent connId]

/-- The answer to the last attempt, and the number of route calls made so far.  The first
argument counts the attempts that may still follow. -/
def routeDataWithRetry : ℕ → ℕ → RouteResult × ℕ
  | 0, calls => (world.route calls, calls + 1)
  | left + 1, calls =>
    if isDataRouteQueueFull (world.route calls) then routeDataWithRetry left (calls + 1)
    else (world.route calls, calls + 1)

def routeData (routing : Routing) : RouteResult × Routing :=
  let answer := routeDataWithRetry world (dataRouteMaxAttempts - 1) routing.routeCalls
  (answer.1, { routing with routeCalls := answer.2 })

/-- What follows the feedback for a dispatched frame. -/
def afterDispatch (backpressureEnabled : Bool) (connId : ℕ) (pressureState : PressureState)
    (result : RouteResult) (action : DispatchAction) (routing : Routing) : Routing :=
  let routing := if isDataRouteQueueFull result then routing.bumpStreak connId else routing
  if isDataRouteQueueFull result && shouldCloseOnQueueFullStreakWithPolicy
      (routing.streakOf connId) pressureState backpressureEnabled then
    routing.dropConn connId
  else if action = .closeFlow ∨ shouldCloseOnRouteResultForData result then
    routing.dropConn connId
  else routing

/-- One round of the drain with a dispatched frame.  The scheduler still is in the state
before the decision: the operation takes the decision and gives the feedback. -/
def dispatchFrame (backpressureEnabled : Bool) (now : ℕ) (candidate : DispatchCandidate)
    (routing : Routing) : Routing :=
  let connId := candidate.frame.connId
  let sent := routing.routeData world
  let feedback := routeFeedback sent.1
  let action := ((routing.fairness.nextDecision now).2.applyDispatchFeedback connId candidate
    feedback now).1
  let routing := if sent.1 = .routed then sent.2.clearStreak connId else sent.2
  (routing.applyOp (.dispatch now feedback now)).afterDispatch backpressureEnabled connId
    candidate.pressureState sent.1 action

def drainFairnessScheduler (backpressureEnabled : Bool) : ℕ → Routing → Routing
  | 0, routing => routing
  | budget + 1, routing =>
    let now := world.clock routing.clockReads
    match (routing.fairness.nextDecision now).1 with
    | .idle => routing.readClock.applyOp (.dispatch now .routed now)
    | .dispatch candidate =>
      drainFairnessScheduler backpressureEnabled budget
        (routing.readClock.dispatchFrame world backpressureEnabled now candidate)

def drainAndRefresh (backpressureEnabled : Bool) (routing : Routing) : Routing :=
  (routing.drainFairnessScheduler world backpressureEnabled
    fairnessDrainBudgetPerLoop).refreshSnapshot

def enqueueAns (backpressureEnabled : Bool) (flags connId : ℕ) (data : List Byte)
    (routing : Routing) : Routing :=
  let now := world.clock routing.clockReads
  let admission := (routing.fairness.enqueueData connId flags data now).1
  let routing := routing.readClock.applyOp (.enqueueData connId flags data now)
  if admission = .admitted then routing
  else
    let routing := routing.bumpStreak connId
    if shouldCloseOnQueueFullStreakWithPolicy (routing.streakOf connId)
          routing.fairness.pressure.state backpressureEnabled ||
        (backpressureEnabled && decide (admission = .rejectSaturated)) then
      routing.dropConn connId
    else routing

inductive Next where
  | drain
  | nextFrame
  | leave
  deriving Repr, DecidableEq

def routeAns (backpressureEnabled : Bool) (flags connId : ℕ) (data : List Byte)
    (routing : Routing) : Next × Routing :=
  let sent := routing.routeData world
  if sent.1 = .routed then
    (.nextFrame, (sent.2.clearStreak connId).log [.direct connId flags data])
  else if shouldCloseOnRouteResultForData sent.1 then
    (.nextFrame, sent.2.dropConn connId)
  else if isDataRouteQueueFull sent.1 then
    let routing := sent.2.bumpStreak connId
    if shouldCloseOnQueueFullStreakWithPolicy (routing.streakOf connId) .shedding
        backpressureEnabled then
      (.drain, routing.dropConn connId)
    else (.drain, routing)
  else (.drain, sent.2)

def onProxyAns (backpressureEnabled fairshareEnabled : Bool) (flags connId : ℕ)
    (data : List Byte) (routing : Routing) : Next × Routing :=
  let routing := routing.log [.received connId flags data]
  if fairshareEnabled then
    (.drain, routing.enqueueAns world backpressureEnabled flags connId data)
  else routing.routeAns world backpressureEnabled flags connId data

def routeNowait (routing : Routing) : RouteResult × Routing :=
  (world.route routing.routeCalls, { routing with routeCalls := routing.routeCalls + 1 })

def onSimpleAck (connId cfm : ℕ) (routing : Routing) : Routing :=
  let sent := routing.routeNowait world
  if sent.1 = .routed then sent.2.log [.ackDelivered connId cfm]
  else if shouldCloseOnRouteResultForAck sent.1 then
    sent.2.log [.unregistered connId, .closeSent connId]
  else sent.2

def forgetConn (connId : ℕ) (routing : Routing) : Routing :=
  ((routing.log [.unregistered connId]).clearStreak connId).applyOp (.removeFlow connId)

def onClose (connId : ℕ) (routing : Routing) : Routing :=
  let sent := routing.routeNowait world
  if sent.1 = .routed then (sent.2.log [.closeDelivered connId]).forgetConn connId
  else sent.2.forgetConn connId

def onPing (routing : Routing) : Next × Routing :=
  let answer := world.pong routing.pongCalls
  let routing := { routing with pongCalls := routing.pongCalls + 1 }
  if answer = .closed then (.leave, routing) else (.drain, routing)

def onMessage (backpressureEnabled fairshareEnabled : Bool) (routing : Routing) :
    RpcMessage → Next × Routing
  | .proxyAns flags connId data =>
    routing.onProxyAns world backpressureEnabled fairshareEnabled flags connId data
  | .simpleAck connId cfm => (.drain, routing.onSimpleAck world connId cfm)
  | .closeExt connId => (.drain, routing.onClose world connId)
  | .closeConn connId => (.drain, routing.onClose world connId)
  | .ping _ => routing.onPing world
  | .pong _ => (.drain, routing)
  | .unknown _ _ => (.drain, routing)

/-- The work for one frame.  The flag tells whether the frame loop goes on. -/
def onFrame (backpressureEnabled fairshareEnabled : Bool) (frame : List Byte)
    (routing : Routing) : Bool × Routing :=
  let payload := (frame.take (frame.length - 4)).drop 8
  if payload.length < 4 then (true, routing)
  else
    let handled :=
      routing.onMessage world backpressureEnabled fairshareEnabled (parseMessage payload)
    match handled.1 with
    | .drain => (true, handled.2.drainAndRefresh world backpressureEnabled)
    | .nextFrame => (true, handled.2)
    | .leave => (false, handled.2)

end Routing

structure ReaderState where
  dec : List Byte
  expectedSeq : ℕ
  ended : Option RpcError
  frames : List (List Byte)
  routing : Routing
  deriving DecidableEq

inductive Wake where
  | read (plain : List Byte)
  | retry
  deriving Repr, DecidableEq

structure Round where
  backpressureEnabled : Bool
  fairshareEnabled : Bool
  wake : Wake
  deriving Repr, DecidableEq

/-- The limits that follow from the capacity of a route channel. -/
def readerConfig (capacity : ℕ) (backpressureEnabled : Bool) : WorkerFairnessConfig :=
  { backpressureEnabled := backpressureEnabled
    maxActiveFlows := max (min (capacity * 4) u64Max) 256
    maxTotalQueuedBytes := max (min (capacity * (16 * 1024)) u64Max) (4 * 1024 * 1024)
    maxFlowQueuedBytes :=
      min (max (min (capacity * (2 * 1024)) u64Max) (64 * 1024)) (2 * 1024 * 1024) }

namespace ReaderState

variable (world : World)

/-- The state before the first round, with the decrypted bytes that the handshake left. -/
def start (config : WorkerFairnessConfig) (now : ℕ) (dec : List Byte) : ReaderState where
  dec := dec
  expectedSeq := 0
  ended := none
  frames := []
  routing :=
    { fairness := .new config now
      dataRouteQueueFullStreak := ∅
      snapshotBytes := (WorkerFairnessState.new config now).totalQueuedBytes
      clockReads := 0
      routeCalls := 0
      pongCalls := 0
      ops := []
      events := [] }

/-- The frame loop.  Every round but the last removes at least four bytes. -/
def frameLoop (backpressureEnabled fairshareEnabled : Bool) : ℕ → ReaderState → ReaderState
  | 0, state => state
  | rounds + 1, state =>
    match front world.rpcCrc state.expectedSeq state.dec with
    | .wait => state
    | .skip =>
      frameLoop backpressureEnabled fairshareEnabled rounds
        { state with dec := state.dec.drop 4 }
    | .reset => { state with dec := [] }
    | .failed error => { state with ended := some error }
    | .frame frame =>
      let handled :=
        state.routing.onFrame world backpressureEnabled fairshareEnabled frame
      let state : ReaderState :=
        { dec := state.dec.drop frame.length
          expectedSeq := nextSeq state.expectedSeq
          ended := none
          frames := state.frames ++ [frame]
          routing := handled.2 }
      if handled.1 then frameLoop backpressureEnabled fairshareEnabled rounds state
      else state

def retryArmed (state : ReaderState) : Bool :=
  shouldScheduleFairnessRetry state.routing.snapshotBytes

def setBackpressure (enabled : Bool) (state : ReaderState) : ReaderState :=
  { state with
    routing :=
      state.routing.readClock.applyOp
        (.setBackpressureEnabled enabled (world.clock state.routing.clockReads)) }

/-- A round of a loop that has not ended.  The retry branch is not taken unless armed. -/
def step (round : Round) (state : ReaderState) : ReaderState :=
  if state.ended.isSome then state
  else
    let state := state.setBackpressure world round.backpressureEnabled
    match round.wake with
    | .read plain =>
      let dec := state.dec ++ plain
      frameLoop world round.backpressureEnabled round.fairshareEnabled (dec.length + 1)
        { state with dec := dec }
    | .retry =>
      if state.retryArmed then
        { state with
          routing := state.routing.drainAndRefresh world round.backpressureEnabled }
      else state

end ReaderState

/-! ## What a round does to the scheduler and to the events -/

/-- The changes of which the work behind the frame cutter is made, the delivery of a
close apart.  A data frame is offered to the scheduler with fair share on and routed with
fair share off. -/
inductive Move (fairshareEnabled : Bool) (routing : Routing) : Routing → Prop where
  | quiet {next : Routing} (hfairness : next.fairness = routing.fairness)
      (hops : next.ops = routing.ops) (hevents : next.events = routing.events) :
      Move fairshareEnabled routing next
  | acked (connId cfm : ℕ) :
      Move fairshareEnabled routing (routing.log [.ackDelivered connId cfm])
  | unregistered (connId : ℕ) :
      Move fairshareEnabled routing (routing.log [.unregistered connId])
  | closeSent (connId : ℕ) : Move fairshareEnabled routing (routing.log [.closeSent connId])
  | removed (connId : ℕ) : Move fairshareEnabled routing (routing.applyOp (.removeFlow connId))
  | dispatched (now : ℕ) (feedback : DispatchFeedback) :
      Move fairshareEnabled routing (routing.applyOp (.dispatch now feedback now))
  | switched (enabled : Bool) (now : ℕ) :
      Move fairshareEnabled routing (routing.applyOp (.setBackpressureEnabled enabled now))
  | offered (hfair : fairshareEnabled = true) (connId flags : ℕ) (data : List Byte) (now : ℕ) :
      Move fairshareEnabled routing
        ((routing.log [.received connId flags data]).applyOp
          (.enqueueData connId flags data now))
  | received (hdirect : fairshareEnabled = false) (connId flags : ℕ) (data : List Byte) :
      Move fairshareEnabled routing (routing.log [.received connId flags data])
  | delivered (hdirect : fairshareEnabled = false) (connId flags : ℕ) (data : List Byte) :
      Move fairshareEnabled routing
        (routing.log [.received connId flags data, .direct connId flags data])

abbrev Moves (fairshareEnabled : Bool) : Routing → Routing → Prop :=
  Relation.ReflTransGen (Move fairshareEnabled)

namespace Routing

variable (world : World) {fairshareEnabled : Bool} {routing middle next : Routing}

section

variable (hmoves : Moves fairshareEnabled routing middle)
include hmoves

theorem moves_quiet (hfairness : next.fairness = middle.fairness) (hops : next.ops = middle.ops)
    (hevents : next.events = middle.events) : Moves fairshareEnabled routing next :=
  hmoves.tail (.quiet hfairness hops hevents)

omit hmoves in
theorem log_append (left right : List ReaderEvent) (routing : Routing) :
    (routing.log left).log right = routing.log (left ++ right) := by
  unfold log
  rw [List.append_assoc]

variable (connId : ℕ)

theorem moves_dropConn : Moves fairshareEnabled routing (middle.dropConn connId) := by
  have hremoved := hmoves.tail (.removed connId)
  have hcleared : Moves fairshareEnabled routing
      ((middle.applyOp (.removeFlow connId)).clearStreak connId) := moves_quiet hremoved rfl rfl rfl
  have hsent := (hcleared.tail (.unregistered connId)).tail (.closeSent connId)
  rw [log_append] at hsent
  exact hsent

theorem moves_forgetConn : Moves fairshareEnabled routing (middle.forgetConn connId) := by
  have hlogged := hmoves.tail (.unregistered connId)
  have hcleared : Moves fairshareEnabled routing
      ((middle.log [.unregistered connId]).clearStreak connId) := moves_quiet hlogged rfl rfl rfl
  exact hcleared.tail (.removed connId)

theorem moves_bumpStreak : Moves fairshareEnabled routing (middle.bumpStreak connId) :=
  moves_quiet hmoves rfl rfl rfl

omit hmoves in
theorem moves_routeNowait (routing : Routing) :
    Moves fairshareEnabled routing (routing.routeNowait world).2 :=
  moves_quiet .refl rfl rfl rfl

variable (backpressureEnabled : Bool)

theorem moves_afterDispatch (connId : ℕ) (pressureState : PressureState)
    (result : RouteResult) (action : DispatchAction) :
    Moves fairshareEnabled routing
      (middle.afterDispatch backpressureEnabled connId pressureState result action) := by
  have hcounted : Moves fairshareEnabled routing
      (if isDataRouteQueueFull result then middle.bumpStreak connId else middle) := by
    split
    · exact moves_bumpStreak hmoves connId
    · exact hmoves
  unfold afterDispatch
  dsimp only
  generalize (if isDataRouteQueueFull result then middle.bumpStreak connId else middle) =
    counted at hcounted ⊢
  split
  · exact moves_dropConn hcounted connId
  · split
    · exact moves_dropConn hcounted connId
    · exact hcounted

theorem moves_dispatchFrame (now : ℕ) (candidate : DispatchCandidate) :
    Moves fairshareEnabled routing
      (middle.dispatchFrame world backpressureEnabled now candidate) := by
  apply moves_afterDispatch
  apply Relation.ReflTransGen.tail _ (.dispatched now _)
  split <;> exact moves_quiet hmoves rfl rfl rfl

theorem moves_drain (budget : ℕ) :
    Moves fairshareEnabled routing
      (middle.drainFairnessScheduler world backpressureEnabled budget) := by
  induction budget generalizing middle with
  | zero => exact hmoves
  | succ budget ih =>
    have hread : Moves fairshareEnabled routing middle.readClock := moves_quiet hmoves rfl rfl rfl
    simp only [drainFairnessScheduler]
    split
    · exact hread.tail (.dispatched _ _)
    · exact ih (moves_dispatchFrame world hread backpressureEnabled _ _)

theorem moves_drainAndRefresh :
    Moves fairshareEnabled routing (middle.drainAndRefresh world backpressureEnabled) :=
  moves_quiet (moves_drain world hmoves backpressureEnabled fairnessDrainBudgetPerLoop) rfl rfl rfl

end

theorem moves_enqueueAns (hfair : fairshareEnabled = true) (backpressureEnabled : Bool)
    (flags connId : ℕ) (data : List Byte) (routing : Routing) :
    Moves fairshareEnabled routing
      ((routing.log [.received connId flags data]).enqueueAns world backpressureEnabled flags
        connId data) := by
  have hread : Moves fairshareEnabled routing routing.readClock := moves_quiet .refl rfl rfl rfl
  have hoffered : Moves fairshareEnabled routing
      ((routing.log [.received connId flags data]).readClock.applyOp
        (.enqueueData connId flags data (world.clock routing.clockReads))) :=
    hread.tail (.offered hfair connId flags data _)
  unfold enqueueAns
  dsimp only
  split
  · exact hoffered
  · split
    · exact moves_dropConn (moves_bumpStreak hoffered connId) connId
    · exact moves_bumpStreak hoffered connId

theorem moves_routeAns (hdirect : fairshareEnabled = false) (backpressureEnabled : Bool)
    (flags connId : ℕ) (data : List Byte) (routing : Routing) :
    Moves fairshareEnabled routing
      ((routing.log [.received connId flags data]).routeAns world backpressureEnabled flags
        connId data).2 := by
  have hreceived : Moves fairshareEnabled routing
      ((routing.log [.received connId flags data]).routeData world).2 :=
    moves_quiet (.single (.received hdirect connId flags data)) rfl rfl rfl
  unfold routeAns
  dsimp only
  split
  · have hcleared : Moves fairshareEnabled routing
        ((routing.routeData world).2.clearStreak connId) := moves_quiet .refl rfl rfl rfl
    have hdelivered := hcleared.tail (.delivered hdirect connId flags data)
    rw [← List.singleton_append, ← log_append] at hdelivered
    exact hdelivered
  · split
    · exact moves_dropConn hreceived connId
    · split
      · split
        · exact moves_dropConn (moves_bumpStreak hreceived connId) connId
        · exact moves_bumpStreak hreceived connId
      · exact hreceived

section

variable (backpressureEnabled fairshareEnabled : Bool)

theorem onProxyAns_ne_leave (flags connId : ℕ) (data : List Byte) (routing : Routing) :
    (routing.onProxyAns world backpressureEnabled fairshareEnabled flags connId data).1 ≠
      .leave := by
  unfold onProxyAns routeAns
  dsimp only
  split
  · nofun
  · split
    · nofun
    · split
      · nofun
      · split
        · split <;> nofun
        · nofun

theorem onMessage_moves (routing : Routing) (message : RpcMessage) :
    Moves fairshareEnabled routing
        (routing.onMessage world backpressureEnabled fairshareEnabled message).2 ∨
      ∃ connId, Moves fairshareEnabled (routing.log [.closeDelivered connId])
        (routing.onMessage world backpressureEnabled fairshareEnabled message).2 := by
  have hclose : ∀ connId, Moves fairshareEnabled routing (routing.onClose world connId) ∨
      ∃ connId', Moves fairshareEnabled (routing.log [.closeDelivered connId'])
        (routing.onClose world connId) := by
    intro connId
    unfold onClose
    dsimp only
    split
    · exact Or.inr ⟨connId, moves_forgetConn
        (moves_routeNowait world (routing.log [.closeDelivered connId])) connId⟩
    · exact Or.inl (moves_forgetConn (moves_routeNowait world routing) connId)
  cases message with
  | proxyAns flags connId data =>
    apply Or.inl
    simp only [onMessage, onProxyAns]
    cases hshare : fairshareEnabled with
    | true =>
      exact moves_enqueueAns world rfl backpressureEnabled flags connId data routing
    | false =>
      exact moves_routeAns world rfl backpressureEnabled flags connId data routing
  | simpleAck connId cfm =>
    have hcalled : Moves fairshareEnabled routing (routing.routeNowait world).2 :=
      moves_routeNowait world routing
    apply Or.inl
    simp only [onMessage, onSimpleAck]
    split
    · exact hcalled.tail (.acked connId cfm)
    · split
      · have hsent := (hcalled.tail (.unregistered connId)).tail (.closeSent connId)
        rw [log_append] at hsent
        exact hsent
      · exact hcalled
  | closeExt connId => exact hclose connId
  | closeConn connId => exact hclose connId
  | ping pingId =>
    apply Or.inl
    simp only [onMessage, onPing]
    split <;> exact moves_quiet .refl rfl rfl rfl
  | pong | unknown => exact Or.inl .refl

theorem onFrame_moves (frame : List Byte) (routing : Routing) :
    Moves fairshareEnabled routing
        (routing.onFrame world backpressureEnabled fairshareEnabled frame).2 ∨
      ∃ connId, Moves fairshareEnabled (routing.log [.closeDelivered connId])
        (routing.onFrame world backpressureEnabled fairshareEnabled frame).2 := by
  unfold onFrame
  dsimp only
  split
  · exact Or.inl .refl
  · have hmessage := onMessage_moves world backpressureEnabled fairshareEnabled routing
      (parseMessage ((frame.take (frame.length - 4)).drop 8))
    split
    · exact hmessage.imp
        (fun hmoves => moves_drainAndRefresh world hmoves backpressureEnabled)
        (fun hclosed => hclosed.imp fun connId hmoves =>
          moves_drainAndRefresh world hmoves backpressureEnabled)
    · exact hmessage
    · exact hmessage

end

end Routing

/-! ## Invariants of the routing state -/

/-- A property of the routing state that every move and every delivered close of a round
keeps. -/
structure Kept (fairshareEnabled : Bool) (holds : Routing → Prop) : Prop where
  move : ∀ routing next, holds routing → Move fairshareEnabled routing next → holds next
  close : ∀ routing connId, holds routing → holds (routing.log [.closeDelivered connId])

namespace Kept

variable {fairshareEnabled : Bool} {holds : Routing → Prop}

theorem moves {routing next : Routing} (hkept : Kept fairshareEnabled holds)
    (hholds : holds routing) (hmoves : Moves fairshareEnabled routing next) : holds next := by
  induction hmoves with
  | refl => exact hholds
  | tail _ hmove ih => exact hkept.move _ _ ih hmove

variable (world : World)

theorem onFrame {routing : Routing} (hkept : Kept fairshareEnabled holds)
    (hholds : holds routing) (backpressureEnabled : Bool) (frame : List Byte) :
    holds (routing.onFrame world backpressureEnabled fairshareEnabled frame).2 := by
  rcases Routing.onFrame_moves world backpressureEnabled fairshareEnabled frame routing with
    hmoves | ⟨connId, hmoves⟩
  · exact hkept.moves hholds hmoves
  · exact hkept.moves (hkept.close routing connId hholds) hmoves

theorem frameLoop (hkept : Kept fairshareEnabled holds) (backpressureEnabled : Bool)
    (rounds : ℕ) {state : ReaderState} (hholds : holds state.routing) :
    holds (state.frameLoop world backpressureEnabled fairshareEnabled rounds).routing := by
  induction rounds generalizing state with
  | zero => exact hholds
  | succ rounds ih =>
    simp only [ReaderState.frameLoop]
    split
    · exact hholds
    · exact ih hholds
    · exact hholds
    · exact hholds
    · next frame _ =>
      have hframe := hkept.onFrame world hholds backpressureEnabled frame
      split
      · exact ih hframe
      · exact hframe

theorem step {state : ReaderState} {round : Round}
    (hkept : Kept round.fairshareEnabled holds) (hholds : holds state.routing) :
    holds (ReaderState.step world round state).routing := by
  unfold ReaderState.step
  split
  · exact hholds
  · have hswitched : holds (state.setBackpressure world round.backpressureEnabled).routing :=
      hkept.moves hholds ((Relation.ReflTransGen.single (.quiet rfl rfl rfl)).tail (.switched _ _))
    dsimp only
    split
    · exact hkept.frameLoop world _ _ hswitched
    · split
      · exact hkept.moves hswitched (Routing.moves_drainAndRefresh world .refl _)
      · exact hswitched

end Kept

end TupoProxy.ReaderLoop
