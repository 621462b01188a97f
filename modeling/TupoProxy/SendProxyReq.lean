import TupoProxy.ConnRegistry
import TupoProxy.ProxyReqWire
import TupoProxy.Runs

/-!
# Sending proxy requests

A call of `send_proxy_req` looks for the writer its connection is bound to; if
there is none, it walks over the candidates of the target DC, reserves bytes
and a command slot, and binds the connection.  A writer that turns out to be
unusable is removed from the pool on the way.

Calls run concurrently with each other and with everything else that changes
the pool, the registry and the command channels.  A call is a program counter
that stands at a place where it may be suspended; one action of the system runs
one call to its next such place or lets something else happen.  The order in
which a call tries its candidates, the end of a wait by its timeout and the
clock are taken from the action.
-/

namespace TupoProxy.MiddleProxy

open ProxyReqWire

inductive MeBindStaleMode where
  | never
  | ttl
  | always
  deriving Repr, DecidableEq

inductive MeRouteNoWriterMode where
  | asyncRecoveryFailfast
  | inlineRecoveryLegacy
  | hybridAsyncPersistent
  deriving Repr, DecidableEq

structure RouteConfig where
  noWriterMode : MeRouteNoWriterMode
  blockingSendTimeout : Option ℕ
  inlineRecoveryAttempts : ℕ
  bindStaleMode : MeBindStaleMode
  bindStaleTtlSecs : ℕ
  preferredEndpointsByDc : Table ℤ (List SocketAddr)
  defaultDc : ℤ
  proxyTag : Option (List Byte)
  writerByteBudgetPermits : ℕ

def RouteConfig.writerAcceptsNewBinding (now : ℕ) (config : RouteConfig) (writer : MeWriter) :
    Bool :=
  if writer.draining = false then true
  else if writer.allowDrainFallback = false then false
  else
    match config.bindStaleMode with
    | .never => false
    | .always => true
    | .ttl =>
      if config.bindStaleTtlSecs = 0 then true
      else if writer.drainingStartedAtEpochSecs = 0 then false
      else now - writer.drainingStartedAtEpochSecs ≤ config.bindStaleTtlSecs

def RouteConfig.writerEligibleForSelection (now : ℕ) (includeWarm : Bool)
    (config : RouteConfig) (writer : MeWriter) : Bool :=
  config.writerAcceptsNewBinding now writer &&
    match writer.contour with
    | .active => true
    | .warm => includeWarm
    | .draining => true

def RouteConfig.candidateIdsForDc (now : ℕ) (routedDc : ℤ) (includeWarm : Bool)
    (config : RouteConfig) (writers : Writers) : List ℕ :=
  match config.preferredEndpointsByDc.lookup routedDc with
  | none => []
  | some preferred =>
    (writers.entries.filter fun writer =>
      config.writerEligibleForSelection now includeWarm writer ∧
        writer.writerDc = routedDc ∧ writer.addr ∈ preferred).map MeWriter.id

/-- Warm writers are taken only when there is no other candidate. -/
def RouteConfig.candidateIds (now : ℕ) (routedDc : ℤ) (config : RouteConfig)
    (writers : Writers) : List ℕ :=
  match config.candidateIdsForDc now routedDc false writers with
  | [] => config.candidateIdsForDc now routedDc true writers
  | candidates => candidates

def RouteConfig.defaultDcForRouting (config : RouteConfig) : ℤ :=
  if config.defaultDc = 0 then 2 else config.defaultDc

def MePool.hasConfiguredEndpointsForDc (dc : ℤ) (pool : MePool) : Bool :=
  (pool.decision.ipv4Me && (pool.proxyMapV4.lookup dc).any fun endpoints => endpoints ≠ []) ||
    (pool.decision.ipv6Me && (pool.proxyMapV6.lookup dc).any fun endpoints => endpoints ≠ [])

def resolveTargetDcForRouting (targetDc : ℤ) (config : RouteConfig) (pool : MePool) :
    ℤ × Bool :=
  if targetDc = 0 then (config.defaultDcForRouting, true)
  else if pool.hasConfiguredEndpointsForDc targetDc then (targetDc, false)
  else (config.defaultDcForRouting, true)

inductive WriterCommand where
  | data (payload : List Byte)
  | proxyReq (connId : ℕ) (clientAddr ourAddr : SocketAddr) (protoFlags : ℕ)
      (proxyTag : Option (List Byte)) (payload : List Byte)
  | controlAndFlush (payload : List Byte)
  | close
  deriving DecidableEq

structure WriterLine where
  capacity : ℕ
  queue : List WriterCommand
  reservedSlots : ℕ
  channelClosed : Bool
  freePermits : ℕ
  budgetClosed : Bool
  deriving DecidableEq

inductive TryAcquire where
  | acquired
  | noPermits
  | closed
  deriving Repr, DecidableEq

def WriterLine.tryReserveBytes (permits : ℕ) (line : WriterLine) : TryAcquire :=
  if line.budgetClosed then .closed
  else if permits ≤ line.freePermits then .acquired
  else .noPermits

def WriterLine.tryReserveSlot (line : WriterLine) : TryAcquire :=
  if line.channelClosed then .closed
  else if line.queue.length + line.reservedSlots < line.capacity then .acquired
  else .noPermits

def WriterLine.takeBytes (permits : ℕ) (line : WriterLine) : WriterLine :=
  { line with freePermits := line.freePermits - permits }

def WriterLine.releaseBytes (permits : ℕ) (line : WriterLine) : WriterLine :=
  { line with freePermits := line.freePermits + permits }

def WriterLine.takeSlot (line : WriterLine) : WriterLine :=
  { line with reservedSlots := line.reservedSlots + 1 }

def WriterLine.releaseSlot (line : WriterLine) : WriterLine :=
  { line with reservedSlots := line.reservedSlots - 1 }

def WriterLine.push (command : WriterCommand) (line : WriterLine) : WriterLine :=
  { line with queue := line.queue ++ [command] }

structure SendCall where
  connId : ℕ
  targetDc : ℤ
  clientAddr : SocketAddr
  ourAddr : SocketAddr
  data : List Byte
  protoFlags : ℕ
  tagOverride : Option (List Byte)
  /-- The capacity of the pooled buffer, for a call of `send_proxy_req_pooled`. -/
  pooledCapacity : Option ℕ
  deriving DecidableEq

inductive SendError where
  | residencyOverflow
  | exceedsByteBudget
  | byteBudgetFull
  | channelFull
  | noWriterFailfast
  | noWriterLegacy
  | noWriterHybrid
  | noCandidateFailfast
  | noCandidate
  | noCandidateHybrid
  deriving Repr, DecidableEq

inductive Resume where
  | top
  | scan (rest : List ℕ) (fallback : Option ℕ)
  deriving DecidableEq

/-- A removal in progress; `held` if the call still holds bytes of the writer. -/
structure Removal where
  writerId : ℕ
  held : Bool
  resume : Resume
  deriving DecidableEq

inductive Shortage where
  | noWriter
  | noCandidate
  deriving Repr, DecidableEq

/-- The places where a call may be suspended. -/
inductive Pc where
  | enter
  | boundBytes (writerId : ℕ) (conn : ConnMeta)
  | boundSlot (writerId : ℕ) (command : WriterCommand)
  | recover (shortage : Shortage)
  | scan (rest : List ℕ) (fallback : Option ℕ)
  | fallbackBytes (writerId : ℕ)
  | fallbackSlot (writerId : ℕ)
  | bind (writerId : ℕ) (resume : Resume)
  | removePool (removal : Removal)
  | removeRegistry (removal : Removal) (removed : Bool)
  | removeClose (removal : Removal) (removed : Bool)
  | finished (result : Except SendError Unit)

structure SendTask where
  call : SendCall
  pooled : Bool
  permits : ℕ
  routedDc : ℤ
  unknownTargetDc : Bool
  emergencyAttempts : ℕ
  pc : Pc

def SendTask.at (pc : Pc) (task : SendTask) : SendTask := { task with pc := pc }

def SendTask.fail (error : SendError) (task : SendTask) : SendTask :=
  task.at (.finished (.error error))

def meWriterBytePermitUnitBytes : ℕ := 16 * 1024
def rpcWriterFrameCapacityOverheadBytes : ℕ := 27
def legacyProxyReqSourceCapacityOverheadBytes : ℕ := 128

def checkedAdd (a b : ℕ) : Option ℕ := if a + b ≤ u64Max then some (a + b) else none

def writerResidentPermits (sourceCapacity encodedPayloadLen : ℕ) : Option ℕ :=
  (checkedAdd sourceCapacity encodedPayloadLen).bind fun bytes =>
    (checkedAdd bytes rpcWriterFrameCapacityOverheadBytes).bind fun residentBytes =>
      let permits :=
        (residentBytes + (meWriterBytePermitUnitBytes - 1)) / meWriterBytePermitUnitBytes
      if permits < 2 ^ 32 ∧ permits * meWriterBytePermitUnitBytes ≤ u64Max then
        some (max permits 1)
      else none

def SendCall.tag (config : RouteConfig) (call : SendCall) : Option (List Byte) :=
  match call.pooledCapacity with
  | none => call.tagOverride.or config.proxyTag
  | some _ => call.tagOverride.or (config.proxyTag.filter fun tag => tag.length = 16)

/-- The tag of the path without a pooled buffer, also when a pooled call falls
back to it. -/
def SendCall.legacyTag (config : RouteConfig) (call : SendCall) : Option (List Byte) :=
  (call.tag config).or config.proxyTag

def SendCall.legacyPermits (config : RouteConfig) (call : SendCall) : Option ℕ :=
  (checkedAdd call.data.length legacyProxyReqSourceCapacityOverheadBytes).bind
    fun sourceCapacity =>
      writerResidentPermits sourceCapacity
        (proxyReqPayloadLen call.data.length (call.legacyTag config) call.protoFlags)

def SendCall.pooledPermits (config : RouteConfig) (capacity : ℕ) (call : SendCall) :
    Option ℕ :=
  writerResidentPermits capacity
    (proxyReqPayloadLen call.data.length (call.tag config) call.protoFlags)

def SendTask.checkBudget (config : RouteConfig) (permits : Option ℕ) (task : SendTask) : SendTask :=
  match permits with
  | none => task.fail .residencyOverflow
  | some permits =>
    if config.writerByteBudgetPermits < permits then task.fail .exceedsByteBudget
    else { task with permits := permits, pc := .enter }

def SendTask.beginLegacy (config : RouteConfig) (pool : MePool) (task : SendTask) : SendTask :=
  let resolved := resolveTargetDcForRouting task.call.targetDc config pool
  { task with
    pooled := false
    routedDc := resolved.1
    unknownTargetDc := resolved.2
    emergencyAttempts := 0 }.checkBudget config (task.call.legacyPermits config)

def SendCall.begin (config : RouteConfig) (pool : MePool) (call : SendCall) : SendTask :=
  let task : SendTask :=
    { call := call
      pooled := call.pooledCapacity.isSome
      permits := 0
      routedDc := 0
      unknownTargetDc := false
      emergencyAttempts := 0
      pc := .enter }
  match call.pooledCapacity with
  | none => task.beginLegacy config pool
  | some capacity => task.checkBudget config (call.pooledPermits config capacity)

/-! ## The system -/

structure System where
  pool : MePool
  config : RouteConfig
  registry : ConnRegistry
  lines : ℕ → WriterLine
  /-- Writers that left the pool; calls may still hold them. -/
  retired : ℕ → Option MeWriter
  tasks : ℕ → Option SendTask

structure Choice where
  now : ℕ
  timedOut : Bool
  order : List ℕ
  deriving Repr, DecidableEq

namespace System

def setLine (writerId : ℕ) (change : WriterLine → WriterLine) (system : System) : System :=
  { system with
    lines := Function.update system.lines writerId (change (system.lines writerId)) }

def writerRecord (writerId : ℕ) (system : System) : Option MeWriter :=
  (system.pool.writers.find? writerId).or (system.retired writerId)

def accepts (now writerId : ℕ) (system : System) : Bool :=
  (system.writerRecord writerId).any (system.config.writerAcceptsNewBinding now)

def candidates (now : ℕ) (routedDc : ℤ) (system : System) : List ℕ :=
  system.config.candidateIds now routedDc system.pool.writers

/-- A wait ends by its timeout only if there is one. -/
def expires (choice : Choice) (system : System) : Bool :=
  choice.timedOut && system.config.blockingSendTimeout.isSome

def removeFromPool (writerId : ℕ) (system : System) : Bool × System :=
  let removed := system.pool.toWriterPool.removeWriterAndCloseClients writerId
  (removed.1.isSome,
    { system with
      pool := { system.pool with toWriterPool := removed.2 }
      retired := Function.update system.retired writerId (system.writerRecord writerId) })

def loseWriter (writerId : ℕ) (system : System) : System :=
  { system with registry := (system.registry.writerLost writerId).2 }

end System

namespace SendTask

def toTop (system : System) (task : SendTask) : SendTask :=
  if task.pooled then task.beginLegacy system.config system.pool else task.at .enter

def resume (system : System) (task : SendTask) : Resume → SendTask
  | .top => task.toTop system
  | .scan rest fallback => task.at (.scan rest fallback)

def condemn (writerId : ℕ) (held : Bool) (resume : Resume) (task : SendTask) : SendTask :=
  task.at (.removePool ⟨writerId, held, resume⟩)

/-- The walk over the candidates, in the order the call ranks them. -/
def startScan (choice : Choice) (candidates : List ℕ) (task : SendTask) : SendTask :=
  if choice.order.Perm candidates then task.at (.scan choice.order none) else task

def onShortage (shortage : Shortage) (choice : Choice) (system : System) (task : SendTask) :
    SendTask :=
  match system.config.noWriterMode, shortage with
  | .asyncRecoveryFailfast, _ => task.at (.recover shortage)
  | .inlineRecoveryLegacy, .noWriter => task.at (.recover .noWriter)
  | .inlineRecoveryLegacy, .noCandidate =>
    if task.unknownTargetDc then task.at (.recover .noCandidate)
    else if max system.config.inlineRecoveryAttempts 1 ≤ task.emergencyAttempts then
      task.fail .noCandidate
    else
      { task with emergencyAttempts := task.emergencyAttempts + 1 }.at
        (.recover .noCandidate)
  | .hybridAsyncPersistent, .noWriter =>
    if choice.timedOut then task.fail .noWriterHybrid else task.at (.recover .noWriter)
  | .hybridAsyncPersistent, .noCandidate =>
    if choice.timedOut then task.fail .noCandidateHybrid
    else task.at (.recover .noCandidate)

def enterStep (choice : Choice) (system : System) (task : SendTask) : SendTask :=
  match system.registry.getWriterWithMeta task.call.connId with
  | some (writerId, conn) => task.at (.boundBytes writerId conn)
  | none =>
    if task.pooled then task.beginLegacy system.config system.pool
    else if system.pool.writers.entries = [] then task.onShortage .noWriter choice system
    else
      match system.candidates choice.now task.routedDc with
      | [] => task.onShortage .noCandidate choice system
      | candidates => task.startScan choice candidates

/-- The end of a wait for writers or for candidates. -/
def recoverStep (shortage : Shortage) (choice : Choice) (system : System) (task : SendTask) :
    SendTask :=
  match system.config.noWriterMode, shortage with
  | .asyncRecoveryFailfast, .noWriter =>
    if system.pool.writers.entries = [] then task.fail .noWriterFailfast else task.at .enter
  | .asyncRecoveryFailfast, .noCandidate =>
    if system.candidates choice.now task.routedDc = [] then task.fail .noCandidateFailfast
    else task.at .enter
  | .inlineRecoveryLegacy, .noWriter =>
    if system.pool.writers.entries = [] then task.fail .noWriterLegacy else task.at .enter
  | .inlineRecoveryLegacy, .noCandidate =>
    match system.candidates choice.now task.routedDc with
    | [] => task.fail .noCandidate
    | candidates =>
      if task.unknownTargetDc then task.at .enter else task.startScan choice candidates
  | .hybridAsyncPersistent, _ => task.at .enter

def dataCommand (system : System) (ourAddr : SocketAddr) (task : SendTask) : WriterCommand :=
  .data (proxyReqPayload task.call.connId task.call.clientAddr ourAddr task.call.data
    (task.call.legacyTag system.config) task.call.protoFlags)

def boundCommand (system : System) (conn : ConnMeta) (task : SendTask) : WriterCommand :=
  if task.pooled then
    .proxyReq task.call.connId task.call.clientAddr conn.ourAddr task.call.protoFlags
      (task.call.tag system.config) task.call.data
  else task.dataCommand system conn.ourAddr

def boundBytesStep (writerId : ℕ) (conn : ConnMeta) (choice : Choice) (system : System)
    (task : SendTask) : SendTask × System :=
  match (system.lines writerId).tryReserveBytes task.permits with
  | .closed => (task.condemn writerId false .top, system)
  | .noPermits =>
    if system.expires choice then (task.fail .byteBudgetFull, system) else (task, system)
  | .acquired =>
    let command := task.boundCommand system conn
    match (system.lines writerId).tryReserveSlot with
    | .acquired =>
      (task.at (.finished (.ok ())),
        system.setLine writerId fun line => (line.takeBytes task.permits).push command)
    | .noPermits =>
      (task.at (.boundSlot writerId command),
        system.setLine writerId (WriterLine.takeBytes task.permits))
    | .closed => (task.condemn writerId false .top, system)

def boundSlotStep (writerId : ℕ) (command : WriterCommand) (choice : Choice)
    (system : System) (task : SendTask) : SendTask × System :=
  match (system.lines writerId).tryReserveSlot with
  | .closed =>
    (task.condemn writerId false .top,
      system.setLine writerId (WriterLine.releaseBytes task.permits))
  | .acquired =>
    (task.at (.finished (.ok ())), system.setLine writerId (WriterLine.push command))
  | .noPermits =>
    if system.expires choice then
      (task.fail .channelFull,
        system.setLine writerId (WriterLine.releaseBytes task.permits))
    else (task, system)

def scanStep (rest : List ℕ) (fallback : Option ℕ) (choice : Choice) (system : System)
    (task : SendTask) : SendTask × System :=
  match rest with
  | [] =>
    match fallback with
    | none => (task.at .enter, system)
    | some writerId =>
      if system.accepts choice.now writerId then
        (task.at (.fallbackBytes writerId), system)
      else (task.at .enter, system)
  | writerId :: rest =>
    if system.accepts choice.now writerId = false then
      (task.at (.scan rest fallback), system)
    else
      match (system.lines writerId).tryReserveBytes task.permits with
      | .noPermits => (task.at (.scan rest (fallback.or (some writerId))), system)
      | .closed => (task.condemn writerId false (.scan rest fallback), system)
      | .acquired =>
        match (system.lines writerId).tryReserveSlot with
        | .acquired =>
          (task.at (.bind writerId (.scan rest fallback)),
            system.setLine writerId fun line => (line.takeBytes task.permits).takeSlot)
        | .noPermits => (task.at (.scan rest (fallback.or (some writerId))), system)
        | .closed =>
          (task.condemn writerId true (.scan rest fallback),
            system.setLine writerId (WriterLine.takeBytes task.permits))

def fallbackBytesStep (writerId : ℕ) (choice : Choice) (system : System) (task : SendTask) :
    SendTask × System :=
  match (system.lines writerId).tryReserveBytes task.permits with
  | .closed => (task.condemn writerId false .top, system)
  | .acquired =>
    (task.at (.fallbackSlot writerId),
      system.setLine writerId (WriterLine.takeBytes task.permits))
  | .noPermits =>
    if system.expires choice then (task.at .enter, system) else (task, system)

def fallbackSlotStep (writerId : ℕ) (choice : Choice) (system : System) (task : SendTask) :
    SendTask × System :=
  match (system.lines writerId).tryReserveSlot with
  | .closed => (task.condemn writerId true .top, system)
  | .acquired =>
    (task.at (.bind writerId .top), system.setLine writerId WriterLine.takeSlot)
  | .noPermits =>
    if system.expires choice then
      (task.at .enter, system.setLine writerId (WriterLine.releaseBytes task.permits))
    else (task, system)

/-- The proxy address that is advertised follows the source of the writer. -/
def effectiveOurAddr (writerId : ℕ) (system : System) (task : SendTask) : SocketAddr :=
  match system.writerRecord writerId with
  | some writer => ⟨writer.sourceIp, task.call.ourAddr.port⟩
  | none => task.call.ourAddr

def bindStep (writerId : ℕ) (resume : Resume) (choice : Choice) (system : System)
    (task : SendTask) : SendTask × System :=
  let ourAddr := task.effectiveOurAddr writerId system
  let conn : ConnMeta :=
    ⟨task.call.targetDc, task.call.clientAddr, ourAddr, task.call.protoFlags⟩
  match system.registry.bindWriter choice.now task.call.connId writerId conn with
  | (false, _) =>
    (task.condemn writerId true resume, system.setLine writerId WriterLine.releaseSlot)
  | (true, registry) =>
    (task.at (.finished (.ok ())),
      { system with registry := registry }.setLine writerId fun line =>
        line.releaseSlot.push (task.dataCommand system ourAddr))

def removePoolStep (removal : Removal) (system : System) (task : SendTask) :
    SendTask × System :=
  let removed := system.removeFromPool removal.writerId
  (task.at (.removeRegistry removal removed.1), removed.2)

def removeRegistryStep (removal : Removal) (removed : Bool) (system : System)
    (task : SendTask) : SendTask × System :=
  (task.at (.removeClose removal removed), system.loseWriter removal.writerId)

/-- The rest of a removal: the close command is sent if there is room for it. -/
def removeCloseStep (removal : Removal) (removed : Bool) (system : System)
    (task : SendTask) : SendTask × System :=
  (task.resume system removal.resume,
    system.setLine removal.writerId fun line =>
      let line :=
        if removed = true ∧ line.tryReserveSlot = .acquired then line.push .close else line
      if removal.held then line.releaseBytes task.permits else line)

def advance (choice : Choice) (system : System) (task : SendTask) : SendTask × System :=
  match task.pc with
  | .enter => (task.enterStep choice system, system)
  | .boundBytes writerId conn => task.boundBytesStep writerId conn choice system
  | .boundSlot writerId command => task.boundSlotStep writerId command choice system
  | .recover shortage => (task.recoverStep shortage choice system, system)
  | .scan rest fallback => task.scanStep rest fallback choice system
  | .fallbackBytes writerId => task.fallbackBytesStep writerId choice system
  | .fallbackSlot writerId => task.fallbackSlotStep writerId choice system
  | .bind writerId resume => task.bindStep writerId resume choice system
  | .removePool removal => task.removePoolStep removal system
  | .removeRegistry removal removed => task.removeRegistryStep removal removed system
  | .removeClose removal removed => task.removeCloseStep removal removed system
  | .finished _ => (task, system)

end SendTask

/-! ## Actions -/

inductive Action where
  | start (taskId : ℕ) (call : SendCall)
  | send (taskId : ℕ) (choice : Choice)
  | register
  | unregisterStart (connId : ℕ)
  | unregisterFinish (now connId : ℕ)
  | bind (now connId writerId : ℕ) (conn : ConnMeta)
  | addWriter (writer : MeWriter) (line : WriterLine)
  | registerWriter (now writerId : ℕ)
  | markWriterIdle (now writerId : ℕ)
  | countWriter
  | removeFromPool (writerId : ℕ)
  | writerLost (writerId : ℕ)
  | markDraining (writerId now : ℕ) (timeout : Option ℕ) (allowDrainFallback : Bool)
  | closeChannel (writerId : ℕ)
  | closeBudget (writerId : ℕ)
  | takeCommand (writerId : ℕ)
  | releaseBytes (writerId permits : ℕ)
  | control (writerId : ℕ) (payload : List Byte)
  | reconfigure (config : RouteConfig)

namespace System

def startCall (taskId : ℕ) (call : SendCall) (system : System) : System :=
  match system.tasks taskId with
  | some _ => system
  | none =>
    { system with
      tasks := Function.update system.tasks taskId
        (some (call.begin system.config system.pool)) }

def sendStep (taskId : ℕ) (choice : Choice) (system : System) : System :=
  match system.tasks taskId with
  | none => system
  | some task =>
    let advanced := task.advance choice system
    { advanced.2 with
      tasks := Function.update system.tasks taskId (some advanced.1) }

def addWriter (writer : MeWriter) (line : WriterLine) (system : System) : System :=
  if (system.writerRecord writer.id).isSome then system
  else
    { system with
      pool := { system.pool with writers := system.pool.writers.push writer }
      lines := Function.update system.lines writer.id line }

def step : Action → System → System
  | .start taskId call, system => system.startCall taskId call
  | .send taskId choice, system => system.sendStep taskId choice
  | .register, system => { system with registry := system.registry.register.2 }
  | .unregisterStart connId, system =>
    { system with registry := system.registry.unregisterStart connId }
  | .unregisterFinish now connId, system =>
    { system with registry := (system.registry.unregisterFinish now connId).2 }
  | .bind now connId writerId conn, system =>
    { system with registry := (system.registry.bindWriter now connId writerId conn).2 }
  | .addWriter writer line, system => system.addWriter writer line
  | .registerWriter now writerId, system =>
    { system with registry := system.registry.registerWriter now writerId }
  | .markWriterIdle now writerId, system =>
    { system with registry := system.registry.markWriterIdle now writerId }
  | .countWriter, system =>
    { system with
      pool := { system.pool with connCount := (system.pool.connCount + 1) % 2 ^ 64 } }
  | .removeFromPool writerId, system => (system.removeFromPool writerId).2
  | .writerLost writerId, system => system.loseWriter writerId
  | .markDraining writerId now timeout allow, system =>
    { system with
      pool := { system.pool with
        toWriterPool :=
          system.pool.toWriterPool.markWriterDrainingWithTimeout writerId now timeout allow } }
  | .closeChannel writerId, system =>
    system.setLine writerId fun line => { line with channelClosed := true }
  | .closeBudget writerId, system =>
    system.setLine writerId fun line => { line with budgetClosed := true }
  | .takeCommand writerId, system =>
    system.setLine writerId fun line => { line with queue := line.queue.tail }
  | .releaseBytes writerId permits, system =>
    system.setLine writerId (WriterLine.releaseBytes permits)
  | .control writerId payload, system =>
    system.setLine writerId fun line =>
      if line.tryReserveSlot = .acquired then line.push (.controlAndFlush payload) else line
  | .reconfigure config, system => { system with config := config }

end System

end TupoProxy.MiddleProxy
