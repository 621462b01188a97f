import TupoProxy.PoolWriters
import TupoProxy.ConnRegistry
import TupoProxy.Runs

/-!
# Connects, removals and drain marks of the writer pool

A connect publishes its writer in the pool, registers it, marks it idle, counts it
and starts its lifecycle task.  It waits for a lock before each of the first three,
and at each of these points its caller may have given up on it.  A removal takes
the writer out of the pool under one lock and out of the registry under another.
A drain mark needs one lock only.

What the connect does before it has a writer id (the cap check, the TCP connection
and the handshake) touches none of the counters and may end either way.  Writer ids
are never reused.
-/

namespace TupoProxy.MiddleProxy

structure ConnectRequest where
  addr : SocketAddr
  generation : ℕ
  contour : WriterContour
  writerDc : ℤ
  deriving DecidableEq

inductive ConnectStage where
  | opening (request : ConnectRequest)
  | publishing (writer : MeWriter)
  | registering (writer : MeWriter)
  | markingIdle (writer : MeWriter)
  deriving DecidableEq

def ConnectRequest.writer (id : ℕ) (sourceIp : IpAddr) (request : ConnectRequest) :
    MeWriter where
  id := id
  addr := request.addr
  sourceIp := sourceIp
  writerDc := request.writerDc
  generation := request.generation
  contour := request.contour
  draining := false
  drainingStartedAtEpochSecs := 0
  drainDeadlineEpochSecs := 0
  allowDrainFallback := false

def ConnectStage.writerId : ConnectStage → Option ℕ
  | .opening _ => none
  | .publishing writer => some writer.id
  | .registering writer => some writer.id
  | .markingIdle writer => some writer.id

/-- The writer is in the pool and not yet counted. -/
def ConnectStage.published : ConnectStage → Bool
  | .opening _ => false
  | .publishing _ => false
  | .registering _ => true
  | .markingIdle _ => true

inductive WriterRemovalStage where
  | locking
  | losing
  deriving DecidableEq

/-- A call of `remove_writer_with_mode`, possibly the last act of the lifecycle
task of the writer. -/
structure WriterRemoval where
  writerId : ℕ
  mode : WriterTeardownMode
  stage : WriterRemovalStage
  byLifecycle : Bool
  deriving DecidableEq

structure DrainMark where
  writerId : ℕ
  timeout : Option ℕ
  allowDrainFallback : Bool
  deriving DecidableEq

/-- A lifecycle task runs its loops, and removes its writer when one of them
ends. -/
inductive LifecycleStage where
  | selecting
  | removing
  deriving DecidableEq

structure PoolSystem extends WriterPool where
  registry : ConnRegistry
  nextWriterId : ℕ
  connects : Table ℕ ConnectStage
  removals : Table ℕ WriterRemoval
  marks : Table ℕ DrainMark
  lifecycles : Table ℕ LifecycleStage

namespace PoolSystem

def connect (task : ℕ) (request : ConnectRequest) (system : PoolSystem) : PoolSystem :=
  if (system.connects.lookup task).isSome then system
  else { system with connects := system.connects.insert task (.opening request) }

/-- The cap is reached, or the connection or the handshake fails. -/
def connectError (task : ℕ) (system : PoolSystem) : PoolSystem :=
  match system.connects.lookup task with
  | some (.opening _) => { system with connects := system.connects.erase task }
  | _ => system

def connectOpened (task : ℕ) (sourceIp : IpAddr) (system : PoolSystem) : PoolSystem :=
  match system.connects.lookup task with
  | some (.opening request) =>
    { system with
      nextWriterId := system.nextWriterId + 1
      connects := system.connects.insert task
        (.publishing (request.writer system.nextWriterId sourceIp)) }
  | _ => system

/-- The connect gets the lock that it waits for and goes on to its next wait. -/
def connectAdvance (task now : ℕ) (system : PoolSystem) : PoolSystem :=
  match system.connects.lookup task with
  | some (.publishing writer) =>
    { system with
      writers := system.writers.push writer
      connects := system.connects.insert task (.registering writer) }
  | some (.registering writer) =>
    { system with
      registry := system.registry.registerWriter now writer.id
      connects := system.connects.insert task (.markingIdle writer) }
  | some (.markingIdle writer) =>
    { system with
      registry := system.registry.markWriterIdle now writer.id
      connCount := (system.connCount + 1) % 2 ^ 64
      lifecycles := system.lifecycles.insert writer.id .selecting
      connects := system.connects.erase task }
  | _ => system

def connectAbandon (task : ℕ) (system : PoolSystem) : PoolSystem :=
  { system with connects := system.connects.erase task }

/-! ## Removals and drain marks -/

def remove (task writerId : ℕ) (mode : WriterTeardownMode) (system : PoolSystem) :
    PoolSystem :=
  if (system.removals.lookup task).isSome then system
  else
    { system with
      removals := system.removals.insert task ⟨writerId, mode, .locking, false⟩ }

/-- A loop of the lifecycle task ends, or its token is cancelled. -/
def lifecycleExit (task writerId : ℕ) (system : PoolSystem) : PoolSystem :=
  if (system.removals.lookup task).isSome then system
  else if system.lifecycles.lookup writerId = some .selecting then
    { system with
      lifecycles := system.lifecycles.insert writerId .removing
      removals := system.removals.insert task ⟨writerId, .any, .locking, true⟩ }
  else system

/-- The early return: the writer is there and does not drain. -/
def refusesRemoval (removal : WriterRemoval) (system : PoolSystem) : Bool :=
  removal.mode = .drainingOnly ∧
    (system.writers.find? removal.writerId).map MeWriter.draining = some false

def endLifecycle (removal : WriterRemoval) (system : PoolSystem) : Table ℕ LifecycleStage :=
  if removal.byLifecycle then system.lifecycles.erase removal.writerId else system.lifecycles

def removalAdvance (task : ℕ) (system : PoolSystem) : PoolSystem :=
  match system.removals.lookup task with
  | none => system
  | some removal =>
    match removal.stage with
    | .locking =>
      if system.refusesRemoval removal then
        { system with removals := system.removals.erase task }
      else
        { system with
          toWriterPool :=
            (system.removeWriterWithMode removal.mode removal.writerId).2
          removals := system.removals.insert task { removal with stage := .losing } }
    | .losing =>
      { system with
        registry := (system.registry.writerLost removal.writerId).2
        lifecycles := system.endLifecycle removal
        removals := system.removals.erase task }

def mark (task : ℕ) (mark : DrainMark) (system : PoolSystem) : PoolSystem :=
  if (system.marks.lookup task).isSome then system
  else { system with marks := system.marks.insert task mark }

def markAdvance (task now : ℕ) (system : PoolSystem) : PoolSystem :=
  match system.marks.lookup task with
  | none => system
  | some mark =>
    { system with
      toWriterPool :=
        system.markWriterDrainingWithTimeout mark.writerId now mark.timeout
          mark.allowDrainFallback
      marks := system.marks.erase task }

end PoolSystem

inductive PoolAction where
  | connect (task : ℕ) (request : ConnectRequest)
  | connectError (task : ℕ)
  | connectOpened (task : ℕ) (sourceIp : IpAddr)
  | connectAdvance (task now : ℕ)
  | connectAbandon (task : ℕ)
  | remove (task writerId : ℕ) (mode : WriterTeardownMode)
  | lifecycleExit (task writerId : ℕ)
  | removalAdvance (task : ℕ)
  | mark (task : ℕ) (mark : DrainMark)
  | markAdvance (task now : ℕ)

namespace PoolSystem

def step (action : PoolAction) (system : PoolSystem) : PoolSystem :=
  match action with
  | .connect task request => system.connect task request
  | .connectError task => system.connectError task
  | .connectOpened task sourceIp => system.connectOpened task sourceIp
  | .connectAdvance task now => system.connectAdvance task now
  | .connectAbandon task => system.connectAbandon task
  | .remove task writerId mode => system.remove task writerId mode
  | .lifecycleExit task writerId => system.lifecycleExit task writerId
  | .removalAdvance task => system.removalAdvance task
  | .mark task mark => system.mark task mark
  | .markAdvance task now => system.markAdvance task now

/-- A pool before its first connect; connection ids start anywhere. -/
def start (nextId : ℕ) : PoolSystem where
  writers := ⟨[], List.nodup_nil⟩
  connCount := 0
  drainingActiveRuntime := 0
  registry := ⟨∅, ∅, ∅, ∅, ∅, ∅, ∅, ∅, ∅, ∅, nextId⟩
  nextWriterId := 1
  connects := ∅
  removals := ∅
  marks := ∅
  lifecycles := ∅

def Quiet (system : PoolSystem) : Prop :=
  system.connects.entries = [] ∧ system.removals.entries = [] ∧ system.marks.entries = []

def Holds (system : PoolSystem) (id : ℕ) : Prop := ∃ writer ∈ system.writers, writer.id = id

structure Accounted (system : PoolSystem) : Prop where
  count : system.connCount = system.writers.entries.length % 2 ^ 64
  draining : system.drainingActiveRuntime = system.writers.entries.countP MeWriter.draining
  registered : ∀ id, id ∈ system.registry.writers ↔ system.Holds id
  running : ∀ id, system.Holds id → (system.lifecycles.lookup id).isSome

/-- A connect is not dropped once its writer is in the pool, and a removal is called
only for a writer whose connect has ended. -/
def Careful (system : PoolSystem) : PoolAction → Prop
  | .connectAbandon task =>
    ∀ stage ∈ system.connects.lookup task, stage.published = false
  | .remove _ writerId _ =>
    writerId < system.nextWriterId ∧
      ∀ row ∈ system.connects.entries, row.2.writerId ≠ some writerId
  | _ => True

instance (system : PoolSystem) : ∀ action, Decidable (system.Careful action)
  | .connectAbandon task =>
    inferInstanceAs
      (Decidable (∀ stage ∈ system.connects.lookup task, stage.published = false))
  | .remove _ writerId _ =>
    inferInstanceAs
      (Decidable (writerId < system.nextWriterId ∧
        ∀ row ∈ system.connects.entries, row.2.writerId ≠ some writerId))
  | .connect _ _ | .connectError _ | .connectOpened _ _ | .connectAdvance _ _
  | .lifecycleExit _ _ | .removalAdvance _ | .mark _ _ | .markAdvance _ _ =>
    inferInstanceAs (Decidable True)

end PoolSystem

end TupoProxy.MiddleProxy
