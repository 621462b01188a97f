import TupoProxy.MachineWords
import TupoProxy.KeyedList
import TupoProxy.KeyedTotal
import TupoProxy.NetAddr

/-!
# The writers of the middle-end pool

A writer is one connection to a middle-end of one DC.  It leaves the pool in
two ways: it is marked as draining and keeps serving the clients it has, or it
is removed and its clients are closed.  Writer ids are never reused, so the
pool finds a writer by its id.
-/

namespace TupoProxy.MiddleProxy

inductive WriterContour where
  | warm
  | active
  | draining
  deriving Repr, DecidableEq

structure MeWriter where
  id : ℕ
  addr : SocketAddr
  sourceIp : IpAddr
  writerDc : ℤ
  generation : ℕ
  contour : WriterContour
  draining : Bool
  drainingStartedAtEpochSecs : ℕ
  drainDeadlineEpochSecs : ℕ
  allowDrainFallback : Bool
  deriving DecidableEq

abbrev Writers := KeyedList MeWriter.id

structure WriterPool where
  writers : Writers
  connCount : ℕ
  drainingActiveRuntime : ℕ

def drainDeadline (now : ℕ) (timeout : Option ℕ) : ℕ :=
  match timeout.filter (· ≠ 0) with
  | some secs => min (now + secs) u64Max
  | none => 0

def MeWriter.beginDrain (now : ℕ) (timeout : Option ℕ) (allowDrainFallback : Bool)
    (writer : MeWriter) : MeWriter :=
  { writer with
    contour := .draining
    draining := true
    drainingStartedAtEpochSecs := now
    drainDeadlineEpochSecs := drainDeadline now timeout
    allowDrainFallback := allowDrainFallback }

theorem MeWriter.beginDrain_id (now : ℕ) (timeout : Option ℕ) (allow : Bool)
    (writer : MeWriter) : (writer.beginDrain now timeout allow).id = writer.id := rfl

def WriterPool.markWriterDrainingWithTimeout (writerId now : ℕ) (timeout : Option ℕ)
    (allowDrainFallback : Bool) (pool : WriterPool) : WriterPool :=
  match pool.writers.find? writerId with
  | none => pool
  | some writer =>
    { pool with
      writers :=
        pool.writers.update writerId (MeWriter.beginDrain now timeout allowDrainFallback)
          (MeWriter.beginDrain_id now timeout allowDrainFallback)
      drainingActiveRuntime :=
        if writer.draining then pool.drainingActiveRuntime
        else pool.drainingActiveRuntime + 1 }

/-! ## Removal -/

inductive WriterTeardownMode where
  | any
  | drainingOnly
  deriving Repr, DecidableEq

/-- What a removal hands on to the quarantine and to the refill. -/
structure RemovedWriter where
  addr : SocketAddr
  writerDc : ℤ
  triggerRefill : Bool
  deriving DecidableEq

def WriterPool.removeWriterWithMode (mode : WriterTeardownMode) (writerId : ℕ)
    (pool : WriterPool) : Option RemovedWriter × WriterPool :=
  match pool.writers.find? writerId with
  | none => (none, pool)
  | some writer =>
    if mode = .drainingOnly ∧ writer.draining = false then (none, pool)
    else
      (some ⟨writer.addr, writer.writerDc, !writer.draining⟩,
        { writers := pool.writers.remove writerId
          connCount := (pool.connCount + u64Max) % 2 ^ 64
          drainingActiveRuntime :=
            if writer.draining then pool.drainingActiveRuntime - 1
            else pool.drainingActiveRuntime })

def WriterPool.removeWriterAndCloseClients (writerId : ℕ) (pool : WriterPool) :
    Option RemovedWriter × WriterPool :=
  pool.removeWriterWithMode .any writerId

variable {pool : WriterPool} {writerId : ℕ} {writer : MeWriter}

theorem mem_markWriterDraining {now : ℕ} {timeout : Option ℕ} {allow : Bool} :
    writer ∈ (pool.markWriterDrainingWithTimeout writerId now timeout allow).writers ↔
      (writer ∈ pool.writers ∧ writer.id ≠ writerId) ∨ ∃ old ∈ pool.writers, old.id = writerId ∧
          old.beginDrain now timeout allow = writer := by
  unfold WriterPool.markWriterDrainingWithTimeout
  split
  · next hnone =>
    have hother := KeyedList.find?_eq_none.mp hnone
    constructor
    · intro hmem
      exact Or.inl ⟨hmem, hother writer hmem⟩
    · rintro (⟨hmem, -⟩ | ⟨old, hold, hid, -⟩)
      · exact hmem
      · exact absurd hid (hother old hold)
  · exact KeyedList.mem_update (MeWriter.beginDrain_id now timeout allow)

theorem mem_removeWriterAndCloseClients :
    writer ∈ (pool.removeWriterAndCloseClients writerId).2.writers ↔
      writer ∈ pool.writers ∧ writer.id ≠ writerId := by
  unfold WriterPool.removeWriterAndCloseClients WriterPool.removeWriterWithMode
  split
  · next hnone =>
    exact ⟨fun hmem => ⟨hmem, KeyedList.find?_eq_none.mp hnone writer hmem⟩, And.left⟩
  · rw [if_neg nofun]
    exact KeyedList.mem_remove

inductive IpFamily where
  | v4
  | v6
  deriving Repr, DecidableEq

structure NetworkDecision where
  ipv4Me : Bool
  ipv6Me : Bool
  deriving DecidableEq

inductive MeDrainGateReason where
  | opened
  | coverageQuorum
  | redundancy
  | suppressionActive
  deriving Repr, DecidableEq

structure DrainGate where
  routeQuorumOk : Bool
  redundancyOk : Bool
  blockReason : MeDrainGateReason
  updatedAtEpochSecs : ℕ
  deriving DecidableEq

structure ReinitCore where
  generation : ℕ
  activeGeneration : ℕ
  warmGeneration : ℕ
  pendingHardswapGeneration : ℕ
  pendingHardswapStartedAtEpochSecs : ℕ
  pendingHardswapMapHash : ℕ
  hardswap : Bool
  deriving DecidableEq

abbrev ProxyMap := Table ℤ (List (IpAddr × ℕ))

structure MePool extends WriterPool where
  proxyMapV4 : ProxyMap
  proxyMapV6 : ProxyMap
  decision : NetworkDecision
  suppressedUntilV4 : ℕ
  suppressedUntilV6 : ℕ
  reinit : ReinitCore
  mePoolMinFreshRatioPermille : ℕ
  mePoolForceCloseSecs : ℕ
  lastDrainGate : DrainGate

end TupoProxy.MiddleProxy
