import TupoProxy.FairnessScheduler

/-!
# The byte accounts of the fairness scheduler

The scheduler keeps the queued bytes of the worker, of each bucket and of each
flow beside the queues themselves.  Along every run these accounts never
exceed the bytes that are really queued, also when a counter has saturated.
So when all queues are empty, every account is zero and no flow is standing.

Between a decision and its feedback one flow may have an empty queue and an
old classification.  It is named by the argument `busy`.
-/

namespace TupoProxy.Fairness

open List AList Table

structure Accounts where
  flows : Table ℕ FlowEntry
  total : ℕ
  buckets : List ℕ
  bucketFlows : List ℕ
  standing : ℕ
  backpressured : ℕ

def WorkerFairnessState.accounts (state : WorkerFairnessState) : Accounts where
  flows := state.flows
  total := state.totalQueuedBytes
  buckets := state.bucketQueuedBytes
  bucketFlows := state.bucketActiveFlows
  standing := state.standingFlowCount
  backpressured := state.backpressuredFlowCount

namespace Accounts

def put (connId : ℕ) (before after : FlowEntry) (books : Accounts) : Accounts :=
  { books with
    flows := books.flows.insert connId after
    standing :=
      WorkerFairnessState.memberCount books.standing (flowMembership before.fairness).1
        (flowMembership after.fairness).1
    backpressured :=
      WorkerFairnessState.memberCount books.backpressured
        (flowMembership before.fairness).2 (flowMembership after.fairness).2 }

def charge (bucketId bytes : ℕ) (books : Accounts) : Accounts :=
  { books with
    total := satAdd u64Max books.total bytes
    buckets := books.buckets.modify bucketId fun queued => satAdd u64Max queued bytes }

def release (bucketId bytes : ℕ) (books : Accounts) : Accounts :=
  { books with
    total := books.total - bytes
    buckets := books.buckets.modify bucketId fun queued => queued - bytes }

end Accounts

/-! ## One account -/

def queuedWithin (scope : ℕ → Bool) (connId : ℕ) (flow : FlowEntry) : ℕ :=
  if scope connId then queueBytes flow.queue else 0

structure Account (scope : ℕ → Bool) (flows : Table ℕ FlowEntry) (amount : ℕ) : Prop where
  le_total : amount ≤ flows.total (queuedWithin scope)
  le_max : amount ≤ u64Max

namespace Account

variable {scope : ℕ → Bool} {flows : Table ℕ FlowEntry} {amount connId : ℕ} {old new : FlowEntry}

theorem zero : Account scope flows 0 := ⟨Nat.zero_le _, Nat.zero_le _⟩

section

variable (haccount : Account scope flows amount)
include haccount

theorem open_new (hlookup : flows.lookup connId = none) :
    Account scope (flows.insert connId new) amount := by
  refine ⟨haccount.le_total.trans ?_, haccount.le_max⟩
  rw [total_insert_new _ hlookup]
  omega

section

variable (hlookup : flows.lookup connId = some old)
include hlookup

theorem keep (hbytes : scope connId = true → queueBytes old.queue ≤ queueBytes new.queue) :
    Account scope (flows.insert connId new) amount := by
  refine ⟨?_, haccount.le_max⟩
  have htotal := total_insert_replace (queuedWithin scope) new hlookup
  have hle := haccount.le_total
  by_cases hscope : scope connId
  · have hgrow := hbytes hscope
    simp only [queuedWithin, hscope, if_true] at htotal hle ⊢
    omega
  · simp only [queuedWithin, hscope] at htotal hle ⊢
    simp only [Bool.false_eq_true, if_false] at htotal
    omega

theorem charge {bytes : ℕ} (hscope : scope connId = true)
    (hbytes : queueBytes new.queue = queueBytes old.queue + bytes) :
    Account scope (flows.insert connId new) (satAdd u64Max amount bytes) := by
  refine ⟨?_, satAdd_le_limit _ _ _⟩
  have htotal := total_insert_replace (queuedWithin scope) new hlookup
  have hle := haccount.le_total
  have hadd := satAdd_le_add u64Max amount bytes
  simp only [queuedWithin, hscope, if_true] at htotal hle ⊢
  omega

theorem release {bytes : ℕ} (hscope : scope connId = true)
    (hbytes : queueBytes new.queue + bytes = queueBytes old.queue) :
    Account scope (flows.insert connId new) (amount - bytes) := by
  refine ⟨?_, (Nat.sub_le _ _).trans haccount.le_max⟩
  have htotal := total_insert_replace (queuedWithin scope) new hlookup
  have hle := haccount.le_total
  simp only [queuedWithin, hscope, if_true] at htotal hle ⊢
  omega

theorem erase_within {bytes : ℕ} (hbytes : bytes = queueBytes old.queue ∨ bytes = u64Max) :
    Account scope (flows.erase connId) (amount - bytes) := by
  refine ⟨?_, (Nat.sub_le _ _).trans haccount.le_max⟩
  have htotal := total_erase_add (queuedWithin scope) hlookup
  have hle := haccount.le_total
  have hmax := haccount.le_max
  have hrow : queuedWithin scope connId old ≤ queueBytes old.queue := by
    unfold queuedWithin
    split <;> omega
  omega

theorem erase_outside (hscope : scope connId = false) :
    Account scope (flows.erase connId) amount := by
  refine ⟨?_, haccount.le_max⟩
  have htotal := total_erase_add (queuedWithin scope) hlookup
  have hle := haccount.le_total
  simp only [queuedWithin, hscope, Bool.false_eq_true, if_false] at htotal
  exact hle.trans htotal.symm.le

end

end

end Account

structure FlowSound (buckets connId : ℕ) (flow : FlowEntry) : Prop where
  owned : ∀ frame ∈ flow.queue, frame.connId = connId
  bucket : flow.fairness.bucketId = connId % max buckets 1
  pending_le : flow.fairness.pendingBytes ≤ queueBytes flow.queue

namespace FlowSound

variable {buckets connId : ℕ} {old new : FlowEntry}

theorem same (hold : FlowSound buckets connId old) (hqueue : new.queue = old.queue)
    (hpending : new.fairness.pendingBytes = old.fairness.pendingBytes)
    (hbucket : new.fairness.bucketId = old.fairness.bucketId) : FlowSound buckets connId new := by
  refine ⟨?_, hbucket.trans hold.bucket, ?_⟩
  · rw [hqueue]
    exact hold.owned
  · rw [hqueue, hpending]
    exact hold.pending_le

theorem of_empty (hqueue : new.queue = []) (hpending : new.fairness.pendingBytes = 0)
    (hbucket : new.fairness.bucketId = connId % max buckets 1) : FlowSound buckets connId new := by
  refine ⟨?_, hbucket, ?_⟩
  · rw [hqueue]
    exact nofun
  · rw [hpending]
    exact Nat.zero_le _

end FlowSound

/-- A flow without frames is not standing. -/
def Settled (flow : FlowEntry) : Prop :=
  flow.queue = [] → flow.fairness.standingState = .transient

theorem FlowSound.settled {buckets connId now : ℕ} {config : WorkerFairnessConfig}
    {pressureState : PressureState} {fairness : FlowFairnessState} {queue : List QueuedFrame}
    (hsound : FlowSound buckets connId ⟨classifyFlow config pressureState now fairness, queue⟩) :
    Settled ⟨classifyFlow config pressureState now fairness, queue⟩ := by
  intro hempty
  have hle := hsound.pending_le
  rw [hempty, queueBytes_nil] at hle
  exact classifyFlow_transient (Nat.le_zero.mp hle)

def everyConn : ℕ → Bool := fun _ => true

def inBucket (buckets bucket : ℕ) : ℕ → Bool :=
  fun connId => decide (connId % max buckets 1 = bucket)

structure Books (busy : Option ℕ) (state : WorkerFairnessState) : Prop where
  flow_sound : ∀ connId flow, state.flows.lookup connId = some flow →
    FlowSound state.bucketQueuedBytes.length connId flow
  settled : ∀ connId flow, state.flows.lookup connId = some flow →
    busy ≠ some connId → Settled flow
  worker : Account everyConn state.flows state.totalQueuedBytes
  bucket : ∀ bucket,
    Account (inBucket state.bucketQueuedBytes.length bucket) state.flows
      (state.bucketQueuedBytes.getD bucket 0)

namespace Books

variable {busy : Option ℕ} {state next : WorkerFairnessState} {connId : ℕ} {old new : FlowEntry}

section

variable (hbooks : Books busy state)
include hbooks

theorem congr (hflows : next.flows = state.flows)
    (htotal : next.totalQueuedBytes = state.totalQueuedBytes)
    (hbuckets : next.bucketQueuedBytes = state.bucketQueuedBytes) : Books busy next := by
  constructor
  · rw [hflows, hbuckets]
    exact hbooks.flow_sound
  · rw [hflows]
    exact hbooks.settled
  · rw [hflows, htotal]
    exact hbooks.worker
  · rw [hflows, hbuckets]
    exact hbooks.bucket

theorem settled_other (hbusy : busy = none ∨ busy = some connId)
    {other : ℕ} {flow : FlowEntry} (hother : other ≠ connId)
    (hlookup : state.flows.lookup other = some flow) : Settled flow := by
  apply hbooks.settled other flow hlookup
  rcases hbusy with rfl | rfl
  · exact nofun
  · exact fun hsame => hother (Option.some.inj hsame).symm

variable {busyNext : Option ℕ}

/-- Replacing one entry keeps the books if the accounts follow. -/
theorem insert (hnew : FlowSound state.bucketQueuedBytes.length connId new)
    (hbusy : busy = none ∨ busy = some connId) (hrest : busyNext ≠ some connId → Settled new)
    (hflows : next.flows = state.flows.insert connId new)
    (hlength : next.bucketQueuedBytes.length = state.bucketQueuedBytes.length)
    (hworker : Account everyConn (state.flows.insert connId new) next.totalQueuedBytes)
    (hbucket : ∀ bucket, Account (inBucket state.bucketQueuedBytes.length bucket)
      (state.flows.insert connId new) (next.bucketQueuedBytes.getD bucket 0)) :
    Books busyNext next := by
  refine ⟨?_, ?_, hflows ▸ hworker, fun bucket => hflows ▸ hlength ▸ hbucket bucket⟩
  · intro other flow hlookup
    rw [hflows] at hlookup
    rw [hlength]
    rcases lookup_insert_some hlookup with ⟨rfl, rfl⟩ | ⟨-, hold⟩
    · exact hnew
    · exact hbooks.flow_sound other flow hold
  · intro other flow hlookup hnext
    rw [hflows] at hlookup
    rcases lookup_insert_some hlookup with ⟨rfl, rfl⟩ | ⟨hother, hold⟩
    · exact hrest hnext
    · exact hbooks.settled_other hbusy hother hold

omit hbooks in
theorem open_new (hbooks : Books none state) (hlookup : state.flows.lookup connId = none)
    (hnew : FlowSound state.bucketQueuedBytes.length connId new) (hrest : Settled new)
    (hflows : next.flows = state.flows.insert connId new)
    (htotal : next.totalQueuedBytes = state.totalQueuedBytes)
    (hbuckets : next.bucketQueuedBytes = state.bucketQueuedBytes) : Books none next := by
  refine hbooks.insert hnew (Or.inl rfl) (fun _ => hrest) hflows (by rw [hbuckets]) ?_ ?_
  · rw [htotal]
    exact hbooks.worker.open_new hlookup
  · intro bucket
    rw [hbuckets]
    exact (hbooks.bucket bucket).open_new hlookup

theorem keep (hlookup : state.flows.lookup connId = some old) (hqueue : new.queue = old.queue)
    (hnew : FlowSound state.bucketQueuedBytes.length connId new)
    (hbusy : busy = none ∨ busy = some connId) (hrest : busyNext ≠ some connId → Settled new)
    (hflows : next.flows = state.flows.insert connId new)
    (htotal : next.totalQueuedBytes = state.totalQueuedBytes)
    (hbuckets : next.bucketQueuedBytes = state.bucketQueuedBytes) : Books busyNext next := by
  have hbytes : queueBytes old.queue ≤ queueBytes new.queue := by rw [hqueue]
  refine hbooks.insert hnew hbusy hrest hflows (by rw [hbuckets]) ?_ ?_
  · rw [htotal]
    exact hbooks.worker.keep hlookup fun _ => hbytes
  · intro bucket
    rw [hbuckets]
    exact (hbooks.bucket bucket).keep hlookup fun _ => hbytes

omit hbooks in
theorem getD_modify (amounts : List ℕ) (index bucket : ℕ) (change : ℕ → ℕ) :
    (amounts.modify index change).getD bucket 0 =
      if index = bucket ∧ bucket < amounts.length then change (amounts.getD bucket 0)
      else amounts.getD bucket 0 := by
  by_cases hbound : bucket < amounts.length
  · by_cases hindex : index = bucket <;> simp [hbound, hindex]
  · simp [hbound]

theorem bucket_modify {flows : Table ℕ FlowEntry} {change : ℕ → ℕ} (bucket : ℕ) (hinside : ∀ amount,
      Account (inBucket state.bucketQueuedBytes.length bucket) state.flows amount →
      inBucket state.bucketQueuedBytes.length bucket connId = true →
      Account (inBucket state.bucketQueuedBytes.length bucket) flows (change amount))
    (houtside : ∀ amount,
      Account (inBucket state.bucketQueuedBytes.length bucket) state.flows amount →
      inBucket state.bucketQueuedBytes.length bucket connId = false →
      Account (inBucket state.bucketQueuedBytes.length bucket) flows amount) :
    Account (inBucket state.bucketQueuedBytes.length bucket) flows
      ((state.bucketQueuedBytes.modify (connId % max state.bucketQueuedBytes.length 1)
        change).getD bucket 0) := by
  rw [getD_modify]
  by_cases hbound : bucket < state.bucketQueuedBytes.length
  · by_cases hindex : connId % max state.bucketQueuedBytes.length 1 = bucket
    · rw [if_pos ⟨hindex, hbound⟩]
      exact hinside _ (hbooks.bucket bucket) (by simp [inBucket, hindex])
    · rw [if_neg (fun hboth => hindex hboth.1)]
      exact houtside _ (hbooks.bucket bucket) (by simp [inBucket, hindex])
  · have hdefault : state.bucketQueuedBytes.getD bucket 0 = 0 := by
      rw [getD_eq_getElem?_getD, getElem?_eq_none (not_lt.mp hbound)]
      rfl
    rw [if_neg (fun hboth => hbound hboth.2), hdefault]
    exact Account.zero

theorem adjust (change : ℕ → ℕ) {bucketId : ℕ} (hlookup : state.flows.lookup connId = some old)
    (hnew : FlowSound state.bucketQueuedBytes.length connId new)
    (hbusy : busy = none ∨ busy = some connId) (hrest : busyNext ≠ some connId → Settled new)
    (hinside : ∀ scope amount, Account scope state.flows amount → scope connId = true →
      Account scope (state.flows.insert connId new) (change amount))
    (hid : bucketId = connId % max state.bucketQueuedBytes.length 1)
    (hflows : next.flows = state.flows.insert connId new)
    (htotal : next.totalQueuedBytes = change state.totalQueuedBytes)
    (hbuckets : next.bucketQueuedBytes = state.bucketQueuedBytes.modify bucketId change) :
    Books busyNext next := by
  refine hbooks.insert hnew hbusy hrest hflows ?_ ?_ ?_
  · rw [hbuckets]
    exact length_modify _ _ _
  · rw [htotal]
    exact hinside _ _ hbooks.worker rfl
  · intro bucket
    rw [hbuckets, hid]
    apply hbooks.bucket_modify bucket
    · intro amount haccount hscope
      exact hinside _ amount haccount hscope
    · intro amount haccount hscope
      exact haccount.keep hlookup (by simp [hscope])

end

end Books

theorem foldl_reclaimed (queue : List QueuedFrame) (start : ℕ) (hstart : start ≤ u64Max) :
    queue.foldl (fun reclaimed frame => satAdd u64Max reclaimed frame.queuedBytes) start =
      min (start + queueBytes queue) u64Max := by
  induction queue generalizing start with
  | nil =>
    simp [hstart]
  | cons frame queue ih =>
    rw [foldl_cons, ih _ (satAdd_le_limit _ _ _), queueBytes_cons, satAdd]
    omega

theorem reclaimedBytes_eq (queue : List QueuedFrame) :
    WorkerFairnessState.reclaimedBytes queue = min (queueBytes queue) u64Max := by
  rw [WorkerFairnessState.reclaimedBytes, foldl_reclaimed queue 0 (Nat.zero_le _)]
  rw [Nat.zero_add]

namespace WorkerFairnessState

variable {busy : Option ℕ} {state : WorkerFairnessState} {connId now : ℕ}
  (config : WorkerFairnessConfig) (pressureState : PressureState)

theorem books_new (now : ℕ) : Books none (new config now) := by
  have hbuckets : ∀ bucket, (new config now).bucketQueuedBytes.getD bucket 0 = 0 := by
    intro bucket
    simp [new, getD_eq_getElem?_getD, getElem?_replicate]
    split <;> rfl
  constructor
  · intro connId flow hlookup
    cases hlookup
  · intro connId flow hlookup
    cases hlookup
  · exact Account.zero
  · intro bucket
    rw [hbuckets]
    exact Account.zero

theorem books_evaluatePressure (hbooks : Books busy state) (force : Bool) :
    Books busy (state.evaluatePressure now force) :=
  hbooks.congr rfl rfl rfl

theorem books_setBackpressureEnabled (hbooks : Books busy state) (enabled : Bool) :
    Books busy (state.setBackpressureEnabled enabled now) := by
  unfold setBackpressureEnabled
  split
  · exact hbooks
  · exact hbooks.congr rfl rfl rfl

theorem books_removeFlow (hbooks : Books busy state) (hbusy : busy = none ∨ busy = some connId) :
    Books none (state.removeFlow connId) := by
  unfold removeFlow
  cases hlookup : state.flows.lookup connId with
  | none =>
    refine ⟨hbooks.flow_sound, fun other flow hflow _ => ?_, hbooks.worker, hbooks.bucket⟩
    apply hbooks.settled_other hbusy _ hflow
    rintro rfl
    rw [hlookup] at hflow
    cases hflow
  | some entry =>
    have hid := (hbooks.flow_sound connId entry hlookup).bucket
    have hbytes : reclaimedBytes entry.queue = queueBytes entry.queue ∨
        reclaimedBytes entry.queue = u64Max := by
      rw [reclaimedBytes_eq]
      omega
    constructor
    · intro other flow hflow
      simp only [releaseBytes, length_modify]
      exact hbooks.flow_sound other flow (lookup_erase_some hflow).2
    · intro other flow hflow _
      obtain ⟨hother, hold⟩ := lookup_erase_some hflow
      exact hbooks.settled_other hbusy hother hold
    · exact hbooks.worker.erase_within hlookup hbytes
    · intro bucket
      simp only [releaseBytes, length_modify, hid]
      apply hbooks.bucket_modify bucket
      · intro amount haccount _
        exact haccount.erase_within hlookup hbytes
      · intro amount haccount hscope
        exact haccount.erase_outside hlookup hscope

structure OpenSpec (state : WorkerFairnessState) (connId : ℕ) (flow : FlowEntry)
    (next : WorkerFairnessState) : Prop where
  config : next.config = state.config
  pressure : next.pressure = state.pressure
  total : next.totalQueuedBytes = state.totalQueuedBytes
  buckets : next.bucketQueuedBytes = state.bucketQueuedBytes
  lookup : next.flows.lookup connId = some flow
  others : ∀ other, other ≠ connId → next.flows.lookup other = state.flows.lookup other
  entry : (∃ old, state.flows.lookup connId = some old ∧ flow.queue = old.queue ∧
      flow.fairness.pendingBytes = old.fairness.pendingBytes ∧
      flow.fairness.standingState = old.fairness.standingState ∧
      flow.fairness.bucketId = old.fairness.bucketId) ∨
    (state.flows.lookup connId = none ∧ flow.queue = [] ∧
      flow.fairness.pendingBytes = 0 ∧ flow.fairness.standingState = .transient ∧
      flow.fairness.bucketId = state.bucketFor connId)
  flows : next.flows = state.flows.insert connId flow

variable {flow : FlowEntry} {next : WorkerFairnessState}

theorem openFlow_spec (state : WorkerFairnessState) (connId frameWeight : ℕ) :
    OpenSpec state connId (state.openFlow connId frameWeight).1
      (state.openFlow connId frameWeight).2 := by
  unfold openFlow
  cases hlookup : state.flows.lookup connId with
  | none =>
    exact ⟨rfl, rfl, rfl, rfl, lookup_insert _,
      fun other hother => lookup_insert_ne hother, Or.inr ⟨hlookup, rfl, rfl, rfl, rfl⟩, rfl⟩
  | some old =>
    exact ⟨rfl, rfl, rfl, rfl, lookup_insert _, fun other hother => lookup_insert_ne hother,
      Or.inl ⟨old, hlookup, rfl, rfl, rfl, rfl⟩, rfl⟩

theorem OpenSpec.books (hspec : OpenSpec state connId flow next) (hbooks : Books none state) :
    Books none next := by
  rcases hspec.entry with ⟨old, hlookup, hqueue, hpending, hstanding, hbucket⟩ |
    ⟨hlookup, hqueue, hpending, hstanding, hbucket⟩
  · have hnew := (hbooks.flow_sound connId old hlookup).same hqueue hpending hbucket
    have hrest : (none : Option ℕ) ≠ some connId → Settled flow := by
      intro hnone hempty
      rw [hstanding]
      exact hbooks.settled connId old hlookup hnone (hqueue ▸ hempty)
    exact hbooks.keep hlookup hqueue hnew (Or.inl rfl) hrest hspec.flows hspec.total hspec.buckets
  · exact hbooks.open_new hlookup (.of_empty hqueue hpending hbucket) (fun _ => hstanding)
      hspec.flows hspec.total hspec.buckets

section

variable (state : WorkerFairnessState) (connId : ℕ)

@[simp] theorem accounts_enqueueActiveConn :
    (state.enqueueActiveConn connId).accounts = state.accounts := by
  unfold enqueueActiveConn
  split <;> rfl

theorem enqueueActiveConn_flows : (state.enqueueActiveConn connId).flows = state.flows :=
  congrArg Accounts.flows (accounts_enqueueActiveConn state connId)

theorem admitFrame_accounts (flow : FlowEntry) (frame : QueuedFrame) (now : ℕ) :
    (state.admitFrame connId flow frame now).accounts =
      (state.accounts.charge (state.bucketFor connId) frame.queuedBytes).put connId flow
        (flow.pushBack state.config state.pressure.state now frame) := by
  unfold admitFrame
  split
  · rfl
  · exact congrArg (Accounts.put connId flow
      (flow.pushBack state.config state.pressure.state now frame)) (accounts_enqueueActiveConn _ _)

theorem admitFrame_flows (flow : FlowEntry) (frame : QueuedFrame) (now : ℕ) :
    (state.admitFrame connId flow frame now).flows = state.flows.insert connId
        (flow.pushBack state.config state.pressure.state now frame) :=
  congrArg Accounts.flows (admitFrame_accounts state connId flow frame now)

end

theorem pushBack_queueBytes (now : ℕ) (flow : FlowEntry) (frame : QueuedFrame) :
    queueBytes (flow.pushBack config pressureState now frame).queue =
      queueBytes flow.queue + frame.queuedBytes := by
  simp [FlowEntry.pushBack]

variable {frame : QueuedFrame}

theorem books_admitFrame (hbooks : Books none state)
    (hlookup : state.flows.lookup connId = some flow) (hframe : frame.connId = connId) :
    Books none (state.admitFrame connId flow frame now) := by
  have hold := hbooks.flow_sound connId flow hlookup
  have hnew : FlowSound state.bucketQueuedBytes.length connId
      (flow.pushBack state.config state.pressure.state now frame) := by
    refine ⟨?_, hold.bucket, ?_⟩
    · intro queued hqueued
      rcases mem_append.mp hqueued with hin | hin
      · exact hold.owned queued hin
      · rw [mem_singleton.mp hin]
        exact hframe
    · have hadd := satAdd_le_add u64Max flow.fairness.pendingBytes frame.queuedBytes
      have hle := hold.pending_le
      rw [pushBack_queueBytes]
      simp only [FlowEntry.pushBack, classifyFlow_pendingBytes]
      omega
  have hrest : Settled (flow.pushBack state.config state.pressure.state now frame) := by
    intro hempty
    simp [FlowEntry.pushBack] at hempty
  have haccounts := admitFrame_accounts state connId flow frame now
  apply hbooks.adjust (satAdd u64Max · frame.queuedBytes) hlookup hnew (Or.inl rfl)
    (fun _ => hrest) _ rfl (congrArg Accounts.flows haccounts) (congrArg Accounts.total haccounts)
    (congrArg Accounts.buckets haccounts)
  intro scope amount haccount hscope
  exact haccount.charge hlookup hscope (pushBack_queueBytes _ _ _ _ _)

/-- The checks that refuse a frame before its flow is looked up: the saturated worker, the
bytes and the flows of the worker, and the bytes of the bucket. -/
def RefusedUnopened (state : WorkerFairnessState) (connId frameBytes : ℕ) : Prop :=
  (state.config.backpressureEnabled = true ∧ state.pressure.state = .saturated) ∨
    state.config.maxTotalQueuedBytes < satAdd u64Max state.totalQueuedBytes frameBytes ∨
    (connId ∉ state.flows ∧ state.config.maxActiveFlows ≤ state.flows.keys.length) ∨
    state.config.bucketCap <
      satAdd u64Max (state.bucketQueuedBytes.getD (state.bucketFor connId) 0) frameBytes

/-- The exits of an admission, with the checks that lead there. -/
inductive Exit (state : WorkerFairnessState) (connId flags : ℕ) (data : List Byte) (now : ℕ) :
    AdmissionDecision × WorkerFairnessState → Prop where
  | saturated (hrefused : state.RefusedUnopened connId data.length) :
      Exit state connId flags data now (.rejectSaturated, state.noteAdmissionReject now)
  | refused {decision : AdmissionDecision} (hdecision : decision ≠ .admitted)
      (hcalm : decision ≠ .rejectSaturated)
      (hrefused : state.RefusedUnopened connId data.length) :
      Exit state connId flags data now (state.rejectFrame decision now)
  | refusedOpen {decision : AdmissionDecision} (hdecision : decision ≠ .admitted)
      (hcalm : decision ≠ .rejectSaturated)
      (hpassed : ¬ state.RefusedUnopened connId data.length) :
      Exit state connId flags data now
        ((state.openFlow connId (state.config.weightForFlags flags)).2.rejectFrame decision now)
  | admitted (hpassed : ¬ state.RefusedUnopened connId data.length)
      (hflow : satAdd u64Max
        (state.openFlow connId (state.config.weightForFlags flags)).1.fairness.pendingBytes
        data.length ≤ state.config.maxFlowQueuedBytes) :
      Exit state connId flags data now
        (.admitted, (state.openFlow connId (state.config.weightForFlags flags)).2.admitFrame
          connId (state.openFlow connId (state.config.weightForFlags flags)).1
          ⟨connId, flags, data, now⟩ now)

/-- Every call of `enqueueData` leaves by one of these exits. -/
theorem enqueueData_exit (state : WorkerFairnessState) (connId flags : ℕ) (data : List Byte)
    (now : ℕ) : Exit state connId flags data now (state.enqueueData connId flags data now) := by
  unfold enqueueData
  dsimp only
  split
  · next hsaturated => exact .saturated (.inl hsaturated)
  · next hcalm =>
    split
    · next hbytes => exact .refused nofun nofun (.inr (.inl hbytes))
    · next hroom =>
      split
      · next hflows => exact .refused nofun nofun (.inr (.inr (.inl hflows)))
      · next hfew =>
        split
        · next hbucket => exact .refused nofun nofun (.inr (.inr (.inr hbucket)))
        · next hfits =>
          have hpassed : ¬ state.RefusedUnopened connId data.length := by
            rintro (hsaturated | hbytes | hflows | hbucket)
            · exact hcalm hsaturated
            · exact hroom hbytes
            · exact hfew hflows
            · exact hfits hbucket
          split
          · exact .refusedOpen nofun nofun hpassed
          · next hflow =>
            split
            · exact .refusedOpen nofun nofun hpassed
            · rw [(openFlow_spec _ _ _).config, not_lt] at hflow
              exact .admitted hpassed hflow

theorem books_enqueueData (hbooks : Books none state) (flags : ℕ) (data : List Byte) :
    Books none (state.enqueueData connId flags data now).2 := by
  have hexit := enqueueData_exit state connId flags data now
  have hopen := openFlow_spec state connId (state.config.weightForFlags flags)
  generalize state.enqueueData connId flags data now = answer at hexit ⊢
  cases hexit with
  | saturated | refused => exact hbooks.congr rfl rfl rfl
  | refusedOpen => exact (hopen.books hbooks).congr rfl rfl rfl
  | admitted => exact books_admitFrame (hopen.books hbooks) hopen.lookup rfl

inductive VisitSpec (old : FlowEntry) : FlowEntry.Visit → FlowEntry → Prop where
  | idle {new : FlowEntry} (hempty : old.queue = []) (hqueue : new.queue = [])
      (hpending : new.fairness.pendingBytes = 0)
      (hstanding : new.fairness.standingState = old.fairness.standingState)
      (hbucket : new.fairness.bucketId = old.fairness.bucketId) :
      VisitSpec old .idle new
  | skipped {new : FlowEntry} (hsome : old.queue ≠ []) (hqueue : new.queue = old.queue)
      (hpending : new.fairness.pendingBytes = old.fairness.pendingBytes)
      (hbucket : new.fairness.bucketId = old.fairness.bucketId) :
      VisitSpec old .skipped new
  | drained {new : FlowEntry} {frame : QueuedFrame}
      (hqueue : old.queue = frame :: new.queue)
      (hpending :
        new.fairness.pendingBytes = old.fairness.pendingBytes - frame.queuedBytes)
      (hbucket : new.fairness.bucketId = old.fairness.bucketId) :
      VisitSpec old (.drained frame) new

theorem visit_spec (now : ℕ) (flow : FlowEntry) :
    VisitSpec flow (flow.visit config pressureState now).1
      (flow.visit config pressureState now).2 := by
  unfold FlowEntry.visit
  cases hqueue : flow.queue with
  | nil =>
    exact .idle hqueue rfl rfl rfl rfl
  | cons front rest =>
    simp only
    split
    · exact .skipped (by simp [hqueue]) hqueue.symm rfl rfl
    · apply VisitSpec.drained
      · exact hqueue
      · split <;> rfl
      · split <;> rfl

variable {found : FlowEntry.Visit}

theorem FlowSound.of_visit {buckets : ℕ} {old new : FlowEntry}
    (hold : FlowSound buckets connId old) (hvisit : VisitSpec old found new) :
    FlowSound buckets connId new := by
  cases hvisit with
  | idle hempty hqueue hpending hstanding hbucket =>
    exact .of_empty hqueue hpending (hbucket.trans hold.bucket)
  | skipped hsome hqueue hpending hbucket => exact hold.same hqueue hpending hbucket
  | drained hqueue hpending hbucket =>
    refine ⟨?_, hbucket.trans hold.bucket, ?_⟩
    · intro frame hframe
      apply hold.owned
      rw [hqueue]
      exact mem_cons_of_mem _ hframe
    · have hle := hold.pending_le
      rw [hqueue, queueBytes_cons] at hle
      omega

/-- What the visit of a connection does to the flows: nothing is dispatched and
all queues stay, or the front frame of one queue is taken. -/
inductive VisitConnSpec (state : WorkerFairnessState) (connId : ℕ) :
    Option DispatchCandidate → WorkerFairnessState → Prop where
  | nothing {next : WorkerFairnessState}
      (hqueues : ∀ other, next.queueOf other = state.queueOf other)
      (hbooks : Books none next) :
      VisitConnSpec state connId none next
  | frame {next : WorkerFairnessState} {candidate : DispatchCandidate}
      (hconn : candidate.frame.connId = connId)
      (hmem : connId ∈ next.flows)
      (hqueue : state.queueOf connId = candidate.frame :: next.queueOf connId)
      (hothers : ∀ other, other ≠ connId → next.queueOf other = state.queueOf other)
      (hbooks : Books (some connId) next) :
      VisitConnSpec state connId (some candidate) next

theorem queueOf_of_lookup (hlookup : state.flows.lookup connId = some flow) :
    state.queueOf connId = flow.queue := by
  rw [queueOf, hlookup]
  rfl

theorem queueOf_congr (hflows : next.flows = state.flows) (other : ℕ) :
    next.queueOf other = state.queueOf other := by
  rw [queueOf, queueOf, hflows]

theorem queueOf_insert (state : WorkerFairnessState) (flow : FlowEntry)
    (hflows : next.flows = state.flows.insert connId flow) (other : ℕ) :
    next.queueOf other = if other = connId then flow.queue else state.queueOf other := by
  rw [queueOf, hflows]
  by_cases hother : other = connId
  · rw [if_pos hother, hother, lookup_insert]
    rfl
  · rw [if_neg hother, lookup_insert_ne hother]
    rfl

theorem settleVisit_undrained (state : WorkerFairnessState) (connId : ℕ)
    (visited : FlowEntry) (hfound : found = .idle ∨ found = .skipped) :
    (state.settleVisit connId visited found).2.accounts = state.accounts := by
  rcases hfound with rfl | rfl
  · rfl
  · exact accounts_enqueueActiveConn _ _

theorem release_zero (books : Accounts) (bucketId : ℕ) : books.release bucketId 0 = books := by
  unfold Accounts.release
  rw [show (fun queued : ℕ => queued - 0) = id from rfl, modify_id]
  rfl

section

variable (state : WorkerFairnessState) (connId : ℕ) (visited : FlowEntry)

theorem settleVisit_drained (frame : QueuedFrame) :
    (state.settleVisit connId visited (.drained frame)).2.accounts =
      state.accounts.release visited.fairness.bucketId frame.queuedBytes := by
  simp only [settleVisit]
  by_cases hbytes : 0 < frame.queuedBytes
  · simp only [if_pos hbytes]
    split
    · rfl
    · exact accounts_enqueueActiveConn _ _
  · have hzero : frame.queuedBytes = 0 := by omega
    rw [hzero, release_zero]
    split
    · rfl
    · exact accounts_enqueueActiveConn _ _

theorem settleVisit_flows (found : FlowEntry.Visit) :
    (state.settleVisit connId visited found).2.flows = state.flows := by
  cases found with
  | idle => rfl
  | skipped => exact enqueueActiveConn_flows _ _
  | drained frame => exact congrArg Accounts.flows (settleVisit_drained _ _ _ _)

end

theorem visitConn_spec (connId now : ℕ) (hbooks : Books none state) :
    VisitConnSpec state connId (state.visitConn connId now).1 (state.visitConn connId now).2 := by
  unfold visitConn
  cases hlookup : state.flows.lookup connId with
  | none =>
    exact .nothing (fun _ => rfl) hbooks
  | some flow =>
    have hvisit := visit_spec state.config state.pressure.state now flow
    have hold := hbooks.flow_sound connId flow hlookup
    dsimp only
    generalize (flow.visit state.config state.pressure.state now).1 = found at hvisit ⊢
    generalize (flow.visit state.config state.pressure.state now).2 = visited at hvisit ⊢
    have hnew := FlowSound.of_visit hold hvisit
    have hflows : ((state.putFlow connId flow visited).settleVisit connId visited found).2.flows =
          state.flows.insert connId visited := settleVisit_flows _ _ _ _
    have hqueues := queueOf_insert state visited hflows
    have hqueue := queueOf_of_lookup hlookup
    have hnothing : (found = .idle ∨ found = .skipped) → visited.queue = flow.queue →
        ((none : Option ℕ) ≠ some connId → Settled visited) →
        VisitConnSpec state connId none
          ((state.putFlow connId flow visited).settleVisit connId visited found).2 := by
      intro hfound hsame hrest
      have haccounts := settleVisit_undrained (state.putFlow connId flow visited) connId
        visited hfound
      apply VisitConnSpec.nothing
      · intro other
        rw [hqueues other, hsame, ← hqueue]
        split
        · next hother => rw [hother]
        · rfl
      · exact hbooks.keep hlookup hsame hnew (Or.inl rfl) hrest hflows
          (congrArg Accounts.total haccounts) (congrArg Accounts.buckets haccounts)
    cases hvisit with
    | idle hempty hnone hpending hstanding hbucket =>
      apply hnothing (Or.inl rfl) (hnone.trans hempty.symm)
      intro hnone _
      rw [hstanding]
      exact hbooks.settled connId flow hlookup hnone hempty
    | skipped hsome hsame hpending hbucket =>
      exact hnothing (Or.inr rfl) hsame fun _ hempty => absurd (hsame ▸ hempty) hsome
    | @drained _ frame hfront hpending hbucket =>
      have haccounts := settleVisit_drained (state.putFlow connId flow visited) connId visited frame
      have hsize : queueBytes visited.queue + frame.queuedBytes =
          queueBytes flow.queue := by
        rw [hfront, queueBytes_cons]
        omega
      apply VisitConnSpec.frame
      · exact hold.owned frame (by rw [hfront]; exact mem_cons_self)
      · rw [hflows]
        exact (mem_insert _).mpr (Or.inl rfl)
      · rw [hqueues connId, if_pos rfl, hqueue]
        exact hfront
      · intro other hother
        rw [hqueues other, if_neg hother]
      · apply hbooks.adjust (· - frame.queuedBytes) hlookup hnew (Or.inl rfl) (absurd rfl) _
          (hbucket.trans hold.bucket) hflows (congrArg Accounts.total haccounts)
          (congrArg Accounts.buckets haccounts)
        intro scope amount haccount hscope
        exact haccount.release hlookup hscope hsize

/-- What a decision does: nothing is dispatched and all queues stay, or the
front frame of the queue of its connection is taken. -/
inductive DecisionSpec (state : WorkerFairnessState) :
    SchedulerDecision → WorkerFairnessState → Prop where
  | idle {next : WorkerFairnessState}
      (hqueues : ∀ other, next.queueOf other = state.queueOf other)
      (hbooks : Books none next) :
      DecisionSpec state .idle next
  | dispatch {next : WorkerFairnessState} {candidate : DispatchCandidate}
      (hmem : candidate.frame.connId ∈ next.flows)
      (hqueue : state.queueOf candidate.frame.connId =
        candidate.frame :: next.queueOf candidate.frame.connId)
      (hothers : ∀ other, other ≠ candidate.frame.connId →
        next.queueOf other = state.queueOf other)
      (hbooks : Books (some candidate.frame.connId) next) :
      DecisionSpec state (.dispatch candidate) next

theorem DecisionSpec.of_queues {start : WorkerFairnessState} {decision : SchedulerDecision}
    (hspec : DecisionSpec state decision next)
    (hqueues : ∀ other, state.queueOf other = start.queueOf other) :
    DecisionSpec start decision next := by
  cases hspec with
  | idle hsame hbooks =>
    exact .idle (fun other => (hsame other).trans (hqueues other)) hbooks
  | dispatch hmem hqueue hothers hbooks =>
    apply DecisionSpec.dispatch hmem _ _ hbooks
    · rw [← hqueues]
      exact hqueue
    · intro other hother
      exact (hothers other hother).trans (hqueues other)

/-- A decision takes the first frame of one queue, or no frame at all. -/
theorem visitRing_spec (rounds : ℕ) (hbooks : Books none state) :
    DecisionSpec state (visitRing rounds state now).1 (visitRing rounds state now).2 := by
  induction rounds generalizing state with
  | zero =>
    exact .idle (fun _ => rfl) hbooks
  | succ rounds ih =>
    unfold visitRing
    split
    · exact .idle (fun _ => rfl) hbooks
    · next connId ring hring =>
      split
      · have hleft : Books none ((state.popRing ring).leaveRing connId) := hbooks.congr rfl rfl rfl
        have hspec := visitConn_spec connId now hleft
        split
        · next candidate next hvisit =>
          rw [hvisit] at hspec
          cases hspec with
          | frame hconn hmem hqueue hothers hnext =>
            subst hconn
            exact .dispatch hmem hqueue hothers hnext
        · next next hvisit =>
          rw [hvisit] at hspec
          cases hspec with
          | nothing hqueues hnext =>
            exact (ih hnext).of_queues hqueues
      · have hpopped : Books none (state.popRing ring) := hbooks.congr rfl rfl rfl
        exact (ih hpopped).of_queues fun _ => rfl

/-- A decision takes the front frame of one queue, or takes nothing. -/
theorem nextDecision_spec (now : ℕ) (hbooks : Books none state) :
    DecisionSpec state (state.nextDecision now).1 (state.nextDecision now).2 := by
  have hstart : Books none (state.countRound.evaluatePressure now false) := hbooks.congr rfl rfl rfl
  exact (visitRing_spec _ hstart).of_queues fun _ => rfl

theorem books_feedbackRouted (hbooks : Books (some connId) state)
    (hmem : connId ∈ state.flows) (frame : QueuedFrame) :
    Books none (state.feedbackRouted connId frame now) := by
  obtain ⟨flow, hlookup⟩ := Option.isSome_iff_exists.mp (lookup_isSome.mpr hmem)
  have hnew : FlowSound state.bucketQueuedBytes.length connId
      (flow.noteRouted state.config state.pressure.state now frame) :=
    (hbooks.flow_sound connId flow hlookup).same rfl rfl rfl
  have hsame : (flow.noteRouted state.config state.pressure.state now frame).queue = flow.queue :=
    rfl
  unfold feedbackRouted
  rw [hlookup]
  apply books_evaluatePressure
  exact hbooks.keep hlookup hsame hnew (Or.inr rfl) (fun _ => hnew.settled) rfl rfl rfl

theorem noteStall_pending (flow : FlowEntry) :
    (flow.noteStall config).fairness.pendingBytes = flow.fairness.pendingBytes := by
  unfold FlowEntry.noteStall
  split <;> rfl

theorem noteStall_bucketId (flow : FlowEntry) :
    (flow.noteStall config).fairness.bucketId = flow.fairness.bucketId := by
  unfold FlowEntry.noteStall
  split <;> rfl

theorem noteStall_queue (flow : FlowEntry) : (flow.noteStall config).queue = flow.queue := by
  unfold FlowEntry.noteStall
  split <;> rfl

theorem books_shedFrame (hbooks : Books (some connId) state)
    (hlookup : state.flows.lookup connId = some flow) :
    Books none (state.shedFrame connId flow now) := by
  have hsame : ((flow.noteStall state.config).classify state.config
      state.pressure.state now).queue = flow.queue := noteStall_queue _ _
  have hnew := (hbooks.flow_sound connId flow hlookup).same hsame (noteStall_pending _ _)
    (noteStall_bucketId _ _)
  exact hbooks.keep hlookup hsame hnew (Or.inr rfl) (fun _ => hnew.settled) rfl rfl rfl

section

variable (state : WorkerFairnessState) (connId : ℕ) (flow : FlowEntry) (frame : QueuedFrame)
  (now : ℕ)

theorem requeueFrame_accounts :
    (state.requeueFrame connId flow frame now).accounts =
      (state.accounts.charge flow.fairness.bucketId frame.queuedBytes).put connId flow
        (((flow.noteStall state.config).pushFront frame).classify state.config
          state.pressure.state now) := by
  unfold requeueFrame
  split
  · rfl
  · exact congrArg (Accounts.put connId flow
      (((flow.noteStall state.config).pushFront frame).classify state.config
        state.pressure.state now)) (accounts_enqueueActiveConn _ _)

theorem requeueFrame_flows :
    (state.requeueFrame connId flow frame now).flows = state.flows.insert connId
        (((flow.noteStall state.config).pushFront frame).classify state.config
          state.pressure.state now) :=
  congrArg Accounts.flows (requeueFrame_accounts state connId flow frame now)

end

section

variable (hbooks : Books (some connId) state) (hlookup : state.flows.lookup connId = some flow)
  (hframe : frame.connId = connId)
include hbooks hlookup hframe

theorem books_requeueFrame : Books none (state.requeueFrame connId flow frame now) := by
  have hold := hbooks.flow_sound connId flow hlookup
  have hqueue : (((flow.noteStall state.config).pushFront frame).classify state.config
      state.pressure.state now).queue = frame :: flow.queue := by
    rw [← noteStall_queue state.config flow]
    rfl
  have hnew : FlowSound state.bucketQueuedBytes.length connId
      (((flow.noteStall state.config).pushFront frame).classify state.config
        state.pressure.state now) := by
    refine ⟨?_, (noteStall_bucketId _ _).trans hold.bucket, ?_⟩
    · rw [hqueue]
      intro queued hqueued
      rcases mem_cons.mp hqueued with rfl | hin
      · exact hframe
      · exact hold.owned queued hin
    · have hadd := satAdd_le_add u64Max (flow.noteStall state.config).fairness.pendingBytes
        frame.queuedBytes
      have hle := hold.pending_le
      rw [noteStall_pending] at hadd
      rw [hqueue, queueBytes_cons]
      simp only [FlowEntry.classify, FlowEntry.pushFront, classifyFlow_pendingBytes,
        noteStall_pending]
      omega
  have haccounts := requeueFrame_accounts state connId flow frame now
  apply hbooks.adjust (satAdd u64Max · frame.queuedBytes) hlookup hnew (Or.inr rfl) _ _ hold.bucket
    (congrArg Accounts.flows haccounts) (congrArg Accounts.total haccounts)
    (congrArg Accounts.buckets haccounts)
  · intro _ hempty
    cases hempty
  · intro scope amount haccount hscope
    exact haccount.charge hlookup hscope (by rw [hqueue, queueBytes_cons, Nat.add_comm])

theorem books_stallFrame : Books none (state.stallFrame connId flow frame now) := by
  unfold stallFrame
  split
  · exact books_shedFrame hbooks hlookup
  · exact books_requeueFrame hbooks hlookup hframe

end

theorem books_noteRouteStall (hbooks : Books busy state) :
    Books busy (state.noteRouteStall now) := by
  unfold noteRouteStall
  split
  · exact hbooks.congr rfl rfl rfl
  · exact hbooks

theorem noteRouteStall_flows (state : WorkerFairnessState) (now : ℕ) :
    (state.noteRouteStall now).flows = state.flows := by
  unfold noteRouteStall
  split <;> rfl

theorem books_feedbackQueueFull (hbooks : Books (some connId) state)
    (hmem : connId ∈ state.flows) (hframe : frame.connId = connId) :
    Books none (state.feedbackQueueFull connId frame now).2 := by
  obtain ⟨flow, hlookup⟩ := Option.isSome_iff_exists.mp (lookup_isSome.mpr hmem)
  have hnoted : (state.noteRouteStall now).flows.lookup connId = some flow := by
    rw [noteRouteStall_flows]
    exact hlookup
  have hstalled : Books none ((state.noteRouteStall now).stallFrame connId flow frame now) :=
    books_stallFrame (books_noteRouteStall hbooks) hnoted hframe
  unfold feedbackQueueFull
  simp only [hnoted]
  split
  · exact books_evaluatePressure (books_removeFlow hstalled (Or.inl rfl)) true
  · exact books_evaluatePressure hstalled true

theorem books_applyDispatchFeedback {candidate : DispatchCandidate}
    (hbooks : Books (some candidate.frame.connId) state)
    (hmem : candidate.frame.connId ∈ state.flows) (feedback : DispatchFeedback) :
    Books none (state.applyDispatchFeedback candidate.frame.connId candidate feedback now).2 := by
  cases feedback with
  | routed => exact books_feedbackRouted hbooks hmem candidate.frame
  | queueFull => exact books_feedbackQueueFull hbooks hmem rfl
  | channelClosed | noConn =>
    exact books_evaluatePressure (books_removeFlow hbooks (Or.inr rfl)) true

/-! ## Runs -/

theorem books_dispatch (hbooks : Books none state) (feedback : DispatchFeedback)
    (feedbackAt : ℕ) : Books none (state.dispatch now feedback feedbackAt) := by
  have hspec := nextDecision_spec now hbooks
  unfold dispatch
  generalize state.nextDecision now = answer at hspec ⊢
  obtain ⟨decision, next⟩ := answer
  cases hspec with
  | idle hqueues hnext => exact hnext
  | dispatch hmem hqueue hothers hnext =>
    exact books_applyDispatchFeedback hnext hmem feedback

/-- Every operation keeps the books. -/
theorem books_step (hbooks : Books none state) (op : Op) : Books none (state.step op) := by
  cases op with
  | enqueueData connId flags data now => exact books_enqueueData hbooks flags data
  | dispatch now feedback feedbackAt => exact books_dispatch hbooks feedback feedbackAt
  | removeFlow connId => exact books_removeFlow hbooks (Or.inl rfl)
  | setBackpressureEnabled enabled now => exact books_setBackpressureEnabled hbooks enabled

/-- The books stay sound along every run of the worker. -/
theorem books_run (hbooks : Books none state) (ops : List Op) : Books none (state.run ops) := by
  induction ops generalizing state with
  | nil => exact hbooks
  | cons op ops ih => exact ih (books_step hbooks op)

def Drained (state : WorkerFairnessState) : Prop :=
  ∀ connId flow, state.flows.lookup connId = some flow → flow.queue = []

instance (state : WorkerFairnessState) : Decidable state.Drained :=
  decidable_of_iff (∀ row ∈ state.flows.entries, row.2.queue = [])
    ⟨fun hrows connId flow hlookup =>
      hrows ⟨connId, flow⟩ ((List.mem_dlookup_iff state.flows.nodupKeys).mp hlookup),
    fun hdrained row hrow =>
      hdrained row.1 row.2 ((List.mem_dlookup_iff state.flows.nodupKeys).mpr hrow)⟩

theorem Drained.account {scope : ℕ → Bool} {amount : ℕ} (hdrained : state.Drained)
    (haccount : Account scope state.flows amount) : amount = 0 := by
  have htotal : state.flows.total (queuedWithin scope) = 0 := by
    apply total_eq_zero
    intro connId flow hlookup
    rw [queuedWithin, hdrained connId flow hlookup, queueBytes_nil, ite_self]
  exact Nat.le_zero.mp (htotal ▸ haccount.le_total)

theorem satAdd_zero_le {limit bytes cap : ℕ} (hcap : bytes ≤ cap) : satAdd limit 0 bytes ≤ cap :=
  (satAdd_le_add limit 0 bytes).trans ((Nat.zero_add bytes).le.trans hcap)

theorem OpenSpec.drained (hspec : OpenSpec state connId flow next) (hbooks : Books none state)
    (hdrained : state.Drained) :
    flow.fairness.pendingBytes = 0 ∧ flow.fairness.standingState = .transient := by
  rcases hspec.entry with ⟨old, hlookup, -, hpending, hstanding, -⟩ |
    ⟨-, -, hpending, hstanding, -⟩
  · have hempty := hdrained connId old hlookup
    have hle := (hbooks.flow_sound connId old hlookup).pending_le
    rw [hempty, queueBytes_nil] at hle
    rw [hpending, hstanding]
    exact ⟨Nat.le_zero.mp hle, hbooks.settled connId old hlookup (fun h => nomatch h) hempty⟩
  · exact ⟨hpending, hstanding⟩

/-- In a drained worker that is not saturated, a frame within the byte limits
is admitted exactly when its connection has an entry or the table of entries
has room.  Entries of drained flows stay in that table until they are removed. -/
theorem enqueueData_drained_iff (config : WorkerFairnessConfig) (start : ℕ)
    (ops : List Op) (connId flags : ℕ) (data : List Byte) (now : ℕ)
    (hdrained : ((new config start).run ops).Drained)
    (hpressure : ((new config start).run ops).pressure.state ≠ .saturated)
    (hflow : data.length ≤ ((new config start).run ops).config.maxFlowQueuedBytes)
    (htotal : data.length ≤ ((new config start).run ops).config.maxTotalQueuedBytes) :
    (((new config start).run ops).enqueueData connId flags data now).1 = .admitted ↔
      connId ∈ ((new config start).run ops).flows ∨ ((new config start).run ops).flows.keys.length <
          ((new config start).run ops).config.maxActiveFlows := by
  have hbooks := books_run (books_new config start) ops
  generalize (new config start).run ops = state at *
  have hworker := hdrained.account hbooks.worker
  have hbucket := hdrained.account (hbooks.bucket (state.bucketFor connId))
  have hcap : data.length ≤ state.config.bucketCap := hflow.trans (le_max_right _ _)
  unfold enqueueData
  dsimp only [QueuedFrame.queuedBytes]
  rw [if_neg (fun h => hpressure h.2), hworker, hbucket]
  rw [if_neg (not_lt.mpr (satAdd_zero_le htotal))]
  by_cases hroom : connId ∉ state.flows ∧ state.config.maxActiveFlows ≤ state.flows.keys.length
  · rw [if_pos hroom]
    constructor
    · intro hadmit
      cases hadmit
    · rintro (hmem | hlt)
      · exact absurd hmem hroom.1
      · exact absurd hlt (not_lt.mpr hroom.2)
  · rw [if_neg hroom, if_neg (not_lt.mpr (satAdd_zero_le hcap))]
    have hspec := openFlow_spec state connId (state.config.weightForFlags flags)
    cases hopen : state.openFlow connId (state.config.weightForFlags flags) with
    | mk flow opened =>
      rw [hopen] at hspec
      obtain ⟨hpending, hstanding⟩ := hspec.drained hbooks hdrained
      rw [hspec.config, hpending, if_neg (not_lt.mpr (satAdd_zero_le hflow))]
      rw [if_neg (by rw [hstanding]; exact fun h => nomatch h.2.2)]
      constructor
      · intro _
        by_cases hmem : connId ∈ state.flows
        · exact Or.inl hmem
        · exact Or.inr (not_le.mp fun hle => hroom ⟨hmem, hle⟩)
      · intro _
        rfl

/-- A worker with room for two entries, after one frame of each of two
connections was admitted and routed. -/
def twoRouted : List Op :=
  [.enqueueData 1 0 [10, 11] 0, .enqueueData 2 0 [20] 1, .dispatch 2 .routed 2,
    .dispatch 3 .routed 3]

theorem enqueueData_drained_seen :
    ((new { maxActiveFlows := 2 } 0).run twoRouted).Drained ∧
      (((new { maxActiveFlows := 2 } 0).run twoRouted).enqueueData 1 0 [12] 4).1 = .admitted := by
  have hdrained : ((new { maxActiveFlows := 2 } 0).run twoRouted).Drained := by
    decide +kernel
  refine ⟨hdrained, ?_⟩
  exact (enqueueData_drained_iff { maxActiveFlows := 2 } 0 twoRouted 1 0 [12] 4 hdrained
    (by decide +kernel) (by decide +kernel) (by decide +kernel)).mpr (Or.inl (by decide +kernel))

/-- A third connection is refused although nothing is queued. -/
theorem enqueueData_drained_refused :
    ((new { maxActiveFlows := 2 } 0).run twoRouted).Drained ∧
      ((new { maxActiveFlows := 2 } 0).run twoRouted).pressure.state ≠ .saturated ∧
      [(30 : Byte)].length ≤
        ((new { maxActiveFlows := 2 } 0).run twoRouted).config.maxFlowQueuedBytes ∧
      [(30 : Byte)].length ≤
        ((new { maxActiveFlows := 2 } 0).run twoRouted).config.maxTotalQueuedBytes ∧
      (((new { maxActiveFlows := 2 } 0).run twoRouted).enqueueData 3 0 [30] 4).1 =
        .rejectWorkerCap := by
  decide +kernel

end WorkerFairnessState

end TupoProxy.Fairness
