import TupoProxy.FairnessLedger

/-!
# Exact accounts of the fairness scheduler

The redundant counters of a worker, apart from everything else in its state: the
queued bytes of the worker and of each bucket, the flows of each bucket, and the
standing and backpressured flows.  The scheduler changes them together with the
table of flows in five ways.  Each of the five keeps the counters exact and within
the limits of the configuration, and none of its subtractions goes below zero.
-/

namespace TupoProxy.Fairness

open Table List

abbrev Drop := ℕ × ℕ

def NoClip (drops : List Drop) : Prop := ∀ drop ∈ drops, drop.2 ≤ drop.1

theorem noClip_append {left right : List Drop} :
    NoClip (left ++ right) ↔ NoClip left ∧ NoClip right :=
  forall_mem_append

def memberDrops (count : ℕ) (before after : Bool) : List Drop :=
  if before && !after then [(count, 1)] else []

namespace Accounts

def putDrops (before after : FlowEntry) (books : Accounts) : List Drop :=
  memberDrops books.standing (flowMembership before.fairness).1
      (flowMembership after.fairness).1 ++
    memberDrops books.backpressured (flowMembership before.fairness).2
      (flowMembership after.fairness).2

def releaseDrops (bucketId bytes : ℕ) (books : Accounts) : List Drop :=
  [(books.total, bytes), (books.buckets.getD bucketId 0, bytes)]

def openFlow (connId : ℕ) (flow : FlowEntry) (books : Accounts) : Accounts :=
  { books with
    flows := books.flows.insert connId flow
    bucketFlows :=
      books.bucketFlows.modify flow.fairness.bucketId fun count => satAdd u64Max count 1 }

def close (connId : ℕ) (entry : FlowEntry) (books : Accounts) : Accounts :=
  release entry.fairness.bucketId (WorkerFairnessState.reclaimedBytes entry.queue)
    { books with
      flows := books.flows.erase connId
      standing :=
        if (flowMembership entry.fairness).1 then books.standing - 1 else books.standing
      backpressured :=
        if (flowMembership entry.fairness).2 then books.backpressured - 1
        else books.backpressured
      bucketFlows :=
        books.bucketFlows.modify entry.fairness.bucketId fun count => count - 1 }

def closeDrops (entry : FlowEntry) (books : Accounts) : List Drop :=
  memberDrops books.standing (flowMembership entry.fairness).1 false ++
    memberDrops books.backpressured (flowMembership entry.fairness).2 false ++
    [(books.bucketFlows.getD entry.fairness.bucketId 0, 1)] ++
    books.releaseDrops entry.fairness.bucketId
      (WorkerFairnessState.reclaimedBytes entry.queue)

structure Room (limits : WorkerFairnessConfig) (books : Accounts) (entry : FlowEntry)
    (bytes : ℕ) : Prop where
  total : books.total + bytes ≤ limits.maxTotalQueuedBytes
  flow : entry.fairness.pendingBytes + bytes ≤ limits.maxFlowQueuedBytes
  bucket : books.buckets.getD entry.fairness.bucketId 0 + bytes ≤ limits.bucketCap

/-- The five changes, with their subtractions. -/
inductive Edit (limits : WorkerFairnessConfig) (books : Accounts) :
    List Drop → Accounts → Prop where
  | keep {connId : ℕ} {old new : FlowEntry}
      (hlookup : books.flows.lookup connId = some old)
      (hqueue : new.queue = old.queue)
      (hpending : new.fairness.pendingBytes = old.fairness.pendingBytes ∨
        new.fairness.pendingBytes = 0 ∧ new.queue = [])
      (hbucket : new.fairness.bucketId = old.fairness.bucketId) :
      Edit limits books (books.putDrops old new) (books.put connId old new)
  | charge {connId bytes : ℕ} {old new : FlowEntry}
      (hlookup : books.flows.lookup connId = some old)
      (hqueue : queueBytes new.queue = queueBytes old.queue + bytes)
      (hpending : new.fairness.pendingBytes = satAdd u64Max old.fairness.pendingBytes bytes)
      (hbucket : new.fairness.bucketId = old.fairness.bucketId)
      (hroom : books.Room limits old bytes) :
      Edit limits books (books.putDrops old new)
        ((books.charge old.fairness.bucketId bytes).put connId old new)
  | release {connId bytes : ℕ} {old new : FlowEntry}
      (hlookup : books.flows.lookup connId = some old)
      (hqueue : queueBytes new.queue + bytes = queueBytes old.queue)
      (hpending : new.fairness.pendingBytes = old.fairness.pendingBytes - bytes)
      (hbucket : new.fairness.bucketId = old.fairness.bucketId) :
      Edit limits books
        (books.putDrops old new ++ (old.fairness.pendingBytes, bytes) ::
          if 0 < bytes then books.releaseDrops old.fairness.bucketId bytes else [])
        ((books.put connId old new).release old.fairness.bucketId bytes)
  | opened {connId : ℕ} {new : FlowEntry} (hlookup : books.flows.lookup connId = none)
      (hqueue : new.queue = []) (hpending : new.fairness.pendingBytes = 0)
      (hmember : flowMembership new.fairness = (false, false))
      (hbucket : new.fairness.bucketId = connId % max books.buckets.length 1)
      (hroom : books.flows.keys.length < limits.maxActiveFlows) :
      Edit limits books [] (books.openFlow connId new)
  | closed {connId : ℕ} {entry : FlowEntry}
      (hlookup : books.flows.lookup connId = some entry) :
      Edit limits books (books.closeDrops entry) (books.close connId entry)

def countedWithin (scope : ℕ → Bool) (connId : ℕ) (_ : FlowEntry) : ℕ :=
  (scope connId).toNat

def standingWeight (_ : ℕ) (flow : FlowEntry) : ℕ := (flowMembership flow.fairness).1.toNat

def backpressuredWeight (_ : ℕ) (flow : FlowEntry) : ℕ :=
  (flowMembership flow.fairness).2.toNat

structure Exact (books : Accounts) : Prop where
  pending : ∀ connId flow, books.flows.lookup connId = some flow →
    flow.fairness.pendingBytes = queueBytes flow.queue
  total : books.total = books.flows.total (queuedWithin everyConn)
  bucket : ∀ bucket, books.buckets.getD bucket 0 =
    books.flows.total (queuedWithin (inBucket books.buckets.length bucket))
  bucketFlows : ∀ bucket, books.bucketFlows.getD bucket 0 =
    books.flows.total (countedWithin (inBucket books.buckets.length bucket))
  standing : books.standing = books.flows.total standingWeight
  backpressured : books.backpressured = books.flows.total backpressuredWeight

structure Capped (limits : WorkerFairnessConfig) (books : Accounts) : Prop where
  total : books.total ≤ limits.maxTotalQueuedBytes
  flow : ∀ connId flow, books.flows.lookup connId = some flow →
    flow.fairness.pendingBytes ≤ limits.maxFlowQueuedBytes
  bucket : ∀ bucket, books.buckets.getD bucket 0 ≤ limits.bucketCap
  flows : books.flows.keys.length ≤ limits.maxActiveFlows

structure Bucketed (books : Accounts) : Prop where
  placed : ∀ connId flow, books.flows.lookup connId = some flow →
    flow.fairness.bucketId = connId % max books.buckets.length 1
  some_bucket : 0 < books.buckets.length
  same_buckets : books.bucketFlows.length = books.buckets.length

structure MachineLimits (limits : WorkerFairnessConfig) : Prop where
  total : limits.maxTotalQueuedBytes ≤ u64Max
  flows : limits.maxActiveFlows ≤ u64Max

structure Audited (limits : WorkerFairnessConfig) (books : Accounts) : Prop where
  counts : books.Exact
  capped : books.Capped limits
  bucketed : books.Bucketed

variable {limits : WorkerFairnessConfig} {books next : Accounts} {drops : List Drop}
  {flows : Table ℕ FlowEntry} {connId bytes : ℕ} {old new : FlowEntry}

/-! ## Members and scopes -/

theorem count_lt_length {weight : ℕ → FlowEntry → ℕ}
    (hone : ∀ other flow, weight other flow ≤ 1) (hlookup : flows.lookup connId = some old)
    (hzero : weight connId old = 0) : flows.total weight < flows.keys.length := by
  have hweight := total_erase_add weight hlookup
  have hcount := total_erase_add (fun _ _ => 1) hlookup
  have hle : Table.total (flows.erase connId) weight ≤
      Table.total (flows.erase connId) fun _ _ => 1 := total_le_total hone
  rw [length_keys]
  omega

variable {count : ℕ} (weight : ℕ → FlowEntry → ℕ)

theorem memberCount_exact {before after : Bool}
    (hone : ∀ other flow, weight other flow ≤ 1) (hlookup : flows.lookup connId = some old)
    (hcount : count = flows.total weight) (hfew : flows.keys.length ≤ u64Max)
    (hbefore : weight connId old = before.toNat) (hafter : weight connId new = after.toNat) :
    WorkerFairnessState.memberCount count before after =
      Table.total (flows.insert connId new) weight := by
  have htotal := total_insert_replace weight new hlookup
  rw [hbefore, hafter] at htotal
  unfold WorkerFairnessState.memberCount
  cases before with
  | true =>
    cases after with
    | true =>
      rw [if_pos rfl, hcount]
      omega
    | false =>
      rw [if_neg (by decide), if_neg (by decide), hcount]
      change _ + 1 = 0 + _ at htotal
      omega
  | false =>
    cases after with
    | true =>
      have hlt := count_lt_length hone hlookup hbefore
      rw [if_neg (by decide), if_pos rfl, satAdd, hcount]
      change _ + 0 = 1 + _ at htotal
      omega
    | false =>
      rw [if_pos rfl, hcount]
      omega

theorem memberDrops_noClip {before after : Bool}
    (hlookup : flows.lookup connId = some old) (hcount : count = flows.total weight)
    (hbefore : weight connId old = before.toNat) : NoClip (memberDrops count before after) := by
  have hle := weight_le_total weight hlookup
  unfold memberDrops
  cases before with
  | true =>
    split
    · intro drop hdrop
      rw [mem_singleton.mp hdrop, hcount]
      rw [hbefore] at hle
      exact hle
    · exact nofun
  | false => exact nofun

variable (other : ℕ)

theorem standingWeight_le (flow : FlowEntry) : standingWeight other flow ≤ 1 :=
  Bool.toNat_le _

theorem backpressuredWeight_le (flow : FlowEntry) :
    backpressuredWeight other flow ≤ 1 := Bool.toNat_le _

theorem Exact.put_noClip (hcounts : books.Exact)
    (hlookup : books.flows.lookup connId = some old) : NoClip (books.putDrops old new) :=
  noClip_append.mpr ⟨memberDrops_noClip standingWeight hlookup hcounts.standing rfl,
      memberDrops_noClip backpressuredWeight hlookup hcounts.backpressured rfl⟩

variable (scope : ℕ → Bool)

theorem queuedWithin_le (other : ℕ) (flow : FlowEntry) :
    queuedWithin scope other flow ≤ queuedWithin everyConn other flow := by
  unfold queuedWithin
  split
  · exact le_rfl
  · exact Nat.zero_le _

/-- The amounts of the scopes with the connection are changed, and no others. -/
structure Scoped (connId : ℕ) (change : ℕ → ℕ) (before after : (ℕ → Bool) → ℕ) : Prop where
  inside : ∀ scope : ℕ → Bool, scope connId = true → after scope = change (before scope)
  outside : ∀ scope : ℕ → Bool, scope connId = false → after scope = before scope

variable {before after : (ℕ → Bool) → ℕ}

theorem Scoped.of_eq (hsame : ∀ scope, after scope = before scope) :
    Scoped connId id before after :=
  ⟨fun scope _ => hsame scope, fun scope _ => hsame scope⟩

variable {amounts : List ℕ} {change : ℕ → ℕ}

theorem Scoped.modified (hscoped : Scoped connId change before after) (hsome : 0 < amounts.length)
    (hexact : ∀ bucket, amounts.getD bucket 0 = before (inBucket amounts.length bucket))
    (bucket : ℕ) :
    (amounts.modify (connId % max amounts.length 1) change).getD bucket 0 =
      after (inBucket amounts.length bucket) := by
  rw [Books.getD_modify]
  by_cases hindex : connId % max amounts.length 1 = bucket
  · have hbound : bucket < amounts.length := by
      rw [← hindex, Nat.max_eq_left hsome]
      exact Nat.mod_lt _ hsome
    rw [if_pos ⟨hindex, hbound⟩, hexact, hscoped.inside _ (decide_eq_true hindex)]
  · rw [if_neg (fun hboth => hindex hboth.1), hexact, hscoped.outside _ (decide_eq_false hindex)]

theorem scoped_erase (weight : (ℕ → Bool) → ℕ → FlowEntry → ℕ) {amount : ℕ}
    (hlookup : flows.lookup connId = some old)
    (hinside : ∀ scope : ℕ → Bool, scope connId = true → weight scope connId old = amount)
    (houtside : ∀ scope : ℕ → Bool, scope connId = false → weight scope connId old = 0) :
    Scoped connId (· - amount) (fun scope => flows.total (weight scope))
      fun scope => Table.total (flows.erase connId) (weight scope) := by
  constructor
  · intro scope hscope
    have htotal := total_erase_add (weight scope) hlookup
    rw [hinside scope hscope] at htotal
    exact Nat.eq_sub_of_add_eq htotal
  · intro scope hscope
    have htotal := total_erase_add (weight scope) hlookup
    rw [houtside scope hscope] at htotal
    exact htotal

theorem queued_inside {scope : ℕ → Bool} (hscope : scope connId = true)
    (hlookup : flows.lookup connId = some old) (new : FlowEntry) :
    Table.total (flows.insert connId new) (queuedWithin scope) + queueBytes old.queue =
      queueBytes new.queue + flows.total (queuedWithin scope) := by
  have htotal := total_insert_replace (queuedWithin scope) new hlookup
  simp only [queuedWithin, if_pos hscope] at htotal ⊢
  exact htotal

theorem counted_replace (hlookup : flows.lookup connId = some old) (new : FlowEntry) :
    Table.total (flows.insert connId new) (countedWithin scope) =
      flows.total (countedWithin scope) := by
  have htotal := total_insert_replace (countedWithin scope) new hlookup
  have hsame : countedWithin scope connId new = countedWithin scope connId old := rfl
  omega

theorem length_replace (hlookup : flows.lookup connId = some old) (new : FlowEntry) :
    (flows.insert connId new).keys.length = flows.keys.length := by
  have htotal := total_insert_replace (fun _ _ => 1) new hlookup
  rw [length_keys, length_keys]
  omega

theorem modified_le {cap index : ℕ} (hall : ∀ bucket, amounts.getD bucket 0 ≤ cap)
    (hone : change (amounts.getD index 0) ≤ cap) (bucket : ℕ) :
    (amounts.modify index change).getD bucket 0 ≤ cap := by
  rw [Books.getD_modify]
  split
  · next hindex =>
    rw [← hindex.1]
    exact hone
  · exact hall bucket

theorem Exact.queued_le_total (hcounts : books.Exact) (scope : ℕ → Bool) :
    books.flows.total (queuedWithin scope) ≤ books.total := by
  rw [hcounts.total]
  exact total_le_total (queuedWithin_le scope)

theorem Exact.queueBytes_le (hcounts : books.Exact)
    (hlookup : books.flows.lookup connId = some old) : queueBytes old.queue ≤ books.total := by
  rw [hcounts.total]
  exact weight_le_total (queuedWithin everyConn) hlookup

theorem Exact.queued_insert (hcounts : books.Exact) (hlookup : books.flows.lookup connId = some old)
    (hchange : ∀ amount, queueBytes old.queue ≤ amount → amount ≤ books.total →
      change amount + queueBytes old.queue = queueBytes new.queue + amount) :
    Scoped connId change (fun scope => books.flows.total (queuedWithin scope))
      fun scope => Table.total (books.flows.insert connId new) (queuedWithin scope) := by
  constructor
  · intro scope hscope
    have htotal := queued_inside hscope hlookup new
    have hrow := weight_le_total (queuedWithin scope) hlookup
    rw [queuedWithin, if_pos hscope] at hrow
    have hsum := hchange _ hrow (hcounts.queued_le_total scope)
    omega
  · intro scope hscope
    have htotal := total_insert_replace (queuedWithin scope) new hlookup
    have hnone : ∀ flow, queuedWithin scope connId flow = 0 := by
      intro flow
      rw [queuedWithin, hscope]
      rfl
    rw [hnone, hnone] at htotal
    omega

theorem Bucketed.inBucket_placed (hbucketed : books.Bucketed)
    (hlookup : books.flows.lookup connId = some old) :
    inBucket books.buckets.length old.fairness.bucketId connId = true :=
  decide_eq_true (hbucketed.placed connId old hlookup).symm

theorem Audited.release_noClip (haudited : books.Audited limits)
    (hlookup : books.flows.lookup connId = some old) (hbytes : bytes ≤ queueBytes old.queue) :
    NoClip (books.releaseDrops old.fairness.bucketId bytes) := by
  have hbucket := haudited.counts.bucket old.fairness.bucketId
  have hscope := haudited.bucketed.inBucket_placed hlookup
  have hrow := weight_le_total
    (queuedWithin (inBucket books.buckets.length old.fairness.bucketId)) hlookup
  have htotal := haudited.counts.queued_le_total
    (inBucket books.buckets.length old.fairness.bucketId)
  rw [queuedWithin, if_pos hscope] at hrow
  intro drop hdrop
  rcases mem_cons.mp hdrop with rfl | hdrop
  · dsimp only
    omega
  · rw [mem_singleton.mp hdrop, hbucket]
    omega

structure FlowAudited (limits : WorkerFairnessConfig) (buckets connId : ℕ) (flow : FlowEntry) :
    Prop where
  pending : flow.fairness.pendingBytes = queueBytes flow.queue
  capped : flow.fairness.pendingBytes ≤ limits.maxFlowQueuedBytes
  placed : flow.fairness.bucketId = connId % max buckets 1

section

variable (haudited : books.Audited limits)
include haudited

theorem Audited.flow (hlookup : books.flows.lookup connId = some old) :
    FlowAudited limits books.buckets.length connId old :=
  ⟨haudited.counts.pending connId old hlookup, haudited.capped.flow connId old hlookup,
    haudited.bucketed.placed connId old hlookup⟩

theorem Audited.flow_insert
    (hnew : FlowAudited limits books.buckets.length connId new) (other : ℕ) (flow : FlowEntry)
    (hflow : (books.flows.insert connId new).lookup other = some flow) :
    FlowAudited limits books.buckets.length other flow := by
  rcases lookup_insert_some hflow with ⟨rfl, rfl⟩ | ⟨-, hbefore⟩
  · exact hnew
  · exact haudited.flow hbefore

/-- The counters of one connection change with its row, and its bucket with them. -/
theorem Audited.move (queuedChange countedChange : ℕ → ℕ)
    (hflow : ∀ other flow, next.flows.lookup other = some flow →
      FlowAudited limits books.buckets.length other flow)
    (hqueued : Scoped connId queuedChange (fun scope => books.flows.total (queuedWithin scope))
      fun scope => next.flows.total (queuedWithin scope))
    (hcounted : Scoped connId countedChange (fun scope => books.flows.total (countedWithin scope))
      fun scope => next.flows.total (countedWithin scope))
    (htotal : next.total = queuedChange books.total) (hbuckets : next.buckets =
      books.buckets.modify (connId % max books.buckets.length 1) queuedChange)
    (hbucketFlows : next.bucketFlows =
      books.bucketFlows.modify (connId % max books.buckets.length 1) countedChange)
    (hstanding : next.standing = next.flows.total standingWeight)
    (hbackpressured : next.backpressured = next.flows.total backpressuredWeight)
    (htotalCap : queuedChange books.total ≤ limits.maxTotalQueuedBytes)
    (hbucketCap : queuedChange (books.buckets.getD (connId % max books.buckets.length 1) 0) ≤
      limits.bucketCap)
    (hfew : next.flows.keys.length ≤ limits.maxActiveFlows) : next.Audited limits := by
  have hlength : next.buckets.length = books.buckets.length := by
    rw [hbuckets, length_modify]
  have hsame := haudited.bucketed.same_buckets
  have hsome := haudited.bucketed.some_bucket
  refine ⟨⟨fun other flow hlookup => (hflow other flow hlookup).pending, ?_, ?_, ?_,
    hstanding, hbackpressured⟩, ⟨htotal ▸ htotalCap,
    fun other flow hlookup => (hflow other flow hlookup).capped, ?_, hfew⟩, ?_, ?_, ?_⟩
  · rw [htotal, haudited.counts.total]
    exact (hqueued.inside everyConn rfl).symm
  · rw [hlength, hbuckets]
    exact hqueued.modified hsome haudited.counts.bucket
  · have hflows := haudited.counts.bucketFlows
    rw [← hsame] at hflows
    rw [hlength, hbucketFlows, ← hsame]
    exact hcounted.modified (hsame ▸ hsome) hflows
  · rw [hbuckets]
    exact modified_le haudited.capped.bucket hbucketCap
  · rw [hlength]
    exact fun other flow hlookup => (hflow other flow hlookup).placed
  · rw [hlength]
    exact hsome
  · rw [hlength, hbucketFlows, length_modify, hsame]

section

variable (hmachine : MachineLimits limits)
include hmachine

theorem Audited.replace (change : ℕ → ℕ) (hlookup : books.flows.lookup connId = some old)
    (hnew : FlowAudited limits books.buckets.length connId new)
    (hchange : ∀ amount, queueBytes old.queue ≤ amount → amount ≤ books.total →
      change amount + queueBytes old.queue = queueBytes new.queue + amount)
    (hnext : next = { books.put connId old new with
      total := change books.total
      buckets := books.buckets.modify (connId % max books.buckets.length 1) change })
    (htotalCap : change books.total ≤ limits.maxTotalQueuedBytes)
    (hbucketCap : change (books.buckets.getD (connId % max books.buckets.length 1) 0) ≤
      limits.bucketCap) :
    next.Audited limits := by
  have hfew := haudited.capped.flows.trans hmachine.flows
  subst hnext
  refine haudited.move change id (haudited.flow_insert hnew)
    (haudited.counts.queued_insert hlookup hchange)
    (.of_eq fun scope => counted_replace scope hlookup new) rfl rfl (modify_id _ _).symm ?_ ?_
    htotalCap hbucketCap ?_
  · exact memberCount_exact standingWeight standingWeight_le hlookup
      haudited.counts.standing hfew rfl rfl
  · exact memberCount_exact backpressuredWeight backpressuredWeight_le hlookup
      haudited.counts.backpressured hfew rfl rfl
  · exact (length_replace hlookup new).le.trans haudited.capped.flows

section

variable (hlookup : books.flows.lookup connId = some old)
include hlookup

theorem Audited.keep (hqueue : new.queue = old.queue)
    (hpending : new.fairness.pendingBytes = old.fairness.pendingBytes ∨
      new.fairness.pendingBytes = 0 ∧ new.queue = [])
    (hbucket : new.fairness.bucketId = old.fairness.bucketId) :
    Audited limits (books.put connId old new) := by
  have hold := haudited.flow hlookup
  have hexact : new.fairness.pendingBytes = queueBytes new.queue := by
    rcases hpending with hkept | ⟨hzero, hempty⟩
    · rw [hkept, hqueue]
      exact hold.pending
    · rw [hzero, hempty]
      rfl
  have hnew : FlowAudited limits books.buckets.length connId new := by
    refine ⟨hexact, ?_, hbucket.trans hold.placed⟩
    rw [hexact, hqueue, ← hold.pending]
    exact hold.capped
  apply haudited.replace hmachine id hlookup hnew
  · intro amount _ _
    rw [hqueue]
    exact Nat.add_comm _ _
  · rw [modify_id]
    rfl
  · exact haudited.capped.total
  · exact haudited.capped.bucket _

theorem Audited.charge (hqueue : queueBytes new.queue = queueBytes old.queue + bytes)
    (hpending : new.fairness.pendingBytes = satAdd u64Max old.fairness.pendingBytes bytes)
    (hbucket : new.fairness.bucketId = old.fairness.bucketId)
    (hroom : books.Room limits old bytes) :
    Audited limits ((books.charge old.fairness.bucketId bytes).put connId old new) := by
  have hfits : books.total + bytes ≤ u64Max := hroom.total.trans hmachine.total
  have hold := haudited.flow hlookup
  have hadd : ∀ amount, amount ≤ books.total → satAdd u64Max amount bytes = amount + bytes := by
    intro amount hle
    exact Nat.min_eq_left (by omega)
  have hpendingLe : old.fairness.pendingBytes ≤ books.total := by
    rw [hold.pending]
    exact haudited.counts.queueBytes_le hlookup
  rw [hadd _ hpendingLe] at hpending
  have hnew : FlowAudited limits books.buckets.length connId new := by
    refine ⟨?_, hpending ▸ hroom.flow, hbucket.trans hold.placed⟩
    rw [hpending, hqueue, hold.pending]
  apply haudited.replace hmachine (satAdd u64Max · bytes) hlookup hnew
  · intro amount _ hle
    rw [hadd amount hle]
    omega
  · rw [← hold.placed]
    rfl
  · exact (satAdd_le_add _ _ _).trans hroom.total
  · rw [← hold.placed]
    exact (satAdd_le_add _ _ _).trans hroom.bucket

theorem Audited.release (hqueue : queueBytes new.queue + bytes = queueBytes old.queue)
    (hpending : new.fairness.pendingBytes = old.fairness.pendingBytes - bytes)
    (hbucket : new.fairness.bucketId = old.fairness.bucketId) :
    Audited limits ((books.put connId old new).release old.fairness.bucketId bytes) := by
  have hold := haudited.flow hlookup
  have hnew : FlowAudited limits books.buckets.length connId new := by
    have hcapped := hold.capped
    have hexact := hold.pending
    exact ⟨by omega, by omega, hbucket.trans hold.placed⟩
  apply haudited.replace hmachine (· - bytes) hlookup hnew
  · intro amount hle _
    omega
  · rw [← hold.placed]
    rfl
  · exact (Nat.sub_le _ _).trans haudited.capped.total
  · exact (Nat.sub_le _ _).trans (haudited.capped.bucket _)

end

omit hmachine in
theorem Audited.room_of_release (hlookup : books.flows.lookup connId = some old)
    (hqueue : queueBytes new.queue + bytes = queueBytes old.queue)
    (hpending : new.fairness.pendingBytes = old.fairness.pendingBytes - bytes)
    (hbucket : new.fairness.bucketId = old.fairness.bucketId) :
    Room limits ((books.put connId old new).release old.fairness.bucketId bytes) new
      bytes := by
  have hbytes : bytes ≤ queueBytes old.queue := by omega
  have hclip := haudited.release_noClip hlookup hbytes
  have htotal : bytes ≤ books.total := hclip _ mem_cons_self
  have hamount : bytes ≤ books.buckets.getD old.fairness.bucketId 0 :=
    hclip _ (mem_cons_of_mem _ mem_cons_self)
  have hold := haudited.counts.pending connId old hlookup
  have hflow := haudited.capped.flow connId old hlookup
  have hbound : old.fairness.bucketId < books.buckets.length := by
    have hsome := haudited.bucketed.some_bucket
    rw [haudited.bucketed.placed connId old hlookup, Nat.max_eq_left hsome]
    exact Nat.mod_lt _ hsome
  constructor
  · exact (Nat.sub_add_cancel htotal).le.trans haudited.capped.total
  · omega
  · simp only [Accounts.release, Accounts.put]
    rw [hbucket, Books.getD_modify, if_pos ⟨rfl, hbound⟩, Nat.sub_add_cancel hamount]
    exact haudited.capped.bucket _

theorem Audited.opened (hlookup : books.flows.lookup connId = none) (hqueue : new.queue = [])
    (hpending : new.fairness.pendingBytes = 0)
    (hmember : flowMembership new.fairness = (false, false))
    (hbucket : new.fairness.bucketId = connId % max books.buckets.length 1)
    (hroom : books.flows.keys.length < limits.maxActiveFlows) :
    Audited limits (books.openFlow connId new) := by
  have hqueued : ∀ scope, Table.total (books.flows.insert connId new) (queuedWithin scope) =
      books.flows.total (queuedWithin scope) := by
    intro scope
    rw [total_insert_new _ hlookup, queuedWithin, hqueue, queueBytes_nil, ite_self, Nat.zero_add]
  have hcounted : Scoped connId (satAdd u64Max · 1)
      (fun scope => books.flows.total (countedWithin scope))
      fun scope => Table.total (books.flows.insert connId new) (countedWithin scope) := by
    constructor
    · intro scope hscope
      have hle : books.flows.total (countedWithin scope) ≤ books.flows.keys.length := by
        rw [length_keys]
        exact total_le_total fun other _ => Bool.toNat_le (scope other)
      have hfits := hmachine.flows
      rw [total_insert_new _ hlookup, countedWithin, hscope, satAdd]
      change 1 + _ = _
      omega
    · intro scope hscope
      rw [total_insert_new _ hlookup, countedWithin, hscope]
      exact Nat.zero_add _
  have hnew : FlowAudited limits books.buckets.length connId new := by
    refine ⟨?_, hpending ▸ Nat.zero_le _, hbucket⟩
    rw [hpending, hqueue]
    rfl
  refine haudited.move id (satAdd u64Max · 1) (haudited.flow_insert hnew) (.of_eq hqueued) hcounted
    rfl (modify_id _ _).symm ?_ ?_ ?_ haudited.capped.total (haudited.capped.bucket _) ?_
  · rw [← hbucket]
    rfl
  · have hweight : standingWeight connId new = 0 := by rw [standingWeight, hmember]; rfl
    simp only [openFlow]
    rw [total_insert_new _ hlookup, hweight, Nat.zero_add]
    exact haudited.counts.standing
  · have hweight : backpressuredWeight connId new = 0 := by
      rw [backpressuredWeight, hmember]
      rfl
    simp only [openFlow]
    rw [total_insert_new _ hlookup, hweight, Nat.zero_add]
    exact haudited.counts.backpressured
  · simp only [openFlow]
    rw [length_keys, total_insert_new _ hlookup, ← length_keys]
    omega

end

omit haudited in
theorem memberDrop_exact {count : ℕ} {member : Bool} (weight : ℕ → FlowEntry → ℕ)
    (hlookup : flows.lookup connId = some old) (hcount : count = flows.total weight)
    (hmember : weight connId old = member.toNat) :
    (if member then count - 1 else count) = Table.total (flows.erase connId) weight := by
  have htotal := total_erase_add weight hlookup
  rw [hmember] at htotal
  cases member with
  | true =>
    change _ + 1 = _ at htotal
    rw [if_pos rfl]
    omega
  | false =>
    change _ + 0 = _ at htotal
    rw [if_neg (by decide)]
    omega

section

variable (hmachine : MachineLimits limits) (hlookup : books.flows.lookup connId = some old)
include hmachine hlookup

theorem Audited.reclaimed :
    WorkerFairnessState.reclaimedBytes old.queue = queueBytes old.queue := by
  have htotal := haudited.counts.queueBytes_le hlookup
  rw [reclaimedBytes_eq]
  exact Nat.min_eq_left ((htotal.trans haudited.capped.total).trans hmachine.total)

theorem Audited.closed : Audited limits (books.close connId old) := by
  have hbytes := haudited.reclaimed hmachine hlookup
  have hplaced := haudited.bucketed.placed connId old hlookup
  have hqueued := scoped_erase queuedWithin hlookup (fun scope hscope => if_pos hscope)
    (fun scope hscope => by rw [queuedWithin, hscope]; rfl)
  have hcounted := scoped_erase countedWithin hlookup
    (fun scope hscope => congrArg Bool.toNat hscope)
    (fun scope hscope => congrArg Bool.toNat hscope)
  rw [← hbytes] at hqueued
  refine haudited.move _ _ (fun other flow hflow => haudited.flow (lookup_erase_some hflow).2)
    hqueued hcounted rfl ?_ ?_ ?_ ?_ ?_ ?_ ?_
  · rw [← hplaced]
    rfl
  · rw [← hplaced]
    rfl
  · exact memberDrop_exact standingWeight hlookup haudited.counts.standing rfl
  · exact memberDrop_exact backpressuredWeight hlookup haudited.counts.backpressured rfl
  · exact (Nat.sub_le _ _).trans haudited.capped.total
  · exact (Nat.sub_le _ _).trans (haudited.capped.bucket _)
  · have hcount := total_erase_add (fun _ _ => 1) hlookup
    have hcap := haudited.capped.flows
    rw [length_keys] at hcap
    simp only [close, Accounts.release]
    rw [length_keys]
    omega

theorem Audited.closed_noClip : NoClip (books.closeDrops old) := by
  have hmembers : NoClip (memberDrops books.standing (flowMembership old.fairness).1 false ++
      memberDrops books.backpressured (flowMembership old.fairness).2 false) := noClip_append.mpr
      ⟨memberDrops_noClip standingWeight hlookup haudited.counts.standing rfl,
        memberDrops_noClip backpressuredWeight hlookup haudited.counts.backpressured rfl⟩
  have hflows : NoClip [(books.bucketFlows.getD old.fairness.bucketId 0, 1)] := by
    intro drop hdrop
    have hrow := weight_le_total
      (countedWithin (inBucket books.buckets.length old.fairness.bucketId)) hlookup
    rw [countedWithin, haudited.bucketed.inBucket_placed hlookup] at hrow
    rw [mem_singleton.mp hdrop, haudited.counts.bucketFlows]
    exact hrow
  have hbytes := haudited.release_noClip hlookup (haudited.reclaimed hmachine hlookup).le
  exact noClip_append.mpr ⟨noClip_append.mpr ⟨hmembers, hflows⟩, hbytes⟩

end

end

section

variable (hedit : Edit limits books drops next) (hmachine : MachineLimits limits)
  (haudited : books.Audited limits)
include hedit hmachine haudited

theorem Edit.audited : next.Audited limits := by
  cases hedit with
  | keep hlookup hqueue hpending hbucket =>
    exact haudited.keep hmachine hlookup hqueue hpending hbucket
  | charge hlookup hqueue hpending hbucket hroom =>
    exact haudited.charge hmachine hlookup hqueue hpending hbucket hroom
  | release hlookup hqueue hpending hbucket =>
    exact haudited.release hmachine hlookup hqueue hpending hbucket
  | opened hlookup hqueue hpending hmember hbucket hroom =>
    exact haudited.opened hmachine hlookup hqueue hpending hmember hbucket hroom
  | closed hlookup => exact haudited.closed hmachine hlookup

theorem Edit.noClip : NoClip drops := by
  cases hedit with
  | keep hlookup => exact haudited.counts.put_noClip hlookup
  | charge hlookup => exact haudited.counts.put_noClip hlookup
  | @release connId bytes old new hlookup hqueue hpending hbucket =>
    have hbytes : bytes ≤ queueBytes old.queue := by omega
    apply noClip_append.mpr ⟨haudited.counts.put_noClip hlookup, ?_⟩
    intro drop hdrop
    rcases mem_cons.mp hdrop with rfl | hrest
    · exact hbytes.trans (haudited.counts.pending connId old hlookup).ge
    · split at hrest
      · exact haudited.release_noClip hlookup hbytes drop hrest
      · cases hrest
  | opened => exact nofun
  | closed hlookup => exact haudited.closed_noClip hmachine hlookup

end

/-! ## Chains of changes -/

inductive Edits (limits : WorkerFairnessConfig) : Accounts → List Drop → Accounts → Prop where
  | done {books : Accounts} : Edits limits books [] books
  | more {books middle next : Accounts} {first rest : List Drop}
      (hfirst : Edit limits books first middle) (hrest : Edits limits middle rest next) :
      Edits limits books (first ++ rest) next

theorem Edit.edits (hedit : Edit limits books drops next) : Edits limits books drops next := by
  have hmore : Edits limits books (drops ++ []) next := .more hedit .done
  rw [append_nil] at hmore
  exact hmore

theorem Edits.append {middle : Accounts} {more : List Drop}
    (hleft : Edits limits books drops middle) (hright : Edits limits middle more next) :
    Edits limits books (drops ++ more) next := by
  induction hleft with
  | done => exact hright
  | more hfirst hrest ih =>
    rw [append_assoc]
    exact .more hfirst (ih hright)

section

variable (hedits : Edits limits books drops next) (hmachine : MachineLimits limits)
  (haudited : books.Audited limits)
include hedits hmachine haudited

theorem Edits.audited : next.Audited limits := by
  induction hedits with
  | done => exact haudited
  | more hfirst hrest ih => exact ih (hfirst.audited hmachine haudited)

theorem Edits.noClip : NoClip drops := by
  induction hedits with
  | done => exact nofun
  | more hfirst hrest ih =>
    exact noClip_append.mpr ⟨hfirst.noClip hmachine haudited, ih (hfirst.audited hmachine haudited)⟩

end

end Accounts
end TupoProxy.Fairness
