import TupoProxy.FairnessRing
import Mathlib.Algebra.Order.Floor.Div

/-!
# Bounded service in the fairness scheduler

A flow whose front frame is not taken keeps its place behind the flows that were ahead
of it, and every visit that skips it adds at least the smallest quantum to its deficit.
So the front frame is taken after a number of visits that depends only on its length,
no other connection is visited twice between two of these visits, and the number of
decisions that this takes is bounded by the number of flows.
-/

namespace TupoProxy.Fairness

open RoundRobin List AList

def serviceQuantum (config : WorkerFairnessConfig) : ℕ :=
  max (min config.baseQuantumBytes
    (min config.pressuredQuantumBytes config.penalizedQuantumBytes)) 1

def serviceVisits (config : WorkerFairnessConfig) (bytes : ℕ) : ℕ :=
  max 1 (bytes ⌈/⌉ serviceQuantum config)

theorem serviceQuantum_pos (config : WorkerFairnessConfig) : 0 < serviceQuantum config :=
  Nat.le_max_right _ _

variable {config : WorkerFairnessConfig}

theorem serviceQuantum_le
    (hquantum : config.baseQuantumBytes ≤ u32Max) (pressureState : PressureState)
    (fairness : FlowFairnessState) :
    serviceQuantum config ≤ effectiveQuantumBytes config pressureState fairness := by
  have hbase : serviceQuantum config ≤ max config.baseQuantumBytes 1 := by
    unfold serviceQuantum
    omega
  have hpressured : serviceQuantum config ≤ max config.pressuredQuantumBytes 1 := by
    unfold serviceQuantum
    omega
  have hpenalized : serviceQuantum config ≤ max config.penalizedQuantumBytes 1 := by
    unfold serviceQuantum
    omega
  have hlimit : serviceQuantum config ≤ u32Max := hbase.trans (max_le hquantum (by decide))
  have hweighted : ∀ quantum, serviceQuantum config ≤ quantum →
      serviceQuantum config ≤ max (min (quantum * max fairness.weightQuanta 1) u32Max) 1 := by
    intro quantum hle
    have hproduct : quantum ≤ quantum * max fairness.weightQuanta 1 :=
      Nat.le_mul_of_pos_right _ (Nat.le_max_right _ _)
    exact le_max_of_le_left (le_min (hle.trans hproduct) hlimit)
  unfold effectiveQuantumBytes
  cases fairness.schedulerState with
  | penalized => exact hpenalized
  | sheddingCandidate => exact hpenalized
  | idle | active | backpressured =>
    apply hweighted
    cases pressureState <;> assumption

theorem classifyFlow_deficit {pressureState : PressureState}
    {now : ℕ} {fairness : FlowFairnessState} (hpending : fairness.pendingBytes ≠ 0) :
    (classifyFlow config pressureState now fairness).deficitBytes = fairness.deficitBytes := by
  have hactive : (deriveFlowClassification config pressureState now fairness).schedulerState ≠
      .idle := by
    simp only [deriveFlowClassification, if_neg hpending]
    split
    · split <;> simp
    · split
      · simp
      · split <;> simp
  exact if_neg hactive

/-- The front frame waits, and the deficit has grown with every visit without
covering it. -/
structure Owed (limits : WorkerFairnessConfig) (front : QueuedFrame) (visits : ℕ)
    (flow : FlowEntry) : Prop where
  head : flow.queue.head? = some front
  credit : ((serviceQuantum limits * visits : ℕ) : ℤ) ≤ flow.fairness.deficitBytes
  short : 0 < visits → flow.fairness.deficitBytes < front.queuedBytes

namespace Owed

variable {limits config : WorkerFairnessConfig} {front : QueuedFrame} {visits : ℕ}
  {flow new : FlowEntry}

section

variable (howed : Owed limits front visits flow)
include howed

theorem queue : ∃ rest, flow.queue = front :: rest := by
  have hhead := howed.head
  cases hqueue : flow.queue with
  | nil =>
    rw [hqueue] at hhead
    cases hhead
  | cons first rest =>
    rw [hqueue] at hhead
    cases hhead
    exact ⟨rest, rfl⟩

theorem lt_serviceVisits : visits < serviceVisits limits front.queuedBytes := by
  have hquantum := serviceQuantum_pos limits
  unfold serviceVisits
  by_cases hvisited : 0 < visits
  · have hcredit : serviceQuantum limits * visits < front.queuedBytes := by
      have hbetween := howed.credit.trans_lt (howed.short hvisited)
      exact_mod_cast hbetween
    apply lt_max_of_lt_right
    rw [Nat.ceilDiv_eq_add_pred_div, Nat.lt_iff_add_one_le, Nat.le_div_iff_mul_le hquantum,
      Nat.add_mul, Nat.mul_comm visits]
    omega
  · omega

theorem classify {pressureState : PressureState}
    {now : ℕ} {fairness : FlowFairnessState} (hhead : new.queue.head? = some front)
    (hfairness : new.fairness = classifyFlow config pressureState now fairness)
    (hdeficit : fairness.deficitBytes = flow.fairness.deficitBytes)
    (hpending : front.queuedBytes ≤ fairness.pendingBytes) : Owed limits front visits new := by
  have hcredit : 0 ≤ flow.fairness.deficitBytes := (Int.natCast_nonneg _).trans howed.credit
  by_cases hvisited : 0 < visits
  · have hshort := howed.short hvisited
    have hbytes : fairness.pendingBytes ≠ 0 := by omega
    have hsame : new.fairness.deficitBytes = flow.fairness.deficitBytes := by
      rw [hfairness, classifyFlow_deficit hbytes, hdeficit]
    exact ⟨hhead, howed.credit.trans_eq hsame.symm, fun _ => hsame.trans_lt hshort⟩
  · have hnone : visits = 0 := by omega
    refine ⟨hhead, ?_, fun hsome => absurd hsome hvisited⟩
    rw [hnone, Nat.mul_zero, hfairness]
    exact classifyFlow_solvent _ _ _ (hdeficit ▸ hcredit)

theorem visit (hquantum : config.baseQuantumBytes ≤ u32Max)
    (hsame : serviceQuantum config = serviceQuantum limits)
    (hpending : front.queuedBytes ≤ flow.fairness.pendingBytes)
    (hcap : front.queuedBytes ≤ config.maxFlowQueuedBytes)
    (hlength : (front.queuedBytes : ℤ) ≤ i64Max) (pressureState : PressureState) (now : ℕ) :
    (flow.visit config pressureState now).1 = .drained front ∨
      (flow.visit config pressureState now).1 = .skipped ∧
        Owed limits front (visits + 1) (flow.visit config pressureState now).2 := by
  obtain ⟨rest, hqueue⟩ := howed.queue
  have hcredit : 0 ≤ flow.fairness.deficitBytes := (Int.natCast_nonneg _).trans howed.credit
  unfold FlowEntry.visit
  simp only [hqueue]
  generalize hfairness : classifyFlow config pressureState now
    { flow.fairness with inActiveRing := false } = fairness
  have hadded := serviceQuantum_le hquantum pressureState fairness
  generalize effectiveQuantumBytes config pressureState fairness = quantum at hadded ⊢
  split
  · next hskip =>
    refine Or.inr ⟨rfl, ?_⟩
    simp only [clampDeficitBytes] at hskip
    -- The deficit does not cover the frame, so no clamp has cut it.
    have hbytes : ({ flow.fairness with inActiveRing := false } :
        FlowFairnessState).pendingBytes ≠ 0 := by
      change flow.fairness.pendingBytes ≠ 0
      omega
    have hdeficit : fairness.deficitBytes = flow.fairness.deficitBytes := by
      rw [← hfairness, classifyFlow_deficit hbytes]
    rw [hdeficit] at hskip
    have hgrown : max 0 (min (min (flow.fairness.deficitBytes + quantum) i64Max)
        (min (config.maxFlowQueuedBytes : ℤ) i64Max)) = flow.fairness.deficitBytes + quantum := by
      omega
    have hold := howed.credit
    refine ⟨rfl, ?_, fun _ => ?_⟩
    · simp only [clampDeficitBytes]
      rw [hdeficit, hgrown, Nat.mul_succ, Nat.cast_add]
      omega
    · simp only [clampDeficitBytes]
      rw [hdeficit]
      exact hskip
  · exact Or.inl rfl

end

end Owed

namespace WorkerFairnessState

variable {limits : WorkerFairnessConfig} {state next : WorkerFairnessState}
  {connId now visits : ℕ} {front : QueuedFrame}

def Owes (limits : WorkerFairnessConfig) (connId : ℕ) (front : QueuedFrame) (visits : ℕ)
    (state : WorkerFairnessState) : Prop :=
  ∃ flow, state.flows.lookup connId = some flow ∧ Owed limits front visits flow

theorem Owes.congr (howes : state.Owes limits connId front visits)
    (hlookup : next.flows.lookup connId = state.flows.lookup connId) :
    next.Owes limits connId front visits := by
  obtain ⟨flow, hflow, howed⟩ := howes
  exact ⟨flow, hlookup.trans hflow, howed⟩

theorem KeepsLimits.quanta (hlimits : state.KeepsLimits limits) :
    state.config.baseQuantumBytes = limits.baseQuantumBytes ∧
      serviceQuantum state.config = serviceQuantum limits := by
  obtain ⟨enabled, pressure, hconfig⟩ := hlimits
  rw [hconfig]
  exact ⟨rfl, rfl⟩

variable {flow : FlowEntry}

theorem front_pending (haudited : state.accounts.Audited limits)
    (hlookup : state.flows.lookup connId = some flow) (howed : Owed limits front visits flow) :
    front.queuedBytes ≤ flow.fairness.pendingBytes ∧
      front.queuedBytes ≤ limits.maxFlowQueuedBytes := by
  obtain ⟨rest, hqueue⟩ := howed.queue
  have hpending := haudited.counts.pending connId flow hlookup
  have hcap := haudited.capped.flow connId flow hlookup
  rw [hqueue, queueBytes_cons] at hpending
  omega

variable {other : ℕ}

section

variable (hother : connId ≠ other)
include hother

section

variable (state : WorkerFairnessState)

theorem visitConn_lookup (now : ℕ) :
    (state.visitConn other now).2.flows.lookup connId = state.flows.lookup connId := by
  unfold visitConn
  split
  · rfl
  · rw [settleVisit_flows]
    exact lookup_insert_ne hother

theorem removeFlow_lookup :
    (state.removeFlow other).flows.lookup connId = state.flows.lookup connId := by
  unfold removeFlow
  split
  · rfl
  · exact lookup_erase_ne hother

theorem stallFrame_lookup (flow : FlowEntry) (frame : QueuedFrame) (now : ℕ) :
    (state.stallFrame other flow frame now).flows.lookup connId = state.flows.lookup connId := by
  unfold stallFrame
  split
  · exact lookup_insert_ne hother
  · rw [requeueFrame_flows]
    exact lookup_insert_ne hother

theorem applyDispatchFeedback_lookup
    (candidate : DispatchCandidate) (feedback : DispatchFeedback) (now : ℕ) :
    (state.applyDispatchFeedback other candidate feedback now).2.flows.lookup connId =
      state.flows.lookup connId := by
  cases feedback with
  | routed =>
    simp only [applyDispatchFeedback, feedbackRouted]
    split
    · rfl
    · exact lookup_insert_ne hother
  | queueFull =>
    simp only [applyDispatchFeedback, feedbackQueueFull]
    rw [← noteRouteStall_flows state now]
    split
    · rfl
    · split
      · exact (removeFlow_lookup hother _).trans (stallFrame_lookup hother _ _ _ _)
      · exact stallFrame_lookup hother _ _ _ _
  | channelClosed | noConn => exact removeFlow_lookup hother state

theorem openFlow_lookup (frameWeight : ℕ) :
    (state.openFlow other frameWeight).2.flows.lookup connId = state.flows.lookup connId := by
  unfold openFlow
  split <;> exact lookup_insert_ne hother

end

end

theorem openFlow_owes (howes : state.Owes limits connId front visits) (other frameWeight : ℕ) :
    (state.openFlow other frameWeight).2.Owes limits connId front visits := by
  by_cases hother : connId = other
  · obtain ⟨flow, hlookup, howed⟩ := howes
    subst hother
    simp only [openFlow, hlookup]
    exact ⟨_, lookup_insert _, howed.head, howed.credit, howed.short⟩
  · exact howes.congr (openFlow_lookup hother state frameWeight)

theorem pushBack_owed {config : WorkerFairnessConfig}
    (howed : Owed limits front visits flow) (hlength : (front.queuedBytes : ℤ) ≤ i64Max)
    (hpending : front.queuedBytes ≤ flow.fairness.pendingBytes)
    (pressureState : PressureState) (now : ℕ) (frame : QueuedFrame) :
    Owed limits front visits (flow.pushBack config pressureState now frame) := by
  obtain ⟨rest, hqueue⟩ := howed.queue
  have hfits : front.queuedBytes ≤ u64Max := by
    unfold i64Max at hlength
    unfold u64Max
    omega
  have hhead : (flow.pushBack config pressureState now frame).queue.head? = some front := by
    simp only [FlowEntry.pushBack, hqueue]
    rfl
  have hfairness : (flow.pushBack config pressureState now frame).fairness =
      classifyFlow config pressureState now
        { flow.fairness with
          pendingBytes := satAdd u64Max flow.fairness.pendingBytes frame.queuedBytes
          queueStartedAt := some (flow.fairness.queueStartedAt.getD now)
          inActiveRing := true } := rfl
  apply howed.classify hhead hfairness rfl
  dsimp only
  unfold satAdd
  omega

theorem enqueueData_owes (howes : state.Owes limits connId front visits)
    (haudited : state.accounts.Audited limits) (hlength : (front.queuedBytes : ℤ) ≤ i64Max)
    (other flags : ℕ) (data : List Byte) (now : ℕ) :
    (state.enqueueData other flags data now).2.Owes limits connId front visits := by
  have hexit := enqueueData_exit state other flags data now
  have hopened := openFlow_owes howes other (state.config.weightForFlags flags)
  generalize state.enqueueData other flags data now = answer at hexit ⊢
  cases hexit with
  | saturated | refused => exact howes
  | refusedOpen => exact hopened
  | admitted =>
    by_cases hother : connId = other
    · subst hother
      obtain ⟨flow, hlookup, howed⟩ := howes
      have hpending := (front_pending haudited hlookup howed).1
      rw [Owes, admitFrame_flows, lookup_insert]
      refine ⟨_, rfl, pushBack_owed ?_ hlength ?_ _ _ _⟩
      · simp only [openFlow, hlookup]
        exact ⟨howed.head, howed.credit, howed.short⟩
      · simp only [openFlow, hlookup]
        exact hpending
    · apply hopened.congr
      rw [admitFrame_flows]
      exact lookup_insert_ne hother

/-! ## Decisions while a frame waits -/

structure Waiting (limits : WorkerFairnessConfig) (connId : ℕ) (ring : List ℕ) : Prop where
  here : connId ∈ ring
  nodup : ring.Nodup
  few : ring.length ≤ limits.maxActiveFlows

theorem Owes.waiting (howes : state.Owes limits connId front visits)
    (hsound : state.RingSound) (haudited : state.accounts.Audited limits) :
    Waiting limits connId state.activeRing := by
  obtain ⟨flow, hlookup, howed⟩ := howes
  obtain ⟨rest, hqueue⟩ := howed.queue
  have hqueued : flow.queue ≠ [] := by
    rw [hqueue]
    exact cons_ne_nil _ _
  exact ⟨(hsound.flow connId flow hlookup).queued hqueued, hsound.nodup,
    (length_ring_le hsound.nodup hsound.known).trans haudited.capped.flows⟩

theorem visitConn_owes (howes : state.Owes limits connId front visits)
    (haudited : state.accounts.Audited limits) (hlimits : state.KeepsLimits limits)
    (hquantum : limits.baseQuantumBytes ≤ u32Max) (hlength : (front.queuedBytes : ℤ) ≤ i64Max)
    (now : ℕ) :
    (∃ candidate, (state.visitConn connId now).1 = some candidate ∧ candidate.frame = front) ∨
      (state.visitConn connId now).1 = none ∧
        (state.visitConn connId now).2.Owes limits connId front (visits + 1) := by
  obtain ⟨flow, hlookup, howed⟩ := howes
  obtain ⟨hpending, hcap⟩ := front_pending haudited hlookup howed
  obtain ⟨hbase, hsame⟩ := hlimits.quanta
  rw [← hbase] at hquantum
  rw [← hlimits.maxFlowQueuedBytes] at hcap
  have hvisit := howed.visit hquantum hsame hpending hcap hlength state.pressure.state now
  unfold visitConn
  rw [hlookup]
  dsimp only
  rcases hvisit with hdrained | ⟨hskipped, hgrown⟩
  · rw [hdrained]
    exact Or.inl ⟨_, rfl, rfl⟩
  · rw [hskipped]
    refine Or.inr ⟨rfl, _, ?_, hgrown⟩
    rw [settleVisit_flows]
    exact lookup_insert _

/-- What a decision does while a frame waits: the waiting goes on, or the frame is taken at
the last visit. -/
inductive Progress (limits : WorkerFairnessConfig) (connId : ℕ) (front : QueuedFrame)
    (visits : ℕ) (ring log : List ℕ) : SchedulerDecision → WorkerFairnessState → Prop where
  | waits {decision : SchedulerDecision} {next : WorkerFairnessState}
      (hnot : ∀ candidate, decision = .dispatch candidate → candidate.frame.connId ≠ connId)
      (hturns : Turns (Waiting limits connId) ring log next.activeRing)
      (howes : next.Owes limits connId front (visits + log.count connId)) :
      Progress limits connId front visits ring log decision next
  | serves {candidate : DispatchCandidate} {next : WorkerFairnessState} {before : List ℕ}
      (hframe : candidate.frame = front) (hlog : log = before ++ [connId])
      (hturns : Turns (Waiting limits connId) ring log next.activeRing)
      (hbound : visits + before.count connId < serviceVisits limits front.queuedBytes) :
      Progress limits connId front visits ring log (.dispatch candidate) next

theorem Progress.more {ring middle log : List ℕ} {decision : SchedulerDecision}
    (hwaiting : Waiting limits connId ring) (hturn : Turn ring (some other) middle)
    (hrest : Progress limits connId front (visits + [other].count connId) middle log decision
      next) : Progress limits connId front visits ring (other :: log) decision next := by
  have hcount : ∀ list : List ℕ, visits + [other].count connId + list.count connId =
      visits + (other :: list).count connId := by
    intro list
    have hcons : ([other] ++ list).count connId = [other].count connId + list.count connId :=
      count_append
    rw [singleton_append] at hcons
    omega
  cases hrest with
  | waits hnot hturns howes =>
    rw [hcount] at howes
    exact .waits hnot (.more hwaiting hturn hturns) howes
  | @serves candidate _ before hframe hlog hturns hbound =>
    rw [hcount] at hbound
    refine .serves hframe ?_ (.more hwaiting hturn hturns) hbound
    rw [hlog]
    rfl

/-- What holds of every reachable state. -/
structure Healthy (limits : WorkerFairnessConfig) (state : WorkerFairnessState) : Prop where
  books : Books none state
  audited : state.accounts.Audited limits
  limits : state.KeepsLimits limits
  ring : state.RingSound

/-- A frame of the connection, for which the numbers that a service depends on fit their
machine types. -/
structure Servable (limits : WorkerFairnessConfig) (connId : ℕ) (front : QueuedFrame) :
    Prop where
  own : front.connId = connId
  machine : Accounts.MachineLimits limits
  quantum : limits.baseQuantumBytes ≤ u32Max
  length : (front.queuedBytes : ℤ) ≤ i64Max

variable {ring : List ℕ}

section

variable (hhealthy : state.Healthy limits) (hservable : Servable limits connId front)
  (howes : state.Owes limits connId front visits)
include hhealthy hservable howes

/-- A visit turns the ring on, and a visit of the waiting flow serves it or lowers its debt. -/
theorem visitConn_progress (hring : state.activeRing = other :: ring) (now : ℕ)
    {found : Option DispatchCandidate}
    (hanswer : ((state.popRing ring).leaveRing other).visitConn other now = (found, next)) :
    Turn state.activeRing (some other) next.activeRing ∧
      ((∃ candidate, found = some candidate ∧ candidate.frame.connId = other ∧
          (other = connId → candidate.frame = front) ∧
          (other ≠ connId → next.Owes limits connId front visits)) ∨
        found = none ∧ next.Healthy limits ∧
          next.Owes limits connId front (visits + [other].count connId)) := by
  have hpopped : ((state.popRing ring).leaveRing other).accounts.Audited limits := hhealthy.audited
  have hbooks : Books none ((state.popRing ring).leaveRing other) :=
    hhealthy.books.congr rfl rfl rfl
  have hleft : ((state.popRing ring).leaveRing other).Owes limits connId front visits := howes
  have hlimits : ((state.popRing ring).leaveRing other).KeepsLimits limits := hhealthy.limits
  obtain ⟨hturned, hsound⟩ := visitConn_ring hhealthy.ring hring now
  have hspec := visitConn_spec other now hbooks
  have haudited := (visitConn_edits other now hpopped).1.audited hservable.machine hpopped
  have hconfig := (visitConn_control ((state.popRing ring).leaveRing other) other now).config
  rw [hanswer] at hturned hsound hspec haudited hconfig
  have hnextLimits : next.KeepsLimits limits := by
    obtain ⟨enabled, pressure, hsame⟩ := hlimits
    exact ⟨enabled, pressure, hconfig.trans hsame⟩
  have hturn : Turn state.activeRing (some other) next.activeRing := by
    rw [hring]
    rcases hturned with hout | hback
    · rw [show next.activeRing = ring from hout]
      exact .out other ring
    · rw [show next.activeRing = ring ++ [other] from hback]
      exact .back other ring
  refine ⟨hturn, ?_⟩
  by_cases hsame : other = connId
  · subst hsame
    have hvisit := visitConn_owes hleft hpopped hlimits hservable.quantum hservable.length now
    rw [hanswer] at hvisit
    rcases hvisit with ⟨candidate, hfound, hframe⟩ | ⟨hnone, howed⟩
    · exact Or.inl ⟨candidate, hfound, hframe ▸ hservable.own, fun _ => hframe,
        fun hself => absurd rfl hself⟩
    · have hfound : found = none := hnone
      subst hfound
      cases hspec with
      | nothing hqueues hnext =>
        refine Or.inr ⟨rfl, ⟨hnext, haudited, hnextLimits, hsound⟩, ?_⟩
        rw [count_singleton_self]
        exact howed
  · have hlookup := visitConn_lookup (Ne.symm hsame) ((state.popRing ring).leaveRing other) now
    rw [hanswer] at hlookup
    have hkept : next.Owes limits connId front visits := hleft.congr hlookup
    cases hspec with
    | nothing hqueues hnext =>
      refine Or.inr ⟨rfl, ⟨hnext, haudited, hnextLimits, hsound⟩, ?_⟩
      rw [count_singleton, if_neg (by simp [hsame])]
      exact hkept
    | frame hconn =>
      exact Or.inl ⟨_, rfl, hconn, fun hself => absurd hself hsame, fun _ => hkept⟩

theorem visitRing_progress (rounds : ℕ) :
    Progress limits connId front visits state.activeRing (visitedRing rounds state now)
      (visitRing rounds state now).1 (visitRing rounds state now).2 := by
  induction rounds generalizing state visits with
  | zero => exact .waits nofun (.done _) howes
  | succ rounds ih =>
    have hwaiting := howes.waiting hhealthy.ring hhealthy.audited
    unfold visitRing visitedRing
    cases hring : state.activeRing with
    | nil =>
      have hempty := hwaiting.here
      rw [hring] at hempty
      cases hempty
    | cons other ring =>
      have hmember : other ∈ state.activeRingMembers := by
        rw [hhealthy.ring.members, hring]
        exact mem_cons_self
      dsimp only
      rw [if_pos hmember, if_pos hmember]
      cases hanswer : ((state.popRing ring).leaveRing other).visitConn other now with
      | mk found next =>
        obtain ⟨hturn, hvisit⟩ :=
          visitConn_progress hhealthy hservable howes hring now hanswer
        rw [hring] at hturn hwaiting
        rcases hvisit with ⟨candidate, hfound, hconn, hself, hothers⟩ |
          ⟨hfound, hnext, howed⟩
        · subst hfound
          have hturns : Turns (Waiting limits connId) (other :: ring) [other]
              next.activeRing := .single hwaiting hturn
          by_cases hsame : other = connId
          · subst hsame
            obtain ⟨flow, hlookup, howed⟩ := howes
            exact .serves (hself rfl) (nil_append [other]).symm hturns howed.lt_serviceVisits
          · refine .waits ?_ hturns ?_
            · intro picked hpicked
              cases hpicked
              rw [hconn]
              exact hsame
            · rw [count_singleton, if_neg (by simp [hsame])]
              exact hothers hsame
        · subst hfound
          exact (ih hnext howed).more hwaiting hturn

theorem nextDecision_progress (now : ℕ) (feedback : DispatchFeedback) (feedbackAt : ℕ) :
    Progress limits connId front visits state.activeRing
      (state.visits (.dispatch now feedback feedbackAt)) (state.nextDecision now).1
      (state.nextDecision now).2 := by
  have hbooks : Books none (state.countRound.evaluatePressure now false) :=
    hhealthy.books.congr rfl rfl rfl
  have hstart : (state.countRound.evaluatePressure now false).Healthy limits :=
    ⟨hbooks, hhealthy.audited, hhealthy.limits, hhealthy.ring.nodup, hhealthy.ring.members,
      hhealthy.ring.known, hhealthy.ring.flow⟩
  exact visitRing_progress hstart hservable howes _

theorem visits_turns (op : Op) :
    ∃ ring, Turns (Waiting limits connId) state.activeRing (state.visits op) ring := by
  cases op with
  | dispatch now feedback feedbackAt =>
    have hprogress := nextDecision_progress hhealthy hservable howes now feedback feedbackAt
    generalize (state.nextDecision now).1 = decision at hprogress
    cases hprogress with
    | waits hnot hturns => exact ⟨_, hturns⟩
    | serves hframe hlog hturns => exact ⟨_, hturns⟩
  | enqueueData | removeFlow | setBackpressureEnabled => exact ⟨_, .done _⟩

end

def picked (state : WorkerFairnessState) : Op → Option QueuedFrame
  | .dispatch now _ _ =>
    match state.nextDecision now with
    | (.dispatch candidate, _) => some candidate.frame
    | (.idle, _) => none
  | .enqueueData _ _ _ _ | .removeFlow _ | .setBackpressureEnabled _ _ => none

/-- No decision of the operations takes a frame of the connection. -/
def Waits (connId : ℕ) : WorkerFairnessState → List Op → Prop
  | _, [] => True
  | state, op :: ops =>
    (state.picked op).map QueuedFrame.connId ≠ some connId ∧ Waits connId (state.step op) ops

def calls : List Op → ℕ
  | [] => 0
  | .dispatch _ _ _ :: ops => calls ops + 1
  | .enqueueData _ _ _ _ :: ops | .removeFlow _ :: ops
  | .setBackpressureEnabled _ _ :: ops => calls ops

theorem calls_append (left right : List Op) : calls (left ++ right) = calls left + calls right := by
  induction left with
  | nil => simp [calls]
  | cons op left ih => cases op <;> simp [calls, ih, Nat.add_right_comm]

theorem turns_joined (hwaiting : Waiting limits connId ring) (other : ℕ) :
    Turns (Waiting limits connId) ring [] (joined ring other) := by
  unfold joined
  split
  · exact .done ring
  · exact .single hwaiting (.join ring other)

theorem Waiting.joined (hwaiting : Waiting limits connId ring)
    (haudited : state.accounts.Audited limits)
    (hknown : ∀ conn ∈ ring, conn ∈ state.flows) (hother : other ∈ state.flows) :
    Waiting limits connId (joined ring other) := by
  have hnodup := joined_nodup hwaiting.nodup other
  refine ⟨mem_joined.mpr (Or.inr hwaiting.here), hnodup, ?_⟩
  apply (length_ring_le hnodup _).trans haudited.capped.flows
  intro conn hconn
  rcases mem_joined.mp hconn with rfl | hin
  · exact hother
  · exact hknown conn hin

theorem FeedbackRing.turns {after : List ℕ} (hfeedback : FeedbackRing ring other after)
    (hwaiting : Waiting limits connId ring)
    (hjoined : Waiting limits connId (Fairness.joined ring other)) :
    Turns (Waiting limits connId) ring [] after := by
  cases hfeedback with
  | kept => exact .done ring
  | joined => exact turns_joined hwaiting other
  | left => exact .single hwaiting (.leave ring other)
  | joinedLeft =>
    exact (turns_joined hwaiting other).append (.single hjoined (.leave _ other))

theorem visits_nonempty (now : ℕ) (feedback : DispatchFeedback) (feedbackAt : ℕ)
    (hsound : state.RingSound) (hwaiting : Waiting limits connId state.activeRing) :
    1 ≤ (state.visits (.dispatch now feedback feedbackAt)).length := by
  have hhere := hwaiting.here
  simp only [WorkerFairnessState.visits]
  cases hring : state.activeRing with
  | nil =>
    rw [hring] at hhere
    cases hhere
  | cons other ring =>
    have hmember : other ∈ state.activeRingMembers := by
      rw [hsound.members, hring]
      exact mem_cons_self
    simp only [length_cons, visitedRing, evaluatePressure, countRound, hring]
    rw [if_pos hmember, length_cons]
    omega

/-- While the flow is not served, an operation only turns the ring and counts its visits. -/
theorem step_progress (hhealthy : state.Healthy limits)
    (hservable : Servable limits connId front)
    (howes : state.Owes limits connId front visits) (op : Op) (hkept : op ≠ .removeFlow connId)
    (hnot : (state.picked op).map QueuedFrame.connId ≠ some connId) :
    Turns (Waiting limits connId) state.activeRing (state.visits op) (state.step op).activeRing ∧
      (state.step op).Owes limits connId front (visits + (state.visits op).count connId) ∧
      calls [op] ≤ (state.visits op).length := by
  have hwaiting := howes.waiting hhealthy.ring hhealthy.audited
  cases op with
  | enqueueData other flags data now =>
    have hring := (enqueueData_ring hhealthy.ring other flags data now).1
    refine ⟨?_, enqueueData_owes howes hhealthy.audited hservable.length other flags data now,
      le_rfl⟩
    simp only [WorkerFairnessState.visits, step]
    rcases hring with hsame | hjoined
    · rw [hsame]
      exact .done _
    · rw [hjoined]
      exact turns_joined hwaiting other
  | dispatch now feedback feedbackAt =>
    have hcalls := visits_nonempty now feedback feedbackAt hhealthy.ring hwaiting
    have hprogress := nextDecision_progress hhealthy hservable howes now feedback feedbackAt
    have hspec := nextDecision_spec now hhealthy.books
    have hdecided := nextDecision_decided now hhealthy.books hhealthy.audited hservable.machine
    have hsound := nextDecision_ring hhealthy.ring now
    simp only [step, dispatch]
    simp only [picked] at hnot
    cases hanswer : state.nextDecision now with
    | mk decision next =>
      rw [hanswer] at hprogress hspec hdecided hsound hnot
      have haudited := hdecided.edits.audited hservable.machine hhealthy.audited
      cases hprogress with
      | serves hframe => exact absurd (congrArg some (hframe ▸ hservable.own)) hnot
      | waits hother hturns howed =>
        cases decision with
        | idle => exact ⟨hturns, howed, hcalls⟩
        | dispatch candidate =>
          have hconn := hother candidate rfl
          have hfeedback : FeedbackRing next.activeRing candidate.frame.connId _ :=
            (applyDispatchFeedback_ring candidate feedback feedbackAt hsound).1
          have hnext := howed.waiting hsound haudited
          cases hspec with
          | dispatch hmem =>
            have hjoined := hnext.joined haudited hsound.known hmem
            have hall := hturns.append (hfeedback.turns hnext hjoined)
            rw [append_nil] at hall
            exact ⟨hall, howed.congr
              (applyDispatchFeedback_lookup hconn.symm next candidate feedback feedbackAt), hcalls⟩
  | removeFlow other =>
    have hother : connId ≠ other := fun hsame => hkept (hsame ▸ rfl)
    have hring := (removeFlow_ring hhealthy.ring other).1
    refine ⟨?_, howes.congr (removeFlow_lookup hother state), le_rfl⟩
    simp only [WorkerFairnessState.visits, step]
    rw [hring]
    exact .single hwaiting (.leave _ other)
  | setBackpressureEnabled enabled now =>
    simp only [WorkerFairnessState.visits, step, setBackpressureEnabled]
    split
    · exact ⟨.done _, howes, le_rfl⟩
    · exact ⟨.done _, howes, le_rfl⟩

/-! ## Runs -/

variable {config : WorkerFairnessConfig} {start : ℕ} {ops more : List Op}

theorem healthy_run (hfits : FitsMachine config start ops) :
    ((new config start).run ops).Healthy config :=
  ⟨books_run (books_new config start) ops, audited_run hfits,
    keepsLimits_run (keepsLimits_new config start) ops,
    ringSound_run (ringSound_new config start) ops⟩

theorem run_append (state : WorkerFairnessState) (left right : List Op) :
    state.run (left ++ right) = (state.run left).run right :=
  foldl_append

theorem visitLog_append (state : WorkerFairnessState) (left right : List Op) :
    state.visitLog (left ++ right) = state.visitLog left ++ (state.run left).visitLog right := by
  induction left generalizing state with
  | nil => rfl
  | cons op left ih =>
    simp only [cons_append, visitLog, ih, append_assoc]
    rfl

variable {rest : List QueuedFrame}

theorem owes_of_head (hsound : state.RingSound)
    (hhead : state.queueOf connId = front :: rest) : state.Owes limits connId front 0 := by
  cases hlookup : state.flows.lookup connId with
  | none =>
    rw [queueOf, hlookup] at hhead
    cases hhead
  | some flow =>
    rw [queueOf_of_lookup hlookup] at hhead
    refine ⟨flow, hlookup, ?_, ?_, fun hnone => absurd hnone (Nat.lt_irrefl 0)⟩
    · rw [hhead]
      rfl
    · rw [Nat.mul_zero]
      exact (hsound.flow connId flow hlookup).solvent

/-- While the frame waits, every visit of its connection counts for it. -/
theorem run_progress (hfits : FitsMachine config start (ops ++ more))
    (hservable : Servable config connId front)
    (howes : ((new config start).run ops).Owes config connId front visits)
    (hkept : .removeFlow connId ∉ more) (hwaits : Waits connId ((new config start).run ops) more) :
    Turns (Waiting config connId) ((new config start).run ops).activeRing
        (((new config start).run ops).visitLog more)
        ((new config start).run (ops ++ more)).activeRing ∧
      ((new config start).run (ops ++ more)).Owes config connId front
        (visits + (((new config start).run ops).visitLog more).count connId) ∧
      calls more ≤ (((new config start).run ops).visitLog more).length := by
  induction more generalizing ops visits with
  | nil =>
    rw [append_nil]
    exact ⟨.done _, howes, le_rfl⟩
  | cons op more ih =>
    have hhealthy := healthy_run (hfits.before (prefix_append ops (op :: more)))
    obtain ⟨hturns, howed, hcalls⟩ := step_progress hhealthy hservable howes op
      (fun hremoved => hkept (hremoved ▸ mem_cons_self)) hwaits.1
    have hsplit : ops ++ op :: more = (ops ++ [op]) ++ more := by simp
    rw [hsplit] at hfits ⊢
    have hrest := ih hfits (by rw [run_concat]; exact howed)
      (fun hremoved => hkept (mem_cons_of_mem op hremoved)) (by rw [run_concat]; exact hwaits.2)
    rw [run_concat] at hrest
    obtain ⟨hmoreTurns, hmoreOwed, hmoreCalls⟩ := hrest
    have hsum : calls (op :: more) = calls [op] + calls more := calls_append [op] more
    simp only [visitLog]
    refine ⟨hturns.append hmoreTurns, ?_, ?_⟩
    · rw [count_append, ← Nat.add_assoc]
      exact hmoreOwed
    · rw [length_append]
      omega

theorem exists_picked (hnot : ¬ Waits connId state more) :
    ∃ before op after, more = before ++ op :: after ∧ Waits connId state before ∧
      ((state.run before).picked op).map QueuedFrame.connId = some connId := by
  induction more generalizing state with
  | nil => exact absurd trivial hnot
  | cons op more ih =>
    by_cases hpicked : (state.picked op).map QueuedFrame.connId = some connId
    · exact ⟨[], op, more, rfl, trivial, hpicked⟩
    · obtain ⟨before, last, after, hsplit, hwaits, hlast⟩ := ih fun hwaits => hnot ⟨hpicked, hwaits⟩
      exact ⟨op :: before, last, after, by rw [hsplit]; rfl, ⟨hpicked, hwaits⟩, hlast⟩

theorem picked_op {op : Op} {frame : QueuedFrame} (hpicked : state.picked op = some frame) :
    ∃ now feedback feedbackAt candidate, op = .dispatch now feedback feedbackAt ∧
      (state.nextDecision now).1 = .dispatch candidate ∧ candidate.frame = frame := by
  cases op with
  | dispatch now feedback feedbackAt =>
    simp only [picked] at hpicked
    cases hanswer : state.nextDecision now with
    | mk decision next =>
      rw [hanswer] at hpicked
      cases decision with
      | idle => cases hpicked
      | dispatch candidate =>
        exact ⟨now, feedback, feedbackAt, candidate, rfl, by rw [hanswer], Option.some.inj hpicked⟩
  | enqueueData | removeFlow | setBackpressureEnabled => cases hpicked

/-- While the front frame waits, the decisions made are fewer than the bound. -/
theorem calls_lt (hfits : FitsMachine config start (ops ++ more))
    (hservable : Servable config connId front)
    (howes : ((new config start).run ops).Owes config connId front 0)
    (hkept : .removeFlow connId ∉ more) (hwaits : Waits connId ((new config start).run ops) more) :
    (((new config start).run ops).visitLog more).count connId <
        serviceVisits config front.queuedBytes ∧
      calls more < serviceVisits config front.queuedBytes * config.maxActiveFlows := by
  obtain ⟨hturns, howed, hcalls⟩ := run_progress hfits hservable howes hkept hwaits
  have hhealthy := healthy_run hfits
  have hbefore := healthy_run (hfits.before (prefix_append ops more))
  have hfirst := howes.waiting hbefore.ring hbefore.audited
  have hlast := howed.waiting hhealthy.ring hhealthy.audited
  have hcount : (((new config start).run ops).visitLog more).count connId <
      serviceVisits config front.queuedBytes := by
    obtain ⟨flow, -, howedFlow⟩ := howed
    rw [Nat.zero_add] at howedFlow
    exact howedFlow.lt_serviceVisits
  have hlength := hturns.length_le (fun _ hring => hring.here) (fun _ hring => hring.few) hlast.here
  have hahead := (length_ahead_lt hfirst.here).trans_le hfirst.few
  refine ⟨hcount, ?_⟩
  calc
    calls more ≤ (((new config start).run ops).visitLog more).length := hcalls
    _ < config.maxActiveFlows + config.maxActiveFlows *
        (((new config start).run ops).visitLog more).count connId := by omega
    _ = ((((new config start).run ops).visitLog more).count connId + 1) *
        config.maxActiveFlows := by ring
    _ ≤ serviceVisits config front.queuedBytes * config.maxActiveFlows :=
      Nat.mul_le_mul_right _ hcount

/-- In every reachable state and for every flow with a front frame, in every continuation
that does not remove the flow: once the flow was visited often enough, or enough decisions
were made, the front frame has been taken, within both bounds.  Until then, and between any
two visits of the flow, no connection is visited twice. -/
theorem run_serves (config : WorkerFairnessConfig) (start : ℕ) (ops more : List Op)
    (connId : ℕ) (front : QueuedFrame) (rest : List QueuedFrame)
    (hfits : FitsMachine config start (ops ++ more))
    (hquantum : config.baseQuantumBytes ≤ u32Max) (hlength : (front.queuedBytes : ℤ) ≤ i64Max)
    (hhead : ((new config start).run ops).queueOf connId = front :: rest)
    (hkept : .removeFlow connId ∉ more) :
    (serviceVisits config front.queuedBytes ≤
          (((new config start).run ops).visitLog more).count connId ∨
        serviceVisits config front.queuedBytes * config.maxActiveFlows ≤ calls more →
      ∃ before op after, more = before ++ op :: after ∧
        Waits connId ((new config start).run ops) before ∧
        (((new config start).run ops).run before).picked op = some front ∧
        (((new config start).run ops).visitLog (before ++ [op])).count connId ≤
          serviceVisits config front.queuedBytes ∧ calls (before ++ [op]) ≤
          serviceVisits config front.queuedBytes * config.maxActiveFlows) ∧
      ∀ before op after, more = before ++ op :: after →
        Waits connId ((new config start).run ops) before → ∀ left stretch right,
          ((new config start).run ops).visitLog (before ++ [op]) = left ++ stretch ++ right →
          connId ∉ stretch → stretch.Nodup := by
  have hbefore := healthy_run (hfits.before (prefix_append ops more))
  have howes : ((new config start).run ops).Owes config connId front 0 :=
    owes_of_head hbefore.ring hhead
  have hfront : front.connId = connId :=
    Books.owned hbefore.books connId front (hhead ▸ mem_cons_self)
  have hservable : Servable config connId front := ⟨hfront, hfits.limits, hquantum, hlength⟩
  constructor
  · intro henough
    have hnot : ¬ Waits connId ((new config start).run ops) more := by
      intro hwaits
      have hfew := calls_lt hfits hservable howes hkept hwaits
      omega
    obtain ⟨before, op, after, rfl, hwaits, hpicked⟩ := exists_picked hnot
    obtain ⟨frame, hframe, hconn⟩ := Option.map_eq_some_iff.mp hpicked
    obtain ⟨now, feedback, feedbackAt, candidate, rfl, hdecision, hcandidate⟩ := picked_op hframe
    have hsplit : ops ++ before <+: ops ++ (before ++ .dispatch now feedback feedbackAt :: after) :=
      ⟨.dispatch now feedback feedbackAt :: after, append_assoc _ _ _⟩
    have hkeptBefore : .removeFlow connId ∉ before := fun hin =>
      hkept (mem_append_left _ hin)
    have hfew := calls_lt (hfits.before hsplit) hservable howes hkeptBefore hwaits
    have howed := (run_progress (hfits.before hsplit) hservable howes hkeptBefore hwaits).2.1
    have hhealthy := healthy_run (hfits.before hsplit)
    rw [run_append, Nat.zero_add] at howed
    rw [run_append] at hhealthy
    have hprogress := nextDecision_progress hhealthy hservable howed now feedback feedbackAt
    rw [hdecision] at hprogress
    refine ⟨before, _, after, rfl, hwaits, ?_⟩
    cases hprogress with
    | waits hother =>
      exact absurd ((congrArg QueuedFrame.connId hcandidate).trans hconn) (hother candidate rfl)
    | @serves _ _ log hserved hlog hturns hbound =>
      refine ⟨hframe.trans (congrArg some (hcandidate.symm.trans hserved)), ?_, ?_⟩
      · rw [visitLog_append, count_append, visitLog, visitLog, append_nil, hlog,
          count_append, count_singleton_self]
        omega
      · rw [calls_append]
        exact hfew.2
  · intro before op after hsplit hwaits left stretch right hlog hself
    subst hsplit
    have hprefix : ops ++ before <+: ops ++ (before ++ op :: after) :=
      ⟨op :: after, append_assoc _ _ _⟩
    have hkeptBefore : .removeFlow connId ∉ before := fun hin =>
      hkept (mem_append_left _ hin)
    obtain ⟨hturns, howed, -⟩ :=
      run_progress (hfits.before hprefix) hservable howes hkeptBefore hwaits
    have hhealthy := healthy_run (hfits.before hprefix)
    obtain ⟨ring, hlast⟩ := visits_turns hhealthy hservable howed op
    rw [run_append] at hturns hlast
    have hall := hturns.append hlast
    rw [visitLog_append, visitLog, visitLog, append_nil] at hlog
    rw [hlog] at hall
    exact hall.stretch_nodup (fun _ hring => hring.here) (fun _ hring => hring.nodup) hself

theorem run_serves_third_visit :
    let config : WorkerFairnessConfig :=
      { maxActiveFlows := 2
        baseQuantumBytes := 2
        pressuredQuantumBytes := 2
        penalizedQuantumBytes := 2 }
    let state := (new config 0).run
      [.enqueueData 1 0 [1, 2, 3, 4, 5] 0, .enqueueData 2 0 [6] 0]
    let more := replicate 6 (Op.dispatch 1 .routed 1)
    serviceVisits config 5 = 3 ∧
      ∃ before op after, more = before ++ op :: after ∧ Waits 1 state before ∧
        (state.run before).picked op = some ⟨1, 0, [1, 2, 3, 4, 5], 0⟩ ∧
        (state.visitLog (before ++ [op])).count 1 ≤ serviceVisits config 5 ∧
        calls (before ++ [op]) ≤ serviceVisits config 5 * config.maxActiveFlows := by
  intro config state more
  have hfits : FitsMachine config 0
      ([.enqueueData 1 0 [1, 2, 3, 4, 5] 0, .enqueueData 2 0 [6] 0] ++ more) :=
    ⟨⟨by decide, by decide⟩, fun hlargest => absurd hlargest (by decide)⟩
  have hserves := run_serves config 0
    [.enqueueData 1 0 [1, 2, 3, 4, 5] 0, .enqueueData 2 0 [6] 0] more 1
    ⟨1, 0, [1, 2, 3, 4, 5], 0⟩ [] hfits (by decide) (by decide) (by decide +kernel) (by decide)
  exact ⟨by decide, hserves.1 (Or.inr (by decide))⟩

theorem visit_small {config : WorkerFairnessConfig} (hquantum : config.baseQuantumBytes ≤ u32Max)
    (hcap : serviceQuantum config ≤ config.maxFlowQueuedBytes)
    (hqueue : flow.queue = front :: rest) (hsolvent : 0 ≤ flow.fairness.deficitBytes)
    (hsmall : front.queuedBytes ≤ serviceQuantum config) (pressureState : PressureState)
    (now : ℕ) : (flow.visit config pressureState now).1 = .drained front := by
  have hlimit : serviceQuantum config ≤ u32Max := by
    unfold serviceQuantum
    have hone : 1 ≤ u32Max := by decide
    omega
  unfold FlowEntry.visit
  simp only [hqueue]
  generalize hfairness : classifyFlow config pressureState now
    { flow.fairness with inActiveRing := false } = fairness
  have hpositive : 0 ≤ fairness.deficitBytes := by
    rw [← hfairness]
    exact classifyFlow_solvent config pressureState now hsolvent
  have hadded := serviceQuantum_le hquantum pressureState fairness
  generalize effectiveQuantumBytes config pressureState fairness = quantum at hadded ⊢
  have hcovered : ¬ (clampDeficitBytes config
      { fairness with deficitBytes := min (fairness.deficitBytes + quantum) i64Max }).deficitBytes
        < front.queuedBytes := by
    simp only [clampDeficitBytes]
    unfold i64Max
    unfold u32Max at hlimit
    omega
  rw [if_neg hcovered]

section

variable (hsound : state.RingSound) (hlimits : state.KeepsLimits limits)
  (hquantum : limits.baseQuantumBytes ≤ u32Max)
  (hcap : serviceQuantum limits ≤ limits.maxFlowQueuedBytes)
  (hsmall : ∀ connId, ∀ frame ∈ state.queueOf connId,
  frame.queuedBytes ≤ serviceQuantum limits)
include hsound hlimits hquantum hcap hsmall

/-- A loop over the whole ring that finds nothing to dispatch has met no queued frame, if
every queued frame is within the smallest quantum. -/
theorem visitRing_idle_empty {rounds : ℕ} (hrounds : state.activeRing.length ≤ rounds)
    (hidle : (visitRing rounds state now).1 = .idle) : state.Empty := by
  induction rounds generalizing state with
  | zero =>
    have hring : state.activeRing = [] := length_eq_zero_iff.mp (Nat.le_zero.mp hrounds)
    exact hsound.empty_of_ring hring
  | succ rounds ih =>
    cases hring : state.activeRing with
    | nil => exact hsound.empty_of_ring hring
    | cons connId ring =>
      have hin : connId ∈ state.activeRing := by
        rw [hring]
        exact mem_cons_self
      have hmem := hsound.known connId hin
      obtain ⟨flow, hlookup⟩ := Option.isSome_iff_exists.mp (lookup_isSome.mpr hmem)
      have hpopped :
          ((state.popRing ring).leaveRing connId).flows.lookup connId = some flow := hlookup
      obtain ⟨hbase, hsame⟩ := hlimits.quanta
      have hvisited := (visitConn_ring hsound hring now).2
      unfold visitRing at hidle
      simp only [hring, if_pos ((hsound.members connId).mpr hin)] at hidle
      cases hqueue : flow.queue with
      | cons front rest =>
        -- The front frame would have been dispatched.
        have hfront : front.queuedBytes ≤ serviceQuantum state.config := by
          rw [hsame]
          apply hsmall connId
          rw [queueOf_of_lookup hlookup, hqueue]
          exact mem_cons_self
        have htaken := visit_small (hbase ▸ hquantum)
          (hsame.trans_le (hcap.trans_eq hlimits.maxFlowQueuedBytes.symm)) hqueue
          (hsound.flow connId flow hlookup).solvent hfront state.pressure.state now
        have hvisit : ∃ candidate next,
            ((state.popRing ring).leaveRing connId).visitConn connId now =
              (some candidate, next) := by
          unfold visitConn
          rw [hpopped]
          dsimp only
          have hsome : (flow.visit ((state.popRing ring).leaveRing connId).config
              ((state.popRing ring).leaveRing connId).pressure.state now).1 =
                .drained front := htaken
          rw [hsome]
          exact ⟨_, _, rfl⟩
        obtain ⟨candidate, next, hvisit⟩ := hvisit
        rw [hvisit] at hidle
        cases hidle
      | nil =>
        have hvisit : ((state.popRing ring).leaveRing connId).visitConn connId now =
            (none, ((state.popRing ring).leaveRing connId).putFlow connId flow
              (flow.visit state.config state.pressure.state now).2) := by
          unfold visitConn
          rw [hpopped]
          simp only [FlowEntry.visit, hqueue]
          rfl
        rw [hvisit] at hidle hvisited
        have hqueues : ∀ other,
            (((state.popRing ring).leaveRing connId).putFlow connId flow
              (flow.visit state.config state.pressure.state now).2).queueOf other =
                state.queueOf other := by
          intro other
          rw [queueOf_insert state _ rfl other]
          split
          · next hother =>
            rw [hother, queueOf_of_lookup hlookup, hqueue]
            simp only [FlowEntry.visit, hqueue]
          · rfl
        have hrest := ih hvisited hlimits
          (fun other frame hframe => hsmall other frame (hqueues other ▸ hframe))
          (by
            rw [hring, length_cons] at hrounds
            exact Nat.le_of_succ_le_succ hrounds) hidle
        exact fun other => (hqueues other).symm.trans (hrest other)

theorem nextDecision_idle_empty (hidle : (state.nextDecision now).1 = .idle) : state.Empty := by
  have hcounted : (state.countRound.evaluatePressure now false).RingSound :=
    hsound.congr rfl rfl rfl
  have hempty : (state.countRound.evaluatePressure now false).Empty :=
    visitRing_idle_empty hcounted hlimits hquantum hcap hsmall le_rfl hidle
  exact hempty

end

/-- The scheduler answers `idle` only when no frame is queued, if every queued frame is
within the smallest quantum. -/
theorem run_idle_empty (config : WorkerFairnessConfig) (start : ℕ) (ops : List Op) (now : ℕ)
    (hquantum : config.baseQuantumBytes ≤ u32Max)
    (hcap : serviceQuantum config ≤ config.maxFlowQueuedBytes)
    (hsmall : ∀ connId, ∀ frame ∈ ((new config start).run ops).queueOf connId,
      frame.queuedBytes ≤ serviceQuantum config)
    (hidle : (((new config start).run ops).nextDecision now).1 = .idle) :
    ((new config start).run ops).Empty := by
  have hsound := ringSound_run (ringSound_new config start) ops
  have hlimits := keepsLimits_run (keepsLimits_new config start) ops
  exact nextDecision_idle_empty hsound hlimits hquantum hcap hsmall hidle

theorem forall_mem_queueOf {p : QueuedFrame → Prop} {state : WorkerFairnessState}
    (hrows : ∀ row ∈ state.flows.entries, ∀ frame ∈ row.2.queue, p frame) (connId : ℕ) :
    ∀ frame ∈ state.queueOf connId, p frame := by
  unfold queueOf
  cases hlookup : state.flows.lookup connId with
  | none => exact fun _ hframe => nomatch hframe
  | some flow => exact hrows ⟨connId, flow⟩ (AList.mem_lookup_iff.mp hlookup)

def threeFrames : List Op :=
  [.enqueueData 7 0 [1, 2] 0, .enqueueData 7 0 [3] 0, .enqueueData 9 0 [4] 0]

/-- With three frames queued the answer is not `idle`; after three dispatches it is, and
the queues are empty. -/
theorem run_idle_empty_drained :
    let queued := (new {} 0).run threeFrames
    let drained := (new {} 0).run (threeFrames ++ replicate 3 (.dispatch 1 .routed 1))
    (queued.nextDecision 1).1 ≠ .idle ∧ (drained.nextDecision 2).1 = .idle ∧ drained.Empty := by
  intro queued drained
  have hsmall : ∀ ops : List Op, (∀ row ∈ ((new {} 0).run ops).flows.entries,
      ∀ frame ∈ row.2.queue, frame.queuedBytes ≤ serviceQuantum {}) → ∀ now,
      (((new {} 0).run ops).nextDecision now).1 = .idle → ((new {} 0).run ops).Empty :=
    fun ops hrows now => run_idle_empty {} 0 ops now (by decide) (by decide)
      (forall_mem_queueOf hrows)
  have hidle : (drained.nextDecision 2).1 = .idle := by decide +kernel
  refine ⟨fun hqueued => ?_, hidle, hsmall _ (by decide +kernel) 2 hidle⟩
  have hempty := hsmall threeFrames (by decide +kernel) 1 hqueued 9
  exact absurd hempty (by decide +kernel)

end WorkerFairnessState
end TupoProxy.Fairness
