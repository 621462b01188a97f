import TupoProxy.FairnessRing

/-!
# Members of the ring and of the flow counters

A flow without frames is out of the ring and is not counted as backpressured, also
between a decision and its feedback.  With it the ring holds exactly the flows with a
frame, and the counters of flows count no empty one.
-/

namespace TupoProxy.Fairness

def Rested (flow : FlowEntry) : Prop :=
  flow.queue = [] →
    flow.fairness.inActiveRing = false ∧ (flowMembership flow.fairness).2 = false

theorem Rested.of_frame {flow : FlowEntry} (hqueued : flow.queue ≠ []) : Rested flow :=
  fun hempty => absurd hempty hqueued

section

variable (config : WorkerFairnessConfig) (pressureState : PressureState) (now : ℕ)

theorem visit_rested (flow : FlowEntry) : Rested (flow.visit config pressureState now).2 := by
  unfold FlowEntry.visit
  cases flow.queue with
  | nil => exact fun _ => ⟨rfl, rfl⟩
  | cons front rest =>
    dsimp only
    split
    · exact .of_frame (List.cons_ne_nil _ _)
    · cases rest with
      | nil => exact fun _ => ⟨rfl, rfl⟩
      | cons second rest => exact .of_frame (List.cons_ne_nil _ _)

theorem classifyFlow_rested {fairness : FlowFairnessState} {flow : FlowEntry} {buckets connId : ℕ}
    (hold : Rested flow) (hsound : FlowSound buckets connId flow)
    (hflag : fairness.inActiveRing = flow.fairness.inActiveRing)
    (hpending : fairness.pendingBytes = flow.fairness.pendingBytes) :
    Rested ⟨classifyFlow config pressureState now fairness, flow.queue⟩ := by
  intro hempty
  have hle := hsound.pending_le
  rw [show flow.queue = [] from hempty, queueBytes_nil, ← hpending] at hle
  refine ⟨hflag.trans (hold hempty).1, ?_⟩
  simp [flowMembership, classifyFlow, deriveFlowClassification, Nat.le_zero.mp hle,
    schedulerStateIsBackpressured]

theorem noteStall_flag (flow : FlowEntry) :
    (flow.noteStall config).fairness.inActiveRing = flow.fairness.inActiveRing := by
  unfold FlowEntry.noteStall
  split <;> rfl

end

namespace WorkerFairnessState

def AllRested (state : WorkerFairnessState) : Prop :=
  ∀ connId flow, state.flows.lookup connId = some flow → Rested flow

variable {state next : WorkerFairnessState} {connId now : ℕ} {flow entry : FlowEntry}

section

variable (hall : state.AllRested)
include hall

theorem AllRested.put (hflows : next.flows = state.flows.insert connId entry)
    (hentry : Rested entry) : next.AllRested := by
  intro other flow hlookup
  rw [hflows] at hlookup
  rcases Table.lookup_insert_some hlookup with ⟨-, rfl⟩ | ⟨-, hold⟩
  · exact hentry
  · exact hall other flow hold

theorem openFlow_rested (connId frameWeight : ℕ) :
    (state.openFlow connId frameWeight).2.AllRested := by
  unfold openFlow
  split
  · next flow hlookup => exact hall.put rfl (fun hempty => hall connId flow hlookup hempty)
  · exact hall.put rfl (fun _ => ⟨rfl, rfl⟩)

theorem enqueueData_rested (connId flags : ℕ) (data : List Byte) (now : ℕ) :
    (state.enqueueData connId flags data now).2.AllRested := by
  have hexit := enqueueData_exit state connId flags data now
  have hopened := openFlow_rested hall connId (state.config.weightForFlags flags)
  generalize state.enqueueData connId flags data now = answer at hexit ⊢
  cases hexit with
  | saturated | refused => exact hall
  | refusedOpen => exact hopened
  | admitted =>
    apply hopened.put (admitFrame_flows _ connId _ _ now)
    exact .of_frame (List.append_ne_nil_of_right_ne_nil _ (List.cons_ne_nil _ _))

theorem visitConn_rested (connId now : ℕ) : (state.visitConn connId now).2.AllRested := by
  unfold visitConn
  split
  · exact hall
  · exact hall.put (settleVisit_flows _ _ _ _) (visit_rested _ _ _ _)

theorem visitRing_rested (rounds : ℕ) : (visitRing rounds state now).2.AllRested := by
  induction rounds generalizing state with
  | zero => exact hall
  | succ rounds ih =>
    unfold visitRing
    split
    · exact hall
    · next other ring hring =>
      have hleft : ((state.popRing ring).leaveRing other).AllRested := hall
      have hvisit := visitConn_rested hleft other now
      split
      · split
        · next candidate next hanswer =>
          rw [hanswer] at hvisit
          exact hvisit
        · next next hanswer =>
          rw [hanswer] at hvisit
          exact ih hvisit
      · exact ih hall

theorem removeFlow_rested (connId : ℕ) : (state.removeFlow connId).AllRested := by
  unfold removeFlow
  split
  · exact hall
  · exact fun other flow hlookup => hall other flow (Table.lookup_erase_some hlookup).2

section

variable (hbooks : Books (some connId) state) (hlookup : state.flows.lookup connId = some flow)
include hbooks hlookup

theorem stallFrame_rested (frame : QueuedFrame) (now : ℕ) :
    (state.stallFrame connId flow frame now).AllRested := by
  unfold stallFrame
  split
  · refine hall.put rfl ?_
    rw [FlowEntry.classify, noteStall_queue]
    exact classifyFlow_rested _ _ _ (hall connId flow hlookup)
      (hbooks.flow_sound connId flow hlookup) (noteStall_flag _ _) (noteStall_pending _ _)
  · exact hall.put (requeueFrame_flows _ _ _ _ _) (.of_frame (List.cons_ne_nil _ _))

theorem applyDispatchFeedback_rested (candidate : DispatchCandidate) (feedback : DispatchFeedback) :
    (state.applyDispatchFeedback connId candidate feedback now).2.AllRested := by
  cases feedback with
  | routed =>
    simp only [applyDispatchFeedback, feedbackRouted, hlookup]
    exact hall.put rfl (classifyFlow_rested _ _ _ (hall connId flow hlookup)
      (hbooks.flow_sound connId flow hlookup) rfl rfl)
  | queueFull =>
    have hflows := noteRouteStall_flows state now
    rw [AllRested, ← hflows] at hall
    rw [← hflows] at hlookup
    have hstalled := stallFrame_rested hall (books_noteRouteStall hbooks) hlookup candidate.frame
      now
    simp only [applyDispatchFeedback, feedbackQueueFull, hlookup]
    split
    · exact removeFlow_rested hstalled connId
    · exact hstalled
  | channelClosed | noConn => exact removeFlow_rested hall connId

end

/-- One operation leaves every empty flow at rest. -/
theorem step_rested (hbooks : Books none state) (op : Op) : (state.step op).AllRested := by
  cases op with
  | enqueueData connId flags data now => exact enqueueData_rested hall connId flags data now
  | dispatch now feedback feedbackAt =>
    have hspec := nextDecision_spec now hbooks
    have hstart : (state.countRound.evaluatePressure now false).AllRested := hall
    have hnext : (state.nextDecision now).2.AllRested := visitRing_rested hstart _
    simp only [step, dispatch]
    generalize state.nextDecision now = answer at hspec hnext ⊢
    obtain ⟨decision, next⟩ := answer
    cases hspec with
    | idle => exact hnext
    | dispatch hmem hqueue hothers hheld =>
      obtain ⟨flow, hlookup⟩ := Option.isSome_iff_exists.mp (AList.lookup_isSome.mpr hmem)
      exact applyDispatchFeedback_rested hnext hheld hlookup _ feedback
  | removeFlow connId => exact removeFlow_rested hall connId
  | setBackpressureEnabled enabled now =>
    simp only [step, setBackpressureEnabled]
    split <;> exact hall

end

/-- In every reachable state the flows without frames are at rest. -/
theorem rested_run (config : WorkerFairnessConfig) (start : ℕ) (ops : List Op) :
    ((new config start).run ops).AllRested := by
  induction ops using List.reverseRecOn with
  | nil => exact nofun
  | append_singleton ops op ih =>
    rw [run_concat]
    exact step_rested ih (books_run (books_new config start) ops) op

/-- After every operation the ring has no connection twice, and its connections are the
members of its set, the flows with the flag and the flows with a frame. -/
theorem active_ring_consistent (config : WorkerFairnessConfig) (start : ℕ) (ops : List Op) :
    let state := (new config start).run ops
    state.activeRing.Nodup ∧
      (∀ connId, connId ∈ state.activeRing ↔ connId ∈ state.activeRingMembers) ∧
      (∀ connId ∈ state.activeRing, connId ∈ state.flows) ∧
      ∀ connId flow, state.flows.lookup connId = some flow →
        (connId ∈ state.activeRing ↔ flow.fairness.inActiveRing = true) ∧
          (connId ∈ state.activeRing ↔ flow.queue ≠ []) := by
  intro state
  have hsound : state.RingSound := ringSound_run (ringSound_new config start) ops
  refine ⟨hsound.nodup, fun connId => (hsound.members connId).symm, hsound.known, ?_⟩
  intro connId flow hlookup
  have hflow := hsound.flow connId flow hlookup
  refine ⟨hflow.flag.symm, ?_, hflow.queued⟩
  intro hin hempty
  have hflag := hflow.flag.mpr hin
  rw [(rested_run config start ops connId flow hlookup hempty).1] at hflag
  cases hflag

/-- After every operation the counters of standing and of backpressured flows are the
numbers of such flows, and a flow without frames is in neither. -/
theorem flow_counters_exact (config : WorkerFairnessConfig) (start : ℕ) (ops : List Op)
    (hfits : FitsMachine config start ops) :
    let state := (new config start).run ops
    state.standingFlowCount = state.flows.total Accounts.standingWeight ∧
      state.backpressuredFlowCount = state.flows.total Accounts.backpressuredWeight ∧
      ∀ connId flow, state.flows.lookup connId = some flow → flow.queue = [] →
        flowMembership flow.fairness = (false, false) := by
  intro state
  have hcounts := (audited_run hfits).counts
  refine ⟨hcounts.standing, hcounts.backpressured, ?_⟩
  intro connId flow hlookup hempty
  have hbooks := books_run (books_new config start) ops
  have htransient := hbooks.settled connId flow hlookup nofun hempty
  exact Prod.ext (by simp [flowMembership, htransient])
    (rested_run config start ops connId flow hlookup hempty).2

theorem flow_counters_exact_requeued :
    let ops : List Op := [.enqueueData 1 0 [10, 11] 0, .dispatch 1 .queueFull 1]
    FitsMachine {} 0 ops ∧ ((new {} 0).run ops).backpressuredFlowCount = 1 ∧
      ((new {} 0).run ops).flows.total Accounts.backpressuredWeight = 1 := by
  intro ops
  have hfits : FitsMachine {} 0 ops :=
    ⟨⟨by decide, by decide⟩, fun hlargest => absurd hlargest (by decide)⟩
  have hcount : ((new {} 0).run ops).backpressuredFlowCount = 1 := by decide +kernel
  exact ⟨hfits, hcount, (flow_counters_exact {} 0 ops hfits).2.1.symm.trans hcount⟩

/-! ## Rejected frames -/

/-- The connection has a flow that needs no more weight for the frame. -/
def HasFlowFor (state : WorkerFairnessState) (connId flags : ℕ) : Prop :=
  ∃ flow, state.flows.lookup connId = some flow ∧
    state.config.weightForFlags flags ≤ flow.fairness.weightQuanta

/-- Nothing differs but the pressure and the count of rejects. -/
def KeepsFlows (state next : WorkerFairnessState) : Prop :=
  next = { state with
      flows := next.flows, pressure := next.pressure, enqueueRejects := next.enqueueRejects } ∧
    ∀ other, next.flows.lookup other = state.flows.lookup other

theorem KeepsFlows.reported (hkeeps : state.KeepsFlows next) (pressure : PressureEvaluator)
    (rejects : ℕ) :
    state.KeepsFlows { next with pressure := pressure, enqueueRejects := rejects } := by
  refine ⟨?_, hkeeps.2⟩
  have hsame := congrArg (fun worker : WorkerFairnessState =>
    { worker with pressure := pressure, enqueueRejects := rejects }) hkeeps.1
  exact hsame

theorem keepsFlows_rejectFrame (decision : AdmissionDecision) (now : ℕ) :
    state.KeepsFlows (next.rejectFrame decision now).2 ↔ state.KeepsFlows next :=
  ⟨fun hkeeps => hkeeps.reported next.pressure next.enqueueRejects,
    fun hkeeps => hkeeps.reported _ _⟩

theorem keepsFlows_openFlow (connId flags : ℕ) :
    state.KeepsFlows (state.openFlow connId (state.config.weightForFlags flags)).2 ↔
      state.HasFlowFor connId flags := by
  constructor
  · rintro ⟨-, hflows⟩
    have hown := hflows connId
    unfold openFlow at hown
    split at hown
    · next flow hlookup =>
      refine ⟨flow, hlookup, ?_⟩
      rw [AList.lookup_insert, hlookup] at hown
      have hweight := congrArg (fun flow => flow.fairness.weightQuanta) (Option.some.inj hown)
      exact max_eq_left_iff.mp hweight
    · next hnone =>
      rw [AList.lookup_insert, hnone] at hown
      cases hown
  · rintro ⟨flow, hlookup, hweight⟩
    simp only [openFlow, hlookup, Nat.max_eq_left hweight]
    refine ⟨rfl, fun other => ?_⟩
    rw [Table.lookup_insert_eq]
    split
    · next hother => rw [hother, hlookup]
    · rfl

/-- A rejected frame leaves everything but the pressure and the count of rejects as it was
exactly when it is refused before its flow is looked up, or its connection has a flow of
at least its weight already. -/
theorem rejected_enqueue_keeps_flows (state : WorkerFairnessState) (connId flags : ℕ)
    (data : List Byte) (now : ℕ)
    (hrejected : (state.enqueueData connId flags data now).1 ≠ .admitted) :
    state.KeepsFlows (state.enqueueData connId flags data now).2 ↔
      state.RefusedUnopened connId data.length ∨ state.HasFlowFor connId flags := by
  have hexit := enqueueData_exit state connId flags data now
  generalize state.enqueueData connId flags data now = answer at hexit hrejected ⊢
  cases hexit with
  | saturated hrefused => exact iff_of_true ⟨rfl, fun _ => rfl⟩ (.inl hrefused)
  | refused _ _ hrefused => exact iff_of_true ⟨rfl, fun _ => rfl⟩ (.inl hrefused)
  | refusedOpen _ _ hpassed =>
    rw [keepsFlows_rejectFrame, keepsFlows_openFlow]
    exact (or_iff_right hpassed).symm
  | admitted => exact absurd rfl hrejected

/-- A second frame of the connection does not fit into its queue. -/
theorem rejected_enqueue_keeps_flows_known :
    let state := ((new { maxFlowQueuedBytes := 1 } 0).enqueueData 7 0 [1] 0).2
    (state.enqueueData 7 0 [2, 3] 1).1 = .rejectFlowCap ∧
      state.KeepsFlows (state.enqueueData 7 0 [2, 3] 1).2 := by
  intro state
  have hdecision : (state.enqueueData 7 0 [2, 3] 1).1 = .rejectFlowCap := by decide +kernel
  have hrejected : (state.enqueueData 7 0 [2, 3] 1).1 ≠ .admitted := by
    rw [hdecision]
    decide
  have hflow : (state.flows.lookup 7).any (fun flow =>
      decide (state.config.weightForFlags 0 ≤ flow.fairness.weightQuanta)) = true := by
    decide +kernel
  obtain ⟨flow, hlookup, hweight⟩ := (Option.any_eq_true _ _).mp hflow
  exact ⟨hdecision, (rejected_enqueue_keeps_flows state 7 0 [2, 3] 1 hrejected).mpr
    (.inr ⟨flow, hlookup, of_decide_eq_true hweight⟩)⟩

/-- The first frame of a connection is longer than a queue may be: it is rejected, but the
connection has a flow from then on. -/
theorem rejected_enqueue_opens_flow :
    let state := new { maxFlowQueuedBytes := 1 } 0
    (state.enqueueData 7 0 [1, 2] 0).1 = .rejectFlowCap ∧ 7 ∉ state.flows ∧
      7 ∈ (state.enqueueData 7 0 [1, 2] 0).2.flows ∧
      (state.enqueueData 7 0 [1, 2] 0).2.bucketActiveFlows ≠ state.bucketActiveFlows := by
  decide +kernel

end WorkerFairnessState
end TupoProxy.Fairness
