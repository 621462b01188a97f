import TupoProxy.FairnessExact
import TupoProxy.RoundRobin

/-!
# The ring of active flows

The scheduler keeps the ring as a list, as a set of members and as a flag in every
flow.  Along every run the three agree, every flow with a queued frame is in the ring,
and no deficit is negative.  Every visit pops the front of the ring and leaves it out
or puts it at the back, and every other operation joins at the back or takes out.
-/

namespace TupoProxy.Fairness

open List AList

structure FlowRinged (inRing : Prop) (flow : FlowEntry) : Prop where
  flag : flow.fairness.inActiveRing = true ↔ inRing
  queued : flow.queue ≠ [] → inRing
  solvent : 0 ≤ flow.fairness.deficitBytes

theorem FlowRinged.of_flag {inRing : Prop} {flow : FlowEntry} (hring : inRing)
    (hflag : flow.fairness.inActiveRing = true) (hsolvent : 0 ≤ flow.fairness.deficitBytes) :
    FlowRinged inRing flow :=
  ⟨⟨fun _ => hring, fun _ => hflag⟩, fun _ => hring, hsolvent⟩

theorem classifyFlow_solvent {fairness : FlowFairnessState} (config : WorkerFairnessConfig)
    (pressureState : PressureState) (now : ℕ) (hsolvent : 0 ≤ fairness.deficitBytes) :
    0 ≤ (classifyFlow config pressureState now fairness).deficitBytes := by
  simp only [classifyFlow]
  split
  · exact le_rfl
  · exact hsolvent

theorem clampDeficitBytes_solvent (config : WorkerFairnessConfig)
    (fairness : FlowFairnessState) : 0 ≤ (clampDeficitBytes config fairness).deficitBytes :=
  le_max_left _ _

namespace FlowEntry

variable (config : WorkerFairnessConfig) (pressureState : PressureState)
  {inRing : Prop} {flow : FlowEntry}

theorem noteRouted_ringed (now : ℕ) (frame : QueuedFrame) (hflow : FlowRinged inRing flow) :
    FlowRinged inRing (flow.noteRouted config pressureState now frame) :=
  ⟨hflow.flag, hflow.queued, classifyFlow_solvent _ _ _ hflow.solvent⟩

theorem noteStall_ringed (hflow : FlowRinged inRing flow) :
    FlowRinged inRing (flow.noteStall config) := by
  unfold noteStall
  split
  · exact ⟨hflow.flag, hflow.queued, hflow.solvent⟩
  · exact hflow

theorem classify_ringed (now : ℕ)
    (hflow : FlowRinged inRing flow) : FlowRinged inRing (flow.classify config pressureState now) :=
  ⟨hflow.flag, hflow.queued, classifyFlow_solvent _ _ _ hflow.solvent⟩

theorem visit_ringed (now : ℕ) (flow : FlowEntry) :
    FlowRinged ((flow.visit config pressureState now).2.queue ≠ [])
      (flow.visit config pressureState now).2 := by
  unfold visit
  cases hqueue : flow.queue with
  | nil => exact ⟨by simp, fun hqueued => hqueued, le_rfl⟩
  | cons front rest =>
    dsimp only
    split
    · refine .of_flag (cons_ne_nil _ _) rfl ?_
      exact clampDeficitBytes_solvent _ _
    · cases rest with
      | nil => exact ⟨by simp, fun hqueued => hqueued, le_rfl⟩
      | cons second rest =>
        refine .of_flag (cons_ne_nil _ _) rfl ?_
        exact clampDeficitBytes_solvent _ _

end FlowEntry

def joined (ring : List ℕ) (connId : ℕ) : List ℕ :=
  if connId ∈ ring then ring else ring ++ [connId]

theorem mem_joined {ring : List ℕ} {connId other : ℕ} :
    other ∈ joined ring connId ↔ other = connId ∨ other ∈ ring := by
  unfold joined
  split
  · next hin =>
    constructor
    · exact Or.inr
    · rintro (rfl | hother)
      · exact hin
      · exact hother
  · rw [mem_append, mem_singleton, or_comm]

theorem joined_nodup {ring : List ℕ} (hnodup : ring.Nodup) (connId : ℕ) :
    (joined ring connId).Nodup := by
  unfold joined
  split
  · exact hnodup
  · next hout => exact List.Nodup.append hnodup (nodup_singleton connId) (by simpa using hout)

namespace WorkerFairnessState

structure RingSound (state : WorkerFairnessState) : Prop where
  nodup : state.activeRing.Nodup
  members : ∀ connId, connId ∈ state.activeRingMembers ↔ connId ∈ state.activeRing
  known : ∀ connId ∈ state.activeRing, connId ∈ state.flows
  flow : ∀ connId flow, state.flows.lookup connId = some flow →
    FlowRinged (connId ∈ state.activeRing) flow

variable {state next : WorkerFairnessState} {connId now : ℕ} {old new : FlowEntry}

theorem RingSound.congr (hsound : state.RingSound) (hring : next.activeRing = state.activeRing)
    (hmembers : next.activeRingMembers = state.activeRingMembers)
    (hflows : next.flows = state.flows) : next.RingSound := by
  refine ⟨?_, ?_, ?_, ?_⟩
  · rw [hring]
    exact hsound.nodup
  · rw [hring, hmembers]
    exact hsound.members
  · rw [hring, hflows]
    exact hsound.known
  · rw [hring, hflows]
    exact hsound.flow

theorem enqueueActiveConn_ring (state : WorkerFairnessState) (connId : ℕ)
    (hmembers : ∀ other, other ∈ state.activeRingMembers ↔ other ∈ state.activeRing) :
    (state.enqueueActiveConn connId).activeRing = joined state.activeRing connId ∧
      ∀ other, other ∈ (state.enqueueActiveConn connId).activeRingMembers ↔
        other ∈ (state.enqueueActiveConn connId).activeRing := by
  have hmem := hmembers connId
  unfold enqueueActiveConn joined
  by_cases hin : connId ∈ state.activeRing
  · rw [if_pos hin, if_pos (hmem.mpr hin)]
    exact ⟨rfl, hmembers⟩
  · rw [if_neg hin, if_neg (fun hmember => hin (hmem.mp hmember))]
    refine ⟨rfl, ?_⟩
    intro other
    rw [Finset.mem_insert, hmembers, mem_append, mem_singleton, or_comm]

section

variable (hsound : state.RingSound)
include hsound

theorem RingSound.put
    (hflows : next.flows = state.flows.insert connId new) (hnodup : next.activeRing.Nodup)
    (hmembers : ∀ other, other ∈ next.activeRingMembers ↔ other ∈ next.activeRing)
    (hothers : ∀ other, other ≠ connId → (other ∈ next.activeRing ↔ other ∈ state.activeRing))
    (hnew : FlowRinged (connId ∈ next.activeRing) new) : next.RingSound := by
  refine ⟨hnodup, hmembers, ?_, ?_⟩
  · intro other hother
    rw [hflows, mem_insert]
    by_cases hsame : other = connId
    · exact Or.inl hsame
    · exact Or.inr (hsound.known other ((hothers other hsame).mp hother))
  · intro other flow hlookup
    rw [hflows] at hlookup
    rcases Table.lookup_insert_some hlookup with ⟨rfl, rfl⟩ | ⟨hsame, hbefore⟩
    · exact hnew
    · rw [propext (hothers other hsame)]
      exact hsound.flow other flow hbefore

theorem RingSound.keep (hflows : next.flows = state.flows.insert connId new)
    (hring : next.activeRing = state.activeRing)
    (hmembers : next.activeRingMembers = state.activeRingMembers)
    (hnew : FlowRinged (connId ∈ state.activeRing) new) : next.RingSound := by
  apply hsound.put hflows
  · rw [hring]
    exact hsound.nodup
  · rw [hring, hmembers]
    exact hsound.members
  · intro other _
    rw [hring]
  · rw [hring]
    exact hnew

theorem RingSound.join (hlookup : state.flows.lookup connId = some old)
    (hflag : new.fairness.inActiveRing = true) (hsolvent : 0 ≤ new.fairness.deficitBytes) :
    ((if old.fairness.inActiveRing then state else state.enqueueActiveConn connId).putFlow
        connId old new).activeRing = joined state.activeRing connId ∧
      RingSound ((if old.fairness.inActiveRing then state
        else state.enqueueActiveConn connId).putFlow connId old new) := by
  have hold := hsound.flow connId old hlookup
  have hself : connId ∈ joined state.activeRing connId := mem_joined.mpr (Or.inl rfl)
  by_cases hin : old.fairness.inActiveRing = true
  · have hmem := hold.flag.mp hin
    rw [if_pos hin, joined, if_pos hmem]
    exact ⟨rfl, hsound.keep rfl rfl rfl (.of_flag hmem hflag hsolvent)⟩
  · rw [if_neg hin]
    obtain ⟨hring, hmembers⟩ := enqueueActiveConn_ring state connId hsound.members
    refine ⟨hring, ?_⟩
    apply hsound.put
    · exact congrArg (insert connId new) (enqueueActiveConn_flows state connId)
    · simp only [putFlow, applyFlowMembershipDelta, hring]
      exact joined_nodup hsound.nodup connId
    · exact hmembers
    · intro other hother
      simp only [putFlow, applyFlowMembershipDelta, hring]
      rw [mem_joined, or_iff_right hother]
    · simp only [putFlow, applyFlowMembershipDelta, hring]
      exact .of_flag hself hflag hsolvent

theorem openFlow_ring (connId frameWeight : ℕ) :
    (state.openFlow connId frameWeight).2.activeRing = state.activeRing ∧
      (state.openFlow connId frameWeight).2.RingSound := by
  unfold openFlow
  cases hlookup : state.flows.lookup connId with
  | none =>
    have hout : connId ∉ state.activeRing := fun hin =>
      lookup_eq_none.mp hlookup (hsound.known connId hin)
    exact ⟨rfl, hsound.keep rfl rfl rfl
      ⟨by simp [FlowEntry.new, FlowFairnessState.new, hout], fun hqueued => absurd rfl hqueued,
        le_rfl⟩⟩
  | some flow =>
    have hflow := hsound.flow connId flow hlookup
    exact ⟨rfl, hsound.keep rfl rfl rfl ⟨hflow.flag, hflow.queued, hflow.solvent⟩⟩

end

variable (frame : QueuedFrame) {flow : FlowEntry}

theorem admitFrame_ring (now : ℕ) (hsound : state.RingSound)
    (hlookup : state.flows.lookup connId = some flow) :
    (state.admitFrame connId flow frame now).activeRing = joined state.activeRing connId ∧
      (state.admitFrame connId flow frame now).RingSound := by
  have hcharged : (state.chargeBytes (state.bucketFor connId) frame.queuedBytes).RingSound :=
    hsound.congr rfl rfl rfl
  have hsolvent : 0 ≤ (flow.pushBack state.config state.pressure.state now
      frame).fairness.deficitBytes :=
    classifyFlow_solvent _ _ _ (hsound.flow connId flow hlookup).solvent
  obtain ⟨hring, hjoined⟩ := hcharged.join hlookup rfl hsolvent
  exact ⟨hring, hjoined.congr rfl rfl rfl⟩

theorem enqueueData_ring (hsound : state.RingSound) (connId flags : ℕ) (data : List Byte)
    (now : ℕ) :
    ((state.enqueueData connId flags data now).2.activeRing = state.activeRing ∨
        (state.enqueueData connId flags data now).2.activeRing = joined state.activeRing connId) ∧
      (state.enqueueData connId flags data now).2.RingSound := by
  have hexit := enqueueData_exit state connId flags data now
  have hopened := openFlow_ring hsound connId (state.config.weightForFlags flags)
  have hspec := openFlow_spec state connId (state.config.weightForFlags flags)
  generalize state.enqueueData connId flags data now = answer at hexit ⊢
  cases hexit with
  | saturated | refused => exact ⟨Or.inl rfl, hsound.congr rfl rfl rfl⟩
  | refusedOpen =>
    exact ⟨Or.inl hopened.1, hopened.2.nodup, hopened.2.members, hopened.2.known, hopened.2.flow⟩
  | admitted =>
    obtain ⟨hring, hjoined⟩ := admitFrame_ring ⟨connId, flags, data, now⟩ now hopened.2 hspec.lookup
    rw [hopened.1] at hring
    exact ⟨Or.inr hring, hjoined⟩

/-! ## Visits -/

variable {ring : List ℕ}

theorem popped_members (hsound : state.RingSound)
    (hring : state.activeRing = connId :: ring) (other : ℕ) :
    other ∈ ((state.popRing ring).leaveRing connId).activeRingMembers ↔ other ∈ ring := by
  have hnodup := hsound.nodup
  have hmembers := hsound.members other
  rw [hring] at hnodup hmembers
  simp only [leaveRing, popRing, Finset.mem_erase]
  rw [hmembers, mem_cons]
  constructor
  · rintro ⟨hother, hsame | hin⟩
    · exact absurd hsame hother
    · exact hin
  · intro hin
    refine ⟨?_, Or.inr hin⟩
    rintro rfl
    exact (nodup_cons.mp hnodup).1 hin

theorem settleVisit_ring (state : WorkerFairnessState) (connId : ℕ) {visited : FlowEntry}
    {found : FlowEntry.Visit} (hvisit : VisitSpec old found visited)
    (hmembers : ∀ other, other ∈ state.activeRingMembers ↔ other ∈ state.activeRing) :
    (state.settleVisit connId visited found).2.activeRing =
        (if visited.queue = [] then state.activeRing
          else joined state.activeRing connId) ∧
      ∀ other, other ∈ (state.settleVisit connId visited found).2.activeRingMembers ↔
        other ∈ (state.settleVisit connId visited found).2.activeRing := by
  cases hvisit with
  | idle hempty hqueue =>
    rw [if_pos hqueue]
    exact ⟨rfl, hmembers⟩
  | skipped hsome hqueue =>
    rw [if_neg (hqueue ▸ hsome)]
    exact enqueueActiveConn_ring _ connId hmembers
  | @drained _ frame hqueue =>
    simp only [settleVisit]
    by_cases hempty : visited.queue = []
    · rw [if_pos (isEmpty_iff.mpr hempty), if_pos hempty]
      split <;> exact ⟨rfl, hmembers⟩
    · rw [if_neg (fun hnone => hempty (isEmpty_iff.mp hnone)), if_neg hempty]
      split <;> exact enqueueActiveConn_ring _ connId hmembers

theorem visitConn_ring (hsound : state.RingSound)
    (hring : state.activeRing = connId :: ring) (now : ℕ) :
    ((((state.popRing ring).leaveRing connId).visitConn connId now).2.activeRing = ring ∨
        (((state.popRing ring).leaveRing connId).visitConn connId now).2.activeRing =
          ring ++ [connId]) ∧
      (((state.popRing ring).leaveRing connId).visitConn connId now).2.RingSound := by
  have hmem : connId ∈ state.flows := hsound.known connId (by rw [hring]; exact mem_cons_self)
  obtain ⟨flow, hlookup⟩ := Option.isSome_iff_exists.mp (lookup_isSome.mpr hmem)
  have hnodup := hsound.nodup
  rw [hring] at hnodup
  have hout : connId ∉ ring := (nodup_cons.mp hnodup).1
  have hpopped : ((state.popRing ring).leaveRing connId).flows.lookup connId = some flow := hlookup
  have hmembers := popped_members hsound hring
  unfold visitConn
  rw [hpopped]
  dsimp only
  generalize hfound : flow.visit ((state.popRing ring).leaveRing connId).config
    ((state.popRing ring).leaveRing connId).pressure.state now = answer
  have hvisit : VisitSpec flow answer.1 answer.2 := hfound ▸ visit_spec _ _ now flow
  have hringed : FlowRinged (answer.2.queue ≠ []) answer.2 :=
    hfound ▸ FlowEntry.visit_ringed _ _ now flow
  obtain ⟨hsettled, hsame⟩ := settleVisit_ring
    (((state.popRing ring).leaveRing connId).putFlow connId flow answer.2) connId hvisit hmembers
  have hflows := settleVisit_flows
    (((state.popRing ring).leaveRing connId).putFlow connId flow answer.2) connId answer.2 answer.1
  by_cases hempty : answer.2.queue = []
  · rw [if_pos hempty] at hsettled
    refine ⟨Or.inl hsettled, hsound.put hflows ?_ hsame ?_ ?_⟩
    · rw [hsettled]
      exact (nodup_cons.mp hnodup).2
    · intro other hother
      rw [hsettled, hring, mem_cons, or_iff_right hother]
      rfl
    · have hleft : (connId ∈ ring) = (answer.2.queue ≠ []) :=
        propext ⟨fun hin => absurd hin hout, fun hqueued => absurd hempty hqueued⟩
      rw [hsettled]
      exact hleft ▸ hringed
  · have hback : joined ring connId = ring ++ [connId] := if_neg hout
    rw [if_neg hempty] at hsettled
    have hsettledRing := hsettled.trans hback
    refine ⟨Or.inr hsettledRing, hsound.put hflows ?_ hsame ?_ ?_⟩
    · rw [hsettled]
      exact joined_nodup (nodup_cons.mp hnodup).2 connId
    · intro other hother
      rw [hsettledRing, hring, mem_append, mem_singleton, mem_cons,
        or_iff_left hother, or_iff_right hother]
    · rw [hsettledRing]
      exact .of_flag (mem_append_right ring mem_cons_self) (hringed.flag.mpr hempty) hringed.solvent

def visitedRing : ℕ → WorkerFairnessState → ℕ → List ℕ
  | 0, _, _ => []
  | rounds + 1, state, now =>
    match state.activeRing with
    | [] => []
    | connId :: ring =>
      if connId ∈ state.activeRingMembers then
        connId ::
          match ((state.popRing ring).leaveRing connId).visitConn connId now with
          | (some _, _) => []
          | (none, state) => visitedRing rounds state now
      else visitedRing rounds (state.popRing ring) now

def visits (state : WorkerFairnessState) : Op → List ℕ
  | .dispatch now _ _ =>
    visitedRing state.activeRing.length (state.countRound.evaluatePressure now false) now
  | .enqueueData _ _ _ _ | .removeFlow _ | .setBackpressureEnabled _ _ => []

def visitLog (state : WorkerFairnessState) : List Op → List ℕ
  | [] => []
  | op :: ops => state.visits op ++ (state.step op).visitLog ops

theorem visitRing_ring (rounds : ℕ) (hsound : state.RingSound) :
    (visitRing rounds state now).2.RingSound := by
  induction rounds generalizing state with
  | zero => exact hsound
  | succ rounds ih =>
    unfold visitRing
    cases hring : state.activeRing with
    | nil => exact hsound
    | cons connId ring =>
      have hmember : connId ∈ state.activeRingMembers := by
        rw [hsound.members, hring]
        exact mem_cons_self
      have hvisit := (visitConn_ring hsound hring now).2
      dsimp only
      rw [if_pos hmember]
      cases hanswer : ((state.popRing ring).leaveRing connId).visitConn connId now with
      | mk found next =>
        rw [hanswer] at hvisit
        cases found with
        | none => exact ih hvisit
        | some candidate => exact hvisit

theorem nextDecision_ring (hsound : state.RingSound) (now : ℕ) :
    (state.nextDecision now).2.RingSound :=
  visitRing_ring _ (hsound.congr rfl rfl rfl)

theorem removeFlow_ring (hsound : state.RingSound) (connId : ℕ) :
    (state.removeFlow connId).activeRing = state.activeRing.filter (fun queued => queued ≠ connId) ∧
      (state.removeFlow connId).RingSound := by
  unfold removeFlow
  cases hlookup : state.flows.lookup connId with
  | none =>
    have hkept : state.activeRing.filter (fun queued => queued ≠ connId) =
        state.activeRing := by
      apply filter_eq_self.mpr
      intro queued hqueued
      apply decide_eq_true
      rintro rfl
      exact lookup_eq_none.mp hlookup (hsound.known queued hqueued)
    exact ⟨hkept.symm, hsound⟩
  | some entry =>
    refine ⟨rfl, hsound.nodup.filter _, ?_, ?_, ?_⟩
    · intro other
      simp only [releaseBytes, Finset.mem_erase, mem_filter, decide_eq_true_eq]
      rw [hsound.members, and_comm]
    · intro other hother
      simp only [releaseBytes, mem_filter, decide_eq_true_eq] at hother ⊢
      exact mem_erase.mpr ⟨hother.2, hsound.known other hother.1⟩
    · intro other flow hflow
      obtain ⟨hother, hbefore⟩ := Table.lookup_erase_some hflow
      have hin : (other ∈ state.activeRing.filter fun queued => queued ≠ connId) =
          (other ∈ state.activeRing) := by
        simp [hother]
      simp only [releaseBytes]
      rw [hin]
      exact hsound.flow other flow hbefore

theorem stallFrame_ring (now : ℕ) (hsound : state.RingSound)
    (hlookup : state.flows.lookup connId = some flow) :
    ((state.stallFrame connId flow frame now).activeRing = state.activeRing ∨
        (state.stallFrame connId flow frame now).activeRing = joined state.activeRing connId) ∧
      (state.stallFrame connId flow frame now).RingSound := by
  have hflow := hsound.flow connId flow hlookup
  have hnoted := FlowEntry.noteStall_ringed state.config hflow
  unfold stallFrame
  split
  · exact ⟨Or.inl rfl, hsound.keep rfl rfl rfl (FlowEntry.classify_ringed _ _ _ hnoted)⟩
  · have hcharged : (state.chargeBytes flow.fairness.bucketId frame.queuedBytes).RingSound :=
      hsound.congr rfl rfl rfl
    have hsolvent : 0 ≤ (((flow.noteStall state.config).pushFront frame).classify state.config
        state.pressure.state now).fairness.deficitBytes := classifyFlow_solvent _ _ _ hnoted.solvent
    obtain ⟨hring, hjoined⟩ := hcharged.join hlookup rfl hsolvent
    exact ⟨Or.inr hring, hjoined⟩

theorem noteRouteStall_ring (hsound : state.RingSound) (now : ℕ) :
    (state.noteRouteStall now).activeRing = state.activeRing ∧
      (state.noteRouteStall now).RingSound := by
  unfold noteRouteStall
  split
  · exact ⟨rfl, hsound.congr rfl rfl rfl⟩
  · exact ⟨rfl, hsound⟩

/-- The ring after the feedback for a frame of a connection: the connection may have gone
to the back, and it may have been taken out. -/
inductive FeedbackRing (ring : List ℕ) (connId : ℕ) : List ℕ → Prop where
  | kept : FeedbackRing ring connId ring
  | joined : FeedbackRing ring connId (joined ring connId)
  | left : FeedbackRing ring connId (ring.filter fun queued => queued ≠ connId)
  | joinedLeft :
      FeedbackRing ring connId ((Fairness.joined ring connId).filter fun queued => queued ≠ connId)

theorem feedbackQueueFull_ring (now : ℕ) (hsound : state.RingSound) :
    FeedbackRing state.activeRing connId (state.feedbackQueueFull connId frame now).2.activeRing ∧
      (state.feedbackQueueFull connId frame now).2.RingSound := by
  obtain ⟨hring, hnoted⟩ := noteRouteStall_ring hsound now
  unfold feedbackQueueFull
  rw [← hring]
  dsimp only
  cases hlookup : (state.noteRouteStall now).flows.lookup connId with
  | none => exact ⟨.kept, hnoted.congr rfl rfl rfl⟩
  | some flow =>
    obtain ⟨hstalled, hsoundStalled⟩ := stallFrame_ring frame now hnoted hlookup
    obtain ⟨hleft, hremoved⟩ := removeFlow_ring hsoundStalled connId
    dsimp only
    split
    · refine ⟨?_, hremoved.congr rfl rfl rfl⟩
      simp only [evaluatePressure]
      rw [hleft]
      rcases hstalled with hsame | hjoined
      · rw [hsame]
        exact .left
      · rw [hjoined]
        exact .joinedLeft
    · refine ⟨?_, hsoundStalled.nodup, hsoundStalled.members, hsoundStalled.known,
        hsoundStalled.flow⟩
      simp only [evaluatePressure]
      rcases hstalled with hsame | hjoined
      · rw [hsame]
        exact .kept
      · rw [hjoined]
        exact .joined

theorem applyDispatchFeedback_ring (candidate : DispatchCandidate)
    (feedback : DispatchFeedback) (now : ℕ) (hsound : state.RingSound) :
    FeedbackRing state.activeRing connId
        (state.applyDispatchFeedback connId candidate feedback now).2.activeRing ∧
      (state.applyDispatchFeedback connId candidate feedback now).2.RingSound := by
  obtain ⟨hleft, hremoved⟩ := removeFlow_ring hsound connId
  have hclosed : FeedbackRing state.activeRing connId (state.removeFlow connId).activeRing := by
    rw [hleft]
    exact .left
  cases feedback with
  | routed =>
    simp only [applyDispatchFeedback, feedbackRouted]
    cases hlookup : state.flows.lookup connId with
    | none => exact ⟨.kept, hsound.congr rfl rfl rfl⟩
    | some flow =>
      exact ⟨.kept, hsound.keep rfl rfl rfl
        (FlowEntry.noteRouted_ringed _ _ _ _ (hsound.flow connId flow hlookup))⟩
  | queueFull => exact feedbackQueueFull_ring candidate.frame now hsound
  | channelClosed | noConn =>
    exact ⟨hclosed, hremoved.congr rfl rfl rfl⟩

/-! ## Runs -/

theorem ringSound_new (config : WorkerFairnessConfig) (start : ℕ) :
    (WorkerFairnessState.new config start).RingSound := by
  refine ⟨nodup_nil, fun _ => by simp [WorkerFairnessState.new], ?_, ?_⟩
  · intro connId hmember
    cases hmember
  · intro connId flow hlookup
    cases hlookup

/-- Every operation keeps the ring without repetitions and every flow with frames in it. -/
theorem RingSound.step (hsound : state.RingSound) (op : Op) : (state.step op).RingSound := by
  cases op with
  | enqueueData connId flags data now => exact (enqueueData_ring hsound connId flags data now).2
  | dispatch now feedback feedbackAt =>
    have hnext := nextDecision_ring hsound now
    simp only [WorkerFairnessState.step, dispatch]
    cases hanswer : state.nextDecision now with
    | mk decision next =>
      rw [hanswer] at hnext
      cases decision with
      | idle => exact hnext
      | dispatch candidate =>
        exact (applyDispatchFeedback_ring candidate feedback feedbackAt hnext).2
  | removeFlow connId => exact (removeFlow_ring hsound connId).2
  | setBackpressureEnabled enabled now =>
    simp only [WorkerFairnessState.step, setBackpressureEnabled]
    split
    · exact hsound
    · exact hsound.congr rfl rfl rfl

/-- The ring, its members and the flags of the flows agree along every run. -/
theorem ringSound_run (hsound : state.RingSound) (ops : List Op) : (state.run ops).RingSound := by
  induction ops generalizing state with
  | nil => exact hsound
  | cons op ops ih => exact ih (hsound.step op)

theorem RingSound.empty_of_ring (hsound : state.RingSound) (hring : state.activeRing = []) :
    state.Empty := by
  intro connId
  cases hlookup : state.flows.lookup connId with
  | none => exact queueOf_notMem (lookup_eq_none.mp hlookup)
  | some flow =>
    rw [queueOf_of_lookup hlookup]
    by_contra hqueued
    have hin := (hsound.flow connId flow hlookup).queued hqueued
    rw [hring] at hin
    cases hin

theorem length_ring_le (hnodup : ring.Nodup)
    (hknown : ∀ connId ∈ ring, connId ∈ state.flows) : ring.length ≤ state.flows.keys.length :=
  (hnodup.subperm fun connId hconn => mem_keys.mp (hknown connId hconn)).length_le

end WorkerFairnessState
end TupoProxy.Fairness
