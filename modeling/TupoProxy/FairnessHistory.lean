import TupoProxy.FairnessLedger

/-!
# Histories of the fairness scheduler

A trace records when a frame is admitted and when it leaves the scheduler for
good.  It leaves by being routed, by being shed when its route is full, or by
being discarded with its flow.  For every connection the admitted frames are,
in order, the frames that left and then the frames that are still queued.
-/

namespace TupoProxy.Fairness

open List AList

inductive Fate where
  | routed
  | shed
  | discarded
  deriving Repr, DecidableEq

inductive FrameEvent where
  | admitted (frame : QueuedFrame)
  | settled (frame : QueuedFrame) (fate : Fate)
  deriving Repr, DecidableEq

namespace FrameEvent

def admitted? (connId : ℕ) : FrameEvent → Option QueuedFrame
  | .admitted frame => if frame.connId = connId then some frame else none
  | .settled _ _ => none

def settled? (connId : ℕ) : FrameEvent → Option (QueuedFrame × Fate)
  | .admitted _ => none
  | .settled frame fate => if frame.connId = connId then some (frame, fate) else none

end FrameEvent

def admittedFrames (connId : ℕ) (trace : List FrameEvent) : List QueuedFrame :=
  trace.filterMap (FrameEvent.admitted? connId)

def settledFrames (connId : ℕ) (trace : List FrameEvent) : List (QueuedFrame × Fate) :=
  trace.filterMap (FrameEvent.settled? connId)

def routedFrames (connId : ℕ) (trace : List FrameEvent) : List QueuedFrame :=
  ((settledFrames connId trace).filter fun entry => entry.2 = .routed).map Prod.fst

def discardAll (queue : List QueuedFrame) : List FrameEvent :=
  queue.map fun frame => .settled frame .discarded

theorem admittedFrames_append (connId : ℕ) (left right : List FrameEvent) :
    admittedFrames connId (left ++ right) =
      admittedFrames connId left ++ admittedFrames connId right :=
  filterMap_append

theorem settledFrames_append (connId : ℕ) (left right : List FrameEvent) :
    settledFrames connId (left ++ right) =
      settledFrames connId left ++ settledFrames connId right :=
  filterMap_append

theorem admittedFrames_discardAll (connId : ℕ) (queue : List QueuedFrame) :
    admittedFrames connId (discardAll queue) = [] := by
  induction queue with
  | nil => rfl
  | cons frame queue ih => exact ih

theorem settledFrames_discardAll {connId : ℕ} {queue : List QueuedFrame}
    (howned : ∀ frame ∈ queue, frame.connId = connId) (other : ℕ) :
    (settledFrames other (discardAll queue)).map Prod.fst =
      if other = connId then queue else [] := by
  induction queue with
  | nil =>
    rw [ite_self]
    rfl
  | cons frame queue ih =>
    have hframe := howned frame mem_cons_self
    have hrest := ih fun queued hqueued =>
      howned queued (mem_cons_of_mem _ hqueued)
    by_cases hother : other = connId
    · have hkept : FrameEvent.settled? other (.settled frame .discarded) =
          some (frame, .discarded) := if_pos (hframe.trans hother.symm)
      rw [if_pos hother] at hrest ⊢
      simp only [settledFrames, discardAll, map_cons] at hrest ⊢
      rw [filterMap_cons_some hkept, map_cons, hrest]
    · have hdropped : FrameEvent.settled? other (.settled frame .discarded) = none :=
        if_neg fun hsame => hother (hsame.symm.trans hframe)
      rw [if_neg hother] at hrest ⊢
      simp only [settledFrames, discardAll, map_cons] at hrest ⊢
      rw [filterMap_cons_none hdropped, hrest]

namespace WorkerFairnessState

def feedbackEvents (state : WorkerFairnessState) (frame : QueuedFrame)
    (feedback : DispatchFeedback) (now : ℕ) : List FrameEvent :=
  match feedback with
  | .routed => [.settled frame .routed]
  | .queueFull =>
    let state := state.noteRouteStall now
    match state.flows.lookup frame.connId with
    | none => []
    | some flow =>
      let stalled := state.stallFrame frame.connId flow frame now
      let shed :=
        if (flow.noteStall state.config).shouldShedFrame state.config
            state.pressure.state then
          [FrameEvent.settled frame .shed]
        else []
      let closed :=
        if state.shouldCloseFlow flow then discardAll (stalled.queueOf frame.connId)
        else []
      shed ++ closed
  | .channelClosed | .noConn => discardAll (frame :: state.queueOf frame.connId)

def events (state : WorkerFairnessState) : Op → List FrameEvent
  | .enqueueData connId flags data now =>
    if (state.enqueueData connId flags data now).1 = .admitted then
      [.admitted ⟨connId, flags, data, now⟩]
    else []
  | .dispatch now feedback feedbackAt =>
    match state.nextDecision now with
    | (.idle, _) => []
    | (.dispatch candidate, state) =>
      state.feedbackEvents candidate.frame feedback feedbackAt
  | .removeFlow connId => discardAll (state.queueOf connId)
  | .setBackpressureEnabled _ _ => []

def trace (state : WorkerFairnessState) : List Op → List FrameEvent
  | [] => []
  | op :: ops => state.events op ++ (state.step op).trace ops

/-- The queues before, with the frames admitted meanwhile, are the frames that
left and then the queues after. -/
def Balanced (before : WorkerFairnessState) (events : List FrameEvent)
    (after : WorkerFairnessState) : Prop :=
  ∀ connId, before.queueOf connId ++ admittedFrames connId events =
    (settledFrames connId events).map Prod.fst ++ after.queueOf connId

variable {before after : WorkerFairnessState} {frame : QueuedFrame}

theorem Balanced.of_queues (hqueues : ∀ connId, after.queueOf connId = before.queueOf connId) :
    Balanced before [] after := by
  intro connId
  rw [hqueues connId]
  exact append_nil _

theorem Balanced.append {middle : WorkerFairnessState} {left right : List FrameEvent}
    (hleft : Balanced before left middle) (hright : Balanced middle right after) :
    Balanced before (left ++ right) after := by
  intro connId
  rw [admittedFrames_append, settledFrames_append, map_append, ← append_assoc,
    hleft connId, append_assoc, hright connId, append_assoc]

variable {state : WorkerFairnessState} {connId now : ℕ}

/-! ## Admission and removal -/

variable {flow : FlowEntry}

theorem OpenSpec.queueOf {next : WorkerFairnessState}
    (hspec : OpenSpec state connId flow next) (other : ℕ) :
    next.queueOf other = state.queueOf other := by
  by_cases hother : other = connId
  · subst hother
    rw [queueOf_of_lookup hspec.lookup]
    rcases hspec.entry with ⟨old, hlookup, hqueue, -⟩ | ⟨hlookup, hqueue, -⟩
    · rw [queueOf_of_lookup hlookup, hqueue]
    · rw [hqueue, WorkerFairnessState.queueOf, hlookup]
      rfl
  · rw [WorkerFairnessState.queueOf, hspec.others other hother]
    rfl

theorem admitFrame_queueOf (flow : FlowEntry) (frame : QueuedFrame) (other : ℕ) :
    (state.admitFrame connId flow frame now).queueOf other =
      if other = connId then flow.queue ++ [frame] else state.queueOf other :=
  queueOf_insert state _ (admitFrame_flows state connId flow frame now) other

theorem enqueueData_balanced (state : WorkerFairnessState) (connId flags : ℕ)
    (data : List Byte) (now : ℕ) :
    Balanced state (state.events (.enqueueData connId flags data now))
      (state.enqueueData connId flags data now).2 := by
  have hexit := enqueueData_exit state connId flags data now
  have hopen := openFlow_spec state connId (state.config.weightForFlags flags)
  simp only [events]
  generalize state.enqueueData connId flags data now = answer at hexit ⊢
  cases hexit with
  | saturated => exact Balanced.of_queues fun _ => rfl
  | refused hdecision =>
    split
    · next hadmitted => exact absurd hadmitted hdecision
    · exact Balanced.of_queues fun _ => rfl
  | refusedOpen hdecision =>
    split
    · next hadmitted => exact absurd hadmitted hdecision
    · exact Balanced.of_queues hopen.queueOf
  | admitted =>
    intro other
    have hsame := hopen.queueOf other
    rw [admitFrame_queueOf]
    by_cases hother : other = connId
    · subst hother
      rw [queueOf_of_lookup hopen.lookup] at hsame
      simp [admittedFrames, settledFrames, FrameEvent.admitted?, FrameEvent.settled?, hsame]
    · simp [admittedFrames, settledFrames, FrameEvent.admitted?, FrameEvent.settled?,
        hother, Ne.symm hother, hsame]

theorem removeFlow_notMem (state : WorkerFairnessState) (connId : ℕ) :
    connId ∉ (state.removeFlow connId).flows := by
  unfold removeFlow
  cases hlookup : state.flows.lookup connId with
  | none => exact lookup_eq_none.mp hlookup
  | some entry => exact fun hmem => (mem_erase.mp hmem).1 rfl

theorem queueOf_notMem (hmem : connId ∉ state.flows) : state.queueOf connId = [] := by
  rw [queueOf, lookup_eq_none.mpr hmem]
  rfl

theorem removeFlow_queueOf (state : WorkerFairnessState) (connId other : ℕ) :
    (state.removeFlow connId).queueOf other =
      if other = connId then [] else state.queueOf other := by
  by_cases hother : other = connId
  · rw [if_pos hother, hother]
    exact queueOf_notMem (removeFlow_notMem state connId)
  · rw [if_neg hother]
    unfold removeFlow
    cases hlookup : state.flows.lookup connId with
    | none => rfl
    | some entry =>
      simp only [queueOf, releaseBytes]
      rw [lookup_erase_ne hother]

theorem Books.owned {busy : Option ℕ} (hbooks : Books busy state) (connId : ℕ) :
    ∀ frame ∈ state.queueOf connId, frame.connId = connId := by
  intro frame hframe
  cases hlookup : state.flows.lookup connId with
  | none =>
    rw [queueOf, hlookup] at hframe
    cases hframe
  | some flow =>
    rw [queueOf_of_lookup hlookup] at hframe
    exact (hbooks.flow_sound connId flow hlookup).owned frame hframe

theorem discardAll_balanced (howned : ∀ frame ∈ state.queueOf connId, frame.connId = connId)
    (hqueues : ∀ other, after.queueOf other = if other = connId then [] else state.queueOf other) :
    Balanced state (discardAll (state.queueOf connId)) after := by
  intro other
  rw [admittedFrames_discardAll, settledFrames_discardAll howned, hqueues]
  by_cases hother : other = connId <;> simp [hother]

theorem removeFlow_balanced (hbooks : Books none state) (connId : ℕ) :
    Balanced state (discardAll (state.queueOf connId)) (state.removeFlow connId) :=
  discardAll_balanced (Books.owned hbooks connId) (removeFlow_queueOf state connId)

/-- The queues while a frame is in flight: the frame still counts as the front
of its queue. -/
def InFlight (before : WorkerFairnessState) (frame : QueuedFrame)
    (after : WorkerFairnessState) : Prop :=
  ∀ connId, before.queueOf connId =
    if connId = frame.connId then frame :: after.queueOf connId else after.queueOf connId

variable {fate : Fate}

theorem routed_balanced (hflight : InFlight before frame after) :
    Balanced before [.settled frame fate] after := by
  intro connId
  rw [hflight connId]
  by_cases hconn : connId = frame.connId
  · simp [admittedFrames, settledFrames, FrameEvent.admitted?, FrameEvent.settled?, hconn]
  · simp [admittedFrames, settledFrames, FrameEvent.admitted?, FrameEvent.settled?, hconn,
      Ne.symm hconn]

theorem feedbackRouted_queueOf (state : WorkerFairnessState) (connId : ℕ)
    (frame : QueuedFrame) (now other : ℕ) :
    (state.feedbackRouted connId frame now).queueOf other = state.queueOf other := by
  unfold feedbackRouted
  cases hlookup : state.flows.lookup connId with
  | none => rfl
  | some flow =>
    have hflows : ((state.putFlow connId flow (flow.noteRouted state.config
        state.pressure.state now frame)).evaluatePressure now false).flows =
        state.flows.insert connId
          (flow.noteRouted state.config state.pressure.state now frame) := rfl
    rw [queueOf_insert state _ hflows other]
    split
    · next hother =>
      rw [hother, queueOf_of_lookup hlookup]
      rfl
    · rfl

theorem stallFrame_balanced (now : ℕ) (hflight : InFlight before frame state)
    (hlookup : state.flows.lookup frame.connId = some flow) :
    Balanced before
      (if (flow.noteStall state.config).shouldShedFrame state.config state.pressure.state
        then [.settled frame .shed] else [])
      (state.stallFrame frame.connId flow frame now) := by
  have hqueue := queueOf_of_lookup hlookup
  unfold stallFrame
  split
  · apply routed_balanced
    intro connId
    have hflows : (state.shedFrame frame.connId flow now).flows = state.flows.insert frame.connId
          ((flow.noteStall state.config).classify state.config state.pressure.state now) := rfl
    have hnoted : ((flow.noteStall state.config).classify state.config
        state.pressure.state now).queue = flow.queue := noteStall_queue _ _
    rw [hflight connId, queueOf_insert state _ hflows connId, hnoted]
    split
    · next hconn => rw [hconn, hqueue]
    · rfl
  · apply Balanced.of_queues
    intro connId
    rw [queueOf_insert state _ (requeueFrame_flows _ _ _ _ _) connId, hflight connId]
    split
    · next hconn =>
      rw [hconn, hqueue, ← noteStall_queue state.config flow]
      rfl
    · rfl

section

variable (hflight : InFlight before frame state) (hbooks : Books (some frame.connId) state)
include hflight hbooks

theorem feedbackQueueFull_balanced (hmem : frame.connId ∈ state.flows) :
    Balanced before (state.feedbackEvents frame .queueFull now)
      (state.feedbackQueueFull frame.connId frame now).2 := by
  obtain ⟨flow, hlookup⟩ := Option.isSome_iff_exists.mp (lookup_isSome.mpr hmem)
  have hnoted : (state.noteRouteStall now).flows.lookup frame.connId = some flow := by
    rw [noteRouteStall_flows]
    exact hlookup
  have hflightNoted : InFlight before frame (state.noteRouteStall now) := by
    intro connId
    rw [queueOf_congr (noteRouteStall_flows state now) connId]
    exact hflight connId
  have hstalled : Books none ((state.noteRouteStall now).stallFrame frame.connId flow frame now) :=
    books_stallFrame (books_noteRouteStall hbooks) hnoted rfl
  have hstall := stallFrame_balanced now hflightNoted hnoted
  unfold feedbackQueueFull feedbackEvents
  simp only [hnoted]
  by_cases hclose : (state.noteRouteStall now).shouldCloseFlow flow
  · simp only [if_pos hclose]
    exact hstall.append (removeFlow_balanced hstalled frame.connId)
  · simp only [if_neg hclose, append_nil]
    exact hstall

theorem closed_balanced :
    Balanced before (discardAll (frame :: state.queueOf frame.connId))
      (state.removeFlow frame.connId) := by
  have hqueue : before.queueOf frame.connId = frame :: state.queueOf frame.connId := by
    rw [hflight frame.connId, if_pos rfl]
  rw [← hqueue]
  apply discardAll_balanced
  · intro queued hqueued
    rw [hqueue] at hqueued
    rcases mem_cons.mp hqueued with rfl | hin
    · rfl
    · exact Books.owned hbooks frame.connId queued hin
  · intro other
    rw [removeFlow_queueOf, hflight other]
    split <;> rfl

end

theorem applyDispatchFeedback_balanced {candidate : DispatchCandidate}
    (hflight : InFlight before candidate.frame state)
    (hbooks : Books (some candidate.frame.connId) state)
    (hmem : candidate.frame.connId ∈ state.flows) (feedback : DispatchFeedback) :
    Balanced before (state.feedbackEvents candidate.frame feedback now)
      (state.applyDispatchFeedback candidate.frame.connId candidate feedback now).2 := by
  cases feedback with
  | routed =>
    apply routed_balanced
    intro connId
    simp only [applyDispatchFeedback, feedbackRouted_queueOf]
    exact hflight connId
  | queueFull => exact feedbackQueueFull_balanced hflight hbooks hmem
  | channelClosed | noConn => exact closed_balanced hflight hbooks

theorem dispatch_balanced (hbooks : Books none state) (feedback : DispatchFeedback)
    (feedbackAt : ℕ) :
    Balanced state (state.events (.dispatch now feedback feedbackAt))
      (state.dispatch now feedback feedbackAt) := by
  have hspec := nextDecision_spec now hbooks
  unfold dispatch
  simp only [events]
  generalize state.nextDecision now = answer at hspec ⊢
  obtain ⟨decision, next⟩ := answer
  cases hspec with
  | idle hqueues hnext => exact Balanced.of_queues hqueues
  | dispatch hmem hqueue hothers hnext =>
    apply applyDispatchFeedback_balanced _ hnext hmem feedback
    intro connId
    split
    · next hconn =>
      rw [hconn]
      exact hqueue
    · next hconn => exact (hothers connId hconn).symm

/-! ## Runs -/

/-- One operation: what is admitted is settled or still queued, in order. -/
theorem step_balanced (hbooks : Books none state) (op : Op) :
    Balanced state (state.events op) (state.step op) := by
  cases op with
  | enqueueData connId flags data now =>
    exact enqueueData_balanced state connId flags data now
  | dispatch now feedback feedbackAt => exact dispatch_balanced hbooks feedback feedbackAt
  | removeFlow connId => exact removeFlow_balanced hbooks connId
  | setBackpressureEnabled enabled now =>
    apply Balanced.of_queues
    intro connId
    simp only [step, setBackpressureEnabled]
    split <;> rfl

theorem run_balanced (hbooks : Books none state) (ops : List Op) :
    Balanced state (state.trace ops) (state.run ops) := by
  induction ops generalizing state with
  | nil => exact Balanced.of_queues fun _ => rfl
  | cons op ops ih => exact (step_balanced hbooks op).append (ih (books_step hbooks op))

def hasBacklog (state : WorkerFairnessState) : Bool :=
  state.flows.keys.any fun connId => !(state.queueOf connId).isEmpty

theorem hasBacklog_iff (state : WorkerFairnessState) :
    state.hasBacklog = true ↔ ∃ connId, state.queueOf connId ≠ [] := by
  simp only [hasBacklog, any_eq_true, Bool.not_eq_true', isEmpty_eq_false_iff]
  constructor
  · rintro ⟨connId, -, hqueue⟩
    exact ⟨connId, hqueue⟩
  · rintro ⟨connId, hqueue⟩
    refine ⟨connId, ?_, hqueue⟩
    by_contra hout
    exact hqueue (queueOf_notMem fun hmem => hout (mem_keys.mp hmem))

def Empty (state : WorkerFairnessState) : Prop := ∀ connId, state.queueOf connId = []

theorem empty_iff (state : WorkerFairnessState) : state.Empty ↔ state.hasBacklog = false := by
  have hiff := hasBacklog_iff state
  rw [← Bool.not_eq_true, hiff]
  push Not
  rfl

theorem Empty.of_balanced {events : List FrameEvent} (hempty : before.Empty)
    (hbalanced : Balanced before events after)
    (hadmitted : ∀ connId, admittedFrames connId events = []) : after.Empty := by
  intro connId
  have hqueues := hbalanced connId
  rw [hempty connId, hadmitted connId, append_nil] at hqueues
  exact (append_eq_nil_iff.mp hqueues.symm).2

section

variable (state : WorkerFairnessState)

theorem admittedFrames_removeFlow (connId other : ℕ) :
    admittedFrames other (state.events (.removeFlow connId)) = [] :=
  admittedFrames_discardAll other _

theorem admittedFrames_feedback (frame : QueuedFrame)
    (feedback : DispatchFeedback) (now other : ℕ) :
    admittedFrames other (state.feedbackEvents frame feedback now) = [] := by
  cases feedback with
  | routed => rfl
  | queueFull =>
    unfold feedbackEvents
    dsimp only
    split
    · rfl
    · rw [admittedFrames_append]
      have hshed : ∀ shed : Bool, admittedFrames other
          (if shed then [FrameEvent.settled frame .shed] else []) = [] := by
        intro shed
        cases shed <;> rfl
      rw [hshed, nil_append]
      split
      · exact admittedFrames_discardAll other _
      · rfl
  | channelClosed | noConn => exact admittedFrames_discardAll other _

theorem admittedFrames_dispatch (now : ℕ) (feedback : DispatchFeedback) (feedbackAt other : ℕ) :
    admittedFrames other (state.events (.dispatch now feedback feedbackAt)) = [] := by
  simp only [events]
  split
  · rfl
  · exact admittedFrames_feedback _ _ _ _ _

end

/-- The rule under which a frame with a full route is shed, in the state that
the decision left. -/
def ShedRule (state : WorkerFairnessState) (connId : ℕ) : Prop :=
  ∃ flow, state.flows.lookup connId = some flow ∧
    state.config.backpressureEnabled = true ∧
    (state.pressure.state = .saturated ∨
      (state.pressure.state = .shedding ∧ flow.fairness.standingState = .standing ∧
        state.config.maxConsecutiveStallsBeforeShed ≤
          satAdd u8Max flow.fairness.consecutiveStalls 1))

/-- The operation that may give a frame its fate. -/
def Explains (state : WorkerFairnessState) (op : Op) (frame : QueuedFrame) : Fate → Prop
  | .routed => ∃ now feedbackAt candidate next,
      op = .dispatch now .routed feedbackAt ∧
        state.nextDecision now = (.dispatch candidate, next) ∧ candidate.frame = frame
  | .shed => ∃ now feedbackAt candidate next,
      op = .dispatch now .queueFull feedbackAt ∧
        state.nextDecision now = (.dispatch candidate, next) ∧
        candidate.frame = frame ∧ next.ShedRule frame.connId
  | .discarded => frame.connId ∉ (state.step op).flows

theorem noteRouteStall_config (state : WorkerFairnessState) (now : ℕ) :
    (state.noteRouteStall now).config = state.config := by
  unfold noteRouteStall
  split <;> rfl

theorem noteRouteStall_pressure (state : WorkerFairnessState) (now : ℕ) :
    (state.noteRouteStall now).pressure.state = state.pressure.state := by
  unfold noteRouteStall
  split
  · simp only [PressureEvaluator.noteRouteStall, PressureEvaluator.rotateWindowIfNeeded]
    split <;> rfl
  · rfl

theorem shedRule_of_shouldShedFrame (hlookup : state.flows.lookup connId = some flow)
    (hshed : (flow.noteStall state.config).shouldShedFrame state.config
      state.pressure.state = true) : state.ShedRule connId := by
  simp only [FlowEntry.shouldShedFrame, Bool.and_eq_true, Bool.or_eq_true,
    decide_eq_true_eq] at hshed
  obtain ⟨henabled, hstate⟩ := hshed
  refine ⟨flow, hlookup, henabled, hstate.imp_right ?_⟩
  rintro ⟨⟨hshedding, hstanding⟩, hstalls⟩
  simp only [FlowEntry.noteStall, henabled, if_true] at hstanding hstalls
  exact ⟨hshedding, hstanding, hstalls⟩

theorem mem_discardAll {queue : List QueuedFrame}
    (hmem : FrameEvent.settled frame fate ∈ discardAll queue) :
    frame ∈ queue ∧ fate = .discarded := by
  obtain ⟨queued, hqueued, heq⟩ := mem_map.mp hmem
  cases heq
  exact ⟨hqueued, rfl⟩

variable {candidate : QueuedFrame}

theorem feedbackQueueFull_fate
    (hbooks : Books (some candidate.connId) state) (hflow : candidate.connId ∈ state.flows)
    (hmem : FrameEvent.settled frame fate ∈ state.feedbackEvents candidate .queueFull now) :
    (fate = .shed ∧ frame = candidate ∧ state.ShedRule candidate.connId) ∨ (fate = .discarded ∧
        frame.connId ∉ (state.feedbackQueueFull candidate.connId candidate now).2.flows) := by
  obtain ⟨flow, hlookup⟩ := Option.isSome_iff_exists.mp (lookup_isSome.mpr hflow)
  have hnoted : (state.noteRouteStall now).flows.lookup candidate.connId = some flow := by
    rw [noteRouteStall_flows]
    exact hlookup
  have hstalled : Books none
      ((state.noteRouteStall now).stallFrame candidate.connId flow candidate now) :=
    books_stallFrame (books_noteRouteStall hbooks) hnoted rfl
  simp only [feedbackEvents, hnoted] at hmem
  rcases mem_append.mp hmem with hshed | hclosed
  · by_cases hrule : (flow.noteStall (state.noteRouteStall now).config).shouldShedFrame
        (state.noteRouteStall now).config (state.noteRouteStall now).pressure.state
    · rw [if_pos hrule, mem_singleton] at hshed
      cases hshed
      rw [noteRouteStall_config, noteRouteStall_pressure] at hrule
      exact Or.inl ⟨rfl, rfl, shedRule_of_shouldShedFrame hlookup hrule⟩
    · rw [if_neg hrule] at hshed
      cases hshed
  · by_cases hclose : (state.noteRouteStall now).shouldCloseFlow flow
    · rw [if_pos hclose] at hclosed
      obtain ⟨hqueued, hfate⟩ := mem_discardAll hclosed
      have hconn := Books.owned hstalled candidate.connId frame hqueued
      refine Or.inr ⟨hfate, ?_⟩
      simp only [feedbackQueueFull, hnoted, if_pos hclose, hconn]
      exact removeFlow_notMem _ _
    · rw [if_neg hclose] at hclosed
      cases hclosed

theorem closed_fate
    (hbooks : Books (some candidate.connId) state) (hmem : FrameEvent.settled frame fate ∈
      discardAll (candidate :: state.queueOf candidate.connId)) :
    fate = .discarded ∧ frame.connId ∉ (state.removeFlow candidate.connId).flows := by
  obtain ⟨hqueued, hfate⟩ := mem_discardAll hmem
  have hconn : frame.connId = candidate.connId := by
    rcases mem_cons.mp hqueued with rfl | hin
    · rfl
    · exact Books.owned hbooks candidate.connId frame hin
  rw [hconn]
  exact ⟨hfate, removeFlow_notMem _ _⟩

theorem dispatch_explains (hbooks : Books none state) {feedback : DispatchFeedback}
    {feedbackAt : ℕ} (hmem : FrameEvent.settled frame fate ∈
      state.events (.dispatch now feedback feedbackAt)) :
    state.Explains (.dispatch now feedback feedbackAt) frame fate := by
  have hspec := nextDecision_spec now hbooks
  simp only [events] at hmem
  cases hanswer : state.nextDecision now with
  | mk decision next =>
    rw [hanswer] at hspec hmem
    cases hspec with
    | idle hqueues hnext => cases hmem
    | @dispatch _ candidate hflow hqueue hothers hnext =>
      have hstep : state.step (.dispatch now feedback feedbackAt) =
          (next.applyDispatchFeedback candidate.frame.connId candidate feedback feedbackAt).2 := by
        simp only [step, dispatch, hanswer]
      cases feedback with
      | routed =>
        cases mem_singleton.mp hmem
        exact ⟨now, feedbackAt, candidate, next, rfl, hanswer, rfl⟩
      | queueFull =>
        rcases feedbackQueueFull_fate hnext hflow hmem with ⟨rfl, rfl, hrule⟩ | ⟨rfl, hgone⟩
        · exact ⟨now, feedbackAt, candidate, next, rfl, hanswer, rfl, hrule⟩
        · rw [Explains, hstep]
          exact hgone
      | channelClosed | noConn =>
        obtain ⟨rfl, hgone⟩ := closed_fate hnext hmem
        rw [Explains, hstep]
        exact hgone

/-- A frame leaves only by a rule that its fate names. -/
theorem step_explains (hbooks : Books none state) {op : Op}
    (hmem : FrameEvent.settled frame fate ∈ state.events op) : state.Explains op frame fate := by
  cases op with
  | enqueueData connId flags data now =>
    simp only [events] at hmem
    split at hmem
    · cases mem_singleton.mp hmem
    · cases hmem
  | dispatch now feedback feedbackAt => exact dispatch_explains hbooks hmem
  | removeFlow connId =>
    obtain ⟨hqueued, rfl⟩ := mem_discardAll hmem
    rw [Explains, Books.owned hbooks connId frame hqueued]
    exact removeFlow_notMem _ _
  | setBackpressureEnabled enabled now => cases hmem

/-- For every run and every connection, the admitted frames are the frames
that left, in the order in which they left, and then the queue.  So routed and
queued frames are in admission order and none is lost or repeated.  Every
frame that left was routed, was shed under the shedding rule, or was discarded
by an operation that removed its flow. -/
theorem run_history (config : WorkerFairnessConfig) (start : ℕ) (ops : List Op) :
    (∀ connId, admittedFrames connId ((new config start).trace ops) =
          (settledFrames connId ((new config start).trace ops)).map Prod.fst ++
            ((new config start).run ops).queueOf connId) ∧ (∀ connId,
        (routedFrames connId ((new config start).trace ops) ++
          ((new config start).run ops).queueOf connId).Sublist
            (admittedFrames connId ((new config start).trace ops))) ∧
      ∀ before op after, ops = before ++ op :: after → ∀ frame fate,
        .settled frame fate ∈ ((new config start).run before).events op →
          ((new config start).run before).Explains op frame fate := by
  have hbalanced := run_balanced (books_new config start) ops
  have hhistory : ∀ connId,
      admittedFrames connId ((new config start).trace ops) =
        (settledFrames connId ((new config start).trace ops)).map Prod.fst ++
          ((new config start).run ops).queueOf connId := by
    intro connId
    have hempty : (new config start).queueOf connId = [] := rfl
    rw [← hbalanced connId, hempty, nil_append]
  refine ⟨hhistory, ?_, ?_⟩
  · intro connId
    rw [hhistory connId]
    exact List.Sublist.append (filter_sublist.map Prod.fst) (List.Sublist.refl _)
  · intro before op after _ frame fate hmem
    exact step_explains (books_run (books_new config start) before) hmem

example :
    settledFrames 1
        ((new {} 0).trace
          [.enqueueData 1 0 [10] 0, .enqueueData 1 0 [11] 1, .dispatch 2 .queueFull 2,
            .dispatch 3 .routed 3, .removeFlow 1]) =
      [(⟨1, 0, [10], 0⟩, .routed), (⟨1, 0, [11], 1⟩, .discarded)] := by
  decide +kernel

end WorkerFairnessState
end TupoProxy.Fairness
