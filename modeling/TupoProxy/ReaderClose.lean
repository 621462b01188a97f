import TupoProxy.FairnessService
import TupoProxy.ReaderOrder

/-!
# Closes and the data before them

A close from the middle-end is put into the channel of its connection at once, and the
flow of the connection is removed from the scheduler.  So a close waits for no frame
that is still queued.  If every data frame is within the smallest quantum and no channel
stays full through all attempts, the drain after a data frame takes the frame out of the
scheduler again, and no close meets a queued frame.
-/

namespace TupoProxy.ReaderLoop

open Fairness WorkerFairnessState RpcCodec List

def ReaderEvent.scheduled? : ReaderEvent → Option FrameEvent
  | .scheduled event => some event
  | _ => none

def scheduledEvents (events : List ReaderEvent) : List FrameEvent :=
  events.filterMap ReaderEvent.scheduled?

theorem scheduledEvents_append (left right : List ReaderEvent) :
    scheduledEvents (left ++ right) = scheduledEvents left ++ scheduledEvents right :=
  filterMap_append

theorem scheduledEvents_scheduled (events : List FrameEvent) :
    scheduledEvents (events.map .scheduled) = events := by
  induction events with
  | nil => rfl
  | cons event events ih => exact congrArg (event :: ·) ih

theorem trace_concat (state : WorkerFairnessState) (ops : List Op) (op : Op) :
    state.trace (ops ++ [op]) = state.trace ops ++ (state.run ops).events op := by
  induction ops generalizing state with
  | nil => exact append_nil _
  | cons first ops ih =>
    simp only [cons_append, trace, ih, append_assoc]
    rfl

/-- The scheduler has run the recorded operations, and its events are the recorded ones. -/
structure Recorded (config : WorkerFairnessConfig) (now : ℕ) (routing : Routing) : Prop where
  state : routing.fairness = (new config now).run routing.ops
  trace : scheduledEvents routing.events = (new config now).trace routing.ops

namespace Recorded

variable {config : WorkerFairnessConfig} {now : ℕ} {routing : Routing}

section

variable (hrecorded : Recorded config now routing)
include hrecorded

theorem log {events : List ReaderEvent}
    (hnone : scheduledEvents events = []) : Recorded config now (routing.log events) := by
  refine ⟨hrecorded.state, ?_⟩
  simp only [Routing.log]
  rw [scheduledEvents_append, hnone, append_nil]
  exact hrecorded.trace

theorem applyOp (op : Op) : Recorded config now (routing.applyOp op) := by
  constructor
  · simp only [Routing.applyOp]
    rw [run_concat, ← hrecorded.state]
  · simp only [Routing.applyOp]
    rw [scheduledEvents_append, scheduledEvents_scheduled, trace_concat, hrecorded.trace,
      ← hrecorded.state]

theorem ringSound : routing.fairness.RingSound := by
  rw [hrecorded.state]
  exact ringSound_run (ringSound_new config now) routing.ops

theorem keepsLimits : routing.fairness.KeepsLimits config := by
  rw [hrecorded.state]
  exact keepsLimits_run (keepsLimits_new config now) routing.ops

theorem history (connId : ℕ) :
    admittedFrames connId (scheduledEvents routing.events) =
      (settledFrames connId (scheduledEvents routing.events)).map Prod.fst ++
        routing.fairness.queueOf connId := by
  rw [hrecorded.trace, hrecorded.state]
  exact (run_history config now routing.ops).1 connId

end

end Recorded

theorem recorded_kept (fairshareEnabled : Bool) (config : WorkerFairnessConfig) (now : ℕ) :
    Kept fairshareEnabled (Recorded config now) where
  move routing next hrecorded hmove := by
    cases hmove with
    | quiet hfairness hops hevents =>
      refine ⟨?_, ?_⟩
      · rw [hfairness, hops]
        exact hrecorded.state
      · rw [hevents, hops]
        exact hrecorded.trace
    | acked | unregistered | closeSent | received | delivered => exact hrecorded.log rfl
    | removed | dispatched | switched => exact hrecorded.applyOp _
    | offered hfair connId flags data now =>
      exact Recorded.applyOp (hrecorded.log rfl) _
  close _ _ hrecorded := hrecorded.log rfl

theorem recorded_start (config : WorkerFairnessConfig) (now : ℕ) (dec : List Byte) :
    Recorded config now (ReaderState.start config now dec).routing :=
  ⟨rfl, rfl⟩

variable {fairshareEnabled : Bool} {routing next : Routing}

theorem Move.events (hmove : Move fairshareEnabled routing next) :
    ∃ more, next.events = routing.events ++ more ∧ ∀ connId, .closeDelivered connId ∉ more := by
  have hscheduled : ∀ (events : List FrameEvent) (connId : ℕ),
      .closeDelivered connId ∉ events.map ReaderEvent.scheduled := by
    intro events connId hmem
    obtain ⟨event, -, heq⟩ := mem_map.mp hmem
    cases heq
  cases hmove with
  | quiet hfairness hops hevents => exact ⟨[], by rw [hevents, append_nil], by simp⟩
  | acked | unregistered | closeSent | received | delivered => exact ⟨_, rfl, by simp⟩
  | removed | dispatched | switched => exact ⟨_, rfl, hscheduled _⟩
  | offered hfair connId flags data now =>
    refine ⟨_, append_assoc _ _ _, fun other hmem => ?_⟩
    rcases mem_append.mp hmem with hreceived | hlater
    · simp at hreceived
    · exact hscheduled _ other hlater

theorem Move.ops (hmove : Move fairshareEnabled routing next) : routing.ops <+: next.ops := by
  cases hmove with
  | quiet hfairness hops hevents => rw [hops]
  | acked | unregistered | closeSent | received | delivered => exact prefix_rfl
  | removed | dispatched | switched | offered => exact prefix_append _ _

/-- The records of the second routing start with those of the first. -/
structure Extends (past routing : Routing) : Prop where
  events : past.events <+: routing.events
  ops : past.ops <+: routing.ops

theorem Extends.refl (routing : Routing) : Extends routing routing := ⟨prefix_rfl, prefix_rfl⟩

theorem extends_kept (fairshareEnabled : Bool) (past : Routing) :
    Kept fairshareEnabled (Extends past) where
  move routing next hpast hmove := by
    obtain ⟨more, hevents, -⟩ := hmove.events
    refine ⟨?_, hpast.ops.trans hmove.ops⟩
    rw [hevents]
    exact hpast.events.trans (prefix_append _ _)
  close _ _ hpast := ⟨hpast.events.trans (prefix_append _ _), hpast.ops⟩

theorem extends_of_moves (hmoves : Moves fairshareEnabled routing next) : Extends routing next :=
  (extends_kept fairshareEnabled routing).moves (.refl routing) hmoves

def DataWithin (bytes : ℕ) (events : List ReaderEvent) : Prop :=
  ∀ connId flags data, .received connId flags data ∈ events → data.length ≤ bytes

/-- A data frame that found the channel of its client full in all attempts. -/
def foundFull : Op → Bool
  | .dispatch _ feedback _ => decide (feedback = .queueFull)
  | _ => false

def NeverFull (ops : List Op) : Prop := ∀ op ∈ ops, foundFull op = false

instance (ops : List Op) : Decidable (NeverFull ops) :=
  inferInstanceAs (Decidable (∀ op ∈ ops, _))

variable {bytes : ℕ}

structure Smooth (bytes : ℕ) (routing : Routing) : Prop where
  within : DataWithin bytes routing.events
  routed : NeverFull routing.ops

theorem Smooth.earlier {past : Routing} (hsmooth : Smooth bytes routing)
    (hpast : Extends past routing) : Smooth bytes past where
  within connId flags data hmem := hsmooth.within connId flags data (hpast.events.subset hmem)
  routed op hmem := hsmooth.routed op (hpast.ops.subset hmem)

/-- When a close was delivered, every frame of its connection that had been admitted had
left the scheduler. -/
def ClosesSettled (events : List ReaderEvent) : Prop :=
  ∀ before connId after, events = before ++ .closeDelivered connId :: after →
    admittedFrames connId (scheduledEvents before) =
      (settledFrames connId (scheduledEvents before)).map Prod.fst

theorem ClosesSettled.append {events more : List ReaderEvent} (hsettled : ClosesSettled events)
    (hnone : ∀ connId, .closeDelivered connId ∉ more) : ClosesSettled (events ++ more) := by
  intro before connId after hsplit
  rcases append_eq_append_iff.mp hsplit with ⟨middle, -, hmore⟩ | ⟨middle, hevents, hrest⟩
  · exact absurd (hmore ▸ mem_append_right middle mem_cons_self) (hnone connId)
  · cases middle with
    | nil =>
      rw [nil_append] at hrest
      exact absurd (hrest ▸ mem_cons_self) (hnone connId)
    | cons event middle =>
      obtain ⟨rfl, -⟩ := cons.inj hrest
      exact hsettled before connId middle hevents

theorem ClosesSettled.close {events : List ReaderEvent} {connId : ℕ}
    (hsettled : ClosesSettled events) (hnow : admittedFrames connId (scheduledEvents events) =
      (settledFrames connId (scheduledEvents events)).map Prod.fst) :
    ClosesSettled (events ++ [.closeDelivered connId]) := by
  intro before other after hsplit
  rcases append_eq_append_iff.mp hsplit with ⟨middle, hbefore, hmore⟩ | ⟨middle, hevents, hrest⟩
  · cases middle with
    | nil =>
      rw [append_nil] at hbefore
      cases hmore
      exact hbefore ▸ hnow
    | cons event middle =>
      have hlength := congrArg length hmore
      simp at hlength
  · cases middle with
    | nil =>
      rw [append_nil] at hevents
      cases hrest
      exact hevents ▸ hnow
    | cons event middle =>
      obtain ⟨rfl, -⟩ := cons.inj hrest
      exact hsettled before other middle hevents

theorem closesSettled_moves
    (hsettled : ClosesSettled routing.events) (hmoves : Moves fairshareEnabled routing next) :
    ClosesSettled next.events := by
  induction hmoves with
  | refl => exact hsettled
  | tail _ hmove ih =>
    obtain ⟨more, hevents, hnone⟩ := hmove.events
    rw [hevents]
    exact ih.append hnone

/-! ## A scheduler with at most one frame -/

def Light (bytes : ℕ) (state : WorkerFairnessState) : Prop :=
  state.Empty ∨ ∃ frame : QueuedFrame, frame.queuedBytes ≤ bytes ∧
    ∀ connId, state.queueOf connId = if connId = frame.connId then [frame] else []

variable {state : WorkerFairnessState}

theorem Light.removeFlow (hlight : Light bytes state)
    (connId : ℕ) : Light bytes (state.removeFlow connId) := by
  rcases hlight with hempty | ⟨frame, hbytes, hqueues⟩
  · apply Or.inl
    intro other
    rw [removeFlow_queueOf, hempty other, ite_self]
  · by_cases howner : connId = frame.connId
    · apply Or.inl
      intro other
      rw [removeFlow_queueOf, hqueues other, howner]
      split <;> rfl
    · refine Or.inr ⟨frame, hbytes, ?_⟩
      intro other
      rw [removeFlow_queueOf, hqueues other]
      by_cases hother : other = connId
      · rw [if_pos hother, hother, if_neg howner]
      · rw [if_neg hother]

theorem light_enqueueData (hempty : state.Empty)
    (connId flags : ℕ) {data : List Byte} (hbytes : data.length ≤ bytes) (now : ℕ) :
    Light bytes (state.enqueueData connId flags data now).2 := by
  have hbalanced := enqueueData_balanced state connId flags data now
  simp only [events] at hbalanced
  split at hbalanced
  · refine Or.inr ⟨⟨connId, flags, data, now⟩, hbytes, ?_⟩
    intro other
    have hqueues := hbalanced other
    have hleft : settledFrames other [.admitted ⟨connId, flags, data, now⟩] = [] := rfl
    rw [hempty other, hleft, map_nil, nil_append, nil_append] at hqueues
    rw [← hqueues]
    by_cases hother : other = connId
    · simp [admittedFrames, FrameEvent.admitted?, hother]
    · simp [admittedFrames, FrameEvent.admitted?, hother, Ne.symm hother]
  · apply Or.inl
    intro other
    have hqueues := hbalanced other
    rw [hempty other] at hqueues
    exact hqueues.symm

theorem empty_dispatch {frame : QueuedFrame} {now : ℕ}
    {candidate : DispatchCandidate} {feedback : DispatchFeedback} (hbooks : Books none state)
    (hqueues : ∀ connId, state.queueOf connId = if connId = frame.connId then [frame] else [])
    (hdecision : (state.nextDecision now).1 = .dispatch candidate)
    (hfeedback : feedback ≠ .queueFull) : (state.step (.dispatch now feedback now)).Empty := by
  have hspec := nextDecision_spec now hbooks
  simp only [step, dispatch]
  generalize state.nextDecision now = answer at hspec hdecision ⊢
  obtain ⟨decision, next⟩ := answer
  subst hdecision
  have hnext : next.Empty := by
    cases hspec with
    | dispatch hmem hqueue hothers hnext =>
      have howner : candidate.frame.connId = frame.connId := by
        by_contra hother
        rw [hqueues, if_neg hother] at hqueue
        cases hqueue
      rw [hqueues, if_pos howner] at hqueue
      intro other
      by_cases hother : other = candidate.frame.connId
      · rw [hother]
        exact (cons.inj hqueue).2.symm
      · rw [hothers other hother, hqueues, if_neg (howner ▸ hother)]
  have hremoved : (next.removeFlow candidate.frame.connId).Empty := by
    intro other
    rw [removeFlow_queueOf, hnext other, ite_self]
  cases feedback with
  | routed =>
    intro other
    simp only [applyDispatchFeedback]
    rw [feedbackRouted_queueOf]
    exact hnext other
  | queueFull => exact absurd rfl hfeedback
  | channelClosed => exact hremoved
  | noConn => exact hremoved

section Drain

variable (world : World) {config : WorkerFairnessConfig} {now : ℕ} {routing : Routing}

theorem drain_empty (hordered : Ordered routing) (hempty : routing.fairness.Empty)
    (backpressureEnabled : Bool) (budget : ℕ) :
    (routing.drainFairnessScheduler world backpressureEnabled budget).fairness.Empty :=
  (ordered_kept_direct.moves ⟨hordered, hempty⟩
    (Routing.moves_drain world .refl backpressureEnabled budget)).2

theorem dispatchFrame_empty {frame : QueuedFrame} {candidate : DispatchCandidate}
    {time : ℕ} {backpressureEnabled : Bool}
    (hroutes : NeverFull (routing.dispatchFrame world backpressureEnabled time candidate).ops)
    (hordered : Ordered routing) (hqueues : ∀ connId,
      routing.fairness.queueOf connId = if connId = frame.connId then [frame] else [])
    (hdecision : (routing.fairness.nextDecision time).1 = .dispatch candidate) :
    Ordered (routing.dispatchFrame world backpressureEnabled time candidate) ∧
      (routing.dispatchFrame world backpressureEnabled time candidate).fairness.Empty := by
  unfold Routing.dispatchFrame at hroutes ⊢
  dsimp only at hroutes ⊢
  generalize hsent : (if (routing.routeData world).1 = .routed then
    (routing.routeData world).2.clearStreak candidate.frame.connId
      else (routing.routeData world).2) = sent at hroutes ⊢
  have hfairness : sent.fairness = routing.fairness := by
    rw [← hsent]
    split <;> rfl
  have hevents : sent.events = routing.events := by
    rw [← hsent]
    split <;> rfl
  have hfeedback : routeFeedback (routing.routeData world).1 ≠ .queueFull := by
    intro hfull
    rw [hfull] at hroutes
    refine Bool.false_ne_true.symm (hroutes (.dispatch time .queueFull time) ?_)
    apply (@extends_of_moves true (sent.applyOp (.dispatch time .queueFull time)) _
      (Routing.moves_afterDispatch .refl backpressureEnabled _ _ _ _)).ops.subset
    exact mem_append_right _ mem_cons_self
  have hdispatched : (sent.applyOp
      (.dispatch time (routeFeedback (routing.routeData world).1) time)).fairness.Empty := by
    simp only [Routing.applyOp, hfairness]
    exact empty_dispatch hordered.books hqueues hdecision hfeedback
  exact ordered_kept_direct.moves ⟨(hordered.of_same hfairness hevents).applyOp
      (admittedFrames_dispatch sent.fairness time _ time), hdispatched⟩
    (Routing.moves_afterDispatch .refl backpressureEnabled _ _ _ _)

theorem drain_light {backpressureEnabled : Bool} {budget : ℕ}
    (hroutes : NeverFull
      (routing.drainFairnessScheduler world backpressureEnabled (budget + 1)).ops)
    (hquantum : config.baseQuantumBytes ≤ u32Max)
    (hcap : serviceQuantum config ≤ config.maxFlowQueuedBytes) (hordered : Ordered routing)
    (hrecorded : Recorded config now routing)
    (hlight : Light (serviceQuantum config) routing.fairness) :
    (routing.drainFairnessScheduler world backpressureEnabled (budget + 1)).fairness.Empty := by
  rcases hlight with hempty | ⟨frame, hbytes, hqueues⟩
  · exact drain_empty world hordered hempty backpressureEnabled (budget + 1)
  · have hsmall : ∀ connId, ∀ queued ∈ routing.fairness.queueOf connId,
        queued.queuedBytes ≤ serviceQuantum config := by
      intro connId queued hqueued
      rw [hqueues connId] at hqueued
      split at hqueued
      · rw [mem_singleton.mp hqueued]
        exact hbytes
      · cases hqueued
    simp only [Routing.drainFairnessScheduler] at hroutes ⊢
    split
    · next hidle =>
      have hempty : routing.fairness.Empty :=
        nextDecision_idle_empty hrecorded.ringSound hrecorded.keepsLimits hquantum hcap hsmall hidle
      exact empty_applyOp hordered.books hempty (admittedFrames_dispatch _ _ _ _)
    · next candidate hdecision =>
      have hread : Ordered routing.readClock := hordered.of_same rfl rfl
      rw [hdecision] at hroutes
      have hdispatch : NeverFull (routing.readClock.dispatchFrame world backpressureEnabled
          (world.clock routing.clockReads) candidate).ops := by
        intro op hmem
        apply hroutes op
        exact (@extends_of_moves true _ _ (Routing.moves_drain world .refl backpressureEnabled
          budget)).ops.subset hmem
      obtain ⟨hafter, hempty⟩ := dispatchFrame_empty world hdispatch hread hqueues hdecision
      exact drain_empty world hafter hempty backpressureEnabled budget

theorem enqueueAns_extends (backpressureEnabled : Bool) (flags connId : ℕ) (data : List Byte)
    (routing : Routing) :
    Extends routing (routing.enqueueAns world backpressureEnabled flags connId data) := by
  have hoffered : ∀ op, Extends routing (routing.readClock.applyOp op) :=
    fun op => ⟨prefix_append _ _, prefix_append _ _⟩
  unfold Routing.enqueueAns
  dsimp only
  split
  · exact hoffered _
  · split
    · exact (extends_kept true routing).moves (hoffered _)
        (Routing.moves_dropConn (Routing.moves_bumpStreak .refl connId) connId)
    · exact (extends_kept true routing).moves (hoffered _) (Routing.moves_bumpStreak .refl connId)

theorem light_enqueueAns {bytes : ℕ} (hempty : routing.fairness.Empty)
    (backpressureEnabled : Bool) (flags connId : ℕ) {data : List Byte}
    (hbytes : data.length ≤ bytes) :
    Light bytes (routing.enqueueAns world backpressureEnabled flags connId data).fairness := by
  have hlight := light_enqueueData hempty connId flags hbytes (world.clock routing.clockReads)
  unfold Routing.enqueueAns
  dsimp only
  split
  · exact hlight
  · split
    · exact hlight.removeFlow connId
    · exact hlight

end Drain

/-! ## Runs -/

/-- Between two frames the scheduler holds nothing, and every close so far found all frames
of its connection settled. -/
structure Calm (config : WorkerFairnessConfig) (now : ℕ) (routing : Routing) : Prop where
  ordered : Ordered routing
  recorded : Recorded config now routing
  empty : routing.fairness.Empty
  settled : ClosesSettled routing.events

section Runs

variable (world : World) {config : WorkerFairnessConfig} {now : ℕ} {routing : Routing}

theorem Calm.moves {next : Routing} (hcalm : Calm config now routing)
    (hmoves : Moves false routing next) : Calm config now next :=
  have hdirect := ordered_kept_direct.moves ⟨hcalm.ordered, hcalm.empty⟩ hmoves
  ⟨hdirect.1, (recorded_kept false config now).moves hcalm.recorded hmoves, hdirect.2,
    closesSettled_moves hcalm.settled hmoves⟩

theorem onFrame_share {frame : List Byte} (backpressureEnabled : Bool)
    (hother : ∀ flags connId data,
      parseMessage ((frame.take (frame.length - 4)).drop 8) ≠ .proxyAns flags connId data) :
    routing.onFrame world backpressureEnabled true frame =
      routing.onFrame world backpressureEnabled false frame := by
  unfold Routing.onFrame
  dsimp only
  generalize parseMessage ((frame.take (frame.length - 4)).drop 8) = message at hother ⊢
  cases message with
  | proxyAns flags connId data => exact absurd rfl (hother flags connId data)
  | simpleAck | closeExt | closeConn | ping | pong | unknown => rfl

variable (hquantum : config.baseQuantumBytes ≤ u32Max)
  (hcap : serviceQuantum config ≤ config.maxFlowQueuedBytes)

include hquantum hcap

section

variable (hcalm : Calm config now routing) (backpressureEnabled : Bool) (frame : List Byte)
  (hsmooth : Smooth (serviceQuantum config)
  (routing.onFrame world backpressureEnabled true frame).2)
include hcalm hsmooth

theorem onFrame_empty :
    (routing.onFrame world backpressureEnabled true frame).2.fairness.Empty := by
  by_cases hdata : ∃ flags connId data,
      parseMessage ((frame.take (frame.length - 4)).drop 8) = .proxyAns flags connId data
  · obtain ⟨flags, connId, data, hmessage⟩ := hdata
    unfold Routing.onFrame at hsmooth ⊢
    simp only [hmessage, Routing.onMessage, Routing.onProxyAns, if_true] at hsmooth ⊢
    split at hsmooth
    · next hshort =>
      rw [if_pos hshort]
      exact hcalm.empty
    · next hshort =>
      rw [if_neg hshort]
      have hmoves := Routing.moves_enqueueAns world rfl backpressureEnabled flags connId data
        routing
      have hlater : Extends (routing.log [.received connId flags data])
          ((routing.log [.received connId flags data]).enqueueAns world backpressureEnabled flags
            connId data |>.drainAndRefresh world backpressureEnabled) :=
        (extends_kept true _).moves
          (enqueueAns_extends world backpressureEnabled flags connId data _)
          (Routing.moves_drainAndRefresh world .refl backpressureEnabled)
      have hbytes : data.length ≤ serviceQuantum config :=
        hsmooth.within connId flags data (hlater.events.subset (mem_append_right _ mem_cons_self))
      have hempty : (routing.log [.received connId flags data]).fairness.Empty := hcalm.empty
      exact drain_light world hsmooth.routed hquantum hcap
        (ordered_kept_fair.moves hcalm.ordered hmoves)
        ((recorded_kept true config now).moves hcalm.recorded hmoves)
        (light_enqueueAns world hempty backpressureEnabled flags connId hbytes)
  · rw [onFrame_share world backpressureEnabled
      fun flags connId data hmessage => hdata ⟨flags, connId, data, hmessage⟩]
    exact (ordered_kept_direct.onFrame world ⟨hcalm.ordered, hcalm.empty⟩ backpressureEnabled
      frame).2

theorem calm_onFrame :
    Calm config now (routing.onFrame world backpressureEnabled true frame).2 := by
  refine ⟨ordered_kept_fair.onFrame world hcalm.ordered backpressureEnabled frame,
    (recorded_kept true config now).onFrame world hcalm.recorded backpressureEnabled frame,
    onFrame_empty world hquantum hcap hcalm backpressureEnabled frame hsmooth, ?_⟩
  rcases Routing.onFrame_moves world backpressureEnabled true frame routing with
    hmoves | ⟨connId, hmoves⟩
  · exact closesSettled_moves hcalm.settled hmoves
  · have hhistory := hcalm.recorded.history connId
    rw [hcalm.empty connId, append_nil] at hhistory
    have hclosed : ClosesSettled (routing.log [.closeDelivered connId]).events :=
      hcalm.settled.close hhistory
    exact closesSettled_moves hclosed hmoves

end

theorem calm_frameLoop (backpressureEnabled : Bool) (rounds : ℕ) {state : ReaderState}
    (hcalm : Calm config now state.routing) (hsmooth : Smooth (serviceQuantum config)
      (state.frameLoop world backpressureEnabled true rounds).routing) :
    Calm config now (state.frameLoop world backpressureEnabled true rounds).routing := by
  induction rounds generalizing state with
  | zero => exact hcalm
  | succ rounds ih =>
    simp only [ReaderState.frameLoop] at hsmooth ⊢
    split
    · exact hcalm
    · next hfront =>
      rw [hfront] at hsmooth
      exact ih hcalm hsmooth
    · exact hcalm
    · exact hcalm
    · next frame hfront =>
      rw [hfront] at hsmooth
      dsimp only at hsmooth
      split
      · next hmore =>
        rw [if_pos hmore] at hsmooth
        have hearlier : Smooth (serviceQuantum config)
            (state.routing.onFrame world backpressureEnabled true frame).2 := hsmooth.earlier
            ((extends_kept true _).frameLoop world backpressureEnabled rounds (.refl _))
        exact ih (calm_onFrame world hquantum hcap hcalm backpressureEnabled frame
          hearlier) hsmooth
      · next hmore =>
        rw [if_neg hmore] at hsmooth
        exact calm_onFrame world hquantum hcap hcalm backpressureEnabled frame hsmooth

/-- In a smooth round the drain empties the scheduler, so a close finds everything settled. -/
theorem calm_step {state : ReaderState} {round : Round} (hfair : round.fairshareEnabled = true)
    (hcalm : Calm config now state.routing) (hsmooth : Smooth (serviceQuantum config)
      (ReaderState.step world round state).routing) :
    Calm config now (ReaderState.step world round state).routing := by
  unfold ReaderState.step at hsmooth ⊢
  split
  · exact hcalm
  · next hrunning =>
    rw [if_neg hrunning] at hsmooth
    have hswitched : Calm config now
        (state.setBackpressure world round.backpressureEnabled).routing :=
      hcalm.moves ((Relation.ReflTransGen.single (.quiet rfl rfl rfl)).tail (.switched _ _))
    dsimp only at hsmooth ⊢
    rw [hfair] at hsmooth ⊢
    split
    · next plain hwake =>
      rw [hwake] at hsmooth
      exact calm_frameLoop world hquantum hcap _ _ hswitched hsmooth
    · split
      · exact hswitched.moves (Routing.moves_drainAndRefresh world .refl _)
      · exact hswitched

/-- Between the rounds of a smooth run nothing is left in the scheduler. -/
theorem calm_run {dec : List Byte} {rounds : List Round}
    (hfair : ∀ round ∈ rounds, round.fairshareEnabled = true)
    (hsmooth : Smooth (serviceQuantum config)
      (Runs.run (ReaderState.step world) rounds (.start config now dec)).routing) :
    Calm config now (Runs.run (ReaderState.step world) rounds (.start config now dec)).routing := by
  induction rounds using reverseRecOn with
  | nil =>
    refine ⟨ordered_start config now dec, recorded_start config now dec, fun _ => rfl, ?_⟩
    intro before connId after hsplit
    cases before <;> cases hsplit
  | append_singleton rounds round ih =>
    rw [Runs.run_concat] at hsmooth ⊢
    have hlater := (extends_kept round.fairshareEnabled
      (Runs.run (ReaderState.step world) rounds (.start config now dec)).routing).step
        world (.refl _)
    apply calm_step world hquantum hcap (hfair round (by simp)) _ hsmooth
    exact ih (fun earlier hearlier => hfair earlier (mem_append_left _ hearlier))
      (hsmooth.earlier hlater)

end Runs

theorem readerConfig_quanta (capacity : ℕ) (backpressureEnabled : Bool) :
    (readerConfig capacity backpressureEnabled).baseQuantumBytes ≤ u32Max ∧
      serviceQuantum (readerConfig capacity backpressureEnabled) ≤
        (readerConfig capacity backpressureEnabled).maxFlowQueuedBytes := by
  constructor
  · change 32 * 1024 ≤ u32Max
    decide
  · have hquantum : serviceQuantum (readerConfig capacity backpressureEnabled) = 8192 := rfl
    rw [hquantum]
    simp only [readerConfig]
    omega

/-- With fair share on, data frames within the smallest quantum, and no data frame that
found the channel full in all attempts: when a close is delivered, every frame of its
connection that the scheduler had admitted was routed, shed or discarded before. -/
theorem run_close_after_data (world : World) (capacity : ℕ) (backpressureEnabled : Bool)
    (now : ℕ) (dec : List Byte) (rounds : List Round)
    (hfair : ∀ round ∈ rounds, round.fairshareEnabled = true)
    (hroutes : NeverFull (Runs.run (ReaderState.step world) rounds
      (.start (readerConfig capacity backpressureEnabled) now dec)).routing.ops)
    (hwithin : DataWithin (serviceQuantum (readerConfig capacity backpressureEnabled))
      (Runs.run (ReaderState.step world) rounds
        (.start (readerConfig capacity backpressureEnabled) now dec)).routing.events) :
    ClosesSettled (Runs.run (ReaderState.step world) rounds
      (.start (readerConfig capacity backpressureEnabled) now dec)).routing.events := by
  obtain ⟨hquantum, hcap⟩ := readerConfig_quanta capacity backpressureEnabled
  exact (calm_run world hquantum hcap hfair ⟨hwithin, hroutes⟩).settled

def closeFrame (rpcCrc : Checksum) (seqNo connId : ℕ) : List Byte :=
  buildRpcFrame rpcCrc seqNo (ByteWords.leBytes 4 rpcCloseExt ++ ByteWords.leBytes 8 connId)

def dataThenClose : List Round :=
  [⟨false, true, .read (ansFrame crc32 0 0 7 [1])⟩, ⟨false, true, .read (closeFrame crc32 1 7)⟩]

def ackFrame (rpcCrc : Checksum) (seqNo connId cfm : ℕ) : List Byte :=
  buildRpcFrame rpcCrc seqNo (ByteWords.leBytes 4 rpcSimpleAck ++ ByteWords.leBytes 8 connId ++
    ByteWords.leBytes 4 cfm)

def ackDataClose : List Round :=
  [⟨false, true, .read (ackFrame crc32 0 7 5)⟩, ⟨false, true, .read (ansFrame crc32 1 0 7 [1])⟩,
    ⟨false, true, .read (closeFrame crc32 2 7)⟩]

/-- An acknowledgement finds the channel full and is lost.  The data frame behind it is
delivered at its third attempt, and then the close. -/
theorem run_close_after_data_routed :
    eventsOf (worldAfterFull 3) ackDataClose =
        [.received 7 0 [1], .scheduled (.admitted ⟨7, 0, [1], 3⟩),
          .scheduled (.settled ⟨7, 0, [1], 3⟩ .routed), .closeDelivered 7, .unregistered 7] ∧
      ClosesSettled (eventsOf (worldAfterFull 3) ackDataClose) := by
  have hevents : eventsOf (worldAfterFull 3) ackDataClose =
      [.received 7 0 [1], .scheduled (.admitted ⟨7, 0, [1], 3⟩),
        .scheduled (.settled ⟨7, 0, [1], 3⟩ .routed), .closeDelivered 7, .unregistered 7] := by
    decide +kernel
  have hwithin : DataWithin (serviceQuantum (readerConfig 64 false))
      (eventsOf (worldAfterFull 3) ackDataClose) := by
    rw [hevents]
    intro connId flags data hmem
    simp only [mem_cons, ReaderEvent.received.injEq, reduceCtorEq, not_mem_nil, or_false] at hmem
    rw [hmem.2.2]
    decide
  exact ⟨hevents, run_close_after_data (worldAfterFull 3) 64 false 0 [] ackDataClose
    (by decide) (by decide +kernel) hwithin⟩

/-- The channel stays full for a whole drain, so the frame goes back into the scheduler.
When the close arrives the channel has room: the close is delivered and the frame is
discarded. -/
theorem run_close_discards_queued :
    eventsOf (worldAfterFull 384) dataThenClose =
        [.received 7 0 [1], .scheduled (.admitted ⟨7, 0, [1], 1⟩), .closeDelivered 7,
          .unregistered 7, .scheduled (.settled ⟨7, 0, [1], 1⟩ .discarded)] ∧
      ¬ ClosesSettled (eventsOf (worldAfterFull 384) dataThenClose) := by
  have hevents : eventsOf (worldAfterFull 384) dataThenClose =
      [.received 7 0 [1], .scheduled (.admitted ⟨7, 0, [1], 1⟩), .closeDelivered 7,
        .unregistered 7, .scheduled (.settled ⟨7, 0, [1], 1⟩ .discarded)] := by
    decide +kernel
  refine ⟨hevents, fun hsettled => ?_⟩
  rw [hevents] at hsettled
  have hlost := hsettled [.received 7 0 [1], .scheduled (.admitted ⟨7, 0, [1], 1⟩)] 7
    [.unregistered 7, .scheduled (.settled ⟨7, 0, [1], 1⟩ .discarded)] rfl
  exact absurd hlost (by decide)

end TupoProxy.ReaderLoop
