import TupoProxy.ReaderLoop
import TupoProxy.RpcStream

/-!
# Order of data frames through the reader loop

The data frames of a connection that were delivered, followed by those that the
scheduler still holds, are a subsequence of the received ones as long as no frame is
routed past a held one.  The scheduler keeps the order by itself.  A frame that is routed
directly does not look at the scheduler, so the order depends on fair share being
switched off only while the scheduler holds nothing.
-/

namespace TupoProxy
namespace Fairness

def QueuedFrame.content (frame : QueuedFrame) : ℕ × List Byte := (frame.flags, frame.data)

end Fairness

namespace ReaderLoop

open Fairness WorkerFairnessState RpcCodec

def ReaderEvent.received? (connId : ℕ) : ReaderEvent → Option (ℕ × List Byte)
  | .received owner flags data => if owner = connId then some (flags, data) else none
  | _ => none

def ReaderEvent.delivered? (connId : ℕ) : ReaderEvent → Option (ℕ × List Byte)
  | .scheduled (.settled frame .routed) =>
    if frame.connId = connId then some frame.content else none
  | .direct owner flags data => if owner = connId then some (flags, data) else none
  | _ => none

def receivedData (connId : ℕ) (events : List ReaderEvent) : List (ℕ × List Byte) :=
  events.filterMap (ReaderEvent.received? connId)

def deliveredData (connId : ℕ) (events : List ReaderEvent) : List (ℕ × List Byte) :=
  events.filterMap (ReaderEvent.delivered? connId)

variable (connId : ℕ)

theorem receivedData_append (left right : List ReaderEvent) :
    receivedData connId (left ++ right) = receivedData connId left ++ receivedData connId right :=
  List.filterMap_append

theorem deliveredData_append (left right : List ReaderEvent) :
    deliveredData connId (left ++ right) =
      deliveredData connId left ++ deliveredData connId right :=
  List.filterMap_append

theorem receivedData_scheduled (events : List FrameEvent) :
    receivedData connId (events.map .scheduled) = [] := by
  induction events with
  | nil => rfl
  | cons event events ih => exact ih

theorem deliveredData_scheduled (events : List FrameEvent) :
    deliveredData connId (events.map .scheduled) =
      (routedFrames connId events).map QueuedFrame.content := by
  induction events with
  | nil => rfl
  | cons event events ih =>
    have hcons : deliveredData connId ((event :: events).map .scheduled) =
        ((ReaderEvent.scheduled event).delivered? connId).toList ++
          deliveredData connId (events.map .scheduled) := by
      unfold deliveredData
      rw [List.map_cons, List.filterMap_cons]
      cases (ReaderEvent.scheduled event).delivered? connId <;> rfl
    rw [hcons, ih]
    cases event with
    | admitted frame => rfl
    | settled frame fate =>
      by_cases howner : frame.connId = connId <;> cases fate <;>
        simp [ReaderEvent.delivered?, routedFrames, settledFrames, FrameEvent.settled?, howner]

/-! ## The order invariant -/

/-- The books of the scheduler are sound, and what was delivered or is held is in the
order of reception. -/
structure Ordered (routing : Routing) : Prop where
  books : Books none routing.fairness
  order : ∀ connId, (deliveredData connId routing.events ++
    (routing.fairness.queueOf connId).map QueuedFrame.content).Sublist
      (receivedData connId routing.events)

namespace Ordered

variable {routing : Routing}

section

variable (hordered : Ordered routing)
include hordered

theorem of_same {next : Routing}
    (hfairness : next.fairness = routing.fairness) (hevents : next.events = routing.events) :
    Ordered next := by
  refine ⟨hfairness ▸ hordered.books, ?_⟩
  rw [hfairness, hevents]
  exact hordered.order

theorem log {event : ReaderEvent} (hreceived : ∀ connId, event.received? connId = none)
    (hdelivered : ∀ connId, event.delivered? connId = none) : Ordered (routing.log [event]) := by
  refine ⟨hordered.books, ?_⟩
  intro connId
  have hnone : receivedData connId [event] = [] := by
    rw [receivedData, List.filterMap_cons_none (hreceived connId)]
    rfl
  have hquiet : deliveredData connId [event] = [] := by
    rw [deliveredData, List.filterMap_cons_none (hdelivered connId)]
    rfl
  simp only [Routing.log]
  rw [receivedData_append, deliveredData_append, hnone, hquiet, List.append_nil, List.append_nil]
  exact hordered.order connId

omit hordered in
theorem queues_sublist (hbooks : Books none routing.fairness) (op : Op) (connId : ℕ) :
    (deliveredData connId ((routing.fairness.events op).map .scheduled) ++
        ((routing.fairness.step op).queueOf connId).map QueuedFrame.content).Sublist
      ((routing.fairness.queueOf connId ++
        admittedFrames connId (routing.fairness.events op)).map QueuedFrame.content) := by
  rw [step_balanced hbooks op connId, deliveredData_scheduled, List.map_append]
  apply List.Sublist.append _ (List.Sublist.refl _)
  exact (List.filter_sublist.map Prod.fst).map QueuedFrame.content

theorem applyOp {op : Op}
    (hadmitted : ∀ connId, admittedFrames connId (routing.fairness.events op) = []) :
    Ordered (routing.applyOp op) := by
  refine ⟨books_step hordered.books op, ?_⟩
  intro connId
  have hqueues := queues_sublist hordered.books op connId
  rw [hadmitted connId, List.append_nil] at hqueues
  simp only [Routing.applyOp]
  rw [receivedData_append, receivedData_scheduled, List.append_nil, deliveredData_append,
    List.append_assoc]
  exact (List.Sublist.append (List.Sublist.refl _) hqueues).trans (hordered.order connId)

theorem offer (connId flags : ℕ) (data : List Byte) (now : ℕ) :
    Ordered ((routing.log [.received connId flags data]).applyOp
      (.enqueueData connId flags data now)) := by
  refine ⟨books_step hordered.books (.enqueueData connId flags data now), ?_⟩
  intro other
  have hqueues := queues_sublist hordered.books (.enqueueData connId flags data now) other
  have hadmitted : ((admittedFrames other
      (routing.fairness.events (.enqueueData connId flags data now))).map
        QueuedFrame.content).Sublist (receivedData other [.received connId flags data]) := by
    simp only [events]
    by_cases howner : connId = other
    · split <;> simp [admittedFrames, FrameEvent.admitted?, receivedData, ReaderEvent.received?,
        QueuedFrame.content, howner]
    · split <;> simp [admittedFrames, FrameEvent.admitted?, howner]
  simp only [Routing.applyOp, Routing.log]
  rw [receivedData_append, receivedData_scheduled, List.append_nil, receivedData_append,
    deliveredData_append, deliveredData_append, List.append_assoc]
  have hdelivered : deliveredData other [.received connId flags data] = [] := rfl
  rw [hdelivered, List.append_nil]
  rw [List.map_append] at hqueues
  have hgrown := (hordered.order other).append hadmitted
  rw [List.append_assoc] at hgrown
  exact (List.Sublist.append (List.Sublist.refl _) hqueues).trans hgrown

theorem receive (connId flags : ℕ) (data : List Byte) :
    Ordered (routing.log [.received connId flags data]) := by
  refine ⟨hordered.books, ?_⟩
  intro other
  have hdelivered : deliveredData other [.received connId flags data] = [] := rfl
  simp only [Routing.log]
  rw [receivedData_append, deliveredData_append, hdelivered, List.append_nil]
  exact (hordered.order other).trans (List.sublist_append_left _ _)

theorem deliver (hempty : routing.fairness.Empty) (connId flags : ℕ) (data : List Byte) :
    Ordered (routing.log [.received connId flags data, .direct connId flags data]) := by
  refine ⟨hordered.books, ?_⟩
  intro other
  have horder := hordered.order other
  have hsame : (deliveredData other [.received connId flags data,
      .direct connId flags data]) =
        receivedData other [.received connId flags data, .direct connId flags data] := by
    by_cases howner : connId = other <;>
      simp [deliveredData, receivedData, List.filterMap_cons, ReaderEvent.delivered?,
        ReaderEvent.received?, howner]
  simp only [Routing.log]
  rw [receivedData_append, deliveredData_append, hsame]
  rw [hempty other, List.map_nil, List.append_nil] at horder ⊢
  exact horder.append (List.Sublist.refl _)

end

end Ordered

theorem empty_applyOp {routing : Routing} (hbooks : Books none routing.fairness)
    (hempty : routing.fairness.Empty) {op : Op}
    (hadmitted : ∀ connId, admittedFrames connId (routing.fairness.events op) = []) :
    (routing.applyOp op).fairness.Empty :=
  hempty.of_balanced (step_balanced hbooks op) hadmitted

theorem ordered_kept_fair : Kept true Ordered where
  move routing next hordered hmove := by
    cases hmove with
    | quiet hfairness hops hevents => exact hordered.of_same hfairness hevents
    | acked | unregistered | closeSent => exact hordered.log (fun _ => rfl) fun _ => rfl
    | removed connId => exact hordered.applyOp (admittedFrames_removeFlow _ connId)
    | dispatched now feedback => exact hordered.applyOp (admittedFrames_dispatch _ now feedback now)
    | switched enabled now => exact hordered.applyOp fun _ => rfl
    | offered _ connId flags data now => exact hordered.offer connId flags data now
    | received hdirect => cases hdirect
    | delivered hdirect => cases hdirect
  close _ _ hordered := hordered.log (fun _ => rfl) fun _ => rfl

theorem ordered_kept_direct :
    Kept false fun routing => Ordered routing ∧ routing.fairness.Empty where
  move routing next hholds hmove := by
    obtain ⟨hordered, hempty⟩ := hholds
    have hquiet : ∀ op : Op, (∀ connId, admittedFrames connId (routing.fairness.events op) = []) →
          (routing.applyOp op).fairness.Empty :=
      fun op hadmitted => empty_applyOp hordered.books hempty hadmitted
    cases hmove with
    | quiet hfairness hops hevents =>
      exact ⟨hordered.of_same hfairness hevents, hfairness ▸ hempty⟩
    | acked | unregistered | closeSent => exact ⟨hordered.log (fun _ => rfl) fun _ => rfl, hempty⟩
    | removed connId =>
      have hnone := admittedFrames_removeFlow routing.fairness connId
      exact ⟨hordered.applyOp hnone, hquiet _ hnone⟩
    | dispatched now feedback =>
      have hnone := admittedFrames_dispatch routing.fairness now feedback now
      exact ⟨hordered.applyOp hnone, hquiet _ hnone⟩
    | switched enabled now =>
      exact ⟨hordered.applyOp fun _ => rfl, hquiet _ fun _ => rfl⟩
    | offered hfair => cases hfair
    | received _ connId flags data => exact ⟨hordered.receive connId flags data, hempty⟩
    | delivered _ connId flags data => exact ⟨hordered.deliver hempty connId flags data, hempty⟩
  close _ _ hholds := ⟨hholds.1.log (fun _ => rfl) fun _ => rfl, hholds.2⟩

def offOnlyIdle (state : ReaderState) (round : Round) : Prop :=
  round.fairshareEnabled = false → state.routing.fairness.hasBacklog = false

instance (state : ReaderState) (round : Round) : Decidable (offOnlyIdle state round) :=
  inferInstanceAs (Decidable (_ → _))

theorem ordered_start (config : WorkerFairnessConfig) (now : ℕ) (dec : List Byte) :
    Ordered (ReaderState.start config now dec).routing :=
  ⟨books_new config now, fun _ => List.Sublist.refl _⟩

/-- Every round keeps delivered and queued data in the order of receipt. -/
theorem ordered_step (world : World) {state : ReaderState} {round : Round}
    (hordered : Ordered state.routing) (hoff : offOnlyIdle state round) :
    Ordered (ReaderState.step world round state).routing := by
  cases hshare : round.fairshareEnabled with
  | true =>
    have hkept : Kept round.fairshareEnabled Ordered := hshare ▸ ordered_kept_fair
    exact hkept.step world hordered
  | false =>
    have hkept : Kept round.fairshareEnabled
        fun routing => Ordered routing ∧ routing.fairness.Empty := hshare ▸ ordered_kept_direct
    exact (hkept.step world ⟨hordered, (empty_iff _).mpr (hoff hshare)⟩).1

/-- In every run in which fair share is found off only while the scheduler holds nothing,
the data frames delivered to a connection are a subsequence of the received ones. -/
theorem run_delivers_in_order (world : World) (config : WorkerFairnessConfig) (now : ℕ)
    (dec : List Byte) (rounds : List Round)
    (hoff : Runs.Along (ReaderState.step world) offOnlyIdle rounds (.start config now dec))
    (connId : ℕ) :
    (deliveredData connId
        (Runs.run (ReaderState.step world) rounds (.start config now dec)).routing.events).Sublist
      (receivedData connId
        (Runs.run (ReaderState.step world) rounds (.start config now dec)).routing.events) := by
  have hkept : ∀ state round, Ordered (ReaderState.routing state) → offOnlyIdle state round →
      Ordered (ReaderState.step world round state).routing :=
    fun _ _ hordered hgood => ordered_step world hordered hgood
  have hordered := Runs.Along.invariant hkept hoff (ordered_start config now dec)
  exact (List.sublist_append_left _ _).trans (hordered.order connId)

def ansFrame (rpcCrc : Checksum) (seqNo flags connId : ℕ) (data : List Byte) : List Byte :=
  buildRpcFrame rpcCrc seqNo
    (ByteWords.leBytes 4 rpcProxyAns ++ ByteWords.leBytes 4 flags ++
      ByteWords.leBytes 8 connId ++ data)

/-- The first `full` route calls find the channel full, all later ones deliver. -/
def worldAfterFull (full : ℕ) : World where
  rpcCrc := crc32
  clock := id
  route calls := if calls < full then .queueFullBase else .routed
  pong _ := .sent

def eventsOf (world : World) (rounds : List Round) : List ReaderEvent :=
  (Runs.run (ReaderState.step world) rounds
    (.start (readerConfig 64 false) 0 [])).routing.events

def drainedSwitch : List Round :=
  [⟨false, true, .read (ansFrame crc32 0 0 7 [1])⟩, ⟨false, true, .retry⟩,
    ⟨false, false, .read (ansFrame crc32 1 0 7 [2])⟩]

theorem run_delivers_in_order_drained :
    Runs.Along (ReaderState.step (worldAfterFull 384)) offOnlyIdle drainedSwitch
        (.start (readerConfig 64 false) 0 []) ∧
      deliveredData 7 (eventsOf (worldAfterFull 384) drainedSwitch) = [(0, [1]), (0, [2])] ∧
      (deliveredData 7 (eventsOf (worldAfterFull 384) drainedSwitch)).Sublist
        (receivedData 7 (eventsOf (worldAfterFull 384) drainedSwitch)) := by
  have hoff : Runs.Along (ReaderState.step (worldAfterFull 384)) offOnlyIdle drainedSwitch
      (.start (readerConfig 64 false) 0 []) := by decide +kernel
  exact ⟨hoff, by decide +kernel, run_delivers_in_order (worldAfterFull 384)
    (readerConfig 64 false) 0 [] drainedSwitch hoff 7⟩

def earlySwitch : List Round :=
  [⟨false, true, .read (ansFrame crc32 0 0 7 [1])⟩,
    ⟨false, false, .read (ansFrame crc32 1 0 7 [2])⟩, ⟨false, false, .retry⟩]

/-- The channel of a client stays full for a whole drain, so its first frame goes back
into the scheduler.  Fair share is switched off, the second frame is routed past the first
one, and the retry timer delivers the first one after it. -/
theorem run_overtakes_queued :
    receivedData 7 (eventsOf (worldAfterFull 384) earlySwitch) = [(0, [1]), (0, [2])] ∧
      deliveredData 7 (eventsOf (worldAfterFull 384) earlySwitch) = [(0, [2]), (0, [1])] ∧
      ¬ (deliveredData 7 (eventsOf (worldAfterFull 384) earlySwitch)).Sublist
        (receivedData 7 (eventsOf (worldAfterFull 384) earlySwitch)) := by
  decide +kernel

end ReaderLoop
end TupoProxy
