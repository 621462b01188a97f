import TupoProxy.ReaderClose

/-!
# The retry timer and the backlog

The retry branch is armed by the byte count of the last snapshot of the scheduler.  The
count is taken after every message that can change the scheduler but one: a frame that is
routed directly and finds its channel gone removes the flow and goes on to the next frame.
So the snapshot is the byte count of the scheduler as long as direct frames meet an empty
scheduler, and it tells whether frames are queued as long as every frame has bytes.
-/

namespace TupoProxy
namespace Fairness
namespace WorkerFairnessState

variable {state : WorkerFairnessState}

theorem removeFlow_total_of_empty (hempty : state.Empty) (connId : ℕ) :
    (state.removeFlow connId).totalQueuedBytes = state.totalQueuedBytes := by
  unfold removeFlow
  cases hlookup : state.flows.lookup connId with
  | none => rfl
  | some entry =>
    have hqueue : entry.queue = [] := by
      rw [← queueOf_of_lookup hlookup]
      exact hempty connId
    simp only [releaseBytes, hqueue]
    exact Nat.sub_zero _

theorem setBackpressureEnabled_total (state : WorkerFairnessState) (enabled : Bool) (now : ℕ) :
    (state.setBackpressureEnabled enabled now).totalQueuedBytes = state.totalQueuedBytes := by
  unfold setBackpressureEnabled
  split <;> rfl

theorem total_pos_iff (hexact : state.accounts.Exact)
    (hbytes : ∀ connId, ∀ frame ∈ state.queueOf connId, frame.data ≠ []) :
    0 < state.totalQueuedBytes ↔ ∃ connId, state.queueOf connId ≠ [] := by
  have htotal : state.totalQueuedBytes = state.flows.total (queuedWithin everyConn) := hexact.total
  rw [htotal]
  constructor
  · intro hpos
    by_contra hnone
    push Not at hnone
    apply hpos.ne'
    apply Table.total_eq_zero
    intro connId flow hlookup
    have hqueue : flow.queue = [] := by
      rw [← queueOf_of_lookup hlookup]
      exact hnone connId
    rw [queuedWithin, hqueue]
    rfl
  · rintro ⟨connId, hqueued⟩
    cases hlookup : state.flows.lookup connId with
    | none => exact absurd (queueOf_notMem (AList.lookup_eq_none.mp hlookup)) hqueued
    | some flow =>
      have hweight := Table.weight_le_total (queuedWithin everyConn) hlookup
      have hframes := hbytes connId
      rw [queueOf_of_lookup hlookup] at hqueued hframes
      cases hqueue : flow.queue with
      | nil => exact absurd hqueue hqueued
      | cons front rest =>
        have hfront : 0 < front.queuedBytes := by
          apply List.length_pos_of_ne_nil
          apply hframes
          rw [hqueue]
          exact List.mem_cons_self
        have hown : queuedWithin everyConn connId flow =
            front.queuedBytes + queueBytes rest := by
          rw [queuedWithin, hqueue, queueBytes_cons]
          rfl
        omega

end WorkerFairnessState
end Fairness

namespace ReaderLoop

open Fairness WorkerFairnessState RpcCodec

def Fresh (routing : Routing) : Prop :=
  routing.snapshotBytes = routing.fairness.totalQueuedBytes

section Snapshot

variable (world : World) {fairshareEnabled : Bool} {routing : Routing}

theorem fresh_routeAns (hfresh : Fresh routing) (hempty : routing.fairness.Empty)
    (backpressureEnabled : Bool) (flags connId : ℕ) (data : List Byte)
    (hnext : (routing.routeAns world backpressureEnabled flags connId data).1 = .nextFrame) :
    Fresh (routing.routeAns world backpressureEnabled flags connId data).2 := by
  unfold Routing.routeAns at hnext ⊢
  dsimp only at hnext ⊢
  split
  · exact hfresh
  · next hfull =>
    rw [if_neg hfull] at hnext
    split
    · exact Eq.trans hfresh (removeFlow_total_of_empty hempty connId).symm
    · next hopen =>
      rw [if_neg hopen] at hnext
      split at hnext
      · split at hnext <;> cases hnext
      · cases hnext

theorem fresh_onFrame (hfresh : Fresh routing)
    (hempty : fairshareEnabled = false → routing.fairness.Empty) (backpressureEnabled : Bool)
    (frame : List Byte) :
    Fresh (routing.onFrame world backpressureEnabled fairshareEnabled frame).2 := by
  unfold Routing.onFrame
  dsimp only
  split
  · exact hfresh
  · generalize parseMessage ((frame.take (frame.length - 4)).drop 8) = message
    split
    · rfl
    · next hnext =>
      cases message with
      | proxyAns flags connId data =>
        simp only [Routing.onMessage, Routing.onProxyAns] at hnext ⊢
        cases hshare : fairshareEnabled with
        | true =>
          rw [hshare, if_pos rfl] at hnext
          cases hnext
        | false =>
          rw [hshare, if_neg Bool.false_ne_true] at hnext
          have hreceived : Fresh (routing.log [.received connId flags data]) := hfresh
          exact fresh_routeAns world hreceived (hempty hshare) backpressureEnabled flags
            connId data hnext
      | simpleAck | closeExt | closeConn | pong | unknown => cases hnext
      | ping pingId =>
        simp only [Routing.onMessage, Routing.onPing] at hnext
        split at hnext <;> cases hnext
    · next hleave =>
      cases message with
      | proxyAns flags connId data =>
        exact absurd hleave (Routing.onProxyAns_ne_leave world _ _ _ _ _ _)
      | simpleAck | closeExt | closeConn | pong | unknown => cases hleave
      | ping pingId =>
        simp only [Routing.onMessage, Routing.onPing]
        split <;> exact hfresh

theorem fresh_frameLoop (backpressureEnabled : Bool) (rounds : ℕ) {state : ReaderState}
    (hfresh : Fresh state.routing) (hdirect : fairshareEnabled = false →
      Ordered state.routing ∧ state.routing.fairness.Empty) :
    Fresh (state.frameLoop world backpressureEnabled fairshareEnabled rounds).routing := by
  induction rounds generalizing state with
  | zero => exact hfresh
  | succ rounds ih =>
    simp only [ReaderState.frameLoop]
    split
    · exact hfresh
    · exact ih hfresh hdirect
    · exact hfresh
    · exact hfresh
    · next frame _ =>
      have hframe : Fresh
          (state.routing.onFrame world backpressureEnabled fairshareEnabled frame).2 :=
        fresh_onFrame world hfresh (fun hoff => (hdirect hoff).2) backpressureEnabled frame
      split
      · apply ih hframe
        intro hoff
        subst hoff
        exact ordered_kept_direct.onFrame world (hdirect rfl) backpressureEnabled frame
      · exact hframe

/-- Every round leaves the snapshot up to date. -/
theorem fresh_step {state : ReaderState} {round : Round} (hfresh : Fresh state.routing)
    (hordered : Ordered state.routing) (hoff : offOnlyIdle state round) :
    Fresh (ReaderState.step world round state).routing := by
  unfold ReaderState.step
  split
  · exact hfresh
  · have hswitched : Fresh (state.setBackpressure world round.backpressureEnabled).routing :=
      Eq.trans hfresh (setBackpressureEnabled_total state.routing.fairness _ _).symm
    dsimp only
    split
    · apply fresh_frameLoop
      · exact hswitched
      intro hdirect
      apply ordered_kept_direct.moves ⟨hordered, (empty_iff _).mpr (hoff hdirect)⟩
      exact (Relation.ReflTransGen.single (.quiet rfl rfl rfl)).tail (.switched _ _)
    · split
      · rfl
      · exact hswitched

end Snapshot

/-! ## Runs -/

theorem Ordered.queued_received {routing : Routing} (hordered : Ordered routing) {connId : ℕ}
    {frame : QueuedFrame} (hqueued : frame ∈ routing.fairness.queueOf connId) :
    .received connId frame.flags frame.data ∈ routing.events := by
  have hmem : frame.content ∈ receivedData connId routing.events := (hordered.order connId).subset
      (List.mem_append_right _ (List.mem_map_of_mem hqueued))
  obtain ⟨event, hevent, hreceived⟩ := List.mem_filterMap.mp hmem
  cases event with
  | received owner flags data =>
    simp only [ReaderEvent.received?] at hreceived
    split at hreceived
    · next howner =>
      cases hreceived
      exact howner ▸ hevent
    · cases hreceived
  | scheduled | direct | ackDelivered | closeDelivered | unregistered | closeSent => cases hreceived

/-- In every run in which fair share is found off only while the scheduler holds nothing
and every received data frame has bytes, the retry branch is armed between reads exactly
when some flow has a queued frame. -/
theorem run_retryArmed_iff (world : World) (config : WorkerFairnessConfig) (now : ℕ)
    (dec : List Byte) (rounds : List Round)
    (hoff : Runs.Along (ReaderState.step world) offOnlyIdle rounds (.start config now dec))
    (hbytes : ∀ connId flags, .received connId flags [] ∉
      (Runs.run (ReaderState.step world) rounds (.start config now dec)).routing.events)
    (hfits : FitsMachine config now
      (Runs.run (ReaderState.step world) rounds (.start config now dec)).routing.ops) :
    (Runs.run (ReaderState.step world) rounds (.start config now dec)).retryArmed = true ↔
      ∃ connId, (Runs.run (ReaderState.step world) rounds
        (.start config now dec)).routing.fairness.queueOf connId ≠ [] := by
  have hkept : ∀ state round,
      (Ordered (ReaderState.routing state) ∧ Recorded config now state.routing ∧
        Fresh state.routing) → offOnlyIdle state round →
      (Ordered (ReaderState.step world round state).routing ∧
        Recorded config now (ReaderState.step world round state).routing ∧
        Fresh (ReaderState.step world round state).routing) := by
    rintro state round ⟨hordered, hrecorded, hfresh⟩ hgood
    exact ⟨ordered_step world hordered hgood,
      (recorded_kept round.fairshareEnabled config now).step world hrecorded,
      fresh_step world hfresh hordered hgood⟩
  obtain ⟨hordered, hrecorded, hfresh⟩ := Runs.Along.invariant hkept hoff
    ⟨ordered_start config now dec, recorded_start config now dec, rfl⟩
  have haudited := audited_run hfits
  rw [← hrecorded.state] at haudited
  rw [ReaderState.retryArmed, shouldScheduleFairnessRetry, decide_eq_true_iff, hfresh]
  apply total_pos_iff haudited.counts
  intro connId frame hqueued hnone
  apply hbytes connId frame.flags
  rw [← hnone]
  exact hordered.queued_received hqueued

def stateAfter (world : World) (rounds : List Round) : ReaderState :=
  Runs.run (ReaderState.step world) rounds (.start (readerConfig 64 false) 0 [])

def oneFrame (data : List Byte) : Round :=
  ⟨false, true, .read (ansFrame crc32 0 0 7 data)⟩

theorem run_retryArmed_queued :
    (stateAfter (worldAfterFull 384) [oneFrame [1]]).routing.fairness.queueOf 7 = [⟨7, 0, [1], 1⟩] ∧
      ((stateAfter (worldAfterFull 384) [oneFrame [1]]).retryArmed = true ↔ ∃ connId,
          (stateAfter (worldAfterFull 384) [oneFrame [1]]).routing.fairness.queueOf connId ≠
            []) := by
  have hoff : Runs.Along (ReaderState.step (worldAfterFull 384)) offOnlyIdle [oneFrame [1]]
      (.start (readerConfig 64 false) 0 []) := ⟨fun hdirect => absurd hdirect (by decide), trivial⟩
  have hevents : (stateAfter (worldAfterFull 384) [oneFrame [1]]).routing.events =
      [.received 7 0 [1], .scheduled (.admitted ⟨7, 0, [1], 1⟩)] := by decide +kernel
  have hbytes : ∀ connId flags, .received connId flags [] ∉
      (stateAfter (worldAfterFull 384) [oneFrame [1]]).routing.events := by
    rw [hevents]
    intro connId flags hmem
    simp at hmem
  have hfits : FitsMachine (readerConfig 64 false) 0
      (stateAfter (worldAfterFull 384) [oneFrame [1]]).routing.ops :=
    ⟨⟨by decide, by decide⟩, fun hlargest => absurd hlargest (by decide)⟩
  exact ⟨by decide +kernel, run_retryArmed_iff (worldAfterFull 384) (readerConfig 64 false) 0 []
    [oneFrame [1]] hoff hbytes hfits⟩

/-- The first `full` route calls find the channel full, all later ones find no channel. -/
def worldThenGone (full : ℕ) : World :=
  { worldAfterFull full with
    route := fun calls => if calls < full then .queueFullBase else .noConn }

/-- An empty data frame is queued and the timer is not armed.  A connection that goes away
while a frame of it is queued and fair share is off leaves the timer armed with nothing
queued. -/
theorem run_retryArmed_wrong :
    (stateAfter (worldAfterFull 384) [oneFrame []]).retryArmed = false ∧
      (stateAfter (worldAfterFull 384) [oneFrame []]).routing.fairness.queueOf 7 = [⟨7, 0, [], 1⟩] ∧
      (stateAfter (worldThenGone 384)
        [oneFrame [1], ⟨false, false, .read (ansFrame crc32 1 0 7 [2])⟩]).retryArmed = true ∧
      (stateAfter (worldThenGone 384)
        [oneFrame [1],
          ⟨false, false, .read (ansFrame crc32 1 0 7 [2])⟩]).routing.fairness.hasBacklog =
          false := by
  decide +kernel

end ReaderLoop
end TupoProxy
