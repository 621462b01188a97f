import TupoProxy.FairnessAccounts
import TupoProxy.FairnessHistory

/-!
# Exact and bounded accounts along every run

Every operation of the fairness scheduler is a chain of the changes of accounts
that keep them exact.  The subtractions of an operation are listed beside it, in the
order in which the source makes them.  Only the subtractions from accounts are
listed: the penalty score of a flow is meant to decay to zero and to stay there, and
deficits and clock readings are no accounts.

The machine enters in two ways.  The limits are numbers of their types.  With the
largest possible limit on the total, saturating additions never refuse a frame, and
then the frames have to fit in memory, as all frames that exist do.
-/

namespace TupoProxy.Fairness
namespace WorkerFairnessState

open List

def enqueueDrops (state : WorkerFairnessState) (connId flags : ℕ) (data : List Byte)
    (now : ℕ) : List Drop :=
  if (state.enqueueData connId flags data now).1 = .admitted then
    let opened := state.openFlow connId (state.config.weightForFlags flags)
    opened.2.accounts.putDrops opened.1
      (opened.1.pushBack opened.2.config opened.2.pressure.state now
        ⟨connId, flags, data, now⟩)
  else []

def visitDrops (books : Accounts) (flow visited : FlowEntry) : FlowEntry.Visit → List Drop
  | .idle | .skipped => []
  | .drained frame =>
    (flow.fairness.pendingBytes, frame.queuedBytes) ::
      if 0 < frame.queuedBytes then
        books.releaseDrops visited.fairness.bucketId frame.queuedBytes
      else []

def visitConnDrops (state : WorkerFairnessState) (connId now : ℕ) : List Drop :=
  match state.flows.lookup connId with
  | none => []
  | some flow =>
    let visit := flow.visit state.config state.pressure.state now
    state.accounts.putDrops flow visit.2 ++ visitDrops state.accounts flow visit.2 visit.1

def visitRingDrops : ℕ → WorkerFairnessState → ℕ → List Drop
  | 0, _, _ => []
  | rounds + 1, state, now =>
    match state.activeRing with
    | [] => []
    | connId :: ring =>
      if connId ∈ state.activeRingMembers then
        ((state.popRing ring).leaveRing connId).visitConnDrops connId now ++
          match ((state.popRing ring).leaveRing connId).visitConn connId now with
          | (some _, _) => []
          | (none, state) => visitRingDrops rounds state now
      else visitRingDrops rounds (state.popRing ring) now

def nextDecisionDrops (state : WorkerFairnessState) (now : ℕ) : List Drop :=
  let state := state.countRound.evaluatePressure now false
  visitRingDrops state.activeRing.length state now

def removeFlowDrops (state : WorkerFairnessState) (connId : ℕ) : List Drop :=
  match state.flows.lookup connId with
  | none => []
  | some entry => state.accounts.closeDrops entry

def feedbackRoutedDrops (state : WorkerFairnessState) (connId : ℕ) (frame : QueuedFrame)
    (now : ℕ) : List Drop :=
  match state.flows.lookup connId with
  | none => []
  | some flow =>
    state.accounts.putDrops flow
      (flow.noteRouted state.config state.pressure.state now frame)

def stallFrameDrops (state : WorkerFairnessState) (flow : FlowEntry) (frame : QueuedFrame)
    (now : ℕ) : List Drop :=
  if (flow.noteStall state.config).shouldShedFrame state.config state.pressure.state then
    state.accounts.putDrops flow
      ((flow.noteStall state.config).classify state.config state.pressure.state now)
  else
    state.accounts.putDrops flow
      (((flow.noteStall state.config).pushFront frame).classify state.config
        state.pressure.state now)

def feedbackQueueFullDrops (state : WorkerFairnessState) (connId : ℕ) (frame : QueuedFrame)
    (now : ℕ) : List Drop :=
  let state := state.noteRouteStall now
  match state.flows.lookup connId with
  | none => []
  | some flow =>
    state.stallFrameDrops flow frame now ++
      if state.shouldCloseFlow flow then
        (state.stallFrame connId flow frame now).removeFlowDrops connId
      else []

def feedbackDrops (state : WorkerFairnessState) (connId : ℕ) (candidate : DispatchCandidate)
    (feedback : DispatchFeedback) (now : ℕ) : List Drop :=
  match feedback with
  | .routed => state.feedbackRoutedDrops connId candidate.frame now
  | .queueFull => state.feedbackQueueFullDrops connId candidate.frame now
  | .channelClosed | .noConn => state.removeFlowDrops connId

def dispatchDrops (state : WorkerFairnessState) (now : ℕ) (feedback : DispatchFeedback)
    (feedbackAt : ℕ) : List Drop :=
  state.nextDecisionDrops now ++
    match state.nextDecision now with
    | (.idle, _) => []
    | (.dispatch candidate, state) =>
      state.feedbackDrops candidate.frame.connId candidate feedback feedbackAt

/-- The subtractions of an operation from the accounts: the counter before, and what is
taken from it. -/
def drops (state : WorkerFairnessState) : Op → List Drop
  | .enqueueData connId flags data now => state.enqueueDrops connId flags data now
  | .dispatch now feedback feedbackAt => state.dispatchDrops now feedback feedbackAt
  | .removeFlow connId => state.removeFlowDrops connId
  | .setBackpressureEnabled _ _ => []

/-- The lengths of all queued frames, added up. -/
def heldBytes (state : WorkerFairnessState) : ℕ :=
  state.flows.total (queuedWithin everyConn)

/-- The configuration of a worker is its first one, up to the backpressure switch. -/
def KeepsLimits (limits : WorkerFairnessConfig) (state : WorkerFairnessState) : Prop :=
  ∃ enabled pressure,
    state.config = { limits with backpressureEnabled := enabled, pressure := pressure }

variable {limits : WorkerFairnessConfig} {state : WorkerFairnessState} {connId now : ℕ}

section

variable (hlimits : state.KeepsLimits limits)
include hlimits

theorem KeepsLimits.maxActiveFlows : state.config.maxActiveFlows = limits.maxActiveFlows := by
  obtain ⟨enabled, pressure, hconfig⟩ := hlimits
  rw [hconfig]

theorem KeepsLimits.maxTotalQueuedBytes :
    state.config.maxTotalQueuedBytes = limits.maxTotalQueuedBytes := by
  obtain ⟨enabled, pressure, hconfig⟩ := hlimits
  rw [hconfig]

theorem KeepsLimits.maxFlowQueuedBytes :
    state.config.maxFlowQueuedBytes = limits.maxFlowQueuedBytes := by
  obtain ⟨enabled, pressure, hconfig⟩ := hlimits
  rw [hconfig]

theorem KeepsLimits.bucketCap : state.config.bucketCap = limits.bucketCap := by
  obtain ⟨enabled, pressure, hconfig⟩ := hlimits
  rw [hconfig]
  rfl

end

theorem openFlow_edits (frameWeight : ℕ)
    (hplace : connId ∈ state.flows ∨ state.flows.keys.length < limits.maxActiveFlows) :
    Accounts.Edits limits state.accounts [] (state.openFlow connId frameWeight).2.accounts := by
  cases hlookup : state.flows.lookup connId with
  | none =>
    have hroom := hplace.resolve_left (AList.lookup_eq_none.mp hlookup)
    have hedit : Accounts.Edit limits state.accounts []
        (state.accounts.openFlow connId (state.openFlow connId frameWeight).1) := by
      simp only [openFlow, hlookup]
      exact .opened hlookup rfl rfl rfl rfl hroom
    simp only [openFlow, hlookup] at hedit ⊢
    exact hedit.edits
  | some flow =>
    have hedit : Accounts.Edit limits state.accounts
        (state.accounts.putDrops flow (state.openFlow connId frameWeight).1)
        (state.accounts.put connId flow (state.openFlow connId frameWeight).1) := by
      simp only [openFlow, hlookup]
      exact .keep hlookup rfl (Or.inl rfl) rfl
    simp only [openFlow, hlookup] at hedit ⊢
    simp only [Accounts.putDrops, Accounts.put, memberDrops, memberCount, flowMembership,
      Bool.and_not_self, if_true, Bool.false_eq_true, if_false, append_nil] at hedit
    exact hedit.edits

variable {flow : FlowEntry}

theorem room_of_checks {books : Accounts} {bytes : ℕ} (haudited : books.Audited limits)
    (hmachine : Accounts.MachineLimits limits) (hlookup : books.flows.lookup connId = some flow)
    (hmemory : limits.maxTotalQueuedBytes = u64Max → books.total + bytes ≤ u64Max)
    (htotal : satAdd u64Max books.total bytes ≤ limits.maxTotalQueuedBytes)
    (hbucket : satAdd u64Max (books.buckets.getD flow.fairness.bucketId 0) bytes ≤ limits.bucketCap)
    (hflow : satAdd u64Max flow.fairness.pendingBytes bytes ≤ limits.maxFlowQueuedBytes) :
    books.Room limits flow bytes := by
  have hmax := hmachine.total
  have hsum : books.total + bytes ≤ limits.maxTotalQueuedBytes := by
    by_cases hlargest : limits.maxTotalQueuedBytes = u64Max
    · rw [hlargest]
      exact hmemory hlargest
    · unfold satAdd at htotal
      omega
  have hpending : flow.fairness.pendingBytes ≤ books.total := by
    have hrow := Table.weight_le_total (queuedWithin everyConn) hlookup
    rw [haudited.counts.pending connId flow hlookup, haudited.counts.total]
    exact hrow
  have hamount : books.buckets.getD flow.fairness.bucketId 0 ≤ books.total := by
    rw [haudited.counts.bucket]
    exact haudited.counts.queued_le_total _
  unfold satAdd at hbucket hflow
  exact ⟨hsum, by omega, by omega⟩

variable {frame : QueuedFrame}

theorem admitFrame_heldBytes (hlookup : state.flows.lookup connId = some flow) :
    (state.admitFrame connId flow frame now).heldBytes = state.heldBytes + frame.queuedBytes := by
  have hflows := congrArg Accounts.flows (admitFrame_accounts state connId flow frame now)
  have hscope : everyConn connId = true := rfl
  have hinside := Accounts.queued_inside hscope hlookup
    (flow.pushBack state.config state.pressure.state now frame)
  have hqueue := pushBack_queueBytes state.config state.pressure.state now flow frame
  change (state.admitFrame connId flow frame now).flows = state.flows.insert connId _ at hflows
  rw [heldBytes, heldBytes, hflows]
  omega

theorem admitFrame_edit (haudited : state.accounts.Audited limits)
    (hlookup : state.flows.lookup connId = some flow)
    (hroom : state.accounts.Room limits flow frame.queuedBytes) :
    Accounts.Edit limits state.accounts (state.accounts.putDrops flow
        (flow.pushBack state.config state.pressure.state now frame))
      (state.admitFrame connId flow frame now).accounts := by
  have hplaced : flow.fairness.bucketId = state.bucketFor connId :=
    haudited.bucketed.placed connId flow hlookup
  rw [admitFrame_accounts, ← hplaced]
  exact .charge hlookup (pushBack_queueBytes _ _ _ _ _) rfl rfl hroom

theorem enqueueData_edits (haudited : state.accounts.Audited limits)
    (hmachine : Accounts.MachineLimits limits) (hlimits : state.KeepsLimits limits)
    (flags : ℕ) (data : List Byte) (hmemory : limits.maxTotalQueuedBytes = u64Max →
      (state.enqueueData connId flags data now).2.heldBytes ≤ u64Max) :
    Accounts.Edits limits state.accounts (state.enqueueDrops connId flags data now)
      (state.enqueueData connId flags data now).2.accounts := by
  have hexit := enqueueData_exit state connId flags data now
  unfold enqueueDrops
  generalize state.enqueueData connId flags data now = answer at hexit hmemory ⊢
  cases hexit with
  | saturated => exact .done
  | refused hdecision =>
    split
    · next hadmitted => exact absurd hadmitted hdecision
    · exact .done
  | refusedOpen hdecision _ hpassed =>
    simp only [RefusedUnopened, not_or, not_and_or, not_not, not_le] at hpassed
    split
    · next hadmitted => exact absurd hadmitted hdecision
    · exact openFlow_edits _ (hlimits.maxActiveFlows ▸ hpassed.2.2.1)
  | admitted hpassed hflow =>
    simp only [RefusedUnopened, not_or, not_and_or, not_not, not_lt, not_le] at hpassed
    obtain ⟨-, htotal, hplace, hbucket⟩ := hpassed
    rw [hlimits.maxActiveFlows] at hplace
    rw [hlimits.maxTotalQueuedBytes] at htotal
    rw [hlimits.bucketCap] at hbucket
    rw [hlimits.maxFlowQueuedBytes] at hflow
    have hopen := openFlow_spec state connId (state.config.weightForFlags flags)
    have hedits := openFlow_edits (state.config.weightForFlags flags) hplace
    have hopened := hedits.audited hmachine haudited
    have hlookup := hopen.lookup
    dsimp only
    generalize (state.openFlow connId (state.config.weightForFlags flags)).1 = flow at *
    generalize (state.openFlow connId (state.config.weightForFlags flags)).2 = opened at *
    have hplaced : flow.fairness.bucketId = opened.bucketFor connId :=
      hopened.bucketed.placed connId flow hlookup
    have hroom : opened.accounts.Room limits flow
        (QueuedFrame.queuedBytes ⟨connId, flags, data, now⟩) := by
      apply room_of_checks hopened hmachine hlookup
      · intro hlargest
        have hheld := hmemory hlargest
        rw [admitFrame_heldBytes hlookup] at hheld
        rw [hopened.counts.total]
        exact hheld
      · rw [← hopen.total] at htotal
        exact htotal
      · rw [bucketFor, ← hopen.buckets] at hbucket
        rw [hplaced]
        exact hbucket
      · exact hflow
    exact hedits.append (admitFrame_edit hopened hlookup hroom).edits

theorem visitConn_edits (connId now : ℕ) (haudited : state.accounts.Audited limits) :
    Accounts.Edits limits state.accounts (state.visitConnDrops connId now)
        (state.visitConn connId now).2.accounts ∧
      ∀ candidate, (state.visitConn connId now).1 = some candidate →
        ∃ entry, (state.visitConn connId now).2.flows.lookup connId = some entry ∧
          (state.visitConn connId now).2.accounts.Room limits entry
            candidate.frame.queuedBytes := by
  unfold visitConn visitConnDrops
  cases hlookup : state.flows.lookup connId with
  | none => exact ⟨.done, nofun⟩
  | some flow =>
    have hvisit := visit_spec state.config state.pressure.state now flow
    dsimp only
    generalize (flow.visit state.config state.pressure.state now).1 = found at hvisit ⊢
    generalize (flow.visit state.config state.pressure.state now).2 = visited at hvisit ⊢
    cases hvisit with
    | idle hempty hqueue hpending hstanding hbucket =>
      have hedit : Accounts.Edit limits state.accounts
          (state.accounts.putDrops flow visited) (state.accounts.put connId flow visited) :=
        .keep hlookup (hqueue.trans hempty.symm) (Or.inr ⟨hpending, hqueue⟩) hbucket
      exact ⟨hedit.edits.append .done, nofun⟩
    | skipped hsome hqueue hpending hbucket =>
      have hedit : Accounts.Edit limits state.accounts
          (state.accounts.putDrops flow visited) (state.accounts.put connId flow visited) :=
        .keep hlookup hqueue (Or.inl hpending) hbucket
      refine ⟨?_, nofun⟩
      simp only [settleVisit, accounts_enqueueActiveConn]
      exact hedit.edits.append .done
    | @drained _ frame hqueue hpending hbucket =>
      have hbytes : queueBytes visited.queue + frame.queuedBytes = queueBytes flow.queue := by
        rw [hqueue, queueBytes_cons]
        omega
      have hflows := settleVisit_flows (state.putFlow connId flow visited) connId visited
        (.drained frame)
      rw [settleVisit_drained, hflows, visitDrops, hbucket]
      constructor
      · exact (Accounts.Edit.release hlookup hbytes hpending hbucket).edits
      · intro candidate hcandidate
        cases hcandidate
        exact ⟨visited, AList.lookup_insert _,
          haudited.room_of_release hlookup hbytes hpending hbucket⟩

/-- What a decision leaves to the feedback. -/
structure Decided (limits : WorkerFairnessConfig) (state : WorkerFairnessState)
    (drops : List Drop) (decision : SchedulerDecision) (next : WorkerFairnessState) : Prop where
  edits : Accounts.Edits limits state.accounts drops next.accounts
  room : ∀ candidate, decision = .dispatch candidate →
    ∃ entry, next.flows.lookup candidate.frame.connId = some entry ∧
      next.accounts.Room limits entry candidate.frame.queuedBytes

theorem Decided.idle (limits : WorkerFairnessConfig) (state : WorkerFairnessState) :
    Decided limits state [] .idle state where
  edits := .done
  room := by
    intro candidate hcandidate
    cases hcandidate

theorem visitRing_decided (now rounds : ℕ) (hbooks : Books none state)
    (haudited : state.accounts.Audited limits) (hmachine : Accounts.MachineLimits limits) :
    Decided limits state (visitRingDrops rounds state now) (visitRing rounds state now).1
      (visitRing rounds state now).2 := by
  induction rounds generalizing state with
  | zero => exact .idle limits state
  | succ rounds ih =>
    unfold visitRing visitRingDrops
    cases hring : state.activeRing with
    | nil => exact .idle limits state
    | cons connId ring =>
      dsimp only
      by_cases hmember : connId ∈ state.activeRingMembers
      · rw [if_pos hmember, if_pos hmember]
        have hleft : Books none ((state.popRing ring).leaveRing connId) := hbooks.congr rfl rfl rfl
        have hspec := visitConn_spec connId now hleft
        have hpopped : ((state.popRing ring).leaveRing connId).accounts.Audited limits := haudited
        have hvisit := visitConn_edits connId now hpopped
        cases hanswer : ((state.popRing ring).leaveRing connId).visitConn connId now with
        | mk found next =>
          rw [hanswer] at hspec hvisit
          cases hspec with
          | nothing hqueues hnext =>
            have hrest := ih hnext (hvisit.1.audited hmachine hpopped)
            exact ⟨hvisit.1.append hrest.edits, hrest.room⟩
          | frame hconn hmem hqueue hothers hnext =>
            refine ⟨hvisit.1.append .done, ?_⟩
            intro candidate hcandidate
            cases hcandidate
            rw [hconn]
            exact hvisit.2 _ rfl
      · rw [if_neg hmember, if_neg hmember]
        have hpopped : Books none (state.popRing ring) := hbooks.congr rfl rfl rfl
        have haccounts : (state.popRing ring).accounts.Audited limits := haudited
        have hrest := ih hpopped haccounts
        exact ⟨hrest.edits, hrest.room⟩

theorem nextDecision_decided (now : ℕ) (hbooks : Books none state)
    (haudited : state.accounts.Audited limits) (hmachine : Accounts.MachineLimits limits) :
    Decided limits state (state.nextDecisionDrops now) (state.nextDecision now).1
      (state.nextDecision now).2 := by
  have hstart : Books none (state.countRound.evaluatePressure now false) := hbooks.congr rfl rfl rfl
  have haccounts : (state.countRound.evaluatePressure now false).accounts.Audited limits := haudited
  have hdecided := visitRing_decided now
    (state.countRound.evaluatePressure now false).activeRing.length hstart haccounts hmachine
  exact ⟨hdecided.edits, hdecided.room⟩

/-! ## Removal and feedback -/

section

variable (limits : WorkerFairnessConfig) (state : WorkerFairnessState) (connId : ℕ)

theorem removeFlow_edits :
    Accounts.Edits limits state.accounts (state.removeFlowDrops connId)
      (state.removeFlow connId).accounts := by
  unfold removeFlow removeFlowDrops
  cases hlookup : state.flows.lookup connId with
  | none => exact .done
  | some entry => exact (Accounts.Edit.closed hlookup).edits

theorem feedbackRouted_edits (frame : QueuedFrame) (now : ℕ) :
    Accounts.Edits limits state.accounts (state.feedbackRoutedDrops connId frame now)
      (state.feedbackRouted connId frame now).accounts := by
  unfold feedbackRouted feedbackRoutedDrops
  cases hlookup : state.flows.lookup connId with
  | none => exact .done
  | some flow =>
    apply Accounts.Edit.edits
    exact .keep hlookup rfl (Or.inl rfl) rfl

end

theorem stallFrame_edits (now : ℕ) (hlookup : state.flows.lookup connId = some flow)
    (hroom : state.accounts.Room limits flow frame.queuedBytes) :
    Accounts.Edits limits state.accounts (state.stallFrameDrops flow frame now)
      (state.stallFrame connId flow frame now).accounts := by
  have hqueue := noteStall_queue state.config flow
  have hpending := noteStall_pending state.config flow
  have hbucket := noteStall_bucketId state.config flow
  unfold stallFrame stallFrameDrops
  apply Accounts.Edit.edits
  split
  · exact .keep hlookup hqueue (Or.inl hpending) hbucket
  · have hbytes : queueBytes (((flow.noteStall state.config).pushFront frame).classify
        state.config state.pressure.state now).queue =
          queueBytes flow.queue + frame.queuedBytes := by
      simp only [FlowEntry.classify, FlowEntry.pushFront, queueBytes_cons, hqueue]
      omega
    have hcharged : (((flow.noteStall state.config).pushFront frame).classify
        state.config state.pressure.state now).fairness.pendingBytes =
          satAdd u64Max flow.fairness.pendingBytes frame.queuedBytes := by
      simp only [FlowEntry.classify, FlowEntry.pushFront, classifyFlow_pendingBytes, hpending]
    rw [requeueFrame_accounts]
    exact .charge hlookup hbytes hcharged hbucket hroom

theorem noteRouteStall_accounts (state : WorkerFairnessState) (now : ℕ) :
    (state.noteRouteStall now).accounts = state.accounts := by
  unfold noteRouteStall
  split <;> rfl

theorem feedbackQueueFull_edits (hlookup : state.flows.lookup connId = some flow)
    (hroom : state.accounts.Room limits flow frame.queuedBytes) :
    Accounts.Edits limits state.accounts (state.feedbackQueueFullDrops connId frame now)
      (state.feedbackQueueFull connId frame now).2.accounts := by
  have hnoted : (state.noteRouteStall now).flows.lookup connId = some flow := by
    rw [noteRouteStall_flows]
    exact hlookup
  have hsame := noteRouteStall_accounts state now
  rw [← hsame] at hroom ⊢
  have hstall := stallFrame_edits now hnoted hroom
  unfold feedbackQueueFull feedbackQueueFullDrops
  simp only [hnoted]
  split
  · exact hstall.append (removeFlow_edits limits _ connId)
  · exact hstall.append .done

theorem applyDispatchFeedback_edits {candidate : DispatchCandidate}
    (hlookup : state.flows.lookup connId = some flow)
    (hroom : state.accounts.Room limits flow candidate.frame.queuedBytes)
    (feedback : DispatchFeedback) :
    Accounts.Edits limits state.accounts (state.feedbackDrops connId candidate feedback now)
      (state.applyDispatchFeedback connId candidate feedback now).2.accounts := by
  cases feedback with
  | routed => exact feedbackRouted_edits limits state connId candidate.frame now
  | queueFull => exact feedbackQueueFull_edits hlookup hroom
  | channelClosed | noConn => exact removeFlow_edits limits state connId

theorem dispatch_edits (hbooks : Books none state) (haudited : state.accounts.Audited limits)
    (hmachine : Accounts.MachineLimits limits) (feedback : DispatchFeedback) (feedbackAt : ℕ) :
    Accounts.Edits limits state.accounts (state.dispatchDrops now feedback feedbackAt)
      (state.dispatch now feedback feedbackAt).accounts := by
  have hdecided := nextDecision_decided now hbooks haudited hmachine
  unfold dispatch dispatchDrops
  cases hanswer : state.nextDecision now with
  | mk decision next =>
    rw [hanswer] at hdecided
    cases decision with
    | idle => exact hdecided.edits.append .done
    | dispatch candidate =>
      obtain ⟨entry, hlookup, hroom⟩ := hdecided.room candidate rfl
      exact hdecided.edits.append (applyDispatchFeedback_edits hlookup hroom feedback)

/-- The second worker has the configuration and the evaluator of the first. -/
structure SameControl (state next : WorkerFairnessState) : Prop where
  config : next.config = state.config
  pressure : next.pressure = state.pressure

theorem SameControl.trans {middle next : WorkerFairnessState}
    (hfirst : SameControl state middle) (hsecond : SameControl middle next) :
    SameControl state next :=
  ⟨hsecond.config.trans hfirst.config, hsecond.pressure.trans hfirst.pressure⟩

section

variable (state : WorkerFairnessState)

theorem enqueueActiveConn_control (connId : ℕ) :
    SameControl state (state.enqueueActiveConn connId) := by
  unfold enqueueActiveConn
  split <;> exact ⟨rfl, rfl⟩

theorem rejoin_control (connId : ℕ) (flow : FlowEntry) :
    SameControl state
      (if flow.fairness.inActiveRing then state else state.enqueueActiveConn connId) := by
  split
  · exact ⟨rfl, rfl⟩
  · exact enqueueActiveConn_control state connId

theorem enqueueData_config (connId flags : ℕ) (data : List Byte) (now : ℕ) :
    (state.enqueueData connId flags data now).2.config = state.config := by
  have hexit := enqueueData_exit state connId flags data now
  have hopen := openFlow_spec state connId (state.config.weightForFlags flags)
  generalize state.enqueueData connId flags data now = answer at hexit ⊢
  cases hexit with
  | saturated | refused => rfl
  | refusedOpen => exact hopen.config
  | admitted => exact (rejoin_control _ connId _).config.trans hopen.config

theorem settleVisit_control (connId : ℕ) (visited : FlowEntry) (found : FlowEntry.Visit) :
    SameControl state (state.settleVisit connId visited found).2 := by
  have hjoined := fun worker => enqueueActiveConn_control worker connId
  cases found with
  | idle => exact ⟨rfl, rfl⟩
  | skipped => exact ⟨(hjoined _).config, (hjoined _).pressure⟩
  | drained frame =>
    simp only [settleVisit]
    split
    · split <;> exact ⟨rfl, rfl⟩
    · split <;> exact ⟨(hjoined _).config, (hjoined _).pressure⟩

theorem visitConn_control (connId now : ℕ) : SameControl state (state.visitConn connId now).2 := by
  unfold visitConn
  split
  · exact ⟨rfl, rfl⟩
  · next flow hlookup =>
    have hsettled := fun visited found =>
      settleVisit_control (state.putFlow connId flow visited) connId visited found
    exact ⟨(hsettled _ _).config, (hsettled _ _).pressure⟩

end

theorem visitRing_control (rounds : ℕ) (state : WorkerFairnessState) (now : ℕ) :
    SameControl state (visitRing rounds state now).2 := by
  induction rounds generalizing state with
  | zero => exact ⟨rfl, rfl⟩
  | succ rounds ih =>
    unfold visitRing
    split
    · exact ⟨rfl, rfl⟩
    · next connId ring hring =>
      have hpopped : SameControl state (state.popRing ring) := ⟨rfl, rfl⟩
      have hleft : SameControl state ((state.popRing ring).leaveRing connId) := ⟨rfl, rfl⟩
      split
      · have hvisit := hleft.trans (visitConn_control _ connId now)
        split
        · next candidate next hanswer =>
          rw [hanswer] at hvisit
          exact hvisit
        · next next hanswer =>
          rw [hanswer] at hvisit
          exact hvisit.trans (ih next)
      · exact hpopped.trans (ih (state.popRing ring))

section

variable (state : WorkerFairnessState) (connId : ℕ)

theorem removeFlow_control : SameControl state (state.removeFlow connId) := by
  unfold removeFlow
  split <;> exact ⟨rfl, rfl⟩

theorem stallFrame_control (flow : FlowEntry) (frame : QueuedFrame) (now : ℕ) :
    SameControl state (state.stallFrame connId flow frame now) := by
  unfold stallFrame
  split
  · exact ⟨rfl, rfl⟩
  · have hjoined := rejoin_control
      (state.chargeBytes flow.fairness.bucketId frame.queuedBytes) connId flow
    exact ⟨hjoined.config, hjoined.pressure⟩

theorem applyDispatchFeedback_config
    (candidate : DispatchCandidate) (feedback : DispatchFeedback) (now : ℕ) :
    (state.applyDispatchFeedback connId candidate feedback now).2.config = state.config := by
  cases feedback with
  | routed =>
    simp only [applyDispatchFeedback, feedbackRouted]
    split <;> rfl
  | queueFull =>
    simp only [applyDispatchFeedback, feedbackQueueFull]
    rw [← noteRouteStall_config state now]
    split
    · rfl
    · next flow hlookup =>
      have hstalled := stallFrame_control (state.noteRouteStall now) connId flow candidate.frame now
      split
      · exact (hstalled.trans (removeFlow_control _ connId)).config
      · exact hstalled.config
  | channelClosed | noConn => exact (removeFlow_control _ _).config

end

theorem dispatch_config (state : WorkerFairnessState) (now : ℕ) (feedback : DispatchFeedback)
    (feedbackAt : ℕ) : (state.dispatch now feedback feedbackAt).config = state.config := by
  have hring : (state.nextDecision now).2.config = state.config := (visitRing_control _ _ _).config
  unfold dispatch
  cases hanswer : state.nextDecision now with
  | mk decision next =>
    rw [hanswer] at hring
    cases decision with
    | idle => exact hring
    | dispatch candidate => exact (applyDispatchFeedback_config _ _ _ _ _).trans hring

theorem KeepsLimits.step (hlimits : state.KeepsLimits limits) (op : Op) :
    (state.step op).KeepsLimits limits := by
  obtain ⟨enabled, pressure, hconfig⟩ := hlimits
  cases op with
  | enqueueData connId flags data now =>
    exact ⟨enabled, pressure, (enqueueData_config _ _ _ _ _).trans hconfig⟩
  | dispatch now feedback feedbackAt =>
    exact ⟨enabled, pressure, (dispatch_config _ _ _ _).trans hconfig⟩
  | removeFlow connId =>
    exact ⟨enabled, pressure, (removeFlow_control _ _).config.trans hconfig⟩
  | setBackpressureEnabled switched now =>
    simp only [WorkerFairnessState.step, setBackpressureEnabled]
    split
    · exact ⟨enabled, pressure, hconfig⟩
    · refine ⟨switched, { pressure with backpressureEnabled := switched }, ?_⟩
      simp only [evaluatePressure]
      rw [hconfig]

theorem keepsLimits_new (config : WorkerFairnessConfig) (start : ℕ) :
    (new config start).KeepsLimits config :=
  ⟨config.backpressureEnabled, _, rfl⟩

theorem keepsLimits_run (hlimits : state.KeepsLimits limits) (ops : List Op) :
    (state.run ops).KeepsLimits limits := by
  induction ops generalizing state with
  | nil => exact hlimits
  | cons op ops ih => exact ih (hlimits.step op)

/-! ## Runs -/

/-- One operation is a sequence of edits of the accounts. -/
theorem step_edits (hbooks : Books none state) (haudited : state.accounts.Audited limits)
    (hmachine : Accounts.MachineLimits limits) (hlimits : state.KeepsLimits limits) (op : Op)
    (hmemory : limits.maxTotalQueuedBytes = u64Max → (state.step op).heldBytes ≤ u64Max) :
    Accounts.Edits limits state.accounts (state.drops op) (state.step op).accounts := by
  cases op with
  | enqueueData connId flags data now =>
    exact enqueueData_edits haudited hmachine hlimits flags data hmemory
  | dispatch now feedback feedbackAt =>
    exact dispatch_edits hbooks haudited hmachine feedback feedbackAt
  | removeFlow connId => exact removeFlow_edits limits state connId
  | setBackpressureEnabled enabled now =>
    simp only [drops, step, setBackpressureEnabled]
    split <;> exact .done

theorem audited_new (config : WorkerFairnessConfig) (start : ℕ) :
    (new config start).accounts.Audited config := by
  have hzero : ∀ bucket, (replicate (max config.softBucketCount 1) 0).getD bucket 0 = 0 := by
    intro bucket
    rw [getD_eq_getElem?_getD, getElem?_replicate]
    split <;> rfl
  have hcounts : (new config start).accounts.Exact := by
    refine ⟨?_, rfl, hzero, hzero, rfl, rfl⟩
    intro connId flow hlookup
    cases hlookup
  have hcapped : (new config start).accounts.Capped config := by
    refine ⟨Nat.zero_le _, ?_, ?_, Nat.zero_le _⟩
    · intro connId flow hlookup
      cases hlookup
    · intro bucket
      exact (hzero bucket).le.trans (Nat.zero_le _)
  refine ⟨hcounts, hcapped, ?_, ?_, ?_⟩
  · intro connId flow hlookup
    cases hlookup
  · simp only [accounts, new, length_replicate]
    exact Nat.le_max_right _ _
  · simp only [accounts, new, length_replicate]

/-- The numbers of a run fit their machine types.  The second part speaks only of a
worker whose limit on queued bytes is the largest one there is. -/
structure FitsMachine (config : WorkerFairnessConfig) (start : ℕ) (ops : List Op) : Prop where
  limits : Accounts.MachineLimits config
  memory : config.maxTotalQueuedBytes = u64Max → ∀ before, before <+: ops →
    ((new config start).run before).heldBytes ≤ u64Max

variable {config : WorkerFairnessConfig} {start : ℕ} {ops : List Op}

theorem FitsMachine.before
    {before : List Op} (hfits : FitsMachine config start ops) (hbefore : before <+: ops) :
    FitsMachine config start before :=
  ⟨hfits.limits, fun hlargest first hfirst =>
    hfits.memory hlargest first (hfirst.trans hbefore)⟩

theorem run_concat (state : WorkerFairnessState) (ops : List Op) (op : Op) :
    state.run (ops ++ [op]) = (state.run ops).step op :=
  foldl_append

/-- The counters are exact in every reachable state. -/
theorem audited_run (hfits : FitsMachine config start ops) :
    ((new config start).run ops).accounts.Audited config := by
  induction ops using reverseRecOn with
  | nil => exact audited_new config start
  | append_singleton ops op ih =>
    have haudited := ih (hfits.before (prefix_append ops [op]))
    have hbooks := books_run (books_new config start) ops
    have hlimits := keepsLimits_run (keepsLimits_new config start) ops
    rw [run_concat]
    apply (step_edits hbooks haudited hfits.limits hlimits op _).audited hfits.limits haudited
    intro hlargest
    rw [← run_concat]
    exact hfits.memory hlargest _ prefix_rfl

/-- After every operation of every run the byte counters of the worker, of each flow and
of each bucket are the lengths of the queued frames that they stand for, and the flow
counter of a bucket is the number of its flows.  All of them are within the limits of the
configuration.  No subtraction from a counter stops at zero. -/
theorem run_accounts_exact (config : WorkerFairnessConfig) (start : ℕ) (ops : List Op)
    (hfits : FitsMachine config start ops) :
    (∀ before, before <+: ops → ((new config start).run before).accounts.Exact ∧
          ((new config start).run before).accounts.Capped config) ∧
      ∀ before op, before ++ [op] <+: ops → NoClip (((new config start).run before).drops op) := by
  constructor
  · intro before hbefore
    have haudited := audited_run (hfits.before hbefore)
    exact ⟨haudited.counts, haudited.capped⟩
  · intro before op hbefore
    have haudited := audited_run (hfits.before ((prefix_append before [op]).trans hbefore))
    have hbooks := books_run (books_new config start) before
    have hlimits := keepsLimits_run (keepsLimits_new config start) before
    apply (step_edits hbooks haudited hfits.limits hlimits op _).noClip hfits.limits haudited
    intro hlargest
    rw [← run_concat]
    exact hfits.memory hlargest _ hbefore

theorem run_accounts_exact_requeued :
    let ops : List Op := [.enqueueData 1 0 [10, 11] 0, .dispatch 1 .queueFull 1, .removeFlow 1]
    FitsMachine {} 0 ops ∧ ((new {} 0).run (ops.take 2)).accounts.Exact ∧
      ((new {} 0).run (ops.take 2)).totalQueuedBytes = 2 ∧
      ((new {} 0).run (ops.take 2)).drops (.removeFlow 1) = [(1, 1), (1, 1), (2, 2), (2, 2)] ∧
      NoClip (((new {} 0).run (ops.take 2)).drops (.removeFlow 1)) := by
  intro ops
  have hfits : FitsMachine {} 0 ops :=
    ⟨⟨by decide, by decide⟩, fun hlargest => absurd hlargest (by decide)⟩
  have hexact := run_accounts_exact {} 0 ops hfits
  exact ⟨hfits, (hexact.1 _ ⟨[.removeFlow 1], rfl⟩).1, by decide +kernel, by decide +kernel,
    hexact.2 _ _ prefix_rfl⟩

end WorkerFairnessState
end TupoProxy.Fairness
