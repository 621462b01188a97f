import TupoProxy.IdleRegistry
import TupoProxy.MiddleRelay

/-!
# A silent session under pressure

The client loop of a middle-relay session asks the registry of idle candidates at the top
of every turn whether it has to leave.  Then it waits for its client, for news of the
route and for its cancellation.  The read of the client wakes up at least every second,
but an expired timeout only restarts the read or, past the hard deadline, ends the
session: it does not take the loop back to its top.

The session is a step function over what can happen to it.  Other sessions call the
registry between any two of its steps.
-/

namespace TupoProxy.IdleEviction

open ClientFraming List
open ClientReader
open Delivery
open IdleRegistry
open MiddleRelay

inductive ConntrackPressureProfile where
  | conservative
  | balanced
  | aggressive
  deriving Repr, DecidableEq

def ConntrackPressureProfile.middleSoftIdleCapSecs : ConntrackPressureProfile → ℕ
  | .conservative => 60
  | .balanced => 30
  | .aggressive => 20

def ConntrackPressureProfile.middleHardIdleCapSecs : ConntrackPressureProfile → ℕ
  | .conservative => 180
  | .balanced => 90
  | .aggressive => 60

def applyPressureCaps (profile : ConntrackPressureProfile)
    (policy : RelayClientIdlePolicy) : RelayClientIdlePolicy :=
  let hardCap := profile.middleHardIdleCapSecs * 1000
  let softIdle := min policy.softIdle (profile.middleSoftIdleCapSecs * 1000)
  let hardIdle := min policy.hardIdle hardCap
  { policy with
    softIdle := if hardIdle < softIdle then hardIdle else softIdle
    hardIdle := hardIdle
    legacyFrameReadTimeout := min policy.legacyFrameReadTimeout hardCap
    graceAfterDownstreamActivity :=
      if hardIdle < policy.graceAfterDownstreamActivity then hardIdle
      else policy.graceAfterDownstreamActivity }

structure LoopConfig where
  connId : ℕ
  read : ReadConfig
  routeGeneration : ℕ
  profile : ConntrackPressureProfile
  deriving Repr, DecidableEq

/-- The variables of the loop, with the registry that all sessions share. -/
structure LoopState where
  registry : Registry
  session : Session
  policy : RelayClientIdlePolicy
  pressureCapsApplied : Bool
  seenPressureSeq : ℕ
  route : RouteCutoverState
  routeWatchOpen : Bool

inductive SessionEnd where
  | evicted
  | routeSwitched
  | userDisabled
  | clientClosed
  | failed (error : ReadError)
  deriving Repr, DecidableEq

/-- The loop waits in the read of a field, with the rest of its timeout and the empty
frames in a row, or it is over. -/
inductive Phase where
  | reading (label : ReadLabel) (window consecutive : ℕ)
  | ended (why : SessionEnd)
  deriving Repr, DecidableEq

structure SessionRun where
  loop : LoopState
  phase : Phase

def LoopState.readConfig (config : LoopConfig) (loop : LoopState) : ReadConfig :=
  { config.read with policy := loop.policy }

def carryOut (connId : ℕ) (registry : Registry) : IdleCall → Registry
  | .mark => (markRelayIdleCandidate registry connId).2
  | .clear => clearRelayIdleCandidate registry connId

/-- The session after some step of the reader, with the reader's calls on the registry. -/
def LoopState.advance (config : LoopConfig) (loop : LoopState) (session : Session) :
    LoopState :=
  { loop with
    session := session
    registry := (session.idleCalls.drop loop.session.idleCalls.length).foldl
      (carryOut config.connId) loop.registry }

def LoopState.finish (config : LoopConfig) (loop : LoopState) (why : SessionEnd) :
    SessionRun :=
  ⟨{ loop with registry := clearRelayIdleCandidate loop.registry config.connId }, .ended why⟩

def LoopState.startRead (config : LoopConfig) (loop : LoopState) (label : ReadLabel)
    (consecutive : ℕ) : SessionRun :=
  let answer := timeoutWindow (loop.readConfig config) loop.session
  ⟨loop.advance config answer.2, .reading label answer.1 consecutive⟩

def firstLabel : ProtoTag → ReadLabel
  | .abridged => .abridgedFirstLenByte
  | .intermediate | .secure => .lenPrefix

def LoopState.capped (config : LoopConfig) (pressureActive : Bool) (loop : LoopState) :
    LoopState :=
  if pressureActive = true ∧ loop.pressureCapsApplied = false then
    { loop with
      policy := applyPressureCaps config.profile loop.policy
      pressureCapsApplied := true }
  else loop

def LoopState.checkPressure (config : LoopConfig) (loop : LoopState) : Bool × LoopState :=
  if loop.policy.enabled then
    let answer := maybeEvictIdleCandidateOnPressure loop.registry config.connId
      loop.seenPressureSeq
    (decide (answer.1 = .evicted),
      { loop with registry := answer.2.2, seenPressureSeq := answer.2.1 })
  else (false, loop)

/-- The top of a turn, up to the read that it starts.  `pressureActive` is what the
connection tracking says at this moment. -/
def LoopState.top (config : LoopConfig) (pressureActive : Bool) (loop : LoopState) :
    SessionRun :=
  let checked := (loop.capped config pressureActive).checkPressure config
  if checked.1 then checked.2.finish config .evicted
  else if isSessionAffectedByCutover checked.2.route .middle config.routeGeneration then
    checked.2.finish config .routeSwitched
  else checked.2.startRead config (firstLabel config.read.tag) 0

def SessionRun.start (config : LoopConfig) (registry : Registry) (now : ℕ)
    (route : RouteCutoverState) (pressureActive : Bool) : SessionRun :=
  LoopState.top config pressureActive
    { registry := registry
      session := .new now
      policy := config.read.policy
      pressureCapsApplied := false
      seenPressureSeq := registry.pressureEventSeq
      route := route
      routeWatchOpen := true }

/-- A pause of the client in a read: the rest of the timeout, or the next one, or an
error. -/
def silentRead (config : ReadConfig) (label : ReadLabel) (window : ℕ) (session : Session)
    (tick : Tick) : Except ReadError ℕ × Session :=
  let session := session.pass tick
  if tick.elapsed < window then (.ok (window - tick.elapsed), session)
  else
    match expired config label session with
    | (some error, session) => (.error error, session)
    | (none, session) =>
      let answer := timeoutWindow config session
      (.ok answer.1, answer.2)

/-- What a session meets: calls of others on the registry, a pause of the client, part of
a field or a whole field and the read of the next one, an empty frame, a frame, the end of
the client, news of the route, and the end of its user. -/
inductive SessionEvent where
  | registry (op : RelayOp)
  | silence (tick : Tick)
  | bytes (label : ReadLabel)
  | emptyFrame
  | frame (pressureActive : Bool)
  | clientEnds (error : Option ReadError)
  | notice (notice : RouteNotice) (pressureActive : Bool)
  | cancelled
  deriving Repr, DecidableEq

def applyOp (op : RelayOp) (registry : Registry) : Registry :=
  (RelayHistory.step op ⟨registry, []⟩).registry

def LoopState.noticed (loop : LoopState) (notice : RouteNotice) : LoopState :=
  { loop with
    route := loop.route.noticed notice
    routeWatchOpen := decide (notice ≠ .closed) }

def SessionRun.wait (config : LoopConfig) (loop : LoopState) (label : ReadLabel)
    (window consecutive : ℕ) : SessionEvent → SessionRun
  | .registry op =>
    ⟨{ loop with registry := applyOp op loop.registry }, .reading label window consecutive⟩
  | .silence tick =>
    match silentRead (loop.readConfig config) label window loop.session tick with
    | (.ok window, session) =>
      ⟨loop.advance config session, .reading label window consecutive⟩
    | (.error error, session) => (loop.advance config session).finish config (.failed error)
  | .bytes next => loop.startRead config next consecutive
  | .emptyFrame =>
    match loop.session.onZeroLength (loop.readConfig config) consecutive with
    | (.ok consecutive, session) =>
      (loop.advance config session).startRead config (firstLabel config.read.tag)
        consecutive
    | (.error error, session) => (loop.advance config session).finish config (.failed error)
  | .frame pressureActive =>
    (loop.advance config loop.session.onFrame).top config pressureActive
  | .clientEnds none => loop.finish config .clientClosed
  | .clientEnds (some error) => loop.finish config (.failed error)
  | .notice notice pressureActive =>
    if loop.routeWatchOpen then (loop.noticed notice).top config pressureActive
    else ⟨loop, .reading label window consecutive⟩
  | .cancelled => loop.finish config .userDisabled

/-- Once the session is over only the others go on. -/
def SessionRun.step (config : LoopConfig) (event : SessionEvent) (run : SessionRun) :
    SessionRun :=
  match run.phase with
  | .reading label window consecutive =>
    SessionRun.wait config run.loop label window consecutive event
  | .ended why =>
    match event with
    | .registry op => ⟨{ run.loop with registry := applyOp op run.loop.registry }, .ended why⟩
    | _ => run

/-! ## The registry stays coherent -/

variable {registry : Registry} {config : LoopConfig} {loop : LoopState}

section

variable (hcoherent : Coherent registry)
include hcoherent

theorem coherent_mark (connId : ℕ) : Coherent (markRelayIdleCandidate registry connId).2 := by
  rcases hcoherent.mark connId with hthere | ⟨-, hmarked⟩
  · rw [hthere]
    exact hcoherent
  · exact hmarked.coherent

theorem coherent_attempt (connId seen : ℕ) :
    Coherent (maybeEvictIdleCandidateOnPressure registry connId seen).2.2 := by
  have hattempted := hcoherent.attempt connId seen
  generalize maybeEvictIdleCandidateOnPressure registry connId seen = answer at hattempted ⊢
  cases hattempted with
  | refused seen => exact hcoherent
  | foundNone hunused hempty => exact hcoherent.consume
  | evicted candidate hunused holdest hlookup hmark =>
    exact (hcoherent.consume.clear connId).coherent

theorem coherent_applyOp (op : RelayOp) : Coherent (applyOp op registry) := by
  cases op with
  | mark connId => exact coherent_mark hcoherent connId
  | clear connId => exact (hcoherent.clear connId).coherent
  | pressure => exact hcoherent.pressure
  | attempt connId seen => exact coherent_attempt hcoherent connId seen

theorem coherent_calls (connId : ℕ) (calls : List IdleCall) :
    Coherent (calls.foldl (carryOut connId) registry) := by
  induction calls generalizing registry with
  | nil => exact hcoherent
  | cons call calls ih =>
    cases call with
    | mark => exact ih (coherent_mark hcoherent connId)
    | clear => exact ih (hcoherent.clear connId).coherent

end

theorem coherent_run_calls (ops : List RelayOp) :
    Coherent (Runs.run RelayHistory.step ops .start).registry := by
  have haccounted : Accounted (Runs.run RelayHistory.step ops .start) :=
    (Runs.along_true ops _).invariant (fun _ op hbefore _ => hbefore.step op) .start
  exact haccounted.1.coherent

def SessionRun.Coherent (run : SessionRun) : Prop :=
  IdleRegistry.Coherent run.loop.registry

section

variable (hcoherent : Coherent loop.registry)
include hcoherent

theorem coherent_startRead (label : ReadLabel)
    (consecutive : ℕ) : (loop.startRead config label consecutive).Coherent :=
  coherent_calls hcoherent config.connId _

theorem coherent_advance (session : Session) : Coherent (loop.advance config session).registry :=
  coherent_calls hcoherent config.connId _

theorem coherent_finish (why : SessionEnd) : (loop.finish config why).Coherent :=
  (hcoherent.clear config.connId).coherent

omit hcoherent in
theorem capped_registry (pressureActive : Bool) :
    (loop.capped config pressureActive).registry = loop.registry := by
  unfold LoopState.capped
  split_ifs <;> rfl

theorem coherent_checkPressure : Coherent (loop.checkPressure config).2.registry := by
  unfold LoopState.checkPressure
  split_ifs
  · exact coherent_attempt hcoherent _ _
  · exact hcoherent

theorem coherent_top (pressureActive : Bool) : (loop.top config pressureActive).Coherent := by
  have hchecked : Coherent ((loop.capped config pressureActive).checkPressure config).2.registry :=
    coherent_checkPressure ((capped_registry pressureActive).symm ▸ hcoherent)
  unfold LoopState.top
  dsimp only
  split_ifs
  · exact coherent_finish hchecked _
  · exact coherent_finish hchecked _
  · exact coherent_startRead hchecked _ _

theorem coherent_wait (label : ReadLabel) (window consecutive : ℕ) (event : SessionEvent) :
    (SessionRun.wait config loop label window consecutive event).Coherent := by
  cases event with
  | registry op => exact coherent_applyOp hcoherent op
  | silence tick =>
    simp only [SessionRun.wait]
    split
    · exact coherent_advance hcoherent _
    · exact coherent_finish (coherent_advance hcoherent _) _
  | bytes next => exact coherent_startRead hcoherent next consecutive
  | emptyFrame =>
    simp only [SessionRun.wait]
    split
    · exact coherent_startRead (coherent_advance hcoherent _) _ _
    · exact coherent_finish (coherent_advance hcoherent _) _
  | frame pressureActive => exact coherent_top (coherent_advance hcoherent _) pressureActive
  | clientEnds error =>
    cases error with
    | none | some => exact coherent_finish hcoherent _
  | notice notice pressureActive =>
    simp only [SessionRun.wait]
    split_ifs
    · have hnoticed : Coherent (loop.noticed notice).registry := hcoherent
      exact coherent_top hnoticed pressureActive
    · exact hcoherent
  | cancelled => exact coherent_finish hcoherent _

end

/-- Whatever a session meets, its registry stays coherent. -/
theorem coherent_step {run : SessionRun} (hcoherent : run.Coherent) (event : SessionEvent) :
    (run.step config event).Coherent := by
  unfold SessionRun.step
  split
  · exact coherent_wait hcoherent _ _ _ event
  · split
    · exact coherent_applyOp hcoherent _
    · exact hcoherent

theorem coherent_session (config : LoopConfig) (ops : List RelayOp) (now : ℕ)
    (route : RouteCutoverState) (pressureActive : Bool) (events : List SessionEvent) :
    (Runs.run (SessionRun.step config) events
      (SessionRun.start config (Runs.run RelayHistory.step ops .start).registry now route
        pressureActive)).Coherent := by
  have hstart : (SessionRun.start config (Runs.run RelayHistory.step ops .start).registry now
      route pressureActive).Coherent := by
    refine coherent_top ?_ pressureActive
    exact coherent_run_calls ops
  have hkept : ∀ (run : SessionRun) (event : SessionEvent), run.Coherent → True →
      (run.step config event).Coherent := fun run event hcoherent _ => coherent_step hcoherent event
  exact (Runs.along_true events _).invariant hkept hstart

/-- The connection is the candidate with the oldest mark, and a pressure event newer than
the mark has not been used. -/
structure Due (registry : Registry) (connId : ℕ) : Prop where
  oldest : (registry.ordered.map Prod.snd).head? = some connId
  mark : ∃ candidate, registry.byConnId.lookup connId = some candidate ∧
    candidate.markPressureSeq < registry.pressureEventSeq
  unconsumed : registry.pressureConsumedSeq < registry.pressureEventSeq

variable {connId : ℕ}

theorem Due.evicts {seen : ℕ} (hdue : Due registry connId)
    (hcoherent : Coherent registry) (hunseen : seen < registry.pressureEventSeq) :
    (maybeEvictIdleCandidateOnPressure registry connId seen).1 = .evicted := by
  obtain ⟨candidate, hlookup, hmark⟩ := hdue.mark
  have hunconsumed := hdue.unconsumed
  have holdest := hdue.oldest
  unfold maybeEvictIdleCandidateOnPressure
  simp only [hcoherent.dropStale]
  rw [if_neg (Nat.ne_of_gt hunseen), if_neg (Nat.ne_of_gt hunconsumed)]
  split
  next hempty =>
    rw [hempty] at holdest
    cases holdest
  next markOrderSeq oldest rest hordered =>
    rw [hordered, map_cons, head?_cons, Option.some.injEq] at holdest
    rw [if_neg (not_not.mpr holdest), hlookup]
    dsimp only
    rw [if_neg (Nat.ne_of_gt hmark)]

def callerOf : RelayOp → Option ℕ
  | .mark connId => some connId
  | .clear connId => some connId
  | .pressure => none
  | .attempt connId _ => some connId

theorem head_erase_of_ne {waiting : List ℕ} {other : ℕ}
    (hhead : waiting.head? = some connId) (hne : connId ≠ other) :
    (waiting.erase other).head? = some connId := by
  cases waiting with
  | nil => cases hhead
  | cons first rest =>
    rw [head?_cons, Option.some.injEq] at hhead
    rw [hhead, erase_cons_tail (by simpa using hne), head?_cons]

theorem Due.applyOp (hdue : Due registry connId) (hcoherent : Coherent registry)
    {op : RelayOp} (hother : callerOf op ≠ some connId) :
    Due (applyOp op registry) connId ∧
      registry.pressureEventSeq ≤ (applyOp op registry).pressureEventSeq := by
  obtain ⟨candidate, hlookup, hmark⟩ := hdue.mark
  cases op with
  | mark other =>
    have hne : connId ≠ other := fun hsame => hother (by rw [hsame]; rfl)
    change Due (markRelayIdleCandidate registry other).2 connId ∧ _ ≤
      (markRelayIdleCandidate registry other).2.pressureEventSeq
    rcases hcoherent.mark other with hthere | ⟨-, hmarked⟩
    · rw [hthere]
      exact ⟨hdue, Nat.le_refl _⟩
    · refine ⟨⟨?_, ⟨candidate, ?_, ?_⟩, ?_⟩, Nat.le_of_eq hmarked.events.symm⟩
      · rw [hmarked.ordered, map_append, head?_append, hdue.oldest]
        rfl
      · rw [hmarked.byConnId, AList.lookup_insert_ne hne]
        exact hlookup
      · rw [hmarked.events]
        exact hmark
      · rw [hmarked.events, hmarked.consumed]
        exact hdue.unconsumed
  | clear other =>
    have hne : connId ≠ other := fun hsame => hother (by rw [hsame]; rfl)
    have hcleared := hcoherent.clear other
    change Due (clearRelayIdleCandidate registry other) connId ∧ _ ≤
      (clearRelayIdleCandidate registry other).pressureEventSeq
    refine ⟨⟨?_, ⟨candidate, ?_, ?_⟩, ?_⟩, Nat.le_of_eq hcleared.events.symm⟩
    · rw [hcleared.waiting]
      exact head_erase_of_ne hdue.oldest hne
    · exact (hcleared.others connId candidate).mpr ⟨hne, hlookup⟩
    · rw [hcleared.events]
      exact hmark
    · rw [hcleared.events, hcleared.consumed]
      exact hdue.unconsumed
  | pressure =>
    exact ⟨⟨hdue.oldest, ⟨candidate, hlookup, Nat.lt_succ_of_lt hmark⟩,
      Nat.lt_succ_of_lt hdue.unconsumed⟩, Nat.le_succ _⟩
  | attempt other seen =>
    have hne : connId ≠ other := fun hsame => hother (by rw [hsame]; rfl)
    have hattempted := hcoherent.attempt other seen
    change Due (maybeEvictIdleCandidateOnPressure registry other seen).2.2 connId ∧ _ ≤
      (maybeEvictIdleCandidateOnPressure registry other seen).2.2.pressureEventSeq
    generalize maybeEvictIdleCandidateOnPressure registry other seen = answer at hattempted ⊢
    have holdest := hdue.oldest
    cases hattempted with
    | refused seen => exact ⟨hdue, Nat.le_refl _⟩
    | foundNone hunused hempty =>
      rw [hempty] at holdest
      cases holdest
    | evicted found hunused hhead hfound hnewer =>
      rw [hhead, Option.some.injEq] at holdest
      exact absurd holdest.symm hne

/-- A pause of the client, or a call of another session. -/
def SessionEvent.quiet (connId : ℕ) : SessionEvent → Bool
  | .registry op => decide (callerOf op ≠ some connId)
  | .silence _ => true
  | _ => false

def SessionEvent.elapsed : SessionEvent → ℕ
  | .silence tick => tick.elapsed
  | _ => 0

def elapsed (events : List SessionEvent) : ℕ :=
  (events.map SessionEvent.elapsed).sum

/-- The session is due, has not seen the event, and waits in a read with so much left of
its timeout. -/
structure Waits (config : LoopConfig) (window : ℕ) (run : SessionRun) : Prop where
  phase : ∃ label consecutive, run.phase = .reading label window consecutive
  enabled : run.loop.policy.enabled = true
  watched : run.loop.routeWatchOpen = true
  coherent : Coherent run.loop.registry
  due : Due run.loop.registry config.connId
  unseen : run.loop.seenPressureSeq < run.loop.registry.pressureEventSeq

variable {run : SessionRun} {window : ℕ}

theorem advance_pass (tick : Tick) :
    loop.advance config (loop.session.pass tick) =
      { loop with session := loop.session.pass tick } := by
  simp [LoopState.advance, Session.pass]

variable {event : SessionEvent}

/-- A quiet event that comes in time only shortens the window. -/
theorem Waits.step (hwaits : Waits config window run)
    (hquiet : event.quiet config.connId = true) (hearly : event.elapsed < window) :
    Waits config (window - event.elapsed) (run.step config event) := by
  obtain ⟨label, consecutive, hphase⟩ := hwaits.phase
  unfold SessionRun.step
  rw [hphase]
  cases event with
  | registry op =>
    have hother : callerOf op ≠ some config.connId := by
      simpa [SessionEvent.quiet] using hquiet
    obtain ⟨hdue, hevents⟩ := hwaits.due.applyOp hwaits.coherent hother
    exact ⟨⟨label, consecutive, rfl⟩, hwaits.enabled, hwaits.watched,
      coherent_applyOp hwaits.coherent op, hdue, hwaits.unseen.trans_le hevents⟩
  | silence tick =>
    have htick : tick.elapsed < window := hearly
    simp only [SessionRun.wait, silentRead, if_pos htick, advance_pass]
    exact ⟨⟨label, consecutive, rfl⟩, hwaits.enabled, hwaits.watched, hwaits.coherent,
      hwaits.due, hwaits.unseen⟩
  | bytes | emptyFrame | frame | clientEnds | notice | cancelled => cases hquiet

variable {events : List SessionEvent}

theorem Waits.over (hwaits : Waits config window run)
    (hquiet : ∀ event ∈ events, event.quiet config.connId = true)
    (hearly : elapsed events < window) :
    Waits config (window - elapsed events) (Runs.run (SessionRun.step config) events run) := by
  induction events generalizing run window with
  | nil => exact hwaits
  | cons event events ih =>
    have hsum : elapsed (event :: events) = event.elapsed + elapsed events := by
      simp [elapsed]
    rw [hsum] at hearly ⊢
    have hstep := hwaits.step (hquiet event mem_cons_self) (by omega)
    rw [Nat.sub_add_eq]
    exact ih hstep (fun other hmem => hquiet other (mem_cons_of_mem _ hmem)) (by omega)

theorem capped_enabled (pressureActive : Bool) :
    (loop.capped config pressureActive).policy.enabled = loop.policy.enabled := by
  unfold LoopState.capped
  split_ifs <;> rfl

theorem capped_seen (pressureActive : Bool) :
    (loop.capped config pressureActive).seenPressureSeq = loop.seenPressureSeq := by
  unfold LoopState.capped
  split_ifs <;> rfl

theorem top_evicts (henabled : loop.policy.enabled = true) (hcoherent : Coherent loop.registry)
    (hdue : Due loop.registry config.connId)
    (hunseen : loop.seenPressureSeq < loop.registry.pressureEventSeq) (pressureActive : Bool) :
    (loop.top config pressureActive).phase = .ended .evicted := by
  have hevicted := hdue.evicts hcoherent hunseen
  have hchecked : ((loop.capped config pressureActive).checkPressure config).1 = true := by
    unfold LoopState.checkPressure
    rw [capped_enabled, if_pos henabled, capped_registry, capped_seen]
    exact decide_eq_true hevicted
  unfold LoopState.top
  rw [if_pos hchecked]
  rfl

theorem Waits.notice (hwaits : Waits config window run) (notice : RouteNotice)
    (pressureActive : Bool) :
    (run.step config (.notice notice pressureActive)).phase = .ended .evicted := by
  obtain ⟨label, consecutive, hphase⟩ := hwaits.phase
  unfold SessionRun.step
  rw [hphase]
  dsimp only [SessionRun.wait]
  rw [if_pos hwaits.watched]
  refine top_evicts ?_ ?_ ?_ ?_ pressureActive
  · exact hwaits.enabled
  · exact hwaits.coherent
  · exact hwaits.due
  · exact hwaits.unseen

variable {why : SessionEnd}

/-- A session that has ended stays so. -/
theorem ended_step (hended : run.phase = .ended why) (event : SessionEvent) :
    (run.step config event).phase = .ended why := by
  unfold SessionRun.step
  rw [hended]
  cases event with
  | registry op => rfl
  | _ => exact hended

theorem ended_stays (hended : run.phase = .ended why) (events : List SessionEvent) :
    (Runs.run (SessionRun.step config) events run).phase = .ended why := by
  induction events generalizing run with
  | nil => exact hended
  | cons event events ih => exact ih (ended_step hended event)

/-- In every run of a session: when it is due and waits for its silent client, and news of
the route comes before its timeout expires and before it has seen the event, it ends by
eviction, whatever the others do meanwhile and whatever comes after. -/
theorem evicted_at_notice (config : LoopConfig) (ops : List RelayOp) (now : ℕ)
    (route : RouteCutoverState) (startActive : Bool) (earlier between after : List SessionEvent)
    (notice : RouteNotice) (pressureActive : Bool) (label : ReadLabel)
    (window consecutive : ℕ) (run : SessionRun)
    (hrun : run = Runs.run (SessionRun.step config) earlier
      (SessionRun.start config (Runs.run RelayHistory.step ops .start).registry now route
        startActive)) (henabled : run.loop.policy.enabled = true)
    (hphase : run.phase = .reading label window consecutive)
    (hdue : Due run.loop.registry config.connId)
    (hunseen : run.loop.seenPressureSeq < run.loop.registry.pressureEventSeq)
    (hwatched : run.loop.routeWatchOpen = true)
    (hquiet : ∀ event ∈ between, event.quiet config.connId = true)
    (hearly : elapsed between < window) :
    (Runs.run (SessionRun.step config)
      (between ++ .notice notice pressureActive :: after) run).phase = .ended .evicted := by
  have hcoherent : run.Coherent := by
    rw [hrun]
    exact coherent_session config ops now route startActive earlier
  have hwaits : Waits config window run :=
    ⟨⟨label, consecutive, hphase⟩, henabled, hwatched, hcoherent, hdue, hunseen⟩
  have hlater := hwaits.over hquiet hearly
  rw [Runs.run_append]
  exact ended_stays (hlater.notice notice pressureActive) after

/-! ## Without news of the route -/

/-- A session that is no candidate is not evicted at the top of a turn. -/
theorem top_not_evicted (hcoherent : Coherent loop.registry)
    (habsent : loop.registry.byConnId.lookup config.connId = none) (pressureActive : Bool) :
    (loop.top config pressureActive).phase ≠ .ended .evicted := by
  have hchecked : ((loop.capped config pressureActive).checkPressure config).1 = false := by
    unfold LoopState.checkPressure
    rw [capped_registry, capped_seen]
    split_ifs
    · have hattempted := hcoherent.attempt config.connId loop.seenPressureSeq
      generalize maybeEvictIdleCandidateOnPressure loop.registry config.connId
        loop.seenPressureSeq = answer at hattempted ⊢
      cases hattempted with
      | refused | foundNone => rfl
      | evicted candidate hunused holdest hlookup hmark =>
        rw [habsent] at hlookup
        cases hlookup
    · rfl
  unfold LoopState.top
  dsimp only
  rw [hchecked, if_neg Bool.false_ne_true]
  split_ifs <;> simp [LoopState.finish, LoopState.startRead]

theorem advance_onFrame_absent (hcoherent : Coherent loop.registry) :
    (loop.advance config loop.session.onFrame).registry.byConnId.lookup config.connId =
      none := by
  have hcalls : loop.session.onFrame.idleCalls.drop loop.session.idleCalls.length = [.clear] := by
    simp [Session.onFrame]
  have hcleared := hcoherent.clear config.connId
  unfold LoopState.advance
  rw [hcalls]
  rw [Option.eq_none_iff_forall_ne_some]
  intro candidate hlookup
  exact ((hcleared.others _ candidate).mp hlookup).1 rfl

def SessionEvent.isNotice : SessionEvent → Bool
  | .notice _ _ => true
  | _ => false

/-- Nothing but news of the route evicts a session. -/
theorem step_not_evicted (hevent : event.isNotice = false)
    (hcoherent : run.Coherent) (hrun : run.phase ≠ .ended .evicted) :
    (run.step config event).phase ≠ .ended .evicted := by
  cases hphase : run.phase with
  | ended why =>
    rw [ended_step hphase event, ← hphase]
    exact hrun
  | reading label window consecutive =>
    unfold SessionRun.step
    rw [hphase]
    cases event with
    | registry op => simp [SessionRun.wait]
    | silence tick =>
      simp only [SessionRun.wait]
      split <;> simp [LoopState.finish]
    | bytes next => simp [SessionRun.wait, LoopState.startRead]
    | emptyFrame =>
      simp only [SessionRun.wait]
      split <;> simp [LoopState.finish, LoopState.startRead]
    | frame pressureActive =>
      exact top_not_evicted (coherent_advance hcoherent _)
        (advance_onFrame_absent hcoherent) pressureActive
    | clientEnds error => cases error <;> simp [SessionRun.wait, LoopState.finish]
    | notice notice pressureActive => cases hevent
    | cancelled => simp [SessionRun.wait, LoopState.finish]

/-- Without news of the route a session that runs is never evicted, whatever the pressure
and whatever its client and the other sessions do. -/
theorem run_not_evicted
    (hevents : ∀ event ∈ events, event.isNotice = false) (hcoherent : run.Coherent)
    (hrun : run.phase ≠ .ended .evicted) :
    (Runs.run (SessionRun.step config) events run).phase ≠ .ended .evicted := by
  have hstep : ∀ (run : SessionRun) (event : SessionEvent),
      run.Coherent ∧ run.phase ≠ .ended .evicted → event.isNotice = false →
        (run.step config event).Coherent ∧ (run.step config event).phase ≠ .ended .evicted :=
    fun run event hbefore hevent => ⟨coherent_step hbefore.1 event,
      step_not_evicted hevent hbefore.1 hbefore.2⟩
  have halong := @Runs.along_of_forall _ _ (SessionRun.step config)
    (fun event => event.isNotice = false) events hevents run
  exact (halong.invariant hstep ⟨hcoherent, hrun⟩).2

def silentConfig : LoopConfig :=
  ⟨7, ⟨.intermediate, 64, ⟨true, 1000, 5000, 0, 5000⟩, 0⟩, 0, .balanced⟩

def silentStart : SessionRun :=
  SessionRun.start silentConfig Registry.empty 0 ⟨.middle, 0⟩ false

def second : SessionEvent := .silence ⟨1000, 0⟩

/-- Its first timeout has marked it; then a pressure event comes. -/
def markedUnderPressure : SessionRun :=
  Runs.run (SessionRun.step silentConfig) [second, .registry .pressure] silentStart

theorem run_not_evicted_marked :
    (Runs.run (SessionRun.step silentConfig) [second, .frame true] markedUnderPressure).phase ≠
      .ended .evicted :=
  run_not_evicted (by decide)
    (coherent_session silentConfig [] 0 ⟨.middle, 0⟩ false [second, .registry .pressure])
    (by decide)

theorem markedUnderPressure_due : Due markedUnderPressure.loop.registry silentConfig.connId :=
  ⟨by decide, ⟨⟨1, 0⟩, by decide, by decide⟩, by decide⟩

/-- The oldest candidate, with an unused event that is newer than its mark and that it has
not seen, reads on when its timeout expires.  It stays until the hard deadline, and then
it is not an eviction that ends it. -/
theorem silent_candidate_reads_on :
    markedUnderPressure.loop.policy.enabled = true ∧
      markedUnderPressure.phase = .reading .lenPrefix 1000 0 ∧
      Due markedUnderPressure.loop.registry silentConfig.connId ∧
      markedUnderPressure.loop.seenPressureSeq <
        markedUnderPressure.loop.registry.pressureEventSeq ∧
      (Runs.run (SessionRun.step silentConfig) [second] markedUnderPressure).phase =
        .reading .lenPrefix 1000 0 ∧
      (Runs.run (SessionRun.step silentConfig) [second, second, second, second]
        markedUnderPressure).phase = .ended (.failed (.hardIdleTimeout .lenPrefix 5000 5000)) :=
  ⟨by decide, by decide, markedUnderPressure_due, by decide, by decide, by decide⟩

/-- The same session, when the route goes to direct and back half a second after the
event, while another session marks itself and looks. -/
theorem evicted_at_notice_half_second :
    (Runs.run (SessionRun.step silentConfig)
      ([.silence ⟨500, 0⟩, .registry (.mark 8), .registry (.attempt 8 0)] ++
        .notice (.changed [.direct, .middle]) false :: [second])
      markedUnderPressure).phase = .ended .evicted :=
  evicted_at_notice silentConfig [] 0 ⟨.middle, 0⟩ false [second, .registry .pressure] _ _ _ _
    .lenPrefix 1000 0 markedUnderPressure rfl (by decide) (by decide) markedUnderPressure_due
    (by decide) (by decide) (by decide) (by decide)

end TupoProxy.IdleEviction
