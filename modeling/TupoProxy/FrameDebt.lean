import TupoProxy.MiddleRelay

/-!
# The price of empty frames

A frame of length zero carries nothing and makes the reader go round again.  It costs
eight units of debt, a frame with a payload pays one unit back, and the session is closed
when the debt reaches its limit.  The debt outlives the single read, so it bounds the
empty frames of a whole session by the frames that carried something.
-/

namespace TupoProxy
namespace ClientReader

open Delivery
open MiddleRelay

def startsEmpty (config : ReadConfig) (session : Session) (source : ClientSource) : Bool :=
  match (readLen config session source).1 with
  | .ok (some (0, _)) => true
  | _ => false

/-- The empty frames that the frame loop meets, the one that closes the session included. -/
def emptyFrames (config : ReadConfig) : ℕ → ℕ → Session → ClientSource → ℕ
  | 0, _, _, _ => 0
  | turns + 1, consecutive, session, source =>
    (startsEmpty config session source).toNat +
      match frameTurn config consecutive session source with
      | .again consecutive session source =>
        emptyFrames config turns consecutive session source
      | .done _ _ _ => 0

def ReadError.forEmptyFrames : ReadError → Bool
  | .tinyFrameOverhead _ => true
  | .excessiveZeroLengthFrames => true
  | _ => false

def Session.debt (session : Session) : ℕ :=
  session.idle.tinyFrameDebt

variable {session next : Session}

theorem Session.debt_of_progress
    (hprogress : next.progress = session.progress) : next.debt = session.debt :=
  congrArg Prod.snd hprogress

/-! ## What a turn costs -/

/-- What a turn of the frame loop does to the debt. -/
inductive Charged (session : Session) : Bool → FrameTurn → Prop
  | again (consecutive : ℕ) (next : Session) (source : ClientSource)
      (hdebt : next.debt = session.debt + tinyFrameDebtPerTiny)
      (hlimit : next.debt < tinyFrameDebtLimit) :
      Charged session true (.again consecutive next source)
  | closed (error : ReadError) (next : Session) (source : ClientSource)
      (hdebt : next.debt = session.debt + tinyFrameDebtPerTiny)
      (herror : error.forEmptyFrames = true) :
      Charged session true (.done (.error error) next source)
  | paid (frame : List Byte × Bool) (next : Session) (source : ClientSource)
      (hdebt : next.debt = session.debt - 1) :
      Charged session false (.done (.ok (some frame)) next source)
  | stopped (result : Except ReadError (Option (List Byte × Bool))) (next : Session)
      (source : ClientSource) (hdebt : next.debt = session.debt) :
      Charged session false (.done result next source)

variable (config : ReadConfig)

theorem onZeroLength_charged (consecutive : ℕ)
    (hdebt : session.debt < tinyFrameDebtLimit) (source : ClientSource) :
    Charged session true
      (match session.onZeroLength config consecutive with
        | (.error error, session) => .done (.error error) session source
        | (.ok consecutive, session) => .again consecutive session source) := by
  have hsum : min (session.idle.tinyFrameDebt + tinyFrameDebtPerTiny) u32Max =
      session.debt + tinyFrameDebtPerTiny := by
    simp only [Session.debt, tinyFrameDebtLimit, tinyFrameDebtPerTiny, u32Max] at hdebt ⊢
    omega
  simp only [Session.onZeroLength, RelayClientIdleState.onClientTinyFrame, hsum]
  by_cases hover : tinyFrameDebtLimit ≤ session.debt + tinyFrameDebtPerTiny
  · rw [if_pos hover]
    exact .closed _ _ _ rfl rfl
  rw [if_neg hover]
  by_cases henabled : config.policy.enabled = true
  · rw [if_pos henabled]
    exact .again _ _ _ rfl (Nat.lt_of_not_le hover)
  rw [if_neg henabled]
  by_cases hmany : legacyMaxConsecutiveZeroLenFrames < min (consecutive + 1) u32Max
  · rw [if_pos hmany]
    exact .closed _ _ _ rfl rfl
  · rw [if_neg hmany]
    exact .again _ _ _ rfl (Nat.lt_of_not_le hover)

theorem readBody_charged (len : ℕ) (quickack : Bool) (session : Session) (source : ClientSource) :
    Charged session false
      (match readBody config len quickack session source with
        | (result, session, source) => .done result session source) := by
  have hadmit := (admitLength_twins config len (rfl : session.progress = _)).2.1
  unfold readBody
  generalize session.admitLength config len = admitted at hadmit ⊢
  obtain ⟨result, middle⟩ := admitted
  cases result with
  | error error => exact .stopped _ _ _ (Session.debt_of_progress hadmit)
  | ok payloadLen =>
    have hread :=
      (readExactWithPolicy_outcome config .payload len middle source).progress.trans hadmit
    dsimp only
    generalize readExactWithPolicy config .payload len middle source = answer at hread ⊢
    obtain ⟨result, last, left⟩ := answer
    cases result with
    | error error => exact .stopped _ _ _ (Session.debt_of_progress hread)
    | ok payload =>
      refine .paid _ _ _ ?_
      rw [← Session.debt_of_progress hread]
      rfl

theorem Charged.of_debt {middle : Session} {empty : Bool} {turn : FrameTurn}
    (hcharged : Charged middle empty turn) (hdebt : middle.debt = session.debt) :
    Charged session empty turn := by
  cases hcharged with
  | again consecutive next source hnext hlimit =>
    exact .again _ _ _ (by rw [hnext, hdebt]) hlimit
  | closed error next source hnext herror =>
    exact .closed _ _ _ (by rw [hnext, hdebt]) herror
  | paid frame next source hnext => exact .paid _ _ _ (by rw [hnext, hdebt])
  | stopped result next source hnext => exact .stopped _ _ _ (hnext.trans hdebt)

theorem frameTurn_charged (consecutive : ℕ)
    (hdebt : session.debt < tinyFrameDebtLimit) (source : ClientSource) :
    Charged session (startsEmpty config session source)
      (frameTurn config consecutive session source) := by
  have hread := Session.debt_of_progress (readLen_spends config session source).progress
  unfold frameTurn startsEmpty
  generalize readLen config session source = answer at hread ⊢
  obtain ⟨result, middle, left⟩ := answer
  cases result with
  | error error => exact .stopped _ _ _ hread
  | ok header =>
    cases header with
    | none => exact .stopped _ _ _ hread
    | some header =>
      obtain ⟨len, quickack⟩ := header
      cases len with
      | zero =>
        exact (onZeroLength_charged config consecutive (hread ▸ hdebt) left).of_debt hread
      | succ len =>
        exact (readBody_charged config (len + 1) quickack middle left).of_debt hread

def frameCount : Except ReadError (Option (List Byte × Bool)) → ℕ
  | .ok (some _) => 1
  | _ => 0

/-- The empty frames of a read are in the debt, up to what its frame has paid back. -/
structure Priced (session : Session) (empty : ℕ)
    (answer : Except ReadError (Option (List Byte × Bool)) × Session × ClientSource) :
    Prop where
  debt : tinyFrameDebtPerTiny * empty + session.debt ≤ answer.2.1.debt + frameCount answer.1
  limit : answer.2.1.debt < tinyFrameDebtLimit + tinyFrameDebtPerTiny
  unclosed : (∀ error, answer.1 = .error error → error.forEmptyFrames = false) →
    answer.2.1.debt < tinyFrameDebtLimit

theorem frameLoop_priced {turns consecutive : ℕ} {session : Session} {source : ClientSource}
    (hdebt : session.debt < tinyFrameDebtLimit) :
    Priced session (emptyFrames config turns consecutive session source)
      (frameLoop config turns consecutive session source) := by
  induction turns generalizing consecutive session source with
  | zero =>
    refine ⟨?_, Nat.lt_add_right _ hdebt, fun _ => hdebt⟩
    simp [emptyFrames, frameLoop]
  | succ turns ih =>
    have hcharged := frameTurn_charged config consecutive hdebt source
    rw [emptyFrames, frameLoop]
    generalize startsEmpty config session source = empty at hcharged ⊢
    generalize frameTurn config consecutive session source = turn at hcharged ⊢
    cases hcharged with
    | again consecutive next left hnext hlimit =>
      have hrest := @ih consecutive next left hlimit
      refine ⟨?_, hrest.limit, hrest.unclosed⟩
      have hpaid := hrest.debt
      simp only [Bool.toNat_true, Nat.mul_add]
      omega
    | closed error next left hnext herror =>
      refine ⟨?_, ?_, ?_⟩
      · simp [hnext, frameCount, Nat.add_comm]
      · dsimp only
        omega
      · intro hother
        rw [hother error rfl] at herror
        cases herror
    | paid frame next left hnext =>
      refine ⟨?_, ?_, ?_⟩
      · simp only [Bool.toNat_false, frameCount]
        omega
      · dsimp only
        omega
      · intro _
        dsimp only
        omega
    | stopped result next left hnext =>
      refine ⟨?_, ?_, ?_⟩
      · simp only [Bool.toNat_false]
        omega
      · dsimp only
        omega
      · intro _
        dsimp only
        omega

variable {consecutive : ℕ} {source : ClientSource}

theorem frameTurn_again_takes {config : ReadConfig} {again : ℕ} {left : ClientSource}
    (hagain : frameTurn config consecutive session source = .again again next left) :
    (bytesOf left).length < (bytesOf source).length := by
  have hspends := readLen_spends config session source
  unfold frameTurn at hagain
  generalize readLen config session source = answer at hspends hagain
  obtain ⟨result, middle, rest⟩ := answer
  cases result with
  | error error => cases hagain
  | ok header =>
    cases header with
    | none => cases hagain
    | some header =>
      have hrest := hspends.taken _ rfl rfl
      dsimp only at hagain hrest
      split_ifs at hagain
      · split at hagain
        · cases hagain
        · cases hagain
          exact hrest

variable {turns : ℕ}

theorem frameLoop_of_bytes (hturns : (bytesOf source).length < turns) (more : ℕ) :
    frameLoop config (turns + more) consecutive session source =
      frameLoop config turns consecutive session source := by
  induction turns generalizing consecutive session source with
  | zero => exact absurd hturns (Nat.not_lt_zero _)
  | succ turns ih =>
    rw [Nat.succ_add, frameLoop, frameLoop]
    cases hturn : frameTurn config consecutive session source with
    | again again next left =>
      have hless := frameTurn_again_takes hturn
      exact ih (by omega)
    | done result next left => rfl

theorem frameLoop_of_debt (hdebt : session.debt < tinyFrameDebtLimit)
    (hturns : tinyFrameDebtLimit ≤ session.debt + tinyFrameDebtPerTiny * turns) (more : ℕ) :
    frameLoop config (turns + more) consecutive session source =
      frameLoop config turns consecutive session source := by
  induction turns generalizing consecutive session source with
  | zero => omega
  | succ turns ih =>
    have hcharged := frameTurn_charged config consecutive hdebt source
    rw [Nat.succ_add, frameLoop, frameLoop]
    generalize startsEmpty config session source = empty at hcharged
    generalize frameTurn config consecutive session source = turn at hcharged ⊢
    cases hcharged with
    | again again next left hnext hlimit =>
      refine ih hlimit ?_
      rw [Nat.mul_succ] at hturns
      omega
    | closed | paid | stopped => rfl

/-- Whatever the client sends, a read ends within 64 turns of the frame loop. -/
theorem readClientPayload_turns (source : ClientSource)
    (hdebt : session.debt < tinyFrameDebtLimit) :
    readClientPayload config session source =
      frameLoop config (tinyFrameDebtLimit / tinyFrameDebtPerTiny) 0 session source := by
  have hbytes := bytes_lt_weight source
  calc readClientPayload config session source
      = frameLoop config
          (weight source + 1 + tinyFrameDebtLimit / tinyFrameDebtPerTiny) 0 session source :=
        (frameLoop_of_bytes config (by omega) _).symm
    _ = frameLoop config (tinyFrameDebtLimit / tinyFrameDebtPerTiny) 0 session source := by
        rw [Nat.add_comm]
        refine frameLoop_of_debt config hdebt ?_ _
        simp only [tinyFrameDebtLimit, tinyFrameDebtPerTiny]
        omega

end ClientReader

namespace MiddleRelay

open Delivery
open ClientReader

/-! ## A whole session -/

/-- The empty frames that the read of one turn meets. -/
def RelayState.turnEmptyFrames (config : RelayConfig) (state : RelayState) : ℕ :=
  if isSessionAffectedByCutover state.route .middle config.routeGeneration then 0
  else
    ClientReader.emptyFrames config.read (weight state.source + 1) 0 state.session state.source

/-- The empty frames that the reads of a session meet. -/
def RelayState.emptyFrames (config : RelayConfig) : ℕ → RelayState → ℕ
  | 0, _ => 0
  | turns + 1, state =>
    state.turnEmptyFrames config +
      match state.turn config with
      | .forward _ next => next.emptyFrames config turns
      | .rerouted next => next.emptyFrames config turns
      | .ended _ => 0

def RelayEnd.forEmptyFrames : RelayEnd → Bool
  | .failed error => error.forEmptyFrames
  | _ => false

/-- What the empty frames of a turn, on top of an earlier debt, come to. -/
def TurnPriced (cost : ℕ) : RelayTurn → Prop
  | .forward _ next =>
    cost ≤ next.session.debt + 1 ∧ next.session.debt < tinyFrameDebtLimit
  | .rerouted next => cost ≤ next.session.debt ∧ next.session.debt < tinyFrameDebtLimit
  | .ended why =>
    cost < tinyFrameDebtLimit + tinyFrameDebtPerTiny ∧
      (why.forEmptyFrames = false → cost < tinyFrameDebtLimit)

variable (config : RelayConfig)

theorem turn_priced {state : RelayState} (hdebt : state.session.debt < tinyFrameDebtLimit) :
    TurnPriced (tinyFrameDebtPerTiny * state.turnEmptyFrames config + state.session.debt)
      (state.turn config) := by
  cases haffected : isSessionAffectedByCutover state.route .middle config.routeGeneration with
  | true =>
    rw [RelayState.turnEmptyFrames, RelayState.turn, if_pos haffected, if_pos haffected,
      Nat.mul_zero, Nat.zero_add]
    exact ⟨Nat.lt_add_right _ hdebt, fun _ => hdebt⟩
  | false =>
    have hturned := RelayState.turned haffected
    obtain ⟨hcost, hlimit, hunclosed⟩ : Priced state.session
        (state.turnEmptyFrames config)
        (readClientPayload config.read state.session state.source) := by
      rw [RelayState.turnEmptyFrames, if_neg (by rw [haffected]; exact Bool.false_ne_true)]
      exact frameLoop_priced config.read hdebt
    generalize readClientPayload config.read state.session state.source = answer
      at hturned hcost hlimit hunclosed
    generalize state.turn config = turn at hturned ⊢
    cases hturned with
    | forward payload quickack session source =>
      exact ⟨hcost, hunclosed (by intro error herror; cases herror)⟩
    | closed session source =>
      have hopen := hunclosed (by intro error herror; cases herror)
      exact ⟨hcost.trans_lt hlimit, fun _ => hcost.trans_lt hopen⟩
    | rerouted notice notices session source hnotices =>
      exact ⟨hcost, hunclosed (by intro error herror; cases herror; rfl)⟩
    | failed error session source =>
      refine ⟨hcost.trans_lt hlimit, fun hother => hcost.trans_lt (hunclosed ?_)⟩
      intro found hfound
      cases hfound
      exact hother

/-- The empty frames of a session, on top of an earlier debt, against its frames. -/
structure Bounded (cost : ℕ) (relayed : List C2meData × RelayEnd) : Prop where
  always : cost < tinyFrameDebtLimit + tinyFrameDebtPerTiny + relayed.1.length
  unclosed : relayed.2.forEmptyFrames = false → cost < tinyFrameDebtLimit + relayed.1.length

theorem relay_bounded {turns : ℕ} {state : RelayState}
    (hdebt : state.session.debt < tinyFrameDebtLimit) :
    Bounded (tinyFrameDebtPerTiny * state.emptyFrames config turns + state.session.debt)
      (state.relay config turns) := by
  induction turns generalizing state with
  | zero =>
    rw [RelayState.emptyFrames, RelayState.relay, Nat.mul_zero, Nat.zero_add]
    exact ⟨Nat.lt_add_right _ (Nat.lt_add_right _ hdebt), fun _ => hdebt⟩
  | succ turns ih =>
    have hturn := turn_priced config hdebt
    rw [RelayState.emptyFrames, RelayState.relay, Nat.mul_add]
    cases hnext : state.turn config with
    | forward data next =>
      rw [hnext] at hturn
      obtain ⟨hcost, hbelow⟩ := hturn
      obtain ⟨halways, hunclosed⟩ := ih hbelow
      refine ⟨?_, fun hother => ?_⟩
      · dsimp only [List.length_cons]
        omega
      · have hrest := hunclosed hother
        dsimp only [List.length_cons]
        omega
    | rerouted next =>
      rw [hnext] at hturn
      obtain ⟨hcost, hbelow⟩ := hturn
      obtain ⟨halways, hunclosed⟩ := ih hbelow
      refine ⟨?_, fun hother => ?_⟩
      · dsimp only
        omega
      · have hrest := hunclosed hother
        dsimp only
        omega
    | ended why =>
      rw [hnext] at hturn
      exact ⟨hturn.1, hturn.2⟩

theorem visited_debt {turns : ℕ} {state : RelayState}
    (hdebt : state.session.debt < tinyFrameDebtLimit) :
    ∀ visited ∈ state.visited config turns, visited.session.debt < tinyFrameDebtLimit := by
  induction turns generalizing state with
  | zero =>
    intro visited hvisited
    cases hvisited
  | succ turns ih =>
    have hturn := turn_priced config hdebt
    intro visited hvisited
    rw [RelayState.visited] at hvisited
    cases hnext : state.turn config with
    | forward | rerouted =>
      rw [hnext] at hturn hvisited
      rcases List.mem_cons.mp hvisited with rfl | hlater
      · exact hdebt
      · exact ih hturn.2 visited hlater
    | ended why =>
      rw [hnext] at hvisited
      rw [List.mem_singleton.mp hvisited]
      exact hdebt

/-- In every session, with any protocol tag and idle policy, whatever the client sends and
however the route changes: eight times the empty frames are at most 511 more than the
frames forwarded, unless the session has been closed for them; even then they are at most
one empty frame more; and every read ends within 64 turns. -/
theorem empty_frames_bounded (config : RelayConfig) (now : ℕ) (route : RouteCutoverState)
    (routeWatchOpen : Bool) (notices : List RouteNotice) (source : ClientSource) (turns : ℕ) :
    let state : RelayState := ⟨.new now, route, routeWatchOpen, notices, source⟩
    let relayed := state.relay config turns
    let empty := state.emptyFrames config turns
    (relayed.2.forEmptyFrames = false → 8 * empty ≤ 511 + relayed.1.length) ∧
      8 * empty ≤ 519 + relayed.1.length ∧ ∀ visited ∈ state.visited config turns,
        readClientPayload config.read visited.session visited.source =
          frameLoop config.read 64 0 visited.session visited.source := by
  intro state relayed empty
  have hfresh : state.session.debt = 0 := rfl
  have hdebt : state.session.debt < tinyFrameDebtLimit := hfresh.trans_lt (by decide)
  obtain ⟨halways, hunclosed⟩ := @relay_bounded config turns state hdebt
  refine ⟨fun hother => Nat.le_of_lt_succ ?_, Nat.le_of_lt_succ ?_, ?_⟩
  · rw [← Nat.succ_add]
    exact hunclosed hother
  · rw [← Nat.succ_add]
    exact halways
  · intro visited hvisited
    exact readClientPayload_turns config.read visited.source
      (visited_debt config hdebt visited hvisited)

end MiddleRelay
end TupoProxy
