import TupoProxy.ClientReader

/-!
# The client loop of a middle-relay session

The loop waits for a frame of the client and for news of the route at the same
time.  When the route wins, the read that was waiting is dropped, and with it
whatever it had already taken from the client: the fields in progress are
locals of the read, only the idle state and the frame counter outlive it.

A source marks the point where the route wins by `routeWins`; the read meets
it as an end of its polls.
-/

namespace TupoProxy.MiddleRelay

open ByteWords List
open Delivery
open ClientFraming
open ClientReader

inductive RelayRouteMode where
  | direct
  | middle
  deriving Repr, DecidableEq

structure RouteCutoverState where
  mode : RelayRouteMode
  generation : ℕ
  deriving Repr, DecidableEq

def RouteCutoverState.setMode (state : RouteCutoverState)
    (mode : RelayRouteMode) : RouteCutoverState :=
  if state.mode = mode then state
  else ⟨mode, min (state.generation + 1) u64Max⟩

def isSessionAffectedByCutover (current : RouteCutoverState)
    (sessionMode : RelayRouteMode) (sessionGeneration : ℕ) : Bool :=
  decide (sessionGeneration < current.generation) &&
    decide (current.mode ≠ sessionMode)

/-- What the watch channel tells: the modes set since it was last asked, or
that the controller is gone. -/
inductive RouteNotice where
  | changed (modes : List RelayRouteMode)
  | closed
  deriving Repr, DecidableEq

def RouteCutoverState.noticed (state : RouteCutoverState) :
    RouteNotice → RouteCutoverState
  | .changed modes => modes.foldl RouteCutoverState.setMode state
  | .closed => state

def rpcFlagNotEncrypted : ℕ := 0x2

structure C2meData where
  payload : List Byte
  flags : ℕ
  deriving Repr, DecidableEq

def c2meData (protoFlags : ℕ) (payload : List Byte) (quickack : Bool) :
    C2meData :=
  let flags := if quickack then protoFlags ||| rpcFlagQuickack else protoFlags
  let flags :=
    if 8 ≤ payload.length ∧ (payload.take 8).all (· == 0) then
      flags ||| rpcFlagNotEncrypted
    else flags
  ⟨payload, flags⟩

structure RelayConfig where
  read : ReadConfig
  protoFlags : ℕ
  routeGeneration : ℕ
  deriving Repr, DecidableEq

/-- From here on the read is not polled again: the route wins the select. -/
def routeWins : Arrival Tick IoKind := .fail .other

structure RelayState where
  session : Session
  route : RouteCutoverState
  routeWatchOpen : Bool
  notices : List RouteNotice
  source : ClientSource
  deriving Repr, DecidableEq

inductive RelayEnd where
  | clientClosed
  | routeSwitched
  | failed (error : ReadError)
  | running
  deriving Repr, DecidableEq

inductive RelayTurn where
  | forward (data : C2meData) (next : RelayState)
  | rerouted (next : RelayState)
  | ended (why : RelayEnd)
  deriving Repr, DecidableEq

def RelayState.noticed (state : RelayState) (notice : RouteNotice)
    (notices : List RouteNotice) (session : Session) (source : ClientSource) :
    RelayState where
  session := session
  route := state.route.noticed notice
  routeWatchOpen := decide (notice ≠ .closed)
  notices := notices
  source := source

/-- One turn of the loop.  Without an open watch and a notice the same mark in
the source is an error of the client's socket. -/
def RelayState.turn (config : RelayConfig) (state : RelayState) : RelayTurn :=
  if isSessionAffectedByCutover state.route .middle config.routeGeneration then
    .ended .routeSwitched
  else
    match readClientPayload config.read state.session state.source with
    | (.ok (some (payload, quickack)), session, source) =>
      .forward (c2meData config.protoFlags payload quickack)
        { state with session := session, source := source }
    | (.ok none, _, _) => .ended .clientClosed
    | (.error (.io .other), session, source) =>
      match state.routeWatchOpen, state.notices with
      | true, notice :: notices =>
        .rerouted (state.noticed notice notices session source)
      | _, _ => .ended (.failed (.io .other))
    | (.error error, _, _) => .ended (.failed error)

def RelayState.relay (config : RelayConfig) :
    ℕ → RelayState → List C2meData × RelayEnd
  | 0, _ => ([], .running)
  | turns + 1, state =>
    match state.turn config with
    | .forward data next =>
      let (later, why) := next.relay config turns
      (data :: later, why)
    | .rerouted next => next.relay config turns
    | .ended why => ([], why)

def RelayState.visited (config : RelayConfig) : ℕ → RelayState → List RelayState
  | 0, _ => []
  | turns + 1, state =>
    match state.turn config with
    | .forward _ next => state :: next.visited config turns
    | .rerouted next => state :: next.visited config turns
    | .ended _ => [state]

/-- The read that the route drops in this turn, if it drops one, has not yet
taken a byte from the client. -/
def RelayState.dropsIdleRead (config : RelayConfig) (state : RelayState) :
    Bool :=
  match readClientPayload config.read state.session state.source with
  | (.error (.io .other), _, rest) => decide (bytesOf rest = bytesOf state.source)
  | _ => true

def forwarded (config : RelayConfig) :
    Except ReadError (Option (List Byte × Bool)) → Option C2meData
  | .ok (some (payload, quickack)) =>
    some (c2meData config.protoFlags payload quickack)
  | _ => none

/-- What a client stream says: the frames the reader finds when all bytes are
there at once and nothing interrupts it. -/
def decodeStream (config : RelayConfig) (session : Session)
    (bytes : List Byte) : List C2meData :=
  (readFrames config.read (bytes.length + 1) session
    (pushFront bytes [])).filterMap (forwarded config)

/-! ## Two readers of the same bytes -/

/-- The only failures of the source are the marks where the route wins. -/
def RouteOnly (source : ClientSource) : Prop :=
  ∀ kind, Arrival.fail kind ∈ source → kind = .other

/-- A session and its twin, which gets the same bytes undisturbed. -/
structure Twins (session twin : Session) (source whole : ClientSource) :
    Prop where
  bytes : bytesOf source = bytesOf whole
  progress : session.progress = twin.progress
  noFail : NoFail whole
  noStall : NoStall whole

def cutsShort : ReadError → Bool
  | .io .other => true
  | error => error.isTimeout

/-- The read tells the same as the twin's, unless it is cut short; and it
changes the session only with the bytes it takes. -/
structure Follows {α : Type} (session : Session) (source : ClientSource)
    (answer twin : Except ReadError α × Session × ClientSource) : Prop where
  result : (answer.1 = twin.1 ∧
      Twins answer.2.1 twin.2.1 answer.2.2 twin.2.2) ∨
    ∃ error, answer.1 = .error error ∧ cutsShort error = true
  routeOnly : RouteOnly answer.2.2
  length_le : answer.2.2.length ≤ source.length
  bytes_le : (bytesOf answer.2.2).length ≤ (bytesOf source).length
  untouched : (bytesOf answer.2.2).length = (bytesOf source).length →
    answer.2.1.progress = session.progress
  dropped : answer.1 = .error (.io .other) →
    answer.2.2.length < source.length

variable {α : Type} {answer : Except ReadError α × Session × ClientSource}

theorem Follows.trans {session middle : Session} {source left : ClientSource}
    {twin : Except ReadError α × Session × ClientSource}
    (hfollows : Follows middle left answer twin) (hlength : left.length ≤ source.length)
    (hbytes : (bytesOf left).length ≤ (bytesOf source).length)
    (huntouched : (bytesOf left).length = (bytesOf source).length →
      middle.progress = session.progress) :
    Follows session source answer twin where
  result := hfollows.result
  routeOnly := hfollows.routeOnly
  length_le := hfollows.length_le.trans hlength
  bytes_le := hfollows.bytes_le.trans hbytes
  untouched hequal := by
    have hrest := hfollows.bytes_le
    rw [hfollows.untouched (by omega), huntouched (by omega)]
  dropped hdropped := (hfollows.dropped hdropped).trans_le hlength

variable {twin : Session}

theorem Follows.pure {session : Session} {source whole : ClientSource} (result : Except ReadError α)
    (hresult : result ≠ .error (.io .other)) (hroute : RouteOnly source)
    (htwins : Twins session twin source whole) :
    Follows session source (result, session, source) (result, twin, whole) where
  result := .inl ⟨rfl, htwins⟩
  routeOnly := hroute
  length_le := Nat.le_refl _
  bytes_le := Nat.le_refl _
  untouched _ := rfl
  dropped hdropped := absurd hdropped hresult

variable {β : Type}

theorem Follows.error {session middle : Session} {source left : ClientSource} {error : ReadError}
    {twin : Except ReadError α × Session × ClientSource}
    {later : Except ReadError β × Session × ClientSource}
    (hfollows : Follows session source (.error error, middle, left) twin)
    (hresult : (.error error = later.1 ∧ Twins middle later.2.1 left later.2.2) ∨
      cutsShort error = true) :
    Follows session source (.error error, middle, left) later where
  result := hresult.imp_right fun hshort => ⟨error, rfl, hshort⟩
  routeOnly := hfollows.routeOnly
  length_le := hfollows.length_le
  bytes_le := hfollows.bytes_le
  untouched := hfollows.untouched
  dropped hdropped := hfollows.dropped (congrArg Except.error (Except.error.inj hdropped))

variable {next : α → Session → ClientSource → Except ReadError β × Session × ClientSource}

theorem Follows.andThen {session : Session} {source : ClientSource}
    {twin : Except ReadError α × Session × ClientSource}
    (hfollows : Follows session source answer twin)
    (hnext : ∀ value (session twin : Session) (source whole : ClientSource),
      RouteOnly source → Twins session twin source whole →
      Follows session source (next value session source) (next value twin whole)) :
    Follows session source (andThen answer next) (andThen twin next) := by
  obtain ⟨result, middle, left⟩ := answer
  obtain ⟨result', middle', left'⟩ := twin
  rcases hfollows.result with ⟨hresult, htwins⟩ | ⟨error, herror, hshort⟩
  · simp only at hresult htwins
    subst hresult
    cases result with
    | ok value =>
      exact (hnext value _ _ _ _ hfollows.routeOnly htwins).trans
        hfollows.length_le hfollows.bytes_le hfollows.untouched
    | error error =>
      exact hfollows.error (.inl ⟨rfl, htwins⟩)
  · simp only at herror
    subst herror
    exact hfollows.error (.inr hshort)

theorem cutsShort_of_isTimeout {error : ReadError}
    (htimeout : error.isTimeout = true) : cutsShort error = true := by
  cases error <;> simp_all [cutsShort, ReadError.isTimeout]

variable (config : ReadConfig) (label : ReadLabel) (target : ℕ) (session : Session)
  (source : ClientSource)

/-- How `readFirst` reads the answer for its field. -/
def firstResult :
    Except ReadError (List Byte) → Except ReadError (Option (List Byte))
  | .ok bytes => .ok (some bytes)
  | .error .unexpectedEof => .ok none
  | .error (.io .unexpectedEof) => .ok none
  | .error error => .error error

theorem readFirst_eq :
    readFirst config label target session source =
      (firstResult (readExactWithPolicy config label target session source).1,
        (readExactWithPolicy config label target session source).2) := by
  unfold readFirst
  generalize readExactWithPolicy config label target session source = answer
  obtain ⟨result, middle, left⟩ := answer
  cases result with
  | ok bytes => rfl
  | error error =>
    cases error with
    | io kind => cases kind <;> rfl
    | _ => rfl

theorem firstResult_cutsShort {error : ReadError} (hshort : cutsShort error = true) :
    firstResult (.error error) = .error error := by
  unfold firstResult
  split <;> simp_all [cutsShort, ReadError.isTimeout]

theorem firstResult_dropped {result : Except ReadError (List Byte)}
    (hdropped : firstResult result = .error (.io .other)) : result = .error (.io .other) := by
  unfold firstResult at hdropped
  split at hdropped <;> simp_all

theorem wordsToLen_ne_dropped (words : ℕ) (quickack : Bool) :
    wordsToLen words quickack ≠ .error (.io .other) := by
  unfold wordsToLen
  split_ifs <;> simp

section

variable {session : Session} {source whole : ClientSource} (hroute : RouteOnly source)
  (htwins : Twins session twin source whole)
include hroute htwins

theorem readExactWithPolicy_follows :
    Follows session source (readExactWithPolicy config label target session source)
      (readExactWithPolicy config label target twin whole) := by
  have hours := readExactWithPolicy_outcome config label target session source
  have htheirs := readExactWithPolicy_outcome config label target twin whole
  generalize readExactWithPolicy config label target session source = answer at hours
  generalize readExactWithPolicy config label target twin whole = answer' at htheirs
  have hspec := htheirs.spec htwins.noFail
  have hprogress : answer.2.1.progress = answer'.2.1.progress := by
    rw [hours.progress, htheirs.progress, htwins.progress]
  have hrest : bytesOf answer.2.2 = bytesOf answer'.2.2 →
      Twins answer.2.1 answer'.2.1 answer.2.2 answer'.2.2 :=
    fun hbytes =>
      ⟨hbytes, hprogress, hspec.noFail, hspec.noStall htwins.noStall⟩
  refine ⟨?_, fun kind hmem => hroute kind (hours.fails kind hmem),
    hours.length_le, hours.bytes_le, fun _ => hours.progress, ?_⟩
  · cases hresult : answer.1 with
    | ok bytes =>
      obtain ⟨hjoin, hlength⟩ := hours.complete bytes hresult
      cases hresult' : answer'.1 with
      | ok bytes' =>
        obtain ⟨hjoin', hlength'⟩ := hspec.complete bytes' hresult'
        rw [← htwins.bytes, ← hjoin] at hjoin'
        obtain ⟨rfl, hleft⟩ := append_inj hjoin' (by omega)
        exact .inl ⟨rfl, hrest hleft.symm⟩
      | error error =>
        have hsize := congrArg length hjoin
        simp only [length_append, length_nil] at hsize
        rcases hspec.failed error hresult' with ⟨_, _, hshort⟩ | ⟨_, hstall⟩
        · rw [← htwins.bytes, length_nil] at hshort
          omega
        · exact absurd (.inl htwins.noStall) hstall
    | error error =>
      rcases hours.failed error hresult with
        ⟨rfl, hempty, hshort⟩ | ⟨htimeout, _⟩ | ⟨kind, rfl, hmem, _⟩
      · cases hresult' : answer'.1 with
        | ok bytes' =>
          obtain ⟨hjoin', hlength'⟩ := hspec.complete bytes' hresult'
          have hsize := congrArg length hjoin'
          rw [← htwins.bytes] at hsize
          simp only [length_append, length_nil] at hsize hshort
          omega
        | error error' =>
          rcases hspec.failed error' hresult' with ⟨rfl, hempty', _⟩ | ⟨_, hstall⟩
          · exact .inl ⟨rfl, hrest (hempty.trans hempty'.symm)⟩
          · exact absurd (.inl htwins.noStall) hstall
      · exact .inr ⟨error, rfl, cutsShort_of_isTimeout htimeout⟩
      · obtain rfl := hroute kind hmem
        exact .inr ⟨_, rfl, rfl⟩
  · intro hdropped
    rcases hours.failed _ hdropped with ⟨hend, _⟩ | ⟨htimeout, _⟩ |
      ⟨kind, _, _, hless⟩
    · cases hend
    · cases htimeout
    · exact hless

theorem readFirst_follows :
    Follows session source (readFirst config label target session source)
      (readFirst config label target twin whole) := by
  have hfollows := readExactWithPolicy_follows config label target hroute htwins
  rw [readFirst_eq, readFirst_eq]
  refine ⟨?_, hfollows.routeOnly, hfollows.length_le, hfollows.bytes_le, hfollows.untouched,
    fun hdropped => hfollows.dropped (firstResult_dropped hdropped)⟩
  rcases hfollows.result with ⟨hresult, htwins'⟩ | ⟨error, herror, hshort⟩
  · exact .inl ⟨congrArg firstResult hresult, htwins'⟩
  · refine .inr ⟨error, ?_, hshort⟩
    rw [herror]
    exact firstResult_cutsShort hshort

theorem readAbridgedLen_follows (first : Byte) :
    Follows session source (readAbridgedLen config first session source)
      (readAbridgedLen config first twin whole) := by
  unfold readAbridgedLen
  split_ifs with hmark
  · exact (readExactWithPolicy_follows config _ 3 hroute htwins).andThen
      fun ext _ _ _ _ hroute' htwins' =>
        .pure _ (wordsToLen_ne_dropped _ _) hroute' htwins'
  · exact .pure _ (wordsToLen_ne_dropped _ _) hroute htwins

theorem readLen_follows :
    Follows session source (readLen config session source) (readLen config twin whole) := by
  unfold readLen
  cases config.tag with
  | abridged =>
    refine (readFirst_follows config _ 1 hroute htwins).andThen
      fun bytes _ _ _ _ hroute' htwins' => ?_
    cases bytes with
    | none => exact .pure _ (by simp) hroute' htwins'
    | some bytes => exact readAbridgedLen_follows config hroute' htwins' _
  | intermediate | secure =>
    refine (readFirst_follows config _ 4 hroute htwins).andThen
      fun bytes _ _ _ _ hroute' htwins' => ?_
    cases bytes with
    | none | some => exact .pure _ (by simp) hroute' htwins'

end

/-- The read leaves the progress of the session alone and gives nothing back; with an
answer that took something, the source is shorter. -/
structure Spends {α : Type} (session : Session) (source : ClientSource) (took : α → Prop)
    (answer : Except ReadError α × Session × ClientSource) : Prop where
  progress : answer.2.1.progress = session.progress
  bytes_le : (bytesOf answer.2.2).length ≤ (bytesOf source).length
  taken : ∀ value, answer.1 = .ok value → took value →
    (bytesOf answer.2.2).length < (bytesOf source).length

variable {took : α → Prop}

theorem Spends.pure {result : Except ReadError α}
    (hresult : ∀ value, result = .ok value → ¬ took value) (session : Session)
    (source : ClientSource) : Spends session source took (result, session, source) :=
  ⟨rfl, Nat.le_refl _, fun value hok htook => absurd htook (hresult value hok)⟩

theorem Spends.andThen {session : Session} {source : ClientSource} {took' : β → Prop}
    (hspends : Spends session source took answer) (hnext : ∀ value session source,
      Spends session source (fun result => took' result ∧ ¬ took value)
        (next value session source)) : Spends session source took' (andThen answer next) := by
  obtain ⟨result, middle, left⟩ := answer
  cases result with
  | error error =>
    exact ⟨hspends.progress, hspends.bytes_le, fun _ hok => by cases hok⟩
  | ok value =>
    obtain ⟨hprogress, hle, htaken⟩ := hnext value middle left
    refine ⟨hprogress.trans hspends.progress, hle.trans hspends.bytes_le, ?_⟩
    intro found hok htook
    by_cases hfirst : took value
    · exact hle.trans_lt (hspends.taken value rfl hfirst)
    · exact (htaken found hok ⟨htook, hfirst⟩).trans_le hspends.bytes_le

section

variable {target : ℕ} (hpos : 0 < target) (session : Session) (source : ClientSource)
include hpos

theorem readExactWithPolicy_spends :
    Spends session source (fun _ => True)
      (readExactWithPolicy config label target session source) := by
  have houtcome := readExactWithPolicy_outcome config label target session source
  refine ⟨houtcome.progress, houtcome.bytes_le, fun bytes hok _ => ?_⟩
  obtain ⟨hjoin, hlength⟩ := houtcome.complete bytes hok
  have hsize := congrArg length hjoin
  rw [length_append, hlength, nil_append] at hsize
  omega

theorem readFirst_spends :
    Spends session source (·.isSome) (readFirst config label target session source) := by
  have hspends := readExactWithPolicy_spends config label hpos session source
  rw [readFirst_eq]
  refine ⟨hspends.progress, hspends.bytes_le, fun found hok hsome => ?_⟩
  obtain ⟨bytes, rfl⟩ := Option.isSome_iff_exists.mp hsome
  refine hspends.taken bytes ?_ trivial
  simp only [firstResult] at hok
  split at hok <;> simp_all

end

theorem readAbridgedLen_spends (first : Byte) (session : Session) (source : ClientSource) :
    Spends session source (fun _ => False) (readAbridgedLen config first session source) := by
  unfold readAbridgedLen
  split_ifs
  · exact (readExactWithPolicy_spends config _ (by omega) session source).andThen
      fun _ => .pure (by simp)
  · exact .pure (by simp) session source

theorem readLen_spends : Spends session source (·.isSome) (readLen config session source) := by
  have hfirst := fun label {target : ℕ} (hpos : 0 < target) =>
    readFirst_spends config label hpos session source
  unfold readLen
  cases config.tag with
  | abridged =>
    refine (hfirst _ (by omega)).andThen fun bytes session source => ?_
    cases bytes with
    | none => exact .pure (by simp) session source
    | some bytes =>
      obtain ⟨hprogress, hle, _⟩ := readAbridgedLen_spends config _ session source
      exact ⟨hprogress, hle, by simp⟩
  | intermediate | secure =>
    refine (hfirst _ (by omega)).andThen fun bytes session source => ?_
    cases bytes <;> exact .pure (by simp) session source

theorem onZeroLength_twins (consecutive : ℕ) {session : Session}
    (hprogress : session.progress = twin.progress) :
    (session.onZeroLength config consecutive).1 = (twin.onZeroLength config consecutive).1 ∧
      (session.onZeroLength config consecutive).2.progress =
        (twin.onZeroLength config consecutive).2.progress := by
  obtain ⟨hcounter, hdebt⟩ := Prod.mk.inj hprogress
  simp only [Session.onZeroLength]
  generalize hours : min ((session.idle.onClientTinyFrame
    session.now).tinyFrameDebt + tinyFrameDebtPerTiny) u32Max = debt
  generalize htheirs : min ((twin.idle.onClientTinyFrame
    twin.now).tinyFrameDebt + tinyFrameDebtPerTiny) u32Max = debt'
  obtain rfl : debt = debt' := by
    rw [← hours, ← htheirs]
    simp only [RelayClientIdleState.onClientTinyFrame, hdebt]
  split_ifs <;> simp [Session.progress, Session.countDesync, hcounter]

theorem onZeroLength_ne_dropped (consecutive : ℕ) (session : Session) :
    (session.onZeroLength config consecutive).1 ≠ .error (.io .other) := by
  simp only [Session.onZeroLength]
  split_ifs <;> simp

theorem admitLength_twins (len : ℕ) {session : Session}
    (hprogress : session.progress = twin.progress) :
    (session.admitLength config len).1 = (twin.admitLength config len).1 ∧
      (session.admitLength config len).2.progress = session.progress ∧
      (twin.admitLength config len).2.progress = twin.progress := by
  obtain ⟨hcounter, hdebt⟩ := Prod.mk.inj hprogress
  unfold Session.admitLength
  split_ifs
  · exact ⟨rfl, rfl, rfl⟩
  · exact ⟨by rw [hcounter], rfl, rfl⟩
  · cases secureVersionDBodyLenFromWireLen len with
    | none | some => exact ⟨rfl, rfl, rfl⟩
  · exact ⟨rfl, rfl, rfl⟩

theorem admitLength_ne_dropped (len : ℕ) (session : Session) :
    (session.admitLength config len).1 ≠ .error (.io .other) := by
  unfold Session.admitLength
  split_ifs
  · simp
  · simp
  · cases secureVersionDBodyLenFromWireLen len <;> simp
  · simp

theorem onFrame_twins {session : Session} (hprogress : session.progress = twin.progress) :
    session.onFrame.progress = twin.onFrame.progress := by
  obtain ⟨hcounter, hdebt⟩ := Prod.mk.inj hprogress
  simp [Session.onFrame, Session.progress, RelayClientIdleState.onClientFrame, hcounter, hdebt]

theorem Twins.withProgress {session next next' : Session}
    {source whole : ClientSource} (htwins : Twins session twin source whole)
    (hprogress : next.progress = next'.progress) : Twins next next' source whole :=
  ⟨htwins.bytes, hprogress, htwins.noFail, htwins.noStall⟩

theorem readBody_follows {len : ℕ} (quickack : Bool) {session : Session}
    {source whole : ClientSource} (hlen : len ≠ 0) (hroute : RouteOnly source)
    (htwins : Twins session twin source whole) :
    Follows session source (readBody config len quickack session source)
      (readBody config len quickack twin whole) := by
  obtain ⟨hsame, hours, htheirs⟩ := admitLength_twins config len htwins.progress
  have hne := admitLength_ne_dropped config len session
  unfold readBody
  generalize session.admitLength config len = admitted at hsame hours hne ⊢
  generalize twin.admitLength config len = admitted' at hsame htheirs ⊢
  obtain ⟨result, middle⟩ := admitted
  obtain ⟨result', middle'⟩ := admitted'
  subst hsame
  have htwins' : Twins middle middle' source whole :=
    htwins.withProgress (by rw [hours, htheirs, htwins.progress])
  cases result with
  | error error =>
    have hpure := Follows.pure (α := Option (List Byte × Bool))
      (.error error) (by simpa using hne) hroute htwins'
    exact hpure.trans (Nat.le_refl _) (Nat.le_refl _) fun _ => hours
  | ok payloadLen =>
    have hfollows := readExactWithPolicy_follows config .payload len hroute htwins'
    have hspends := readExactWithPolicy_spends config .payload
      (Nat.pos_of_ne_zero hlen) middle source
    simp only
    generalize readExactWithPolicy config .payload len middle source = answer at hfollows hspends ⊢
    generalize readExactWithPolicy config .payload len middle' whole = answer' at hfollows ⊢
    obtain ⟨payload, last, left⟩ := answer
    obtain ⟨payload', last', left'⟩ := answer'
    have hread := hfollows.trans (Nat.le_refl _) (Nat.le_refl _) fun _ => hours
    rcases hfollows.result with ⟨hresult, htwins''⟩ | ⟨error, herror, hshort⟩
    · simp only at hresult htwins''
      subst hresult
      cases payload with
      | error error =>
        exact hread.error (.inl ⟨rfl, htwins''⟩)
      | ok payload =>
        have hframe : Twins last.onFrame last'.onFrame left left' :=
          htwins''.withProgress (onFrame_twins htwins''.progress)
        have hpure := Follows.pure (.ok (some (payload.take payloadLen, quickack))) (by simp)
          hfollows.routeOnly hframe
        exact hpure.trans hfollows.length_le hfollows.bytes_le fun hequal =>
          absurd hequal (hspends.taken payload rfl trivial).ne
    · simp only at herror
      subst herror
      exact hread.error (.inr hshort)

/-- Every turn that goes round again has taken a byte, so the turns of both
readers suffice. -/
theorem frameLoop_follows {turns turns' consecutive : ℕ} {session : Session}
    {source whole : ClientSource} (hroute : RouteOnly source)
    (htwins : Twins session twin source whole) (hturns : (bytesOf source).length < turns)
    (hturns' : (bytesOf source).length < turns') :
    Follows session source (frameLoop config turns consecutive session source)
      (frameLoop config turns' consecutive twin whole) := by
  induction turns generalizing turns' consecutive session twin source whole with
  | zero => omega
  | succ turns ih =>
    obtain ⟨turns', rfl⟩ : ∃ more, turns' = more + 1 := ⟨turns' - 1, by omega⟩
    have hfollows := readLen_follows config hroute htwins
    have hspends := readLen_spends config session source
    simp only [frameLoop, frameTurn]
    generalize readLen config session source = answer at hfollows hspends ⊢
    generalize readLen config twin whole = answer' at hfollows ⊢
    obtain ⟨result, middle, left⟩ := answer
    obtain ⟨result', middle', left'⟩ := answer'
    rcases hfollows.result with ⟨hresult, htwins'⟩ | ⟨error, herror, hshort⟩
    · simp only at hresult htwins'
      subst hresult
      cases result with
      | error error =>
        exact hfollows.error (.inl ⟨rfl, htwins'⟩)
      | ok found =>
        cases found with
        | none =>
          exact (Follows.pure _ (by simp) hfollows.routeOnly htwins').trans
            hfollows.length_le hfollows.bytes_le hfollows.untouched
        | some frame =>
          obtain ⟨len, quickack⟩ := frame
          have hless : (bytesOf left).length < (bytesOf source).length := hspends.taken _ rfl rfl
          have hroute' : RouteOnly left := hfollows.routeOnly
          by_cases hzero : len = 0
          · obtain ⟨hsame, hprogress⟩ := onZeroLength_twins config consecutive htwins'.progress
            have hne := onZeroLength_ne_dropped config consecutive middle
            simp only [if_pos hzero]
            generalize middle.onZeroLength config consecutive = counted at hsame hprogress hne ⊢
            generalize middle'.onZeroLength config consecutive = counted' at hsame hprogress ⊢
            obtain ⟨outcome, next⟩ := counted
            obtain ⟨outcome', next'⟩ := counted'
            subst hsame
            have hnext : Twins next next' left left' := htwins'.withProgress hprogress
            have hmoved : (bytesOf left).length = (bytesOf source).length →
                next.progress = session.progress := by omega
            cases outcome with
            | error error =>
              exact (Follows.pure _ (by simpa using hne) hroute'
                hnext).trans hfollows.length_le hfollows.bytes_le hmoved
            | ok consecutive =>
              exact (ih hroute' hnext (by omega) (by omega)).trans
                hfollows.length_le hfollows.bytes_le hmoved
          · simp only [if_neg hzero]
            exact (readBody_follows config quickack hzero hfollows.routeOnly
              htwins').trans hfollows.length_le hfollows.bytes_le hfollows.untouched
    · simp only at herror
      subst herror
      exact hfollows.error (.inr hshort)

theorem bytes_lt_weight : (bytesOf source).length < weight source + 1 := by
  unfold weight
  omega

/-- A relay that is not cut short reads what a reader of the whole stream reads. -/
theorem readClientPayload_follows {session : Session} {source whole : ClientSource}
    (hroute : RouteOnly source) (htwins : Twins session twin source whole) :
    Follows session source (readClientPayload config session source)
      (readClientPayload config twin whole) :=
  frameLoop_follows config hroute htwins (bytes_lt_weight source)
    (htwins.bytes ▸ bytes_lt_weight whole)

theorem Twins.whole :
    Twins session session source (pushFront (bytesOf source) []) where
  bytes := by simp
  progress := rfl
  noFail := NoFail.pushFront (fun _ hmem => by cases hmem) _
  noStall := NoStall.pushFront (fun _ hmem => by cases hmem) _

theorem frameLoop_takes {config : ReadConfig} {turns consecutive : ℕ}
    {session : Session} {source : ClientSource} {frame : List Byte × Bool}
    (hroute : RouteOnly source) (hok : (frameLoop config turns consecutive session source).1 =
      .ok (some frame)) :
    (bytesOf (frameLoop config turns consecutive session source).2.2).length <
      (bytesOf source).length := by
  induction turns generalizing consecutive session source with
  | zero => cases hok
  | succ turns ih =>
    have hfollows := readLen_follows config hroute (.whole session source)
    have hspends := readLen_spends config session source
    simp only [frameLoop, frameTurn] at hok ⊢
    have hroute' := hfollows.routeOnly
    generalize readLen config session source = answer at hroute' hspends hok ⊢
    obtain ⟨result, middle, left⟩ := answer
    cases result with
    | error error => cases hok
    | ok found =>
      cases found with
      | none => cases hok
      | some frame =>
        obtain ⟨len, quickack⟩ := frame
        have hless : (bytesOf left).length < (bytesOf source).length := hspends.taken _ rfl rfl
        by_cases hzero : len = 0
        · simp only [if_pos hzero] at hok ⊢
          generalize middle.onZeroLength config consecutive = counted at hok ⊢
          obtain ⟨outcome, next⟩ := counted
          cases outcome with
          | error error => cases hok
          | ok consecutive => exact (ih hroute' hok).trans hless
        · simp only [if_neg hzero] at hok ⊢
          exact (readBody_follows config quickack hzero hroute'
            (.whole middle left)).bytes_le.trans_lt hless

/-- How a session can stop: with the whole stream forwarded, or cut short by
a timeout or by its socket. -/
structure Forwards (decoded : List C2meData)
    (relayed : List C2meData × RelayEnd) : Prop where
  stopped : relayed.2 ≠ .running
  unswitched : relayed.2 ≠ .routeSwitched
  whole : relayed.1 = decoded ∨
    (relayed.1 <+: decoded ∧
      ∃ error, relayed.2 = .failed error ∧ cutsShort error = true)

theorem Forwards.cons {decoded : List C2meData}
    {relayed : List C2meData × RelayEnd} (hforwards : Forwards decoded relayed)
    (data : C2meData) : Forwards (data :: decoded) (data :: relayed.1, relayed.2) where
  stopped := hforwards.stopped
  unswitched := hforwards.unswitched
  whole := by
    rcases hforwards.whole with hall | ⟨hpart, hend⟩
    · exact .inl (congrArg _ hall)
    · exact .inr ⟨cons_prefix_cons.mpr ⟨rfl, hpart⟩, hend⟩

/-- What a turn of an unaffected session does with the answer of its read. -/
inductive RelayState.Turned (config : RelayConfig) (state : RelayState) :
    Except ReadError (Option (List Byte × Bool)) × Session × ClientSource →
      RelayTurn → Prop
  | forward (payload : List Byte) (quickack : Bool) (session : Session)
      (source : ClientSource) :
      Turned config state (.ok (some (payload, quickack)), session, source)
        (.forward (c2meData config.protoFlags payload quickack)
          { state with session := session, source := source })
  | closed (session : Session) (source : ClientSource) :
      Turned config state (.ok none, session, source) (.ended .clientClosed)
  | rerouted (notice : RouteNotice) (notices : List RouteNotice)
      (session : Session) (source : ClientSource)
      (hnotices : state.notices = notice :: notices) :
      Turned config state (.error (.io .other), session, source)
        (.rerouted (state.noticed notice notices session source))
  | failed (error : ReadError) (session : Session) (source : ClientSource) :
      Turned config state (.error error, session, source)
        (.ended (.failed error))

theorem RelayState.turned {config : RelayConfig} {state : RelayState}
    (hunaffected : isSessionAffectedByCutover state.route .middle config.routeGeneration = false) :
    state.Turned config (readClientPayload config.read state.session state.source)
      (state.turn config) := by
  unfold RelayState.turn
  rw [hunaffected]
  generalize readClientPayload config.read state.session state.source = answer
  obtain ⟨result, session, source⟩ := answer
  simp only [Bool.false_eq_true, if_false]
  split
  · rename_i heq
    cases heq
    exact .forward _ _ _ _
  · rename_i heq
    cases heq
    exact .closed _ _
  · rename_i heq
    cases heq
    split
    · rename_i hnotices
      exact .rerouted _ _ _ _ hnotices
    · exact .failed _ _ _
  · rename_i heq
    cases heq
    exact .failed _ _ _

theorem relay_forwards (config : RelayConfig) {turns count : ℕ}
    {state : RelayState} {twin : Session} {whole : ClientSource} (hroute : RouteOnly state.source)
    (htwins : Twins state.session twin state.source whole) (hturns : weight state.source < turns)
    (hcount : (bytesOf state.source).length < count) (hunaffected : ∀ route ∈
      state.notices.scanl RouteCutoverState.noticed state.route,
      isSessionAffectedByCutover route .middle config.routeGeneration = false)
    (hidle : ∀ visited ∈ state.visited config turns, visited.dropsIdleRead config = true) :
    Forwards ((readFrames config.read count twin whole).filterMap
      (forwarded config)) (state.relay config turns) := by
  induction turns generalizing count state twin whole with
  | zero => omega
  | succ turns ih =>
    obtain ⟨count, rfl⟩ : ∃ more, count = more + 1 := ⟨count - 1, by omega⟩
    have hturned := @RelayState.turned config state (hunaffected state.route
      (by cases state.notices <;> simp [scanl_cons]))
    have hfollows := readClientPayload_follows config.read hroute htwins
    have htakes := fun frame => @frameLoop_takes config.read
      (weight state.source + 1) 0 state.session state.source frame hroute
    have hhere : state.dropsIdleRead config = true := by
      apply hidle
      unfold RelayState.visited
      split <;> simp
    change ∀ frame, (readClientPayload config.read state.session
      state.source).1 = _ → (bytesOf (readClientPayload config.read
        state.session state.source).2.2).length < _ at htakes
    simp only [RelayState.relay, RelayState.visited, RelayState.dropsIdleRead] at hidle hhere ⊢
    generalize readClientPayload config.read state.session state.source =
      answer at hturned hfollows htakes hhere
    generalize hanswer' : readClientPayload config.read twin whole = answer' at hfollows
    obtain ⟨result', session', source'⟩ := answer'
    have hresult := hfollows.result
    generalize state.turn config = turn at hturned hidle ⊢
    cases hturned with
    | forward payload quickack session source =>
      have hless : (bytesOf source).length < (bytesOf state.source).length := htakes _ rfl
      have hlength : source.length ≤ state.source.length := hfollows.length_le
      obtain ⟨hsame, htwins'⟩ | ⟨error, herror, _⟩ := hresult
      · simp only at hsame
        subst hsame
        have hweight : weight source < turns := by
          simp only [weight] at hturns ⊢
          omega
        have hrest := @ih count
          { state with session := session, source := source }
          session' source' hfollows.routeOnly htwins' hweight
          (Nat.lt_of_lt_of_le hless (Nat.le_of_lt_succ hcount)) hunaffected
          fun visited hmem => hidle visited (mem_cons_of_mem _ hmem)
        rw [readFrames, hanswer']
        exact hrest.cons _
      · cases herror
    | closed session source =>
      obtain ⟨hsame, _⟩ | ⟨error, herror, _⟩ := hresult
      · simp only at hsame
        subst hsame
        rw [readFrames, hanswer']
        exact ⟨by simp, by simp, .inl rfl⟩
      · cases herror
    | rerouted notice notices session source hnotices =>
      have hkept : bytesOf source = bytesOf state.source := by
        simpa using hhere
      have hprogress : session.progress = state.session.progress :=
        hfollows.untouched (congrArg length hkept)
      have hless : source.length < state.source.length := hfollows.dropped rfl
      have hweight : weight source < turns := by
        simp only [weight, hkept] at hturns ⊢
        omega
      rw [hnotices, scanl_cons] at hunaffected
      exact @ih (count + 1)
        (state.noticed notice notices session source) twin whole
        hfollows.routeOnly
        ⟨hkept.trans htwins.bytes, hprogress.trans htwins.progress,
          htwins.noFail, htwins.noStall⟩ hweight
        (by rw [← hkept] at hcount; exact hcount)
        (fun route hmem =>
          hunaffected route (mem_cons_of_mem _ hmem))
        fun visited hmem => hidle visited (mem_cons_of_mem _ hmem)
    | failed error session source =>
      refine ⟨by simp, by simp, ?_⟩
      obtain ⟨hsame, _⟩ | ⟨error', herror, hshort⟩ := hresult
      · simp only at hsame
        subst hsame
        rw [readFrames, hanswer']
        exact .inl rfl
      · cases herror
        exact .inr ⟨ nil_prefix, error, rfl, hshort⟩

/-- As long as the route only drops reads that have taken nothing, the session
forwards the decoding of all bytes of the client, for every schedule of
arrivals, pauses and route news that leaves it unaffected. -/
theorem RelayState.forwards_whole_stream (config : RelayConfig)
    (state : RelayState) (hroute : RouteOnly state.source) (hunaffected : ∀ route ∈
      state.notices.scanl RouteCutoverState.noticed state.route,
      isSessionAffectedByCutover route .middle config.routeGeneration = false)
    (hidle : ∀ visited ∈ state.visited config (weight state.source + 1),
      visited.dropsIdleRead config = true) :
    Forwards (decodeStream config state.session (bytesOf state.source))
      (state.relay config (weight state.source + 1)) :=
  relay_forwards config hroute (.whole state.session state.source)
    (Nat.lt_succ_self _) (Nat.lt_succ_self _) hunaffected hidle

def intermediateRelay : RelayConfig where
  read := ⟨.intermediate, 64, ⟨true, 1000, 2000, 0, 2000⟩, 0⟩
  protoFlags := 0x21000
  routeGeneration := 0

def relayStart (source : ClientSource) : RelayState where
  session := .new 0
  route := ⟨.middle, 0⟩
  routeWatchOpen := true
  notices := [.changed [.direct, .middle]]
  source := source

/-- The route goes to direct and back between two frames. -/
def switchedBetweenFrames : RelayState :=
  relayStart [.chunk 4 [0, 0, 0, 1, 2, 3, 4], routeWins,
    .chunk 4 [0, 0], .stall ⟨10, 0⟩, .chunk 0 [5, 6, 7, 8]]

theorem relay_switched_between_frames :
    (switchedBetweenFrames.relay intermediateRelay (weight switchedBetweenFrames.source + 1)).1 =
      [⟨[1, 2, 3, 4], 0x21000⟩, ⟨[5, 6, 7, 8], 0x21000⟩] := by
  have hforwards := switchedBetweenFrames.forwards_whole_stream
    intermediateRelay (by
      intro kind hmem
      simp only [switchedBetweenFrames, relayStart, routeWins, mem_cons,
        reduceCtorEq, Arrival.fail.injEq, not_mem_nil, or_false, false_or] at hmem
      exact hmem)
    (by decide +kernel) (by decide +kernel)
  rcases hforwards.whole with hall | ⟨_, error, hend, _⟩
  · rw [hall]
    decide +kernel
  · have hclosed : (switchedBetweenFrames.relay intermediateRelay
        (weight switchedBetweenFrames.source + 1)).2 = .clientClosed := by
      decide +kernel
    cases hend

/-- The same news after the length of a frame has been read: the session goes
on, takes the payload for a new frame and forwards the rest of it. -/
def switchedInsideFrame : RelayState :=
  relayStart [.chunk 8 [0, 0, 0], routeWins,
    .chunk 4 [0, 0, 0, 9, 9, 9, 9]]

theorem relay_loses_length_read :
    RouteOnly switchedInsideFrame.source ∧
      (∀ route ∈ switchedInsideFrame.notices.scanl RouteCutoverState.noticed
          switchedInsideFrame.route, isSessionAffectedByCutover route .middle
          intermediateRelay.routeGeneration = false) ∧
      decodeStream intermediateRelay switchedInsideFrame.session
          (bytesOf switchedInsideFrame.source) = [⟨[4, 0, 0, 0, 9, 9, 9, 9], 0x21000⟩] ∧
      switchedInsideFrame.relay intermediateRelay (weight switchedInsideFrame.source + 1) =
        ([⟨[9, 9, 9, 9], 0x21000⟩], .clientClosed) := by
  refine ⟨?_, by decide +kernel, by decide +kernel, by decide +kernel⟩
  intro kind hmem
  simp only [switchedInsideFrame, relayStart, routeWins, mem_cons,
    reduceCtorEq, Arrival.fail.injEq, not_mem_nil, or_false, false_or] at hmem
  exact hmem

end TupoProxy.MiddleRelay
