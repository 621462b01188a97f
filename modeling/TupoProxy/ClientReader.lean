import TupoProxy.ClientFraming

/-!
# The client frame reader and its idle policy

`readClientPayload` reads one frame of a client under an idle policy.  Every
single read has a timeout; an expired timeout ends the session only past the
hard deadline (or at once, with the policy switched off), and otherwise the
same field is read on.  Time is a count of milliseconds that passes in ticks
of the byte source, so one list of arrivals fixes both the chunks and the
pauses between them.
-/

namespace TupoProxy.ClientReader

open ByteWords List
open Delivery
open ClientFraming

inductive IoKind where
  | unexpectedEof
  | connectionReset
  | other
  deriving Repr, DecidableEq

/-- Time passing while the client is silent, with the downstream activity
stamp at the end of the pause. -/
structure Tick where
  elapsed : ℕ
  downstreamMs : ℕ
  deriving Repr, DecidableEq

abbrev ClientSource := Source Tick IoKind

structure RelayClientIdlePolicy where
  enabled : Bool
  softIdle : ℕ
  hardIdle : ℕ
  graceAfterDownstreamActivity : ℕ
  legacyFrameReadTimeout : ℕ
  deriving Repr, DecidableEq

structure RelayClientIdleState where
  lastClientFrameAt : ℕ
  softIdleMarked : Bool
  tinyFrameDebt : ℕ
  deriving Repr, DecidableEq

def RelayClientIdleState.new (now : ℕ) : RelayClientIdleState :=
  ⟨now, false, 0⟩

def RelayClientIdleState.onClientFrame (idle : RelayClientIdleState)
    (now : ℕ) : RelayClientIdleState :=
  { idle with lastClientFrameAt := now, softIdleMarked := false }

def RelayClientIdleState.onClientTinyFrame (idle : RelayClientIdleState)
    (now : ℕ) : RelayClientIdleState :=
  { idle with lastClientFrameAt := now }

/-- A call on the registry of idle candidates for this connection. -/
inductive IdleCall where
  | mark
  | clear
  deriving Repr, DecidableEq

structure Session where
  now : ℕ
  downstreamMs : ℕ
  idle : RelayClientIdleState
  frameCounter : ℕ
  idleCalls : List IdleCall
  relayIdleHardCloseTotal : ℕ
  relayProtocolDesyncCloseTotal : ℕ
  securePaddingInvalid : ℕ
  deriving Repr, DecidableEq

def Session.new (now : ℕ) : Session where
  now := now
  downstreamMs := 0
  idle := .new now
  frameCounter := 0
  idleCalls := []
  relayIdleHardCloseTotal := 0
  relayProtocolDesyncCloseTotal := 0
  securePaddingInvalid := 0

inductive ReadLabel where
  | abridgedFirstLenByte
  | abridgedExtendedLen
  | lenPrefix
  | payload
  deriving Repr, DecidableEq

inductive ReadError where
  | unexpectedEof
  | io (kind : IoKind)
  | frameReadTimeout (label : ReadLabel)
  | hardIdleTimeout (label : ReadLabel) (clientIdle downstreamIdle : ℕ)
  | abridgedLengthOverflow
  | tinyFrameOverhead (debt : ℕ)
  | excessiveZeroLengthFrames
  | frameTooSmall (len : ℕ)
  | frameTooLarge (len maxFrame framesOk : ℕ)
  | invalidSecureLength (len : ℕ)
  deriving Repr, DecidableEq

def ReadError.isTimeout : ReadError → Bool
  | .frameReadTimeout _ => true
  | .hardIdleTimeout _ _ _ => true
  | _ => false

structure ReadConfig where
  tag : ProtoTag
  maxFrame : ℕ
  policy : RelayClientIdlePolicy
  sessionStartedAt : ℕ
  deriving Repr, DecidableEq

def relayIdleIoPollMax : ℕ := 1000
def tinyFrameDebtPerTiny : ℕ := 8
def tinyFrameDebtLimit : ℕ := 512
def legacyMaxConsecutiveZeroLenFrames : ℕ := 4

def hardDeadline (config : ReadConfig) (session : Session) : ℕ :=
  let deadline := session.idle.lastClientFrameAt + config.policy.hardIdle
  if config.policy.graceAfterDownstreamActivity = 0 then deadline
  else
    let downstreamAt := config.sessionStartedAt + session.downstreamMs
    if session.idle.lastClientFrameAt < downstreamAt then
      max deadline
        (downstreamAt + config.policy.graceAfterDownstreamActivity)
    else deadline

/-- The first read past the soft deadline marks the session as idle. -/
def Session.softMark (config : ReadConfig) (session : Session) : Session :=
  if session.idle.softIdleMarked = false ∧
      config.policy.softIdle ≤ session.now - session.idle.lastClientFrameAt then
    { session with
      idle := { session.idle with softIdleMarked := true }
      idleCalls := session.idleCalls ++ [.mark] }
  else session

def timeoutWindow (config : ReadConfig) (session : Session) : ℕ × Session :=
  if config.policy.enabled then
    let hard := hardDeadline config session
    let session := session.softMark config
    let soft := session.idle.lastClientFrameAt + config.policy.softIdle
    let nextDeadline := if session.idle.softIdleMarked then hard else min soft hard
    let remaining := nextDeadline - session.now
    let remaining := if remaining = 0 then 1 else remaining
    (min remaining relayIdleIoPollMax, session)
  else (config.policy.legacyFrameReadTimeout, session)

def Session.pass (session : Session) (tick : Tick) : Session :=
  { session with
    now := session.now + tick.elapsed
    downstreamMs := tick.downstreamMs }

/-- The answer to an expired timeout: an error, or `none` to read on. -/
def expired (config : ReadConfig) (label : ReadLabel) (session : Session) :
    Option ReadError × Session :=
  if config.policy.enabled then
    if hardDeadline config session ≤ session.now then
      (some (.hardIdleTimeout label
          (session.now - session.idle.lastClientFrameAt)
          (session.now - (config.sessionStartedAt + session.downstreamMs))),
        { session with
          idleCalls := session.idleCalls ++ [.clear]
          relayIdleHardCloseTotal := session.relayIdleHardCloseTotal + 1 })
    else (none, session)
  else (some (.frameReadTimeout label), session)

/-- The reading loop.  `waiting` is the rest of the window of a read that is
still in progress; without one a new read starts with a new window.  The first
argument bounds the rounds. -/
def readExactLoop (config : ReadConfig) (label : ReadLabel) (target : ℕ) :
    ℕ → List Byte → Option ℕ → Session → ClientSource →
      Except ReadError (List Byte) × Session × ClientSource
  | 0, _, _, session, source => (.error .unexpectedEof, session, source)
  | rounds + 1, filled, waiting, session, source =>
    if target ≤ filled.length then (.ok filled, session, source)
    else
      let (window, session) :=
        match waiting with
        | some window => (window, session)
        | none => timeoutWindow config session
      match poll (target - filled.length) source with
      | (.filled [], source) => (.error .unexpectedEof, session, source)
      | (.filled (head :: tail), source) =>
        readExactLoop config label target rounds
          (filled ++ head :: tail) none session source
      | (.failed kind, source) => (.error (.io kind), session, source)
      | (.stalled tick, source) =>
        let session := session.pass tick
        if tick.elapsed < window then
          readExactLoop config label target rounds filled
            (some (window - tick.elapsed)) session source
        else
          match expired config label session with
          | (some error, session) => (.error error, session, source)
          | (none, session) =>
            readExactLoop config label target rounds filled none
              session source

def readExactWithPolicy (config : ReadConfig) (label : ReadLabel)
    (target : ℕ) (session : Session) (source : ClientSource) :
    Except ReadError (List Byte) × Session × ClientSource :=
  readExactLoop config label target (weight source + 1) [] none session source

def andThen {α β : Type}
    (answer : Except ReadError α × Session × ClientSource)
    (next : α → Session → ClientSource →
      Except ReadError β × Session × ClientSource) :
    Except ReadError β × Session × ClientSource :=
  match answer with
  | (.ok value, session, source) => next value session source
  | (.error error, session, source) => (.error error, session, source)

/-- An end of the stream at the start of a frame is a regular end, also when
part of the length is already there. -/
def readFirst (config : ReadConfig) (label : ReadLabel) (target : ℕ)
    (session : Session) (source : ClientSource) :
    Except ReadError (Option (List Byte)) × Session × ClientSource :=
  match readExactWithPolicy config label target session source with
  | (.ok bytes, session, source) => (.ok (some bytes), session, source)
  | (.error .unexpectedEof, session, source) => (.ok none, session, source)
  | (.error (.io .unexpectedEof), session, source) =>
    (.ok none, session, source)
  | (.error error, session, source) => (.error error, session, source)

def wordsToLen (words : ℕ) (quickack : Bool) :
    Except ReadError (Option (ℕ × Bool)) :=
  if usizeMax < words * 4 then .error .abridgedLengthOverflow
  else .ok (some (words * 4, quickack))

def readAbridgedLen (config : ReadConfig) (first : Byte) (session : Session)
    (source : ClientSource) :
    Except ReadError (Option (ℕ × Bool)) × Session × ClientSource :=
  let quickack := decide (first &&& 0x80 ≠ 0)
  if first &&& 0x7f = 0x7f then
    andThen (readExactWithPolicy config .abridgedExtendedLen 3 session source)
      fun ext session source => (wordsToLen (leNat ext) quickack, session, source)
  else (wordsToLen (first &&& 0x7f).toNat quickack, session, source)

/-- The length on the wire and the quick-ack bit; `none` at the end. -/
def readLen (config : ReadConfig) (session : Session) (source : ClientSource) :
    Except ReadError (Option (ℕ × Bool)) × Session × ClientSource :=
  match config.tag with
  | .abridged =>
    andThen (readFirst config .abridgedFirstLenByte 1 session source)
      fun bytes session source =>
        match bytes with
        | none => (.ok none, session, source)
        | some bytes =>
          readAbridgedLen config (bytes.headD 0) session source
  | .intermediate | .secure =>
    andThen (readFirst config .lenPrefix 4 session source)
      fun bytes session source =>
        match bytes with
        | none => (.ok none, session, source)
        | some bytes =>
          let header := parseIntermediateHeader bytes
          (.ok (some (header.wireLen, header.quickack)), session, source)

def Session.countDesync (session : Session) : Session :=
  { session with
    relayProtocolDesyncCloseTotal := session.relayProtocolDesyncCloseTotal + 1 }

/-- A frame of length zero costs debt; too much of it ends the session. -/
def Session.onZeroLength (config : ReadConfig) (consecutive : ℕ)
    (session : Session) : Except ReadError ℕ × Session :=
  let idle := session.idle.onClientTinyFrame session.now
  let debt := min (idle.tinyFrameDebt + tinyFrameDebtPerTiny) u32Max
  let session := { session with idle := { idle with tinyFrameDebt := debt } }
  if tinyFrameDebtLimit ≤ debt then
    (.error (.tinyFrameOverhead debt), session.countDesync)
  else if config.policy.enabled then (.ok consecutive, session)
  else
    let consecutive := min (consecutive + 1) u32Max
    if legacyMaxConsecutiveZeroLenFrames < consecutive then
      (.error .excessiveZeroLengthFrames, session.countDesync)
    else (.ok consecutive, session)

/-- The checks between the length and the payload; the result is the number
of payload bytes kept. -/
def Session.admitLength (config : ReadConfig) (len : ℕ) (session : Session) :
    Except ReadError ℕ × Session :=
  if len < 4 ∧ config.tag ≠ .abridged then
    (.error (.frameTooSmall len), session.countDesync)
  else if config.maxFrame < len then
    (.error (.frameTooLarge len config.maxFrame session.frameCounter),
      session.countDesync)
  else if config.tag = .secure then
    match secureVersionDBodyLenFromWireLen len with
    | some payloadLen => (.ok payloadLen, session)
    | none =>
      (.error (.invalidSecureLength len),
        { session.countDesync with
          securePaddingInvalid := session.securePaddingInvalid + 1 })
  else (.ok len, session)

def Session.onFrame (session : Session) : Session :=
  let idle := session.idle.onClientFrame session.now
  { session with
    frameCounter := session.frameCounter + 1
    idle := { idle with tinyFrameDebt := idle.tinyFrameDebt - 1 }
    idleCalls := session.idleCalls ++ [.clear] }

def readBody (config : ReadConfig) (len : ℕ) (quickack : Bool)
    (session : Session) (source : ClientSource) :
    Except ReadError (Option (List Byte × Bool)) × Session × ClientSource :=
  match session.admitLength config len with
  | (.error error, session) => (.error error, session, source)
  | (.ok payloadLen, session) =>
    andThen (readExactWithPolicy config .payload len session source)
      fun payload session source =>
        (.ok (some (payload.take payloadLen, quickack)),
          session.onFrame, source)

inductive FrameTurn where
  | again (consecutive : ℕ) (session : Session) (source : ClientSource)
  | done (result : Except ReadError (Option (List Byte × Bool)))
      (session : Session) (source : ClientSource)

/-- One turn of the frame loop: a frame of length zero goes round again. -/
def frameTurn (config : ReadConfig) (consecutive : ℕ) (session : Session)
    (source : ClientSource) : FrameTurn :=
  match readLen config session source with
  | (.error error, session, source) => .done (.error error) session source
  | (.ok none, session, source) => .done (.ok none) session source
  | (.ok (some (len, quickack)), session, source) =>
    if len = 0 then
      match session.onZeroLength config consecutive with
      | (.error error, session) => .done (.error error) session source
      | (.ok consecutive, session) => .again consecutive session source
    else
      match readBody config len quickack session source with
      | (result, session, source) => .done result session source

/-- Every turn that goes round again has read a byte, so the weight of the
source bounds the turns. -/
def frameLoop (config : ReadConfig) :
    ℕ → ℕ → Session → ClientSource →
      Except ReadError (Option (List Byte × Bool)) × Session × ClientSource
  | 0, _, session, source => (.ok none, session, source)
  | turns + 1, consecutive, session, source =>
    match frameTurn config consecutive session source with
    | .again consecutive session source =>
      frameLoop config turns consecutive session source
    | .done result session source => (result, session, source)

def readClientPayload (config : ReadConfig) (session : Session)
    (source : ClientSource) :
    Except ReadError (Option (List Byte × Bool)) × Session × ClientSource :=
  frameLoop config (weight source + 1) 0 session source

/-! ## What reading a field does -/

/-- The part of a session that decides how the next bytes are understood. -/
def Session.progress (session : Session) : ℕ × ℕ :=
  (session.frameCounter, session.idle.tinyFrameDebt)

theorem Session.softMark_progress (config : ReadConfig) (session : Session) :
    (session.softMark config).progress = session.progress := by
  unfold Session.softMark
  split_ifs <;> rfl

theorem timeoutWindow_progress (config : ReadConfig) (session : Session) :
    (timeoutWindow config session).2.progress = session.progress := by
  unfold timeoutWindow
  split_ifs
  · exact session.softMark_progress config
  · rfl

theorem expired_progress (config : ReadConfig) (label : ReadLabel) (session : Session) :
    (expired config label session).2.progress = session.progress := by
  unfold expired
  split_ifs <;> rfl

variable {session next : Session} {source : ClientSource}
  {answer : Except ReadError (List Byte) × Session × ClientSource} {label : ReadLabel}

def pauses (source : ClientSource) : ℕ :=
  (source.map fun
    | .stall tick => tick.elapsed
    | .chunk _ _ | .fail _ => 0).sum

@[simp] theorem pauses_stall_cons (tick : Tick) (source : ClientSource) :
    pauses (.stall tick :: source) = tick.elapsed + pauses source := rfl

theorem pauses_poll_le (cap : ℕ) (source : ClientSource) :
    pauses (poll cap source).2 ≤ pauses source := by
  cases source with
  | nil => exact le_rfl
  | cons arrival rest =>
    cases arrival with
    | chunk head tail =>
      cases hleft : (head :: tail).drop cap <;> simp [poll, pushFront, hleft, pauses]
    | stall tick => exact Nat.le_add_left _ _
    | fail kind => exact Nat.le_add_left _ _

def Session.silence (session : Session) : ℕ :=
  session.now - session.idle.lastClientFrameAt

/-- The pauses of the source are within the time allowed.  Under the policy they stay,
with the time since the last frame, below the hard limit; without it they stay below the
timeout of a read and below what is left of the read in progress. -/
def Brief (config : ReadConfig) (waiting : Option ℕ) (session : Session)
    (source : ClientSource) : Prop :=
  if config.policy.enabled then session.silence + pauses source < config.policy.hardIdle
  else pauses source < config.policy.legacyFrameReadTimeout ∧
    ∀ window ∈ waiting, pauses source < window

theorem timeoutWindow_silence (config : ReadConfig) (session : Session) :
    (timeoutWindow config session).2.silence = session.silence := by
  unfold timeoutWindow Session.softMark
  split_ifs <;> rfl

section Pauses

variable {config : ReadConfig} {waiting : Option ℕ} {window : ℕ} {tick : Tick}

theorem Brief.started (hbrief : Brief config waiting session source) :
    let started := match waiting with
      | some window => (window, session)
      | none => timeoutWindow config session
    Brief config (some started.1) started.2 source := by
  unfold Brief at hbrief ⊢
  cases waiting with
  | some window => exact hbrief
  | none =>
    simp only [timeoutWindow_silence]
    split_ifs at hbrief ⊢ with hpolicy
    · exact hbrief
    · refine ⟨hbrief.1, ?_⟩
      rintro window ⟨⟩
      simpa only [timeoutWindow, if_neg hpolicy] using hbrief.1

theorem Brief.pass (hbrief : Brief config (some window) session (.stall tick :: source)) :
    Brief config (some (window - tick.elapsed)) (session.pass tick) source := by
  unfold Brief at hbrief ⊢
  simp only [pauses_stall_cons, Option.mem_some, forall_eq'] at hbrief ⊢
  split_ifs at hbrief ⊢
  · simp only [Session.silence, Session.pass] at hbrief ⊢
    omega
  · omega

theorem Brief.rest {rest : ClientSource} (hbrief : Brief config waiting session source)
    (hrest : pauses rest ≤ pauses source) : Brief config none session rest := by
  unfold Brief at hbrief ⊢
  split_ifs at hbrief ⊢
  · exact (Nat.add_le_add_left hrest _).trans_lt hbrief
  · exact ⟨hrest.trans_lt hbrief.1, nofun⟩

theorem hardIdle_le_hardDeadline (config : ReadConfig) (session : Session) :
    session.idle.lastClientFrameAt + config.policy.hardIdle ≤ hardDeadline config session := by
  unfold hardDeadline
  dsimp only
  split_ifs
  · exact le_rfl
  · exact le_max_left _ _
  · exact le_rfl

/-- A pause of a client that keeps within the time allowed does not end the read. -/
theorem Brief.not_expired {error : ReadError}
    (hbrief : Brief config (some window) session (.stall tick :: source))
    (hwithin : ¬ tick.elapsed < window) :
    expired config label (session.pass tick) ≠ (some error, next) := by
  have hdeadline := hardIdle_le_hardDeadline config (session.pass tick)
  unfold Brief at hbrief
  unfold expired
  simp only [pauses_stall_cons, Option.mem_some, forall_eq'] at hbrief
  split_ifs at hbrief ⊢ with hpolicy hhard
  · simp only [Session.silence, Session.pass] at hbrief hdeadline hhard
    omega
  · simp
  · omega

end Pauses

theorem expired_isTimeout {config : ReadConfig} {error : ReadError}
    (hexpired : expired config label session = (some error, next)) : error.isTimeout = true := by
  unfold expired at hexpired
  split_ifs at hexpired <;> simp only [Prod.mk.injEq, Option.some.injEq, reduceCtorEq, false_and]
      at hexpired
  · rw [← hexpired.1]
    rfl
  · rw [← hexpired.1]
    rfl

theorem expired_none {config : ReadConfig}
    (hexpired : expired config label session = (none, next)) : session = next := by
  unfold expired at hexpired
  split_ifs at hexpired <;> simp_all

/-- No byte is lost or duplicated; the field is complete unless the stream
ends first, a pause of the client used up the time allowed for it, or the
source failed. -/
structure ReadOutcome (config : ReadConfig) (waiting : Option ℕ) (target : ℕ)
    (filled : List Byte) (session : Session) (source : ClientSource)
    (answer : Except ReadError (List Byte) × Session × ClientSource) :
    Prop where
  complete : ∀ bytes, answer.1 = .ok bytes →
    bytes ++ bytesOf answer.2.2 = filled ++ bytesOf source ∧
      bytes.length = target
  failed : ∀ error, answer.1 = .error error →
    (error = .unexpectedEof ∧ bytesOf answer.2.2 = [] ∧
      filled.length + (bytesOf source).length < target) ∨
    (error.isTimeout = true ∧ ¬ NoStall source ∧ ¬ Brief config waiting session source) ∨
    (∃ kind, error = .io kind ∧ Arrival.fail kind ∈ source ∧
      answer.2.2.length < source.length)
  progress : answer.2.1.progress = session.progress
  fails : ∀ kind, Arrival.fail kind ∈ answer.2.2 → Arrival.fail kind ∈ source
  noStall : NoStall source → NoStall answer.2.2
  brief : Brief config waiting session source → Brief config none answer.2.1 answer.2.2
  length_le : answer.2.2.length ≤ source.length
  bytes_le : (bytesOf answer.2.2).length ≤ (bytesOf source).length

variable {config : ReadConfig} {waiting : Option ℕ} {target : ℕ} {filled : List Byte}

theorem ReadOutcome.afterStall {tick : Tick} {left : Option ℕ}
    (houtcome : ReadOutcome config left target filled next source answer)
    (hprogress : next.progress = session.progress)
    (hbrief : Brief config waiting session (.stall tick :: source) →
      Brief config left next source) :
    ReadOutcome config waiting target filled session (.stall tick :: source) answer where
  complete := houtcome.complete
  failed error herror := by
    rcases houtcome.failed error herror with
      hend | ⟨htimeout, _, hlong⟩ | ⟨kind, hkind, hmem, hless⟩
    · exact .inl hend
    · exact .inr (.inl ⟨htimeout, fun hstall => hstall tick mem_cons_self, mt hbrief hlong⟩)
    · exact .inr (.inr ⟨kind, hkind, mem_cons_of_mem _ hmem, Nat.lt_succ_of_lt hless⟩)
  progress := houtcome.progress.trans hprogress
  fails kind hmem := mem_cons_of_mem _ (houtcome.fails kind hmem)
  noStall hstall := houtcome.noStall hstall.tail
  brief hall := houtcome.brief (hbrief hall)
  length_le := Nat.le_succ_of_le houtcome.length_le
  bytes_le := houtcome.bytes_le

theorem ReadOutcome.afterBytes {cap : ℕ} {bytes : List Byte} {rest : ClientSource}
    (houtcome : ReadOutcome config none target (filled ++ bytes) next rest answer)
    (hprogress : next.progress = session.progress)
    (hbrief : Brief config waiting session source → Brief config none next rest)
    (hcap : 0 < cap) (hpoll : poll cap source = (.filled bytes, rest)) :
    ReadOutcome config waiting target filled session source answer := by
  obtain ⟨hmoved, _, _, _⟩ := poll_filled hcap hpoll
  have hlength : rest.length ≤ source.length := by
    simpa [hpoll] using poll_length_le cap source
  have hsize : bytes.length + (bytesOf rest).length =
      (bytesOf source).length := by
    rw [← hmoved, length_append]
  have hnoStall : NoStall source → NoStall rest := fun hstall => by
    simpa [hpoll] using poll_noStall cap hstall
  have hfails : ∀ kind, Arrival.fail kind ∈ rest → Arrival.fail kind ∈ source :=
    fun kind hmem => mem_of_mem_poll hpoll hmem (by intro _ _ h; cases h)
  exact {
    complete := fun all hok => by
      obtain ⟨hjoin, hlength⟩ := houtcome.complete all hok
      exact ⟨by rw [hjoin, append_assoc, hmoved], hlength⟩
    failed := fun error herror => by
      rcases houtcome.failed error herror with
        ⟨hend, hempty, hshort⟩ | ⟨htimeout, hstall, hlong⟩ |
        ⟨kind, hkind, hmem, hless⟩
      · refine .inl ⟨hend, hempty, ?_⟩
        rw [length_append] at hshort
        omega
      · exact .inr (.inl ⟨htimeout, mt hnoStall hstall, mt hbrief hlong⟩)
      · exact .inr (.inr ⟨kind, hkind, hfails kind hmem, by omega⟩)
    progress := houtcome.progress.trans hprogress
    fails := fun kind hmem => hfails kind (houtcome.fails kind hmem)
    noStall := fun hstall => houtcome.noStall (hnoStall hstall)
    brief := fun hall => houtcome.brief (hbrief hall)
    length_le := houtcome.length_le.trans hlength
    bytes_le := houtcome.bytes_le.trans (by omega) }

theorem readExactLoop_outcome {rounds : ℕ}
    (hfits : filled.length ≤ target) (hrounds : weight source < rounds) :
    ReadOutcome config waiting target filled session source
      (readExactLoop config label target rounds filled waiting session source) := by
  induction rounds generalizing filled waiting session source with
  | zero => omega
  | succ rounds ih =>
    by_cases hdone : target ≤ filled.length
    · have hlength : filled.length = target := by omega
      simp only [readExactLoop, if_pos hdone]
      constructor <;> simp [hlength]
      exact fun hbrief => hbrief.rest le_rfl
    · have hroom : 0 < target - filled.length := by omega
      simp only [readExactLoop, if_neg hdone]
      have hwindow : (match waiting with
          | some window => (window, session)
          | none => timeoutWindow config session).2.progress =
          session.progress := by
        cases waiting with
        | none => exact timeoutWindow_progress config session
        | some window => rfl
      have hstarted := @Brief.started session source config waiting
      generalize (match waiting with
        | some window => (window, session)
        | none => timeoutWindow config session) = started at hwindow hstarted
      obtain ⟨window, next⟩ := started
      simp only at hwindow hstarted ⊢
      cases hpoll : poll (target - filled.length) source with
      | mk answer rest =>
        cases answer with
        | failed kind =>
          have hsource := poll_failed hpoll
          subst hsource
          constructor <;> simp [hwindow]
          · exact fun found hmem => .inr hmem
          · exact NoStall.tail
          · exact fun hbrief => (hstarted hbrief).rest (Nat.le_add_left _ _)
        | filled bytes =>
          obtain ⟨hmoved, hcapped, hend, hless⟩ := poll_filled hroom hpoll
          cases bytes with
          | nil =>
            obtain ⟨rfl, rfl⟩ := hend rfl
            constructor <;> simp [hwindow]
            · omega
            · exact fun hbrief => (hstarted hbrief).rest le_rfl
          | cons head tail =>
            have hlower := hless (by simp)
            have hsize : (filled ++ head :: tail).length =
                filled.length + (head :: tail).length := by simp
            have hrest : pauses rest ≤ pauses source := by
              simpa [hpoll] using pauses_poll_le (target - filled.length) source
            exact (ih (by omega) (by omega)).afterBytes hwindow
              (fun hbrief => (hstarted hbrief).rest hrest) hroom hpoll
        | stalled tick =>
          have hsource := poll_stalled hpoll
          subst hsource
          have hlower : weight rest < rounds := by
            simp only [weight, bytesOf_stall_cons, length_cons] at hrounds ⊢
            omega
          simp only
          split_ifs with hwithin
          · exact (ih hfits hlower).afterStall hwindow fun hbrief => (hstarted hbrief).pass
          · have hexpiry := expired_progress config label (next.pass tick)
            cases hexpired : expired config label (next.pass tick) with
            | mk outcome last =>
              rw [hexpired] at hexpiry
              have hlast : last.progress = session.progress := hexpiry.trans hwindow
              cases outcome with
              | none =>
                obtain rfl := expired_none hexpired
                exact (ih hfits hlower).afterStall hlast
                  fun hbrief => (hstarted hbrief).pass.rest le_rfl
              | some error =>
                have htimeout := expired_isTimeout hexpired
                have hlong : ¬ Brief config waiting session (.stall tick :: rest) :=
                  fun hbrief => (hstarted hbrief).not_expired hwithin hexpired
                constructor <;> simp [hlast, htimeout, hlong]
                · exact .inr (.inl fun hstall => hstall tick mem_cons_self)
                · exact NoStall.tail

theorem readExactWithPolicy_outcome (config : ReadConfig) (label : ReadLabel)
    (target : ℕ) (session : Session) (source : ClientSource) :
    ReadOutcome config none target [] session source
      (readExactWithPolicy config label target session source) :=
  readExactLoop_outcome (Nat.zero_le _) (Nat.lt_succ_self _)

/-- The client makes no pause, or only pauses within the time allowed. -/
def Patient (config : ReadConfig) (session : Session) (source : ClientSource) : Prop :=
  NoStall source ∨ Brief config none session source

structure ReadSpec (config : ReadConfig) (target : ℕ) (filled : List Byte)
    (session : Session) (source : ClientSource)
    (answer : Except ReadError (List Byte) × Session × ClientSource) :
    Prop where
  complete : ∀ bytes, answer.1 = .ok bytes →
    bytes ++ bytesOf answer.2.2 = filled ++ bytesOf source ∧
      bytes.length = target
  failed : ∀ error, answer.1 = .error error →
    (error = .unexpectedEof ∧ bytesOf answer.2.2 = [] ∧
      filled.length + (bytesOf source).length < target) ∨
    (error.isTimeout = true ∧ ¬ Patient config session source)
  noFail : NoFail answer.2.2
  noStall : NoStall source → NoStall answer.2.2
  patient : Patient config session source → Patient config answer.2.1 answer.2.2

theorem ReadOutcome.spec
    (houtcome : ReadOutcome config none target filled session source answer)
    (hfail : NoFail source) : ReadSpec config target filled session source answer where
  complete := houtcome.complete
  failed error herror := by
    rcases houtcome.failed error herror with
      hend | ⟨htimeout, hstall, hlong⟩ | ⟨kind, _, hmem, _⟩
    · exact .inl hend
    · exact .inr ⟨htimeout, not_or.mpr ⟨hstall, hlong⟩⟩
    · exact absurd hmem (hfail kind)
  noFail kind hmem := hfail kind (houtcome.fails kind hmem)
  noStall := houtcome.noStall
  patient := Or.imp houtcome.noStall houtcome.brief

theorem readExactWithPolicy_spec (hfail : NoFail source) :
    ReadSpec config target [] session source
      (readExactWithPolicy config label target session source) :=
  (readExactWithPolicy_outcome config label target session source).spec hfail

section Reads

variable {α : Type}

/-- The read returns `value` and leaves exactly `rest` in the source, unless a
pause of the client ran into a timeout. -/
def Reads (config : ReadConfig) (session : Session) (source : ClientSource) (value : α)
    (rest : List Byte) (answer : Except ReadError α × Session × ClientSource) : Prop :=
  (answer.1 = .ok value ∧ bytesOf answer.2.2 = rest ∧ NoFail answer.2.2 ∧
    (Patient config session source → Patient config answer.2.1 answer.2.2)) ∨
  (¬ Patient config session source ∧ ∃ error, answer.1 = .error error ∧
    error.isTimeout = true)

end Reads

variable {config : ReadConfig} {session : Session} {source : ClientSource} {rest : List Byte}
  {field : List Byte}

theorem readExactWithPolicy_reads
    (hfail : NoFail source) (hbytes : bytesOf source = field ++ rest) :
    Reads config session source field rest
      (readExactWithPolicy config label field.length session source) := by
  have hspec : ReadSpec config field.length [] session source
      (readExactWithPolicy config label field.length session source) :=
    readExactWithPolicy_spec hfail
  cases hanswer : (readExactWithPolicy config label field.length session source).1 with
  | ok bytes =>
    obtain ⟨hjoin, hlength⟩ := hspec.complete bytes hanswer
    rw [nil_append, hbytes] at hjoin
    obtain ⟨rfl, hrest⟩ := append_inj hjoin hlength
    exact .inl ⟨hanswer, hrest, hspec.noFail, hspec.patient⟩
  | error error =>
    rcases hspec.failed error hanswer with ⟨_, _, hshort⟩ | ⟨htimeout, hstall⟩
    · rw [hbytes, length_append] at hshort
      omega
    · exact .inr ⟨hstall, error, hanswer, htimeout⟩

theorem readFirst_reads (hfail : NoFail source) (hbytes : bytesOf source = field ++ rest) :
    Reads config session source (some field) rest
      (readFirst config label field.length session source) := by
  have hreads : Reads config session source field rest
      (readExactWithPolicy config label field.length session source) :=
    readExactWithPolicy_reads hfail hbytes
  unfold readFirst
  generalize readExactWithPolicy config label field.length session source = answer at hreads
  obtain ⟨result, next, left⟩ := answer
  rcases hreads with ⟨hok, hrest⟩ | ⟨hstall, error, herror, htimeout⟩
  · simp only at hok
    subst hok
    exact .inl ⟨rfl, hrest⟩
  · simp only at herror
    refine .inr ⟨hstall, error, ?_, htimeout⟩
    cases error <;> simp_all [ReadError.isTimeout]

theorem readFirst_reads_end (hfail : NoFail source)
    (hbytes : bytesOf source = []) (htarget : 0 < target) :
    Reads config session source none [] (readFirst config label target session source) := by
  have hspec : ReadSpec config target [] session source
      (readExactWithPolicy config label target session source) :=
    readExactWithPolicy_spec hfail
  unfold readFirst
  generalize readExactWithPolicy config label target session source = answer at hspec
  obtain ⟨result, next, left⟩ := answer
  cases result with
  | ok bytes =>
    obtain ⟨hjoin, hlength⟩ := hspec.complete bytes rfl
    rw [hbytes, append_nil] at hjoin
    have hnil := (append_eq_nil_iff.mp hjoin).1
    rw [hnil] at hlength
    simp only [length_nil] at hlength
    omega
  | error error =>
    rcases hspec.failed error rfl with ⟨rfl, hempty, _⟩ | ⟨htimeout, hstall⟩
    · exact .inl ⟨rfl, hempty, hspec.noFail, hspec.patient⟩
    · refine .inr ⟨hstall, error, ?_, htimeout⟩
      cases error <;> simp_all [ReadError.isTimeout]

variable {α : Type}

theorem Reads.andThen {β : Type} {value : α} {result : β} {middle : List Byte}
    {answer : Except ReadError α × Session × ClientSource}
    {next : α → Session → ClientSource → Except ReadError β × Session × ClientSource}
    (hreads : Reads config session source value middle answer)
    (hnext : ∀ session left, NoFail left → bytesOf left = middle →
      Reads config session left result rest (next value session left)) :
    Reads config session source result rest (andThen answer next) := by
  obtain ⟨outcome, session, left⟩ := answer
  rcases hreads with ⟨hok, hleft, hfail, hstall⟩ |
    ⟨hstall, error, herror, htimeout⟩
  · simp only at hok hleft hfail hstall
    subst hok
    rcases hnext session left hfail hleft with ⟨hok', hrest, hfail', hstall'⟩ |
      ⟨hstall', error, herror, htimeout⟩
    · exact .inl ⟨hok', hrest, hfail', fun hall => hstall' (hstall hall)⟩
    · exact .inr ⟨fun hall => hstall' (hstall hall), error, herror, htimeout⟩
  · simp only at herror
    subst herror
    exact .inr ⟨hstall, error, rfl, htimeout⟩

theorem Reads.pure {value : α} (hfail : NoFail source)
    (hrest : bytesOf source = rest) :
    Reads config session source value rest (.ok value, session, source) :=
  .inl ⟨rfl, hrest, hfail, id⟩

theorem Patient.onFrame (hpatient : Patient config session source) :
    Patient config session.onFrame source := by
  refine hpatient.imp_right fun hbrief => ?_
  unfold Brief at hbrief ⊢
  split_ifs at hbrief ⊢
  · rw [Session.silence, Session.onFrame, RelayClientIdleState.onClientFrame, Nat.sub_self]
    omega
  · exact hbrief

theorem wordsToLen_ok {words : ℕ} (hwords : words < 2 ^ 24) (quickack : Bool) :
    wordsToLen words quickack = .ok (some (words * 4, quickack)) := by
  unfold wordsToLen usizeMax
  rw [if_neg (by omega)]

theorem readLen_reads {header : List Byte} {len : ℕ} {quickack : Bool}
    (hannounce : HeaderSays config.tag header len quickack) (hfail : NoFail source)
    (hbytes : bytesOf source = header ++ rest) :
    Reads config session source (some (len, quickack)) rest (readLen config session source) := by
  unfold readLen
  generalize config.tag = tag at hannounce
  cases hannounce with
  | @short first words _ hwords hshort hquick =>
    have hplain : ¬ first &&& 0x7f = 0x7f := by
      intro hmark
      rw [hmark] at hwords
      have : (0x7f : Byte).toNat = 127 := rfl
      omega
    have hfirst : Reads config session source (some [first]) rest
        (readFirst config .abridgedFirstLenByte 1 session source) := readFirst_reads hfail hbytes
    refine hfirst.andThen fun next left hfail' hleft => ?_
    change Reads config next left _ rest (readAbridgedLen config first next left)
    simp only [readAbridgedLen, if_neg hplain, hwords, hquick,
      wordsToLen_ok (by omega : words < 2 ^ 24)]
    exact .pure hfail' hleft
  | @extended first ext words _ hmark hext hwords hquick =>
    have hbound : words < 2 ^ 24 := by
      have hlt := leNat_lt ext
      rw [hext, hwords] at hlt
      omega
    have hfirst : Reads config session source (some [first]) (ext ++ rest)
        (readFirst config .abridgedFirstLenByte 1 session source) := readFirst_reads hfail hbytes
    refine hfirst.andThen fun next left hfail' hleft => ?_
    have hsecond : Reads config next left ext rest
        (readExactWithPolicy config .abridgedExtendedLen 3 next left) :=
      hext ▸ readExactWithPolicy_reads hfail' hleft
    change Reads config next left _ rest (readAbridgedLen config first next left)
    simp only [readAbridgedLen, if_pos hmark]
    refine hsecond.andThen fun last tail hfail'' htail => ?_
    rw [hwords, hquick, wordsToLen_ok hbound]
    exact .pure hfail'' htail
  | word hword hlength hparse =>
    have hfirst : Reads config session source (some header) rest
        (readFirst config .lenPrefix 4 session source) :=
      hlength ▸ readFirst_reads hfail hbytes
    cases tag with
    | abridged => exact absurd rfl hword
    | intermediate | secure =>
      refine hfirst.andThen fun next left hfail' hleft => ?_
      simp only [hparse]
      exact .pure hfail' hleft

theorem readLen_reads_end (hfail : NoFail source) (hbytes : bytesOf source = []) :
    Reads config session source none [] (readLen config session source) := by
  unfold readLen
  split
  · exact (readFirst_reads_end hfail hbytes Nat.one_pos).andThen
      fun next left hfail' hleft => .pure hfail' hleft
  · exact (readFirst_reads_end hfail hbytes (by omega)).andThen
      fun next left hfail' hleft => .pure hfail' hleft
  · exact (readFirst_reads_end hfail hbytes (by omega)).andThen
      fun next left hfail' hleft => .pure hfail' hleft

variable {frame : OutFrame}

theorem admitLength_accepted (haccepted : frame.Accepted config.tag)
    (hdata : 4 ≤ frame.data.length) (hfits : frame.wireLen config.tag ≤ config.maxFrame)
    (session : Session) :
    ∃ keep, session.admitLength config (frame.wireLen config.tag) = (.ok keep, session) ∧
      (frame.data ++ frame.padding config.tag).take keep = frame.data := by
  have hsmall : ¬ (frame.wireLen config.tag < 4 ∧ config.tag ≠ .abridged) := by
    unfold OutFrame.wireLen
    omega
  have hlarge : ¬ config.maxFrame < frame.wireLen config.tag := by omega
  unfold Session.admitLength
  rw [if_neg hsmall, if_neg hlarge]
  by_cases hsecure : config.tag = .secure
  · rw [if_pos hsecure, hsecure]
    rw [hsecure] at haccepted
    obtain ⟨_, _, _, halign⟩ := wire_secure haccepted
    have hpad : (frame.padding .secure).length = frame.rng.range.val + 1 := by
      simp [OutFrame.padding, length_fillBytes, securePaddingLen]
    have hkeep : secureVersionDBodyLenFromWireLen (frame.wireLen .secure) =
        some frame.data.length := by
      unfold secureVersionDBodyLenFromWireLen OutFrame.wireLen
      rw [if_neg (by omega), hpad]
      congr 1
      omega
    exact ⟨frame.data.length, by rw [hkeep], take_left⟩
  · rw [if_neg hsecure]
    have hpad : frame.padding config.tag = [] := by
      cases htag : config.tag with
      | abridged => rfl
      | intermediate => rfl
      | secure => exact absurd htag hsecure
    refine ⟨frame.wireLen config.tag, rfl, ?_⟩
    simp [OutFrame.wireLen, hpad]

theorem readBody_reads (quickack : Bool)
    (haccepted : frame.Accepted config.tag) (hdata : 4 ≤ frame.data.length)
    (hfits : frame.wireLen config.tag ≤ config.maxFrame) (hfail : NoFail source)
    (hbytes : bytesOf source = (frame.data ++ frame.padding config.tag) ++ rest) :
    Reads config session source (some (frame.data, quickack)) rest
      (readBody config (frame.wireLen config.tag) quickack session source) := by
  obtain ⟨keep, hadmit, hkeep⟩ := admitLength_accepted haccepted hdata hfits session
  have hlength : (frame.data ++ frame.padding config.tag).length =
      frame.wireLen config.tag := by
    simp [OutFrame.wireLen]
  have hreads : Reads config session source (frame.data ++ frame.padding config.tag) rest
      (readExactWithPolicy config .payload (frame.wireLen config.tag) session source) :=
    hlength ▸ readExactWithPolicy_reads hfail hbytes
  simp only [readBody, hadmit]
  refine hreads.andThen fun next left hfail' hleft => ?_
  rw [hkeep]
  exact .inl ⟨rfl, hleft, hfail', Patient.onFrame⟩

def afterLen (config : ReadConfig) (answer : Option (ℕ × Bool))
    (session : Session) (source : ClientSource) :
    Except ReadError (Option (List Byte × Bool)) × Session × ClientSource :=
  match answer with
  | none => (.ok none, session, source)
  | some (len, quickack) => readBody config len quickack session source

theorem readClientPayload_eq (hlen : ∀ quickack,
      (readLen config session source).1 ≠ .ok (some (0, quickack))) :
    readClientPayload config session source =
      andThen (readLen config session source) (afterLen config) := by
  simp only [readClientPayload, frameLoop, frameTurn]
  generalize readLen config session source = answer at hlen
  obtain ⟨result, next, left⟩ := answer
  match result with
  | .error error => rfl
  | .ok none => rfl
  | .ok (some (0, quickack)) => exact absurd rfl (hlen quickack)
  | .ok (some (len + 1, quickack)) => rfl

theorem Reads.result_ne {value other : α} {answer : Except ReadError α × Session × ClientSource}
    (hreads : Reads config session source value rest answer) (hne : value ≠ other) :
    answer.1 ≠ .ok other := by
  intro heq
  rcases hreads with ⟨hok, _⟩ | ⟨_, error, herror, _⟩
  · rw [hok] at heq
    exact hne (Except.ok.inj heq)
  · rw [herror] at heq
    cases heq

/-- One accepted frame at the front of the source is read back. -/
theorem readClientPayload_reads (session : Session)
    (haccepted : frame.Accepted config.tag) (hdata : 4 ≤ frame.data.length)
    (hfits : frame.wireLen config.tag ≤ config.maxFrame) (hfail : NoFail source)
    (hbytes : bytesOf source = frame.wire config.tag ++ rest) :
    Reads config session source (some (frame.data, quickackOf frame.flags)) rest
      (readClientPayload config session source) := by
  obtain ⟨header, hwire, hannounce⟩ := wire_accepted haccepted
  rw [hwire, append_assoc] at hbytes
  have hlen : Reads config session source (some (frame.wireLen config.tag, quickackOf frame.flags))
      ((frame.data ++ frame.padding config.tag) ++ rest) (readLen config session source) :=
    readLen_reads hannounce hfail hbytes
  have hpos : frame.wireLen config.tag ≠ 0 := by
    unfold OutFrame.wireLen
    omega
  rw [readClientPayload_eq fun quickack => hlen.result_ne (by simp [hpos])]
  exact hlen.andThen fun next left hfail' hleft =>
    readBody_reads _ haccepted hdata hfits hfail' hleft

theorem readClientPayload_reads_end (session : Session) (hfail : NoFail source)
    (hbytes : bytesOf source = []) :
    Reads config session source none [] (readClientPayload config session source) := by
  have hlen : Reads config session source none [] (readLen config session source) :=
    readLen_reads_end hfail hbytes
  rw [readClientPayload_eq fun quickack => hlen.result_ne (by simp)]
  exact hlen.andThen fun next left hfail' hleft => .pure hfail' hleft

/-! ## Reading a whole stream -/

/-- Read up to `count` frames, stopping at the end of the stream and at the
first error. -/
def readFrames (config : ReadConfig) :
    ℕ → Session → ClientSource →
      List (Except ReadError (Option (List Byte × Bool)))
  | 0, _, _ => []
  | count + 1, session, source =>
    match readClientPayload config session source with
    | (.ok (some frame), session, source) =>
      .ok (some frame) :: readFrames config count session source
    | (result, _, _) => [result]

def OutFrame.decoded (frame : OutFrame) :
    Except ReadError (Option (List Byte × Bool)) :=
  .ok (some (frame.data, quickackOf frame.flags))

/-- All frames are read back, or those before a pause that used up the time allowed. -/
theorem readFrames_spec {frames : List OutFrame} (session : Session)
    (haccepted : ∀ frame ∈ frames, frame.Accepted config.tag)
    (hdata : ∀ frame ∈ frames, 4 ≤ frame.data.length)
    (hfits : ∀ frame ∈ frames, frame.wireLen config.tag ≤ config.maxFrame) (hfail : NoFail source)
    (hbytes : bytesOf source = frames.flatMap (OutFrame.wire config.tag)) :
    readFrames config (frames.length + 1) session source =
        frames.map OutFrame.decoded ++ [.ok none] ∨
      (¬ Patient config session source ∧ ∃ (count : ℕ) (error : ReadError), error.isTimeout = true ∧
        readFrames config (frames.length + 1) session source =
          (frames.take count).map OutFrame.decoded ++ [.error error]) := by
  induction frames generalizing session source with
  | nil =>
    have hreads : Reads config session source none [] (readClientPayload config session source) :=
      readClientPayload_reads_end session hfail hbytes
    simp only [readFrames, length_nil]
    generalize readClientPayload config session source = answer at hreads
    obtain ⟨result, next, left⟩ := answer
    rcases hreads with ⟨hok, _⟩ | ⟨hstall, error, herror, htimeout⟩
    · simp only at hok
      subst hok
      exact .inl rfl
    · simp only at herror
      subst herror
      exact .inr ⟨hstall, 0, error, htimeout, rfl⟩
  | cons frame frames ih =>
    have hreads := readClientPayload_reads session
      (haccepted frame (by simp)) (hdata frame (by simp)) (hfits frame (by simp)) hfail hbytes
    simp only [length_cons]
    rw [readFrames]
    generalize readClientPayload config session source = answer at hreads
    obtain ⟨result, next, left⟩ := answer
    rcases hreads with ⟨hok, hleft, hfail', hstall'⟩ |
      ⟨hstall, error, herror, htimeout⟩
    · simp only at hok hleft hfail' hstall'
      subst hok
      rcases ih next (fun other hmem => haccepted other (by simp [hmem]))
        (fun other hmem => hdata other (by simp [hmem]))
        (fun other hmem => hfits other (by simp [hmem])) hfail' hleft with
        hall | ⟨hstall, count, error, htimeout, hpart⟩
      · simp only [hall]
        exact .inl rfl
      · simp only [hpart]
        exact .inr ⟨fun hno => hstall (hstall' hno), count + 1, error, htimeout, rfl⟩
    · simp only at herror
      subst herror
      exact .inr ⟨hstall, 0, error, htimeout, rfl⟩

/-- Writing frames and reading them back is the identity on data and quick-ack bits: for
every framing, every padding, every chunking and all pauses within the time allowed. -/
theorem readFrames_roundTrip {config : ReadConfig} {frames : List OutFrame}
    {source : ClientSource} (session : Session)
    (haccepted : ∀ frame ∈ frames, frame.Accepted config.tag)
    (hdata : ∀ frame ∈ frames, 4 ≤ frame.data.length)
    (hfits : ∀ frame ∈ frames, frame.wireLen config.tag ≤ config.maxFrame)
    (hfail : NoFail source) (hpatient : Patient config session source)
    (hbytes : bytesOf source = frames.flatMap (OutFrame.wire config.tag)) :
    readFrames config (frames.length + 1) session source =
      frames.map OutFrame.decoded ++ [.ok none] := by
  rcases readFrames_spec session haccepted hdata hfits hfail hbytes with hall | ⟨hlong, _⟩
  · exact hall
  · exact absurd hpatient hlong

def sampleConfig : ReadConfig where
  tag := .secure
  maxFrame := 64
  policy := ⟨true, 1000, 2000, 0, 2000⟩
  sessionStartedAt := 0

/-- A frame with the quick-ack flag and three tail bytes, then one without and
with one tail byte. -/
def sampleFrames : List OutFrame :=
  [⟨0x80000000, [1, 2, 3, 4], ⟨2, fun _ => 0xcc⟩⟩,
    ⟨0, [5, 6, 7, 8], ⟨0, fun _ => 0xdd⟩⟩]

def sampleSource : ClientSource :=
  [.chunk 7 [0], .stall ⟨1200, 0⟩, .chunk 0 [0x80, 1, 2, 3, 4, 0xcc, 0xcc],
    .chunk 0xcc [5, 0, 0], .stall ⟨700, 0⟩, .chunk 0 [5, 6, 7, 8, 0xdd]]

/-- The client pauses inside both length words. -/
theorem readFrames_roundTrip_sample :
    readFrames sampleConfig 3 (Session.new 0) sampleSource =
      [.ok (some ([1, 2, 3, 4], true)), .ok (some ([5, 6, 7, 8], false)), .ok none] := by
  have haccepted : ∀ frame ∈ sampleFrames, frame.Accepted sampleConfig.tag := by
    intro frame hmem
    simp only [sampleFrames, mem_cons, not_mem_nil, or_false] at hmem
    rcases hmem with rfl | rfl
    · exact ⟨_, _, rfl⟩
    · exact ⟨_, _, rfl⟩
  have hbytes : bytesOf sampleSource =
      sampleFrames.flatMap (OutFrame.wire sampleConfig.tag) := by decide
  exact readFrames_roundTrip (Session.new 0) haccepted
    (by decide) (by decide) (by simp [NoFail, sampleSource])
    (.inr (by unfold Brief; decide)) hbytes

end TupoProxy.ClientReader
