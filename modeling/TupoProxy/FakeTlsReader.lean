import TupoProxy.TlsRecord

/-!
# The polling fake-TLS reader

`FakeTlsReader.pollRead` is the five-state machine of the stream module: it
may stop inside a header or a body on every `Pending` answer of the upstream
and resume there on the next call.  Its meaning in any state is the part of
the record grammar that is still to come, and one loop iteration either keeps
that meaning, or removes from its front exactly the bytes it hands out.
-/

namespace TupoProxy.FakeTlsReader

open Delivery List
open TlsRecord

/-- The upstream of a stream wrapper: a stall is a `Pending` poll and a
failure is an I/O error of some kind. -/
abbrev Upstream := Source Unit ErrorKind

structure YieldBuffer where
  data : List Byte
  position : ℕ
  deriving Repr, DecidableEq

def YieldBuffer.new (data : List Byte) : YieldBuffer := ⟨data, 0⟩

def YieldBuffer.isEmpty (buffer : YieldBuffer) : Bool :=
  decide (buffer.data.length ≤ buffer.position)

def YieldBuffer.remaining (buffer : YieldBuffer) : ℕ :=
  buffer.data.length - buffer.position

def YieldBuffer.asSlice (buffer : YieldBuffer) : List Byte :=
  buffer.data.drop buffer.position

/-- The bytes copied to a destination of `room` bytes, and the buffer after. -/
def YieldBuffer.copyTo (buffer : YieldBuffer) (room : ℕ) :
    List Byte × YieldBuffer :=
  (buffer.asSlice.take room,
    { buffer with position := buffer.position + min buffer.asSlice.length room })

inductive TlsReaderState where
  | idle
  | readingHeader (header : List Byte)
  | readingBody (recordType : Byte) (length : ℕ) (buffer : List Byte)
  | yielding (buffer : YieldBuffer)
  | poisoned (error : Option TlsError)
  deriving Repr, DecidableEq

structure Reader where
  upstream : Upstream
  state : TlsReaderState

def Reader.new (upstream : Upstream) : Reader := ⟨upstream, .idle⟩

inductive HeaderPollResult where
  | pending
  | eof
  | complete (header : TlsRecordHeader)
  | error (error : TlsError)

inductive BodyPollResult where
  | pending
  | complete (body : List Byte)
  | error (error : TlsError)

def pollReadHeader (upstream : Upstream) (header : List Byte) :
    HeaderPollResult × List Byte × Upstream :=
  match fill tlsHeaderSize tlsHeaderSize (tlsHeaderSize - header.length)
      header upstream with
  | (.stalled _, header, upstream) => (.pending, header, upstream)
  | (.failed kind, header, upstream) =>
    (.error (.upstream kind), header, upstream)
  | (.ended, header, upstream) =>
    if header = [] then (.eof, header, upstream)
    else (.error (.eofInHeader header.length), header, upstream)
  | (.complete, header, upstream) =>
    match TlsRecordHeader.parse header with
    | some parsed => (.complete parsed, header, upstream)
    | none => (.error .unparsedHeader, header, upstream)

def bodyChunkLen : ℕ := 8192

def pollReadBody (upstream : Upstream) (buffer : List Byte) (targetLen : ℕ) :
    BodyPollResult × List Byte × Upstream :=
  match fill bodyChunkLen targetLen (targetLen - buffer.length)
      buffer upstream with
  | (.stalled _, buffer, upstream) => (.pending, buffer, upstream)
  | (.failed kind, buffer, upstream) =>
    (.error (.upstream kind), buffer, upstream)
  | (.ended, buffer, upstream) =>
    (.error (.eofInBody buffer.length targetLen), buffer, upstream)
  | (.complete, buffer, upstream) => (.complete buffer, [], upstream)

/-- What a caller of `poll_read` sees: `ready` with the bytes added to its
buffer, which are none at the end of the stream. -/
inductive PollRead where
  | pending
  | ready (bytes : List Byte)
  | error (error : TlsError)
  deriving Repr, DecidableEq

inductive LoopTurn where
  | again (reader : Reader)
  | done (reader : Reader) (result : PollRead)

namespace Reader

def fail (reader : Reader) (error : TlsError) : LoopTurn :=
  .done { reader with state := .poisoned (some error) } (.error error)

def turn (reader : Reader) (room : ℕ) : LoopTurn :=
  match reader.state with
  | .poisoned error =>
    .done { reader with state := .poisoned none }
      (.error (error.getD .previouslyPoisoned))
  | .yielding buffer =>
    if room = 0 then .done reader (.ready [])
    else
      let toCopy := min buffer.remaining room
      let (copied, buffer) := buffer.copyTo toCopy
      if buffer.isEmpty then
        .done { reader with state := .idle } (.ready copied)
      else
        .done { reader with state := .yielding buffer } (.ready copied)
  | .idle =>
    if room = 0 then .done reader (.ready [])
    else .again { reader with state := .readingHeader [] }
  | .readingHeader header =>
    match pollReadHeader reader.upstream header with
    | (.pending, header, upstream) =>
      .done ⟨upstream, .readingHeader header⟩ .pending
    | (.eof, _, upstream) => .done ⟨upstream, .idle⟩ (.ready [])
    | (.error error, _, upstream) =>
      fail ⟨upstream, .idle⟩ error
    | (.complete parsed, _, upstream) =>
      match parsed.validate with
      | .error error => fail ⟨upstream, .idle⟩ error
      | .ok () =>
        .again ⟨upstream,
          .readingBody parsed.recordType parsed.length []⟩
  | .readingBody recordType length buffer =>
    match pollReadBody reader.upstream buffer length with
    | (.pending, buffer, upstream) =>
      .done ⟨upstream, .readingBody recordType length buffer⟩ .pending
    | (.error error, _, upstream) =>
      fail ⟨upstream, .idle⟩ error
    | (.complete data, _, upstream) =>
      if recordType = tlsRecordChangeCipher then
        .again ⟨upstream, .idle⟩
      else if recordType = tlsRecordApplication then
        if data = [] then .again ⟨upstream, .idle⟩
        else .again ⟨upstream, .yielding (YieldBuffer.new data)⟩
      else if recordType = tlsRecordAlert then
        .done ⟨upstream, .idle⟩ (.ready [])
      else if recordType = tlsRecordHandshake then
        fail ⟨upstream, .idle⟩ .unexpectedHandshake
      else
        fail ⟨upstream, .idle⟩ (.unknownRecordType recordType)

def loop : ℕ → Reader → ℕ → Reader × PollRead
  | 0, reader, _ => (reader, .pending)
  | turns + 1, reader, room =>
    match reader.turn room with
    | .again reader => loop turns reader room
    | .done reader result => (reader, result)

end Reader

def TlsReaderState.rank : TlsReaderState → ℕ
  | .idle => 2
  | .readingHeader _ => 1
  | .readingBody _ _ _ => 1
  | .yielding _ => 0
  | .poisoned _ => 0

/-- An upper bound on the turns a poll still has to make. -/
def Reader.turnsLeft (reader : Reader) : ℕ :=
  3 * weight reader.upstream + reader.state.rank

/-- `poll_read` with room for `room` bytes in the caller's buffer. -/
def Reader.pollRead (reader : Reader) (room : ℕ) : Reader × PollRead :=
  reader.loop (reader.turnsLeft + 1) room

/-- The bytes a reader still has to yield and the ending it still has to
report, read off the record grammar. -/
def Reader.meaning (reader : Reader) : List Byte × Ending :=
  let stream := bytesOf reader.upstream
  match reader.state with
  | .idle => recordStream stream
  | .readingHeader header => recordStream (header ++ stream)
  | .readingBody recordType length buffer =>
    bodyStream recordType length (buffer ++ stream)
  | .yielding buffer =>
    (buffer.asSlice ++ (recordStream stream).1, (recordStream stream).2)
  | .poisoned error => ([], .error (error.getD .previouslyPoisoned))

/-- A header or body in progress is incomplete, and a yield buffer is never
kept when it is empty. -/
def TlsReaderState.WellFormed : TlsReaderState → Prop
  | .readingHeader header => header.length < tlsHeaderSize
  | .readingBody _ length buffer => buffer.length < length
  | .yielding buffer => 0 < buffer.remaining
  | .idle => True
  | .poisoned _ => True

def TlsReaderState.midRecord : TlsReaderState → Bool
  | .readingHeader _ => true
  | .readingBody _ _ _ => true
  | _ => false

def TlsReaderState.buffered : TlsReaderState → ℕ
  | .readingHeader header => header.length
  | .readingBody _ _ buffer => buffer.length
  | .yielding buffer => buffer.remaining
  | .idle => 0
  | .poisoned _ => 0

/-- Work left before the reader has nothing to do but report the ending. -/
def Reader.workLeft (reader : Reader) : ℕ :=
  weight reader.upstream + (bytesOf reader.upstream).length +
    reader.state.buffered

structure Reader.Sound (reader : Reader) : Prop where
  wellFormed : reader.state.WellFormed
  noFail : NoFail reader.upstream

/-- What a returning poll with room in its buffer owes its caller. -/
def PollSpec (reader next : Reader) : PollRead → Prop
  | .pending =>
    next.Sound ∧ next.meaning = reader.meaning ∧
      next.workLeft < reader.workLeft
  | .ready [] => reader.meaning = ([], .eof)
  | .ready (head :: tail) =>
    next.Sound ∧ next.state.midRecord = false ∧
      reader.meaning = (head :: tail ++ next.meaning.1, next.meaning.2) ∧
      next.workLeft < reader.workLeft
  | .error error => reader.meaning = ([], .error error)

def TurnSpec (reader : Reader) : LoopTurn → Prop
  | .again next =>
    next.Sound ∧ next.meaning = reader.meaning ∧
      next.turnsLeft < reader.turnsLeft ∧ next.workLeft ≤ reader.workLeft
  | .done next result => PollSpec reader next result

/-! ## One turn -/

theorem YieldBuffer.length_asSlice (buffer : YieldBuffer) :
    buffer.asSlice.length = buffer.remaining := by
  simp [asSlice, remaining]

theorem YieldBuffer.copyTo_asSlice (buffer : YieldBuffer) (room : ℕ) :
    (buffer.copyTo room).1 ++ (buffer.copyTo room).2.asSlice = buffer.asSlice := by
  have hdrop : buffer.asSlice.drop (min buffer.asSlice.length room) =
      buffer.asSlice.drop room := by
    rcases Nat.le_total buffer.asSlice.length room with hle | hle
    · rw [min_eq_left hle, drop_length, drop_of_length_le hle]
    · rw [min_eq_right hle]
  calc (buffer.copyTo room).1 ++ (buffer.copyTo room).2.asSlice
      = buffer.asSlice.take room ++
          buffer.asSlice.drop (min buffer.asSlice.length room) := by
        simp [copyTo, asSlice, drop_drop]
    _ = buffer.asSlice := by rw [hdrop, take_append_drop]

variable {room : ℕ} {reader : Reader} {upstream : Upstream}

theorem turn_yielding {buffer : YieldBuffer}
    (hsound : Reader.Sound ⟨upstream, .yielding buffer⟩) (hroom : 0 < room) :
    TurnSpec ⟨upstream, .yielding buffer⟩ (Reader.turn ⟨upstream, .yielding buffer⟩ room) := by
  have hpos : 0 < buffer.remaining := hsound.wellFormed
  have hjoin := buffer.copyTo_asSlice (min buffer.remaining room)
  have hlen : (buffer.copyTo (min buffer.remaining room)).1.length =
      min buffer.remaining room := by
    simp [YieldBuffer.copyTo, YieldBuffer.length_asSlice]
  simp only [Reader.turn, if_neg hroom.ne']
  generalize buffer.copyTo (min buffer.remaining room) = moved at hjoin hlen ⊢
  obtain ⟨copied, left⟩ := moved
  simp only at hjoin hlen ⊢
  have hleft : copied.length + left.remaining = buffer.remaining := by
    rw [← left.length_asSlice, ← length_append, hjoin, buffer.length_asSlice]
  cases copied with
  | nil =>
    simp only [length_nil] at hlen
    omega
  | cons head tail =>
    by_cases hempty : left.isEmpty
    · have hslice : left.asSlice = [] := by
        rw [YieldBuffer.asSlice, drop_eq_nil_iff]
        simpa [YieldBuffer.isEmpty] using hempty
      rw [hslice, append_nil] at hjoin
      rw [if_pos hempty]
      refine ⟨⟨trivial, hsound.noFail⟩, rfl, ?_, ?_⟩
      · simp [Reader.meaning, hjoin]
      · simp [Reader.workLeft, TlsReaderState.buffered]
        exact hpos
    · rw [if_neg hempty]
      have hmore : 0 < left.remaining := by
        simp [YieldBuffer.isEmpty] at hempty
        simp [YieldBuffer.remaining]
        omega
      refine ⟨⟨hmore, hsound.noFail⟩, rfl, ?_, ?_⟩
      · simp [Reader.meaning, ← hjoin]
      · simp only [Reader.workLeft, TlsReaderState.buffered, length_cons] at hleft ⊢
        omega

theorem turn_readingHeader {header : List Byte}
    (hsound : Reader.Sound ⟨upstream, .readingHeader header⟩) :
    TurnSpec ⟨upstream, .readingHeader header⟩
      (Reader.turn ⟨upstream, .readingHeader header⟩ room) := by
  have hshort : header.length < tlsHeaderSize := hsound.wellFormed
  have hspec : FillSpec tlsHeaderSize header upstream
      (fill tlsHeaderSize tlsHeaderSize (tlsHeaderSize - header.length) header upstream) :=
    fill_spec (by simp [tlsHeaderSize]) (by omega) (by omega)
  simp only [Reader.turn, pollReadHeader]
  generalize fill tlsHeaderSize tlsHeaderSize (tlsHeaderSize - header.length)
    header upstream = filled at hspec ⊢
  obtain ⟨result, got, rest⟩ := filled
  have hbytes : got ++ bytesOf rest = header ++ bytesOf upstream := hspec.bytes
  have hnoFail : NoFail rest := hspec.noFail hsound.noFail
  have hcount := congrArg length hbytes
  simp only [length_append] at hcount
  cases result with
  | stalled why =>
    have hgot := (hspec.stalled why rfl).1
    have hless : weight rest < weight upstream := hspec.stalled_lt hshort rfl
    refine ⟨⟨hgot, hnoFail⟩, ?_, ?_⟩
    · simp [Reader.meaning, hbytes]
    · simp only [Reader.workLeft, TlsReaderState.buffered]
      omega
  | failed error => exact absurd (hspec.failed error rfl) (hsound.noFail error)
  | ended =>
    obtain ⟨hgot, hrest⟩ := hspec.ended rfl
    subst hrest
    by_cases hnil : got = []
    · simp only [if_pos hnil]
      show Reader.meaning _ = _
      simp [Reader.meaning, ← hbytes, hnil]
    · simp only [if_neg hnil]
      show Reader.meaning _ = _
      simp [Reader.meaning, ← hbytes, recordStream_shortHeader hnil hgot]
  | complete =>
    have hgot : got.length = tlsHeaderSize := hspec.complete rfl
    have hless : weight rest < weight upstream := hspec.complete_lt hshort rfl
    obtain ⟨parsed, hparse⟩ := TlsRecordHeader.parse_isSome hgot
    simp only [hparse]
    cases hvalid : parsed.validate with
    | error error =>
      show Reader.meaning _ = _
      simp [Reader.meaning, ← hbytes, recordStream_invalidHeader hgot hparse hvalid]
    | ok _ =>
      refine ⟨⟨?_, hnoFail⟩, ?_, ?_, ?_⟩
      · exact TlsRecordHeader.validate_length_pos hvalid
      · simp [Reader.meaning, ← hbytes, recordStream_validHeader hgot hparse hvalid]
      · simp only [Reader.turnsLeft, TlsReaderState.rank]
        omega
      · simp only [Reader.workLeft, TlsReaderState.buffered, length_nil]
        omega

theorem turn_readingBody {recordType : Byte} {length : ℕ} {buffer : List Byte}
    (hsound : Reader.Sound ⟨upstream, .readingBody recordType length buffer⟩) :
    TurnSpec ⟨upstream, .readingBody recordType length buffer⟩
      (Reader.turn ⟨upstream, .readingBody recordType length buffer⟩ room) := by
  have hshort : buffer.length < length := hsound.wellFormed
  have hspec : FillSpec length buffer upstream
      (fill bodyChunkLen length (length - buffer.length) buffer upstream) :=
    fill_spec (by simp [bodyChunkLen]) (by omega) (by omega)
  simp only [Reader.turn, pollReadBody]
  generalize fill bodyChunkLen length (length - buffer.length) buffer upstream = filled at hspec ⊢
  obtain ⟨result, got, rest⟩ := filled
  have hbytes : got ++ bytesOf rest = buffer ++ bytesOf upstream := hspec.bytes
  have hnoFail : NoFail rest := hspec.noFail hsound.noFail
  have hcount := congrArg List.length hbytes
  simp only [length_append] at hcount
  cases result with
  | stalled why =>
    have hgot := (hspec.stalled why rfl).1
    have hless : weight rest < weight upstream := hspec.stalled_lt hshort rfl
    refine ⟨⟨hgot, hnoFail⟩, ?_, ?_⟩
    · simp [Reader.meaning, hbytes]
    · simp only [Reader.workLeft, TlsReaderState.buffered]
      omega
  | failed error => exact absurd (hspec.failed error rfl) (hsound.noFail error)
  | ended =>
    obtain ⟨hgot, hrest⟩ := hspec.ended rfl
    subst hrest
    show Reader.meaning _ = _
    simp [Reader.meaning, ← hbytes, bodyStream_short hgot]
  | complete =>
    have hgot : got.length = length := hspec.complete rfl
    have hpos : 0 < got.length := by omega
    have hless : weight rest < weight upstream := hspec.complete_lt hshort rfl
    have hmeaning : Reader.meaning
        ⟨upstream, .readingBody recordType length buffer⟩ =
        recordMeaning recordType got (recordStream (bytesOf rest)) := by
      show bodyStream recordType length (buffer ++ bytesOf upstream) = _
      rw [← hbytes, ← hgot, bodyStream_append]
    have hne : got ≠ [] := ne_nil_of_length_pos hpos
    simp only [recordMeaning] at hmeaning
    simp only [if_neg hne]
    split_ifs at hmeaning ⊢
    · refine ⟨⟨trivial, hnoFail⟩, hmeaning.symm, ?_, ?_⟩
      · simp only [Reader.turnsLeft, TlsReaderState.rank]
        omega
      · simp only [Reader.workLeft, TlsReaderState.buffered]
        omega
    · refine ⟨⟨?_, hnoFail⟩, hmeaning.symm, ?_, ?_⟩
      · simpa [TlsReaderState.WellFormed, YieldBuffer.new, YieldBuffer.remaining] using hpos
      · simp only [Reader.turnsLeft, TlsReaderState.rank]
        omega
      · simp only [Reader.workLeft, TlsReaderState.buffered, YieldBuffer.new, YieldBuffer.remaining]
        omega
    · exact hmeaning
    · exact hmeaning
    · exact hmeaning

/-- One turn of the loop keeps the meaning of the reader. -/
theorem Reader.Sound.turn_spec (hsound : reader.Sound) (hroom : 0 < room) :
    TurnSpec reader (reader.turn room) := by
  obtain ⟨upstream, state⟩ := reader
  cases state with
  | idle =>
    simp only [Reader.turn, if_neg hroom.ne']
    refine ⟨⟨by simp [TlsReaderState.WellFormed, tlsHeaderSize],
      hsound.noFail⟩, by simp [Reader.meaning], ?_, ?_⟩
    · simp [Reader.turnsLeft, TlsReaderState.rank]
    · simp [Reader.workLeft, TlsReaderState.buffered]
  | readingHeader header => exact turn_readingHeader hsound
  | readingBody recordType length buffer => exact turn_readingBody hsound
  | yielding buffer => exact turn_yielding hsound hroom
  | poisoned error => rfl

theorem PollSpec.of_again {next final : Reader} {result : PollRead}
    (hmeaning : next.meaning = reader.meaning) (hwork : next.workLeft ≤ reader.workLeft)
    (hspec : PollSpec next final result) : PollSpec reader final result := by
  match result, hspec with
  | .pending, ⟨hsound, hkept, hless⟩ =>
    exact ⟨hsound, hkept.trans hmeaning, by omega⟩
  | .ready [], hend => exact hmeaning.symm.trans hend
  | .ready (head :: tail), ⟨hsound, hidle, hout, hless⟩ =>
    exact ⟨hsound, hidle, hmeaning.symm.trans hout, by omega⟩
  | .error error, hend => exact hmeaning.symm.trans hend

theorem Reader.Sound.loop_spec {turns : ℕ} (hsound : reader.Sound) (hroom : 0 < room)
    (hturns : reader.turnsLeft < turns) :
    PollSpec reader (reader.loop turns room).1 (reader.loop turns room).2 := by
  induction turns generalizing reader with
  | zero => omega
  | succ turns ih =>
    have hturn := hsound.turn_spec hroom
    simp only [Reader.loop]
    cases h : reader.turn room with
    | done next result =>
      rw [h] at hturn
      exact hturn
    | again next =>
      rw [h] at hturn
      obtain ⟨hnext, hmeaning, hless, hwork⟩ := hturn
      exact (ih hnext (by omega)).of_again hmeaning hwork

/-- A poll with room gives the next bytes of the stream or its ending. -/
theorem Reader.Sound.pollRead_spec (hsound : reader.Sound) (hroom : 0 < room) :
    PollSpec reader (reader.pollRead room).1 (reader.pollRead room).2 :=
  hsound.loop_spec hroom (Nat.lt_succ_self _)

theorem Reader.pollRead_noRoom (hidle : reader.state.midRecord = false) :
    reader.pollRead 0 = (reader, .ready []) ∨ ∃ error, reader.meaning = ([], .error error) ∧
        (reader.pollRead 0).2 = .error error := by
  obtain ⟨upstream, state⟩ := reader
  cases state with
  | idle | yielding => exact .inl rfl
  | readingHeader header => simp [TlsReaderState.midRecord] at hidle
  | readingBody recordType length buffer =>
    simp [TlsReaderState.midRecord] at hidle
  | poisoned error => exact .inr ⟨_, rfl, rfl⟩

structure ReadCall where
  room : ℕ
  result : PollRead
  deriving Repr, DecidableEq

def ReadCall.bytes : ReadCall → List Byte
  | ⟨_, .ready bytes⟩ => bytes
  | _ => []

/-- The ending a call reports: an error, or an end of stream in the form of a
successful read of nothing into a buffer with room. -/
def ReadCall.ending? : ReadCall → Option Ending
  | ⟨_, .error error⟩ => some (.error error)
  | ⟨room, .ready []⟩ => if room = 0 then none else some .eof
  | _ => none

def yielded (calls : List ReadCall) : List Byte :=
  calls.flatMap ReadCall.bytes

def Reader.run : Reader → List ℕ → List ReadCall
  | _, [] => []
  | reader, room :: rooms =>
    ⟨room, (reader.pollRead room).2⟩ ::
      Reader.run (reader.pollRead room).1 rooms

/-- No call without room follows a call that returned `Pending`. -/
def ResumesWithRoom (calls : List ReadCall) : Prop :=
  calls.IsChain fun previous call => previous.result = .pending → call.room ≠ 0

variable {call : ReadCall} {calls : List ReadCall}

theorem ResumesWithRoom.tail (hresume : ResumesWithRoom (call :: calls)) : ResumesWithRoom calls :=
  List.IsChain.tail hresume

namespace Reader

/-- The next call of a reader that stopped inside a record has room. -/
def RoomNext (reader : Reader) (rooms : List ℕ) : Prop :=
  reader.state.midRecord = true → ∀ room ∈ rooms.head?, room ≠ 0

/-- A call that reports no ending removes what it hands out from the meaning, and a call
that reports one reports the meaning. -/
theorem Sound.call_spec {rooms : List ℕ} (hsound : reader.Sound)
    (hnext : reader.RoomNext (room :: rooms))
    (hresume : ResumesWithRoom (reader.run (room :: rooms))) :
    match ReadCall.ending? ⟨room, (reader.pollRead room).2⟩ with
    | none =>
      (reader.pollRead room).1.Sound ∧ (reader.pollRead room).1.RoomNext rooms ∧ reader.meaning =
          (ReadCall.bytes ⟨room, (reader.pollRead room).2⟩ ++ (reader.pollRead room).1.meaning.1,
            (reader.pollRead room).1.meaning.2)
    | some ending => reader.meaning = ([], ending) := by
  rcases Nat.eq_zero_or_pos room with rfl | hroom
  · have hidle : reader.state.midRecord = false := by
      cases hmid : reader.state.midRecord with
      | false => rfl
      | true => exact absurd rfl (hnext hmid 0 rfl)
    rcases pollRead_noRoom hidle with hsame | ⟨error, hmeaning, hresult⟩
    · rw [hsame]
      refine ⟨hsound, ?_, by simp [ReadCall.bytes]⟩
      intro hmid
      rw [hidle] at hmid
      exact absurd hmid (by simp)
    · rw [hresult]
      exact hmeaning
  · have hspec := hsound.pollRead_spec hroom
    simp only [run] at hresume
    generalize reader.pollRead room = answer at hspec hresume ⊢
    obtain ⟨next, result⟩ := answer
    match result, hspec with
    | .pending, ⟨hnextSound, hmeaning, _⟩ =>
      refine ⟨hnextSound, ?_, by simp [ReadCall.bytes, hmeaning]⟩
      intro _
      cases rooms with
      | nil => simp
      | cons other others =>
        intro first hfirst
        simp only [head?_cons, Option.mem_some_iff] at hfirst
        subst hfirst
        simp only [ResumesWithRoom, run, isChain_cons_cons] at hresume
        exact hresume.1 trivial
    | .ready [], hmeaning =>
      simp only [ReadCall.ending?, if_neg hroom.ne']
      exact hmeaning
    | .ready (head :: tail), ⟨hnextSound, hidle, hmeaning, _⟩ =>
      refine ⟨hnextSound, ?_, hmeaning⟩
      intro hmid
      rw [hidle] at hmid
      exact absurd hmid (by simp)
    | .error error, hmeaning => exact hmeaning

/-- The calls before the end yield a prefix of the meaning, and all of it at the end. -/
theorem Sound.run_spec {rooms : List ℕ} {before after : List ReadCall}
    (hsound : reader.Sound) (hnext : reader.RoomNext rooms)
    (hresume : ResumesWithRoom (reader.run rooms)) (hsplit : reader.run rooms = before ++ after)
    (hopen : ∀ call ∈ before, call.ending? = none) :
    yielded before <+: reader.meaning.1 ∧
      ∀ call ∈ after.head?, ∀ ending, call.ending? = some ending →
        reader.meaning = (yielded before, ending) := by
  induction before generalizing reader rooms with
  | nil =>
    refine ⟨ nil_prefix, ?_⟩
    intro call hcall ending hending
    cases rooms with
    | nil =>
      simp only [run, nil_append] at hsplit
      subst hsplit
      simp at hcall
    | cons room rooms =>
      simp only [run, nil_append] at hsplit
      subst hsplit
      simp only [head?_cons, Option.mem_some_iff] at hcall
      subst hcall
      have hspec := hsound.call_spec hnext hresume
      rw [hending] at hspec
      exact hspec
  | cons first before ih =>
    cases rooms with
    | nil => simp [run] at hsplit
    | cons room rooms =>
      have hrun := hsplit
      simp only [run, cons_append, cons.injEq] at hrun
      obtain ⟨rfl, hrest⟩ := hrun
      have hspec := hsound.call_spec hnext hresume
      rw [hopen _ (by simp)] at hspec
      obtain ⟨hsound', hnext', hmeaning⟩ := hspec
      obtain ⟨hpre, hend⟩ := ih hsound' hnext' hresume.tail hrest
        (fun call hmem => hopen call (by simp [hmem]))
      constructor
      · rw [hmeaning]
        exact prefix_append_right_inj _ |>.mpr hpre
      · intro call hcall ending hending
        rw [hmeaning, hend call hcall ending hending]
        simp [yielded]

end Reader

/-- The calls yield exactly `bytes` and then report `ending`. -/
def Reports (calls : List ReadCall) (bytes : List Byte) (ending : Ending) :
    Prop :=
  ∃ before call after, calls = before ++ call :: after ∧
    (∀ earlier ∈ before, earlier.ending? = none) ∧
    call.ending? = some ending ∧ yielded before = bytes

theorem Reports.cons {bytes : List Byte} {ending : Ending}
    (hopen : call.ending? = none) (hcalls : Reports calls bytes ending) :
    Reports (call :: calls) (call.bytes ++ bytes) ending := by
  obtain ⟨before, last, after, rfl, hbefore, hending, rfl⟩ := hcalls
  refine ⟨call :: before, last, after, by simp, ?_, hending, by simp [yielded]⟩
  intro earlier hmem
  rcases mem_cons.mp hmem with rfl | hrest
  · exact hopen
  · exact hbefore earlier hrest

namespace Reader

/-- Enough polls report the whole stream and its ending. -/
theorem Sound.run_reports {rooms : List ℕ} (hsound : reader.Sound)
    (hrooms : ∀ room ∈ rooms, 0 < room) (hlong : reader.workLeft < rooms.length) :
    Reports (reader.run rooms) reader.meaning.1 reader.meaning.2 := by
  induction rooms generalizing reader with
  | nil => simp at hlong
  | cons room rooms ih =>
    have hroom : 0 < room := hrooms room (by simp)
    have hspec := hsound.pollRead_spec hroom
    have hrest : ∀ other ∈ rooms, 0 < other := fun other hother => hrooms other (by simp [hother])
    simp only [length_cons] at hlong
    simp only [run]
    generalize reader.pollRead room = answer at hspec ⊢
    obtain ⟨next, result⟩ := answer
    match result, hspec with
    | .pending, ⟨hnext, hmeaning, hless⟩ =>
      rw [← hmeaning]
      exact Reports.cons rfl (ih hnext hrest (by omega))
    | .ready [], hmeaning =>
      rw [hmeaning]
      exact ⟨[], _, _, rfl, by simp, by simp [ReadCall.ending?, hroom.ne'], rfl⟩
    | .ready (head :: tail), ⟨hnext, _, hmeaning, hless⟩ =>
      rw [hmeaning]
      exact Reports.cons rfl (ih hnext hrest (by omega))
    | .error error, hmeaning =>
      rw [hmeaning]
      exact ⟨[], _, _, rfl, by simp, rfl, rfl⟩

theorem new_sound {upstream : Upstream} (hfail : NoFail upstream) : (new upstream).Sound :=
  ⟨trivial, hfail⟩

theorem new_roomNext (upstream : Upstream) (rooms : List ℕ) : (new upstream).RoomNext rooms := by
  intro hmid
  simp [new, TlsReaderState.midRecord] at hmid

/-- The reader implements the record grammar for every schedule and every
sequence of buffer sizes in which no call without room resumes a record.  An
application record without a body is an invalid header of that grammar. -/
theorem run_refines_recordStream {upstream : Upstream} {rooms : List ℕ} (hfail : NoFail upstream)
    (hresume : ResumesWithRoom ((new upstream).run rooms)) :
    (∀ before after, (new upstream).run rooms = before ++ after →
      (∀ call ∈ before, call.ending? = none) →
      yielded before <+: (recordStream (bytesOf upstream)).1 ∧
        ∀ call ∈ after.head?, ∀ ending, call.ending? = some ending →
          recordStream (bytesOf upstream) = (yielded before, ending)) ∧
      ((∀ room ∈ rooms, 0 < room) → weight upstream + (bytesOf upstream).length < rooms.length →
        Reports ((new upstream).run rooms) (recordStream (bytesOf upstream)).1
          (recordStream (bytesOf upstream)).2) := by
  have hsound := new_sound hfail
  constructor
  · intro before after hsplit hopen
    exact hsound.run_spec (new_roomNext upstream rooms) hresume hsplit hopen
  · intro hrooms hlong
    exact hsound.run_reports hrooms hlong

end Reader

/-- Two application records and a change-cipher record cut at awkward places,
with a pause inside the first body and an alert at the end. -/
def pausedUpstream : Upstream :=
  [.chunk 0x17 [3, 3, 0, 3, 1, 2], .stall (), .chunk 3 [0x14, 3, 3, 0, 1, 1],
    .chunk 0x17 [3, 3, 0, 1, 9, 0x15, 3, 3, 0, 2, 1, 0]]

/-- A run over that upstream yields the three and the one body bytes before
it reports the alert as the end of the stream. -/
theorem Reader.run_refines_recordStream_paused :
    (Reader.new pausedUpstream).run [2, 2, 0, 2, 2, 2] =
        [⟨2, .pending⟩, ⟨2, .ready [1, 2]⟩, ⟨0, .ready []⟩,
          ⟨2, .ready [3]⟩, ⟨2, .ready [9]⟩, ⟨2, .ready []⟩] ∧
      recordStream (bytesOf pausedUpstream) = ([1, 2, 3, 9], .eof) := by
  have hrun : (Reader.new pausedUpstream).run [2, 2, 0, 2, 2, 2] =
      [⟨2, .pending⟩, ⟨2, .ready [1, 2]⟩, ⟨0, .ready []⟩,
        ⟨2, .ready [3]⟩, ⟨2, .ready [9]⟩, ⟨2, .ready []⟩] := by decide
  have hfail : NoFail pausedUpstream := by simp [NoFail, pausedUpstream]
  have hresume :
      ResumesWithRoom ((Reader.new pausedUpstream).run [2, 2, 0, 2, 2, 2]) := by
    rw [hrun]
    simp [ResumesWithRoom]
  refine ⟨hrun, ?_⟩
  have hspec := (Reader.run_refines_recordStream hfail hresume).1
    [⟨2, .pending⟩, ⟨2, .ready [1, 2]⟩, ⟨0, .ready []⟩,
      ⟨2, .ready [3]⟩, ⟨2, .ready [9]⟩] [⟨2, .ready []⟩] hrun (by decide)
  exact hspec.2 ⟨2, .ready []⟩ rfl .eof rfl

/-- An application record without a body is not skipped: its header is
refused before the byte of the next record is read.  And a call without room
that resumes an alert record reports no ending and reads on after it. -/
theorem Reader.run_emptyRecord_refused_alert_swallowed :
    ((Reader.new [.chunk 0x17 [3, 3, 0, 0, 0x17, 3, 3, 0, 1, 0xaa]]).run [16] =
        [⟨16, .error (.invalidApplicationLength 0)⟩] ∧
      recordStream [0x17, 3, 3, 0, 1, 0xaa] = ([0xaa], .eof)) ∧
    ((Reader.new [.chunk 0x15 [3, 3], .stall (),
        .chunk 0 [2, 1, 0, 0x17, 3, 3, 0, 1, 0xaa]]).run [16, 0, 16] =
        [⟨16, .pending⟩, ⟨0, .ready []⟩, ⟨16, .ready [0xaa]⟩] ∧
      recordStream [0x15, 3, 3, 0, 2, 1, 0, 0x17, 3, 3, 0, 1, 0xaa] = ([], .eof)) := by
  have hrest : recordStream [0x17, 3, 3, 0, 1, 0xaa] = ([0xaa], .eof) := by
    have hwire : applicationRecord [0xaa] = [0x17, 3, 3, 0, 1, 0xaa] := by
      decide
    have hrecord : recordStream (applicationRecord [0xaa] ++ []) = _ :=
      recordStream_applicationRecord (by simp) (by simp [maxTlsPayload, maxTlsCiphertextSize]) []
    simpa [hwire] using hrecord
  have hparse : TlsRecordHeader.parse [0x15, 3, 3, 0, 2] = some ⟨0x15, (3, 3), 2⟩ := rfl
  have halert : recordStream [0x15, 3, 3, 0, 2, 1, 0, 0x17, 3, 3, 0, 1, 0xaa] =
      ([], .eof) :=
    calc recordStream ([0x15, 3, 3, 0, 2] ++ ([1, 0] ++ [0x17, 3, 3, 0, 1, 0xaa]))
        = bodyStream 0x15 2 ([1, 0] ++ [0x17, 3, 3, 0, 1, 0xaa]) :=
          recordStream_validHeader rfl hparse rfl
      _ = recordMeaning 0x15 [1, 0] (recordStream [0x17, 3, 3, 0, 1, 0xaa]) :=
          bodyStream_append [1, 0] [0x17, 3, 3, 0, 1, 0xaa]
      _ = ([], .eof) := rfl
  exact ⟨⟨by decide, hrest⟩, ⟨by decide, halert⟩⟩

end TupoProxy.FakeTlsReader
