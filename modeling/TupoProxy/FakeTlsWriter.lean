import TupoProxy.FakeTlsReader

/-!
# The polling fake-TLS writer

`Writer.pollWrite` accepts a piece of the caller's buffer, wraps it into one
application record and hands that record to the upstream, which may take any
part of it now and the rest during later calls.  The bytes already handed over
followed by the unsent rest of the record in progress are the wire image of
everything accepted so far; every call either keeps that image or appends one
complete record to it.
-/

namespace TupoProxy.FakeTlsWriter

open Delivery List
open TlsRecord
open FakeTlsReader

inductive WriteAnswer where
  | pending
  | accept (count : ℕ)
  | fail (kind : ErrorKind)
  deriving Repr, DecidableEq

inductive FlushAnswer where
  | pending
  | done
  | fail (kind : ErrorKind)
  deriving Repr, DecidableEq

/-- An upstream is the list of its answers to come and the bytes it has taken;
past the end of its list it stays pending. -/
structure Sink where
  writes : List WriteAnswer
  flushes : List FlushAnswer
  taken : List Byte
  deriving Repr, DecidableEq

/-- An upstream takes at most what it is offered. -/
def Sink.pollWrite (sink : Sink) (data : List Byte) : WriteAnswer × Sink :=
  match sink.writes with
  | [] => (.pending, sink)
  | .pending :: writes => (.pending, { sink with writes := writes })
  | .fail kind :: writes => (.fail kind, { sink with writes := writes })
  | .accept count :: writes =>
    (.accept (min count data.length),
      { sink with writes := writes, taken := sink.taken ++ data.take count })

def Sink.pollFlush (sink : Sink) : FlushAnswer × Sink :=
  match sink.flushes with
  | [] => (.pending, sink)
  | answer :: flushes => (answer, { sink with flushes := flushes })

inductive TlsRecordProfile where
  | chrome
  | firefox
  | compat
  | legacy
  deriving Repr, DecidableEq

inductive TlsWriterState where
  | idle
  | writingRecord (position payloadSize : ℕ)
  | poisoned (error : Option TlsError)
  deriving Repr, DecidableEq

structure Writer where
  upstream : Sink
  state : TlsWriterState
  recordBuffer : List Byte
  recordProfile : TlsRecordProfile
  recordIndex : ℕ
  jitterState : UInt64
  deriving Repr, DecidableEq

def Writer.withProfile (upstream : Sink) (recordProfile : TlsRecordProfile)
    (seed : UInt64) : Writer where
  upstream := upstream
  state := .idle
  recordBuffer := []
  recordProfile := recordProfile
  recordIndex := 0
  jitterState := if seed = 0 then 1 else seed

def Writer.poison (writer : Writer) (error : TlsError) : Writer :=
  { writer with recordBuffer := [], state := .poisoned (some error) }

def Writer.buildRecord (writer : Writer) (data : List Byte) : Writer :=
  { writer with recordBuffer := applicationRecord data }

def Writer.recycleRecordBuffer (writer : Writer) : Writer :=
  { writer with recordBuffer := [] }

def nextJitterState (state : UInt64) : UInt64 :=
  let state := state ^^^ (state <<< 13)
  let state := state ^^^ (state >>> 7)
  state ^^^ (state <<< 17)

def Writer.nextJitter (writer : Writer) (radius : ℕ) : Int × Writer :=
  let jitterState := nextJitterState writer.jitterState
  let span := min (min (radius * 2) (2 ^ 64 - 1) + 1) (2 ^ 64 - 1)
  (((jitterState.toNat % span : ℕ) : Int) - radius,
    { writer with jitterState := jitterState })

/-- Base size and jitter radius of the record with this index; the legacy
profile has no ramp. -/
def recordRamp : TlsRecordProfile → ℕ → Option (ℕ × ℕ)
  | .chrome, index =>
    if index < 32 then some (1450, 120)
    else if index < 48 then some (4096, 384)
    else some (15600, 640)
  | .firefox, index =>
    if index < 16 then some (1300, 160)
    else if index < 48 then some (8192, 512)
    else some (16000, 320)
  | .compat, index =>
    if index < 24 then some (1400, 96)
    else some (8192, 256)
  | .legacy, _ => none

def saturatingAddSigned (base : ℕ) (delta : Int) : ℕ :=
  min ((base : Int) + delta).toNat (2 ^ 64 - 1)

def clamp (low high value : ℕ) : ℕ := max low (min value high)

def Writer.nextRecordPayloadLimit (writer : Writer) : ℕ × Writer :=
  let index := writer.recordIndex
  let writer :=
    { writer with recordIndex := min (writer.recordIndex + 1) (2 ^ 32 - 1) }
  match recordRamp writer.recordProfile index with
  | none => (maxTlsPayload, writer)
  | some (base, radius) =>
    let (jitter, writer) := writer.nextJitter radius
    (clamp 512 maxTlsPayload (saturatingAddSigned base jitter), writer)

theorem Writer.nextRecordPayloadLimit_bounds (writer : Writer) :
    0 < writer.nextRecordPayloadLimit.1 ∧ writer.nextRecordPayloadLimit.1 ≤ maxTlsPayload := by
  unfold Writer.nextRecordPayloadLimit
  simp only
  split
  · exact ⟨by simp [maxTlsPayload, maxTlsCiphertextSize], le_rfl⟩
  · simp only [clamp, maxTlsPayload, maxTlsCiphertextSize]
    omega

theorem Writer.nextRecordPayloadLimit_frame (writer : Writer) :
    writer.nextRecordPayloadLimit.2.upstream = writer.upstream ∧
      writer.nextRecordPayloadLimit.2.state = writer.state := by
  unfold Writer.nextRecordPayloadLimit
  simp only
  split <;> exact ⟨rfl, rfl⟩

inductive FlushResult where
  | complete
  | pending
  | error (error : TlsError)
  deriving Repr, DecidableEq

/-- Offer the rest of the record until it is taken or the upstream stops.
Every round uses up one answer, so the number of answers bounds the rounds. -/
def flushRounds (record : List Byte) :
    ℕ → Sink → ℕ → FlushResult × Sink × ℕ
  | 0, upstream, position => (.pending, upstream, position)
  | rounds + 1, upstream, position =>
    if position < record.length then
      match upstream.pollWrite (record.drop position) with
      | (.pending, upstream) => (.pending, upstream, position)
      | (.fail kind, upstream) => (.error (.upstream kind), upstream, position)
      | (.accept 0, upstream) => (.error .zeroWrite, upstream, position)
      | (.accept (count + 1), upstream) =>
        flushRounds record rounds upstream (position + (count + 1))
    else (.complete, upstream, position)

def pollFlushRecordInner (upstream : Sink) (record : List Byte)
    (position : ℕ) : FlushResult × Sink × ℕ :=
  flushRounds record (upstream.writes.length + 1) upstream position

inductive PollWrite where
  | pending
  | ready (count : ℕ)
  | error (error : TlsError)
  deriving Repr, DecidableEq

namespace Writer

/-- The first half of `poll_write` and `poll_flush`: finish the record in
progress.  `none` means that the writer is idle and the call goes on. -/
def finishRecord (writer : Writer) : Option PollWrite × Writer :=
  match writer.state with
  | .poisoned error =>
    (some (.error (error.getD .previouslyPoisoned)),
      { writer with state := .poisoned none })
  | .writingRecord position payloadSize =>
    match pollFlushRecordInner writer.upstream writer.recordBuffer
        position with
    | (.pending, upstream, position) =>
      (some .pending,
        { writer with
          upstream := upstream
          state := .writingRecord position payloadSize })
    | (.error error, upstream, _) =>
      (some (.error error),
        poison { writer with upstream := upstream } error)
    | (.complete, upstream, _) =>
      (none,
        { recycleRecordBuffer { writer with upstream := upstream }
          with state := .idle })
  | .idle => (none, writer)

/-- Hand a freshly built record to the upstream.  The bytes of its payload
count as accepted even if the upstream takes none of them yet. -/
def offerRecord (writer : Writer) (chunkSize : ℕ) :
    PollWrite × Writer :=
  match writer.upstream.pollWrite writer.recordBuffer with
  | (.accept count, upstream) =>
    if count = writer.recordBuffer.length then
      (.ready chunkSize,
        recycleRecordBuffer { writer with upstream := upstream })
    else
      (.ready chunkSize,
        { writer with
          upstream := upstream
          state := .writingRecord count chunkSize })
  | (.fail kind, upstream) =>
    (.error (.upstream kind),
      poison { writer with upstream := upstream } (.upstream kind))
  | (.pending, upstream) =>
    (.ready chunkSize,
      { writer with
        upstream := upstream
        state := .writingRecord 0 chunkSize })

/-- The second half of `poll_write`: wrap a piece of the buffer. -/
def startRecord (writer : Writer) (buf : List Byte) :
    PollWrite × Writer :=
  if buf = [] then (.ready 0, writer)
  else
    let (limit, writer) := writer.nextRecordPayloadLimit
    let chunkSize := min buf.length limit
    (writer.buildRecord (buf.take chunkSize)).offerRecord chunkSize

def pollWrite (writer : Writer) (buf : List Byte) :
    PollWrite × Writer :=
  match writer.finishRecord with
  | (some result, writer) => (result, writer)
  | (none, writer) => writer.startRecord buf

def pollFlush (writer : Writer) : PollWrite × Writer :=
  match writer.finishRecord with
  | (some result, writer) => (result, writer)
  | (none, writer) =>
    match writer.upstream.pollFlush with
    | (.pending, upstream) => (.pending, { writer with upstream := upstream })
    | (.done, upstream) => (.ready 0, { writer with upstream := upstream })
    | (.fail kind, upstream) =>
      (.error (.upstream kind), { writer with upstream := upstream })

/-! ## The wire image -/

def unsent (writer : Writer) : List Byte :=
  match writer.state with
  | .writingRecord position _ => writer.recordBuffer.drop position
  | _ => []

def wire (writer : Writer) : List Byte :=
  writer.upstream.taken ++ writer.unsent

end Writer

variable {sink upstream : Sink} {next writer : Writer} {data record buf : List Byte}
  {result : PollWrite}

theorem Sink.pollWrite_accept {next : Sink} {count : ℕ}
    (hpoll : sink.pollWrite data = (.accept count, next)) :
    count ≤ data.length ∧ next.taken = sink.taken ++ data.take count ∧
      next.writes.length < sink.writes.length := by
  unfold Sink.pollWrite at hpoll
  split at hpoll
  · simp at hpoll
  · simp at hpoll
  · simp at hpoll
  · next offered writes hwrites =>
      obtain ⟨rfl, rfl⟩ := hpoll
      refine ⟨min_le_right _ _, ?_, by simp [hwrites]⟩
      rw [← take_take, take_length]

theorem Sink.pollWrite_pending {next : Sink} (hpoll : sink.pollWrite data = (.pending, next)) :
    next.taken = sink.taken := by
  unfold Sink.pollWrite at hpoll
  split at hpoll <;> simp at hpoll <;> subst hpoll <;> rfl

theorem Sink.pollWrite_fail {next : Sink} {kind : ErrorKind}
    (hpoll : sink.pollWrite data = (.fail kind, next)) : next.taken = sink.taken := by
  unfold Sink.pollWrite at hpoll
  split at hpoll <;> simp at hpoll
  obtain ⟨_, rfl⟩ := hpoll
  rfl

theorem Sink.pollFlush_taken (sink : Sink) : sink.pollFlush.2.taken = sink.taken := by
  unfold Sink.pollFlush
  split <;> rfl

/-- The upstream reports no error and takes at least one byte when it takes
any. -/
structure Sink.Healthy (sink : Sink) : Prop where
  writes : ∀ answer ∈ sink.writes,
    answer = .pending ∨ ∃ count, answer = .accept (count + 1)
  flushes : ∀ answer ∈ sink.flushes, answer = .pending ∨ answer = .done

theorem Sink.Healthy.pollWrite {next : Sink} {answer : WriteAnswer} (hhealthy : sink.Healthy)
    (hdata : data ≠ []) (hpoll : sink.pollWrite data = (answer, next)) :
    next.Healthy ∧ (answer = .pending ∨ ∃ count, answer = .accept (count + 1)) := by
  unfold Sink.pollWrite at hpoll
  split at hpoll
  · simp only [Prod.mk.injEq] at hpoll
    obtain ⟨rfl, rfl⟩ := hpoll
    exact ⟨hhealthy, .inl rfl⟩
  · next writes hwrites =>
      obtain ⟨rfl, rfl⟩ := hpoll
      refine ⟨⟨fun answer hmem => ?_, hhealthy.flushes⟩, .inl rfl⟩
      exact hhealthy.writes answer (by simp [hwrites, hmem])
  · next kind writes hwrites =>
      have hfirst := hhealthy.writes (.fail kind) (by simp [hwrites])
      simp at hfirst
  · next offered writes hwrites =>
      obtain ⟨rfl, rfl⟩ := hpoll
      refine ⟨⟨fun answer hmem => ?_, hhealthy.flushes⟩, .inr ?_⟩
      · exact hhealthy.writes answer (by simp [hwrites, hmem])
      · have hfirst := hhealthy.writes (.accept offered) (by simp [hwrites])
        have hpos : 0 < data.length := length_pos_iff.mpr hdata
        simp only [reduceCtorEq, WriteAnswer.accept.injEq, false_or] at hfirst
        obtain ⟨count, rfl⟩ := hfirst
        exact ⟨min (count + 1) data.length - 1, by congr 1; omega⟩

theorem Sink.Healthy.pollFlush (hhealthy : sink.Healthy) :
    sink.pollFlush.2.Healthy ∧ ∀ kind, sink.pollFlush.1 ≠ .fail kind := by
  unfold Sink.pollFlush
  split
  · exact ⟨hhealthy, by simp⟩
  · next answer flushes hflushes =>
      refine ⟨⟨hhealthy.writes, fun other hmem => ?_⟩, ?_⟩
      · exact hhealthy.flushes other (by simp [hflushes, hmem])
      · intro kind heq
        have hfirst := hhealthy.flushes answer (by simp [hflushes])
        simp only at heq
        simp [heq] at hfirst

/-- The loop that finishes a record moves bytes from the record to the
upstream, and stops before the end of the record only on an error or because
the upstream is pending. -/
structure FlushSpec (record : List Byte) (upstream : Sink) (position : ℕ)
    (result : FlushResult × Sink × ℕ) : Prop where
  bytes : result.2.1.taken ++ record.drop result.2.2 =
    upstream.taken ++ record.drop position
  fits : result.2.2 ≤ record.length
  complete : result.1 = .complete → result.2.2 = record.length
  pending : result.1 = .pending → result.2.2 < record.length ∧
    ∃ earlier : Sink,
      earlier.pollWrite (record.drop result.2.2) = (.pending, result.2.1)

theorem flushRounds_spec {rounds : ℕ} {position : ℕ} (hfits : position ≤ record.length)
    (hrounds : upstream.writes.length < rounds) :
    FlushSpec record upstream position (flushRounds record rounds upstream position) ∧
      (upstream.Healthy → (flushRounds record rounds upstream position).2.1.Healthy ∧
        ∀ error, (flushRounds record rounds upstream position).1 ≠ .error error) := by
  induction rounds generalizing upstream position with
  | zero => omega
  | succ rounds ih =>
    by_cases hless : position < record.length
    · have hdata : record.drop position ≠ [] := by
        rw [Ne, drop_eq_nil_iff]
        omega
      simp only [flushRounds, if_pos hless]
      rcases hpoll : upstream.pollWrite (record.drop position) with ⟨answer, next⟩
      have hnext := fun hhealthy : upstream.Healthy => hhealthy.pollWrite hdata hpoll
      cases answer with
      | pending =>
        exact ⟨⟨by rw [Sink.pollWrite_pending hpoll], hfits, by simp,
          fun _ => ⟨hless, upstream, hpoll⟩⟩, fun hhealthy => ⟨(hnext hhealthy).1, by simp⟩⟩
      | fail kind =>
        exact ⟨⟨by rw [Sink.pollWrite_fail hpoll], hfits, by simp, by simp⟩,
          fun hhealthy => by simp at hnext; exact (hnext hhealthy).elim⟩
      | accept count =>
        obtain ⟨hcount, htaken, hshorter⟩ := Sink.pollWrite_accept hpoll
        rw [length_drop] at hcount
        cases count with
        | zero =>
          rw [take_zero, append_nil] at htaken
          exact ⟨⟨by rw [htaken], hfits, by simp, by simp⟩,
            fun hhealthy => by simp at hnext; exact (hnext hhealthy).elim⟩
        | succ count =>
          obtain ⟨hrest, hclean⟩ := @ih next (position + (count + 1)) (by omega) (by omega)
          refine ⟨⟨?_, hrest.fits, hrest.complete, hrest.pending⟩,
            fun hhealthy => hclean (hnext hhealthy).1⟩
          rw [hrest.bytes, htaken, append_assoc, ← drop_drop, take_append_drop]
    · have hend : position = record.length := by omega
      simp only [flushRounds, if_neg hless]
      exact ⟨⟨rfl, hfits, fun _ => hend, by simp⟩, fun hhealthy => ⟨hhealthy, by simp⟩⟩

namespace Writer

/-- A position never passes the end of the record, and only a poisoned writer
has lost bytes. -/
def Sound (writer : Writer) : Prop :=
  match writer.state with
  | .idle => True
  | .writingRecord position _ => position ≤ writer.recordBuffer.length
  | .poisoned _ => False

theorem Sound.finishRecord_spec {result : Option PollWrite} (hsound : writer.Sound)
    (hfinish : writer.finishRecord = (result, next)) :
    ((∃ error, result = some (.error error)) ∨
      (result = some .pending ∧ next.Sound ∧ next.wire = writer.wire) ∨
      (result = none ∧ next.state = .idle ∧ next.wire = writer.wire)) ∧ (writer.upstream.Healthy →
        next.upstream.Healthy ∧ ∀ error, result ≠ some (.error error)) := by
  unfold finishRecord at hfinish
  split at hfinish
  · next error hstate => simp [Sound, hstate] at hsound
  · next position payloadSize hstate =>
    have hfits : position ≤ writer.recordBuffer.length := by
      simpa [Sound, hstate] using hsound
    obtain ⟨hspec, hhealth⟩ :=
      flushRounds_spec hfits (Nat.lt_succ_self writer.upstream.writes.length)
    have hwire : writer.wire = writer.upstream.taken ++
        writer.recordBuffer.drop position := by
      simp [wire, unsent, hstate]
    split at hfinish
    · next upstream reached hflush =>
      rw [pollFlushRecordInner] at hflush
      rw [hflush] at hspec hhealth
      cases hfinish
      refine ⟨.inr (.inl ⟨rfl, hspec.fits, ?_⟩), fun hhealthy => ⟨(hhealth hhealthy).1, by simp⟩⟩
      rw [hwire]
      exact hspec.bytes
    · next error upstream reached hflush =>
      rw [pollFlushRecordInner] at hflush
      rw [hflush] at hhealth
      cases hfinish
      exact ⟨.inl ⟨error, rfl⟩, fun hhealthy => absurd rfl ((hhealth hhealthy).2 error)⟩
    · next upstream reached hflush =>
      rw [pollFlushRecordInner] at hflush
      rw [hflush] at hspec hhealth
      cases hfinish
      have hend : reached = writer.recordBuffer.length := hspec.complete rfl
      have hbytes := hspec.bytes
      simp only [hend, drop_length, append_nil] at hbytes
      refine ⟨.inr (.inr ⟨rfl, rfl, ?_⟩), fun hhealthy => ⟨(hhealth hhealthy).1, by simp⟩⟩
      rw [hwire, ← hbytes]
      simp [wire, unsent, recycleRecordBuffer]
  · next hstate =>
    cases hfinish
    exact ⟨.inr (.inr ⟨rfl, hstate, rfl⟩), fun hhealthy => ⟨hhealthy, by simp⟩⟩

theorem offerRecord_spec {chunkSize : ℕ} (hidle : writer.state = .idle)
    (hrecord : writer.recordBuffer ≠ []) (hoffer : writer.offerRecord chunkSize = (result, next)) :
    ((∃ error, result = .error error) ∨ (result = .ready chunkSize ∧ next.Sound ∧
        next.wire = writer.upstream.taken ++ writer.recordBuffer)) ∧
      (writer.upstream.Healthy → next.upstream.Healthy ∧ ∀ error, result ≠ .error error) := by
  unfold offerRecord at hoffer
  rcases hpoll : writer.upstream.pollWrite writer.recordBuffer with ⟨answer, upstream⟩
  have hnext := fun hhealthy : writer.upstream.Healthy => hhealthy.pollWrite hrecord hpoll
  rw [hpoll] at hoffer
  cases answer with
  | pending =>
    cases hoffer
    refine ⟨.inr ⟨rfl, by simp [Sound], ?_⟩, fun hhealthy => ⟨(hnext hhealthy).1, by simp⟩⟩
    simp [wire, unsent, Sink.pollWrite_pending hpoll]
  | fail kind =>
    cases hoffer
    exact ⟨.inl ⟨_, rfl⟩, fun hhealthy => by simp at hnext; exact (hnext hhealthy).elim⟩
  | accept count =>
    obtain ⟨hcount, htaken, _⟩ := Sink.pollWrite_accept hpoll
    by_cases hfull : count = writer.recordBuffer.length
    · simp only [if_pos hfull] at hoffer
      cases hoffer
      rw [hfull, take_length] at htaken
      refine ⟨.inr ⟨rfl, ?_, ?_⟩, fun hhealthy => ⟨(hnext hhealthy).1, by simp⟩⟩
      · simp [Sound, recycleRecordBuffer, hidle]
      · simp [wire, unsent, recycleRecordBuffer, hidle, htaken]
    · simp only [if_neg hfull] at hoffer
      cases hoffer
      refine ⟨.inr ⟨rfl, hcount, ?_⟩, fun hhealthy => ⟨(hnext hhealthy).1, by simp⟩⟩
      simp [wire, unsent, htaken]

end Writer

/-- The effect of an accepted piece on the wire image. -/
def WireStep (before after accepted : List Byte) : Prop :=
  (accepted = [] ∧ after = before) ∨
    (0 < accepted.length ∧ accepted.length ≤ maxTlsPayload ∧
      after = before ++ applicationRecord accepted)

namespace Writer

theorem startRecord_spec (hidle : writer.state = .idle)
    (hstart : writer.startRecord buf = (result, next)) :
    ((∃ error, result = .error error) ∨ ∃ count, result = .ready count ∧ next.Sound ∧
        WireStep writer.wire next.wire (buf.take count)) ∧
      (writer.upstream.Healthy → next.upstream.Healthy ∧ ∀ error, result ≠ .error error) := by
  by_cases hbuf : buf = []
  · simp only [startRecord, if_pos hbuf] at hstart
    cases hstart
    exact ⟨.inr ⟨0, rfl, by simp [Sound, hidle], .inl ⟨take_zero, rfl⟩⟩,
      fun hhealthy => ⟨hhealthy, by simp⟩⟩
  · have hpos : 0 < buf.length := length_pos_iff.mpr hbuf
    have hwire : writer.wire = writer.upstream.taken := by
      simp [wire, unsent, hidle]
    obtain ⟨hlow, hhigh⟩ := writer.nextRecordPayloadLimit_bounds
    obtain ⟨hupstream, hstate⟩ := writer.nextRecordPayloadLimit_frame
    simp only [startRecord, if_neg hbuf] at hstart
    have hlength : (buf.take
        (min buf.length writer.nextRecordPayloadLimit.1)).length =
          min buf.length writer.nextRecordPayloadLimit.1 := by
      simp
    have hready : (writer.nextRecordPayloadLimit.2.buildRecord (buf.take
        (min buf.length writer.nextRecordPayloadLimit.1))).state = .idle := hstate.trans hidle
    obtain ⟨hoffered, hhealth⟩ := offerRecord_spec hready
      (by simp [buildRecord, applicationRecord, TlsRecordHeader.toBytes]) hstart
    refine ⟨?_, fun hhealthy => hhealth (hupstream ▸ hhealthy)⟩
    rcases hoffered with herror | ⟨hresult, hsound, hnext⟩
    · exact .inl herror
    · refine .inr ⟨_, hresult, hsound, .inr ⟨by omega, by omega, ?_⟩⟩
      rw [hnext, hwire, ← hupstream]
      rfl

/-- A write puts the bytes it takes on the wire, as one record. -/
theorem Sound.pollWrite_spec (hsound : writer.Sound)
    (hpoll : writer.pollWrite buf = (result, next)) :
    ((∃ error, result = .error error) ∨ (result = .pending ∧ next.Sound ∧ next.wire = writer.wire) ∨
      ∃ count, result = .ready count ∧ next.Sound ∧
        WireStep writer.wire next.wire (buf.take count)) ∧
      (writer.upstream.Healthy → next.upstream.Healthy ∧ ∀ error, result ≠ .error error) := by
  unfold pollWrite at hpoll
  rcases hfinish : writer.finishRecord with ⟨early, idle⟩
  rw [hfinish] at hpoll
  obtain ⟨⟨error, rfl⟩ | ⟨rfl, hpending⟩ | ⟨rfl, hidle, hwire⟩, hhealth⟩ :=
    hsound.finishRecord_spec hfinish
  · cases hpoll
    exact ⟨.inl ⟨error, rfl⟩, fun hhealthy => absurd rfl ((hhealth hhealthy).2 error)⟩
  · cases hpoll
    exact ⟨.inr (.inl ⟨rfl, hpending⟩), fun hhealthy => ⟨(hhealth hhealthy).1, by simp⟩⟩
  · obtain ⟨hstarted, hclean⟩ := startRecord_spec hidle hpoll
    refine ⟨?_, fun hhealthy => hclean (hhealth hhealthy).1⟩
    rw [← hwire]
    rcases hstarted with herror | haccepted
    · exact .inl herror
    · exact .inr (.inr haccepted)

theorem Sound.pollFlush_spec (hsound : writer.Sound) (hpoll : writer.pollFlush = (result, next)) :
    ((∃ error, result = .error error) ∨ (next.Sound ∧ next.wire = writer.wire)) ∧
      (writer.upstream.Healthy → next.upstream.Healthy ∧ ∀ error, result ≠ .error error) := by
  unfold pollFlush at hpoll
  rcases hfinish : writer.finishRecord with ⟨early, idle⟩
  rw [hfinish] at hpoll
  obtain ⟨⟨error, rfl⟩ | ⟨rfl, hpending⟩ | ⟨rfl, hidle, hwire⟩, hhealth⟩ :=
    hsound.finishRecord_spec hfinish
  · cases hpoll
    exact ⟨.inl ⟨error, rfl⟩, fun hhealthy => absurd rfl ((hhealth hhealthy).2 error)⟩
  · cases hpoll
    exact ⟨.inr hpending, fun hhealthy => ⟨(hhealth hhealthy).1, by simp⟩⟩
  · have hkept : wire { idle with upstream := idle.upstream.pollFlush.2 } =
        writer.wire := by
      rw [← hwire]
      simp [wire, unsent, hidle, Sink.pollFlush_taken]
    have hsound' : Sound { idle with upstream := idle.upstream.pollFlush.2 } := by
      simp [Sound, hidle]
    have hflush := fun hhealthy => (hhealth hhealthy).1.pollFlush
    simp only at hpoll
    generalize idle.upstream.pollFlush = flushed at hpoll hkept hsound' hflush
    obtain ⟨answer, upstream⟩ := flushed
    cases answer with
    | pending | done =>
      cases hpoll
      exact ⟨.inr ⟨hsound', hkept⟩, fun hhealthy => ⟨(hflush hhealthy).1, by simp⟩⟩
    | fail kind =>
      cases hpoll
      exact ⟨.inl ⟨_, rfl⟩, fun hhealthy => absurd rfl ((hflush hhealthy).2 kind)⟩

end Writer

inductive WriteOp where
  | write (buf : List Byte)
  | flush
  deriving Repr, DecidableEq

structure WriteCall where
  op : WriteOp
  result : PollWrite
  deriving Repr, DecidableEq

def WriteCall.accepted : WriteCall → List Byte
  | ⟨.write buf, .ready count⟩ => buf.take count
  | _ => []

def WriteCall.Failed (call : WriteCall) : Prop :=
  ∃ error, call.result = .error error

def accepted (calls : List WriteCall) : List Byte :=
  calls.flatMap WriteCall.accepted

namespace Writer

def perform (writer : Writer) : WriteOp → PollWrite × Writer
  | .write buf => writer.pollWrite buf
  | .flush => writer.pollFlush

def run : Writer → List WriteOp → List WriteCall × Writer
  | writer, [] => ([], writer)
  | writer, op :: ops =>
    let (result, writer) := writer.perform op
    let (calls, writer) := run writer ops
    (⟨op, result⟩ :: calls, writer)

theorem Sound.perform_spec {op : WriteOp} (hsound : writer.Sound)
    (hclean : ¬ WriteCall.Failed ⟨op, (writer.perform op).1⟩) :
    (writer.perform op).2.Sound ∧ WireStep writer.wire (writer.perform op).2.wire
        (WriteCall.accepted ⟨op, (writer.perform op).1⟩) := by
  cases op with
  | write buf =>
    simp only [perform] at hclean ⊢
    cases hpoll : writer.pollWrite buf with
    | mk result next =>
      rw [hpoll] at hclean
      rcases (hsound.pollWrite_spec hpoll).1 with
        herror | ⟨rfl, hnext, hwire⟩ | ⟨count, rfl, hnext, hstep⟩
      · exact absurd herror hclean
      · exact ⟨hnext, .inl ⟨rfl, hwire⟩⟩
      · exact ⟨hnext, hstep⟩
  | flush =>
    rcases (hsound.pollFlush_spec rfl).1 with herror | ⟨hnext, hwire⟩
    · exact absurd herror hclean
    · exact ⟨hnext, .inl ⟨rfl, hwire⟩⟩

theorem perform_healthy (op : WriteOp) (hhealthy : writer.upstream.Healthy)
    (hsound : writer.Sound) :
    (writer.perform op).2.upstream.Healthy ∧ ¬ WriteCall.Failed ⟨op, (writer.perform op).1⟩ := by
  cases op with
  | write buf =>
    obtain ⟨hnext, hclean⟩ := (hsound.pollWrite_spec (Eq.refl (writer.pollWrite buf))).2 hhealthy
    exact ⟨hnext, fun ⟨error, heq⟩ => hclean error heq⟩
  | flush =>
    obtain ⟨hnext, hclean⟩ := (hsound.pollFlush_spec rfl).2 hhealthy
    exact ⟨hnext, fun ⟨error, heq⟩ => hclean error heq⟩

/-- Without an error the wire holds whole records of exactly the bytes accepted. -/
theorem Sound.run_spec {ops : List WriteOp} (hsound : writer.Sound)
    (hclean : ∀ call ∈ (writer.run ops).1, ¬ call.Failed) :
    ∃ payloads : List (List Byte), (∀ payload ∈ payloads,
        0 < payload.length ∧ payload.length ≤ maxTlsPayload) ∧ (writer.run ops).2.wire =
        writer.wire ++ (payloads.map applicationRecord).flatten ∧
      payloads.flatten = accepted (writer.run ops).1 := by
  induction ops generalizing writer with
  | nil => exact ⟨[], by simp, by simp [run], rfl⟩
  | cons op ops ih =>
    obtain ⟨hnext, hstep⟩ := hsound.perform_spec (hclean ⟨op, (writer.perform op).1⟩ mem_cons_self)
    obtain ⟨payloads, hsizes, hwire, hflat⟩ :=
      ih hnext (fun call hmem => hclean call (mem_cons_of_mem _ hmem))
    rcases hstep with ⟨hnone, hsame⟩ | ⟨hpos, hmax, hrecord⟩
    · refine ⟨payloads, hsizes, ?_, ?_⟩
      · rw [← hsame]
        exact hwire
      · simp only [run, accepted, flatMap_cons, hnone, nil_append]
        exact hflat
    · refine ⟨WriteCall.accepted ⟨op, (writer.perform op).1⟩ :: payloads, ?_, ?_, ?_⟩
      · intro payload hmem
        rcases mem_cons.mp hmem with rfl | hrest
        · exact ⟨hpos, hmax⟩
        · exact hsizes payload hrest
      · rw [map_cons, flatten_cons, ← append_assoc, ← hrecord]
        exact hwire
      · simp only [run, accepted, flatMap_cons, flatten_cons]
        rw [hflat]
        rfl

/-- Over an upstream that never fails, no call fails. -/
theorem run_healthy {ops : List WriteOp} (hhealthy : writer.upstream.Healthy)
    (hsound : writer.Sound) : ∀ call ∈ (writer.run ops).1, ¬ call.Failed := by
  induction ops generalizing writer with
  | nil => simp [run]
  | cons op ops ih =>
    obtain ⟨hnext, hclean⟩ := perform_healthy op hhealthy hsound
    obtain ⟨hsound', _⟩ := hsound.perform_spec hclean
    intro call hmem
    rcases mem_cons.mp hmem with rfl | hrest
    · exact hclean
    · exact ih hnext hsound' call hrest

/-- For every profile, seed, upstream and sequence of calls none of which
fails, the bytes taken by the upstream and the unsent rest are a sequence of
complete application records around exactly the accepted bytes, and the
reader recovers those bytes from every delivery of them.  An upstream that
reports no error makes no call fail. -/
theorem run_roundTrip (writes : List WriteAnswer)
    (flushes : List FlushAnswer) (profile : TlsRecordProfile) (seed : UInt64) (ops : List WriteOp) :
    let outcome :=
      (withProfile ⟨writes, flushes, []⟩ profile seed).run ops
    ((∀ call ∈ outcome.1, ¬ call.Failed) → (∃ payloads : List (List Byte), (∀ payload ∈ payloads,
          1 ≤ payload.length ∧ payload.length ≤ maxTlsPayload) ∧
        outcome.2.upstream.taken ++ outcome.2.unsent = (payloads.map applicationRecord).flatten ∧
        payloads.flatten = accepted outcome.1) ∧
      ∀ (source : Upstream) (rooms : List ℕ), NoFail source →
        bytesOf source = outcome.2.upstream.taken ++ outcome.2.unsent → (∀ room ∈ rooms, 0 < room) →
        weight source + (bytesOf source).length < rooms.length →
        Reports ((Reader.new source).run rooms) (accepted outcome.1) .eof) ∧
    (Sink.Healthy ⟨writes, flushes, []⟩ → ∀ call ∈ outcome.1, ¬ call.Failed) := by
  intro outcome
  have hsound : (withProfile ⟨writes, flushes, []⟩ profile seed).Sound := trivial
  refine ⟨fun hclean => ?_, fun hhealthy => ?_⟩
  · obtain ⟨payloads, hsizes, hwire, hflat⟩ := hsound.run_spec hclean
    have hstart : (withProfile ⟨writes, flushes, []⟩ profile seed).wire = [] := rfl
    rw [hstart, nil_append] at hwire
    refine ⟨⟨payloads, hsizes, hwire, hflat⟩, ?_⟩
    intro source rooms hfail hbytes hrooms hlong
    have hreports := (Reader.new_sound hfail).run_reports hrooms hlong
    have hmeaning : (Reader.new source).meaning = (accepted outcome.1, .eof) :=
      calc recordStream (bytesOf source)
          = recordStream (payloads.map applicationRecord).flatten := by
            rw [hbytes, ← hwire]
            rfl
        _ = (payloads.flatten, .eof) := recordStream_applicationRecords hsizes
        _ = (accepted outcome.1, .eof) := by rw [hflat]
    rw [hmeaning] at hreports
    exact hreports
  · exact run_healthy hhealthy hsound

theorem run_roundTrip_paused :
    let outcome :=
      (withProfile ⟨[.accept 3, .pending, .accept 9, .accept 9], [.done], []⟩
        .chrome 7).run [.write [1, 2], .flush, .write [3], .flush]
    accepted outcome.1 = [1, 2, 3] ∧ outcome.2.upstream.taken ++ outcome.2.unsent =
        [0x17, 3, 3, 0, 2, 1, 2] ++ [0x17, 3, 3, 0, 1, 3] ∧
      Reports ((Reader.new [.chunk 0x17 [3, 3, 0, 2, 1, 2, 0x17, 3, 3], .stall (),
        .chunk 0 [1, 3]]).run (replicate 40 2)) [1, 2, 3] .eof := by
  intro outcome
  have haccepted : accepted outcome.1 = [1, 2, 3] := by decide
  have hwire : outcome.2.upstream.taken ++ outcome.2.unsent =
      [0x17, 3, 3, 0, 2, 1, 2] ++ [0x17, 3, 3, 0, 1, 3] := by decide
  obtain ⟨hspec, hhealthy⟩ := run_roundTrip
    [.accept 3, .pending, .accept 9, .accept 9] [.done] .chrome 7
    [.write [1, 2], .flush, .write [3], .flush]
  have hclean := hhealthy ⟨by simp, by simp⟩
  refine ⟨haccepted, hwire, ?_⟩
  have hreports := (hspec hclean).2
    [.chunk 0x17 [3, 3, 0, 2, 1, 2, 0x17, 3, 3], .stall (), .chunk 0 [1, 3]]
    (replicate 40 2) (by simp [NoFail]) hwire.symm (by simp) (by decide)
  exact haccepted ▸ hreports

end Writer

end TupoProxy.FakeTlsWriter
