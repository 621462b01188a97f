import TupoProxy.CryptoWriter
import TupoProxy.Runs

/-!
# Streams after an error

The two readers and the two writers of the stream modules move to a poisoned
state when a call fails.  From there every later read, write or flush should
fail as well, without touching the upstream.  That holds for the readers.  It
holds for the writers if the error is not the upstream's own answer to a flush,
which is passed on without poisoning, and for the fake-TLS writer only as long
as it is not shut down, which makes it idle again.
-/

namespace TupoProxy

open Polling
open Delivery
open TlsRecord (ErrorKind)
open FakeTlsReader (Upstream YieldBuffer)
open FakeTlsWriter (FlushAnswer Sink)
open CryptoWriter (CryptoError)

namespace CryptoReader

variable {κ : Type}

inductive State where
  | idle
  | yielding (buffer : YieldBuffer)
  | poisoned (error : Option CryptoError)
  deriving Repr, DecidableEq

structure Reader (κ : Type) where
  upstream : Upstream
  decryptor : κ
  state : State

inductive PollRead where
  | pending
  | ready (bytes : List Byte)
  | error (error : CryptoError)
  deriving Repr, DecidableEq

/-- `poll_read` with room for `room` bytes in the caller's buffer. -/
def Reader.pollRead (cipher : StreamCipher κ Byte) (reader : Reader κ) (room : ℕ) :
    PollRead × Reader κ :=
  match reader.state with
  | .poisoned error =>
    (.error (error.getD .previouslyPoisoned), { reader with state := .poisoned none })
  | .yielding buffer =>
    if room = 0 then (.ready [], reader)
    else
      let (copied, buffer) := buffer.copyTo (min buffer.remaining room)
      if buffer.isEmpty then (.ready copied, { reader with state := .idle })
      else (.ready copied, { reader with state := .yielding buffer })
  | .idle =>
    if room = 0 then (.ready [], reader)
    else
      match poll room reader.upstream with
      | (.stalled _, upstream) => (.pending, { reader with upstream := upstream })
      | (.failed kind, upstream) =>
        (.error (.upstream kind),
          { reader with upstream := upstream, state := .poisoned (some (.upstream kind)) })
      | (.filled bytes, upstream) =>
        if bytes = [] then (.ready [], { reader with upstream := upstream })
        else
          let decrypted := cipher.apply reader.decryptor bytes
          (.ready decrypted.2,
            { reader with upstream := upstream, decryptor := decrypted.1 })

def stream (cipher : StreamCipher κ Byte) : Stream (Reader κ) ℕ PollRead Upstream where
  poll room reader := reader.pollRead cipher room
  isError answer := ∃ error, answer = .error error
  traffic := Reader.upstream

def Reader.Poisoned (reader : Reader κ) : Prop := ∃ error, reader.state = .poisoned error

theorem stream_absorbs (cipher : StreamCipher κ Byte) :
    (stream cipher).Absorbs (fun _ => True) (fun _ => True) Reader.Poisoned := by
  rintro room reader - ⟨error, hstate⟩
  have hpoll : reader.pollRead cipher room = (.error (error.getD .previouslyPoisoned),
      { reader with state := .poisoned none }) := by
    rw [Reader.pollRead, hstate]
  simp only [stream, hpoll]
  exact ⟨⟨none, rfl⟩, trivial, fun _ => ⟨_, rfl⟩⟩

theorem Reader.poisoned_of_error {cipher : StreamCipher κ Byte} {reader : Reader κ}
    {room : ℕ} {error : CryptoError} (herror : (reader.pollRead cipher room).1 = .error error) :
    (reader.pollRead cipher room).2.Poisoned := by
  unfold pollRead at herror ⊢
  split
  · exact ⟨none, rfl⟩
  · grind
  · grind [Reader.Poisoned]

end CryptoReader

/-! ## The fake-TLS reader -/

namespace FakeTlsReader

def stream : Stream Reader ℕ PollRead Upstream where
  poll room reader := (reader.pollRead room).swap
  isError answer := ∃ error, answer = .error error
  traffic := Reader.upstream

def Reader.Poisoned (reader : Reader) : Prop := ∃ error, reader.state = .poisoned error

theorem stream_absorbs : stream.Absorbs (fun _ => True) (fun _ => True) Reader.Poisoned := by
  rintro room reader - ⟨error, hstate⟩
  have hpoll : reader.pollRead room = ({ reader with state := .poisoned none },
      .error (error.getD .previouslyPoisoned)) := by
    rw [Reader.pollRead, Reader.loop, Reader.turn, hstate]
  simp only [stream, hpoll]
  exact ⟨⟨none, rfl⟩, rfl, fun _ => ⟨_, rfl⟩⟩

variable {reader : Reader} {room : ℕ} {error : TlsRecord.TlsError}

theorem Reader.turn_error {next : Reader}
    (hturn : reader.turn room = .done next (.error error)) : next.Poisoned := by
  unfold Reader.turn at hturn
  split at hturn
  · cases hturn
    exact ⟨none, rfl⟩
  · grind
  · grind
  · grind [Reader.fail, Reader.Poisoned]
  · grind [Reader.fail, Reader.Poisoned]

theorem Reader.poisoned_of_error
    (herror : (reader.pollRead room).2 = .error error) : (reader.pollRead room).1.Poisoned := by
  have hloop : ∀ (turns : ℕ) (reader : Reader), (reader.loop turns room).2 = .error error →
      (reader.loop turns room).1.Poisoned := by
    intro turns
    induction turns with
    | zero => exact fun _ hloop => nomatch hloop
    | succ turns ih =>
      intro reader hloop
      unfold Reader.loop at hloop ⊢
      split at hloop
      next again hturn => exact ih again hloop
      next next result hturn =>
        subst hloop
        exact Reader.turn_error hturn
  exact hloop _ reader herror

end FakeTlsReader

inductive WriterCall where
  | write (buf : List Byte)
  | flush
  | shutdown (answer : FlushAnswer)
  deriving Repr, DecidableEq

def WriterCall.isShutdown : WriterCall → Prop
  | .shutdown _ => True
  | _ => False

namespace FakeTlsWriter

def FlushAnswer.result : FlushAnswer → PollWrite
  | .pending => .pending
  | .done => .ready 0
  | .fail kind => .error (.upstream kind)

/-- The upstream's answer to its own shutdown is an argument. -/
def Writer.pollShutdown (writer : Writer) (answer : FlushAnswer) : PollWrite × Writer :=
  match writer.state with
  | .writingRecord position _ =>
    let (_, upstream, _) := pollFlushRecordInner writer.upstream writer.recordBuffer position
    (answer.result,
      { Writer.recycleRecordBuffer { writer with upstream := upstream } with state := .idle })
  | _ => (answer.result, { writer with state := .idle })

def Writer.poll (call : WriterCall) (writer : Writer) : PollWrite × Writer :=
  match call with
  | .write buf => writer.pollWrite buf
  | .flush => writer.pollFlush
  | .shutdown answer => writer.pollShutdown answer

def stream : Stream Writer WriterCall PollWrite (List Byte) where
  poll := Writer.poll
  isError answer := ∃ error, answer = .error error
  traffic writer := writer.upstream.taken

/-- A write fails, or a flush while it finishes the record in progress. -/
def Writer.Fails (writer : Writer) : WriterCall → Prop
  | .write buf => ∃ error, (writer.pollWrite buf).1 = .error error
  | .flush => ∃ error, writer.finishRecord.1 = some (.error error)
  | .shutdown _ => False

def Writer.Poisoned (writer : Writer) : Prop := ∃ error, writer.state = .poisoned error

theorem stream_absorbs :
    stream.Absorbs (fun call => ¬ call.isShutdown) (fun _ => True) Writer.Poisoned := by
  rintro call writer hcall ⟨error, hstate⟩
  have hfinish : writer.finishRecord = (some (.error (error.getD .previouslyPoisoned)),
      { writer with state := .poisoned none }) := by
    rw [Writer.finishRecord, hstate]
  have hpoll : writer.poll call = (.error (error.getD .previouslyPoisoned),
      { writer with state := .poisoned none }) := by
    cases call with
    | write buf => simp only [Writer.poll, Writer.pollWrite, hfinish]
    | flush => simp only [Writer.poll, Writer.pollFlush, hfinish]
    | shutdown answer => exact absurd trivial hcall
  simp only [stream, hpoll]
  exact ⟨⟨none, rfl⟩, trivial, fun _ => ⟨_, rfl⟩⟩

namespace Writer

theorem finishRecord_error {writer : Writer} {error : TlsRecord.TlsError}
    (herror : writer.finishRecord.1 = some (.error error)) : writer.finishRecord.2.Poisoned := by
  unfold finishRecord at herror ⊢
  grind [Poisoned, poison]

theorem startRecord_error {writer : Writer} {buf : List Byte}
    {error : TlsRecord.TlsError} (herror : (writer.startRecord buf).1 = .error error) :
    (writer.startRecord buf).2.Poisoned := by
  unfold startRecord offerRecord at herror ⊢
  grind [Poisoned, poison]

theorem poisoned_of_fails {writer : Writer} {call : WriterCall}
    (hfails : writer.Fails call) : (writer.poll call).2.Poisoned := by
  have hfinished := @finishRecord_error writer
  cases call with
  | write buf =>
    obtain ⟨error, herror⟩ := hfails
    simp only [poll]
    unfold pollWrite at herror ⊢
    rcases hfinish : writer.finishRecord with ⟨result, next⟩
    rw [hfinish] at herror hfinished
    cases result with
    | some result =>
      exact hfinished (congrArg some herror)
    | none => exact startRecord_error herror
  | flush =>
    obtain ⟨error, herror⟩ := hfails
    have hpoisoned := hfinished herror
    simp only [poll]
    unfold pollFlush
    rcases hfinish : writer.finishRecord with ⟨result, next⟩
    rw [hfinish] at herror hpoisoned
    cases herror
    exact hpoisoned
  | shutdown answer => exact hfails.elim

end Writer

end FakeTlsWriter

namespace CryptoWriter

variable {κ : Type}

def flushResult : FlushAnswer → PollWrite
  | .pending => .pending
  | .done => .ready 0
  | .fail kind => .error (.upstream kind)

/-- The upstream's answer to its own shutdown is an argument. -/
def Writer.pollShutdown (writer : Writer κ) (answer : FlushAnswer) : PollWrite × Writer κ :=
  (flushResult answer, writer.pollFlushPending.2)

def Writer.poll (cipher : StreamCipher κ Byte) (call : WriterCall) (writer : Writer κ) :
    PollWrite × Writer κ :=
  match call with
  | .write buf => writer.pollWrite cipher buf
  | .flush => writer.pollFlush
  | .shutdown answer => writer.pollShutdown answer

def stream (cipher : StreamCipher κ Byte) :
    Stream (Writer κ) WriterCall PollWrite (List Byte) where
  poll := Writer.poll cipher
  isError answer := ∃ error, answer = .error error
  traffic writer := writer.upstream.taken

/-- A write fails, or a flush while it hands over the pending ciphertext. -/
def Writer.Fails (cipher : StreamCipher κ Byte) (writer : Writer κ) : WriterCall → Prop
  | .write buf => ∃ error, (writer.pollWrite cipher buf).1 = .error error
  | .flush => ∃ error, writer.pollFlushPending.1 = .failed error
  | .shutdown _ => False

def Writer.Poisoned (writer : Writer κ) : Prop := ∃ error, writer.state = .poisoned error

theorem stream_absorbs (cipher : StreamCipher κ Byte) :
    (stream cipher).Absorbs (fun _ => True) (fun call => ¬ call.isShutdown) Writer.Poisoned := by
  rintro call writer - ⟨error, hstate⟩
  have hpending : writer.pollFlushPending = (.failed (error.getD .previouslyPoisoned),
      { writer with state := .poisoned none }) := by
    rw [Writer.pollFlushPending, hstate]
    rfl
  cases call with
  | write buf =>
    have hpoll : writer.pollWrite cipher buf = (.error (error.getD .previouslyPoisoned),
        { writer with state := .poisoned none }) := by
      rw [Writer.pollWrite, hstate]
      rfl
    simp only [stream, Writer.poll, hpoll]
    exact ⟨⟨none, rfl⟩, trivial, fun _ => ⟨_, rfl⟩⟩
  | flush =>
    simp only [stream, Writer.poll, Writer.pollFlush, hpending]
    exact ⟨⟨none, rfl⟩, trivial, fun _ => ⟨_, rfl⟩⟩
  | shutdown answer =>
    simp only [stream, Writer.poll, Writer.pollShutdown, hpending]
    exact ⟨⟨none, rfl⟩, trivial, fun hasks => absurd trivial hasks⟩

namespace Writer

theorem pollFlushPending_failed {writer : Writer κ} {error : CryptoError}
    (hfailed : writer.pollFlushPending.1 = .failed error) : writer.pollFlushPending.2.Poisoned := by
  unfold pollFlushPending at hfailed ⊢
  grind [Poisoned, poison, takePoisonError]

variable {cipher : StreamCipher κ Byte} {writer : Writer κ}

theorem writeThrough_error {buf : List Byte} {error : CryptoError}
    (herror : (writer.writeThrough cipher buf).1 = .error error) :
    (writer.writeThrough cipher buf).2.Poisoned := by
  unfold writeThrough at herror ⊢
  grind [Poisoned, poison]

theorem bufferPlaintext_accepts (cipher : StreamCipher κ Byte) (writer : Writer κ)
    (buf : List Byte) (error : CryptoError) :
    (writer.bufferPlaintext cipher buf).1 ≠ .error error := by
  unfold bufferPlaintext
  grind

theorem poisoned_of_fails {call : WriterCall} (hfails : writer.Fails cipher call) :
    (writer.poll cipher call).2.Poisoned := by
  have hflushed := @pollFlushPending_failed _ writer
  rcases hpending : writer.pollFlushPending with ⟨result, next⟩
  rw [hpending] at hflushed
  cases call with
  | write buf =>
    obtain ⟨error, herror⟩ := hfails
    simp only [poll]
    unfold pollWrite at herror ⊢
    grind [writeThrough_error, bufferPlaintext_accepts, Poisoned, takePoisonError]
  | flush =>
    obtain ⟨error, hfailed⟩ := hfails
    rw [hpending] at hfailed
    simp only [poll]
    unfold pollFlush
    rw [hpending]
    cases hfailed
    exact hflushed rfl
  | shutdown answer => exact hfails.elim

end Writer

end CryptoWriter

/-- A stream that is poisoned by an error refuses everything it is asked for from then on
and moves no further byte: the readers in every case, the fake-TLS writer until it is shut
down, and the encrypting writer through shutdowns as well. -/
theorem poisoned_streams_stay_unusable {κ : Type} (cipher : StreamCipher κ Byte) :
    (∀ (reader : FakeTlsReader.Reader) room error, (reader.pollRead room).2 = .error error →
      FakeTlsReader.stream.Unusable (fun _ => True) (fun _ => True)
        (reader.pollRead room).1) ∧ (∀ (reader : CryptoReader.Reader κ) room error,
      (reader.pollRead cipher room).1 = .error error →
        (CryptoReader.stream cipher).Unusable (fun _ => True) (fun _ => True)
          (reader.pollRead cipher room).2) ∧
    (∀ (writer : FakeTlsWriter.Writer) call, writer.Fails call →
      FakeTlsWriter.stream.Unusable (fun call => ¬ call.isShutdown) (fun _ => True)
        (writer.poll call).2) ∧
    ∀ (writer : CryptoWriter.Writer κ) call, writer.Fails cipher call →
      (CryptoWriter.stream cipher).Unusable (fun _ => True) (fun call => ¬ call.isShutdown)
        (writer.poll cipher call).2 := by
  refine ⟨?_, ?_, ?_, ?_⟩
  · intro reader room error herror
    exact FakeTlsReader.stream_absorbs.unusable (FakeTlsReader.Reader.poisoned_of_error herror)
  · intro reader room error herror
    exact (CryptoReader.stream_absorbs cipher).unusable
      (CryptoReader.Reader.poisoned_of_error herror)
  · intro writer call hfails
    exact FakeTlsWriter.stream_absorbs.unusable (FakeTlsWriter.Writer.poisoned_of_fails hfails)
  · intro writer call hfails
    exact (CryptoWriter.stream_absorbs cipher).unusable
      (CryptoWriter.Writer.poisoned_of_fails hfails)

/-- Each stream fails at its first call, with an upstream that would go on. -/
theorem upstream_errors_stay_unusable :
    let cipher := StreamCipher.ofKeystream (fun _ => (0 : Byte)) (· ^^^ ·)
    let tlsReader := FakeTlsReader.Reader.new [.fail .other, .chunk 1 []]
    let reader : CryptoReader.Reader ℕ := ⟨[.fail .other, .chunk 1 []], 0, .idle⟩
    let tlsWriter : FakeTlsWriter.Writer :=
      .withProfile ⟨[.fail .other, .accept 6], [], []⟩ .legacy 1
    let writer : CryptoWriter.Writer ℕ := .new ⟨[.fail .other, .accept 1], [], []⟩ 0 0
    FakeTlsReader.stream.Unusable (fun _ => True) (fun _ => True) (tlsReader.pollRead 1).1 ∧
      (CryptoReader.stream cipher).Unusable (fun _ => True) (fun _ => True)
        (reader.pollRead cipher 1).2 ∧
      FakeTlsWriter.stream.Unusable (fun call => ¬ call.isShutdown) (fun _ => True)
        (tlsWriter.poll (.write [1])).2 ∧
      (CryptoWriter.stream cipher).Unusable (fun _ => True) (fun call => ¬ call.isShutdown)
        (writer.poll cipher (.write [1])).2 := by
  intro cipher tlsReader reader tlsWriter writer
  obtain ⟨htlsReader, hreader, htlsWriter, hwriter⟩ := poisoned_streams_stay_unusable cipher
  exact ⟨htlsReader tlsReader 1 (.upstream .other) rfl, hreader reader 1 (.upstream .other) rfl,
    htlsWriter tlsWriter (.write [1]) ⟨.upstream .other, rfl⟩,
    hwriter writer (.write [1]) ⟨.upstream .other, rfl⟩⟩

/-- A fake-TLS writer whose write failed takes and sends a byte after its
shutdown, and an encrypting writer whose flush failed upstream does so at
once. -/
theorem writers_send_after_errors :
    let broken : FakeTlsWriter.Writer :=
      .withProfile ⟨[.fail .other, .accept 6], [], []⟩ .legacy 1
    let revived := ((broken.pollWrite [1]).2.pollShutdown .done).2
    let cipher := StreamCipher.ofKeystream (fun _ => (0 : Byte)) (· ^^^ ·)
    let flushing : CryptoWriter.Writer ℕ := .new ⟨[.accept 1], [.fail .other], []⟩ 0 0
    let flushed := flushing.pollFlush.2
    (broken.pollWrite [1]).1 = .error (.upstream .other) ∧ (revived.pollWrite [2]).1 = .ready 1 ∧
      (revived.pollWrite [2]).2.upstream.taken = [23, 3, 3, 0, 1, 2] ∧
      flushing.pollFlush.1 = .error (.upstream .other) ∧
      (flushed.pollWrite cipher [7]).1 = .ready 1 ∧
      (flushed.pollWrite cipher [7]).2.upstream.taken = [7] := by
  decide

end TupoProxy
