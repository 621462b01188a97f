import TupoProxy.StreamCipher
import TupoProxy.FakeTlsWriter

/-!
# The encrypting writer

`Writer.pollWrite` encrypts a piece of the caller's buffer and hands the
ciphertext to the upstream.  What the upstream does not take at once is kept
as pending ciphertext, and while there is any, new plaintext is encrypted
behind it as far as the limit allows.  The cipher has then processed exactly
the accepted plaintext, and the bytes taken by the upstream followed by the
pending ones are its ciphertext.

The scratch buffer of the source is only read in the call that filled it, so
it is a local value here.
-/

namespace TupoProxy.CryptoWriter

open List

open TlsRecord (ErrorKind)
open FakeTlsWriter (WriteAnswer FlushAnswer Sink WriteOp)

def defaultMaxPendingWrite : ℕ := 64 * 1024

inductive CryptoError where
  | previouslyPoisoned
  | writeZero
  | upstream (kind : ErrorKind)
  deriving Repr, DecidableEq

/-- The consumed part of the buffer lies before `pos`. -/
structure PendingCiphertext where
  buf : List Byte
  pos : ℕ
  maxLen : ℕ
  pos_le : pos ≤ buf.length
  deriving Repr, DecidableEq

namespace PendingCiphertext

def new (maxLen : ℕ) : PendingCiphertext := ⟨[], 0, maxLen, Nat.le_refl 0⟩

def pendingLen (pending : PendingCiphertext) : ℕ := pending.buf.length - pending.pos

def isEmpty (pending : PendingCiphertext) : Bool := pending.pendingLen == 0

def pendingSlice (pending : PendingCiphertext) : List Byte :=
  pending.buf.drop pending.pos

def remainingCapacity (pending : PendingCiphertext) : ℕ :=
  pending.maxLen - pending.pendingLen

def compactConsumedPrefix (pending : PendingCiphertext) : PendingCiphertext :=
  if pending.pos = 0 then pending
  else if pending.buf.length ≤ pending.pos then ⟨[], 0, pending.maxLen, Nat.le_refl 0⟩
  else ⟨pending.buf.drop pending.pos, 0, pending.maxLen, Nat.zero_le _⟩

def advance (pending : PendingCiphertext) (count : ℕ) : PendingCiphertext :=
  let moved : PendingCiphertext :=
    ⟨pending.buf, min (pending.pos + count) pending.buf.length, pending.maxLen,
      min_le_right _ _⟩
  if moved.pos = moved.buf.length then moved.compactConsumedPrefix
  else if 16 * 1024 ≤ moved.pos then moved.compactConsumedPrefix
  else moved

def replaceWith (pending : PendingCiphertext) (src : List Byte) : PendingCiphertext :=
  ⟨src, 0, pending.maxLen, Nat.zero_le _⟩

def extendFromSlice (pending : PendingCiphertext) (bytes : List Byte) :
    PendingCiphertext :=
  ⟨pending.buf ++ bytes, pending.pos, pending.maxLen, by
    rw [List.length_append]
    exact Nat.le_add_right_of_le pending.pos_le⟩

variable {κ : Type}

/-- Encrypt the plaintext behind the pending bytes; `none` is the error for a
full buffer. -/
def pushEncrypted (cipher : StreamCipher κ Byte) (pending : PendingCiphertext)
    (encryptor : κ) (plaintext : List Byte) : Option (κ × PendingCiphertext) :=
  if plaintext = [] then some (encryptor, pending)
  else if pending.remainingCapacity < plaintext.length then none
  else
    let room :=
      if 0 < pending.pos ∧ pending.maxLen < pending.buf.length + plaintext.length then
        pending.compactConsumedPrefix
      else pending
    let encrypted := cipher.apply encryptor plaintext
    some (encrypted.1, room.extendFromSlice encrypted.2)

end PendingCiphertext

inductive State where
  | idle
  | flushing (pending : PendingCiphertext)
  | poisoned (error : Option CryptoError)
  deriving Repr, DecidableEq

variable {κ : Type}

structure Writer (κ : Type) where
  upstream : Sink
  encryptor : κ
  state : State
  maxPendingWrite : ℕ
  deriving Repr, DecidableEq

/-- The answer of a call: `Poll<Result<usize>>`, with 0 for a finished flush. -/
inductive PollWrite where
  | pending
  | ready (count : ℕ)
  | error (error : CryptoError)
  deriving Repr, DecidableEq

def PollWrite.accepted (buf : List Byte) : PollWrite → List Byte
  | .ready count => buf.take count
  | _ => []

namespace Writer

def new (upstream : Sink) (encryptor : κ) (maxPendingWrite : ℕ) : Writer κ where
  upstream := upstream
  encryptor := encryptor
  state := .idle
  maxPendingWrite :=
    max (if maxPendingWrite = 0 then defaultMaxPendingWrite else maxPendingWrite)
      (4 * 1024)

def poison (writer : Writer κ) (error : CryptoError) : Writer κ :=
  { writer with state := .poisoned (some error) }

def takePoisonError (writer : Writer κ) (error : Option CryptoError) :
    CryptoError × Writer κ :=
  (error.getD .previouslyPoisoned, { writer with state := .poisoned none })

/-- A poisoned writer never gets here. -/
def ensurePending (state : State) (maxPending : ℕ) : PendingCiphertext :=
  match state with
  | .flushing pending => pending
  | .idle => .new maxPending
  | .poisoned _ => .new maxPending

def selectToAcceptForBuffering (state : State) (bufLen maxPending : ℕ) : ℕ :=
  if bufLen = 0 then 0
  else
    match state with
    | .flushing pending => min bufLen pending.remainingCapacity
    | .idle => min bufLen maxPending
    | .poisoned _ => 0

end Writer

inductive Flushed where
  | drained
  | blocked
  | failed (error : CryptoError)
  deriving Repr, DecidableEq

/-- Offer the pending ciphertext until it is taken or the upstream stops.
Every round uses up one answer, so the number of answers bounds the rounds. -/
def flushRounds : ℕ → Sink → PendingCiphertext → Flushed × Sink × PendingCiphertext
  | 0, upstream, pending => (.blocked, upstream, pending)
  | rounds + 1, upstream, pending =>
    if pending.isEmpty then (.drained, upstream, pending)
    else
      match upstream.pollWrite pending.pendingSlice with
      | (.pending, upstream) => (.blocked, upstream, pending)
      | (.fail kind, upstream) => (.failed (.upstream kind), upstream, pending)
      | (.accept 0, upstream) => (.failed .writeZero, upstream, pending)
      | (.accept (count + 1), upstream) =>
        flushRounds rounds upstream (pending.advance (count + 1))

namespace Writer

def pollFlushPending (writer : Writer κ) : Flushed × Writer κ :=
  match writer.state with
  | .poisoned error =>
    let taken := writer.takePoisonError error
    (.failed taken.1, taken.2)
  | .idle => (.drained, writer)
  | .flushing pending =>
    match flushRounds (writer.upstream.writes.length + 1) writer.upstream pending with
    | (.drained, upstream, _) =>
      (.drained, { writer with upstream := upstream, state := .idle })
    | (.blocked, upstream, pending) =>
      (.blocked, { writer with upstream := upstream, state := .flushing pending })
    | (.failed error, upstream, _) =>
      (.failed error, Writer.poison { writer with upstream := upstream } error)

/-- Accept what fits behind the pending ciphertext of a blocked upstream. -/
def bufferPlaintext (cipher : StreamCipher κ Byte) (writer : Writer κ)
    (buf : List Byte) : PollWrite × Writer κ :=
  let toAccept :=
    selectToAcceptForBuffering writer.state buf.length writer.maxPendingWrite
  if toAccept = 0 then (.pending, writer)
  else
    let pending := ensurePending writer.state writer.maxPendingWrite
    match pending.pushEncrypted cipher writer.encryptor (buf.take toAccept) with
    | none => (.pending, writer)
    | some (encryptor, pending) =>
      (.ready toAccept,
        { writer with encryptor := encryptor, state := .flushing pending })

/-- Encrypt a piece of the buffer and offer it to the upstream at once. -/
def writeThrough (cipher : StreamCipher κ Byte) (writer : Writer κ)
    (buf : List Byte) : PollWrite × Writer κ :=
  let toAccept := min buf.length writer.maxPendingWrite
  let encrypted := cipher.apply writer.encryptor (buf.take toAccept)
  let writer := { writer with encryptor := encrypted.1 }
  let pending := ensurePending writer.state writer.maxPendingWrite
  match writer.upstream.pollWrite encrypted.2 with
  | (.pending, upstream) =>
    (.ready toAccept,
      { writer with
        upstream := upstream
        state := .flushing (pending.replaceWith encrypted.2) })
  | (.fail kind, upstream) =>
    (.error (.upstream kind),
      Writer.poison { writer with upstream := upstream } (.upstream kind))
  | (.accept 0, upstream) =>
    (.error .writeZero, Writer.poison { writer with upstream := upstream } .writeZero)
  | (.accept (count + 1), upstream) =>
    if count + 1 = encrypted.2.length then
      (.ready toAccept, { writer with upstream := upstream })
    else
      (.ready toAccept,
        { writer with
          upstream := upstream
          state := .flushing (pending.replaceWith (encrypted.2.drop (count + 1))) })

def pollWrite (cipher : StreamCipher κ Byte) (writer : Writer κ) (buf : List Byte) :
    PollWrite × Writer κ :=
  match writer.state with
  | .poisoned error =>
    let taken := writer.takePoisonError error
    (.error taken.1, taken.2)
  | .idle => if buf = [] then (.ready 0, writer) else writer.writeThrough cipher buf
  | .flushing _ =>
    if buf = [] then (.ready 0, writer)
    else
      match writer.pollFlushPending with
      | (.drained, writer) => writer.writeThrough cipher buf
      | (.failed error, writer) => (.error error, writer)
      | (.blocked, writer) => writer.bufferPlaintext cipher buf

def pollFlush (writer : Writer κ) : PollWrite × Writer κ :=
  match writer.pollFlushPending with
  | (.blocked, writer) => (.pending, writer)
  | (.failed error, writer) => (.error error, writer)
  | (.drained, writer) =>
    match writer.upstream.pollFlush with
    | (.pending, upstream) => (.pending, { writer with upstream := upstream })
    | (.done, upstream) => (.ready 0, { writer with upstream := upstream })
    | (.fail kind, upstream) =>
      (.error (.upstream kind), { writer with upstream := upstream })

def pendingBytes (writer : Writer κ) : List Byte :=
  match writer.state with
  | .flushing pending => pending.pendingSlice
  | _ => []

end Writer

/-! ## What the operations do to the pending bytes -/

namespace PendingCiphertext

variable {pending : PendingCiphertext}

@[simp] theorem pendingLen_eq (pending : PendingCiphertext) :
    pending.pendingLen = pending.pendingSlice.length :=
  length_drop.symm

theorem isEmpty_iff : pending.isEmpty = true ↔ pending.pendingSlice = [] := by
  rw [isEmpty, beq_iff_eq, pendingLen_eq, length_eq_zero_iff]

@[simp] theorem compactConsumedPrefix_pendingSlice :
    pending.compactConsumedPrefix.pendingSlice = pending.pendingSlice := by
  unfold compactConsumedPrefix
  split
  · rfl
  · split
    case isTrue hpos => exact (drop_eq_nil_of_le hpos).symm
    case isFalse => rfl

@[simp] theorem compactConsumedPrefix_maxLen :
    pending.compactConsumedPrefix.maxLen = pending.maxLen := by
  unfold compactConsumedPrefix
  split
  · rfl
  · split <;> rfl

theorem advance_pendingSlice (count : ℕ) :
    (pending.advance count).pendingSlice = pending.pendingSlice.drop count := by
  have hmoved : pending.buf.drop (min (pending.pos + count) pending.buf.length) =
      pending.pendingSlice.drop count := by
    rw [pendingSlice, drop_drop]
    rcases le_total (pending.pos + count) pending.buf.length with hle | hle
    · rw [min_eq_left hle]
    · rw [min_eq_right hle, drop_length, drop_eq_nil_of_le hle]
  simp only [advance]
  split
  · exact compactConsumedPrefix_pendingSlice.trans hmoved
  · split
    · exact compactConsumedPrefix_pendingSlice.trans hmoved
    · exact hmoved

@[simp] theorem advance_maxLen (count : ℕ) : (pending.advance count).maxLen = pending.maxLen := by
  simp only [advance]
  split
  · exact compactConsumedPrefix_maxLen
  · split
    · exact compactConsumedPrefix_maxLen
    · rfl

@[simp] theorem extendFromSlice_pendingSlice (bytes : List Byte) :
    (pending.extendFromSlice bytes).pendingSlice = pending.pendingSlice ++ bytes :=
  drop_append_of_le_length pending.pos_le

theorem pushEncrypted_some {cipher : StreamCipher κ Byte} {encryptor : κ} {plaintext : List Byte}
    (hfits : plaintext.length ≤ pending.remainingCapacity) :
    ∃ next, pending.pushEncrypted cipher encryptor plaintext =
        some ((cipher.apply encryptor plaintext).1, next) ∧ next.pendingSlice =
        pending.pendingSlice ++ (cipher.apply encryptor plaintext).2 ∧
      next.maxLen = pending.maxLen := by
  unfold pushEncrypted
  split
  case isTrue hempty =>
      subst hempty
      rw [cipher.apply_nil]
      exact ⟨pending, rfl, (append_nil _).symm, rfl⟩
  case isFalse =>
      rw [if_neg (Nat.not_lt.mpr hfits)]
      refine ⟨_, rfl, ?_, ?_⟩
      · rw [extendFromSlice_pendingSlice]
        split
        · rw [compactConsumedPrefix_pendingSlice]
        · rfl
      · simp only [extendFromSlice]
        split
        · exact compactConsumedPrefix_maxLen
        · rfl

end PendingCiphertext

structure FlushSpec (upstream : Sink) (pending : PendingCiphertext)
    (result : Flushed × Sink × PendingCiphertext) : Prop where
  bytes : result.2.1.taken ++ result.2.2.pendingSlice =
    upstream.taken ++ pending.pendingSlice
  length_le : result.2.2.pendingSlice.length ≤ pending.pendingSlice.length
  maxLen : result.2.2.maxLen = pending.maxLen
  drained : result.1 = .drained → result.2.2.pendingSlice = []
  healthy : upstream.Healthy →
    result.2.1.Healthy ∧ ∀ error, result.1 ≠ .failed error

theorem flushRounds_spec {rounds : ℕ} {upstream : Sink} {pending : PendingCiphertext}
    (hrounds : upstream.writes.length < rounds) :
    FlushSpec upstream pending (flushRounds rounds upstream pending) := by
  induction rounds generalizing upstream pending with
  | zero => omega
  | succ rounds ih =>
    by_cases hempty : pending.isEmpty = true
    · simp only [flushRounds, if_pos hempty]
      exact ⟨rfl, Nat.le_refl _, rfl, fun _ => PendingCiphertext.isEmpty_iff.mp hempty,
        fun hhealthy => ⟨hhealthy, by simp⟩⟩
    · have hdata : pending.pendingSlice ≠ [] :=
        fun hnil => hempty (PendingCiphertext.isEmpty_iff.mpr hnil)
      simp only [flushRounds, if_neg hempty]
      cases hpoll : upstream.pollWrite pending.pendingSlice with
      | mk answer next =>
        have hnext := fun hhealthy : upstream.Healthy =>
          hhealthy.pollWrite hdata hpoll
        cases answer with
        | pending =>
          exact ⟨by rw [Sink.pollWrite_pending hpoll], Nat.le_refl _, rfl, by simp,
            fun hhealthy => ⟨(hnext hhealthy).1, by simp⟩⟩
        | fail kind =>
          exact ⟨by rw [Sink.pollWrite_fail hpoll], Nat.le_refl _, rfl, by simp,
            fun hhealthy => by simpa using (hnext hhealthy).2⟩
        | accept count =>
          obtain ⟨-, htaken, hshorter⟩ := Sink.pollWrite_accept hpoll
          cases count with
          | zero =>
            rw [take_zero, append_nil] at htaken
            exact ⟨by rw [htaken], Nat.le_refl _, rfl, by simp,
              fun hhealthy => by simpa using (hnext hhealthy).2⟩
          | succ count =>
            have hrest := @ih next (pending.advance (count + 1)) (by omega)
            have hslice : (pending.advance (count + 1)).pendingSlice =
                pending.pendingSlice.drop (count + 1) :=
              PendingCiphertext.advance_pendingSlice (count + 1)
            refine ⟨?_, ?_, ?_, hrest.drained, fun hhealthy => hrest.healthy (hnext hhealthy).1⟩
            · rw [hrest.bytes, hslice, htaken, append_assoc, take_append_drop]
            · apply hrest.length_le.trans
              rw [hslice, length_drop]
              exact Nat.sub_le _ _
            · rw [hrest.maxLen, PendingCiphertext.advance_maxLen]

namespace Writer

variable (writer : Writer κ)

@[simp] theorem pollFlushPending_maxPendingWrite :
    writer.pollFlushPending.2.maxPendingWrite = writer.maxPendingWrite := by
  unfold pollFlushPending
  split
  · rfl
  · rfl
  · split <;> rfl

variable (cipher : StreamCipher κ Byte)

section

variable (writer : Writer κ) (buf : List Byte)

@[simp] theorem bufferPlaintext_maxPendingWrite :
    (writer.bufferPlaintext cipher buf).2.maxPendingWrite = writer.maxPendingWrite := by
  simp only [bufferPlaintext]
  split
  · rfl
  · split <;> rfl

@[simp] theorem writeThrough_maxPendingWrite :
    (writer.writeThrough cipher buf).2.maxPendingWrite = writer.maxPendingWrite := by
  simp only [writeThrough]
  split
  · rfl
  · rfl
  · rfl
  · split <;> rfl

theorem pollWrite_maxPendingWrite :
    (writer.pollWrite cipher buf).2.maxPendingWrite = writer.maxPendingWrite := by
  have hflush := writer.pollFlushPending_maxPendingWrite
  unfold pollWrite
  generalize writer.pollFlushPending = result at hflush
  obtain ⟨flushed, middle⟩ := result
  split
  · rfl
  · split
    · rfl
    · simp
  · split
    · rfl
    · cases flushed <;> simpa using hflush

end

theorem pollFlush_maxPendingWrite :
    writer.pollFlush.2.maxPendingWrite = writer.maxPendingWrite := by
  have hflush := writer.pollFlushPending_maxPendingWrite
  unfold pollFlush
  generalize writer.pollFlushPending = result at hflush
  obtain ⟨flushed, middle⟩ := result
  cases flushed with
  | blocked => exact hflush
  | failed error => exact hflush
  | drained =>
    simp only
    split <;> exact hflush

end Writer

namespace Writer

/-- The writer has accepted `sent`: its cipher has processed exactly these
bytes, and their ciphertext is what the upstream has taken and what is
pending. -/
structure Sound (cipher : StreamCipher κ Byte) (start : κ) (sent : List Byte)
    (writer : Writer κ) : Prop where
  notPoisoned : ∀ error, writer.state ≠ .poisoned error
  encryptor : writer.encryptor = (cipher.apply start sent).1
  wire : writer.upstream.taken ++ writer.pendingBytes = (cipher.apply start sent).2
  bounded : writer.pendingBytes.length ≤ writer.maxPendingWrite
  positive : 0 < writer.maxPendingWrite
  maxLen : ∀ pending, writer.state = .flushing pending →
    pending.maxLen = writer.maxPendingWrite

variable {cipher : StreamCipher κ Byte} {start : κ} {sent : List Byte}
  {writer next : Writer κ}

theorem new_sound (upstream : Sink) (hupstream : upstream.taken = []) (maxPendingWrite : ℕ) :
    Sound cipher start [] (Writer.new upstream start maxPendingWrite) where
  notPoisoned := by simp [Writer.new]
  encryptor := by
    rw [cipher.apply_nil]
    rfl
  wire := by
    rw [cipher.apply_nil]
    exact (append_nil _).trans hupstream
  bounded := Nat.zero_le _
  positive := lt_max_of_lt_right (by decide)
  maxLen := by simp [Writer.new]

theorem Sound.extend (hsound : writer.Sound cipher start sent) (data : List Byte)
    (hpoisoned : ∀ error, next.state ≠ .poisoned error)
    (hencryptor : next.encryptor = (cipher.apply writer.encryptor data).1)
    (hwire : next.upstream.taken ++ next.pendingBytes =
      writer.upstream.taken ++ writer.pendingBytes ++ (cipher.apply writer.encryptor data).2)
    (hbounded : next.pendingBytes.length ≤ writer.maxPendingWrite)
    (hlimit : next.maxPendingWrite = writer.maxPendingWrite)
    (hmaxLen : ∀ pending, next.state = .flushing pending →
      pending.maxLen = writer.maxPendingWrite) :
    next.Sound cipher start (sent ++ data) where
  notPoisoned := hpoisoned
  encryptor := hencryptor.trans (cipher.apply_append_fst data hsound.encryptor)
  wire := by
    rw [hwire, hsound.wire]
    exact cipher.apply_append_snd data hsound.encryptor
  bounded := hlimit ▸ hbounded
  positive := hlimit ▸ hsound.positive
  maxLen := hlimit ▸ hmaxLen

structure FlushPendingSpec (cipher : StreamCipher κ Byte) (start : κ)
    (sent : List Byte) (writer : Writer κ) (flushed : Flushed) (next : Writer κ) :
    Prop where
  sound : (∀ error, flushed ≠ .failed error) → next.Sound cipher start sent
  drained : flushed = .drained → next.state = .idle
  blocked : flushed = .blocked → ∃ pending, next.state = .flushing pending
  healthy : writer.upstream.Healthy →
    next.upstream.Healthy ∧ ∀ error, flushed ≠ .failed error

theorem Sound.pollFlushPending_spec (hsound : writer.Sound cipher start sent) :
    FlushPendingSpec cipher start sent writer writer.pollFlushPending.1
      writer.pollFlushPending.2 := by
  unfold pollFlushPending
  cases hstate : writer.state with
  | poisoned error => exact absurd hstate (hsound.notPoisoned error)
  | idle => exact ⟨fun _ => hsound, fun _ => hstate, by simp, fun h => ⟨h, by simp⟩⟩
  | flushing pending =>
    have hpending : writer.pendingBytes = pending.pendingSlice := by
      rw [pendingBytes, hstate]
    have hwire := hsound.wire
    have hbounded := hsound.bounded
    rw [hpending] at hwire hbounded
    have hspec : FlushSpec writer.upstream pending
        (flushRounds (writer.upstream.writes.length + 1) writer.upstream pending) :=
      flushRounds_spec (Nat.lt_succ_self _)
    simp only
    generalize flushRounds (writer.upstream.writes.length + 1) writer.upstream pending =
      result at hspec
    obtain ⟨outcome, upstream, rest⟩ := result
    cases outcome with
    | failed error =>
      exact ⟨fun hclean => absurd rfl (hclean error), by simp, by simp,
        fun hhealthy => absurd rfl ((hspec.healthy hhealthy).2 error)⟩
    | drained =>
      have hbytes := hspec.bytes
      rw [hspec.drained rfl] at hbytes
      refine ⟨fun _ => ?_, fun _ => rfl, by simp, hspec.healthy⟩
      exact ⟨by simp, hsound.encryptor, hbytes.trans hwire, Nat.zero_le _, hsound.positive, by simp⟩
    | blocked =>
      refine ⟨fun _ => ?_, by simp, fun _ => ⟨rest, rfl⟩, hspec.healthy⟩
      refine ⟨by simp, hsound.encryptor, hspec.bytes.trans hwire,
        hspec.length_le.trans hbounded, hsound.positive, ?_⟩
      rintro other hother
      obtain rfl := State.flushing.inj hother
      exact hspec.maxLen.trans (hsound.maxLen pending hstate)

/-- What a call does: unless it fails, the writer has accepted what the answer
reports; it reports no more than it was given, and it fails only because of
its upstream. -/
structure CallSpec (cipher : StreamCipher κ Byte) (start : κ) (sent buf : List Byte)
    (writer : Writer κ) (call : PollWrite × Writer κ) : Prop where
  sound : (∀ error, call.1 ≠ .error error) →
    call.2.Sound cipher start (sent ++ call.1.accepted buf)
  honest : ∀ count, call.1 = .ready count → count ≤ buf.length
  healthy : writer.upstream.Healthy →
    call.2.upstream.Healthy ∧ ∀ error, call.1 ≠ .error error

section

variable (hsound : writer.Sound cipher start sent)
include hsound

variable {buf : List Byte}

theorem Sound.bufferPlaintext_spec
    {pending : PendingCiphertext} (hstate : writer.state = .flushing pending) (hbuf : buf ≠ []) :
    CallSpec cipher start sent buf writer (writer.bufferPlaintext cipher buf) := by
  have hlength : buf.length ≠ 0 := by simpa using hbuf
  have hpending : writer.pendingBytes = pending.pendingSlice := by
    rw [pendingBytes, hstate]
  have haccept :
      selectToAcceptForBuffering writer.state buf.length writer.maxPendingWrite =
        min buf.length pending.remainingCapacity := by
    simp only [selectToAcceptForBuffering, if_neg hlength, hstate]
  have hensured : ensurePending writer.state writer.maxPendingWrite = pending := by
    rw [hstate]
    rfl
  simp only [bufferPlaintext, haccept, hensured]
  generalize htaken : min buf.length pending.remainingCapacity = toAccept
  split
  case isTrue =>
      refine ⟨fun _ => ?_, by simp, fun hhealthy => ⟨hhealthy, by simp⟩⟩
      exact (append_nil sent).symm ▸ hsound
  case isFalse =>
      have hfits : (buf.take toAccept).length ≤ pending.remainingCapacity := by
        rw [length_take]
        omega
      obtain ⟨rest, hpush, hslice, hmax⟩ :=
        @PendingCiphertext.pushEncrypted_some κ pending cipher writer.encryptor _ hfits
      rw [hpush]
      refine ⟨fun _ => ?_, ?_, fun hhealthy => ⟨hhealthy, by simp⟩⟩
      · have hmaxLen := hsound.maxLen pending hstate
        have hbounded := hsound.bounded
        apply hsound.extend (buf.take toAccept)
        · simp
        · rfl
        · rw [hpending, append_assoc, ← hslice]
          rfl
        · have hlength : rest.pendingSlice.length ≤ writer.maxPendingWrite := by
            rw [PendingCiphertext.remainingCapacity, PendingCiphertext.pendingLen_eq] at hfits
            rw [hslice, length_append, cipher.length_apply]
            rw [hpending] at hbounded
            omega
          exact hlength
        · rfl
        · rintro other hother
          obtain rfl := State.flushing.inj hother
          exact hmax.trans hmaxLen
      · rintro count hcount
        obtain rfl := PollWrite.ready.inj hcount
        exact htaken ▸ min_le_left _ _

omit hsound in
theorem taken_append_pendingBytes (hstate : writer.state = .idle) :
    writer.upstream.taken ++ writer.pendingBytes = writer.upstream.taken := by
  rw [pendingBytes, hstate, append_nil]

variable {upstream : Sink}

theorem Sound.keepRest (hstate : writer.state = .idle) (data : List Byte) {rest : List Byte}
    (hwire : upstream.taken ++ rest =
      writer.upstream.taken ++ (cipher.apply writer.encryptor data).2)
    (hlimit : rest.length ≤ writer.maxPendingWrite) :
    Sound cipher start (sent ++ data)
      { writer with
        encryptor := (cipher.apply writer.encryptor data).1
        upstream := upstream
        state := .flushing
          ((ensurePending writer.state writer.maxPendingWrite).replaceWith rest) } := by
  apply hsound.extend data
  · simp
  · rfl
  · rw [taken_append_pendingBytes hstate, ← hwire]
    rfl
  · exact hlimit
  · rfl
  · rintro other hother
    obtain rfl := State.flushing.inj hother
    rw [hstate]
    rfl

theorem Sound.writeThrough_spec (hstate : writer.state = .idle) (hbuf : buf ≠ []) :
    CallSpec cipher start sent buf writer (writer.writeThrough cipher buf) := by
  simp only [writeThrough]
  generalize htaken : min buf.length writer.maxPendingWrite = toAccept
  have hready : ∀ count, PollWrite.ready toAccept = .ready count → count ≤ buf.length := by
    rintro count hcount
    obtain rfl := PollWrite.ready.inj hcount
    exact htaken ▸ min_le_left _ _
  have hlength : (cipher.apply writer.encryptor (buf.take toAccept)).2.length = toAccept := by
    rw [cipher.length_apply, length_take]
    omega
  have hdata : (cipher.apply writer.encryptor (buf.take toAccept)).2 ≠ [] := by
    have hpositive := hsound.positive
    have hnonempty := length_pos_iff.mpr hbuf
    rw [← length_pos_iff]
    omega
  have hlimit : toAccept ≤ writer.maxPendingWrite := htaken ▸ min_le_right _ _
  cases hpoll : writer.upstream.pollWrite (cipher.apply writer.encryptor (buf.take toAccept)).2 with
  | mk answer upstream =>
    have hnext := fun hhealthy : writer.upstream.Healthy =>
      hhealthy.pollWrite hdata hpoll
    cases answer with
    | pending =>
      refine ⟨fun _ => ?_, hready, fun hhealthy => ⟨(hnext hhealthy).1, by simp⟩⟩
      apply hsound.keepRest hstate (buf.take toAccept)
      · rw [Sink.pollWrite_pending hpoll]
      · exact hlength.trans_le hlimit
    | fail kind =>
      exact ⟨fun hclean => absurd rfl (hclean _), by simp,
        fun hhealthy => by simpa using (hnext hhealthy).2⟩
    | accept count =>
      obtain ⟨hcount, htook, -⟩ := Sink.pollWrite_accept hpoll
      cases count with
      | zero =>
        exact ⟨fun hclean => absurd rfl (hclean _), by simp,
          fun hhealthy => by simpa using (hnext hhealthy).2⟩
      | succ count =>
        simp only
        split
        case isTrue hall =>
            refine ⟨fun _ => ?_, hready, fun hhealthy => ⟨(hnext hhealthy).1, by simp⟩⟩
            rw [hall, take_length] at htook
            apply hsound.extend (buf.take toAccept)
            · simp [hstate]
            · rfl
            · rw [taken_append_pendingBytes hstate, ← htook, pendingBytes, hstate, append_nil]
            · rw [pendingBytes, hstate]
              exact Nat.zero_le _
            · rfl
            · simp [hstate]
        case isFalse =>
            refine ⟨fun _ => ?_, hready, fun hhealthy => ⟨(hnext hhealthy).1, by simp⟩⟩
            apply hsound.keepRest hstate (buf.take toAccept)
            · rw [htook, append_assoc, take_append_drop]
            · rw [length_drop, hlength]
              exact (Nat.sub_le _ _).trans hlimit

omit hsound in
theorem CallSpec.of_sound {result : PollWrite}
    (hsound : (∀ error, result ≠ .error error) → next.Sound cipher start sent)
    (hresult : result.accepted buf = []) (hcount : ∀ count, result = .ready count → count = 0)
    (hhealthy : writer.upstream.Healthy → next.upstream.Healthy ∧ ∀ error, result ≠ .error error) :
    CallSpec cipher start sent buf writer (result, next) where
  sound := by
    intro hclean
    rw [hresult, append_nil]
    exact hsound hclean
  honest := by
    intro count hready
    rw [hcount count hready]
    exact Nat.zero_le _
  healthy := hhealthy

omit hsound in
theorem CallSpec.after {middle : Writer κ}
    {call : PollWrite × Writer κ} (hspec : CallSpec cipher start sent buf middle call)
    (hhealthy : writer.upstream.Healthy → middle.upstream.Healthy) :
    CallSpec cipher start sent buf writer call where
  sound := hspec.sound
  honest := hspec.honest
  healthy := fun hbefore => hspec.healthy (hhealthy hbefore)

/-- A write takes a part of the buffer and adds its ciphertext, once. -/
theorem Sound.pollWrite_spec (buf : List Byte) :
    CallSpec cipher start sent buf writer (writer.pollWrite cipher buf) := by
  have hnothing : CallSpec cipher start sent buf writer (.ready 0, writer) := by
    refine CallSpec.of_sound (fun _ => hsound) rfl ?_ ?_
    · rintro count hcount
      exact (PollWrite.ready.inj hcount).symm
    · exact fun hhealthy => ⟨hhealthy, by simp⟩
  unfold pollWrite
  cases hstate : writer.state with
  | poisoned error => exact absurd hstate (hsound.notPoisoned error)
  | idle =>
    simp only
    split
    case isTrue => exact hnothing
    case isFalse hbuf => exact hsound.writeThrough_spec hstate hbuf
  | flushing pending =>
    have hflush := hsound.pollFlushPending_spec
    simp only
    generalize writer.pollFlushPending = result at hflush
    obtain ⟨flushed, middle⟩ := result
    split
    case isTrue => exact hnothing
    case isFalse hbuf =>
        cases flushed with
        | drained =>
          have hmiddle := hflush.sound (by simp)
          exact (hmiddle.writeThrough_spec (hflush.drained rfl) hbuf).after
            fun hhealthy => (hflush.healthy hhealthy).1
        | blocked =>
          obtain ⟨rest, hrest⟩ := hflush.blocked rfl
          have hmiddle := hflush.sound (by simp)
          exact (hmiddle.bufferPlaintext_spec hrest hbuf).after
            fun hhealthy => (hflush.healthy hhealthy).1
        | failed error =>
          exact CallSpec.of_sound (fun hclean => absurd rfl (hclean error)) rfl
            (by simp) fun hhealthy => absurd rfl ((hflush.healthy hhealthy).2 error)

theorem Sound.withUpstream (htaken : upstream.taken = writer.upstream.taken) :
    Sound cipher start sent { writer with upstream := upstream } where
  notPoisoned := hsound.notPoisoned
  encryptor := hsound.encryptor
  wire := (congrArg (· ++ writer.pendingBytes) htaken).trans hsound.wire
  bounded := hsound.bounded
  positive := hsound.positive
  maxLen := hsound.maxLen

theorem Sound.pollFlush_spec : CallSpec cipher start sent [] writer writer.pollFlush := by
  have hflush := hsound.pollFlushPending_spec
  unfold pollFlush
  generalize writer.pollFlushPending = result at hflush
  obtain ⟨flushed, middle⟩ := result
  cases flushed with
  | failed error =>
    exact CallSpec.of_sound (fun hclean => absurd rfl (hclean error)) rfl
      (by simp) fun hhealthy => absurd rfl ((hflush.healthy hhealthy).2 error)
  | blocked =>
    exact CallSpec.of_sound (fun _ => hflush.sound (by simp)) rfl (by simp)
      fun hhealthy => ⟨(hflush.healthy hhealthy).1, by simp⟩
  | drained =>
    have hmiddle := hflush.sound (by simp)
    have hnext := fun hhealthy : writer.upstream.Healthy =>
      (hflush.healthy hhealthy).1.pollFlush
    have htaken := middle.upstream.pollFlush_taken
    simp only
    generalize middle.upstream.pollFlush = polled at hnext htaken
    obtain ⟨answer, upstream⟩ := polled
    have hafter := hmiddle.withUpstream htaken
    cases answer with
    | pending =>
      exact CallSpec.of_sound (fun _ => hafter) rfl (by simp)
        fun hhealthy => ⟨(hnext hhealthy).1, by simp⟩
    | done =>
      exact CallSpec.of_sound (fun _ => hafter) rfl
        (fun count hcount => (PollWrite.ready.inj hcount).symm)
        fun hhealthy => ⟨(hnext hhealthy).1, by simp⟩
    | fail kind =>
      exact CallSpec.of_sound (fun _ => hafter) rfl (by simp)
        fun hhealthy => absurd rfl ((hnext hhealthy).2 kind)

end

end Writer

/-! ## Runs -/

def offered : WriteOp → List Byte
  | .write buf => buf
  | .flush => []

structure Call where
  op : WriteOp
  result : PollWrite
  deriving Repr, DecidableEq

def Call.accepted (call : Call) : List Byte := call.result.accepted (offered call.op)

def Call.Failed (call : Call) : Prop := ∃ error, call.result = .error error

def accepted (calls : List Call) : List Byte := calls.flatMap Call.accepted

namespace Writer

variable {cipher : StreamCipher κ Byte} {start : κ} {sent : List Byte}
  {writer : Writer κ}

def perform (cipher : StreamCipher κ Byte) (writer : Writer κ) :
    WriteOp → PollWrite × Writer κ
  | .write buf => writer.pollWrite cipher buf
  | .flush => writer.pollFlush

def run (cipher : StreamCipher κ Byte) : Writer κ → List WriteOp → List Call × Writer κ
  | writer, [] => ([], writer)
  | writer, op :: ops =>
    let answer := writer.perform cipher op
    let rest := run cipher answer.2 ops
    (⟨op, answer.1⟩ :: rest.1, rest.2)

theorem run_maxPendingWrite (cipher : StreamCipher κ Byte) (writer : Writer κ)
    (ops : List WriteOp) : (writer.run cipher ops).2.maxPendingWrite = writer.maxPendingWrite := by
  induction ops generalizing writer with
  | nil => rfl
  | cons op ops ih =>
    apply (ih (writer.perform cipher op).2).trans
    cases op with
    | write buf => exact pollWrite_maxPendingWrite cipher writer buf
    | flush => exact pollFlush_maxPendingWrite writer

section

variable (hsound : writer.Sound cipher start sent)
include hsound

theorem Sound.perform_spec (op : WriteOp) :
    CallSpec cipher start sent (offered op) writer (writer.perform cipher op) := by
  cases op with
  | write buf => exact hsound.pollWrite_spec buf
  | flush => exact hsound.pollFlush_spec

section

variable {ops : List WriteOp} (hclean : ∀ call ∈ (writer.run cipher ops).1, ¬ call.Failed)
include hclean

/-- After any calls the ciphertext is that of the bytes accepted, in order. -/
theorem Sound.run_sound :
    (writer.run cipher ops).2.Sound cipher start (sent ++ accepted (writer.run cipher ops).1) := by
  induction ops generalizing writer sent with
  | nil =>
    rw [run, accepted, flatMap_nil, append_nil]
    exact hsound
  | cons op ops ih =>
    have hfirst := (hsound.perform_spec op).sound fun error herror =>
      hclean ⟨op, _⟩ mem_cons_self ⟨error, herror⟩
    have hrest := ih hfirst fun call hcall =>
      hclean call (mem_cons_of_mem _ hcall)
    rw [append_assoc] at hrest
    exact hrest

theorem Sound.run_honest :
    ∀ call ∈ (writer.run cipher ops).1, ∀ count, call.result = .ready count →
      count ≤ (offered call.op).length := by
  induction ops generalizing writer sent with
  | nil => simp [run]
  | cons op ops ih =>
    have hspec := hsound.perform_spec op
    have hfirst := hspec.sound fun error herror =>
      hclean ⟨op, _⟩ mem_cons_self ⟨error, herror⟩
    intro call hcall
    rcases mem_cons.mp hcall with rfl | hrest
    · exact hspec.honest
    · exact ih hfirst (fun call hcall => hclean call (mem_cons_of_mem _ hcall)) call hrest

end

/-- Over an upstream that never fails, no call fails. -/
theorem Sound.run_healthy {ops : List WriteOp}
    (hhealthy : writer.upstream.Healthy) : ∀ call ∈ (writer.run cipher ops).1, ¬ call.Failed := by
  induction ops generalizing writer sent with
  | nil => simp [run]
  | cons op ops ih =>
    have hspec := hsound.perform_spec op
    obtain ⟨hnext, hclean⟩ := hspec.healthy hhealthy
    intro call hcall
    rcases mem_cons.mp hcall with rfl | hrest
    · exact fun ⟨error, herror⟩ => hclean error herror
    · exact ih (hspec.sound hclean) hnext call hrest

end

/-- For every upstream, limit and sequence of calls none of which fails, the
bytes taken by the upstream and the pending ones are the ciphertext of exactly
the accepted bytes, and the pending ones stay within the limit.  No call
reports more than it was given, and an upstream that reports no error makes no
call fail. -/
theorem run_ciphertext (cipher : StreamCipher κ Byte) (encryptor : κ)
    (writes : List WriteAnswer) (flushes : List FlushAnswer) (maxPendingWrite : ℕ)
    (ops : List WriteOp) :
    let writer := Writer.new ⟨writes, flushes, []⟩ encryptor maxPendingWrite
    let outcome := writer.run cipher ops
    ((∀ call ∈ outcome.1, ¬ call.Failed) → outcome.2.upstream.taken ++ outcome.2.pendingBytes =
          (cipher.apply encryptor (accepted outcome.1)).2 ∧
        outcome.2.pendingBytes.length ≤ writer.maxPendingWrite ∧
        ∀ call ∈ outcome.1, ∀ count, call.result = .ready count →
          count ≤ (offered call.op).length) ∧
    (Sink.Healthy ⟨writes, flushes, []⟩ → ∀ call ∈ outcome.1, ¬ call.Failed) := by
  intro writer outcome
  have hsound : writer.Sound cipher encryptor [] := new_sound _ rfl maxPendingWrite
  refine ⟨fun hclean => ?_, fun hhealthy => hsound.run_healthy hhealthy⟩
  have hend := hsound.run_sound hclean
  refine ⟨hend.wire, ?_, hsound.run_honest hclean⟩
  rw [← run_maxPendingWrite cipher writer ops]
  exact hend.bounded

/-- The upstream takes two bytes, pauses twice and then takes the rest. -/
def pausedRun (cipher : StreamCipher ℕ Byte) : List Call × Writer ℕ :=
  (Writer.new ⟨[.accept 2, .pending, .pending, .accept 9, .accept 9], [.done], []⟩
    0 4096).run cipher [.write [10, 20, 30], .write [40], .flush, .flush, .write [50]]

def sampleCipher : StreamCipher ℕ Byte :=
  .ofKeystream (fun position => UInt8.ofNat (position + 1)) (· ^^^ ·)

theorem run_ciphertext_paused :
    accepted (pausedRun sampleCipher).1 = [10, 20, 30, 40, 50] ∧
      (pausedRun sampleCipher).2.upstream.taken ++ (pausedRun sampleCipher).2.pendingBytes =
        (sampleCipher.apply 0 [10, 20, 30, 40, 50]).2 := by
  have haccepted : accepted (pausedRun sampleCipher).1 = [10, 20, 30, 40, 50] := by
    decide +kernel
  obtain ⟨hspec, hhealthy⟩ := run_ciphertext sampleCipher 0
    [.accept 2, .pending, .pending, .accept 9, .accept 9] [.done] 4096
    [.write [10, 20, 30], .write [40], .flush, .flush, .write [50]]
  obtain ⟨hwire, -⟩ := hspec (hhealthy ⟨by simp, by simp⟩)
  exact ⟨haccepted, hwire.trans (congrArg (fun bytes => (sampleCipher.apply 0 bytes).2) haccepted)⟩

end Writer

end TupoProxy.CryptoWriter
