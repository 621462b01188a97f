import TupoProxy.MachineWords
import TupoProxy.FakeTlsReader
import TupoProxy.Obfuscation

/-!
# Handing a fake-TLS stream over to the mask backend

When the inner handshake fails, 64 bytes of plaintext have been read and the rest of the
connection goes to the mask backend as raw TLS.  Plaintext that the reader holds is wrapped
into a new application record in front of the bytes that were not read.

`read_exact` only returns right after a poll that gave bytes, and such a poll stops between
two records or inside a complete one, so nothing of a header or of an incomplete body is
ever lost.
-/

namespace TupoProxy.FakeTlsReader

open Delivery TlsRecord List Reader
open Obfuscation (handshakeLen)

inductive ReadExactError where
  | poisoned (error : TlsError)
  | failed (error : TlsError)
  | shortRead (expected got : ℕ)
  deriving Repr, DecidableEq

/-- The loop of `read_exact`.  A pending poll is repeated when the task is woken; the first
argument bounds the polls. -/
def Reader.readExactLoop : ℕ → Reader → ℕ → List Byte →
    Except ReadExactError (List Byte × Reader)
  | 0, _, n, result => .error (.shortRead n result.length)
  | polls + 1, reader, n, result =>
    if n ≤ result.length then .ok (result, reader)
    else
      match reader.pollRead (n - result.length) with
      | (reader, .pending) => Reader.readExactLoop polls reader n result
      | (_, .error error) => .error (.failed error)
      | (_, .ready []) => .error (.shortRead n result.length)
      | (reader, .ready (head :: tail)) =>
        Reader.readExactLoop polls reader n (result ++ head :: tail)

/-- Every poll lowers the work left, so this many polls are enough. -/
def Reader.readExact (reader : Reader) (n : ℕ) : Except ReadExactError (List Byte × Reader) :=
  match reader.state with
  | .poisoned error => .error (.poisoned (error.getD .previouslyPoisoned))
  | _ => reader.readExactLoop (reader.workLeft + 2) n []

def Reader.intoInnerWithPendingPlaintext (reader : Reader) : Upstream × List Byte :=
  (reader.upstream,
    match reader.state with
    | .yielding buffer => buffer.asSlice
    | .readingBody recordType _ buffer =>
      if recordType = tlsRecordApplication then buffer else []
    | _ => [])

def chunks (size : ℕ) : ℕ → List Byte → List (List Byte)
  | 0, _ => []
  | count + 1, payload =>
    if payload = [] then []
    else payload.take size :: chunks size count (payload.drop size)

def wrapTlsApplicationRecord (payload : List Byte) : List Byte :=
  if payload = [] then applicationRecord []
  else (chunks u16Max payload.length payload).flatMap applicationRecord

/-- The stream that the mask backend is fed from. -/
def Reader.fallbackStream (reader : Reader) : Upstream :=
  let (upstream, pendingPlaintext) := reader.intoInnerWithPendingPlaintext
  let pendingRecord :=
    if pendingPlaintext = [] then [] else wrapTlsApplicationRecord pendingPlaintext
  pushFront pendingRecord upstream

theorem wrapTlsApplicationRecord_short {payload : List Byte} (hpos : payload ≠ [])
    (hshort : payload.length ≤ u16Max) :
    wrapTlsApplicationRecord payload = applicationRecord payload := by
  have hrest : ∀ count, chunks u16Max count [] = [] := by
    intro count
    cases count <;> rfl
  obtain ⟨count, hcount⟩ := Nat.exists_eq_succ_of_ne_zero (length_pos_iff.mpr hpos).ne'
  unfold wrapTlsApplicationRecord
  rw [if_neg hpos, hcount, chunks, if_neg hpos, take_of_length_le hshort,
    drop_of_length_le hshort, hrest]
  exact flatMap_singleton applicationRecord payload

/-! ## What the reader holds -/

/-- The reader is not poisoned, and it holds no more plaintext than one record may
carry. -/
def TlsReaderState.Fits : TlsReaderState → Prop
  | .readingBody recordType length _ =>
    recordType = tlsRecordApplication → length ≤ maxTlsPayload
  | .yielding buffer => buffer.data.length ≤ maxTlsPayload
  | .idle => True
  | .readingHeader _ => True
  | .poisoned _ => False

/-- Unless it fails, a turn keeps what the reader holds within one record and gives no
more than there is room for. -/
def TurnFits (room : ℕ) : LoopTurn → Prop
  | .again next => next.state.Fits
  | .done _ (.error _) => True
  | .done next .pending => next.state.Fits
  | .done next (.ready bytes) => next.state.Fits ∧ bytes.length ≤ room

variable {upstream : Upstream} {room : ℕ}

theorem turnFits_yielding {buffer : YieldBuffer} (hfits : (TlsReaderState.yielding buffer).Fits) :
    TurnFits room (Reader.turn ⟨upstream, .yielding buffer⟩ room) := by
  have hcopied : (buffer.copyTo (min buffer.remaining room)).1.length ≤ room := by
    simp only [YieldBuffer.copyTo, length_take]
    omega
  simp only [turn]
  split
  · exact ⟨hfits, Nat.zero_le room⟩
  · split
    · exact ⟨trivial, hcopied⟩
    · exact ⟨hfits, hcopied⟩

theorem turnFits_readingHeader {header : List Byte} :
    TurnFits room (Reader.turn ⟨upstream, .readingHeader header⟩ room) := by
  simp only [turn]
  cases hpolled : pollReadHeader upstream header with
  | mk polled rest =>
    cases polled with
    | pending => trivial
    | eof => exact ⟨trivial, Nat.zero_le room⟩
    | error error => trivial
    | complete parsed =>
      dsimp only
      cases hvalid : parsed.validate with
      | error error => trivial
      | ok _ =>
        intro htype
        exact TlsRecordHeader.validate_application hvalid htype

theorem turnFits_readingBody {recordType : Byte} {length : ℕ}
    {buffer : List Byte} (hsound : Reader.Sound ⟨upstream, .readingBody recordType length buffer⟩)
    (hfits : (TlsReaderState.readingBody recordType length buffer).Fits) :
    TurnFits room (Reader.turn ⟨upstream, .readingBody recordType length buffer⟩ room) := by
  have hshort : buffer.length < length := hsound.wellFormed
  have hspec : FillSpec length buffer upstream
      (fill bodyChunkLen length (length - buffer.length) buffer upstream) :=
    fill_spec (by simp [bodyChunkLen]) (by omega) (by omega)
  simp only [turn, pollReadBody]
  generalize fill bodyChunkLen length (length - buffer.length) buffer upstream = filled at hspec ⊢
  obtain ⟨result, got, rest⟩ := filled
  cases result with
  | stalled why => exact hfits
  | failed error => trivial
  | ended => trivial
  | complete =>
    have hgot : got.length = length := hspec.complete rfl
    dsimp only
    split
    · trivial
    · split
      · next happlication =>
        split
        · trivial
        · show got.length ≤ maxTlsPayload
          rw [hgot]
          exact hfits happlication
      · split
        · exact ⟨trivial, Nat.zero_le room⟩
        · split <;> trivial

theorem Reader.Sound.turn_fits {reader : Reader} {room : ℕ} (hsound : reader.Sound)
    (hfits : reader.state.Fits) : TurnFits room (reader.turn room) := by
  obtain ⟨upstream, state⟩ := reader
  cases state with
  | idle =>
    simp only [turn]
    split
    · exact ⟨trivial, Nat.zero_le room⟩
    · trivial
  | readingHeader header => exact turnFits_readingHeader
  | readingBody recordType length buffer => exact turnFits_readingBody hsound hfits
  | yielding buffer => exact turnFits_yielding hfits
  | poisoned error => cases hfits

variable {reader : Reader}

theorem Reader.Sound.loop_fits {turns : ℕ} (hsound : reader.Sound)
    (hroom : 0 < room) (hfits : reader.state.Fits) :
    TurnFits room (.done (reader.loop turns room).1 (reader.loop turns room).2) := by
  induction turns generalizing reader with
  | zero => exact hfits
  | succ turns ih =>
    have hturn := hsound.turn_spec hroom
    have hkept := @Reader.Sound.turn_fits reader room hsound hfits
    simp only [loop]
    cases h : reader.turn room with
    | done next result =>
      rw [h] at hkept
      exact hkept
    | again next =>
      rw [h] at hturn hkept
      exact ih hturn.1 hkept

/-- A reader that has handed out `bytes` and stands between two polls that gave bytes. -/
structure Reader.Left (reader next : Reader) (bytes : List Byte) : Prop where
  sound : next.Sound
  fits : next.state.Fits
  between : next.state.midRecord = false
  meaning : reader.meaning = (bytes ++ next.meaning.1, next.meaning.2)

/-- With enough polls the exact read gives its bytes and a sound reader. -/
theorem Reader.Sound.readExactLoop_spec {n polls : ℕ} {result : List Byte}
    (hsound : reader.Sound) (hfits : reader.state.Fits)
    (hbetween : result.length = n → reader.state.midRecord = false)
    (hresult : result.length ≤ n) (hmore : n ≤ result.length + reader.meaning.1.length)
    (hpolls : reader.workLeft + 1 < polls) :
    ∃ bytes next, reader.readExactLoop polls n result = .ok (result ++ bytes, next) ∧
      (result ++ bytes).length = n ∧ reader.Left next bytes := by
  induction polls generalizing reader result with
  | zero => omega
  | succ polls ih =>
    rw [readExactLoop]
    by_cases hdone : n ≤ result.length
    · have hfull : result.length = n := Nat.le_antisymm hresult hdone
      refine ⟨[], reader, ?_, ?_, hsound, hfits, hbetween hfull, rfl⟩
      · rw [if_pos hdone, append_nil]
      · rw [append_nil, hfull]
    · rw [if_neg hdone]
      have hroom : 0 < n - result.length := by omega
      have hspec := hsound.pollRead_spec hroom
      have hkept : TurnFits (n - result.length) (.done (reader.pollRead (n - result.length)).1
          (reader.pollRead (n - result.length)).2) := hsound.loop_fits hroom hfits
      have hfail : ∀ ending, reader.meaning ≠ ([], ending) := by
        intro ending hempty
        rw [hempty, length_nil] at hmore
        omega
      cases hanswer : reader.pollRead (n - result.length) with
      | mk next answer =>
        rw [hanswer] at hspec hkept
        dsimp only at hspec hkept
        cases answer with
        | pending =>
          obtain ⟨hnext, hmeaning, hless⟩ := hspec
          have hshort : result.length = n → next.state.midRecord = false :=
            fun hfull => absurd hfull.ge hdone
          rw [← hmeaning] at hmore
          obtain ⟨bytes, final, hloop, hlength, hleft⟩ :=
            ih hnext hkept hshort hresult hmore (by omega)
          exact ⟨bytes, final, hloop, hlength, hleft.sound, hleft.fits, hleft.between,
            hmeaning.symm.trans hleft.meaning⟩
        | error error => exact absurd hspec (hfail _)
        | ready bytes =>
          cases bytes with
          | nil => exact absurd hspec (hfail _)
          | cons head tail =>
            obtain ⟨hnext, hidle, hmeaning, hless⟩ := hspec
            obtain ⟨hnextFits, hgiven⟩ := hkept
            rw [hmeaning] at hmore
            obtain ⟨bytes, final, hloop, hlength, hleft⟩ :=
              @ih next (result ++ head :: tail) hnext hnextFits (fun _ => hidle)
                (by rw [length_append]; omega)
                (by simp only [length_append] at hmore ⊢; omega) (by omega)
            rw [append_assoc] at hloop hlength
            refine ⟨head :: tail ++ bytes, final, hloop, hlength, hleft.sound,
              hleft.fits, hleft.between, ?_⟩
            rw [hmeaning, hleft.meaning, append_assoc]

/-- A read of bytes that are there returns them and leaves the rest. -/
theorem Reader.Sound.readExact_spec {n : ℕ} (hsound : reader.Sound)
    (hfits : reader.state.Fits) (hbetween : reader.state.midRecord = false)
    (hmore : n ≤ reader.meaning.1.length) :
    ∃ bytes next, reader.readExact n = .ok (bytes, next) ∧ bytes.length = n ∧
      reader.Left next bytes := by
  have hstart : n ≤ ([] : List Byte).length + reader.meaning.1.length := by
    rw [length_nil, Nat.zero_add]
    exact hmore
  have hloop : reader.readExact n = reader.readExactLoop (reader.workLeft + 2) n [] := by
    unfold readExact
    cases hstate : reader.state with
    | poisoned error =>
      rw [hstate] at hfits
      cases hfits
    | idle | readingHeader | readingBody | yielding => rfl
  rw [hloop]
  exact hsound.readExactLoop_spec hfits (fun _ => hbetween) (Nat.zero_le n) hstart
    (Nat.lt_succ_self _)

theorem Reader.Sound.recordStream_fallback (hsound : reader.Sound)
    (hfits : reader.state.Fits) (hbetween : reader.state.midRecord = false) :
    recordStream (bytesOf reader.fallbackStream) = reader.meaning := by
  obtain ⟨upstream, state⟩ := reader
  unfold fallbackStream
  cases state with
  | idle => rfl
  | readingHeader | readingBody => cases hbetween
  | poisoned error => cases hfits
  | yielding buffer =>
    have hpos : 0 < buffer.asSlice.length := by
      rw [buffer.length_asSlice]
      exact hsound.wellFormed
    have hmax : buffer.asSlice.length ≤ maxTlsPayload := by
      rw [buffer.length_asSlice]
      exact (Nat.sub_le _ _).trans hfits
    have hne : buffer.asSlice ≠ [] := length_pos_iff.mp hpos
    have hone := wrapTlsApplicationRecord_short hne (hmax.trans (by decide))
    simp only [intoInnerWithPendingPlaintext, if_neg hne, hone]
    exact recordStream_applicationRecord hpos hmax (bytesOf upstream)

/-- For every stream of records with at least 64 bytes of plaintext, however it arrives:
the handshake is the first 64 bytes, and what the backend is fed is a stream of records
with the remaining plaintext and the same ending. -/
theorem fallback_forwards {upstream : Upstream} (hfail : NoFail upstream)
    (hvalid : (recordStream (bytesOf upstream)).2 = .eof)
    (hlong : handshakeLen ≤ (recordStream (bytesOf upstream)).1.length) :
    ∃ handshake reader, (Reader.new upstream).readExact handshakeLen = .ok (handshake, reader) ∧
      handshake = (recordStream (bytesOf upstream)).1.take handshakeLen ∧
      recordStream (bytesOf reader.fallbackStream) =
        ((recordStream (bytesOf upstream)).1.drop handshakeLen, .eof) := by
  obtain ⟨handshake, reader, hread, hlength, hleft⟩ :=
    (new_sound hfail).readExact_spec trivial rfl hlong
  have hmeaning : recordStream (bytesOf upstream) =
      (handshake ++ reader.meaning.1, reader.meaning.2) := hleft.meaning
  have hstream := hleft.sound.recordStream_fallback hleft.fits hleft.between
  rw [hmeaning] at hvalid ⊢
  refine ⟨handshake, reader, hread, ?_, ?_⟩
  · rw [take_left' hlength]
  · rw [hstream, drop_left' hlength, ← hvalid]

/-- Two application records; the first arrives in two pieces with a pause in its body. -/
def cutUpstream : Upstream :=
  pushFront ((applicationRecord (List.replicate 70 1)).take 30)
    (.stall () :: pushFront ((applicationRecord (List.replicate 70 1)).drop 30 ++
      applicationRecord [7, 8, 9]) [])

theorem fallback_forwards_cut :
    ∃ handshake reader, (Reader.new cutUpstream).readExact 64 = .ok (handshake, reader) ∧
      handshake = List.replicate 64 1 ∧
      recordStream (bytesOf reader.fallbackStream) = ([1, 1, 1, 1, 1, 1, 7, 8, 9], .eof) := by
  have hbytes : bytesOf cutUpstream =
      ([replicate 70 1, [7, 8, 9]].map applicationRecord).flatten := by
    decide +kernel
  have hsizes : ∀ payload ∈ [replicate 70 (1 : Byte), [7, 8, 9]],
      0 < payload.length ∧ payload.length ≤ maxTlsPayload := by
    decide
  have hstream := recordStream_applicationRecords hsizes
  rw [← hbytes] at hstream
  have hfail : NoFail cutUpstream := by
    intro error
    cases error <;> decide +kernel
  obtain ⟨handshake, reader, hread, hhandshake, hfallback⟩ :=
    fallback_forwards hfail (by rw [hstream]) (by rw [hstream]; decide)
  rw [hstream] at hhandshake hfallback
  exact ⟨handshake, reader, hread, hhandshake, hfallback⟩

end TupoProxy.FakeTlsReader
