import TupoProxy.RpcStream

/-!
# From the handshake to the reader of a middle-end connection

`handshake_only` reads the encrypted answer of the middle-end with buffers of its
own, checks it and hands the socket over with the chaining vector it has reached.
The reader loop then starts on the same socket with empty buffers.  Whatever the
last read of the handshake delivered behind the answer is dropped with the buffers
of the handshake.

The reads before the deadline of the handshake are listed in order; when they run
out, the deadline has passed.
-/

namespace TupoProxy.RpcHandshake

open ByteWords AesCbc RpcCodec BlockChaining List

inductive RpcChecksumMode where
  | crc32
  | crc32c
  deriving Repr, DecidableEq

/-- The flag `USE_CRC32C`. -/
def useCrc32c : ℕ := 0x800

def RpcChecksumMode.fromHandshakeFlags (flags : ℕ) : RpcChecksumMode :=
  if flags &&& useCrc32c ≠ 0 then .crc32c else .crc32

def RpcChecksumMode.advertisedFlags : RpcChecksumMode → ℕ
  | .crc32 => 0
  | .crc32c => useCrc32c

def requestedCrcMode : RpcChecksumMode := .crc32c

def rpcHandshakeU32 : ℕ := 0x7682eef5

def rpcHandshakeErrorU32 : ℕ := 0x6a27beda

inductive HandshakeError where
  | closedDuringHandshake
  | crypto (error : CryptoError)
  | badFrameLen (length : ℕ)
  | crcMismatch (expected actual : ℕ)
  | payloadTooShort
  | rejected (errorCode : ℤ)
  | badPayloadLen (length : ℕ)
  | expectedHandshake (got : ℕ)
  | unsupportedFlags (flags : ℕ)
  | unsupportedCrcFlags (flags : ℕ)
  | tgHandshakeTimeout
  deriving Repr, DecidableEq

def signedWord (word : ℕ) : ℤ := if word < 2 ^ 31 then word else (word : ℤ) - 2 ^ 32

def parseHandshakeFlags (payload : List Byte) : Except HandshakeError ℕ :=
  if payload.length ≠ 32 then .error (.badPayloadLen payload.length)
  else
    let hsType := leNat (payload.take 4)
    if hsType ≠ rpcHandshakeU32 then .error (.expectedHandshake hsType)
    else .ok (leNat ((payload.drop 4).take 4))

/-- The checks on the payload of the answer, and the checksum mode they settle. -/
def negotiate (hsPayload : List Byte) : Except HandshakeError RpcChecksumMode :=
  if hsPayload.length < 4 then .error .payloadTooShort
  else if leNat (hsPayload.take 4) = rpcHandshakeErrorU32 then
    .error (.rejected
      (if 8 ≤ hsPayload.length then signedWord (leNat ((hsPayload.drop 4).take 4)) else -1))
  else
    match parseHandshakeFlags hsPayload with
    | .error error => .error error
    | .ok hsFlags =>
      if hsFlags &&& 0xff ≠ 0 then .error (.unsupportedFlags hsFlags)
      else if hsFlags &&& requestedCrcMode.advertisedFlags ≠ 0 then
        .ok (.fromHandshakeFlags hsFlags)
      else if hsFlags &&& useCrc32c ≠ 0 then .error (.unsupportedCrcFlags hsFlags)
      else .ok .crc32

theorem parseHandshakeFlags_length {payload : List Byte} {flags : ℕ}
    (hflags : parseHandshakeFlags payload = .ok flags) : payload.length = 32 := by
  by_contra hlength
  rw [parseHandshakeFlags, if_pos hlength] at hflags
  cases hflags

theorem negotiate_length {payload : List Byte} {mode : RpcChecksumMode}
    (hmode : negotiate payload = .ok mode) : payload.length = 32 := by
  cases hflags : parseHandshakeFlags payload with
  | ok flags => exact parseHandshakeFlags_length hflags
  | error error =>
    rw [negotiate, hflags] at hmode
    split at hmode
    · cases hmode
    · split at hmode
      · cases hmode
      · cases hmode

section Loop

variable (rpcCrc : RpcChecksumMode → Checksum)

/-- What one round of the inner loop finds at the front of the decrypted bytes. -/
inductive HandshakeFront where
  | wait
  | skip
  | accepted (mode : RpcChecksumMode)
  | failed (error : HandshakeError)
  deriving Repr, DecidableEq

def handshakeFront (decBuf : List Byte) : HandshakeFront :=
  if decBuf.length < 4 then .wait
  else
    let fl := leNat (decBuf.take 4)
    if fl = 4 then .skip
    else if ¬ (12 ≤ fl ∧ fl ≤ 2 ^ 24) then .failed (.badFrameLen fl)
    else if decBuf.length < fl then .wait
    else
      let frame := decBuf.take fl
      let pe := fl - 4
      let ec := leNat (frame.drop pe)
      let ac := (rpcCrc .crc32 (frame.take pe)).toNat
      if ec ≠ ac then .failed (.crcMismatch ec ac)
      else
        match negotiate ((frame.take pe).drop 8) with
        | .error error => .failed error
        | .ok mode => .accepted mode

/-- What the inner loop leaves: the bytes to keep, or the end of the handshake. -/
inductive HandshakeDrained where
  | more (decBuf : List Byte)
  | accepted (mode : RpcChecksumMode)
  | failed (error : HandshakeError)
  deriving Repr, DecidableEq

/-- The inner loop.  Every skipped word removes four bytes, so the length of the
decrypted bytes bounds the rounds. -/
def handshakeDrain : ℕ → List Byte → HandshakeDrained
  | 0, decBuf => .more decBuf
  | rounds + 1, decBuf =>
    match handshakeFront rpcCrc decBuf with
    | .wait => .more decBuf
    | .skip => handshakeDrain rounds (decBuf.drop 4)
    | .accepted mode => .accepted mode
    | .failed error => .failed error

structure HandshakeReader where
  readKey : BlockCipher
  encBuf : List Byte
  decBuf : List Byte
  readIv : Block

structure HandshakeOutput where
  readKey : BlockCipher
  readIv : Block
  crcMode : RpcChecksumMode

/-- The outer loop: the result and the reads that are left on the socket. -/
def handshakeOnly (reader : HandshakeReader) :
    List (List Byte) → Except HandshakeError (HandshakeOutput × List (List Byte))
  | [] => .error .tgHandshakeTimeout
  | tmp :: reads =>
    if tmp = [] then .error .closedDuringHandshake
    else
      let encBuf := reader.encBuf ++ tmp
      let blocks := encBuf.length / 16 * 16
      match decryptInPlace reader.readKey reader.readIv (encBuf.take blocks) with
      | .error error => .error (.crypto error)
      | .ok chunk =>
        let readIv := carryIv reader.readIv (encBuf.take blocks)
        let decBuf := reader.decBuf ++ chunk
        match handshakeDrain rpcCrc (decBuf.length + 1) decBuf with
        | .failed error => .error error
        | .accepted mode => .ok (⟨reader.readKey, readIv, mode⟩, reads)
        | .more decBuf =>
          handshakeOnly ⟨reader.readKey, encBuf.drop blocks, decBuf, readIv⟩ reads

def HandshakeReader.start (readKey : BlockCipher) (readIv : Block) : HandshakeReader :=
  ⟨readKey, [], [], readIv⟩

/-- The frames that the reader loop of a new connection gets out of the reads of
its socket: the loop starts with empty buffers behind the handshake. -/
def connectFrames (readKey : BlockCipher) (readIv : Block) (reads : List (List Byte)) :
    List (List Byte) :=
  match handshakeOnly rpcCrc (.start readKey readIv) reads with
  | .error _ => []
  | .ok (hs, reads) => readAll (rpcCrc hs.crcMode) (.start hs.readKey hs.readIv) reads

/-! ## Reading the answer -/

theorem drop_frameBody (seqNo : ℕ) (payload : List Byte) :
    (frameBody seqNo payload).drop 8 = payload := by
  apply drop_left'
  simp only [length_append, length_leBytes]

variable {seqNo : ℕ} {payload : List Byte} {mode : RpcChecksumMode}

theorem handshakeFront_of_answer {decBuf future rest : List Byte}
    (hmode : negotiate payload = .ok mode)
    (htext : decBuf ++ future = buildRpcFrame (rpcCrc .crc32) seqNo payload ++ rest) :
    handshakeFront rpcCrc decBuf =
      if decBuf.length < (buildRpcFrame (rpcCrc .crc32) seqNo payload).length then .wait
      else .accepted mode := by
  have hlength := length_buildRpcFrame (rpcCrc .crc32) seqNo payload
  rw [negotiate_length hmode] at hlength
  by_cases hfew : decBuf.length < 4
  · rw [handshakeFront, if_pos hfew, if_pos (by omega)]
  · unfold handshakeFront
    simp only [lengthWord_of_frame _ (by omega) htext (by omega)]
    rw [if_neg hfew, if_neg (by omega), if_neg (by omega)]
    by_cases hwait : decBuf.length < (buildRpcFrame (rpcCrc .crc32) seqNo payload).length
    · rw [if_pos hwait, if_pos hwait]
    · rw [if_neg hwait, if_neg hwait, take_frame _ htext hwait, buildRpcFrame_take,
        buildRpcFrame_drop]
      rw [if_neg (not_not.mpr (leNat_crc _ _)), drop_frameBody, hmode]

theorem eq_nil_of_flatten_eq_nil {reads : List (List Byte)} (hreads : [] ∉ reads)
    (hflatten : reads.flatten = []) : reads = [] := by
  cases reads with
  | nil => rfl
  | cons tmp reads =>
    rw [flatten_cons, append_eq_nil_iff] at hflatten
    exact absurd (hflatten.1 ▸ mem_cons_self) hreads

theorem handshakeOnly_of_answer (hmode : negotiate payload = .ok mode) (reader : HandshakeReader)
    (reads later : List (List Byte)) (sealed : List Block) (hreads : [] ∉ reads)
    (henc : reader.encBuf.length < 16) (hdec : reader.decBuf.length % 16 = 0)
    (hwait : reader.decBuf.length < (buildRpcFrame (rpcCrc .crc32) seqNo payload).length)
    (hflatten : reader.encBuf ++ reads.flatten = ofBlocks sealed) (htext : reader.decBuf ++
        ofBlocks (reader.readKey.chained.decryptBlocks reader.readIv sealed) =
      padded (buildRpcFrame (rpcCrc .crc32) seqNo payload)) :
    handshakeOnly rpcCrc reader (reads ++ later) =
      .ok (⟨reader.readKey, Cipher.chainingAfter reader.readIv sealed, mode⟩, later) := by
  generalize hanswer : buildRpcFrame (rpcCrc .crc32) seqNo payload = answer at hwait htext
  have hpad : (padded answer).length < answer.length + 16 := by
    rw [padded, length_append, length_padBytes, padLen]
    omega
  induction reads generalizing reader sealed with
  | nil =>
    have hnone : sealed = [] := by
      have hlength := congrArg length hflatten
      rw [flatten_nil, append_nil, length_ofBlocks] at hlength
      exact eq_nil_of_length_eq_zero (by omega)
    subst hnone
    have hlength := congrArg length htext
    rw [padded, length_append, length_append] at hlength
    change reader.decBuf.length + 0 = _ at hlength
    omega
  | cons tmp reads ih =>
    rw [mem_cons, not_or] at hreads
    obtain ⟨first, rest, left, rfl, hsplit, hshort, hcount, hremains⟩ := exists_read_blocks hflatten
    rw [Cipher.decryptBlocks_append, ofBlocks_append, ← append_assoc] at htext
    rw [cons_append, handshakeOnly, if_neg (Ne.symm hreads.1)]
    dsimp only
    rw [hcount, hsplit, take_left, drop_left, decryptInPlace_ofBlocks, carryIv_ofBlocks]
    dsimp only
    generalize hchunk :
      ofBlocks (reader.readKey.chained.decryptBlocks reader.readIv first) = chunk at htext
    have hfront : handshakeFront rpcCrc (reader.decBuf ++ chunk) =
        if (reader.decBuf ++ chunk).length < answer.length then .wait
        else .accepted mode := by
      subst hanswer
      exact handshakeFront_of_answer rpcCrc hmode htext
    have hmod : (reader.decBuf ++ chunk).length % 16 = 0 := by
      rw [length_append, ← hchunk, length_ofBlocks]
      omega
    rw [handshakeDrain, hfront]
    by_cases hfull : (reader.decBuf ++ chunk).length < answer.length
    · rw [if_pos hfull]
      dsimp only
      rw [ih ⟨reader.readKey, left, reader.decBuf ++ chunk,
        Cipher.chainingAfter reader.readIv first⟩ rest hreads.2 hshort hmod hremains hfull
        htext, Cipher.chainingAfter_append]
    · -- The last byte of the answer lies in the last block of the padded answer.
      have hlength := congrArg length htext
      rw [length_append, length_ofBlocks] at hlength
      have hnone : rest = [] := by
        have hcount : (reader.readKey.chained.decryptBlocks
            (Cipher.chainingAfter reader.readIv first) rest).length = 0 := by
          omega
        rw [Cipher.length_decryptBlocks] at hcount
        exact eq_nil_of_length_eq_zero hcount
      subst hnone
      have hempty := eq_nil_of_flatten_eq_nil hreads.2 (append_eq_nil_iff.mp hremains).2
      rw [if_neg hfull, hempty, append_nil]
      rfl

end Loop

theorem length_payloadStream_mod (rpcCrc : Checksum) (seqNo : ℕ) (payloads : List (List Byte)) :
    (payloadStream rpcCrc seqNo payloads).length % 16 = 0 := by
  induction payloads generalizing seqNo with
  | nil => rfl
  | cons payload payloads ih =>
    have hframe := length_padded_mod (buildRpcFrame rpcCrc seqNo payload)
    have hrest := ih (nextSeq seqNo)
    rw [payloadStream_cons, ← append_assoc, length_append]
    omega

/-- The reader gets the frames behind the answer when a read ends where the padded
answer ends and all frames but the last fill whole words. -/
theorem connectFrames_of_boundary (rpcCrc : RpcChecksumMode → Checksum)
    (readKey : BlockCipher) (readIv : Block) (answerSeq : ℕ) (answer : List Byte)
    (mode : RpcChecksumMode) (hmode : negotiate answer = .ok mode) (payloads : List (List Byte))
    (hshort : ∀ payload ∈ payloads, 4 + 4 + payload.length + 4 ≤ 2 ^ 24)
    (hwords : ∀ payload ∈ payloads.dropLast, payload.length % 4 = 0) (written : List Byte)
    (hwritten : encryptInPlace readKey readIv
      (padded (buildRpcFrame (rpcCrc .crc32) answerSeq answer) ++
        (payloadFrames (rpcCrc mode) 0 payloads).flatMap padded) = .ok written)
    (head tail : List (List Byte)) (hreads : [] ∉ head ++ tail)
    (hcut : (head ++ tail).flatten = written) (hboundary : head.flatten.length =
      (padded (buildRpcFrame (rpcCrc .crc32) answerSeq answer)).length) :
    connectFrames rpcCrc readKey readIv (head ++ tail) =
      payloadFrames (rpcCrc mode) 0 payloads := by
  rw [mem_append, not_or] at hreads
  obtain ⟨first, hfirst⟩ :=
    exists_blocks_of_mod (length_padded_mod (buildRpcFrame (rpcCrc .crc32) answerSeq answer))
  obtain ⟨later, hlater⟩ := exists_blocks_of_mod (length_payloadStream_mod (rpcCrc mode) 0 payloads)
  change padded _ = _ at hfirst
  change flatMap padded _ = _ at hlater
  rw [hfirst, hlater, ← ofBlocks_append, encryptInPlace_ofBlocks,
    Cipher.encryptBlocks_append] at hwritten
  injection hwritten with hwritten
  rw [ofBlocks_append] at hwritten
  rw [flatten_append, ← hwritten] at hcut
  obtain ⟨hhead, htail⟩ := append_inj hcut (by
    rw [hboundary, hfirst, length_ofBlocks, length_ofBlocks, Cipher.length_encryptBlocks])
  have hanswer : handshakeOnly rpcCrc (.start readKey readIv) (head ++ tail) =
      .ok (⟨readKey, Cipher.chainingAfter readIv (readKey.chained.encryptBlocks readIv first),
        mode⟩, tail) := by
    have hwait : 0 < (buildRpcFrame (rpcCrc .crc32) answerSeq answer).length := by
      exact Nat.zero_lt_succ _
    refine handshakeOnly_of_answer rpcCrc hmode (.start readKey readIv) head tail _ hreads.1
      (Nat.zero_lt_succ _) rfl hwait hhead ?_
    rw [hfirst]
    exact congrArg ofBlocks (Cipher.decryptBlocks_encryptBlocks _ _ _)
  rw [connectFrames, hanswer]
  obtain ⟨pieces, hpieces, hrun⟩ := readAll_reads (rpcCrc mode) (.start readKey _) tail _
    hreads.2 (Nat.zero_lt_succ _) rfl htail
  have hclear : pieces.flatten = payloadStream (rpcCrc mode) 0 payloads := by
    rw [hpieces]
    exact (congrArg ofBlocks (Cipher.decryptBlocks_encryptBlocks _ _ _)).trans hlater.symm
  have hfollows : FollowsFrames (rpcCrc mode) 0 [] pieces.flatten 0 payloads := by
    refine ⟨?_, fun _ => rfl, by decide, hshort⟩
    rw [hclear]
    rfl
  exact hrun.payloadFrames_of_words (rpcCrc mode) hfollows hwords

def plainAnswer : List Byte := leBytes 4 rpcHandshakeU32 ++ List.replicate 28 0

def earlyPayloads : List (List Byte) := [[1, 2, 3, 4], [5, 6, 7, 8, 9]]

def serverText : List Byte :=
  padded (buildRpcFrame crc32 (2 ^ 32 - 1) plainAnswer) ++
    (payloadFrames crc32 0 earlyPayloads).flatMap padded

def serverBytes : List Byte :=
  ofBlocks (mirrorCipher.chained.encryptBlocks firstVector (toBlocks serverText))

theorem connectFrames_of_boundary_split :
    connectFrames (fun _ => crc32) mirrorCipher firstVector
        ([serverBytes.take 20, (serverBytes.drop 20).take 28] ++ [serverBytes.drop 48]) =
      payloadFrames crc32 0 earlyPayloads :=
  connectFrames_of_boundary (fun _ => crc32) mirrorCipher firstVector (2 ^ 32 - 1) plainAnswer
    .crc32 (by decide) earlyPayloads (by decide) (by decide) serverBytes
    (by decide +kernel) [serverBytes.take 20, (serverBytes.drop 20).take 28]
    [serverBytes.drop 48] (by decide +kernel) (by decide +kernel) (by decide +kernel)

/-- Both frames arrive with the answer in one read, and the reader gets
neither. -/
theorem connectFrames_one_read :
    encryptInPlace mirrorCipher firstVector serverText = .ok serverBytes ∧
      serverBytes.length ≤ 256 ∧
      connectFrames (fun _ => crc32) mirrorCipher firstVector [serverBytes] = [] ∧
      payloadFrames crc32 0 earlyPayloads ≠ [] := by
  refine ⟨?_, ?_, ?_, ?_⟩
  · decide +kernel
  · decide +kernel
  · decide +kernel
  · decide

end TupoProxy.RpcHandshake
