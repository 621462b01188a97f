import TupoProxy.ClientReader
import TupoProxy.RpcCodec
import TupoProxy.PaddedWords

/-!
# The request stream of a middle-end connection

All clients of a connection share one stream of frames.  The reader finds the
next frame after the padding of the previous one only if that padding consists
of whole words, that is, if the previous frame has a length divisible by four.
Everything but the client packet fills whole words, so the length of the packet
decides.

The reader works on decrypted pieces here.  The relation `Reads` follows its
nested loops step by step; the loops of the reader satisfy it for every way of
cutting the stream.
-/

namespace TupoProxy.RpcCodec

open ByteWords AesCbc ProxyReqWire PaddedWords List

section Stream

variable (rpcCrc : Checksum)

def framesFrom : ℕ → List ProxyReqCommand → List (List Byte)
  | _, [] => []
  | seqNo, command :: commands =>
    commandFrame rpcCrc seqNo command :: framesFrom (nextSeq seqNo) commands

def paddedFrames (seqNo : ℕ) (commands : List ProxyReqCommand) :
    List (List Byte × List Byte) :=
  (framesFrom rpcCrc seqNo commands).map fun frame =>
    (frame, padBytes (padLen frame.length))

def plainStream (seqNo : ℕ) (commands : List ProxyReqCommand) : List Byte :=
  textOf (paddedFrames rpcCrc seqNo commands)

theorem plainStream_cons (seqNo : ℕ) (command : ProxyReqCommand) (commands : List ProxyReqCommand) :
    plainStream rpcCrc seqNo (command :: commands) = commandFrame rpcCrc seqNo command ++
        (padBytes (padLen (commandFrame rpcCrc seqNo command).length) ++
          plainStream rpcCrc (nextSeq seqNo) commands) :=
  textOf_cons _ _ _

theorem map_fst_paddedFrames (seqNo : ℕ) (commands : List ProxyReqCommand) :
    (paddedFrames rpcCrc seqNo commands).map Prod.fst = framesFrom rpcCrc seqNo commands := by
  rw [paddedFrames, map_map]
  exact map_id _

end Stream

/-! ## Padding -/

@[simp] theorem length_padBytes (pad : ℕ) : (padBytes pad).length = pad := by
  simp [padBytes]

theorem padBytes_add_four (pad : ℕ) : padBytes (pad + 4) = padPattern ++ padBytes pad := by
  have hrange : range (pad + 4) = range 4 ++ (range pad).map (4 + ·) := by
    rw [Nat.add_comm, range_add]
  rw [padBytes, hrange, map_append, map_map]
  have hshift : ((fun i => padPattern.getD (i % 4) 0) ∘ fun i => 4 + i) =
      fun i => padPattern.getD (i % 4) 0 := by
    funext i
    simp only [Function.comp, Nat.add_mod_left]
  rw [hshift]
  rfl

abbrev IsPadByte (byte : Byte) : Prop := byte = 0x04 ∨ byte = 0x00

theorem isPadByte_of_mem {pad : ℕ} {byte : Byte} (hmem : byte ∈ padBytes pad) : IsPadByte byte := by
  obtain ⟨i, -, rfl⟩ := mem_map.mp hmem
  have hlt : i % 4 < 4 := Nat.mod_lt _ (by decide)
  interval_cases hi : i % 4
  · exact Or.inl rfl
  · exact Or.inr rfl
  · exact Or.inr rfl
  · exact Or.inr rfl

section Frames

variable (rpcCrc : Checksum)

theorem length_buildRpcFrame (seqNo : ℕ) (payload : List Byte) :
    (buildRpcFrame rpcCrc seqNo payload).length = 4 + 4 + payload.length + 4 := by
  simp only [buildRpcFrame, sealFrame, length_append, length_leBytes]

theorem commandFrame_eq (seqNo : ℕ) (command : ProxyReqCommand) :
    commandFrame rpcCrc seqNo command = buildRpcFrame rpcCrc seqNo (commandPayload command) := by
  rw [commandFrame, buildRpcFrame, commandPayload, length_proxyReqPayload]
  rfl

theorem commandFrame_marked (seqNo : ℕ) (command : ProxyReqCommand) :
    ∃ byte ∈ commandFrame rpcCrc seqNo command, ¬ IsPadByte byte := by
  refine ⟨0xee, ?_, by decide⟩
  simp only [commandFrame, sealFrame, commandPayload, proxyReqPayload, mem_append]
  tauto

theorem paddedFrames_marked (seqNo : ℕ) (commands : List ProxyReqCommand) :
    Marked IsPadByte (paddedFrames rpcCrc seqNo commands) := by
  induction commands generalizing seqNo with
  | nil => exact fun entry hentry => nomatch hentry
  | cons command commands ih =>
    intro entry hentry
    rcases mem_cons.mp hentry with rfl | hrest
    · refine ⟨commandFrame_marked rpcCrc seqNo command, ?_⟩
      intro byte hbyte
      exact isPadByte_of_mem hbyte
    · exact ih (nextSeq seqNo) entry hrest

def frameBody (seqNo : ℕ) (payload : List Byte) : List Byte :=
  leBytes 4 (4 + 4 + payload.length + 4) ++ leBytes 4 seqNo ++ payload

section

variable (seqNo : ℕ) (payload : List Byte)

theorem length_frameBody :
    (frameBody seqNo payload).length = (buildRpcFrame rpcCrc seqNo payload).length - 4 := by
  rw [length_buildRpcFrame]
  simp only [frameBody, length_append, length_leBytes]
  omega

theorem buildRpcFrame_take :
    (buildRpcFrame rpcCrc seqNo payload).take
        ((buildRpcFrame rpcCrc seqNo payload).length - 4) = frameBody seqNo payload :=
  take_left' (length_frameBody rpcCrc seqNo payload)

theorem buildRpcFrame_drop :
    (buildRpcFrame rpcCrc seqNo payload).drop ((buildRpcFrame rpcCrc seqNo payload).length - 4) =
      leBytes 4 (rpcCrc (frameBody seqNo payload)).toNat :=
  drop_left' (length_frameBody rpcCrc seqNo payload)

theorem buildRpcFrame_seqNo :
    ((buildRpcFrame rpcCrc seqNo payload).drop 4).take 4 = leBytes 4 seqNo := by
  simp only [buildRpcFrame, sealFrame, append_assoc]
  rw [drop_left' (length_leBytes 4 _), take_left' (length_leBytes 4 _)]

end

theorem take_of_append_eq {dec future text : List Byte} {n : ℕ} (hn : n ≤ dec.length)
    (htext : dec ++ future = text) : dec.take n = text.take n := by
  rw [← htext, take_append_of_le_length hn]

theorem drop_of_append_eq {dec future lead text : List Byte} {n : ℕ}
    (hn : n ≤ dec.length) (htext : dec ++ future = lead ++ text) (hlead : lead.length = n) :
    dec.drop n ++ future = text := by
  rw [← drop_append_of_le_length hn, htext, drop_left' hlead]

variable {seqNo : ℕ} {dec future rest : List Byte}

theorem front_of_padding {pad : ℕ} (hlen : 12 ≤ dec.length)
    (htext : dec ++ future = padBytes (pad + 4) ++ rest) : front rpcCrc seqNo dec = .skip := by
  have hword : dec.take 4 = padPattern := by
    rw [take_of_append_eq (by omega) htext, padBytes_add_four, append_assoc]
    exact take_left' rfl
  have hfour : leNat padPattern = 4 := by decide
  simp only [front, hword, hfour, if_true]
  rw [if_neg (by omega)]

theorem leNat_crc (bytes : List Byte) :
    leNat (leBytes 4 (rpcCrc bytes).toNat) = (rpcCrc bytes).toNat :=
  leNat_leBytes_of_lt (UInt32.toNat_lt _)

section

variable {payload : List Byte} (hshort : (buildRpcFrame rpcCrc seqNo payload).length ≤ 2 ^ 24)
  (htext : dec ++ future = buildRpcFrame rpcCrc seqNo payload ++ rest)
include htext

theorem take_frame (hwhole : ¬ dec.length < (buildRpcFrame rpcCrc seqNo payload).length) :
    dec.take (buildRpcFrame rpcCrc seqNo payload).length =
      buildRpcFrame rpcCrc seqNo payload := by
  rw [take_of_append_eq (by omega) htext]
  exact take_left

include hshort

theorem lengthWord_of_frame (hmany : 4 ≤ dec.length) :
    leNat (dec.take 4) = (buildRpcFrame rpcCrc seqNo payload).length := by
  have hlength := length_buildRpcFrame rpcCrc seqNo payload
  rw [take_of_append_eq hmany htext]
  simp only [buildRpcFrame, sealFrame, append_assoc]
  rw [take_left' (length_leBytes 4 _), leNat_leBytes_of_lt (by omega)]
  simp only [length_append, length_leBytes]
  omega

theorem front_of_frame (hseq : seqNo < 2 ^ 32) :
    front rpcCrc seqNo dec =
      if dec.length < (buildRpcFrame rpcCrc seqNo payload).length then .wait
      else .frame (buildRpcFrame rpcCrc seqNo payload) := by
  have hlength := length_buildRpcFrame rpcCrc seqNo payload
  by_cases hfew : dec.length < 12
  · rw [front, if_pos hfew, if_pos (by omega)]
  · unfold front
    simp only [lengthWord_of_frame rpcCrc hshort htext (by omega)]
    rw [if_neg hfew, if_neg (by omega), if_neg (by omega)]
    by_cases hwait : dec.length < (buildRpcFrame rpcCrc seqNo payload).length
    · rw [if_pos hwait, if_pos hwait]
    · rw [if_neg hwait, if_neg hwait, take_frame rpcCrc htext hwait, buildRpcFrame_take,
        buildRpcFrame_drop, buildRpcFrame_seqNo, leNat_crc, leNat_leBytes_of_lt hseq]
      simp

end

theorem front_ready {next : Front} (hfront : front rpcCrc seqNo dec = next)
    (hnext : next ≠ .wait) : 12 ≤ dec.length := by
  by_contra hfew
  rw [front, if_pos (by omega)] at hfront
  exact hnext hfront.symm

theorem front_frame {bytes : List Byte} (hfront : front rpcCrc seqNo dec = .frame bytes) :
    12 ≤ dec.length ∧ 12 ≤ bytes.length ∧ dec = bytes ++ dec.drop bytes.length := by
  unfold front at hfront
  split at hfront
  · cases hfront
  · dsimp only at hfront
    split at hfront
    · cases hfront
    · split at hfront
      · cases hfront
      · split at hfront
        · cases hfront
        · split at hfront
          · cases hfront
          · split at hfront
            · cases hfront
            · next hlen _ hrange hfit _ _ =>
              cases hfront
              have htake : (dec.take (leNat (dec.take 4))).length = leNat (dec.take 4) := by
                rw [length_take]
                omega
              refine ⟨by omega, by omega, ?_⟩
              rw [htake, take_append_drop]

/-- The frames that come out of the decrypted bytes `dec` and the pieces that
arrive later. -/
inductive Reads : ℕ → List Byte → List (List Byte) → List (List Byte) → Prop where
  | idle {seqNo : ℕ} {dec : List Byte} (hfront : front rpcCrc seqNo dec = .wait) :
      Reads seqNo dec [] []
  | more {seqNo : ℕ} {dec piece : List Byte} {pieces frames : List (List Byte)}
      (hfront : front rpcCrc seqNo dec = .wait)
      (hrest : Reads seqNo (dec ++ piece) pieces frames) :
      Reads seqNo dec (piece :: pieces) frames
  | skip {seqNo : ℕ} {dec : List Byte} {pieces frames : List (List Byte)}
      (hfront : front rpcCrc seqNo dec = .skip)
      (hrest : Reads seqNo (dec.drop 4) pieces frames) :
      Reads seqNo dec pieces frames
  | reset {seqNo : ℕ} {dec : List Byte} {pieces frames : List (List Byte)}
      (hfront : front rpcCrc seqNo dec = .reset)
      (hrest : Reads seqNo [] pieces frames) :
      Reads seqNo dec pieces frames
  | frame {seqNo : ℕ} {dec bytes : List Byte} {pieces frames : List (List Byte)}
      (hfront : front rpcCrc seqNo dec = .frame bytes)
      (hrest : Reads (nextSeq seqNo) (dec.drop bytes.length) pieces frames) :
      Reads seqNo dec pieces (bytes :: frames)
  | failed {seqNo : ℕ} {dec : List Byte} {pieces : List (List Byte)} {error : RpcError}
      (hfront : front rpcCrc seqNo dec = .failed error) :
      Reads seqNo dec pieces []

/-- The frame loop follows the relation between a stream and its frames. -/
theorem drain_reads {rounds : ℕ} (hrounds : dec.length < rounds) :
    (∀ error, (drain rpcCrc rounds seqNo dec).error = some error → ∀ pieces,
        Reads rpcCrc seqNo dec pieces (drain rpcCrc rounds seqNo dec).frames) ∧
      ((drain rpcCrc rounds seqNo dec).error = none →
        front rpcCrc (drain rpcCrc rounds seqNo dec).expectedSeq
            (drain rpcCrc rounds seqNo dec).dec = .wait ∧ ∀ pieces frames,
            Reads rpcCrc (drain rpcCrc rounds seqNo dec).expectedSeq
                (drain rpcCrc rounds seqNo dec).dec pieces frames → Reads rpcCrc seqNo dec pieces
                ((drain rpcCrc rounds seqNo dec).frames ++ frames)) := by
  induction rounds generalizing seqNo dec with
  | zero => omega
  | succ rounds ih =>
    rw [drain]
    cases hfront : front rpcCrc seqNo dec with
    | wait => exact ⟨nofun, fun _ => ⟨hfront, fun _ _ hrest => hrest⟩⟩
    | skip =>
      have hlen := front_ready rpcCrc hfront nofun
      obtain ⟨hfails, hwaits⟩ := @ih seqNo (dec.drop 4) (by rw [length_drop]; omega)
      refine ⟨fun error herror pieces => .skip hfront (hfails error herror pieces), ?_⟩
      intro hnone
      obtain ⟨hidle, hrest⟩ := hwaits hnone
      exact ⟨hidle, fun pieces frames hreads =>
        .skip hfront (hrest pieces frames hreads)⟩
    | reset =>
      refine ⟨nofun, fun _ => ⟨rfl, fun pieces frames hreads => .reset hfront hreads⟩⟩
    | frame bytes =>
      obtain ⟨-, hlong, -⟩ := front_frame rpcCrc hfront
      have hlen : 12 ≤ dec.length := (front_frame rpcCrc hfront).1
      obtain ⟨hfails, hwaits⟩ :=
        @ih (nextSeq seqNo) (dec.drop bytes.length) (by rw [length_drop]; omega)
      refine ⟨fun error herror pieces => .frame hfront (hfails error herror pieces), ?_⟩
      intro hnone
      obtain ⟨hidle, hrest⟩ := hwaits hnone
      exact ⟨hidle, fun pieces frames hreads =>
        .frame hfront (hrest pieces frames hreads)⟩
    | failed error =>
      exact ⟨fun _ _ pieces => .failed hfront, nofun⟩

section

variable {pieces frames : List (List Byte)} (hreads : Reads rpcCrc seqNo dec pieces frames)
include hreads

/-- Whatever the reader cuts out is cut out of the stream from left to
right. -/
theorem Reads.factors : Factors (dec ++ pieces.flatten) frames := by
  induction hreads with
  | idle | failed => exact .done _
  | more hfront hrest ih =>
    rw [flatten_cons, ← append_assoc]
    exact ih
  | @skip seqNo dec pieces frames hfront hrest ih =>
    rw [← take_append_drop 4 dec, append_assoc]
    exact ih.append_left _
  | reset hfront hrest ih => exact ih.append_left _
  | frame hfront hrest ih =>
    obtain ⟨-, -, hdec⟩ := front_frame rpcCrc hfront
    rw [hdec, append_assoc]
    exact .take _ ih

theorem Reads.avoiding {pad : ℕ} {text : List Byte} (hpad : pad % 4 ≠ 0)
    (htext : dec ++ pieces.flatten = padBytes pad ++ text) :
    FactorsAvoiding pad (padBytes pad ++ text) frames := by
  induction hreads generalizing pad with
  | idle | failed => exact fun _ _ hframes => nomatch hframes
  | more hfront hrest ih =>
    apply ih hpad
    rw [← htext, flatten_cons, append_assoc]
  | @skip seqNo dec pieces frames hfront hrest ih =>
    have hlen := front_ready rpcCrc hfront nofun
    by_cases hword : 4 ≤ pad
    · obtain ⟨less, rfl⟩ := Nat.exists_eq_add_of_le' hword
      rw [padBytes_add_four, append_assoc] at htext ⊢
      have hless := ih (by omega) (drop_of_append_eq (by omega) htext rfl)
      rw [Nat.add_comm]
      exact hless.append_left padPattern
    · rw [← htext, ← take_append_drop 4 dec, append_assoc]
      apply (hrest.factors rpcCrc).avoiding
      rw [length_take]
      omega
  | @reset seqNo dec pieces frames hfront hrest ih =>
    have hlen := front_ready rpcCrc hfront nofun
    have hword : pad < 4 := by
      by_contra hword
      obtain ⟨less, rfl⟩ := Nat.exists_eq_add_of_le' (Nat.not_lt.mp hword)
      rw [front_of_padding rpcCrc hlen htext] at hfront
      cases hfront
    rw [← htext]
    exact (hrest.factors rpcCrc).avoiding dec (by omega)
  | @frame seqNo dec bytes pieces frames hfront hrest ih =>
    obtain ⟨hlen, -, hdec⟩ := front_frame rpcCrc hfront
    intro word others hframes
    cases hframes
    refine ⟨[], dec.drop bytes.length ++ pieces.flatten, ?_, ?_, hrest.factors rpcCrc⟩
    · rw [← htext, nil_append, ← append_assoc, ← hdec]
    · rw [length_nil]
      omega

end

theorem padLen_mod_four (length : ℕ) : padLen length % 4 = 0 ↔ length % 4 = 0 := by
  unfold padLen
  omega

theorem nextSeq_lt (seqNo : ℕ) : nextSeq seqNo < 2 ^ 32 := Nat.mod_lt _ (by decide)

def payloadFrames : ℕ → List (List Byte) → List (List Byte)
  | _, [] => []
  | seqNo, payload :: payloads =>
    buildRpcFrame rpcCrc seqNo payload :: payloadFrames (nextSeq seqNo) payloads

def padded (frame : List Byte) : List Byte := frame ++ padBytes (padLen frame.length)

def payloadStream (seqNo : ℕ) (payloads : List (List Byte)) : List Byte :=
  (payloadFrames rpcCrc seqNo payloads).flatMap padded

theorem payloadStream_cons (seqNo : ℕ) (payload : List Byte) (payloads : List (List Byte)) :
    payloadStream rpcCrc seqNo (payload :: payloads) = buildRpcFrame rpcCrc seqNo payload ++
        (padBytes (padLen (buildRpcFrame rpcCrc seqNo payload).length) ++
          payloadStream rpcCrc (nextSeq seqNo) payloads) := by
  rw [payloadStream, payloadFrames, flatMap_cons, padded, append_assoc]
  rfl

/-- The decrypted bytes and those still to come are the rest of a padding and a
stream of frames that starts on a word boundary. -/
structure FollowsFrames (seqNo : ℕ) (dec future : List Byte) (pad : ℕ)
    (payloads : List (List Byte)) : Prop where
  text : dec ++ future = padBytes pad ++ payloadStream rpcCrc seqNo payloads
  aligned : payloads ≠ [] → pad % 4 = 0
  seq : seqNo < 2 ^ 32
  short : ∀ payload ∈ payloads, 4 + 4 + payload.length + 4 ≤ 2 ^ 24

variable {pad : ℕ} {payload : List Byte} {payloads : List (List Byte)}

section

variable (hfollows : FollowsFrames rpcCrc seqNo dec future pad payloads) (hlen : 12 ≤ dec.length)
include hfollows hlen

theorem FollowsFrames.front_cases :
    (∃ less, pad = less + 4 ∧ front rpcCrc seqNo dec = .skip) ∨
      ∃ payload others, pad = 0 ∧ payloads = payload :: others ∧
        front rpcCrc seqNo dec =
          if dec.length < (buildRpcFrame rpcCrc seqNo payload).length then .wait
          else .frame (buildRpcFrame rpcCrc seqNo payload) := by
  by_cases hword : 4 ≤ pad
  · obtain ⟨less, rfl⟩ := Nat.exists_eq_add_of_le' hword
    exact Or.inl ⟨less, rfl, front_of_padding rpcCrc hlen hfollows.text⟩
  · right
    have htext := hfollows.text
    cases payloads with
    | nil =>
      have hlength := congrArg length htext
      simp only [length_append, length_padBytes] at hlength
      have hnone : (payloadStream rpcCrc seqNo []).length = 0 := rfl
      omega
    | cons payload others =>
      have hpad : pad = 0 := by
        have hmod := hfollows.aligned (cons_ne_nil _ _)
        omega
      have hshort := hfollows.short payload mem_cons_self
      rw [← length_buildRpcFrame rpcCrc seqNo] at hshort
      rw [hpad, payloadStream_cons] at htext
      exact ⟨payload, others, hpad, rfl, front_of_frame rpcCrc hshort htext hfollows.seq⟩

theorem FollowsFrames.front_sound :
    front rpcCrc seqNo dec ≠ .reset ∧ ∀ error, front rpcCrc seqNo dec ≠ .failed error := by
  rcases hfollows.front_cases rpcCrc hlen with ⟨less, -, hfront⟩ | ⟨payload, others, -, -, hfront⟩
  · rw [hfront]
    exact ⟨nofun, nofun⟩
  · rw [hfront]
    split
    · exact ⟨nofun, nofun⟩
    · exact ⟨nofun, nofun⟩

end

theorem FollowsFrames.skip {less : ℕ}
    (hfollows : FollowsFrames rpcCrc seqNo dec future (less + 4) payloads)
    (hlen : 12 ≤ dec.length) : FollowsFrames rpcCrc seqNo (dec.drop 4) future less payloads := by
  refine ⟨?_, fun hsome => ?_, hfollows.seq, hfollows.short⟩
  · have htext := hfollows.text
    rw [padBytes_add_four, append_assoc] at htext
    exact drop_of_append_eq (by omega) htext rfl
  · have haligned := hfollows.aligned hsome
    omega

theorem FollowsFrames.more {piece : List Byte} {pieces : List (List Byte)}
    (hfollows : FollowsFrames rpcCrc seqNo dec (piece :: pieces).flatten pad payloads) :
    FollowsFrames rpcCrc seqNo (dec ++ piece) pieces.flatten pad payloads := by
  refine ⟨?_, hfollows.aligned, hfollows.seq, hfollows.short⟩
  rw [← hfollows.text, flatten_cons, append_assoc]

theorem FollowsFrames.behind
    (hfollows : FollowsFrames rpcCrc seqNo dec future 0 (payload :: payloads))
    (hlen : (buildRpcFrame rpcCrc seqNo payload).length ≤ dec.length) :
    dec.drop (buildRpcFrame rpcCrc seqNo payload).length ++ future =
      padBytes (padLen (buildRpcFrame rpcCrc seqNo payload).length) ++
        payloadStream rpcCrc (nextSeq seqNo) payloads := by
  have hnone : padBytes 0 = [] := rfl
  have htext := hfollows.text
  rw [payloadStream_cons, hnone, nil_append] at htext
  exact drop_of_append_eq hlen htext rfl

/-- With the rest of the stream there, the parser does not wait. -/
theorem FollowsFrames.front_complete
    (hfollows : FollowsFrames rpcCrc seqNo dec [] pad (payload :: payloads)) :
    front rpcCrc seqNo dec ≠ .wait := by
  have htext := hfollows.text
  rw [append_nil] at htext
  have hlength : (buildRpcFrame rpcCrc seqNo payload).length ≤ dec.length := by
    rw [htext, payloadStream_cons]
    simp only [length_append]
    omega
  have hlong := length_buildRpcFrame rpcCrc seqNo payload
  rcases hfollows.front_cases rpcCrc (by omega) with
    ⟨less, -, hfront⟩ | ⟨other, rest, -, hpayloads, hfront⟩
  · rw [hfront]
    exact nofun
  · cases hpayloads
    rw [hfront, if_neg (by omega)]
    exact nofun

/-- The first frame that comes out is the first of the stream, and the rest comes out of
what is behind it. -/
theorem Reads.first_frame {pieces frames : List (List Byte)}
    (hreads : Reads rpcCrc seqNo dec pieces frames) :
    FollowsFrames rpcCrc seqNo dec pieces.flatten pad payloads →
    match payloads with
    | [] => frames = []
    | payload :: payloads =>
      ∃ (dec' : List Byte) (pieces' frames' : List (List Byte)),
        frames = buildRpcFrame rpcCrc seqNo payload :: frames' ∧
          Reads rpcCrc (nextSeq seqNo) dec' pieces' frames' ∧ dec' ++ pieces'.flatten =
            padBytes (padLen (buildRpcFrame rpcCrc seqNo payload).length) ++
              payloadStream rpcCrc (nextSeq seqNo) payloads := by
  intro hfollows
  induction hreads generalizing pad with
  | idle hfront =>
    cases payloads with
    | nil => rfl
    | cons payload payloads => exact absurd hfront (hfollows.front_complete rpcCrc)
  | more hfront hrest ih => exact ih (hfollows.more rpcCrc)
  | @skip seqNo dec pieces frames hfront hrest ih =>
    have hlen := front_ready rpcCrc hfront nofun
    rcases hfollows.front_cases rpcCrc hlen with ⟨less, rfl, -⟩ | ⟨payload, others, -, -, hframe⟩
    · exact ih (hfollows.skip rpcCrc hlen)
    · rw [hfront] at hframe
      split at hframe <;> cases hframe
  | reset hfront hrest ih =>
    have hlen := front_ready rpcCrc hfront nofun
    exact absurd hfront (hfollows.front_sound rpcCrc hlen).1
  | failed hfront =>
    have hlen := front_ready rpcCrc hfront nofun
    exact absurd hfront ((hfollows.front_sound rpcCrc hlen).2 _)
  | @frame seqNo dec bytes pieces frames hfront hrest ih =>
    obtain ⟨hlen, -, -⟩ := front_frame rpcCrc hfront
    rcases hfollows.front_cases rpcCrc hlen with
      ⟨less, -, hskip⟩ | ⟨payload, others, rfl, rfl, hframe⟩
    · rw [hfront] at hskip
      cases hskip
    · rw [hfront] at hframe
      split at hframe
      · cases hframe
      · next hfull =>
        cases hframe
        exact ⟨_, pieces, frames, rfl, hrest, hfollows.behind rpcCrc (Nat.not_lt.mp hfull)⟩

theorem mem_dropLast_cons {α : Type} {first : α} {others : List α}
    (hsome : others ≠ []) (good : α → Prop) :
    (∀ other ∈ (first :: others).dropLast, good other) ↔
      good first ∧ ∀ other ∈ others.dropLast, good other := by
  rw [dropLast_cons_of_ne_nil hsome, forall_mem_cons]

theorem padLen_buildRpcFrame_mod (seqNo : ℕ) (payload : List Byte) :
    padLen (buildRpcFrame rpcCrc seqNo payload).length % 4 = 0 ↔ payload.length % 4 = 0 := by
  rw [padLen_mod_four, length_buildRpcFrame]
  omega

theorem Reads.payloadFrames_of_words {pieces frames : List (List Byte)}
    (hreads : Reads rpcCrc seqNo dec pieces frames)
    (hfollows : FollowsFrames rpcCrc seqNo dec pieces.flatten pad payloads)
    (hwords : ∀ payload ∈ payloads.dropLast, payload.length % 4 = 0) :
    frames = payloadFrames rpcCrc seqNo payloads := by
  induction payloads generalizing seqNo dec pieces frames pad with
  | nil => exact hreads.first_frame rpcCrc hfollows
  | cons payload payloads ih =>
    obtain ⟨dec', pieces', frames', rfl, hrest, htext⟩ := hreads.first_frame rpcCrc hfollows
    have hshort : ∀ other ∈ payloads, 4 + 4 + other.length + 4 ≤ 2 ^ 24 :=
      fun other hother => hfollows.short other (mem_cons_of_mem _ hother)
    congr 1
    by_cases hlast : payloads = []
    · subst hlast
      exact ih hrest ⟨htext, fun hsome => absurd rfl hsome, nextSeq_lt seqNo, nofun⟩ nofun
    · rw [mem_dropLast_cons hlast] at hwords
      have hpad := (padLen_buildRpcFrame_mod rpcCrc seqNo payload).mpr hwords.1
      exact ih hrest ⟨htext, fun _ => hpad, nextSeq_lt seqNo, hshort⟩ hwords.2

theorem framesFrom_eq (seqNo : ℕ) (commands : List ProxyReqCommand) :
    framesFrom rpcCrc seqNo commands =
      payloadFrames rpcCrc seqNo (commands.map commandPayload) := by
  induction commands generalizing seqNo with
  | nil => rfl
  | cons command commands ih =>
    rw [framesFrom, map_cons, payloadFrames, ih, commandFrame_eq]

theorem plainStream_eq (seqNo : ℕ) (commands : List ProxyReqCommand) :
    plainStream rpcCrc seqNo commands =
      payloadStream rpcCrc seqNo (commands.map commandPayload) := by
  rw [payloadStream, ← framesFrom_eq, plainStream, paddedFrames, textOf, flatMap_map]
  rfl

/-- The decrypted bytes and those still to come are the rest of a padding and a
stream of requests that starts on a word boundary. -/
structure Follows (seqNo : ℕ) (dec future : List Byte) (pad : ℕ)
    (commands : List ProxyReqCommand) : Prop where
  text : dec ++ future = padBytes pad ++ plainStream rpcCrc seqNo commands
  aligned : commands ≠ [] → pad % 4 = 0
  seq : seqNo < 2 ^ 32
  short : ∀ command ∈ commands, 4 + 4 + commandPayloadLen command + 4 ≤ 2 ^ 24

variable {commands : List ProxyReqCommand}

theorem Follows.frames (hfollows : Follows rpcCrc seqNo dec future pad commands) :
    FollowsFrames rpcCrc seqNo dec future pad (commands.map commandPayload) := by
  refine ⟨?_, fun hsome => hfollows.aligned fun hnil => hsome (by rw [hnil]; rfl), hfollows.seq, ?_⟩
  · rw [← plainStream_eq, hfollows.text]
  · intro payload hpayload
    obtain ⟨command, hcommand, rfl⟩ := mem_map.mp hpayload
    rw [commandPayload, length_proxyReqPayload]
    exact hfollows.short command hcommand

theorem length_commandPayload_mod (command : ProxyReqCommand) :
    (commandPayload command).length % 4 = command.payload.length % 4 := by
  have hpayload := proxyReqPayloadLen_mod command.payload.length
    (command.proxyTag.map Subtype.val) command.protoFlags
  rw [commandPayload, length_proxyReqPayload]
  omega

section

variable {pieces frames : List (List Byte)} (hreads : Reads rpcCrc seqNo dec pieces frames)
include hreads

theorem Reads.not_framesFrom (hpad : pad % 4 ≠ 0)
    (htext : dec ++ pieces.flatten = padBytes pad ++ plainStream rpcCrc seqNo commands)
    (hsome : commands ≠ []) : frames ≠ framesFrom rpcCrc seqNo commands := by
  intro hframes
  have havoid := hreads.avoiding rpcCrc hpad htext
  rw [hframes, ← map_fst_paddedFrames] at havoid
  have hpadded : paddedFrames rpcCrc seqNo commands ≠ [] := by
    obtain ⟨command, others, rfl⟩ := exists_cons_of_ne_nil hsome
    exact cons_ne_nil _ _
  have hfiller : ∀ byte ∈ padBytes pad, IsPadByte byte := fun byte => isPadByte_of_mem
  have hnever := not_factorsAvoiding (paddedFrames_marked rpcCrc seqNo commands) hpadded hfiller
  rw [length_padBytes] at hnever
  exact hnever havoid

/-- The reader gets the frames of the stream exactly if every request but the
last fills whole words. -/
theorem Reads.framesFrom_iff (hfollows : Follows rpcCrc seqNo dec pieces.flatten pad commands) :
    frames = framesFrom rpcCrc seqNo commands ↔
      ∀ command ∈ commands.dropLast, command.payload.length % 4 = 0 := by
  induction commands generalizing seqNo dec pieces frames pad with
  | nil => exact iff_of_true (hreads.first_frame rpcCrc (hfollows.frames rpcCrc)) nofun
  | cons command commands ih =>
    obtain ⟨dec', pieces', frames', rfl, hrest, hbehind⟩ :=
      hreads.first_frame rpcCrc (hfollows.frames rpcCrc)
    have htext : dec' ++ pieces'.flatten =
        padBytes (padLen (buildRpcFrame rpcCrc seqNo (commandPayload command)).length) ++
          plainStream rpcCrc (nextSeq seqNo) commands := by
      rw [plainStream_eq]
      exact hbehind
    have hshort : ∀ other ∈ commands, 4 + 4 + commandPayloadLen other + 4 ≤ 2 ^ 24 :=
      fun other hother => hfollows.short other (mem_cons_of_mem _ hother)
    rw [framesFrom, commandFrame_eq, cons.injEq, eq_self_iff_true, true_and]
    by_cases hlast : commands = []
    · subst hlast
      exact ih hrest ⟨htext, fun hsome => absurd rfl hsome, nextSeq_lt seqNo, nofun⟩
    · rw [mem_dropLast_cons hlast]
      have hpad := padLen_buildRpcFrame_mod rpcCrc seqNo (commandPayload command)
      rw [length_commandPayload_mod] at hpad
      by_cases hwords : command.payload.length % 4 = 0
      · rw [ih hrest ⟨htext, fun _ => hpad.mpr hwords, nextSeq_lt seqNo, hshort⟩]
        exact ⟨fun hothers => ⟨hwords, hothers⟩, And.right⟩
      · constructor
        · intro hframes
          exact absurd hframes (hrest.not_framesFrom rpcCrc (mt hpad.mp hwords) htext hlast)
        · intro hall
          exact absurd hall.1 hwords

end

end Frames

section Connection

variable (rpcCrc : Checksum)

theorem exists_blocks_of_mod {bytes : List Byte} (hbytes : bytes.length % 16 = 0) :
    ∃ blocks, bytes = ofBlocks blocks := by
  obtain ⟨blocks, rest, hsplit, hrest⟩ := exists_blocks bytes
  rw [hbytes] at hrest
  rw [eq_nil_of_length_eq_zero hrest, append_nil] at hsplit
  exact ⟨blocks, hsplit⟩

theorem length_padded_mod (frame : List Byte) :
    (frame ++ padBytes (padLen frame.length)).length % 16 = 0 := by
  rw [length_append, length_padBytes, padLen]
  omega

/-- The writer encrypts the plain stream of all requests as one chain. -/
theorem sendAll_spec (writer : RpcWriter) (commands : List ProxyReqCommand) :
    ∃ blocks, plainStream rpcCrc writer.seqNo commands = ofBlocks blocks ∧
      sendAll rpcCrc writer commands =
        .ok (ofBlocks (writer.cipher.chained.encryptBlocks writer.iv blocks)) := by
  induction commands generalizing writer with
  | nil => exact ⟨[], rfl, rfl⟩
  | cons command commands ih =>
    obtain ⟨first, hfirst⟩ :=
      exists_blocks_of_mod (length_padded_mod (commandFrame rpcCrc writer.seqNo command))
    obtain ⟨later, hlater, hsent⟩ :=
      ih { writer with
        seqNo := nextSeq writer.seqNo
        iv := carryIv writer.iv (ofBlocks (writer.cipher.chained.encryptBlocks writer.iv first)) }
    refine ⟨first ++ later, ?_, ?_⟩
    · rw [plainStream_cons, ofBlocks_append, ← hfirst, ← hlater, append_assoc]
    · rw [sendAll, sendProxyReq, encryptAndWriteFrame]
      rw [hfirst, encryptInPlace_ofBlocks]
      dsimp only at hsent ⊢
      rw [hsent, carryIv_ofBlocks, BlockChaining.Cipher.encryptBlocks_append, ofBlocks_append]

theorem ofBlocks_split {first sealed : List Block} {rest : List Byte}
    (htext : ofBlocks first ++ rest = ofBlocks sealed) :
    ∃ later, sealed = first ++ later ∧ rest = ofBlocks later := by
  have hlength := congrArg length htext
  rw [length_append, length_ofBlocks, length_ofBlocks] at hlength
  have hmod : rest.length % 16 = 0 := by omega
  obtain ⟨later, rfl⟩ := exists_blocks_of_mod hmod
  refine ⟨later, ?_, rfl⟩
  rw [← ofBlocks_append] at htext
  have hblocks := congrArg toBlocks htext
  have hleft := toBlocks_ofBlocks (first ++ later) [] (by decide)
  have hright := toBlocks_ofBlocks sealed [] (by decide)
  rw [append_nil] at hleft hright
  rw [hleft, hright] at hblocks
  exact hblocks.symm

theorem exists_read_blocks {raw chunk future : List Byte} {sealed : List Block}
    (htext : raw ++ (chunk ++ future) = ofBlocks sealed) :
    ∃ (first later : List Block) (rest : List Byte), sealed = first ++ later ∧
      raw ++ chunk = ofBlocks first ++ rest ∧ rest.length < 16 ∧
      (raw ++ chunk).length / 16 * 16 = (ofBlocks first).length ∧
      rest ++ future = ofBlocks later := by
  obtain ⟨first, rest, hsplit, hrest⟩ := exists_blocks (raw ++ chunk)
  have hlater : ofBlocks first ++ (rest ++ future) = ofBlocks sealed := by
    rw [← append_assoc, ← hsplit, ← htext, append_assoc]
  obtain ⟨later, rfl, hremains⟩ := ofBlocks_split hlater
  refine ⟨first, later, rest, rfl, hsplit, by omega, ?_, hremains⟩
  rw [hsplit, length_append, length_ofBlocks]
  omega

/-- Every way of cutting the encrypted stream into reads is a run of the frame
loop over the decrypted stream. -/
theorem readAll_reads (reader : RpcReader) (chunks : List (List Byte))
    (sealed : List Block) (hchunks : [] ∉ chunks) (hraw : reader.raw.length < 16)
    (hidle : front rpcCrc reader.expectedSeq reader.dec = .wait)
    (htext : reader.raw ++ chunks.flatten = ofBlocks sealed) :
    ∃ pieces : List (List Byte),
      pieces.flatten = ofBlocks (reader.cipher.chained.decryptBlocks reader.div sealed) ∧
        Reads rpcCrc reader.expectedSeq reader.dec pieces (readAll rpcCrc reader chunks) := by
  induction chunks generalizing reader sealed with
  | nil =>
    have hnone : sealed = [] := by
      have hlength := congrArg length htext
      rw [flatten_nil, append_nil, length_ofBlocks] at hlength
      exact eq_nil_of_length_eq_zero (by omega)
    subst hnone
    exact ⟨[], rfl, .idle hidle⟩
  | cons chunk chunks ih =>
    rw [mem_cons, not_or] at hchunks
    obtain ⟨first, later, rest, rfl, hsplit, hshort, hcount, hremains⟩ := exists_read_blocks htext
    rw [BlockChaining.Cipher.decryptBlocks_append, ofBlocks_append, readAll, onRead,
      if_neg (Ne.symm hchunks.1)]
    dsimp only
    rw [hcount, hsplit, take_left, drop_left, decryptInPlace_ofBlocks]
    dsimp only
    generalize hplain : ofBlocks (reader.cipher.chained.decryptBlocks reader.div first) = plain
    obtain ⟨hfails, hwaits⟩ := @drain_reads rpcCrc reader.expectedSeq (reader.dec ++ plain)
      ((reader.dec ++ plain).length + 1) (Nat.lt_succ_self _)
    generalize drain rpcCrc ((reader.dec ++ plain).length + 1) reader.expectedSeq
      (reader.dec ++ plain) = drained at hfails hwaits
    cases herror : drained.error with
    | some error =>
      refine ⟨[plain, ofBlocks (reader.cipher.chained.decryptBlocks
        (BlockChaining.Cipher.chainingAfter reader.div first) later)], ?_, ?_⟩
      · simp only [flatten_cons, flatten_nil, append_nil]
      · exact .more hidle (hfails error herror _)
    | none =>
      obtain ⟨hwait, hreads⟩ := hwaits herror
      obtain ⟨pieces, hpieces, hrun⟩ := ih
        { reader with
          div := carryIv reader.div (ofBlocks first)
          raw := rest
          dec := drained.dec
          expectedSeq := drained.expectedSeq } later hchunks.2 hshort hwait hremains
      refine ⟨plain :: pieces, ?_, .more hidle (hreads pieces _ hrun)⟩
      rw [flatten_cons, hpieces, carryIv_ofBlocks]

def RpcReader.start (cipher : BlockCipher) (iv : Block) : RpcReader := ⟨cipher, iv, [], [], 0⟩

def RpcWriter.start (cipher : BlockCipher) (iv : Block) : RpcWriter := ⟨cipher, iv, 0⟩

/-- Every request reaches the other side, for any cutting of the stream into
reads, exactly if all packets but the last consist of whole words. -/
theorem readAll_sendAll_iff (cipher : BlockCipher) (iv : Block) (commands : List ProxyReqCommand)
    (hshort : ∀ command ∈ commands, 4 + 4 + commandPayloadLen command + 4 ≤ 2 ^ 24) :
    ∃ written, sendAll rpcCrc (.start cipher iv) commands = .ok written ∧
      ∀ chunks : List (List Byte), [] ∉ chunks → chunks.flatten = written →
        (readAll rpcCrc (.start cipher iv) chunks = framesFrom rpcCrc 0 commands ↔
          ∀ command ∈ commands.dropLast, command.payload.length % 4 = 0) := by
  obtain ⟨blocks, hplain, hsent⟩ := sendAll_spec rpcCrc (.start cipher iv) commands
  refine ⟨_, hsent, ?_⟩
  intro chunks hchunks hflatten
  obtain ⟨pieces, hpieces, hreads⟩ :=
    readAll_reads rpcCrc (.start cipher iv) chunks _ hchunks (Nat.zero_lt_succ _) rfl hflatten
  have hclear : pieces.flatten = plainStream rpcCrc 0 commands := by
    rw [hpieces]
    exact (congrArg ofBlocks (BlockChaining.Cipher.decryptBlocks_encryptBlocks _ _ _)).trans
      hplain.symm
  have hfollows : Follows rpcCrc 0 [] pieces.flatten 0 commands := by
    refine ⟨?_, fun _ => rfl, by decide, hshort⟩
    rw [hclear]
    rfl
  exact hreads.framesFrom_iff rpcCrc hfollows

end Connection

/-! ## Two clients on one connection -/

/-- The shift register of CRC-32, fed bit by bit. -/
def crc32Shift : List Bool → ℕ → ℕ
  | [], crc => crc
  | bit :: bits, crc =>
    if crc.testBit 0 = bit then crc32Shift bits (crc >>> 1)
    else crc32Shift bits ((crc >>> 1) ^^^ 0xedb88320)

def bitsOf (data : List Byte) : List Bool :=
  data.flatMap fun byte => (List.range 8).map byte.toNat.testBit

/-- The checksum of the default mode. -/
def crc32 : Checksum := fun data =>
  UInt32.ofNat (crc32Shift (bitsOf data) 0xffffffff ^^^ 0xffffffff)

example : crc32 [0x31, 0x32, 0x33, 0x34, 0x35, 0x36, 0x37, 0x38, 0x39] = 0xcbf43926 := by
  decide +kernel

/-- A block function that reverses the block. -/
def mirrorCipher : BlockCipher where
  encryptBlock block := ⟨block.val.reverse, by simp [block.property]⟩
  decryptBlock block := ⟨block.val.reverse, by simp [block.property]⟩
  decrypt_encrypt block := Subtype.ext (List.reverse_reverse block.val)

def plainCommand (connId : ℕ) (payload : List Byte) : ProxyReqCommand where
  connId := connId
  clientAddr := ⟨.v4 192 0 2 1, 40000⟩
  ourAddr := ⟨.v4 198 51 100 1, 443⟩
  protoFlags := protoFlagsForTag .intermediate false
  proxyTag := none
  payload := payload

def firstVector : Block := ⟨List.replicate 16 0x5a, rfl⟩

def wordCommands : List ProxyReqCommand :=
  [plainCommand 1 [1, 2, 3, 4], plainCommand 2 [5, 6, 7]]

theorem readAll_sendAll_words :
    ∃ written, sendAll crc32 (.start mirrorCipher firstVector) wordCommands = .ok written ∧
      readAll crc32 (.start mirrorCipher firstVector) [written.take 7, written.drop 7] =
        framesFrom crc32 0 wordCommands := by
  obtain ⟨written, hsent, hread⟩ :=
    readAll_sendAll_iff crc32 mirrorCipher firstVector wordCommands (by decide)
  have hlength : (sendAll crc32 (.start mirrorCipher firstVector) wordCommands).map
      length = .ok 160 := by decide +kernel
  rw [hsent] at hlength
  have hlong : written.length = 160 := Except.ok.inj hlength
  refine ⟨written, hsent, (hread _ ?_ (by simp)).mpr (by decide)⟩
  intro hnil
  rw [mem_pair] at hnil
  rcases hnil with hfirst | hsecond
  · have hzero := congrArg length hfirst
    rw [length_nil, length_take] at hzero
    omega
  · have hzero := congrArg length hsecond
    rw [length_nil, length_drop] at hzero
    omega

def lostCommands : List ProxyReqCommand :=
  [plainCommand 1 [1, 2, 3, 4, 5], plainCommand 2 [6, 7, 8, 9]]

open ClientReader in
/-- A client of the intermediate framing sends a packet of five bytes.  Its
reader accepts it, and the request of the other client is lost: the padding
pattern is cut off, and the length word of the next frame is read one byte too
early. -/
theorem readAll_sendAll_lost :
    readFrames ⟨.intermediate, 64, ⟨true, 1000, 2000, 0, 2000⟩, 0⟩ 1 (Session.new 0)
        [.chunk 5 [0, 0, 0, 1, 2, 3, 4, 5]] = [.ok (some ([1, 2, 3, 4, 5], false))] ∧
      (sendAll crc32 (.start mirrorCipher firstVector) lostCommands).toOption.map
          (fun written => readAll crc32 (.start mirrorCipher firstVector) [written]) =
        some ((framesFrom crc32 0 lostCommands).take 1) ∧
      (framesFrom crc32 0 lostCommands).length = 2 := by
  decide +kernel

end TupoProxy.RpcCodec
