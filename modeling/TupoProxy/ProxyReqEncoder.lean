import TupoProxy.RpcCodec
import TupoProxy.WireReader

/-!
# The encoder of proxy requests in the frame buffer

The writer encodes a request straight into its frame buffer.  The length word of the frame
comes first, from a precomputed length, and the length word of the extra block is patched
in once the block is written.  Both are shown to agree with the bytes that are there, so
that the frame is the one that is built from a separate payload, and a reader recovers
every field from the payload.

The tag is written only under the flag that announces it.
-/

namespace TupoProxy.ProxyReqEncoder

open ByteWords ProxyReqWire RpcCodec WireReader List

def appendMappedAddrAndPort (b : List Byte) (addr : SocketAddr) : List Byte :=
  let b :=
    match addr.ip with
    | .v4 x y z w => b ++ ipv4ToMappedV6CCompat x y z w
    | .v6 octets => b ++ octets.val
  b ++ leBytes 4 addr.port

def appendProxyTag (b tag : List Byte) : List Byte :=
  let b := b ++ leBytes 4 tlProxyTagU32
  if tag.length < 254 then
    let b := b ++ [UInt8.ofNat tag.length]
    let b := b ++ tag
    let pad := (4 - (1 + tag.length) % 4) % 4
    b ++ List.replicate pad 0
  else
    let b := b ++ [0xfe]
    let lenBytes := leBytes 4 tag.length
    let b := b ++ lenBytes.take 3
    let b := b ++ tag
    let pad := (4 - tag.length % 4) % 4
    b ++ List.replicate pad 0

def appendExtra (b : List Byte) (proxyTag : Option (List Byte)) : List Byte :=
  let extraStart := b.length
  let b := b ++ leBytes 4 0
  let b :=
    match proxyTag with
    | some tag => appendProxyTag b tag
    | none => b
  let extraBytes := (b.length - extraStart - 4) % 2 ^ 32
  copyFromSlice b extraStart (leBytes 4 extraBytes)

def appendProxyReqPayloadInto (b : List Byte) (connId : ℕ) (clientAddr ourAddr : SocketAddr)
    (data : List Byte) (proxyTag : Option (List Byte)) (protoFlags : ℕ) : List Byte :=
  let b := b ++ leBytes 4 rpcProxyReqU32
  let b := b ++ leBytes 4 protoFlags
  let b := b ++ leBytes 8 connId
  let b := appendMappedAddrAndPort b clientAddr
  let b := appendMappedAddrAndPort b ourAddr
  let b := if protoFlags &&& rpcFlagHasAdTag ≠ 0 then appendExtra b proxyTag else b
  b ++ data

def buildProxyReqPayload (connId : ℕ) (clientAddr ourAddr : SocketAddr) (data : List Byte)
    (proxyTag : Option (List Byte)) (protoFlags : ℕ) : List Byte :=
  appendProxyReqPayloadInto [] connId clientAddr ourAddr data proxyTag protoFlags

section Writer

variable (rpcCrc : Checksum)

def send (writer : RpcWriter) (payload : List Byte) :
    Except AesCbc.CryptoError (List Byte × RpcWriter) :=
  let frame := buildRpcFrame rpcCrc writer.seqNo payload
  encryptAndWriteFrame { writer with seqNo := nextSeq writer.seqNo } frame

def sendProxyReq (writer : RpcWriter) (connId : ℕ) (clientAddr ourAddr : SocketAddr)
    (data : List Byte) (proxyTag : Option (List Byte)) (protoFlags : ℕ) :
    Except AesCbc.CryptoError (List Byte × RpcWriter) :=
  let payloadLen := proxyReqPayloadLen data.length proxyTag protoFlags
  let totalLen := 4 + 4 + payloadLen + 4
  let frameBuf := leBytes 4 totalLen
  let frameBuf := frameBuf ++ leBytes 4 writer.seqNo
  let frameBuf :=
    appendProxyReqPayloadInto frameBuf connId clientAddr ourAddr data proxyTag protoFlags
  let c := rpcCrc frameBuf
  let frameBuf := frameBuf ++ leBytes 4 c.toNat
  encryptAndWriteFrame { writer with seqNo := nextSeq writer.seqNo } frameBuf

end Writer

/-! ## What is appended -/

variable (b : List Byte)

theorem appendMappedAddrAndPort_eq (addr : SocketAddr) :
    appendMappedAddrAndPort b addr = b ++ mappedAddrAndPort addr := by
  unfold appendMappedAddrAndPort mappedAddrAndPort
  cases addr.ip with
  | v4 | v6 => exact append_assoc _ _ _

theorem appendProxyTag_eq (b tag : List Byte) : appendProxyTag b tag = b ++ proxyTagBytes tag := by
  have hlen : (leBytes 4 tag.length).take 3 = leBytes 3 tag.length := rfl
  unfold appendProxyTag proxyTagBytes
  dsimp only
  split
  · simp only [append_assoc, cons_append, nil_append]
  · rw [hlen]
    simp only [append_assoc, cons_append, nil_append]

theorem appendExtra_eq (proxyTag : Option (List Byte)) :
    appendExtra b proxyTag = b ++ extraBytes proxyTag := by
  have hpatched : ∀ extra : List Byte,
      copyFromSlice (b ++ leBytes 4 0 ++ extra) b.length
        (leBytes 4 (((b ++ leBytes 4 0 ++ extra).length - b.length - 4) % 2 ^ 32)) =
      b ++ (leBytes 4 extra.length ++ extra) := by
    intro extra
    have hcount : (b ++ leBytes 4 0 ++ extra).length - b.length - 4 = extra.length := by
      simp only [length_append, length_leBytes]
      omega
    have hword : leBytes 4 (extra.length % 2 ^ 32) = leBytes 4 extra.length :=
      leBytes_mod 4 extra.length
    rw [hcount, hword, append_assoc]
    exact copyFromSlice_append b _ _ extra rfl
  unfold appendExtra extraBytes
  cases proxyTag with
  | none =>
    have hnone := hpatched []
    rw [append_nil] at hnone
    exact hnone
  | some tag =>
    dsimp only
    rw [appendProxyTag_eq]
    exact hpatched (proxyTagBytes tag)

variable (connId : ℕ) (clientAddr ourAddr : SocketAddr) (data : List Byte)
  (proxyTag : Option (List Byte)) (protoFlags : ℕ)

theorem appendProxyReqPayloadInto_eq :
    appendProxyReqPayloadInto b connId clientAddr ourAddr data proxyTag protoFlags =
      b ++ proxyReqPayload connId clientAddr ourAddr data proxyTag protoFlags := by
  unfold appendProxyReqPayloadInto proxyReqPayload
  simp only [appendMappedAddrAndPort_eq, appendExtra_eq]
  split <;> simp only [append_assoc, nil_append]

variable (rpcCrc : Checksum)

/-- The writer of the commands is the writer here, at the commands' tags. -/
theorem sendProxyReq_command (writer : RpcWriter) (command : ProxyReqCommand) :
    RpcCodec.sendProxyReq rpcCrc writer command =
      sendProxyReq rpcCrc writer command.connId command.clientAddr command.ourAddr
        command.payload (command.proxyTag.map Subtype.val) command.protoFlags := by
  unfold RpcCodec.sendProxyReq sendProxyReq commandFrame sealFrame commandPayload commandPayloadLen
  dsimp only
  rw [appendProxyReqPayloadInto_eq]

theorem sendProxyReq_eq_send (writer : RpcWriter) :
    sendProxyReq rpcCrc writer connId clientAddr ourAddr data proxyTag protoFlags =
      send rpcCrc writer
        (buildProxyReqPayload connId clientAddr ourAddr data proxyTag protoFlags) := by
  unfold sendProxyReq send buildProxyReqPayload buildRpcFrame sealFrame
  simp only [appendProxyReqPayloadInto_eq, nil_append, length_proxyReqPayload]

def mappedIp : IpAddr → List Byte
  | .v4 x y z w => ipv4ToMappedV6CCompat x y z w
  | .v6 octets => octets.val

structure ProxyReqHeader where
  protoFlags : ℕ
  connId : ℕ
  clientIp : List Byte
  clientPort : ℕ
  ourIp : List Byte
  ourPort : ℕ
  proxyTag : Option (List Byte)
  deriving DecidableEq

def readNumber (number : ℕ) : Reader Unit := do
  let found ← leWord 4
  StateT.lift (if found = number then some () else none)

def readPadded (count pad : ℕ) : Reader (List Byte) := do
  let field ← bytes count
  let _ ← bytes pad
  return field

/-- The body of a TL string behind its first byte. -/
def readTlString (first : Byte) : Reader (List Byte) :=
  if first.toNat < 254 then readPadded first.toNat ((4 - (1 + first.toNat) % 4) % 4)
  else do
    let count ← leWord 3
    readPadded count ((4 - count % 4) % 4)

def readProxyTag : Reader (List Byte) := do
  readNumber tlProxyTagU32
  let first ← byte
  readTlString first

def tagOfExtra (extra : List Byte) : Option (Option (List Byte)) :=
  if extra = [] then some none else (whole readProxyTag extra).map some

def readExtra : Reader (Option (List Byte)) := do
  let count ← leWord 4
  let extra ← bytes count
  StateT.lift (tagOfExtra extra)

def readCarriedTag (protoFlags : ℕ) : Reader (Option (List Byte)) :=
  if protoFlags &&& rpcFlagHasAdTag ≠ 0 then readExtra else pure none

def readAddr : Reader (List Byte × ℕ) := do
  let ip ← bytes 16
  let port ← leWord 4
  return (ip, port)

def readHeader : Reader ProxyReqHeader := do
  readNumber rpcProxyReqU32
  let protoFlags ← leWord 4
  let connId ← leWord 8
  let clientAddr ← readAddr
  let ourAddr ← readAddr
  let proxyTag ← readCarriedTag protoFlags
  return ⟨protoFlags, connId, clientAddr.1, clientAddr.2, ourAddr.1, ourAddr.2, proxyTag⟩

def decodeProxyReq (payload : List Byte) : Option (ProxyReqHeader × List Byte) :=
  readHeader payload

theorem readNumber_parses {number : ℕ} (hnumber : number < 256 ^ 4) :
    Parses (readNumber number) (leBytes 4 number) () := by
  have hchecked : Parses (StateT.lift (if number = number then some () else none)) [] () := by
    rw [if_pos rfl]
    exact fun _ => rfl
  exact (leWord_parses hnumber).bind hchecked

theorem readPadded_parses {count pad : ℕ} {field filler : List Byte}
    (hfield : field.length = count) (hfiller : filler.length = pad) :
    Parses (readPadded count pad) (field ++ filler) field :=
  (bytes_parses hfield).bind ((bytes_parses hfiller).map (fun _ => field) rfl)

theorem readProxyTag_parses {tag : List Byte} (htag : tag.length < 2 ^ 24) :
    Parses readProxyTag (proxyTagBytes tag) tag := by
  apply (readNumber_parses (by decide)).bind
  by_cases hshort : tag.length < 254
  · rw [if_pos hshort]
    have hfirst : (UInt8.ofNat tag.length).toNat = tag.length := by
      rw [UInt8.toNat_ofNat']
      omega
    have hbody : Parses (readTlString (UInt8.ofNat tag.length))
        (tag ++ replicate ((4 - (1 + tag.length) % 4) % 4) 0) tag := by
      unfold readTlString
      rw [hfirst, if_pos hshort]
      exact readPadded_parses rfl length_replicate
    exact (byte_parses _).bind hbody
  · rw [if_neg hshort]
    have hbody : Parses (readTlString 0xfe)
        (leBytes 3 tag.length ++ (tag ++ replicate ((4 - tag.length % 4) % 4) 0)) tag := by
      unfold readTlString
      exact (leWord_parses htag).bind (readPadded_parses rfl length_replicate)
    exact (byte_parses 0xfe).bind hbody

variable {proxyTag : Option (List Byte)}

section

variable (htag : ∀ tag ∈ proxyTag, tag.length < 2 ^ 24)
include htag

theorem tagOfExtra_eq : tagOfExtra ((proxyTag.map proxyTagBytes).getD []) = some proxyTag := by
  cases proxyTag with
  | none => rfl
  | some tag =>
    have hwritten : proxyTagBytes tag ≠ [] := by
      intro hnone
      have hlength := congrArg length hnone
      rw [length_proxyTagBytes, proxyTagWireLen] at hlength
      split at hlength <;> simp at hlength
    unfold tagOfExtra
    rw [Option.map_some, Option.getD_some, if_neg hwritten,
      (readProxyTag_parses (htag tag rfl)).whole]
    rfl

theorem length_extra_lt : ((proxyTag.map proxyTagBytes).getD []).length < 256 ^ 4 := by
  cases proxyTag with
  | none => decide
  | some tag =>
    have hlength := htag tag rfl
    rw [Option.map_some, Option.getD_some, length_proxyTagBytes, proxyTagWireLen]
    split <;> omega

theorem readExtra_parses : Parses readExtra (extraBytes proxyTag) proxyTag := by
  have hlifted : Parses (StateT.lift (tagOfExtra ((proxyTag.map proxyTagBytes).getD []))) []
      proxyTag := by
    rw [tagOfExtra_eq htag]
    exact fun _ => rfl
  have hlength := length_extra_lt htag
  unfold readExtra extraBytes
  generalize (proxyTag.map proxyTagBytes).getD [] = extra at hlifted hlength ⊢
  have hbody : Parses (bytes extra.length >>= fun extra => StateT.lift (tagOfExtra extra))
      (extra ++ []) proxyTag := (bytes_parses rfl).bind hlifted
  rw [append_nil] at hbody
  exact (leWord_parses hlength).bind hbody

end

theorem readAddr_parses {addr : SocketAddr} (hport : addr.port < 2 ^ 16) :
    Parses readAddr (mappedAddrAndPort addr) (mappedIp addr.ip, addr.port) := by
  have hip : (mappedIp addr.ip).length = 16 := by
    cases addr.ip with
    | v4 x y z w => rfl
    | v6 octets => exact octets.property
  have hword : addr.port < 256 ^ 4 := hport.trans (by decide)
  have hwritten : mappedAddrAndPort addr = mappedIp addr.ip ++ leBytes 4 addr.port := by
    unfold mappedAddrAndPort mappedIp
    cases addr.ip <;> rfl
  exact (bytes_parses hip).bind
    ((leWord_parses hword).map (fun port => (mappedIp addr.ip, port)) rfl)

/-- The tag that a payload carries: none without the flag that announces it. -/
def carriedTag (protoFlags : ℕ) (proxyTag : Option (List Byte)) : Option (List Byte) :=
  if protoFlags &&& rpcFlagHasAdTag ≠ 0 then proxyTag else none

theorem decode_proxyReqPayload {connId protoFlags : ℕ} {clientAddr ourAddr : SocketAddr}
    (hconn : connId < 2 ^ 64) (hflags : protoFlags < 2 ^ 32)
    (hclient : clientAddr.port < 2 ^ 16) (hour : ourAddr.port < 2 ^ 16)
    (htag : ∀ tag ∈ proxyTag, tag.length < 2 ^ 24) (data : List Byte) :
    decodeProxyReq (proxyReqPayload connId clientAddr ourAddr data proxyTag protoFlags) =
      some (⟨protoFlags, connId, mappedIp clientAddr.ip, clientAddr.port, mappedIp ourAddr.ip,
        ourAddr.port, carriedTag protoFlags proxyTag⟩, data) := by
  have hextra : Parses (readCarriedTag protoFlags)
      (if protoFlags &&& rpcFlagHasAdTag ≠ 0 then extraBytes proxyTag else [])
      (carriedTag protoFlags proxyTag) := by
    unfold carriedTag readCarriedTag
    split
    · exact readExtra_parses htag
    · exact .pure none
  have hheader : Parses readHeader
      (leBytes 4 rpcProxyReqU32 ++ (leBytes 4 protoFlags ++ (leBytes 8 connId ++
        (mappedAddrAndPort clientAddr ++ (mappedAddrAndPort ourAddr ++
          if protoFlags &&& rpcFlagHasAdTag ≠ 0 then extraBytes proxyTag else [])))))
      ⟨protoFlags, connId, mappedIp clientAddr.ip, clientAddr.port, mappedIp ourAddr.ip,
        ourAddr.port, carriedTag protoFlags proxyTag⟩ := by
    refine (readNumber_parses (by decide)).bind ?_
    refine (leWord_parses hflags).bind ?_
    refine (leWord_parses hconn).bind ?_
    refine (readAddr_parses hclient).bind ?_
    refine (readAddr_parses hour).bind ?_
    exact hextra.map _ rfl
  have hread := hheader data
  simp only [append_assoc] at hread
  unfold decodeProxyReq proxyReqPayload
  simp only [append_assoc]
  exact hread

/-- The precomputed length is the number of appended bytes, the frame is the one that is
sent for the separately built payload, and the payload determines its fields.  A tag is
part of the payload only under its flag. -/
theorem sendProxyReq_reference (rpcCrc : Checksum) (writer : RpcWriter)
    (connId protoFlags : ℕ) (clientAddr ourAddr : SocketAddr) (data : List Byte)
    (proxyTag : Option (List Byte)) (hconn : connId < 2 ^ 64) (hflags : protoFlags < 2 ^ 32)
    (hclient : clientAddr.port < 2 ^ 16) (hour : ourAddr.port < 2 ^ 16)
    (htag : ∀ tag ∈ proxyTag, tag.length < 2 ^ 24) :
    (∀ b, ∃ appended,
      appendProxyReqPayloadInto b connId clientAddr ourAddr data proxyTag protoFlags =
        b ++ appended ∧ appended.length = proxyReqPayloadLen data.length proxyTag protoFlags) ∧
    sendProxyReq rpcCrc writer connId clientAddr ourAddr data proxyTag protoFlags =
      send rpcCrc writer (buildProxyReqPayload connId clientAddr ourAddr data proxyTag protoFlags) ∧
    decodeProxyReq (buildProxyReqPayload connId clientAddr ourAddr data proxyTag protoFlags) =
      some (⟨protoFlags, connId, mappedIp clientAddr.ip, clientAddr.port, mappedIp ourAddr.ip,
        ourAddr.port, if protoFlags &&& rpcFlagHasAdTag ≠ 0 then proxyTag else none⟩, data) := by
  refine ⟨?_, sendProxyReq_eq_send _ _ _ _ _ _ rpcCrc writer, ?_⟩
  · intro b
    exact ⟨_, appendProxyReqPayloadInto_eq b _ _ _ _ _ _, length_proxyReqPayload _ _ _ _ _ _⟩
  · unfold buildProxyReqPayload
    rw [appendProxyReqPayloadInto_eq, nil_append]
    exact decode_proxyReqPayload hconn hflags hclient hour htag data

def sampleAddr : SocketAddr := ⟨.v4 149 154 175 50, 443⟩

theorem sendProxyReq_reference_long :
    decodeProxyReq (buildProxyReqPayload 7 sampleAddr sampleAddr [1, 2]
      (some (List.replicate 300 5)) 8) =
      some (⟨8, 7, [0, 0, 0, 0, 0, 0, 0, 0, 0, 0, 0xff, 0xff, 149, 154, 175, 50], 443,
        [0, 0, 0, 0, 0, 0, 0, 0, 0, 0, 0xff, 0xff, 149, 154, 175, 50], 443,
        some (List.replicate 300 5)⟩, [1, 2]) := by
  have htag : ∀ tag ∈ some (replicate 300 (5 : Byte)), tag.length < 2 ^ 24 := by
    intro tag hmem
    cases hmem
    rw [length_replicate]
    decide
  exact (sendProxyReq_reference (fun _ => 0) ⟨⟨id, id, fun _ => rfl⟩, ⟨replicate 16 0, rfl⟩, 0⟩
    7 8 sampleAddr sampleAddr [1, 2] (some (replicate 300 5)) (by decide) (by decide)
    (by decide) (by decide) htag).2.2

/-- Without the flag no decoder can tell whether there was a tag. -/
theorem tag_lost_without_flag :
    ¬ ∃ decodeTag : List Byte → Option (List Byte), ∀ proxyTag,
      (∀ tag ∈ proxyTag, tag.length < 2 ^ 24) →
      decodeTag (buildProxyReqPayload 7 sampleAddr sampleAddr [] proxyTag 0) = proxyTag := by
  rintro ⟨decodeTag, hdecodes⟩
  have hwith := hdecodes (some [1]) (by simp)
  have hwithout := hdecodes none (by simp)
  have hsame : buildProxyReqPayload 7 sampleAddr sampleAddr [] (some [1]) 0 =
      buildProxyReqPayload 7 sampleAddr sampleAddr [] none 0 := rfl
  rw [hsame, hwithout] at hwith
  cases hwith

end TupoProxy.ProxyReqEncoder
