import TupoProxy.AesCbc
import TupoProxy.ProxyReqWire

/-!
# RPC frames on the middle-end connection

A frame is a length word, a sequence number, a payload and a checksum.  The
writer pads every frame to a multiple of 16 bytes with the pattern
`04 00 00 00` and encrypts it in CBC mode; the vector is carried over from
frame to frame.  The reader decrypts full blocks as they arrive and cuts
frames out of the decrypted bytes, skipping words equal to four.

The checksum function of the connection is an argument.  Sequence numbers are
32-bit words.
-/

namespace TupoProxy.RpcCodec

open ByteWords AesCbc ProxyReqWire

abbrev Checksum := List Byte → UInt32

structure ProxyReqCommand where
  connId : ℕ
  clientAddr : SocketAddr
  ourAddr : SocketAddr
  protoFlags : ℕ
  proxyTag : Option { tag : List Byte // tag.length = 16 }
  payload : List Byte

structure RpcWriter where
  cipher : BlockCipher
  iv : Block
  seqNo : ℕ

def padPattern : List Byte := [0x04, 0x00, 0x00, 0x00]

def padLen (length : ℕ) : ℕ := (16 - length % 16) % 16

def padBytes (pad : ℕ) : List Byte :=
  (List.range pad).map fun i => padPattern.getD (i % 4) 0

def nextSeq (seqNo : ℕ) : ℕ := (seqNo + 1) % 2 ^ 32

section Writer

variable (rpcCrc : Checksum)

/-- Length word, sequence number and payload, closed by their checksum. -/
def sealFrame (totalLen seqNo : ℕ) (payload : List Byte) : List Byte :=
  let body := leBytes 4 totalLen ++ leBytes 4 seqNo ++ payload
  body ++ leBytes 4 (rpcCrc body).toNat

def buildRpcFrame (seqNo : ℕ) (payload : List Byte) : List Byte :=
  sealFrame rpcCrc (4 + 4 + payload.length + 4) seqNo payload

def commandPayload (command : ProxyReqCommand) : List Byte :=
  proxyReqPayload command.connId command.clientAddr command.ourAddr command.payload
    (command.proxyTag.map Subtype.val) command.protoFlags

def commandPayloadLen (command : ProxyReqCommand) : ℕ :=
  proxyReqPayloadLen command.payload.length (command.proxyTag.map Subtype.val)
    command.protoFlags

def commandFrame (seqNo : ℕ) (command : ProxyReqCommand) : List Byte :=
  sealFrame rpcCrc (4 + 4 + commandPayloadLen command + 4) seqNo (commandPayload command)

def encryptAndWriteFrame (writer : RpcWriter) (frame : List Byte) :
    Except CryptoError (List Byte × RpcWriter) :=
  let padded := frame ++ padBytes (padLen frame.length)
  match encryptInPlace writer.cipher writer.iv padded with
  | .error error => .error error
  | .ok written => .ok (written, { writer with iv := carryIv writer.iv written })

def sendProxyReq (writer : RpcWriter) (command : ProxyReqCommand) :
    Except CryptoError (List Byte × RpcWriter) :=
  let frame := commandFrame rpcCrc writer.seqNo command
  encryptAndWriteFrame { writer with seqNo := nextSeq writer.seqNo } frame

def sendAll (writer : RpcWriter) : List ProxyReqCommand → Except CryptoError (List Byte)
  | [] => .ok []
  | command :: commands =>
    match sendProxyReq rpcCrc writer command with
    | .error error => .error error
    | .ok (written, writer) =>
      match sendAll writer commands with
      | .error error => .error error
      | .ok rest => .ok (written ++ rest)

end Writer

/-! ## The reader -/

inductive RpcError where
  | crcMismatch (expected actual : ℕ)
  | seqNoMismatch (expected got : ℕ)
  | crypto (error : CryptoError)
  | closedByPeer
  deriving Repr, DecidableEq

structure RpcReader where
  cipher : BlockCipher
  div : Block
  raw : List Byte
  dec : List Byte
  expectedSeq : ℕ

/-- What one round of the frame loop finds at the front of the decrypted
bytes. -/
inductive Front where
  | wait
  | skip
  | reset
  | frame (bytes : List Byte)
  | failed (error : RpcError)
  deriving Repr, DecidableEq

section Reader

variable (rpcCrc : Checksum)

def front (expectedSeq : ℕ) (dec : List Byte) : Front :=
  if dec.length < 12 then .wait
  else
    let fl := leNat (dec.take 4)
    if fl = 4 then .skip
    else if ¬ (12 ≤ fl ∧ fl ≤ 2 ^ 24) then .reset
    else if dec.length < fl then .wait
    else
      let frame := dec.take fl
      let pe := fl - 4
      let ec := leNat (frame.drop pe)
      let actual := (rpcCrc (frame.take pe)).toNat
      if actual ≠ ec then .failed (.crcMismatch ec actual)
      else
        let seqNo := leNat ((frame.drop 4).take 4)
        if seqNo ≠ expectedSeq then .failed (.seqNoMismatch expectedSeq seqNo)
        else .frame frame

/-- The frames cut out by the frame loop, and what is left. -/
structure Drained where
  frames : List (List Byte)
  dec : List Byte
  expectedSeq : ℕ
  error : Option RpcError
  deriving Repr, DecidableEq

/-- The frame loop.  Every round but the last removes at least four bytes, so
the length of the decrypted bytes bounds the rounds. -/
def drain : ℕ → ℕ → List Byte → Drained
  | 0, expectedSeq, dec => ⟨[], dec, expectedSeq, none⟩
  | rounds + 1, expectedSeq, dec =>
    match front rpcCrc expectedSeq dec with
    | .wait => ⟨[], dec, expectedSeq, none⟩
    | .skip => drain rounds expectedSeq (dec.drop 4)
    | .reset => ⟨[], [], expectedSeq, none⟩
    | .frame bytes =>
      let rest := drain rounds (nextSeq expectedSeq) (dec.drop bytes.length)
      { rest with frames := bytes :: rest.frames }
    | .failed error => ⟨[], dec, expectedSeq, some error⟩

/-- One read of the socket: the frames it completes, and the reader afterwards
or the error that ends the loop. -/
def onRead (reader : RpcReader) (chunk : List Byte) :
    List (List Byte) × Except RpcError RpcReader :=
  if chunk = [] then ([], .error .closedByPeer)
  else
    let raw := reader.raw ++ chunk
    let blocks := raw.length / 16 * 16
    match decryptInPlace reader.cipher reader.div (raw.take blocks) with
    | .error error => ([], .error (.crypto error))
    | .ok plain =>
      let dec := reader.dec ++ plain
      let drained := drain rpcCrc (dec.length + 1) reader.expectedSeq dec
      match drained.error with
      | some error => (drained.frames, .error error)
      | none =>
        (drained.frames,
          .ok
            { reader with
              div := carryIv reader.div (raw.take blocks)
              raw := raw.drop blocks
              dec := drained.dec
              expectedSeq := drained.expectedSeq })

def readAll (reader : RpcReader) : List (List Byte) → List (List Byte)
  | [] => []
  | chunk :: chunks =>
    match onRead rpcCrc reader chunk with
    | (frames, .error _) => frames
    | (frames, .ok reader) => frames ++ readAll reader chunks

end Reader

end TupoProxy.RpcCodec
