import TupoProxy.ClientFraming
import TupoProxy.NetAddr

/-!
# The proxy request payload

`RPC_PROXY_REQ` carries one client packet to the middle-end: the connection
id, the addresses of the client and of the proxy, an optional advertising tag
and the packet itself.
-/

namespace TupoProxy.ProxyReqWire

open ByteWords
open ClientFraming

def rpcProxyReqU32 : ℕ := 0x36cef1ee
def tlProxyTagU32 : ℕ := 0xdb1e26ae
def rpcFlagHasAdTag : ℕ := 0x8
def rpcFlagMagic : ℕ := 0x1000
def rpcFlagExtmode2 : ℕ := 0x20000
def rpcFlagPad : ℕ := 0x8000000
def rpcFlagIntermediate : ℕ := 0x20000000
def rpcFlagAbridged : ℕ := 0x40000000

def protoFlagsForTag (tag : ProtoTag) (hasProxyTag : Bool) : ℕ :=
  let flags := rpcFlagMagic ||| rpcFlagExtmode2 ||| if hasProxyTag then rpcFlagHasAdTag else 0
  match tag with
  | .abridged => flags ||| rpcFlagAbridged
  | .intermediate => flags ||| rpcFlagIntermediate
  | .secure => flags ||| rpcFlagPad ||| rpcFlagIntermediate

def ipv4ToMappedV6CCompat (a b c d : Byte) : List Byte :=
  [0, 0, 0, 0, 0, 0, 0, 0, 0, 0, 0xff, 0xff, a, b, c, d]

def mappedAddrAndPort (addr : SocketAddr) : List Byte :=
  (match addr.ip with
    | .v4 a b c d => ipv4ToMappedV6CCompat a b c d
    | .v6 octets => octets.val) ++
    leBytes 4 addr.port

theorem length_mappedAddrAndPort (addr : SocketAddr) : (mappedAddrAndPort addr).length = 20 := by
  unfold mappedAddrAndPort
  cases addr.ip with
  | v4 a b c d => rfl
  | v6 octets => simp [octets.property]

def proxyTagWireLen (tag : List Byte) : ℕ :=
  if tag.length < 254 then 4 + 1 + tag.length + (4 - (1 + tag.length) % 4) % 4
  else 4 + 4 + tag.length + (4 - tag.length % 4) % 4

def proxyReqPayloadLen (dataLen : ℕ) (proxyTag : Option (List Byte)) (protoFlags : ℕ) :
    ℕ :=
  let baseLen := 4 + 4 + 8 + 20 + 20
  let extraLen :=
    if protoFlags &&& rpcFlagHasAdTag ≠ 0 then
      4 + (proxyTag.map proxyTagWireLen).getD 0
    else 0
  baseLen + extraLen + dataLen

def proxyTagBytes (tag : List Byte) : List Byte :=
  leBytes 4 tlProxyTagU32 ++
    if tag.length < 254 then
      UInt8.ofNat tag.length :: tag ++ List.replicate ((4 - (1 + tag.length) % 4) % 4) 0
    else
      0xfe :: leBytes 3 tag.length ++ tag ++ List.replicate ((4 - tag.length % 4) % 4) 0

def extraBytes (proxyTag : Option (List Byte)) : List Byte :=
  let extra := (proxyTag.map proxyTagBytes).getD []
  leBytes 4 extra.length ++ extra

def proxyReqPayload (connId : ℕ) (clientAddr ourAddr : SocketAddr) (data : List Byte)
    (proxyTag : Option (List Byte)) (protoFlags : ℕ) : List Byte :=
  leBytes 4 rpcProxyReqU32 ++ leBytes 4 protoFlags ++ leBytes 8 connId ++
    mappedAddrAndPort clientAddr ++ mappedAddrAndPort ourAddr ++
    (if protoFlags &&& rpcFlagHasAdTag ≠ 0 then extraBytes proxyTag else []) ++ data

theorem length_proxyTagBytes (tag : List Byte) :
    (proxyTagBytes tag).length = proxyTagWireLen tag := by
  unfold proxyTagBytes proxyTagWireLen
  split
  · simp only [List.length_append, List.length_cons, length_leBytes, List.length_replicate]
    omega
  · simp only [List.length_append, List.length_cons, length_leBytes, List.length_replicate]
    omega

theorem length_extraBytes (proxyTag : Option (List Byte)) :
    (extraBytes proxyTag).length = 4 + (proxyTag.map proxyTagWireLen).getD 0 := by
  cases proxyTag with
  | none => rfl
  | some tag => simp [extraBytes, length_proxyTagBytes]

theorem length_proxyReqPayload (connId : ℕ) (clientAddr ourAddr : SocketAddr)
    (data : List Byte) (proxyTag : Option (List Byte)) (protoFlags : ℕ) :
    (proxyReqPayload connId clientAddr ourAddr data proxyTag protoFlags).length =
      proxyReqPayloadLen data.length proxyTag protoFlags := by
  unfold proxyReqPayload proxyReqPayloadLen
  simp only [List.length_append, length_leBytes, length_mappedAddrAndPort]
  split
  · rw [length_extraBytes]
  · rfl

theorem proxyTagWireLen_aligned (tag : List Byte) : proxyTagWireLen tag % 4 = 0 := by
  unfold proxyTagWireLen
  split <;> omega

theorem proxyReqPayloadLen_mod (dataLen : ℕ) (proxyTag : Option (List Byte)) (protoFlags : ℕ) :
    proxyReqPayloadLen dataLen proxyTag protoFlags % 4 = dataLen % 4 := by
  have htag : (proxyTag.map proxyTagWireLen).getD 0 % 4 = 0 := by
    cases proxyTag with
    | none => rfl
    | some tag => exact proxyTagWireLen_aligned tag
  unfold proxyReqPayloadLen
  simp only
  split <;> omega

end TupoProxy.ProxyReqWire
