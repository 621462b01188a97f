import TupoProxy.TlsAuth
import TupoProxy.TlsRecord
import TupoProxy.WireReader

/-!
# The fabricated ServerHello flight

The answer to an authenticated ClientHello looks like the first flight of a
TLS 1.3 server: a ServerHello, a ChangeCipherSpec and application data of
random bytes.  Its random field is an HMAC over the client's digest and the
flight with that field zeroed.

The second half reads the flight the way a peer would, with every nested
length checked.  HMAC-SHA256 is an argument and so are the draws of the random
source.
-/

namespace TupoProxy.ServerHello

open ByteWords List
open WireReader
open TlsRecord
open TlsAuth

def extensionTypeKeyShare : ℕ := 0x0033
def extensionTypeSupportedVersions : ℕ := 0x002b
def tlsAes128GcmSha256 : Byte × Byte := (0x13, 0x01)
def tlsNamedGroupX25519 : ℕ := 0x001d
def tlsNamedGroupX25519MlKem768 : ℕ := 0x11ec
def x25519KeyShareLen : ℕ := 32
def x25519MlKem768ServerKeyShareLen : ℕ := 1120

def versionBytes : List Byte := [tlsVersion.1, tlsVersion.2]

structure ServerHelloKeyShare where
  group : ℕ
  keyExchange : List Byte
  deriving Repr, DecidableEq

def ServerHelloKeyShare.Valid (share : ServerHelloKeyShare) : Prop :=
  (share.group = tlsNamedGroupX25519 ∧
    share.keyExchange.length = x25519KeyShareLen) ∨
  (share.group = tlsNamedGroupX25519MlKem768 ∧
    share.keyExchange.length = x25519MlKem768ServerKeyShareLen)

structure TlsExtensionBuilder where
  extensions : List Byte
  deriving Repr, DecidableEq

def TlsExtensionBuilder.addKeyShare (builder : TlsExtensionBuilder)
    (group : ℕ) (keyExchange : List Byte) : TlsExtensionBuilder :=
  if u16Max < keyExchange.length then builder
  else if u16Max < keyExchange.length + 4 then builder
  else
    ⟨builder.extensions ++ beBytes 2 extensionTypeKeyShare ++
      beBytes 2 (keyExchange.length + 4) ++ beBytes 2 group ++
      beBytes 2 keyExchange.length ++ keyExchange⟩

def TlsExtensionBuilder.addSupportedVersions (builder : TlsExtensionBuilder)
    (version : ℕ) : TlsExtensionBuilder :=
  ⟨builder.extensions ++ beBytes 2 extensionTypeSupportedVersions ++
    beBytes 2 2 ++ beBytes 2 version⟩

structure ServerHelloBuilder where
  random : List Byte
  sessionId : List Byte
  cipherSuite : Byte × Byte
  compression : Byte
  extensions : TlsExtensionBuilder
  deriving Repr, DecidableEq

def ServerHelloBuilder.new (sessionId : List Byte) : ServerHelloBuilder where
  random := List.replicate 32 0
  sessionId := sessionId
  cipherSuite := tlsAes128GcmSha256
  compression := 0x00
  extensions := ⟨[]⟩

def ServerHelloBuilder.withKeyShare (builder : ServerHelloBuilder) (group : ℕ)
    (keyExchange : List Byte) : ServerHelloBuilder :=
  { builder with
    extensions := builder.extensions.addKeyShare group keyExchange }

def ServerHelloBuilder.withTls13Version (builder : ServerHelloBuilder) :
    ServerHelloBuilder :=
  { builder with
    extensions := builder.extensions.addSupportedVersions 0x0304 }

def ServerHelloBuilder.withCipherSuite (builder : ServerHelloBuilder)
    (cipherSuite : Byte × Byte) : ServerHelloBuilder :=
  if cipherSuite ≠ (0, 0) then { builder with cipherSuite := cipherSuite }
  else builder

/-- The message without its record header; empty when a length does not fit
its field. -/
def ServerHelloBuilder.buildMessage (builder : ServerHelloBuilder) :
    List Byte :=
  if 255 < builder.sessionId.length then []
  else
    let extensions := builder.extensions.extensions
    if u16Max < extensions.length then []
    else
      let bodyLen :=
        2 + 32 + (1 + builder.sessionId.length) + 2 + 1 + (2 + extensions.length)
      if 0x00ffffff < bodyLen then []
      else
        [0x02] ++ beBytes 3 bodyLen ++ versionBytes ++ builder.random ++
          beBytes 1 builder.sessionId.length ++ builder.sessionId ++
          [builder.cipherSuite.1, builder.cipherSuite.2] ++
          [builder.compression] ++ beBytes 2 extensions.length ++ extensions

def ServerHelloBuilder.buildRecord (builder : ServerHelloBuilder) : List Byte :=
  let message := builder.buildMessage
  if message = [] then []
  else if u16Max < message.length then []
  else
    [tlsRecordHandshake] ++ versionBytes ++ beBytes 2 message.length ++ message

/-- The random source: the bytes of each draw, and the picks of numbers. -/
structure SecureRandom where
  noise : ℕ → ℕ → Byte
  pick : ℕ → ℕ

def SecureRandom.bytes (rng : SecureRandom) (draw len : ℕ) : List Byte :=
  (List.range len).map (rng.noise draw)

def SecureRandom.range (rng : SecureRandom) (draw max : ℕ) : ℕ :=
  if max = 0 then 0 else rng.pick draw % max

def changeCipherSpec : List Byte :=
  [tlsRecordChangeCipher, tlsVersion.1, tlsVersion.2, 0x00, 0x01, 0x01]

def minAppData : ℕ := 64
def maxAppData : ℕ := maxTlsCiphertextSize

def applicationRecord (payload : List Byte) : List Byte :=
  [tlsRecordApplication] ++ versionBytes ++ beBytes 2 payload.length ++ payload

def fakeCert (rng : SecureRandom) (fakeCertLen : ℕ) : List Byte :=
  rng.bytes 0 (max minAppData (min fakeCertLen maxAppData))

def ticketPayloads (rng : SecureRandom) (newSessionTickets : ℕ) :
    List (List Byte) :=
  (List.range (min newSessionTickets 4)).map fun index =>
    rng.bytes (2 * index + 2) (rng.range (2 * index + 1) 48 + 48)

def unsignedResponse (rng : SecureRandom) (sessionId : List Byte)
    (fakeCertLen : ℕ) (cipherSuite : Byte × Byte)
    (serverKeyShare : ServerHelloKeyShare) (newSessionTickets : ℕ) :
    List Byte :=
  let serverHello :=
    ((((ServerHelloBuilder.new sessionId).withCipherSuite cipherSuite).withKeyShare
      serverKeyShare.group serverKeyShare.keyExchange).withTls13Version).buildRecord
  serverHello ++ changeCipherSpec ++
    applicationRecord (fakeCert rng fakeCertLen) ++
    (ticketPayloads rng newSessionTickets).flatMap applicationRecord

/-- The ALPN choice is not used: it would be inside the encrypted part. -/
def buildServerHelloWithCipher (hmac : List Byte → List Byte → List Byte)
    (rng : SecureRandom) (secret clientDigest sessionId : List Byte)
    (fakeCertLen : ℕ) (cipherSuite : Byte × Byte)
    (serverKeyShare : ServerHelloKeyShare) (_alpn : Option (List Byte))
    (newSessionTickets : ℕ) : List Byte :=
  let response := unsignedResponse rng sessionId fakeCertLen cipherSuite
    serverKeyShare newSessionTickets
  let responseDigest := hmac secret (clientDigest ++ response)
  response.take tlsDigestPos ++ responseDigest ++
    response.drop (tlsDigestPos + tlsDigestLen)

structure Record where
  contentType : Byte
  legacyVersion : List Byte
  fragment : List Byte
  deriving Repr, DecidableEq

def readRecord : Reader Record := do
  let contentType ← byte
  let legacyVersion ← bytes 2
  let fragment ← vector 2
  return ⟨contentType, legacyVersion, fragment⟩

structure Handshake where
  msgType : Byte
  body : List Byte
  deriving Repr, DecidableEq

def readHandshake : Reader Handshake := do
  let msgType ← byte
  let body ← vector 3
  return ⟨msgType, body⟩

structure Extension where
  extensionType : ℕ
  data : List Byte
  deriving Repr, DecidableEq

def readExtension : Reader Extension := do
  let extensionType ← word 2
  let data ← vector 2
  return ⟨extensionType, data⟩

structure Hello where
  legacyVersion : List Byte
  random : List Byte
  sessionId : List Byte
  cipherSuite : List Byte
  compression : Byte
  extensions : List Extension
  deriving Repr, DecidableEq

def readHello : Reader Hello := do
  let legacyVersion ← bytes 2
  let random ← bytes 32
  let sessionId ← vector 1
  let cipherSuite ← bytes 2
  let compression ← byte
  let block ← vector 2
  let extensions ← StateT.lift (all readExtension block.length block)
  return ⟨legacyVersion, random, sessionId, cipherSuite, compression, extensions⟩

def readKeyShare : Reader ServerHelloKeyShare := do
  let group ← word 2
  let keyExchange ← vector 2
  return ⟨group, keyExchange⟩

/-- The key share that a hello announces; it must fill its extension. -/
def Hello.keyShare (hello : Hello) : Option ServerHelloKeyShare :=
  match hello.extensions.find? (·.extensionType = extensionTypeKeyShare) with
  | some extension => whole readKeyShare extension.data
  | none => none

structure Flight where
  handshakeType : Byte
  handshakeVersion : List Byte
  msgType : Byte
  hello : Hello
  changeCipher : Record
  applicationData : List Record
  deriving Repr, DecidableEq

/-- One handshake record with one message that fills it, one record more, and
records up to the last byte. -/
def parseFlight (response : List Byte) : Option Flight :=
  match readRecord response with
  | none => none
  | some (first, rest) =>
    match whole readHandshake first.fragment with
    | none => none
    | some handshake =>
      match whole readHello handshake.body, readRecord rest with
      | some hello, some (changeCipher, rest) =>
        (all readRecord rest.length rest).map fun applicationData =>
          { handshakeType := first.contentType
            handshakeVersion := first.legacyVersion
            msgType := handshake.msgType
            hello := hello
            changeCipher := changeCipher
            applicationData := applicationData }
      | _, _ => none

/-! ## What the builder writes -/

def Extension.wire (extension : Extension) : List Byte :=
  beBytes 2 extension.extensionType ++ beBytes 2 extension.data.length ++
    extension.data

def ServerHelloKeyShare.wire (share : ServerHelloKeyShare) : List Byte :=
  beBytes 2 share.group ++ beBytes 2 share.keyExchange.length ++
    share.keyExchange

def helloExtensions (share : ServerHelloKeyShare) : List Extension :=
  [⟨extensionTypeKeyShare, share.wire⟩,
    ⟨extensionTypeSupportedVersions, beBytes 2 0x0304⟩]

def helloTail (sessionId : List Byte) (cipherSuite : Byte × Byte)
    (share : ServerHelloKeyShare) : List Byte :=
  beBytes 1 sessionId.length ++ sessionId ++ [cipherSuite.1, cipherSuite.2] ++
    [0x00] ++ beBytes 2 ((helloExtensions share).flatMap Extension.wire).length ++
    (helloExtensions share).flatMap Extension.wire

def helloBody (random sessionId : List Byte) (cipherSuite : Byte × Byte)
    (share : ServerHelloKeyShare) : List Byte :=
  versionBytes ++ random ++ helloTail sessionId cipherSuite share

def helloMessage (random sessionId : List Byte) (cipherSuite : Byte × Byte)
    (share : ServerHelloKeyShare) : List Byte :=
  [0x02] ++ beBytes 3 (helloBody random sessionId cipherSuite share).length ++
    helloBody random sessionId cipherSuite share

def helloRecord (random sessionId : List Byte) (cipherSuite : Byte × Byte)
    (share : ServerHelloKeyShare) : List Byte :=
  [tlsRecordHandshake] ++ versionBytes ++
    beBytes 2 (helloMessage random sessionId cipherSuite share).length ++
    helloMessage random sessionId cipherSuite share

variable {random sessionId : List Byte} {cipherSuite : Byte × Byte} {share : ServerHelloKeyShare}

theorem ServerHelloKeyShare.Valid.length_le (hvalid : share.Valid) :
    share.keyExchange.length ≤ 1120 := by
  rcases hvalid with ⟨_, hlength⟩ | ⟨_, hlength⟩
  · simp [hlength, x25519KeyShareLen]
  · simp [hlength, x25519MlKem768ServerKeyShareLen]

theorem ServerHelloKeyShare.Valid.group_lt (hvalid : share.Valid) : share.group < 256 ^ 2 := by
  rcases hvalid with ⟨hgroup, _⟩ | ⟨hgroup, _⟩
  · simp [hgroup, tlsNamedGroupX25519]
  · simp [hgroup, tlsNamedGroupX25519MlKem768]

section

variable (random sessionId cipherSuite share)

theorem ServerHelloKeyShare.length_wire : share.wire.length = share.keyExchange.length + 4 := by
  simp only [ServerHelloKeyShare.wire, length_append, length_beBytes]
  omega

theorem length_helloExtensions :
    ((helloExtensions share).flatMap Extension.wire).length = share.keyExchange.length + 14 := by
  simp only [helloExtensions, Extension.wire, flatMap_cons,
    flatMap_nil, length_append, length_beBytes, length_nil, share.length_wire]
  omega

theorem length_helloTail :
    (helloTail sessionId cipherSuite share).length =
      sessionId.length + share.keyExchange.length + 20 := by
  simp only [helloTail, length_append, length_beBytes, length_cons,
    length_nil, length_helloExtensions]
  omega

theorem length_helloBody :
    (helloBody random sessionId cipherSuite share).length =
      random.length + sessionId.length + share.keyExchange.length + 22 := by
  simp only [helloBody, versionBytes, length_append, length_cons, length_nil, length_helloTail]
  omega

theorem length_helloMessage :
    (helloMessage random sessionId cipherSuite share).length =
      random.length + sessionId.length + share.keyExchange.length + 26 := by
  simp only [helloMessage, length_append, length_beBytes, length_cons, length_nil, length_helloBody]
  omega

end

theorem addKeyShare_eq (hvalid : share.Valid) :
    (((⟨[]⟩ : TlsExtensionBuilder).addKeyShare share.group
        share.keyExchange).addSupportedVersions 0x0304).extensions =
      (helloExtensions share).flatMap Extension.wire := by
  have hlength := hvalid.length_le
  unfold TlsExtensionBuilder.addKeyShare u16Max
  rw [if_neg (by omega), if_neg (by omega)]
  simp only [TlsExtensionBuilder.addSupportedVersions, helloExtensions,
    Extension.wire, flatMap_cons, flatMap_nil, share.length_wire, length_beBytes]
  simp only [ServerHelloKeyShare.wire, append_assoc, append_nil, nil_append]

theorem buildRecord_eq (hsession : sessionId.length ≤ 32) (hcipher : cipherSuite ≠ (0, 0))
    (hvalid : share.Valid) :
    ((((ServerHelloBuilder.new sessionId).withCipherSuite cipherSuite).withKeyShare share.group
        share.keyExchange).withTls13Version).buildRecord =
      helloRecord (List.replicate 32 0) sessionId cipherSuite share := by
  have hlength := hvalid.length_le
  have hextensions := length_helloExtensions share
  have hmessage : ((((ServerHelloBuilder.new sessionId).withCipherSuite
      cipherSuite).withKeyShare share.group
      share.keyExchange).withTls13Version).buildMessage =
      helloMessage (replicate 32 0) sessionId cipherSuite share := by
    have hbody := length_helloBody (replicate 32 0) sessionId cipherSuite share
    rw [length_replicate] at hbody
    unfold helloMessage
    rw [hbody]
    simp only [ServerHelloBuilder.buildMessage, ServerHelloBuilder.new,
      ServerHelloBuilder.withCipherSuite, ServerHelloBuilder.withKeyShare,
      ServerHelloBuilder.withTls13Version, if_pos hcipher, addKeyShare_eq hvalid]
    rw [if_neg (by omega), if_neg (by unfold u16Max; omega), if_neg (by omega)]
    simp only [helloBody, helloTail, append_assoc, hextensions]
    congr 3
    omega
  have hsize := length_helloMessage (replicate 32 0) sessionId cipherSuite share
  have hne : helloMessage (replicate 32 0) sessionId cipherSuite share ≠ [] := by
    simp [helloMessage]
  rw [length_replicate] at hsize
  unfold ServerHelloBuilder.buildRecord
  simp only [hmessage]
  rw [if_neg hne, if_neg (by unfold u16Max; omega)]
  rfl

theorem record_parses (contentType : Byte) {fragment : List Byte}
    (hlength : fragment.length < 256 ^ 2) :
    Parses readRecord ([contentType] ++ versionBytes ++ beBytes 2 fragment.length ++ fragment)
      ⟨contentType, versionBytes, fragment⟩ := by
  refine (byte_parses contentType).bind ?_
  refine (bytes_parses (rfl : versionBytes.length = 2)).bind ?_
  exact (vector_parses hlength).map _ rfl

theorem extension_parses {extension : Extension} (htype : extension.extensionType < 256 ^ 2)
    (hlength : extension.data.length < 256 ^ 2) :
    Parses readExtension extension.wire extension := by
  unfold Extension.wire
  exact (word_parses htype).bind ((vector_parses hlength).map _ rfl)

theorem keyShare_parses (hvalid : share.Valid) :
    Parses readKeyShare share.wire share := by
  have hlength := hvalid.length_le
  unfold ServerHelloKeyShare.wire
  exact (word_parses hvalid.group_lt).bind ((vector_parses (by omega)).map _ rfl)

theorem extensions_parse (hvalid : share.Valid) :
    all readExtension ((helloExtensions share).flatMap Extension.wire).length
        ((helloExtensions share).flatMap Extension.wire) = some (helloExtensions share) := by
  have hlength := hvalid.length_le
  have hwritten : ∀ extension ∈ helloExtensions share, extension.wire ≠ [] := by
    intro extension _ hempty
    have hzero := congrArg length hempty
    simp only [Extension.wire, length_append, length_beBytes, length_nil] at hzero
    omega
  have hparses : ∀ extension ∈ helloExtensions share,
      Parses readExtension extension.wire (id extension) := by
    intro extension hmem
    simp only [helloExtensions, mem_cons, not_mem_nil, or_false] at hmem
    rcases hmem with rfl | rfl
    · refine extension_parses (Nat.lt_of_sub_pos (by decide : 0 < 256 ^ 2 - 0x33)) ?_
      rw [share.length_wire]
      omega
    · exact extension_parses (by decide) (by decide)
  rw [all_parses hparses hwritten (length_le_flatMap hwritten), map_id]

theorem readHello_parses {hello : Hello} {block : List Byte}
    (hversion : hello.legacyVersion.length = 2) (hrandom : hello.random.length = 32)
    (hsession : hello.sessionId.length < 256 ^ 1)
    (hcipher : hello.cipherSuite.length = 2) (hblock : block.length < 256 ^ 2)
    (hextensions : all readExtension block.length block = some hello.extensions) :
    Parses readHello (hello.legacyVersion ++ (hello.random ++
        ((beBytes 1 hello.sessionId.length ++ hello.sessionId) ++
          (hello.cipherSuite ++ ([hello.compression] ++
            (beBytes 2 block.length ++ block)))))) hello := by
  refine (bytes_parses hversion).bind ?_
  refine (bytes_parses hrandom).bind ?_
  refine (vector_parses hsession).bind ?_
  refine (bytes_parses hcipher).bind ?_
  refine (byte_parses hello.compression).bind ?_
  rw [← append_nil (beBytes 2 block.length ++ block)]
  refine (vector_parses hblock).bind ?_
  exact Parses.bind_lift hextensions (Parses.pure hello)

def expectedHello (random sessionId : List Byte) (cipherSuite : Byte × Byte)
    (share : ServerHelloKeyShare) : Hello where
  legacyVersion := versionBytes
  random := random
  sessionId := sessionId
  cipherSuite := [cipherSuite.1, cipherSuite.2]
  compression := 0
  extensions := helloExtensions share

theorem hello_parses (hrandom : random.length = 32) (hsession : sessionId.length ≤ 32)
    (hvalid : share.Valid) :
    Parses readHello (helloBody random sessionId cipherSuite share)
      (expectedHello random sessionId cipherSuite share) := by
  have hlength := hvalid.length_le
  have hblock : ((helloExtensions share).flatMap Extension.wire).length <
      256 ^ 2 := by
    rw [length_helloExtensions]
    omega
  have hparses := @readHello_parses (expectedHello random sessionId cipherSuite share) _ rfl hrandom
    (Nat.lt_of_le_of_lt hsession (by decide)) rfl hblock (extensions_parse hvalid)
  simpa only [helloBody, helloTail, expectedHello, append_assoc] using hparses

theorem keyShare_expectedHello (hvalid : share.Valid) :
    (expectedHello random sessionId cipherSuite share).keyShare = some share :=
  (keyShare_parses hvalid).whole

theorem message_parses (hrandom : random.length = 32) (hsession : sessionId.length ≤ 32)
    (hvalid : share.Valid) :
    Parses readHandshake (helloMessage random sessionId cipherSuite share)
      ⟨0x02, helloBody random sessionId cipherSuite share⟩ := by
  have hlength := hvalid.length_le
  have hbody := length_helloBody random sessionId cipherSuite share
  unfold helloMessage
  refine (byte_parses 0x02).bind ?_
  exact (vector_parses (by omega)).map _ rfl

variable (rng : SecureRandom) {payloads : List (List Byte)}

theorem flatMap_applicationRecord_parse
    (hlengths : ∀ payload ∈ payloads, payload.length < 256 ^ 2) :
    all readRecord (payloads.flatMap applicationRecord).length
        (payloads.flatMap applicationRecord) =
      some (payloads.map fun payload =>
        ⟨tlsRecordApplication, versionBytes, payload⟩) := by
  have hwritten : ∀ payload ∈ payloads, applicationRecord payload ≠ [] := by
    intro payload _
    simp [applicationRecord]
  exact all_parses (fun payload hmem => record_parses tlsRecordApplication (hlengths payload hmem))
    hwritten (length_le_flatMap hwritten)

theorem SecureRandom.length_bytes (draw len : ℕ) : (rng.bytes draw len).length = len := by
  simp [SecureRandom.bytes]

theorem length_payloads_lt (fakeCertLen newSessionTickets : ℕ) :
    ∀ payload ∈ fakeCert rng fakeCertLen :: ticketPayloads rng newSessionTickets,
      payload.length < 256 ^ 2 := by
  intro payload hmem
  rcases mem_cons.mp hmem with rfl | hticket
  · unfold fakeCert
    rw [rng.length_bytes]
    simp only [minAppData, maxAppData, maxTlsCiphertextSize]
    omega
  · obtain ⟨index, _, rfl⟩ := mem_map.mp hticket
    have hpick : rng.range (2 * index + 1) 48 < 48 := Nat.mod_lt _ (by omega)
    rw [rng.length_bytes]
    omega

/-- The reader reads back every part of the flight. -/
theorem parseFlight_eq (hrandom : random.length = 32) (hsession : sessionId.length ≤ 32)
    (hvalid : share.Valid)
    (hlengths : ∀ payload ∈ payloads, payload.length < 256 ^ 2) :
    parseFlight (helloRecord random sessionId cipherSuite share ++
        (changeCipherSpec ++ payloads.flatMap applicationRecord)) =
      some {
        handshakeType := tlsRecordHandshake
        handshakeVersion := versionBytes
        msgType := 0x02
        hello := expectedHello random sessionId cipherSuite share
        changeCipher := ⟨tlsRecordChangeCipher, versionBytes, [0x01]⟩
        applicationData := payloads.map fun payload =>
          ⟨tlsRecordApplication, versionBytes, payload⟩ } := by
  have hlength := hvalid.length_le
  have hmessage := length_helloMessage random sessionId cipherSuite share
  have hfirst : Parses readRecord (helloRecord random sessionId cipherSuite share)
      ⟨tlsRecordHandshake, versionBytes, helloMessage random sessionId cipherSuite share⟩ :=
    record_parses tlsRecordHandshake (by omega)
  have hsecond : Parses readRecord changeCipherSpec ⟨tlsRecordChangeCipher, versionBytes, [0x01]⟩ :=
    record_parses tlsRecordChangeCipher (by decide : [(0x01 : Byte)].length < _)
  have hhandshake := (@message_parses _ _ cipherSuite _ hrandom hsession hvalid).whole
  have hhello := (@hello_parses _ _ cipherSuite _ hrandom hsession hvalid).whole
  simp only [parseFlight, hfirst _, hhandshake, hhello, hsecond _,
    flatMap_applicationRecord_parse hlengths, Option.map_some]

def helloHead (sessionId : List Byte) (share : ServerHelloKeyShare) :
    List Byte :=
  [tlsRecordHandshake] ++ versionBytes ++
    beBytes 2 (32 + sessionId.length + share.keyExchange.length + 26) ++
    ([0x02] ++ beBytes 3 (32 + sessionId.length + share.keyExchange.length + 22) ++
      versionBytes)

theorem length_helloHead : (helloHead sessionId share).length = tlsDigestPos := by
  simp [helloHead, versionBytes, tlsDigestPos]

theorem helloRecord_eq (hrandom : random.length = 32) :
    helloRecord random sessionId cipherSuite share = helloHead sessionId share ++
        (random ++ helloTail sessionId cipherSuite share) := by
  have hbody := length_helloBody random sessionId cipherSuite share
  have hmessage := length_helloMessage random sessionId cipherSuite share
  rw [hrandom] at hbody hmessage
  unfold helloRecord
  rw [hmessage]
  unfold helloMessage
  rw [hbody]
  simp only [helloBody, helloHead, append_assoc]

theorem splice_eq {head hole digest tail : List Byte}
    (hhead : head.length = tlsDigestPos) (hhole : hole.length = tlsDigestLen) :
    (head ++ (hole ++ tail)).take tlsDigestPos ++ digest ++
        (head ++ (hole ++ tail)).drop (tlsDigestPos + tlsDigestLen) = head ++ (digest ++ tail) := by
  have hdrop : (head ++ (hole ++ tail)).drop (tlsDigestPos + tlsDigestLen) =
      tail := by
    rw [← append_assoc]
    exact drop_left' (by rw [length_append, hhead, hhole])
  rw [take_left' hhead, hdrop, append_assoc]

def flightRest (rng : SecureRandom) (fakeCertLen newSessionTickets : ℕ) :
    List Byte :=
  changeCipherSpec ++
    (fakeCert rng fakeCertLen :: ticketPayloads rng newSessionTickets).flatMap
      applicationRecord

theorem unsignedResponse_eq {sessionId : List Byte} (fakeCertLen : ℕ)
    {cipherSuite : Byte × Byte} {serverKeyShare : ServerHelloKeyShare} (newSessionTickets : ℕ)
    (hsession : sessionId.length ≤ 32) (hcipher : cipherSuite ≠ (0, 0))
    (hvalid : serverKeyShare.Valid) :
    unsignedResponse rng sessionId fakeCertLen cipherSuite serverKeyShare newSessionTickets =
      helloHead sessionId serverKeyShare ++ (List.replicate tlsDigestLen 0 ++
        (helloTail sessionId cipherSuite serverKeyShare ++
          flightRest rng fakeCertLen newSessionTickets)) := by
  unfold unsignedResponse
  rw [buildRecord_eq hsession hcipher hvalid, helloRecord_eq (length_replicate ..)]
  simp only [flightRest, tlsDigestLen, flatMap_cons, append_assoc]

structure Flight.Answers (flight : Flight) (digest sessionId : List Byte)
    (cipherSuite : Byte × Byte) (share : ServerHelloKeyShare) : Prop where
  handshakeType : flight.handshakeType = tlsRecordHandshake
  handshakeVersion : flight.handshakeVersion = versionBytes
  msgType : flight.msgType = 0x02
  legacyVersion : flight.hello.legacyVersion = versionBytes
  random : flight.hello.random = digest
  sessionId : flight.hello.sessionId = sessionId
  cipherSuite : flight.hello.cipherSuite = [cipherSuite.1, cipherSuite.2]
  keyShare : flight.hello.keyShare = some share
  changeCipher : flight.changeCipher =
    ⟨tlsRecordChangeCipher, versionBytes, [0x01]⟩
  applicationData : flight.applicationData ≠ [] ∧
    ∀ record ∈ flight.applicationData,
      record.contentType = tlsRecordApplication ∧
      record.legacyVersion = versionBytes

/-- The flight parses with the session id, cipher suite and key share given,
and its random is the HMAC over the flight with the random zeroed. -/
theorem buildServerHelloWithCipher_wellFormed (hmac : List Byte → List Byte → List Byte)
    (hhmac : ∀ key message, (hmac key message).length = tlsDigestLen)
    (rng : SecureRandom) (secret clientDigest : List Byte)
    {sessionId : List Byte} (fakeCertLen : ℕ) {cipherSuite : Byte × Byte}
    {serverKeyShare : ServerHelloKeyShare} (alpn : Option (List Byte))
    (newSessionTickets : ℕ) (hsession : sessionId.length ≤ 32)
    (hcipher : cipherSuite ≠ (0, 0)) (hvalid : serverKeyShare.Valid) :
    let response := buildServerHelloWithCipher hmac rng secret clientDigest
      sessionId fakeCertLen cipherSuite serverKeyShare alpn newSessionTickets
    let digest := (response.drop tlsDigestPos).take tlsDigestLen
    (∃ flight, parseFlight response = some flight ∧
      flight.Answers digest sessionId cipherSuite serverKeyShare) ∧
    hmac secret (clientDigest ++ (response.take tlsDigestPos ++ replicate tlsDigestLen 0 ++
        response.drop (tlsDigestPos + tlsDigestLen))) = digest := by
  intro response digest
  have hhead := @length_helloHead sessionId serverKeyShare
  have hunsigned := unsignedResponse_eq rng fakeCertLen newSessionTickets hsession hcipher hvalid
  obtain ⟨signed, hsigned⟩ : ∃ signed, signed = hmac secret (clientDigest ++
      unsignedResponse rng sessionId fakeCertLen cipherSuite serverKeyShare
        newSessionTickets) := ⟨_, rfl⟩
  have hlength : signed.length = tlsDigestLen := hsigned ▸ hhmac _ _
  have hresponse : response = helloHead sessionId serverKeyShare ++ (signed ++
      (helloTail sessionId cipherSuite serverKeyShare ++
        flightRest rng fakeCertLen newSessionTickets)) := by
    simp only [response, buildServerHelloWithCipher]
    rw [← hsigned, hunsigned, splice_eq hhead (length_replicate ..)]
  have hdigest : digest = signed := by
    simp only [digest]
    rw [hresponse, drop_left' hhead, take_left' hlength]
  have hzeroed : response.take tlsDigestPos ++ replicate tlsDigestLen 0 ++
      response.drop (tlsDigestPos + tlsDigestLen) =
      unsignedResponse rng sessionId fakeCertLen cipherSuite serverKeyShare
        newSessionTickets := by
    rw [hresponse, splice_eq hhead hlength, hunsigned]
  have hrecord : response = helloRecord signed sessionId cipherSuite
      serverKeyShare ++ flightRest rng fakeCertLen newSessionTickets := by
    rw [hresponse, helloRecord_eq hlength]
    simp only [append_assoc]
  refine ⟨⟨_, hrecord ▸ parseFlight_eq hlength hsession hvalid
    (length_payloads_lt rng fakeCertLen newSessionTickets), ?_⟩, ?_⟩
  · exact {
      handshakeType := rfl
      handshakeVersion := rfl
      msgType := rfl
      legacyVersion := rfl
      random := hdigest.symm
      sessionId := rfl
      cipherSuite := rfl
      keyShare := keyShare_expectedHello hvalid
      changeCipher := rfl
      applicationData := by simp }
  · rw [hzeroed, hdigest, hsigned]

def foldDigest (key message : List Byte) : List Byte :=
  List.replicate 32 ((key ++ message).foldl (· + ·) 0)

def x25519Share : ServerHelloKeyShare :=
  ⟨tlsNamedGroupX25519, List.replicate 32 7⟩

theorem buildServerHelloWithCipher_x25519 :
    let response := buildServerHelloWithCipher foldDigest
      ⟨fun draw index => UInt8.ofNat (draw + index), fun draw => draw⟩
      (replicate 16 1) (replicate 32 2) (replicate 32 3) 100
      (0x13, 0x03) x25519Share none 2
    (∃ flight, parseFlight response = some flight ∧
      flight.Answers ((response.drop tlsDigestPos).take tlsDigestLen)
        (replicate 32 3) (0x13, 0x03) x25519Share) ∧
    x25519Share.Valid :=
  ⟨(buildServerHelloWithCipher_wellFormed foldDigest (fun _ _ => length_replicate ..)
      ⟨fun draw index => UInt8.ofNat (draw + index), fun draw => draw⟩
      (replicate 16 1) (replicate 32 2) 100 none 2 (by decide)
      (by decide) (.inl ⟨rfl, rfl⟩)).1, .inl ⟨rfl, rfl⟩⟩

end TupoProxy.ServerHello
