import TupoProxy.ClientFraming
import TupoProxy.StreamCipher

/-!
# The obfuscated handshake with the data centre

The first 64 bytes of an obfuscated connection carry the keys of both directions.  The
proxy draws them at random, redraws them when they look like the start of another
protocol, writes the protocol tag and the index of the data centre into them, and
encrypts only the bytes from the tag on.

The keystream of AES-256 in counter mode is an argument: a byte for each key, initial
counter and position.  The random source is the list of its draws.
-/

namespace TupoProxy

open List

namespace ClientFraming

open ByteWords

def ProtoTag.toU32 : ProtoTag → ℕ
  | .abridged => 0xefefefef
  | .intermediate => 0xeeeeeeee
  | .secure => 0xdddddddd

def ProtoTag.fromBytes (bytes : List Byte) : Option ProtoTag :=
  let value := leNat bytes
  if value = 0xefefefef then some .abridged
  else if value = 0xeeeeeeee then some .intermediate
  else if value = 0xdddddddd then some .secure
  else none

def ProtoTag.toBytes (tag : ProtoTag) : List Byte := leBytes 4 tag.toU32

theorem ProtoTag.fromBytes_toBytes (tag : ProtoTag) :
    ProtoTag.fromBytes tag.toBytes = some tag := by
  cases tag <;> decide

end ClientFraming

namespace Obfuscation

open ByteWords ClientFraming

def skipLen : ℕ := 8
def keyLen : ℕ := 32
def ivLen : ℕ := 16
def handshakeLen : ℕ := 64
def protoTagPos : ℕ := 56
def dcIdxPos : ℕ := 60

def i16ToLeBytes (value : Int16) : List Byte := leBytes 2 value.toUInt16.toNat

def i16FromLeBytes (bytes : List Byte) : Int16 := .ofUInt16 (UInt16.ofNat (leNat bytes))

theorem i16FromLeBytes_toLeBytes (value : Int16) : i16FromLeBytes (i16ToLeBytes value) = value := by
  have hread : leNat (leBytes 2 value.toUInt16.toNat) = value.toUInt16.toNat :=
    leNat_leBytes_of_lt value.toUInt16.toNat_lt
  rw [i16FromLeBytes, i16ToLeBytes, hread, UInt16.ofNat_toNat]

abbrev Keystream := List Byte → BitVec 128 → ℕ → Byte

structure AesCtr where
  key : List Byte
  iv : BitVec 128
  position : ℕ
  deriving DecidableEq

namespace AesCtr

def new (key : List Byte) (iv : BitVec 128) : AesCtr := ⟨key, iv, 0⟩

variable (keystream : Keystream)

def stream (key : List Byte) (iv : BitVec 128) : StreamCipher ℕ Byte :=
  .ofKeystream (keystream key iv) fun byte mask => byte ^^^ mask

def encrypt (cipher : AesCtr) (data : List Byte) : List Byte × AesCtr :=
  let out := (stream keystream cipher.key cipher.iv).apply cipher.position data
  (out.2, { cipher with position := out.1 })

def decrypt (cipher : AesCtr) (data : List Byte) : List Byte × AesCtr :=
  cipher.encrypt keystream data

theorem length_encrypt (cipher : AesCtr) (data : List Byte) :
    (cipher.encrypt keystream data).1.length = data.length :=
  (stream keystream cipher.key cipher.iv).length_apply cipher.position data

theorem drop_decrypt_encrypt (cipher : AesCtr) {count : ℕ} {data : List Byte}
    (hcount : count ≤ data.length) :
    (cipher.decrypt keystream
      (data.take count ++ (cipher.encrypt keystream data).1.drop count)).1.drop count =
      data.drop count := by
  have hhead : (data.take count).length = count := length_take_of_le hcount
  have hxor : ∀ byte mask : Byte, byte ^^^ mask ^^^ mask = byte := by
    intro byte mask
    rw [UInt8.xor_assoc, UInt8.xor_self, UInt8.xor_zero]
  simp only [decrypt, encrypt, stream]
  rw [StreamCipher.ofKeystream_drop _ _ _ (by rw [length_append]; omega),
    drop_left' hhead, StreamCipher.ofKeystream_drop _ _ _ hcount,
    StreamCipher.ofKeystream_involutive hxor]

end AesCtr

def reservedNonceFirstBytes : List Byte := [0xef]

def reservedNonceBeginnings : List (List Byte) :=
  [[0x48, 0x45, 0x41, 0x44], [0x50, 0x4f, 0x53, 0x54], [0x47, 0x45, 0x54, 0x20],
    [0xee, 0xee, 0xee, 0xee], [0xdd, 0xdd, 0xdd, 0xdd], [0x16, 0x03, 0x01, 0x02]]

def reservedNonceContinues : List (List Byte) := [[0x00, 0x00, 0x00, 0x00]]

def isValidNonce (nonce : List Byte) : Bool :=
  if nonce.getD 0 0 ∈ reservedNonceFirstBytes then false
  else if slice nonce 0 4 ∈ reservedNonceBeginnings then false
  else if slice nonce 4 4 ∈ reservedNonceContinues then false
  else true

def splitKeyIv (keyIv : List Byte) : List Byte × BitVec 128 :=
  (keyIv.take keyLen, BitVec.ofNat 128 (beNat (keyIv.drop keyLen)))

structure TgNonce where
  nonce : List Byte
  tgEncKey : List Byte
  tgEncIv : BitVec 128
  tgDecKey : List Byte
  tgDecIv : BitVec 128
  deriving DecidableEq

def fillNonce (protoTag : ProtoTag) (dcIdx : Int16) (clientEncKey : List Byte)
    (clientEncIv : BitVec 128) (fastMode : Bool) (nonce : List Byte) : List Byte :=
  let nonce := copyFromSlice nonce protoTagPos protoTag.toBytes
  let nonce := copyFromSlice nonce dcIdxPos (i16ToLeBytes dcIdx)
  if fastMode then
    let keyIv := clientEncKey ++ beBytes ivLen clientEncIv.toNat
    copyFromSlice nonce skipLen keyIv.reverse
  else nonce

def withKeys (nonce : List Byte) : TgNonce :=
  let encKeyIv := slice nonce skipLen (keyLen + ivLen)
  let enc := splitKeyIv encKeyIv
  let dec := splitKeyIv encKeyIv.reverse
  ⟨nonce, enc.1, enc.2, dec.1, dec.2⟩

/-- The loop over the draws of the random source; there is no nonce as long as it runs. -/
def generateTgNonce (protoTag : ProtoTag) (dcIdx : Int16) (clientEncKey : List Byte)
    (clientEncIv : BitVec 128) (fastMode : Bool) : List (List Byte) → Option TgNonce
  | [] => none
  | bytes :: draws =>
    if bytes.length = handshakeLen ∧ isValidNonce bytes then
      some (withKeys (fillNonce protoTag dcIdx clientEncKey clientEncIv fastMode bytes))
    else generateTgNonce protoTag dcIdx clientEncKey clientEncIv fastMode draws

structure EncryptedNonce where
  bytes : List Byte
  encryptor : AesCtr
  decryptor : AesCtr
  deriving DecidableEq

def encryptTgNonceWithCiphers (keystream : Keystream) (nonce : List Byte) : EncryptedNonce :=
  let encKeyIv := slice nonce skipLen (keyLen + ivLen)
  let enc := splitKeyIv encKeyIv
  let dec := splitKeyIv encKeyIv.reverse
  let encrypted := (AesCtr.new enc.1 enc.2).encrypt keystream nonce
  ⟨nonce.take protoTagPos ++ encrypted.1.drop protoTagPos, encrypted.2, .new dec.1 dec.2⟩

/-! ## The fields of the nonce -/

theorem isValidNonce_congr {left right : List Byte}
    (hsame : slice left 0 8 = slice right 0 8) : isValidNonce left = isValidNonce right := by
  have hfirst : ∀ nonce : List Byte, nonce.getD 0 0 = (slice nonce 0 8).getD 0 0 := by
    intro nonce
    cases nonce <;> rfl
  have hbegin : ∀ nonce : List Byte, slice nonce 0 4 = (slice nonce 0 8).take 4 := by
    intro nonce
    simp [slice, take_take]
  have hcontinue : ∀ nonce : List Byte, slice nonce 4 4 = (slice nonce 0 8).drop 4 := by
    intro nonce
    simp [slice, drop_take]
  unfold isValidNonce
  rw [hfirst left, hfirst right, hbegin left, hbegin right, hcontinue left, hcontinue right, hsame]

section Fill

variable {bytes clientEncKey : List Byte}
  (protoTag : ProtoTag) (dcIdx : Int16) (clientEncIv : BitVec 128) (fastMode : Bool)

/-- The fields that are written, and the eight bytes that are kept. -/
structure Filled (bytes nonce : List Byte) : Prop where
  length : nonce.length = handshakeLen
  first : slice nonce 0 skipLen = slice bytes 0 skipLen
  tag : slice nonce protoTagPos 4 = protoTag.toBytes
  dc : slice nonce dcIdxPos 2 = i16ToLeBytes dcIdx

theorem filled_base (hbytes : bytes.length = handshakeLen) :
    Filled protoTag dcIdx bytes (copyFromSlice (copyFromSlice bytes protoTagPos
      protoTag.toBytes) dcIdxPos (i16ToLeBytes dcIdx)) := by
  have htag : protoTag.toBytes.length = 4 := length_leBytes 4 _
  have hdc : (i16ToLeBytes dcIdx).length = 2 := length_leBytes 2 _
  have htagFits : protoTagPos + protoTag.toBytes.length ≤ bytes.length := by
    rw [htag, hbytes]
    decide
  have hlength := length_copyFromSlice htagFits
  have hdcFits : dcIdxPos + (i16ToLeBytes dcIdx).length ≤
      (copyFromSlice bytes protoTagPos protoTag.toBytes).length := by
    rw [hlength, hdc, hbytes]
    decide
  constructor
  · rw [length_copyFromSlice hdcFits, hlength, hbytes]
  · rw [slice_copyFromSlice_of_le (by decide) hdcFits,
      slice_copyFromSlice_of_le (by decide) htagFits]
  · rw [slice_copyFromSlice_of_le (by decide) hdcFits]
    have hself := slice_copyFromSlice_self htagFits
    exact hself
  · have hself := slice_copyFromSlice_self hdcFits
    exact hself

theorem Filled.keys {nonce keyIv : List Byte} {protoTag : ProtoTag} {dcIdx : Int16}
    (hfilled : Filled protoTag dcIdx bytes nonce) (hkeyIv : keyIv.length = keyLen + ivLen) :
    Filled protoTag dcIdx bytes (copyFromSlice nonce skipLen keyIv) ∧
      slice (copyFromSlice nonce skipLen keyIv) skipLen (keyLen + ivLen) = keyIv := by
  have hfits : skipLen + keyIv.length ≤ nonce.length := by
    rw [hkeyIv, hfilled.length]
    decide
  have hbehind : skipLen + keyIv.length ≤ protoTagPos := by
    rw [hkeyIv]
    decide
  have hself := slice_copyFromSlice_self hfits
  rw [hkeyIv] at hself
  refine ⟨⟨?_, ?_, ?_, ?_⟩, hself⟩
  · rw [length_copyFromSlice hfits, hfilled.length]
  · rw [slice_copyFromSlice_of_le (by decide) hfits, hfilled.first]
  · rw [slice_copyFromSlice_of_ge hbehind hfits, hfilled.tag]
  · rw [slice_copyFromSlice_of_ge (hbehind.trans (by decide)) hfits, hfilled.dc]

section

variable (hkey : clientEncKey.length = keyLen)
include hkey

theorem length_keyIv :
    (clientEncKey ++ beBytes ivLen clientEncIv.toNat).reverse.length = keyLen + ivLen := by
  rw [length_reverse, length_append, hkey, length_beBytes]

theorem fillNonce_filled (hbytes : bytes.length = handshakeLen) :
    Filled protoTag dcIdx bytes
      (fillNonce protoTag dcIdx clientEncKey clientEncIv fastMode bytes) := by
  have hbase := filled_base protoTag dcIdx hbytes
  cases fastMode with
  | false => exact hbase
  | true => exact (hbase.keys (length_keyIv clientEncIv hkey)).1

theorem fillNonce_fast (hbytes : bytes.length = handshakeLen) :
    splitKeyIv (slice (fillNonce protoTag dcIdx clientEncKey clientEncIv true bytes) skipLen
      (keyLen + ivLen)).reverse = (clientEncKey, clientEncIv) := by
  have hbase := filled_base protoTag dcIdx hbytes
  have hiv : BitVec.ofNat 128 (beNat (beBytes ivLen clientEncIv.toNat)) = clientEncIv := by
    rw [beNat_beBytes_of_lt clientEncIv.isLt, BitVec.ofNat_toNat, BitVec.setWidth_eq]
  have hwritten := (hbase.keys (length_keyIv clientEncIv hkey)).2
  unfold fillNonce splitKeyIv
  rw [if_pos rfl, hwritten, reverse_reverse, take_left' hkey, drop_left' hkey, hiv]

end

end Fill

section Sent

variable (keystream : Keystream) {nonce : List Byte}

section

variable (hlength : nonce.length = handshakeLen)
include hlength

theorem length_encryptTgNonce :
    (encryptTgNonceWithCiphers keystream nonce).bytes.length = handshakeLen := by
  simp only [encryptTgNonceWithCiphers, length_append, length_take,
    length_drop, AesCtr.length_encrypt]
  omega

theorem slice_encryptTgNonce {start len : ℕ} (hbefore : start + len ≤ protoTagPos) :
    slice (encryptTgNonceWithCiphers keystream nonce).bytes start len = slice nonce start len := by
  have htag : protoTagPos ≤ nonce.length := by
    rw [hlength]
    decide
  have hhead : (nonce.take protoTagPos).length = protoTagPos := length_take_of_le htag
  unfold slice encryptTgNonceWithCiphers
  rw [drop_append_of_le_length (by omega),
    take_append_of_le_length (by rw [length_drop]; omega), drop_take,
    take_take, Nat.min_eq_left (by omega)]

theorem decrypt_encryptTgNonce :
    let sent := encryptTgNonceWithCiphers keystream nonce
    let keyIv := splitKeyIv (slice sent.bytes skipLen (keyLen + ivLen))
    ((AesCtr.new keyIv.1 keyIv.2).decrypt keystream sent.bytes).1.drop protoTagPos =
      nonce.drop protoTagPos := by
  have htag : protoTagPos ≤ nonce.length := by
    rw [hlength]
    decide
  intro sent keyIv
  have hkeys : keyIv = splitKeyIv (slice nonce skipLen (keyLen + ivLen)) :=
    congrArg splitKeyIv (slice_encryptTgNonce keystream hlength (by decide))
  rw [hkeys]
  exact AesCtr.drop_decrypt_encrypt keystream _ htag

theorem encryptor_continues (later : List Byte) :
    let sent := encryptTgNonceWithCiphers keystream nonce
    let keyIv := splitKeyIv (slice sent.bytes skipLen (keyLen + ivLen))
    (sent.encryptor.encrypt keystream later).1 =
      later.mapIdx fun index byte => byte ^^^ keystream keyIv.1 keyIv.2 (64 + index) := by
  intro sent keyIv
  have hkeys : keyIv = splitKeyIv (slice nonce skipLen (keyLen + ivLen)) :=
    congrArg splitKeyIv (slice_encryptTgNonce keystream hlength (by decide))
  have hposition : sent.encryptor.position = 64 := (Nat.zero_add nonce.length).trans hlength
  rw [hkeys, ← hposition]
  rfl

end

end Sent

section Draws

variable {protoTag : ProtoTag} {dcIdx : Int16} {clientEncKey : List Byte}
  {clientEncIv : BitVec 128} {fastMode : Bool}

def Acceptable (draw : List Byte) : Prop :=
  draw.length = handshakeLen ∧ isValidNonce draw = true

theorem generateTgNonce_some {draws : List (List Byte)} {result : TgNonce}
    (hresult : generateTgNonce protoTag dcIdx clientEncKey clientEncIv fastMode draws =
      some result) :
    ∃ draw ∈ draws, Acceptable draw ∧
      result = withKeys (fillNonce protoTag dcIdx clientEncKey clientEncIv fastMode draw) := by
  induction draws with
  | nil => cases hresult
  | cons bytes draws ih =>
    rw [generateTgNonce] at hresult
    split at hresult
    · next haccepted =>
      cases hresult
      exact ⟨bytes, mem_cons_self, haccepted, rfl⟩
    · obtain ⟨draw, hmem, hdraw⟩ := ih hresult
      exact ⟨draw, mem_cons_of_mem _ hmem, hdraw⟩

theorem generateTgNonce_isSome {draws : List (List Byte)} {draw : List Byte}
    (hmem : draw ∈ draws) (hdraw : Acceptable draw) :
    (generateTgNonce protoTag dcIdx clientEncKey clientEncIv fastMode draws).isSome = true := by
  induction draws with
  | nil => cases hmem
  | cons bytes draws ih =>
    rw [generateTgNonce]
    split
    · rfl
    · next hrefused =>
      rcases mem_cons.mp hmem with rfl | htail
      · exact absurd hdraw hrefused
      · exact ih htail

end Draws

/-- For every random source: there is a nonce once a draw is acceptable; the data centre
reads the tag and its index with the keys it is sent, the first bytes look like no other
protocol, the encryptor goes on behind the nonce, and in fast mode the keys of the answers
are the client's. -/
theorem generateTgNonce_conforms (keystream : Keystream) (protoTag : ProtoTag)
    (dcIdx : Int16) (clientEncKey : List Byte) (clientEncIv : BitVec 128) (fastMode : Bool)
    (draws : List (List Byte)) (hkey : clientEncKey.length = keyLen) :
    ((generateTgNonce protoTag dcIdx clientEncKey clientEncIv fastMode draws).isSome = true ↔
      ∃ draw ∈ draws, draw.length = handshakeLen ∧ isValidNonce draw = true) ∧
    ∀ result,
      generateTgNonce protoTag dcIdx clientEncKey clientEncIv fastMode draws = some result →
      let sent := encryptTgNonceWithCiphers keystream result.nonce
      let keyIv := splitKeyIv (slice sent.bytes skipLen (keyLen + ivLen))
      let plain := ((AesCtr.new keyIv.1 keyIv.2).decrypt keystream sent.bytes).1
      sent.bytes.length = handshakeLen ∧
      slice plain protoTagPos 4 = protoTag.toBytes ∧
      ProtoTag.fromBytes (slice plain protoTagPos 4) = some protoTag ∧
      i16FromLeBytes (slice plain dcIdxPos 2) = dcIdx ∧
      isValidNonce sent.bytes = true ∧
      (∀ later, (sent.encryptor.encrypt keystream later).1 =
        later.mapIdx fun index byte => byte ^^^ keystream keyIv.1 keyIv.2 (64 + index)) ∧
      sent.decryptor = .new result.tgDecKey result.tgDecIv ∧
      (fastMode = true → result.tgDecKey = clientEncKey ∧ result.tgDecIv = clientEncIv) := by
  constructor
  · constructor
    · intro hsome
      obtain ⟨result, hresult⟩ := Option.isSome_iff_exists.mp hsome
      obtain ⟨draw, hmem, hdraw, -⟩ := generateTgNonce_some hresult
      exact ⟨draw, hmem, hdraw⟩
    · rintro ⟨draw, hmem, hdraw⟩
      exact generateTgNonce_isSome hmem hdraw
  intro result hresult
  obtain ⟨draw, -, ⟨hlength, hvalid⟩, rfl⟩ := generateTgNonce_some hresult
  have hfilled := fillNonce_filled protoTag dcIdx clientEncIv fastMode hkey hlength
  have hclient : fastMode = true → splitKeyIv (slice (fillNonce protoTag dcIdx clientEncKey
      clientEncIv fastMode draw) skipLen (keyLen + ivLen)).reverse =
        (clientEncKey, clientEncIv) := by
    intro hfast
    subst hfast
    exact fillNonce_fast protoTag dcIdx clientEncIv hkey hlength
  generalize fillNonce protoTag dcIdx clientEncKey clientEncIv fastMode draw = nonce
    at hfilled hclient ⊢
  intro sent keyIv plain
  have hplain : plain.drop protoTagPos = nonce.drop protoTagPos :=
    decrypt_encryptTgNonce keystream hfilled.length
  have htag : slice plain protoTagPos 4 = protoTag.toBytes :=
    (congrArg (take 4) hplain).trans hfilled.tag
  have hdc : slice plain dcIdxPos 2 = i16ToLeBytes dcIdx := by
    have hbehind := congrArg (fun tail => (tail.drop 4).take 2) hplain
    simp only [drop_drop] at hbehind
    exact hbehind.trans hfilled.dc
  have hfirst : slice sent.bytes 0 skipLen = slice draw 0 skipLen :=
    (slice_encryptTgNonce keystream hfilled.length (by decide)).trans hfilled.first
  refine ⟨length_encryptTgNonce keystream hfilled.length, htag, ?_, ?_, ?_, ?_, rfl, ?_⟩
  · rw [htag, ProtoTag.fromBytes_toBytes]
  · rw [hdc, i16FromLeBytes_toLeBytes]
  · rw [isValidNonce_congr hfirst]
    exact hvalid
  · exact encryptor_continues keystream hfilled.length
  · intro hfast
    exact ⟨congrArg Prod.fst (hclient hfast), congrArg Prod.snd (hclient hfast)⟩

theorem generateTgNonce_conforms_second :
    ∃ result, generateTgNonce .secure (-2) (List.replicate 32 7) 9 true
        [List.replicate 64 0xef, List.replicate 64 0x42] = some result ∧
      result.tgDecKey = List.replicate 32 7 ∧ result.tgDecIv = 9 ∧
      isValidNonce (encryptTgNonceWithCiphers (fun _ _ position => UInt8.ofNat position)
        result.nonce).bytes = true := by
  have hconforms := generateTgNonce_conforms (fun _ _ position => UInt8.ofNat position)
    .secure (-2) (replicate 32 7) 9 true [replicate 64 0xef, replicate 64 0x42] (by decide)
  have hsome := hconforms.1.mpr ⟨replicate 64 0x42, by simp, by decide⟩
  obtain ⟨result, hresult⟩ := Option.isSome_iff_exists.mp hsome
  obtain ⟨-, -, -, -, hvalid, -, -, hfast⟩ := hconforms.2 result hresult
  exact ⟨result, hresult, (hfast rfl).1, (hfast rfl).2, hvalid⟩

end Obfuscation
end TupoProxy
