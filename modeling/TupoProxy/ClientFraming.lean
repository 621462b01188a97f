import TupoProxy.MachineWords
import TupoProxy.Delivery
import Mathlib.Data.Nat.Bitwise

/-!
# Client framing: the three transports and their writer

A client speaks one of three framings.  Abridged counts 32-bit words in one or
four bytes, Intermediate writes a four-byte length, and Secure adds one to
three random bytes to an Intermediate frame of aligned length.  This module
has the length headers, the outbound writer, and the wire image of a frame
that the writer accepts.
-/

namespace TupoProxy.ClientFraming

open ByteWords

inductive ProtoTag where
  | abridged
  | intermediate
  | secure
  deriving Repr, DecidableEq

def intermediateQuickackFlag : ℕ := 0x80000000
def intermediateWireLenMask : ℕ := 0x7fffffff

def rpcFlagQuickack : ℕ := 0x80000000

def quickackOf (flags : ℕ) : Bool := decide (flags &&& rpcFlagQuickack ≠ 0)

structure IntermediateHeader where
  wireLen : ℕ
  quickack : Bool
  deriving Repr, DecidableEq

def parseIntermediateHeader (header : List Byte) : IntermediateHeader :=
  let raw := leNat header
  { wireLen := raw &&& intermediateWireLenMask
    quickack := decide (raw &&& intermediateQuickackFlag ≠ 0) }

def encodeIntermediateHeader (wireLen : ℕ) (quickack : Bool) : Option ℕ :=
  if intermediateWireLenMask < wireLen then none
  else if quickack then some (wireLen ||| intermediateQuickackFlag)
  else some wireLen

def secureVersionDBodyLenFromWireLen (wireLen : ℕ) : Option ℕ :=
  if wireLen < 4 then none else some (wireLen - wireLen % 4)

def isValidSecurePayloadLen (dataLen : ℕ) : Bool := decide (dataLen % 4 = 0)

theorem lor_quickackFlag {wireLen : ℕ} (hlen : wireLen < 2 ^ 31) :
    wireLen ||| intermediateQuickackFlag = 2 ^ 31 + wireLen := by
  rw [Nat.or_comm]
  simpa [intermediateQuickackFlag] using (Nat.two_pow_add_eq_or_of_lt hlen 1).symm

variable {quickack : Bool}

section

variable {wireLen raw : ℕ} (hencode : encodeIntermediateHeader wireLen quickack = some raw)
include hencode

theorem encodeIntermediateHeader_some :
    wireLen < 2 ^ 31 ∧ raw = 2 ^ 31 * quickack.toNat + wireLen := by
  unfold encodeIntermediateHeader intermediateWireLenMask at hencode
  split_ifs at hencode with hlarge hquick
  · have hlen : wireLen < 2 ^ 31 := by omega
    simp only [Option.some.injEq] at hencode
    rw [← hencode, lor_quickackFlag hlen, hquick]
    exact ⟨hlen, by simp⟩
  · simp only [Option.some.injEq] at hencode
    rw [Bool.not_eq_true] at hquick
    rw [← hencode, hquick]
    exact ⟨by omega, by simp⟩

theorem parseIntermediateHeader_encode :
    parseIntermediateHeader (leBytes 4 raw) = ⟨wireLen, quickack⟩ := by
  obtain ⟨hlen, hraw⟩ := encodeIntermediateHeader_some hencode
  have hbit : quickack.toNat ≤ 1 := quickack.toNat_le
  have hword : leNat (leBytes 4 raw) = raw := leNat_leBytes_of_lt (by omega)
  have hmask : raw &&& intermediateWireLenMask = wireLen := by
    rw [show intermediateWireLenMask = 2 ^ 31 - 1 from rfl, Nat.and_two_pow_sub_one_eq_mod]
    omega
  have hflag : raw &&& intermediateQuickackFlag = quickack.toNat * 2 ^ 31 := by
    rw [show intermediateQuickackFlag = 2 ^ 31 from rfl, Nat.and_two_pow,
      hraw, Nat.testBit_two_pow_mul_add _ hlen]
    cases quickack <;> simp
  simp only [parseIntermediateHeader, hword, hmask, hflag]
  cases quickack <;> simp

end

/-! ## Writing -/

/-- Random choices of one write: the tail length minus one and the tail. -/
structure SecureRandom where
  range : Fin 3
  fill : ℕ → Byte

def SecureRandom.fillBytes (rng : SecureRandom) (count : ℕ) : List Byte :=
  (List.range count).map rng.fill

def securePaddingLen (rng : SecureRandom) : ℕ := rng.range.val + 1

inductive WriteError where
  | abridgedUnaligned (len : ℕ)
  | abridgedTooLarge (len : ℕ)
  | secureUnaligned (len : ℕ)
  | frameLengthOverflow
  | intermediateTooLarge (wireLen : ℕ)
  | frameBufferOverflow
  deriving Repr, DecidableEq

inductive MeD2cWriteMode where
  | coalesced
  | split
  deriving Repr, DecidableEq

def meD2cSingleWriteCoalesceMaxBytes : ℕ := 128 * 1024

def computeIntermediateSecureWireLen (dataLen paddingLen : ℕ)
    (quickack : Bool) : Except WriteError (ℕ × ℕ) :=
  let wireLen := dataLen + paddingLen
  if usizeMax < wireLen then .error .frameLengthOverflow
  else
    match encodeIntermediateHeader wireLen quickack with
    | none => .error (.intermediateTooLarge wireLen)
    | some lenVal =>
      if usizeMax < 4 + wireLen then .error .frameBufferOverflow
      else .ok (lenVal, 4 + wireLen)

/-- The buffers handed to the client writer one after the other. -/
abbrev Writes := List (List Byte)

def emitFrame (total : ℕ) (parts : Writes) : MeD2cWriteMode × Writes :=
  if total ≤ meD2cSingleWriteCoalesceMaxBytes then
    (.coalesced, [parts.flatten])
  else (.split, parts)

def writeClientPayload (tag : ProtoTag) (flags : ℕ) (data : List Byte)
    (rng : SecureRandom) : Except WriteError (MeD2cWriteMode × Writes) :=
  let quickack := quickackOf flags
  match tag with
  | .abridged =>
    if data.length % 4 ≠ 0 then .error (.abridgedUnaligned data.length)
    else
      let lenWords := data.length / 4
      if lenWords < 0x7f then
        let first := UInt8.ofNat lenWords
        let first := if quickack then first ||| 0x80 else first
        .ok (emitFrame (1 + data.length) [[first], data])
      else if lenWords < 2 ^ 24 then
        let first : Byte := if quickack then 0x7f ||| 0x80 else 0x7f
        let header := first :: (leBytes 4 lenWords).take 3
        .ok (emitFrame (4 + data.length) [header, data])
      else .error (.abridgedTooLarge data.length)
  | .intermediate =>
    match computeIntermediateSecureWireLen data.length 0 quickack with
    | .error error => .error error
    | .ok (lenVal, total) =>
      .ok (emitFrame total [leBytes 4 lenVal, data])
  | .secure =>
    if isValidSecurePayloadLen data.length then
      let paddingLen := securePaddingLen rng
      match computeIntermediateSecureWireLen data.length paddingLen
          quickack with
      | .error error => .error error
      | .ok (lenVal, total) =>
        .ok (emitFrame total
          [leBytes 4 lenVal, data, rng.fillBytes paddingLen])
    else .error (.secureUnaligned data.length)

structure OutFrame where
  flags : ℕ
  data : List Byte
  rng : SecureRandom

def OutFrame.padding (tag : ProtoTag) (frame : OutFrame) : List Byte :=
  match tag with
  | .secure => frame.rng.fillBytes (securePaddingLen frame.rng)
  | _ => []

/-- The length the reader meets on the wire, without the header. -/
def OutFrame.wireLen (tag : ProtoTag) (frame : OutFrame) : ℕ :=
  frame.data.length + (frame.padding tag).length

/-- The bytes a successful write emits, in whatever buffers. -/
def OutFrame.wire (tag : ProtoTag) (frame : OutFrame) : List Byte :=
  match writeClientPayload tag frame.flags frame.data frame.rng with
  | .ok (_, writes) => writes.flatten
  | .error _ => []

def OutFrame.Accepted (tag : ProtoTag) (frame : OutFrame) : Prop :=
  ∃ mode writes,
    writeClientPayload tag frame.flags frame.data frame.rng = .ok (mode, writes)

@[simp] theorem emitFrame_flatten (total : ℕ) (parts : Writes) :
    (emitFrame total parts).2.flatten = parts.flatten := by
  unfold emitFrame
  split <;> simp

/-- What the header bytes of a frame say to a reader of the framing. -/
inductive HeaderSays : ProtoTag → List Byte → ℕ → Bool → Prop where
  | short {first : Byte} {words : ℕ} {quickack : Bool}
      (hwords : (first &&& 0x7f).toNat = words) (hshort : words < 0x7f)
      (hquick : decide (first &&& 0x80 ≠ 0) = quickack) :
      HeaderSays .abridged [first] (words * 4) quickack
  | extended {first : Byte} {ext : List Byte} {words : ℕ} {quickack : Bool}
      (hmark : first &&& 0x7f = 0x7f) (hext : ext.length = 3)
      (hwords : leNat ext = words)
      (hquick : decide (first &&& 0x80 ≠ 0) = quickack) :
      HeaderSays .abridged (first :: ext) (words * 4) quickack
  | word {tag : ProtoTag} {header : List Byte} {wireLen : ℕ} {quickack : Bool}
      (htag : tag ≠ .abridged) (hlength : header.length = 4)
      (hparse : parseIntermediateHeader header = ⟨wireLen, quickack⟩) :
      HeaderSays tag header wireLen quickack

theorem length_fillBytes (rng : SecureRandom) (count : ℕ) :
    (rng.fillBytes count).length = count := by
  simp [SecureRandom.fillBytes]

theorem shortHeader_bits : ∀ words : Fin 127, (UInt8.ofNat words.val &&& 0x7f).toNat = words.val ∧
      UInt8.ofNat words.val &&& 0x80 = 0 ∧
      ((UInt8.ofNat words.val ||| 0x80) &&& 0x7f).toNat = words.val ∧
      (UInt8.ofNat words.val ||| 0x80) &&& 0x80 ≠ 0 := by
  decide

variable {words : ℕ}

theorem headerSays_short (hshort : words < 0x7f) (quickack : Bool) :
    HeaderSays .abridged [if quickack then UInt8.ofNat words ||| 0x80 else UInt8.ofNat words]
      (words * 4) quickack := by
  obtain ⟨hplain, hclear, hmarked, hset⟩ := shortHeader_bits ⟨words, hshort⟩
  cases quickack with
  | false => exact .short hplain hshort (by simpa using hclear)
  | true => exact .short hmarked hshort (by simpa using hset)

theorem headerSays_extended (hlong : words < 2 ^ 24) (quickack : Bool) :
    HeaderSays .abridged ((if quickack then 0x7f ||| 0x80 else 0x7f) :: (leBytes 4 words).take 3)
      (words * 4) quickack := by
  have hbytes : (leBytes 4 words).take 3 = leBytes 3 words := rfl
  have hwords : leNat (leBytes 3 words) = words := leNat_leBytes_of_lt (by omega)
  cases quickack with
  | false | true => exact .extended (by decide) (by simp) hwords (by decide)

variable {frame : OutFrame}

theorem wire_abridged (haccepted : frame.Accepted .abridged) :
    ∃ header, frame.wire .abridged = header ++ frame.data ∧
      HeaderSays .abridged header frame.data.length (quickackOf frame.flags) := by
  obtain ⟨mode, writes, hwrite⟩ := haccepted
  by_cases halign : frame.data.length % 4 = 0
  · have hwords : frame.data.length / 4 * 4 = frame.data.length := by omega
    by_cases hshort : frame.data.length / 4 < 0x7f
    · refine ⟨_, ?_, hwords ▸ headerSays_short hshort (quickackOf frame.flags)⟩
      simp [OutFrame.wire, writeClientPayload, halign, hshort]
    · by_cases hlong : frame.data.length / 4 < 16777216
      · refine ⟨_, ?_, hwords ▸ headerSays_extended (by omega) (quickackOf frame.flags)⟩
        simp [OutFrame.wire, writeClientPayload, halign, hshort, hlong]
      · simp [writeClientPayload, halign, hshort, hlong] at hwrite
  · simp [writeClientPayload, halign] at hwrite

theorem computeIntermediateSecureWireLen_ok {dataLen paddingLen lenVal total : ℕ}
    (hcompute : computeIntermediateSecureWireLen dataLen paddingLen quickack =
      .ok (lenVal, total)) :
    HeaderSays .intermediate (leBytes 4 lenVal) (dataLen + paddingLen)
        quickack ∧
      HeaderSays .secure (leBytes 4 lenVal) (dataLen + paddingLen)
        quickack := by
  unfold computeIntermediateSecureWireLen at hcompute
  simp only at hcompute
  split at hcompute
  · cases hcompute
  · split at hcompute
    · cases hcompute
    · next raw hencode =>
        split at hcompute
        · cases hcompute
        · cases hcompute
          have hparse := parseIntermediateHeader_encode hencode
          exact ⟨.word (by simp) (by simp) hparse, .word (by simp) (by simp) hparse⟩

theorem wire_intermediate (haccepted : frame.Accepted .intermediate) :
    ∃ header, frame.wire .intermediate = header ++ frame.data ∧
      HeaderSays .intermediate header frame.data.length (quickackOf frame.flags) := by
  obtain ⟨mode, writes, hwrite⟩ := haccepted
  cases hcompute : computeIntermediateSecureWireLen frame.data.length 0
      (quickackOf frame.flags) with
  | error error => simp [writeClientPayload, hcompute] at hwrite
  | ok answer =>
    obtain ⟨lenVal, total⟩ := answer
    refine ⟨leBytes 4 lenVal, ?_, (computeIntermediateSecureWireLen_ok hcompute).1⟩
    simp [OutFrame.wire, writeClientPayload, hcompute]

theorem wire_secure (haccepted : frame.Accepted .secure) :
    ∃ header, frame.wire .secure = header ++ (frame.data ++ frame.padding .secure) ∧
      HeaderSays .secure header (frame.wireLen .secure) (quickackOf frame.flags) ∧
      frame.data.length % 4 = 0 := by
  obtain ⟨mode, writes, hwrite⟩ := haccepted
  by_cases halign : isValidSecurePayloadLen frame.data.length
  · cases hcompute : computeIntermediateSecureWireLen frame.data.length
        (securePaddingLen frame.rng) (quickackOf frame.flags) with
    | error error => simp [writeClientPayload, halign, hcompute] at hwrite
    | ok answer =>
      obtain ⟨lenVal, total⟩ := answer
      have hwireLen : frame.wireLen .secure =
          frame.data.length + securePaddingLen frame.rng := by
        simp [OutFrame.wireLen, OutFrame.padding, length_fillBytes]
      refine ⟨leBytes 4 lenVal, ?_, ?_, ?_⟩
      · simp [OutFrame.wire, OutFrame.padding, writeClientPayload, halign, hcompute]
      · rw [hwireLen]
        exact (computeIntermediateSecureWireLen_ok hcompute).2
      · simpa [isValidSecurePayloadLen] using halign
  · simp [writeClientPayload, halign] at hwrite

theorem wire_accepted {tag : ProtoTag} (haccepted : frame.Accepted tag) :
    ∃ header, frame.wire tag = header ++ (frame.data ++ frame.padding tag) ∧
      HeaderSays tag header (frame.wireLen tag) (quickackOf frame.flags) := by
  cases tag with
  | abridged =>
    obtain ⟨header, hwire, hannounce⟩ := wire_abridged haccepted
    exact ⟨header, by simpa [OutFrame.padding] using hwire,
      by simpa [OutFrame.wireLen, OutFrame.padding] using hannounce⟩
  | intermediate =>
    obtain ⟨header, hwire, hannounce⟩ := wire_intermediate haccepted
    exact ⟨header, by simpa [OutFrame.padding] using hwire,
      by simpa [OutFrame.wireLen, OutFrame.padding] using hannounce⟩
  | secure =>
    obtain ⟨header, hwire, hannounce, _⟩ := wire_secure haccepted
    exact ⟨header, hwire, hannounce⟩

end TupoProxy.ClientFraming
