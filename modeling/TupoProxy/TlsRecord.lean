import TupoProxy.Delivery

/-!
# TLS record headers and the record grammar

The first half is the header type of the fake-TLS streams: parsing, the
validation policy and serialization.  The second half states the record
grammar on whole byte strings, without any notion of partial reads: which
bytes a stream of records carries and how it ends.  The polling reader and
the polling writer are both measured against it.
-/

namespace TupoProxy.TlsRecord

open ByteWords List

def tlsHeaderSize : ℕ := 5

def tlsRecordChangeCipher : Byte := 0x14
def tlsRecordAlert : Byte := 0x15
def tlsRecordHandshake : Byte := 0x16
def tlsRecordApplication : Byte := 0x17

def tlsVersion : Byte × Byte := (0x03, 0x03)

def maxTlsPlaintextSize : ℕ := 16384
def maxTlsCiphertextSize : ℕ := 16384 + 256
def maxTlsPayload : ℕ := maxTlsCiphertextSize

inductive ErrorKind where
  | invalidData
  | unexpectedEof
  | writeZero
  | other
  deriving Repr, DecidableEq

/-- The errors of the fake-TLS streams, one constructor for each place that
builds one, with the values its text shows. -/
inductive TlsError where
  | invalidVersion (version : Byte × Byte)
  | invalidVersionForType (recordType : Byte) (version : Byte × Byte)
  | invalidApplicationLength (length : ℕ)
  | invalidChangeCipherLength (length : ℕ)
  | invalidAlertLength (length : ℕ)
  | invalidHandshakeLength (length : ℕ)
  | unknownRecordType (recordType : Byte)
  | unexpectedHandshake
  | unparsedHeader
  | eofInHeader (got : ℕ)
  | eofInBody (got expected : ℕ)
  | previouslyPoisoned
  | zeroWrite
  | upstream (kind : ErrorKind)
  deriving Repr, DecidableEq

structure TlsRecordHeader where
  recordType : Byte
  version : Byte × Byte
  length : ℕ
  deriving Repr, DecidableEq

namespace TlsRecordHeader

def parse : List Byte → Option TlsRecordHeader
  | [recordType, major, minor, high, low] =>
    some {
      recordType := recordType
      version := (major, minor)
      length := beNat [high, low] }
  | _ => none

def validate (header : TlsRecordHeader) :
    Except TlsError Unit :=
  if header.version ≠ (0x03, 0x01) ∧ header.version ≠ tlsVersion then
    .error (.invalidVersion header.version)
  else if header.recordType ≠ tlsRecordHandshake ∧
      header.version ≠ tlsVersion then
    .error (.invalidVersionForType header.recordType header.version)
  else if header.recordType = tlsRecordApplication then
    if header.length = 0 ∨ maxTlsCiphertextSize < header.length then
      .error (.invalidApplicationLength header.length)
    else .ok ()
  else if header.recordType = tlsRecordChangeCipher then
    if header.length ≠ 1 then
      .error (.invalidChangeCipherLength header.length)
    else .ok ()
  else if header.recordType = tlsRecordAlert then
    if header.length ≠ 2 then
      .error (.invalidAlertLength header.length)
    else .ok ()
  else if header.recordType = tlsRecordHandshake then
    if ¬ (4 ≤ header.length ∧ header.length ≤ maxTlsPlaintextSize) then
      .error (.invalidHandshakeLength header.length)
    else .ok ()
  else .error (.unknownRecordType header.recordType)

/-- Header bytes, with the length cut to its low sixteen bits. -/
def toBytes (header : TlsRecordHeader) : List Byte :=
  [header.recordType, header.version.1, header.version.2] ++
    beBytes 2 header.length

theorem parse_toBytes (header : TlsRecordHeader) (hlength : header.length < 65536) :
    parse header.toBytes = some header := by
  have hword : beNat (beBytes 2 header.length) = header.length :=
    beNat_beBytes_of_lt (by simpa using hlength)
  simp only [beBytes, leBytes, reverse_cons, reverse_nil, nil_append, cons_append] at hword
  simp only [toBytes, beBytes, leBytes, reverse_cons, reverse_nil,
    nil_append, cons_append, parse, hword]

theorem parse_isSome {bytes : List Byte} (hlength : bytes.length = tlsHeaderSize) :
    ∃ header, parse bytes = some header := by
  match bytes, hlength with
  | [recordType, major, minor, high, low], _ => exact ⟨_, rfl⟩

theorem validate_length_pos {header : TlsRecordHeader}
    (hvalid : header.validate = .ok ()) : 0 < header.length := by
  unfold validate at hvalid
  split_ifs at hvalid <;> omega

theorem validate_application {header : TlsRecordHeader}
    (hvalid : header.validate = .ok ()) (htype : header.recordType = tlsRecordApplication) :
    header.length ≤ maxTlsPayload := by
  have hmax : maxTlsPayload = maxTlsCiphertextSize := rfl
  unfold validate at hvalid
  split_ifs at hvalid
  omega

end TlsRecordHeader

/-- How a stream of records ends for its reader. -/
inductive Ending where
  | eof
  | error (error : TlsError)
  deriving Repr, DecidableEq

/-- What a record with this header contributes once its body is complete,
given what the rest of the stream contributes. -/
def recordMeaning (recordType : Byte) (body : List Byte)
    (rest : List Byte × Ending) : List Byte × Ending :=
  if recordType = tlsRecordChangeCipher then rest
  else if recordType = tlsRecordApplication then (body ++ rest.1, rest.2)
  else if recordType = tlsRecordAlert then ([], .eof)
  else if recordType = tlsRecordHandshake then ([], .error .unexpectedHandshake)
  else ([], .error (.unknownRecordType recordType))

/-- The application bytes carried by a byte stream and the way it ends. -/
def recordStream (stream : List Byte) : List Byte × Ending :=
  if stream = [] then ([], .eof)
  else
    match TlsRecordHeader.parse (stream.take tlsHeaderSize) with
    | none => ([], .error (.eofInHeader stream.length))
    | some header =>
      match header.validate with
      | .error error => ([], .error error)
      | .ok () =>
        let rest := stream.drop tlsHeaderSize
        if rest.length < header.length then
          ([], .error (.eofInBody rest.length header.length))
        else
          recordMeaning header.recordType (rest.take header.length)
            (recordStream (rest.drop header.length))
  termination_by stream.length
  decreasing_by
    simp only [tlsHeaderSize, List.length_drop]
    cases stream with
    | nil => contradiction
    | cons => simp; omega

/-- The same meaning from the point where a valid header has been read. -/
def bodyStream (recordType : Byte) (length : ℕ) (stream : List Byte) :
    List Byte × Ending :=
  if stream.length < length then
    ([], .error (.eofInBody stream.length length))
  else
    recordMeaning recordType (stream.take length)
      (recordStream (stream.drop length))

@[simp] theorem recordStream_nil : recordStream [] = ([], .eof) := by
  rw [recordStream]
  simp

variable {stream : List Byte}

theorem recordStream_shortHeader (hpos : stream ≠ []) (hshort : stream.length < tlsHeaderSize) :
    recordStream stream = ([], .error (.eofInHeader stream.length)) := by
  have hparse : TlsRecordHeader.parse (stream.take tlsHeaderSize) = none := by
    rw [take_of_length_le (by omega)]
    match stream, hshort with
    | [], _ => rfl
    | [_], _ => rfl
    | [_, _], _ => rfl
    | [_, _, _], _ => rfl
    | [_, _, _, _], _ => rfl
  rw [recordStream, if_neg hpos, hparse]

variable {bytes rest : List Byte} {header : TlsRecordHeader}

section

variable (hlength : bytes.length = tlsHeaderSize)
  (hparse : TlsRecordHeader.parse bytes = some header)
include hlength hparse

theorem recordStream_invalidHeader {error : TlsError} (hinvalid : header.validate = .error error) :
    recordStream (bytes ++ rest) = ([], .error error) := by
  have hpos : bytes ++ rest ≠ [] := by
    intro hnil
    have : (bytes ++ rest).length = 0 := by rw [hnil]; rfl
    simp only [length_append, hlength, tlsHeaderSize] at this
    omega
  rw [recordStream, if_neg hpos, ← hlength, take_left, hparse]
  simp only [hinvalid]

theorem recordStream_validHeader (hvalid : header.validate = .ok ()) :
    recordStream (bytes ++ rest) = bodyStream header.recordType header.length rest := by
  have hpos : bytes ++ rest ≠ [] := by
    intro hnil
    have : (bytes ++ rest).length = 0 := by rw [hnil]; rfl
    simp only [length_append, hlength, tlsHeaderSize] at this
    omega
  rw [recordStream, if_neg hpos, ← hlength, take_left, hparse]
  simp only [hvalid, drop_left]
  rfl

end

variable {recordType : Byte}

theorem bodyStream_short {length : ℕ} (hshort : stream.length < length) :
    bodyStream recordType length stream = ([], .error (.eofInBody stream.length length)) := by
  simp [bodyStream, hshort]

theorem bodyStream_append (body rest : List Byte) :
    bodyStream recordType body.length (body ++ rest) =
      recordMeaning recordType body (recordStream rest) := by
  simp [bodyStream]

/-! ## Streams of application records -/

def applicationRecord (payload : List Byte) : List Byte :=
  TlsRecordHeader.toBytes {
    recordType := tlsRecordApplication
    version := tlsVersion
    length := payload.length } ++ payload

theorem recordStream_applicationRecord {payload : List Byte}
    (hpos : 0 < payload.length) (hmax : payload.length ≤ maxTlsPayload) (rest : List Byte) :
    recordStream (applicationRecord payload ++ rest) =
      (payload ++ (recordStream rest).1, (recordStream rest).2) := by
  have hsize : payload.length ≤ 16640 := hmax
  have hparse := TlsRecordHeader.parse_toBytes {
    recordType := tlsRecordApplication
    version := tlsVersion
    length := payload.length } (by simp only; omega)
  have hvalid : TlsRecordHeader.validate {
      recordType := tlsRecordApplication
      version := tlsVersion
      length := payload.length } = .ok () := by
    have hbound : ¬ (payload.length = 0 ∨
        maxTlsCiphertextSize < payload.length) := by
      simp only [maxTlsCiphertextSize]
      omega
    simp only [TlsRecordHeader.validate, if_neg hbound]
    simp
  rw [applicationRecord, append_assoc,
    recordStream_validHeader (by simp [TlsRecordHeader.toBytes, tlsHeaderSize])
      hparse hvalid, bodyStream_append]
  simp [recordMeaning, tlsRecordApplication, tlsRecordChangeCipher]

/-- A concatenation of application records of legal size carries exactly the
concatenated payloads and ends on a record boundary. -/
theorem recordStream_applicationRecords {payloads : List (List Byte)}
    (hsizes : ∀ payload ∈ payloads, 0 < payload.length ∧ payload.length ≤ maxTlsPayload) :
    recordStream (payloads.map applicationRecord).flatten = (payloads.flatten, .eof) := by
  induction payloads with
  | nil => simp
  | cons payload payloads ih =>
    obtain ⟨hpos, hmax⟩ := hsizes payload (by simp)
    rw [map_cons, flatten_cons, recordStream_applicationRecord hpos hmax,
      ih (fun other hmem => hsizes other (by simp [hmem]))]
    simp

end TupoProxy.TlsRecord
