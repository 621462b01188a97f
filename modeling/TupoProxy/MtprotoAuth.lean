import TupoProxy.AuthCandidates
import TupoProxy.Obfuscation

/-!
# The candidate scan of the MTProto handshake

The 64 bytes of an obfuscated client handshake do not name their user either.  The proxy
derives a key from each candidate's secret and looks for a protocol tag in what it
decrypts.  The scan has the budget and the table of the TLS scan but fewer hints: at most
three single users and 32 slots of the recent-user ring come before the pass over all
users.  These fit into the table, so no user is checked twice.

The hash function and the keystream are arguments.
-/

namespace TupoProxy.MtprotoAuth

open ByteWords ClientFraming Obfuscation AuthCandidates List BoundedScan

structure ProxyModes where
  classic : Bool
  secure : Bool
  tls : Bool

def modeEnabledForProto (modes : ProxyModes) (protoTag : ProtoTag) (isTls : Bool) : Bool :=
  match protoTag with
  | .secure => if isTls then modes.tls else modes.secure
  | .intermediate | .abridged => modes.classic

/-- The keys of both directions before they are hashed with a secret. -/
structure HandshakeKeys where
  decPrekey : List Byte
  decIv : BitVec 128
  encPrekey : List Byte
  encIv : BitVec 128

def decPrekeyIv (handshake : List Byte) : List Byte := slice handshake skipLen (keyLen + ivLen)

def handshakeKeys (handshake : List Byte) : HandshakeKeys :=
  let dec := splitKeyIv (decPrekeyIv handshake)
  let enc := splitKeyIv (decPrekeyIv handshake).reverse
  ⟨dec.1, dec.2, enc.1, enc.2⟩

structure MtprotoCandidateValidation where
  protoTag : ProtoTag
  dcIdx : Int16
  decKey : List Byte
  decIv : BitVec 128
  encKey : List Byte
  encIv : BitVec 128
  decryptor : AesCtr
  encryptor : AesCtr
  deriving DecidableEq

structure Validation where
  sha256 : List Byte → List Byte
  keystream : Keystream
  modes : ProxyModes
  isTls : Bool

def validateMtprotoSecretCandidate (validation : Validation) (handshake : List Byte)
    (keys : HandshakeKeys) (secret : List Byte) : Option MtprotoCandidateValidation :=
  let decKey := validation.sha256 (keys.decPrekey ++ secret)
  let decrypted := (AesCtr.new decKey keys.decIv).decrypt validation.keystream handshake
  match ProtoTag.fromBytes (slice decrypted.1 protoTagPos 4) with
  | none => none
  | some protoTag =>
    if !modeEnabledForProto validation.modes protoTag validation.isTls then none
    else
      let dcIdx := i16FromLeBytes (slice decrypted.1 dcIdxPos 2)
      let encKey := validation.sha256 (keys.encPrekey ++ secret)
      some
        { protoTag := protoTag
          dcIdx := dcIdx
          decKey := decKey
          decIv := keys.decIv
          encKey := encKey
          encIv := keys.encIv
          decryptor := decrypted.2
          encryptor := .new encKey keys.encIv }

/-- The part of a handshake that the scan reads.  `overload` says whether the saturation
throttle is active. -/
structure MtprotoRequest where
  handshake : List Byte
  peerIp : IpAddr
  preferredUser : Option (List Byte)
  overload : Bool

structure MtprotoSources where
  stickyIpHint : Option ℕ
  preferredUserId : Option ℕ
  stickyPrefixHint : Option ℕ
  recent : List ℕ

def MtprotoSources.hasHint (sources : MtprotoSources) : Bool :=
  sources.stickyIpHint.isSome || sources.stickyPrefixHint.isSome ||
    sources.preferredUserId.isSome

def mtprotoSources (snapshot : UserAuthSnapshot) (shared : HandshakeSharedState)
    (request : MtprotoRequest) : MtprotoSources where
  stickyIpHint := shared.stickyUserByIp.lookup request.peerIp
  preferredUserId := request.preferredUser.bind snapshot.userIdByName
  stickyPrefixHint := shared.stickyUserByIpPrefix.lookup (ipPrefixHintKey request.peerIp)
  recent := recentUsers shared

section Scan

variable (validation : Validation) (snapshot : UserAuthSnapshot) (handshake : List Byte)

def tryUserId : ℕ → CandidateScan MtprotoCandidateValidation → ℕ →
    CandidateScan MtprotoCandidateValidation :=
  tryUserIdWith
    (validateMtprotoSecretCandidate validation handshake (handshakeKeys handshake)) snapshot

def scanSources (candidateBudget : ℕ) (sources : MtprotoSources) :
    CandidateScan MtprotoCandidateValidation :=
  let attempt := tryUserId validation snapshot handshake candidateBudget
  let scan := tryHint attempt .start sources.stickyIpHint
  let scan := tryHint attempt scan sources.preferredUserId
  let scan := tryHint attempt scan sources.stickyPrefixHint
  let scan := tryEach attempt scan sources.recent
  tryEach attempt scan (allUserIds snapshot)

end Scan

section Handshake

variable (validation : Validation) (snapshot : UserAuthSnapshot)

def scanCandidates (shared : HandshakeSharedState) (request : MtprotoRequest) :
    CandidateScan MtprotoCandidateValidation :=
  let sources := mtprotoSources snapshot shared request
  let candidateBudget :=
    budgetForValidation snapshot.entries.length request.overload sources.hasHint
  scanSources validation snapshot request.handshake candidateBudget sources

def stickyHintMaxEntries : ℕ := 65536

/-- One sticky map after a success; it is cleared when it has grown too large. -/
def stickyInsert {κ : Type*} [DecidableEq κ] (table : Table κ ℕ) (key : κ) (userId : ℕ) :
    Table κ ℕ :=
  (if stickyHintMaxEntries < table.keys.length then ∅ else table).insert key userId

def stickyHintRecordSuccess (shared : HandshakeSharedState) (peerIp : IpAddr)
    (userId : ℕ) : HandshakeSharedState :=
  { shared with
    stickyUserByIp := stickyInsert shared.stickyUserByIp peerIp userId
    stickyUserByIpPrefix :=
      stickyInsert shared.stickyUserByIpPrefix (ipPrefixHintKey peerIp) userId }

def recordRecentUserSuccess (shared : HandshakeSharedState) (userId : ℕ) :
    HandshakeSharedState :=
  let ring := shared.recentUserRing
  if ring = [] then shared
  else
    let seq := shared.recentUserRingSeq
    { shared with
      recentUserRingSeq := (seq + 1) % 2 ^ 64
      recentUserRing := ring.set (seq % ring.length) (min (userId + 1) u32Max) }

inductive MtprotoOutcome where
  | unmatched (validationChecks : ℕ) (budgetExhausted : Bool)
  | sourceDenied (user : List Byte)
  | replayed (user : List Byte)
  | success (user : List Byte) (validation : MtprotoCandidateValidation)
  deriving DecidableEq

/-- The handshake behind the pre-authentication throttle.  `sourceIpDenied` is the
per-user deny list, `replayed` the answer of the replay check to the key bytes. -/
def handleMtprotoHandshake (sourceIpDenied : List Byte → IpAddr → Bool)
    (replayed : List Byte → Bool) (shared : HandshakeSharedState) (request : MtprotoRequest) :
    MtprotoOutcome × HandshakeSharedState :=
  let scan := scanCandidates validation snapshot shared request
  let shared := countScan shared scan
  match scan.found with
  | none => (.unmatched scan.checks scan.exhausted, shared)
  | some (userId, entry, candidate) =>
    if sourceIpDenied entry.user request.peerIp then (.sourceDenied entry.user, shared)
    else if replayed (decPrekeyIv request.handshake) then (.replayed entry.user, shared)
    else
      let shared := stickyHintRecordSuccess shared request.peerIp userId
      (.success entry.user candidate, recordRecentUserSuccess shared userId)

end Handshake

/-! ## The scan as one bounded scan -/

section Bounded

variable (validation : Validation) (snapshot : UserAuthSnapshot) (handshake : List Byte)

def lookUser : ℕ → BoundedScan.Outcome (UserAuthEntry × MtprotoCandidateValidation) :=
  lookUserWith
    (validateMtprotoSecretCandidate validation handshake (handshakeKeys handshake)) snapshot

def hinted (sources : MtprotoSources) : List ℕ :=
  sources.stickyIpHint.toList ++ (sources.preferredUserId.toList ++
    (sources.stickyPrefixHint.toList ++ sources.recent))

variable {validation snapshot handshake} {budget : ℕ}

theorem scanSources_eq_scan (sources : MtprotoSources) :
    scanSources validation snapshot handshake budget sources =
      BoundedScan.scan candidateHintTrackCap budget (lookUser validation snapshot handshake) .start
        (hinted sources ++ allUserIds snapshot) := by
  have hstart : SpentWhenExhausted budget
      (.start : CandidateScan MtprotoCandidateValidation) := nofun
  obtain ⟨hip, hipSpent⟩ := @tryHint_eq_scan _ (validateMtprotoSecretCandidate validation handshake
    (handshakeKeys handshake)) snapshot _ _ sources.stickyIpHint hstart
  obtain ⟨huser, huserSpent⟩ := tryHint_eq_scan sources.preferredUserId hipSpent
  obtain ⟨hpast, -⟩ := tryHint_eq_scan sources.stickyPrefixHint huserSpent
  unfold scanSources hinted tryUserId lookUser
  simp only [tryEach_eq_scan, scan_append]
  rw [hpast, huser, hip]

theorem lookUser_accepted {userId : ℕ} {value : UserAuthEntry × MtprotoCandidateValidation}
    (hlook : lookUser validation snapshot handshake userId = .accepted value) :
    snapshot.entryById userId = some value.1 ∧
      validateMtprotoSecretCandidate validation handshake (handshakeKeys handshake)
        value.1.secret = some value.2 := by
  unfold lookUser lookUserWith at hlook
  split at hlook
  · cases hlook
  · next entry hentry =>
    split at hlook
    · cases hlook
    · next candidate hcandidate =>
      cases hlook
      exact ⟨hentry, hcandidate⟩

end Bounded

theorem length_recentUsers (shared : HandshakeSharedState) :
    (recentUsers shared).length ≤ recentUserRingScanLimit := by
  refine (length_filterMap_le _ _).trans ?_
  rw [length_range]
  exact Nat.min_le_right _ _

theorem length_hinted (snapshot : UserAuthSnapshot) (shared : HandshakeSharedState)
    (request : MtprotoRequest) :
    (hinted (mtprotoSources snapshot shared request)).length ≤ candidateHintTrackCap := by
  have hone : ∀ hint : Option ℕ, hint.toList.length ≤ 1 := by
    intro hint
    cases hint <;> simp
  have hip := hone (mtprotoSources snapshot shared request).stickyIpHint
  have huser := hone (mtprotoSources snapshot shared request).preferredUserId
  have hpast := hone (mtprotoSources snapshot shared request).stickyPrefixHint
  have hring : (mtprotoSources snapshot shared request).recent.length ≤ 32 :=
    length_recentUsers shared
  simp only [hinted, length_append, candidateHintTrackCap]
  omega

theorem budget_le (users : ℕ) (overload hasHint : Bool) :
    budgetForValidation users overload hasHint ≤ users := by
  unfold budgetForValidation
  split
  · exact Nat.zero_le _
  · split
    · exact Nat.le_refl _
    · exact Nat.min_le_left _ _

theorem scanCandidates_checks_le (validation : Validation) (snapshot : UserAuthSnapshot)
    (shared : HandshakeSharedState) (request : MtprotoRequest) :
    (scanCandidates validation snapshot shared request).checks ≤ snapshot.entries.length := by
  unfold scanCandidates
  rw [scanSources_eq_scan]
  exact (scan_checks_le (Nat.zero_le _) _).trans (budget_le _ _ _)

/-- Whatever the hints and the ring hold: when the throttle is not active and some user
verifies the handshake, the scan finds a user who does.  It never makes more checks than
there are users. -/
theorem scanCandidates_complete (validation : Validation) (snapshot : UserAuthSnapshot)
    (shared : HandshakeSharedState) (request : MtprotoRequest)
    (hoverload : request.overload = false)
    (hverifies : ∃ userId entry, snapshot.entryById userId = some entry ∧
      (validateMtprotoSecretCandidate validation request.handshake
        (handshakeKeys request.handshake) entry.secret).isSome) :
    (∃ userId entry candidate, (scanCandidates validation snapshot shared request).found =
        some (userId, entry, candidate) ∧ snapshot.entryById userId = some entry ∧
      validateMtprotoSecretCandidate validation request.handshake
        (handshakeKeys request.handshake) entry.secret = some candidate) ∧
    (scanCandidates validation snapshot shared request).checks ≤ snapshot.entries.length := by
  refine ⟨?_, scanCandidates_checks_le validation snapshot shared request⟩
  obtain ⟨userId, entry, hentry, hvalid⟩ := hverifies
  have hbound : userId < snapshot.entries.length := (List.getElem?_eq_some_iff.mp hentry).1
  have haccepts :
      (lookUser validation snapshot request.handshake userId).accepts = true := by
    obtain ⟨candidate, hcandidate⟩ := Option.isSome_iff_exists.mp hvalid
    rw [lookUser, lookUserWith, hentry]
    simp only [hcandidate]
    rfl
  have hmem : userId ∈ hinted (mtprotoSources snapshot shared request) ++
      range snapshot.entries.length := mem_append_right _ (mem_range.mpr hbound)
  obtain ⟨first, value, hlook, hfound⟩ :=
    scan_short lookUserWith_present (length_hinted snapshot shared request)
      nodup_range ⟨userId, hmem, haccepts⟩
  have hscan : scanCandidates validation snapshot shared request =
      scan candidateHintTrackCap (Finset.range snapshot.entries.length).card
        (lookUser validation snapshot request.handshake) .start
        (hinted (mtprotoSources snapshot shared request) ++ range snapshot.entries.length) := by
    unfold scanCandidates
    rw [scanSources_eq_scan, allUserIds_eq, budgetForValidation, if_neg (by omega), hoverload,
      Finset.card_range]
    rfl
  rw [hscan]
  exact ⟨first, value.1, value.2, hfound, lookUser_accepted hlook⟩

/-- The part of a sample handshake before its tag is plain; the tag, the index and two
filler bytes are encrypted for the second of two secrets. -/
def sampleHandshake : List Byte :=
  (List.range 56).map (fun index => UInt8.ofNat (0x10 + index)) ++
    [0x4f, 0x31, 0xca, 0x69, 0xca, 0xa0, 0x8e, 0x85]

def firstKey : List Byte :=
  [0xf0, 0x9b, 0xa7, 0x11, 0xd8, 0xb8, 0xd6, 0x12, 0xf9, 0x34, 0x61, 0xcb, 0xb5, 0xfa,
    0x91, 0x39, 0xed, 0xe7, 0x59, 0x45, 0x55, 0xbf, 0x05, 0xdd, 0xde, 0x68, 0x34, 0x82,
    0x90, 0xf3, 0x18, 0x6b]

def secondKey : List Byte :=
  [0x25, 0x78, 0x08, 0x34, 0x9e, 0x98, 0x83, 0x32, 0xba, 0x9a, 0xc2, 0xe4, 0xfa, 0xad,
    0x88, 0x19, 0x71, 0x4a, 0xdd, 0xa2, 0x06, 0x68, 0xd9, 0x9e, 0x42, 0x11, 0xb0, 0xfb,
    0x98, 0xd7, 0xd6, 0x44]

/-- SHA-256 of the decryption prekey with each secret, and of the other prekey with the
second one. -/
def sampleSha256 (message : List Byte) : List Byte :=
  if message.drop 32 = firstSecret then firstKey
  else if message.getD 0 0 = 0x18 then secondKey
  else
    [0x36, 0xba, 0x5d, 0x9d, 0x58, 0xc0, 0xd7, 0xb9, 0x41, 0x85, 0x31, 0x29, 0xbb, 0xd4,
      0xf9, 0x18, 0x43, 0x44, 0x9d, 0x90, 0x17, 0x17, 0xff, 0x65, 0x85, 0x50, 0x2c, 0x0b,
      0x59, 0x2d, 0xf4, 0xbb]

/-- The keystreams of the two keys behind the plain part. -/
def sampleKeystream (key : List Byte) (_iv : BitVec 128) (position : ℕ) : Byte :=
  if position < 56 then 0
  else if key = firstKey then
    [0xbe, 0xdc, 0x0e, 0x78, 0x76, 0xf0, 0x0f, 0xaa].getD (position - 56) 0
  else [0x92, 0xec, 0x17, 0xb4, 0xc8, 0xa0, 0x8e, 0x85].getD (position - 56) 0

def sampleValidation : Validation :=
  ⟨sampleSha256, sampleKeystream, ⟨false, true, true⟩, false⟩

/-- The sticky map points to the wrong user and the ring to no user at all. -/
def misledShared : HandshakeSharedState :=
  { freshShared with
    stickyUserByIp := AList.insert (.v4 192 0 2 1) 0 ∅
    recentUserRing := List.replicate 64 9 }

def sampleMtproto : MtprotoRequest := ⟨sampleHandshake, .v4 192 0 2 1, none, false⟩

theorem scanCandidates_complete_misled :
    ∃ userId entry candidate,
      (scanCandidates sampleValidation (sampleSnapshot 2) misledShared sampleMtproto).found =
        some (userId, entry, candidate) ∧ entry.user = [98] := by
  have hverifies : ∃ userId entry, (sampleSnapshot 2).entryById userId = some entry ∧
      (validateMtprotoSecretCandidate sampleValidation sampleMtproto.handshake
        (handshakeKeys sampleMtproto.handshake) entry.secret).isSome :=
    ⟨2, ⟨[98], secondSecret⟩, by decide +kernel, by decide +kernel⟩
  obtain ⟨⟨userId, entry, candidate, hfound, -, -⟩, -⟩ :=
    scanCandidates_complete sampleValidation (sampleSnapshot 2) misledShared sampleMtproto rfl
      hverifies
  have huser : ((scanCandidates sampleValidation (sampleSnapshot 2) misledShared
      sampleMtproto).found.map fun found => found.2.1.user) = some [98] := by
    decide +kernel
  rw [hfound] at huser
  exact ⟨userId, entry, candidate, hfound, Option.some.inj huser⟩

end TupoProxy.MtprotoAuth
