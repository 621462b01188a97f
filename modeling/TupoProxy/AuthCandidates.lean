import TupoProxy.TlsAuth
import TupoProxy.NetAddr
import TupoProxy.KeyedTotal
import TupoProxy.BoundedScan
import Mathlib.Data.List.TakeWhile

/-!
# The candidate scan of the TLS handshake

The proxy does not know which user a ClientHello belongs to.  It tries the
users that hints point to, then the users whose name fits the SNI, then recent
users, and then every user of the snapshot.  Ids that were tried are remembered
in a table of 64 slots, and the number of checks is bounded by a budget.

User names and secrets are byte strings.  The order of the users is the order
in which the source iterates over its hash map.  The hash of the standard
library is an argument, and so is HMAC.
-/

namespace TupoProxy.AuthCandidates

open TlsAuth List BoundedScan

def accessSecretBytes : ℕ := 16
def candidateHintTrackCap : ℕ := 64
def overloadCandidateBudgetHinted : ℕ := 16
def overloadCandidateBudgetUnhinted : ℕ := 8
def recentUserRingScanLimit : ℕ := 32

structure UserAuthEntry where
  user : List Byte
  secret : List Byte
  deriving Repr, DecidableEq

/-- The snapshot of all users.  Ids are positions in `entries` and fit into
32 bits. -/
structure UserAuthSnapshot where
  entries : List UserAuthEntry
  byName : Table (List Byte) ℕ
  sniIndex : Table ℕ (List ℕ)
  sniInitialIndex : Table Byte (List ℕ)
  bounded : entries.length ≤ u32Max + 1

inductive ProxyError where
  | invalidSecret (user : List Byte) (reason : String)
  | config (reason : String)
  deriving Repr, DecidableEq

def toAsciiLowercase (byte : Byte) : Byte :=
  if 65 ≤ byte ∧ byte ≤ 90 then byte + 32 else byte

def hexDigit? (byte : Byte) : Option ℕ :=
  if 48 ≤ byte ∧ byte ≤ 57 then some (byte.toNat - 48)
  else if 97 ≤ byte ∧ byte ≤ 102 then some (byte.toNat - 87)
  else if 65 ≤ byte ∧ byte ≤ 70 then some (byte.toNat - 55)
  else none

def hexDecode : List Byte → Option (List Byte)
  | [] => some []
  | [_] => none
  | high :: low :: rest =>
    match hexDigit? high, hexDigit? low, hexDecode rest with
    | some h, some l, some bytes => some (UInt8.ofNat (16 * h + l) :: bytes)
    | _, _, _ => none

/-- The list at a key, with one more id at its end. -/
def pushId {κ : Type*} [DecidableEq κ] (index : Table κ (List ℕ)) (key : κ) (id : ℕ) :
    Table κ (List ℕ) :=
  index.insert key ((index.lookup key).getD [] ++ [id])

namespace UserAuthSnapshot

def empty : UserAuthSnapshot := ⟨[], ∅, ∅, ∅, Nat.zero_le _⟩

section Index

variable (hash : List Byte → ℕ)

def sniLookupHash (value : List Byte) : ℕ := hash (value.map toAsciiLowercase)

def addUser (snapshot : UserAuthSnapshot) (user secretHex : List Byte) :
    Except ProxyError UserAuthSnapshot :=
  match hexDecode secretHex with
  | none => .error (.invalidSecret user "Must be 32 hex characters")
  | some secret =>
    if secret.length ≠ accessSecretBytes then
      .error (.invalidSecret user "Must be 32 hex characters")
    else if hlen : snapshot.entries.length ≤ u32Max then
      let userId := snapshot.entries.length
      .ok
        { entries := snapshot.entries ++ [⟨user, secret⟩]
          byName := snapshot.byName.insert user userId
          sniIndex := pushId snapshot.sniIndex (sniLookupHash hash user) userId
          sniInitialIndex :=
            match user.head? with
            | none => snapshot.sniInitialIndex
            | some first =>
              pushId snapshot.sniInitialIndex (toAsciiLowercase first) userId
          bounded := by simp only [List.length_append, List.length_singleton]; omega }
    else .error (.config "Too many users for runtime auth snapshot")

def fromUsers (users : List (List Byte × List Byte)) :
    Except ProxyError UserAuthSnapshot :=
  users.foldlM (fun snapshot user => snapshot.addUser hash user.1 user.2) empty

def sniCandidates (snapshot : UserAuthSnapshot) (sni : List Byte) : Option (List ℕ) :=
  snapshot.sniIndex.lookup (sniLookupHash hash sni)

end Index

def userIdByName (snapshot : UserAuthSnapshot) (user : List Byte) : Option ℕ :=
  snapshot.byName.lookup user

def entryById (snapshot : UserAuthSnapshot) (userId : ℕ) : Option UserAuthEntry :=
  snapshot.entries[userId]?

def sniInitialCandidates (snapshot : UserAuthSnapshot) (sni : List Byte) :
    Option (List ℕ) :=
  sni.head?.bind fun first => snapshot.sniInitialIndex.lookup (toAsciiLowercase first)

end UserAuthSnapshot

structure HandshakeSharedState where
  stickyUserByIp : Table IpAddr ℕ
  stickyUserByIpPrefix : Table ℕ ℕ
  stickyUserBySniHash : Table ℕ ℕ
  recentUserRing : List ℕ
  recentUserRingSeq : ℕ
  authExpensiveChecksTotal : ℕ
  authBudgetExhaustedTotal : ℕ

def ipPrefixHintKey : IpAddr → ℕ
  | .v4 a b c _ => ByteWords.beNat [0x04, a, b, c, 0, 0, 0, 0]
  | .v6 octets => ByteWords.beNat (0x06 :: octets.val.take 7)

/-- The ids in the part of the recent-user ring that the scan reads, newest
first.  A slot holds an id plus one, or zero when it was never written. -/
def recentUsers (shared : HandshakeSharedState) : List ℕ :=
  let ring := shared.recentUserRing
  (List.range (min ring.length recentUserRingScanLimit)).filterMap fun offset =>
    let idx := (shared.recentUserRingSeq + ring.length - 1 - offset) % ring.length
    match ring.getD idx 0 with
    | 0 => none
    | userId + 1 => some userId

def budgetForValidation (totalUsers : ℕ) (overload hasHint : Bool) : ℕ :=
  if totalUsers = 0 then 0
  else if !overload then totalUsers
  else
    let cap :=
      if hasHint then overloadCandidateBudgetHinted else overloadCandidateBudgetUnhinted
    min totalUsers (max cap 1)

/-- The part of a handshake that the scan reads.  `overload` says whether the
saturation throttle is active. -/
structure TlsAuthRequest where
  handshake : List Byte
  peerIp : IpAddr
  preferredUserHint : Option (List Byte)
  clientSni : Option (List Byte)
  ignoreTimeSkew : Bool
  replayWindowSecs : ℕ
  clock : Option ℕ
  overload : Bool

structure CandidateSources where
  stickyIpHint : Option ℕ
  preferredUserId : Option ℕ
  stickySniHint : Option ℕ
  stickyPrefixHint : Option ℕ
  sniCandidates : Option (List ℕ)
  sniInitialCandidates : Option (List ℕ)
  recent : List ℕ
  deriving Repr, DecidableEq

def CandidateSources.hasHint (sources : CandidateSources) : Bool :=
  sources.stickyIpHint.isSome || sources.preferredUserId.isSome ||
    sources.stickySniHint.isSome || sources.stickyPrefixHint.isSome ||
    sources.sniCandidates.any (fun ids => !ids.isEmpty) ||
    sources.sniInitialCandidates.any (fun ids => !ids.isEmpty)

/-- A scan in which a verified secret gives a value of type `γ`. -/
abbrev CandidateScan (γ : Type*) := BoundedScan.State ℕ (UserAuthEntry × γ)

/-- Whether the id is new, and the filled slots of the table afterwards. -/
def markCandidateIfNew (triedUserIds : List ℕ) (userId : ℕ) : Bool × List ℕ :=
  if userId ∈ triedUserIds then (false, triedUserIds)
  else if triedUserIds.length < candidateHintTrackCap then
    (true, triedUserIds ++ [userId])
  else (true, triedUserIds)

def allUserIds (snapshot : UserAuthSnapshot) : List ℕ :=
  (List.range snapshot.entries.length).takeWhile fun idx => decide (idx ≤ u32Max)

section Attempt

variable {γ : Type*}

/-- One candidate of a scan that checks secrets with `validate`. -/
def tryUserIdWith (validate : List Byte → Option γ) (snapshot : UserAuthSnapshot)
    (candidateBudget : ℕ) (scan : CandidateScan γ) (userId : ℕ) : CandidateScan γ :=
  if candidateBudget ≤ scan.checks then { scan with exhausted := true }
  else
    match markCandidateIfNew scan.tried userId with
    | (false, _) => scan
    | (true, tried) =>
      match snapshot.entryById userId with
      | none => { scan with tried := tried }
      | some entry =>
        match validate entry.secret with
        | some candidate =>
          { scan with
            tried := tried
            checks := scan.checks + 1
            found := some (userId, entry, candidate) }
        | none => { scan with tried := tried, checks := scan.checks + 1 }

def tryHint (attempt : CandidateScan γ → ℕ → CandidateScan γ) (scan : CandidateScan γ) :
    Option ℕ → CandidateScan γ
  | none => scan
  | some userId => if scan.found.isSome then scan else attempt scan userId

def tryEach (attempt : CandidateScan γ → ℕ → CandidateScan γ) :
    CandidateScan γ → List ℕ → CandidateScan γ
  | scan, [] => scan
  | scan, userId :: userIds =>
    if scan.stopped then scan else tryEach attempt (attempt scan userId) userIds

def countScan (shared : HandshakeSharedState) (scan : CandidateScan γ) :
    HandshakeSharedState :=
  { shared with
    authExpensiveChecksTotal := shared.authExpensiveChecksTotal + scan.checks
    authBudgetExhaustedTotal :=
      shared.authBudgetExhaustedTotal + if scan.exhausted then 1 else 0 }

end Attempt

section Scan

variable (hash : List Byte → ℕ) (hmac : List Byte → List Byte → List Byte)

def candidateSources (snapshot : UserAuthSnapshot) (shared : HandshakeSharedState)
    (request : TlsAuthRequest) : CandidateSources where
  stickyIpHint := shared.stickyUserByIp.lookup request.peerIp
  preferredUserId := request.preferredUserHint.bind snapshot.userIdByName
  stickySniHint :=
    request.clientSni.bind fun sni =>
      shared.stickyUserBySniHash.lookup (hash (sni.map toAsciiLowercase))
  stickyPrefixHint := shared.stickyUserByIpPrefix.lookup (ipPrefixHintKey request.peerIp)
  sniCandidates := request.clientSni.bind (snapshot.sniCandidates hash)
  sniInitialCandidates := request.clientSni.bind snapshot.sniInitialCandidates
  recent := recentUsers shared

def tryUserId (snapshot : UserAuthSnapshot) (parsed : ParsedTlsAuthMaterial)
    (handshake : List Byte) :
    ℕ → CandidateScan TlsCandidateValidation → ℕ → CandidateScan TlsCandidateValidation :=
  tryUserIdWith (validateTlsSecretCandidate hmac parsed handshake) snapshot

def scanSources (snapshot : UserAuthSnapshot) (parsed : ParsedTlsAuthMaterial)
    (handshake : List Byte) (candidateBudget : ℕ) (sources : CandidateSources) :
    CandidateScan TlsCandidateValidation :=
  let attempt := tryUserId hmac snapshot parsed handshake candidateBudget
  let scan := tryHint attempt .start sources.stickyIpHint
  let scan := tryHint attempt scan sources.preferredUserId
  let scan := tryHint attempt scan sources.stickySniHint
  let scan := tryHint attempt scan sources.stickyPrefixHint
  let scan := tryEach attempt scan (sources.sniCandidates.getD [])
  let scan := tryEach attempt scan (sources.sniInitialCandidates.getD [])
  let scan := tryEach attempt scan sources.recent
  tryEach attempt scan (allUserIds snapshot)

def scanCandidates (snapshot : UserAuthSnapshot) (shared : HandshakeSharedState)
    (request : TlsAuthRequest) (parsed : ParsedTlsAuthMaterial) :
    CandidateScan TlsCandidateValidation :=
  let sources := candidateSources hash snapshot shared request
  let candidateBudget :=
    budgetForValidation snapshot.entries.length request.overload sources.hasHint
  scanSources hmac snapshot parsed request.handshake candidateBudget sources

structure TlsClientValidation where
  digest : List Byte
  sessionId : List Byte
  sessionIdLen : ℕ
  user : List Byte
  secret : List Byte
  userId : Option ℕ
  deriving Repr, DecidableEq

inductive TlsClientOutcome where
  | unparsed
  | unmatched (validationChecks : ℕ) (budgetExhausted : Bool)
  | sourceDenied (user : List Byte)
  | validated (validation : TlsClientValidation)
  deriving Repr, DecidableEq

/-- The authentication of a ClientHello against a user snapshot.
`sourceIpDenied` is the per-user deny list of source addresses. -/
def validateTlsClient (sourceIpDenied : List Byte → IpAddr → Bool)
    (snapshot : UserAuthSnapshot) (shared : HandshakeSharedState)
    (request : TlsAuthRequest) : TlsClientOutcome × HandshakeSharedState :=
  match parseTlsAuthMaterial request.clock request.handshake request.ignoreTimeSkew
      request.replayWindowSecs with
  | none => (.unparsed, shared)
  | some parsed =>
    let scan := scanCandidates hash hmac snapshot shared request parsed
    match scan.found with
    | none => (.unmatched scan.checks scan.exhausted, countScan shared scan)
    | some (userId, entry, candidate) =>
      if sourceIpDenied entry.user request.peerIp then
        (.sourceDenied entry.user, countScan shared scan)
      else
        (.validated
          { digest := candidate.digest
            sessionId := candidate.sessionId
            sessionIdLen := candidate.sessionIdLen
            user := entry.user
            secret := entry.secret
            userId := some userId },
          countScan shared scan)

/-! ## The scan as one bounded scan -/

def lookUserWith {γ : Type*} (validate : List Byte → Option γ) (snapshot : UserAuthSnapshot)
    (userId : ℕ) : BoundedScan.Outcome (UserAuthEntry × γ) :=
  match snapshot.entryById userId with
  | none => .absent
  | some entry =>
    match validate entry.secret with
    | none => .refused
    | some candidate => .accepted (entry, candidate)

def lookUser (snapshot : UserAuthSnapshot) (parsed : ParsedTlsAuthMaterial)
    (handshake : List Byte) :
    ℕ → BoundedScan.Outcome (UserAuthEntry × TlsCandidateValidation) :=
  lookUserWith (validateTlsSecretCandidate hmac parsed handshake) snapshot

def candidateOrder (snapshot : UserAuthSnapshot) (sources : CandidateSources) : List ℕ :=
  sources.stickyIpHint.toList ++ (sources.preferredUserId.toList ++
    (sources.stickySniHint.toList ++ (sources.stickyPrefixHint.toList ++
      (sources.sniCandidates.getD [] ++ (sources.sniInitialCandidates.getD [] ++
        (sources.recent ++ allUserIds snapshot))))))

theorem markCandidateIfNew_eq (triedUserIds : List ℕ) (userId : ℕ) :
    markCandidateIfNew triedUserIds userId = (decide (userId ∉ triedUserIds),
        BoundedScan.mark candidateHintTrackCap triedUserIds userId) := by
  unfold markCandidateIfNew mark
  by_cases hmem : userId ∈ triedUserIds
  · simp [hmem]
  · by_cases hroom : triedUserIds.length < candidateHintTrackCap <;> simp [hmem, hroom]

section Bounded

variable {γ : Type*} {validate : List Byte → Option γ} {snapshot : UserAuthSnapshot}
  {budget : ℕ} (scan : CandidateScan γ)

theorem tryUserIdWith_eq_attempt (userId : ℕ) :
    tryUserIdWith validate snapshot budget scan userId =
      BoundedScan.attempt candidateHintTrackCap budget (lookUserWith validate snapshot) scan
        userId := by
  unfold tryUserIdWith attempt lookUserWith
  rw [markCandidateIfNew_eq]
  by_cases hbudget : budget ≤ scan.checks
  · rw [if_pos hbudget, if_pos hbudget]
  · rw [if_neg hbudget, if_neg hbudget]
    by_cases hmem : userId ∈ scan.tried
    · simp [hmem]
    · simp only [hmem, not_false_eq_true, decide_true, if_false]
      cases snapshot.entryById userId with
      | none => rfl
      | some entry =>
        dsimp only
        cases validate entry.secret <;> rfl

theorem tryEach_eq_scan (userIds : List ℕ) :
    tryEach (tryUserIdWith validate snapshot budget) scan userIds =
      BoundedScan.scan candidateHintTrackCap budget (lookUserWith validate snapshot) scan
        userIds := by
  induction userIds generalizing scan with
  | nil => rfl
  | cons userId userIds ih =>
    rw [tryEach, BoundedScan.scan, tryUserIdWith_eq_attempt, ih]

theorem tryHint_eq_scan {scan : CandidateScan γ} (hint : Option ℕ)
    (hscan : SpentWhenExhausted budget scan) :
    tryHint (tryUserIdWith validate snapshot budget) scan hint =
        BoundedScan.scan candidateHintTrackCap budget (lookUserWith validate snapshot) scan
          hint.toList ∧
      SpentWhenExhausted budget (tryHint (tryUserIdWith validate snapshot budget) scan hint) := by
  have hattempt : tryHint (tryUserIdWith validate snapshot budget) scan hint =
      attemptHint candidateHintTrackCap budget (lookUserWith validate snapshot) scan hint := by
    cases hint with
    | none => rfl
    | some userId => simp only [tryHint, attemptHint, tryUserIdWith_eq_attempt]
  rw [hattempt]
  exact hscan.hint hint

theorem lookUserWith_present (userId : ℕ) :
    (lookUserWith validate snapshot userId).present = true ↔
      userId ∈ Finset.range snapshot.entries.length := by
  rw [Finset.mem_range]
  unfold lookUserWith UserAuthSnapshot.entryById
  by_cases hbound : userId < snapshot.entries.length
  · rw [getElem?_eq_getElem hbound]
    simp only [hbound, iff_true]
    split <;> rfl
  · rw [getElem?_eq_none (not_lt.mp hbound)]
    simp [BoundedScan.Outcome.present, hbound]

end Bounded

theorem scanSources_eq_scan (snapshot : UserAuthSnapshot) (parsed : ParsedTlsAuthMaterial)
    (handshake : List Byte) (budget : ℕ) (sources : CandidateSources) :
    scanSources hmac snapshot parsed handshake budget sources =
      BoundedScan.scan candidateHintTrackCap budget (lookUser hmac snapshot parsed handshake) .start
        (candidateOrder snapshot sources) := by
  have hstart : SpentWhenExhausted budget (.start : CandidateScan TlsCandidateValidation) := nofun
  obtain ⟨hip, hipSpent⟩ := @tryHint_eq_scan _ (validateTlsSecretCandidate hmac parsed handshake)
    snapshot _ _ sources.stickyIpHint hstart
  obtain ⟨huser, huserSpent⟩ := tryHint_eq_scan sources.preferredUserId hipSpent
  obtain ⟨hsni, hsniSpent⟩ := tryHint_eq_scan sources.stickySniHint huserSpent
  obtain ⟨hpast, -⟩ := tryHint_eq_scan sources.stickyPrefixHint hsniSpent
  unfold scanSources candidateOrder tryUserId lookUser
  simp only [tryEach_eq_scan, scan_append]
  rw [hpast, hsni, huser, hip]

def verifies (snapshot : UserAuthSnapshot) (parsed : ParsedTlsAuthMaterial)
    (handshake : List Byte) (userId : ℕ) : Bool :=
  (lookUser hmac snapshot parsed handshake userId).accepts

def candidatesBefore (snapshot : UserAuthSnapshot) (shared : HandshakeSharedState)
    (request : TlsAuthRequest) (parsed : ParsedTlsAuthMaterial) : List ℕ :=
  (candidateOrder snapshot (candidateSources hash snapshot shared request)).takeWhile
    fun userId => !verifies hmac snapshot parsed request.handshake userId

/-- The first 64 distinct ids of a list of candidates. -/
def trackedIds (candidates : List ℕ) : List ℕ :=
  candidates.foldl (BoundedScan.mark candidateHintTrackCap) []

/-- How many times a candidate is a user that came up before and has no slot
in the table. -/
def recheckedUsers (users : ℕ) (candidates : List ℕ) : ℕ :=
  BoundedScan.repeats (fun userId => decide (userId ∈ Finset.range users))
    (fun userId => decide (userId ∈ trackedIds candidates)) [] candidates

def untriedUsers (users : ℕ) (candidates : List ℕ) : ℕ :=
  ((Finset.range users).filter fun userId => userId ∉ candidates).card

theorem allUserIds_eq (snapshot : UserAuthSnapshot) :
    allUserIds snapshot = List.range snapshot.entries.length := by
  unfold allUserIds
  rw [takeWhile_eq_self_iff]
  intro idx hidx
  have hlt := mem_range.mp hidx
  have hbounded := snapshot.bounded
  exact decide_eq_true (by omega)

variable {snapshot : UserAuthSnapshot} {parsed : ParsedTlsAuthMaterial} {handshake : List Byte}

theorem verifies_of_accepted {userId : ℕ} {entry : UserAuthEntry}
    (hentry : snapshot.entryById userId = some entry)
    (hvalid : (validateTlsSecretCandidate hmac parsed handshake entry.secret).isSome) :
    verifies hmac snapshot parsed handshake userId = true := by
  obtain ⟨candidate, hcandidate⟩ := Option.isSome_iff_exists.mp hvalid
  rw [verifies, lookUser, lookUserWith, hentry]
  simp only [hcandidate]
  rfl

theorem candidateOrder_split (shared : HandshakeSharedState) (request : TlsAuthRequest)
    (hverifies : ∃ userId entry, snapshot.entryById userId = some entry ∧
      (validateTlsSecretCandidate hmac parsed request.handshake entry.secret).isSome) :
    ∃ userId value rest, candidateOrder snapshot (candidateSources hash snapshot shared request) =
          candidatesBefore hash hmac snapshot shared request parsed ++ userId :: rest ∧
        lookUser hmac snapshot parsed request.handshake userId = .accepted value := by
  obtain ⟨userId, entry, hentry, hvalid⟩ := hverifies
  have haccepts := verifies_of_accepted hmac hentry hvalid
  have hmem : userId ∈ candidateOrder snapshot
      (candidateSources hash snapshot shared request) := by
    have hall : userId ∈ allUserIds snapshot := by
      rw [allUserIds_eq, mem_range]
      exact (List.getElem?_eq_some_iff.mp hentry).1
    simp only [candidateOrder, mem_append]
    exact Or.inr (Or.inr (Or.inr (Or.inr (Or.inr (Or.inr (Or.inr hall))))))
  obtain ⟨first, rest, hsplit, hfirst⟩ :=
    split_first (verifies hmac snapshot parsed request.handshake) ⟨userId, hmem, haccepts⟩
  cases hlook : lookUser hmac snapshot parsed request.handshake first with
  | absent | refused => simp [verifies, hlook, BoundedScan.Outcome.accepts] at hfirst
  | accepted value => exact ⟨first, value, rest, hsplit, hlook⟩

/-- When the throttle is not active and some user verifies the hello, the scan
finds a user exactly when the repeated checks before the first verifying
candidate are fewer than the users that did not come up until then.  Otherwise
it ends with its budget exhausted and the client is refused. -/
theorem validateTlsClient_found_iff (sourceIpDenied : List Byte → IpAddr → Bool)
    (snapshot : UserAuthSnapshot) (shared : HandshakeSharedState)
    (request : TlsAuthRequest) (parsed : ParsedTlsAuthMaterial)
    (hoverload : request.overload = false)
    (hparsed : parseTlsAuthMaterial request.clock request.handshake request.ignoreTimeSkew
      request.replayWindowSecs = some parsed)
    (hverifies : ∃ userId entry, snapshot.entryById userId = some entry ∧
      (validateTlsSecretCandidate hmac parsed request.handshake entry.secret).isSome) :
    ((scanCandidates hash hmac snapshot shared request parsed).found.isSome = true ↔
        recheckedUsers snapshot.entries.length
            (candidatesBefore hash hmac snapshot shared request parsed) <
          untriedUsers snapshot.entries.length
            (candidatesBefore hash hmac snapshot shared request parsed)) ∧
      ((scanCandidates hash hmac snapshot shared request parsed).found = none →
        ∃ checks, (validateTlsClient hash hmac sourceIpDenied snapshot shared request).1 =
          .unmatched checks true) := by
  obtain ⟨userId, value, rest, horder, hlook⟩ :=
    candidateOrder_split hash hmac shared request hverifies
  have husers : snapshot.entries.length ≠ 0 := by
    obtain ⟨someId, entry, hentry, -⟩ := hverifies
    have hbound := (List.getElem?_eq_some_iff.mp hentry).1
    omega
  have hbefore : ∀ other ∈ candidatesBefore hash hmac snapshot shared request parsed,
      (lookUser hmac snapshot parsed request.handshake other).accepts = false := by
    intro other hother
    have hkept := mem_takeWhile_imp hother
    simpa [verifies] using hkept
  have hscan : scanCandidates hash hmac snapshot shared request parsed =
      scan candidateHintTrackCap snapshot.entries.length
        (lookUser hmac snapshot parsed request.handshake) .start
        (candidatesBefore hash hmac snapshot shared request parsed ++ userId :: rest) := by
    rw [scanCandidates, scanSources_eq_scan, horder, budgetForValidation, if_neg husers, hoverload]
    rfl
  have hcount := spent_lt_card_iff candidateHintTrackCap
    (@lookUserWith_present _ (validateTlsSecretCandidate hmac parsed request.handshake) snapshot)
    (candidatesBefore hash hmac snapshot shared request parsed)
  rw [Finset.card_range] at hcount
  by_cases hbudget : spent candidateHintTrackCap
      (lookUser hmac snapshot parsed request.handshake) []
      (candidatesBefore hash hmac snapshot shared request parsed) < snapshot.entries.length
  · have hfound := scan_reaches hbefore hlook hbudget rest
    rw [← hscan] at hfound
    constructor
    · rw [hfound]
      exact iff_of_true rfl (hcount.mp hbudget)
    · intro hnone
      rw [hfound] at hnone
      cases hnone
  · have hspent : snapshot.entries.length ≤
        (BoundedScan.State.start : CandidateScan TlsCandidateValidation).checks +
          spent candidateHintTrackCap
            (lookUser hmac snapshot parsed request.handshake)
            (BoundedScan.State.start : CandidateScan TlsCandidateValidation).tried
            (candidatesBefore hash hmac snapshot shared request parsed) := by
      rw [BoundedScan.State.start, Nat.zero_add]
      exact not_lt.mp hbudget
    obtain ⟨hnone, hexhausted⟩ := scan_exhausted _ rfl hbefore hspent userId rest
    rw [← hscan] at hnone hexhausted
    constructor
    · rw [hnone]
      exact iff_of_false Bool.false_ne_true fun hfew => hbudget (hcount.mpr hfew)
    · intro _
      refine ⟨(scanCandidates hash hmac snapshot shared request parsed).checks, ?_⟩
      simp only [validateTlsClient, hparsed, hnone, hexhausted]

end Scan

/-! ## A hello of a configured user that is refused -/

section Example

def digestHead : List Byte :=
  [0x14, 0x2a, 0xbf, 0x6f, 0xde, 0x2b, 0xc7, 0x50, 0x54, 0xb4, 0x20, 0x16, 0x8f, 0x8d, 0xe2,
    0xbe, 0xdc, 0xeb, 0x16, 0xbb, 0xff, 0x2b, 0xc7, 0xe9, 0x9a, 0x7d, 0x15, 0xa6, 0xbb]

/-- A hello whose random field was made with the second of two secrets. -/
def sampleHello : List Byte :=
  [0x16, 0x03, 0x01, 0x00, 0x27, 0x01, 0x00, 0x00, 0x23, 0x03, 0x03] ++ digestHead ++
    [0x41, 0x22, 0x7e, 0x00]

def firstSecret : List Byte :=
  [0x00, 0x11, 0x22, 0x33, 0x44, 0x55, 0x66, 0x77, 0x88, 0x99, 0xaa, 0xbb, 0xcc, 0xdd,
    0xee, 0xff]

def secondSecret : List Byte :=
  [0x0f, 0x1e, 0x2d, 0x3c, 0x4b, 0x5a, 0x69, 0x78, 0x87, 0x96, 0xa5, 0xb4, 0xc3, 0xd2,
    0xe1, 0xf0]

def sampleHmac (secret _message : List Byte) : List Byte :=
  if secret = firstSecret then
    [0x66, 0x4d, 0xdd, 0x03, 0x43, 0x0e, 0xbb, 0x85, 0x3e, 0xbf, 0xf8, 0xb6, 0x53, 0x8a,
      0xdd, 0xcd, 0x15, 0xa5, 0x0b, 0xf0, 0xe3, 0x8f, 0x44, 0x2e, 0x8a, 0x07, 0xb4, 0x33,
      0xd9, 0xbd, 0x0e, 0x65]
  else
    digestHead ++ [0xb0, 0x71, 0x1b]

def hexEncode (bytes : List Byte) : List Byte :=
  bytes.flatMap fun byte =>
    [byte / 16, byte % 16].map fun digit => if digit < 10 then digit + 48 else digit + 87

/-- Users `a00`, `a01`, and so on with the first secret, and then the user `b`
with the second one. -/
def sampleUsers (count : ℕ) : List (List Byte × List Byte) :=
  (List.range count).map (fun i =>
      ([97, UInt8.ofNat (48 + i / 10), UInt8.ofNat (48 + i % 10)], hexEncode firstSecret)) ++
    [([98], hexEncode secondSecret)]

def sampleRequest : TlsAuthRequest where
  handshake := sampleHello
  peerIp := .v4 192 0 2 1
  preferredUserHint := none
  clientSni := some [97, 46, 101, 120, 97, 109, 112, 108, 101]
  ignoreTimeSkew := false
  replayWindowSecs := 1800
  clock := some 1700000060
  overload := false

def freshShared : HandshakeSharedState :=
  ⟨∅, ∅, ∅, List.replicate 64 0, 0, 0, 0⟩

def sampleParsed : ParsedTlsAuthMaterial where
  digest := (sampleHello.drop 11).take 32
  sessionId := List.replicate 32 0
  sessionIdLen := 0
  now := 1700000060
  ignoreTimeSkew := false
  bootTimeCapSecs := 120

def sampleSnapshot (count : ℕ) : UserAuthSnapshot :=
  match UserAuthSnapshot.fromUsers ByteWords.leNat (sampleUsers count) with
  | .ok snapshot => snapshot
  | .error _ => .empty

theorem validateTlsClient_found_small :
    (scanCandidates ByteWords.leNat sampleHmac (sampleSnapshot 3) freshShared sampleRequest
      sampleParsed).found.isSome = true := by
  have hverifies : ∃ userId entry, (sampleSnapshot 3).entryById userId = some entry ∧
        (validateTlsSecretCandidate sampleHmac sampleParsed sampleRequest.handshake
          entry.secret).isSome := ⟨3, ⟨[98], secondSecret⟩, by decide +kernel, by decide +kernel⟩
  apply (validateTlsClient_found_iff ByteWords.leNat sampleHmac (fun _ _ => false)
    (sampleSnapshot 3) freshShared sampleRequest sampleParsed rfl (by decide +kernel)
    hverifies).1.mpr
  decide +kernel

/-- The secret of the last of 66 users verifies the hello, and no user is matched. -/
theorem validateTlsClient_sixtySix_refused :
    (sampleSnapshot 65).entries.length = 66 ∧ sampleRequest.overload = false ∧
      (sampleSnapshot 65).entryById 65 = some ⟨[98], secondSecret⟩ ∧
      parseTlsAuthMaterial sampleRequest.clock sampleRequest.handshake
        sampleRequest.ignoreTimeSkew sampleRequest.replayWindowSecs = some sampleParsed ∧
      (validateTlsSecretCandidate sampleHmac sampleParsed sampleRequest.handshake
        secondSecret).isSome ∧
      (validateTlsClient ByteWords.leNat sampleHmac (fun _ _ => false) (sampleSnapshot 65)
        freshShared sampleRequest).1 = .unmatched 66 true := by
  decide +kernel

end Example

end TupoProxy.AuthCandidates
