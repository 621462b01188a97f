import TupoProxy.TlsAuth

/-!
# Validation of a ClientHello against a list of users

The protocol layer has its own validation beside the one of the handshake
state machine: it copies the hello with the digest overwritten by zeros, goes
through all users without stopping, and keeps the first that matches.  The
state machine parses the hello once and checks one candidate at a time.  Both
accept the same hellos for the same user.
-/

namespace TupoProxy.TlsAuth

open ByteWords List Option

structure TlsValidation where
  user : String
  sessionId : List Byte
  digest : List Byte
  timestamp : ℕ
  deriving Repr, DecidableEq

def fillZero (start stop : ℕ) (bytes : List Byte) : List Byte :=
  bytes.mapIdx fun index byte => if start ≤ index ∧ index < stop then 0 else byte

section Validate

variable (hmac : List Byte → List Byte → List Byte)

/-- The timestamp that the secret reads from the digest; `none` goes on with
the next user. -/
def matchSecret (digest msg : List Byte) (ignoreTimeSkew : Bool) (now : ℤ)
    (bootTimeCapSecs : ℕ) (secret : List Byte) : Option ℕ :=
  let computed := hmac secret msg
  if digest.take 28 ≠ computed.take 28 then none
  else
    let timestamp := leNat (List.zipWith (· ^^^ ·) (digest.drop 28) (computed.drop 28))
    if ignoreTimeSkew then some timestamp
    else
      let isBootTime := decide (0 < bootTimeCapSecs) && decide (timestamp < bootTimeCapSecs)
      if isBootTime then some timestamp
      else
        let timeDiff := now - timestamp
        if timeSkewMin ≤ timeDiff ∧ timeDiff ≤ timeSkewMax then some timestamp else none

/-- The loop over all users, which does not stop at the first match. -/
def firstMatch (body : List Byte → Option ℕ) (secrets : List (String × List Byte)) :
    Option (String × ℕ) :=
  secrets.foldl
    (fun first entry =>
      match body entry.2 with
      | none => first
      | some timestamp => if first.isNone then some (entry.1, timestamp) else first)
    none

def validateTlsHandshakeAtTimeWithBootCap (handshake : List Byte)
    (secrets : List (String × List Byte)) (ignoreTimeSkew : Bool) (now : ℤ)
    (bootTimeCapSecs : ℕ) : Option TlsValidation :=
  if handshake.length < tlsDigestPos + tlsDigestLen + 1 then none
  else
    let digest := (handshake.drop tlsDigestPos).take tlsDigestLen
    let sessionIdLenPos := tlsDigestPos + tlsDigestLen
    let sessionIdLen := (handshake.getD sessionIdLenPos 0).toNat
    let sessionIdStart := sessionIdLenPos + 1
    if 32 < sessionIdLen then none
    else if handshake.length < sessionIdStart + sessionIdLen then none
    else
      let sessionId := (handshake.drop sessionIdStart).take sessionIdLen
      let msg := fillZero tlsDigestPos (tlsDigestPos + tlsDigestLen) handshake
      (firstMatch (matchSecret hmac digest msg ignoreTimeSkew now bootTimeCapSecs)
        secrets).map fun found => ⟨found.1, sessionId, digest, found.2⟩

def validateTlsHandshakeWithReplayWindow (clock : Option ℕ) (handshake : List Byte)
    (secrets : List (String × List Byte)) (ignoreTimeSkew : Bool)
    (replayWindowSecs : ℕ) : Option TlsValidation :=
  match skewClock clock ignoreTimeSkew with
  | none => none
  | some now =>
    let bootTimeCapSecs :=
      if ignoreTimeSkew then 0
      else
        min (min bootTimeMaxSecs (min replayWindowSecs u32Max)) bootTimeCompatMaxSecs
    validateTlsHandshakeAtTimeWithBootCap hmac handshake secrets ignoreTimeSkew now
      bootTimeCapSecs

end Validate

section

variable (body : List Byte → Option ℕ) (secrets : List (String × List Byte))

theorem foldl_some (found : String × ℕ) :
    secrets.foldl
      (fun first entry =>
        match body entry.2 with
        | none => first
        | some timestamp => if first.isNone then some (entry.1, timestamp) else first)
      (some found) = some found := by
  induction secrets with
  | nil => rfl
  | cons entry secrets ih =>
    rw [foldl_cons]
    cases body entry.2 <;> exact ih

theorem firstMatch_eq_findSome :
    firstMatch body secrets = secrets.findSome? fun entry => (body entry.2).map (entry.1, ·) := by
  induction secrets with
  | nil => rfl
  | cons entry secrets ih =>
    rw [firstMatch, foldl_cons, findSome?_cons]
    cases body entry.2 with
    | none => exact ih
    | some timestamp => exact foldl_some body secrets (entry.1, timestamp)

end

variable {body : List Byte → Option ℕ} {secrets : List (String × List Byte)}

theorem firstMatch_isSome :
    (firstMatch body secrets).isSome = true ↔ ∃ entry ∈ secrets, (body entry.2).isSome = true := by
  rw [firstMatch_eq_findSome, findSome?_isSome_iff]
  simp only [isSome_map]

theorem firstMatch_eq_some {user : String} {timestamp : ℕ}
    (hfirst : firstMatch body secrets = some (user, timestamp)) :
    ∃ before secret after, secrets = before ++ (user, secret) :: after ∧
      body secret = some timestamp ∧ ∀ entry ∈ before, body entry.2 = none := by
  rw [firstMatch_eq_findSome] at hfirst
  obtain ⟨before, ⟨name, secret⟩, after, hsplit, hfound, hbefore⟩ := findSome?_eq_some_iff.mp hfirst
  obtain ⟨found, hbody, heq⟩ := map_eq_some_iff.mp hfound
  obtain ⟨rfl, rfl⟩ := Prod.mk.inj heq
  exact ⟨before, secret, after, hsplit, hbody, fun entry hentry =>
    map_eq_none_iff.mp (hbefore entry hentry)⟩

/-! ## Both paths authenticate the same message -/

theorem fillZero_eq {start stop : ℕ} {bytes : List Byte} (hstart : start ≤ stop)
    (hstop : stop ≤ bytes.length) :
    fillZero start stop bytes =
      bytes.take start ++ List.replicate (stop - start) 0 ++ bytes.drop stop := by
  have htake : (bytes.take start).length = start := by
    rw [length_take]
    omega
  have hfilled : (bytes.take start ++ replicate (stop - start) (0 : Byte)).length =
      stop := by
    rw [length_append, htake, length_replicate]
    omega
  apply ext_getElem
  · rw [fillZero, length_mapIdx, length_append, hfilled, length_drop]
    omega
  · intro index hleft hright
    simp only [fillZero, getElem_mapIdx]
    rcases Nat.lt_or_ge index stop with hbelow | hbeyond
    · rw [getElem_append_left (hfilled.symm ▸ hbelow)]
      rcases Nat.lt_or_ge index start with hbefore | hafter
      · rw [if_neg (by omega), getElem_append_left (htake.symm ▸ hbefore), getElem_take]
      · rw [if_pos ⟨hafter, hbelow⟩, getElem_append_right (htake.symm ▸ hafter), getElem_replicate]
    · rw [if_neg (by omega), getElem_append_right (hfilled.symm ▸ hbeyond), getElem_drop]
      congr 1
      omega

section Agreement

variable {hmac : List Byte → List Byte → List Byte} {clock : Option ℕ}
  {handshake : List Byte} {ignoreTimeSkew : Bool} {replayWindowSecs : ℕ}
  {parsed : ParsedTlsAuthMaterial}

theorem validateTlsSecretCandidate_eq (secret : List Byte)
    (hlong : tlsDigestPos + tlsDigestLen ≤ handshake.length) :
    validateTlsSecretCandidate hmac parsed handshake secret = (matchSecret hmac parsed.digest
        (fillZero tlsDigestPos (tlsDigestPos + tlsDigestLen) handshake)
        parsed.ignoreTimeSkew parsed.now parsed.bootTimeCapSecs secret).map
          fun _ => ⟨parsed.digest, parsed.sessionId, parsed.sessionIdLen⟩ := by
  have hmessage : computeTlsHmacZeroedDigest hmac secret handshake =
      hmac secret (fillZero tlsDigestPos (tlsDigestPos + tlsDigestLen) handshake) := by
    rw [computeTlsHmacZeroedDigest, fillZero_eq (Nat.le_add_right _ _) hlong,
      Nat.add_sub_cancel_left]
  simp only [validateTlsSecretCandidate, matchSecret, hmessage]
  generalize leNat _ = timestamp
  split
  · rfl
  · cases parsed.ignoreTimeSkew with
    | true => rfl
    | false =>
      by_cases hboot : 0 < parsed.bootTimeCapSecs ∧ timestamp < parsed.bootTimeCapSecs
      · simp [hboot]
      · simp [hboot]

theorem parseTlsAuthMaterial_long
    (hparse : parseTlsAuthMaterial clock handshake ignoreTimeSkew replayWindowSecs =
      some parsed) : tlsDigestPos + tlsDigestLen ≤ handshake.length := by
  unfold parseTlsAuthMaterial at hparse
  split at hparse
  · contradiction
  · omega

theorem validateTlsHandshakeWithReplayWindow_eq (secrets : List (String × List Byte)) :
    validateTlsHandshakeWithReplayWindow hmac clock handshake secrets ignoreTimeSkew
        replayWindowSecs =
      (parseTlsAuthMaterial clock handshake ignoreTimeSkew replayWindowSecs).bind
        fun parsed =>
          (firstMatch
            (matchSecret hmac parsed.digest
              (fillZero tlsDigestPos (tlsDigestPos + tlsDigestLen) handshake)
              parsed.ignoreTimeSkew parsed.now parsed.bootTimeCapSecs) secrets).map
            fun found =>
              ⟨found.1, parsed.sessionId.take parsed.sessionIdLen, parsed.digest, found.2⟩ := by
  simp only [validateTlsHandshakeWithReplayWindow, validateTlsHandshakeAtTimeWithBootCap,
    parseTlsAuthMaterial]
  generalize hlen : (handshake.getD (tlsDigestPos + tlsDigestLen) 0).toNat = sessionIdLen
  cases skewClock clock ignoreTimeSkew with
  | none =>
    simp only
    split
    · rfl
    · split
      · rfl
      · split <;> rfl
  | some now =>
    simp only
    split
    · rfl
    · split
      · rfl
      · split
        · rfl
        · rename_i hroom
          have hsession : ((handshake.drop (tlsDigestPos + tlsDigestLen + 1)).take
              sessionIdLen).length = sessionIdLen := by
            rw [length_take, length_drop]
            omega
          simp only [bind_some]
          rw [take_append_of_le_length hsession.ge, take_of_length_le hsession.le]

end Agreement

/-- For every hello, list of users, clock, skew setting and replay window, the
protocol layer returns a user exactly if the hello parses and some user of the
list passes the check of the state machine.  The user returned is the first of
these, with the digest and the session id that the check reports. -/
theorem validateTlsHandshakeWithReplayWindow_agrees
    (hmac : List Byte → List Byte → List Byte) (clock : Option ℕ)
    (handshake : List Byte) (secrets : List (String × List Byte))
    (ignoreTimeSkew : Bool) (replayWindowSecs : ℕ) :
    let validation := validateTlsHandshakeWithReplayWindow hmac clock handshake secrets
      ignoreTimeSkew replayWindowSecs
    let parse := parseTlsAuthMaterial clock handshake ignoreTimeSkew replayWindowSecs
    (validation.isSome = true ↔ ∃ parsed, parse = some parsed ∧ ∃ entry ∈ secrets,
        (validateTlsSecretCandidate hmac parsed handshake entry.2).isSome = true) ∧
    ∀ found, validation = some found → ∃ parsed before secret after candidate, parse = some parsed ∧
        secrets = before ++ (found.user, secret) :: after ∧ (∀ entry ∈ before,
          validateTlsSecretCandidate hmac parsed handshake entry.2 = none) ∧
        validateTlsSecretCandidate hmac parsed handshake secret = some candidate ∧
        found.digest = candidate.digest ∧
        found.sessionId = candidate.sessionId.take candidate.sessionIdLen := by
  intro validation parse
  have heq : validation = parse.bind _ := validateTlsHandshakeWithReplayWindow_eq secrets
  cases hparse : parse with
  | none =>
    rw [hparse] at heq
    simp [heq]
  | some parsed =>
    rw [hparse, bind_some] at heq
    have hcandidate := fun secret => @validateTlsSecretCandidate_eq hmac handshake parsed
      secret (parseTlsAuthMaterial_long hparse)
    constructor
    · rw [heq, isSome_map, firstMatch_isSome]
      simp only [some.injEq, exists_eq_left', hcandidate, isSome_map]
    · intro found hfound
      rw [heq] at hfound
      obtain ⟨⟨user, timestamp⟩, hfirst, rfl⟩ := map_eq_some_iff.mp hfound
      obtain ⟨before, secret, after, hsplit, hbody, hbefore⟩ := firstMatch_eq_some hfirst
      refine ⟨parsed, before, secret, after,
        ⟨parsed.digest, parsed.sessionId, parsed.sessionIdLen⟩, rfl, hsplit, ?_, ?_, rfl, rfl⟩
      · intro entry hentry
        rw [hcandidate, hbefore entry hentry]
        rfl
      · rw [hcandidate, hbody]
        rfl

/-- A hello of the second of three users, ten seconds before the clock. -/
def sampleHello : List Byte :=
  List.replicate 11 1 ++ List.replicate 28 2 ++ [2 ^^^ 0xDE, 2 ^^^ 3, 2, 2] ++ [1, 7]

def sampleSecrets : List (String × List Byte) :=
  [("alice", List.replicate 16 1), ("bob", List.replicate 16 2),
    ("carol", List.replicate 16 2)]

theorem validateTlsHandshakeWithReplayWindow_bob :
    let hmac : List Byte → List Byte → List Byte := fun secret _ => secret ++ secret
    (∃ found, validateTlsHandshakeWithReplayWindow hmac (some 1000) sampleHello
        sampleSecrets false 120 = some found ∧ found.user = "bob" ∧
        found.timestamp = 990) ∧
      ∃ parsed, parseTlsAuthMaterial (some 1000) sampleHello false 120 = some parsed ∧
        ∃ entry ∈ sampleSecrets,
          (validateTlsSecretCandidate hmac parsed sampleHello entry.2).isSome = true := by
  intro hmac
  have hfound : validateTlsHandshakeWithReplayWindow hmac (some 1000) sampleHello
      sampleSecrets false 120 =
        some ⟨"bob", [7], replicate 28 2 ++ [2 ^^^ 0xDE, 2 ^^^ 3, 2, 2], 990⟩ := by
    decide +kernel
  have hagrees := validateTlsHandshakeWithReplayWindow_agrees hmac (some 1000) sampleHello
    sampleSecrets false 120
  exact ⟨⟨_, hfound, rfl, rfl⟩, hagrees.1.mp (isSome_iff_exists.mpr ⟨_, hfound⟩)⟩

end TupoProxy.TlsAuth
