import TupoProxy.MachineWords
import TupoProxy.ByteWords

/-!
# Authentication material of a ClientHello

A client proves its secret in the random field of its ClientHello: the first
28 bytes are an HMAC of the hello with that field zeroed, and the last four
are the rest of the HMAC combined with a timestamp.

HMAC-SHA256 is an argument.  The wall clock is an argument as well; `none`
is a clock before the epoch.
-/

namespace TupoProxy.TlsAuth

open ByteWords

def tlsDigestLen : ℕ := 32
def tlsDigestPos : ℕ := 11
def timeSkewMin : ℤ := -2 * 60
def timeSkewMax : ℤ := 2 * 60
def bootTimeMaxSecs : ℕ := 7 * 24 * 60 * 60
def bootTimeCompatMaxSecs : ℕ := 2 * 60

structure ParsedTlsAuthMaterial where
  digest : List Byte
  sessionId : List Byte
  sessionIdLen : ℕ
  now : ℤ
  ignoreTimeSkew : Bool
  bootTimeCapSecs : ℕ
  deriving Repr, DecidableEq

structure TlsCandidateValidation where
  digest : List Byte
  sessionId : List Byte
  sessionIdLen : ℕ
  deriving Repr, DecidableEq

def skewClock (clock : Option ℕ) (ignoreTimeSkew : Bool) : Option ℤ :=
  if ignoreTimeSkew then some 0
  else
    match clock with
    | none => none
    | some secs => if secs ≤ i64Max then some secs else none

def parseTlsAuthMaterial (clock : Option ℕ) (handshake : List Byte)
    (ignoreTimeSkew : Bool) (replayWindowSecs : ℕ) : Option ParsedTlsAuthMaterial :=
  if handshake.length < tlsDigestPos + tlsDigestLen + 1 then none
  else
    let sessionIdLen := (handshake.getD (tlsDigestPos + tlsDigestLen) 0).toNat
    let sessionIdStart := tlsDigestPos + tlsDigestLen + 1
    if 32 < sessionIdLen then none
    else if handshake.length < sessionIdStart + sessionIdLen then none
    else
      match skewClock clock ignoreTimeSkew with
      | none => none
      | some now =>
        some
          { digest := (handshake.drop tlsDigestPos).take tlsDigestLen
            sessionId :=
              (handshake.drop sessionIdStart).take sessionIdLen ++
                List.replicate (32 - sessionIdLen) 0
            sessionIdLen := sessionIdLen
            now := now
            ignoreTimeSkew := ignoreTimeSkew
            bootTimeCapSecs :=
              if ignoreTimeSkew then 0
              else
                min (min bootTimeMaxSecs (min replayWindowSecs u32Max))
                  bootTimeCompatMaxSecs }

section Candidate

variable (hmac : List Byte → List Byte → List Byte)

def computeTlsHmacZeroedDigest (secret handshake : List Byte) : List Byte :=
  hmac secret
    (handshake.take tlsDigestPos ++ List.replicate tlsDigestLen 0 ++
      handshake.drop (tlsDigestPos + tlsDigestLen))

def validateTlsSecretCandidate (parsed : ParsedTlsAuthMaterial)
    (handshake secret : List Byte) : Option TlsCandidateValidation :=
  let computed := computeTlsHmacZeroedDigest hmac secret handshake
  if parsed.digest.take 28 ≠ computed.take 28 then none
  else
    let timestamp :=
      leNat (List.zipWith (· ^^^ ·) (parsed.digest.drop 28) (computed.drop 28))
    let isBootTime :=
      decide (0 < parsed.bootTimeCapSecs) && decide (timestamp < parsed.bootTimeCapSecs)
    let timeDiff := parsed.now - timestamp
    let inWindow := decide (timeSkewMin ≤ timeDiff) && decide (timeDiff ≤ timeSkewMax)
    if parsed.ignoreTimeSkew || isBootTime || inWindow then
      some ⟨parsed.digest, parsed.sessionId, parsed.sessionIdLen⟩
    else none

end Candidate

end TupoProxy.TlsAuth
