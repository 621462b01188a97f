import TupoProxy.ByteWords

/-!
# Network addresses

The address types that the handshake and the middle-end wire format read.
-/

namespace TupoProxy

inductive IpAddr where
  | v4 (a b c d : Byte)
  | v6 (octets : { bytes : List Byte // bytes.length = 16 })
  deriving DecidableEq

def IpAddr.isV4 : IpAddr → Bool
  | .v4 _ _ _ _ => true
  | .v6 _ => false

structure SocketAddr where
  ip : IpAddr
  port : ℕ
  deriving DecidableEq

end TupoProxy
