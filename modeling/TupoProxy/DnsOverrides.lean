import TupoProxy.AddrText
import TupoProxy.KeyedTotal

/-!
# DNS overrides

The configuration lists overrides as `host:port:ip`.  A generation parses its
list into a snapshot of its own, and one table of the whole process holds the
list that was installed last.
-/

namespace TupoProxy.DnsOverrides

open PlainText
open AddrText

abbrev OverrideMap := Table (Text × ℕ) IpAddr

structure Store where
  entries : OverrideMap
  poisoned : Bool

def configError (message : String) : Text := ("Config error: " ++ message).toList

def entryError (message : String) (entry : Text) : Text :=
  configError message ++ " '".toList ++ entry ++ "'".toList

def parseIpSpec (parser : AddrParser) (ipSpec : Text) : Except Text IpAddr :=
  if ipSpec.head? = some '[' ∧ ipSpec.getLast? = some ']' then
    match parser.parseIp ipSpec.tail.dropLast with
    | some (.v6 octets) => .ok (.v6 octets)
    | _ => .error (entryError "network.dns_overrides IPv6 override is invalid:" ipSpec)
  else
    match parser.parseIp ipSpec with
    | none => .error (entryError "network.dns_overrides IP is invalid:" ipSpec)
    | some (.v6 _) =>
      .error (entryError "network.dns_overrides IPv6 must be bracketed:" ipSpec)
    | some ip => .ok ip

def parseEntry (parser : AddrParser) (entry : Text) :
    Except Text ((Text × ℕ) × IpAddr) := do
  let trimmed := trim entry
  if trimmed = [] then
    throw (configError "network.dns_overrides entry cannot be empty")
  let badFormat :=
    entryError "network.dns_overrides entry must use host:port:ip format:" trimmed
  match splitOnce ':' trimmed with
  | none => throw badFormat
  | some (host, rest) =>
    match splitOnce ':' rest with
    | none => throw badFormat
    | some (port, ip) =>
      let host := trim host
      if host = [] then
        throw (entryError "network.dns_overrides host cannot be empty:" trimmed)
      -- The host ends before the first colon, so the source's next check,
      -- for a colon in the host, never fails.
      match parser.parsePort (trim port) with
      | none => throw (entryError "network.dns_overrides port is invalid:" trimmed)
      | some port =>
        let ip ← parseIpSpec parser (trim ip)
        return ((toAsciiLowercase host, port), ip)

def parseEntries (parser : AddrParser) (entries : List Text) : Except Text OverrideMap :=
  entries.foldlM (fun parsed entry => do
    let (key, ip) ← parseEntry parser entry
    return parsed.insert key ip) ∅

def installEntries (parser : AddrParser) (entries : List Text) (store : Store) :
    Except Text Store := do
  let parsed ← parseEntries parser entries
  if store.poisoned then
    throw (configError "network.dns_overrides runtime lock is poisoned")
  return { store with entries := parsed }

end TupoProxy.DnsOverrides
