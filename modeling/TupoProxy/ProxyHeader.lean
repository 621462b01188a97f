import TupoProxy.StreamReader
import TupoProxy.AddrText

/-!
# The PROXY protocol header

A load balancer in front of the proxy announces the real client in a header,
as a text line (version 1) or in binary (version 2).  `parseProxyProtocol`
peeks at the first bytes, chooses a grammar and reads on to the end of the
line or for the declared length.  The builders write the same headers.
-/

namespace TupoProxy.ProxyHeader

open ByteWords List
open PlainText
open AddrText
open Delivery
open StreamReader

variable {σ ε : Type}

inductive ProxyError where
  | invalidProxyProtocol
  deriving Repr, DecidableEq

structure ProxyProtocolInfo where
  srcAddr : SocketAddr
  dstAddr : Option SocketAddr
  version : ℕ
  deriving DecidableEq

abbrev HeaderReader (σ ε : Type) := Reader σ ε ProxyError

def proxyV1Signature : List Byte := [0x50, 0x52, 0x4f, 0x58, 0x59, 0x20]

def proxyV2Signature : List Byte :=
  [0x0d, 0x0a, 0x0d, 0x0a, 0x00, 0x0d, 0x0a, 0x51, 0x55, 0x49, 0x54, 0x0a]

def proxyV1MinLen : ℕ := 6
def proxyV2MinLen : ℕ := 16
def proxyV2MaxAddrLen : ℕ := 216

def crlf : List Byte := [0x0d, 0x0a]

def readBytes (count : ℕ) : HeaderReader σ ε (List Byte) :=
  readExact .invalidProxyProtocol count

/-- Read byte by byte to the end of the line.  Every round adds a byte and a
line of more than 256 bytes is refused, so 251 rounds behind the signature are
never used up. -/
def readLine : ℕ → List Byte → HeaderReader σ ε (List Byte)
  | 0, _ => throw .invalidProxyProtocol
  | rounds + 1, line => do
      let byte ← readBytes 1
      if crlf <:+ line ++ byte then return line ++ byte
      else if 256 < (line ++ byte).length then throw .invalidProxyProtocol
      else readLine rounds (line ++ byte)

def tcp4Text : Text := "TCP4".toList
def tcp6Text : Text := "TCP6".toList
def unknownText : Text := "UNKNOWN".toList

def parsed {α : Type} : Option α → Except ProxyError α
  | some value => .ok value
  | none => .error .invalidProxyProtocol

def parseParts (parser : AddrParser) (defaultPeer : SocketAddr) :
    List Text → Except ProxyError ProxyProtocolInfo
  | [] => .error .invalidProxyProtocol
  | family :: fields =>
    match decide (family = tcp4Text ∨ family = tcp6Text), fields with
    | true, srcIp :: dstIp :: srcPort :: dstPort :: _ => do
        let srcIp ← parsed (parser.parseIp srcIp)
        let dstIp ← parsed (parser.parseIp dstIp)
        let srcPort ← parsed (parser.parsePort srcPort)
        let dstPort ← parsed (parser.parsePort dstPort)
        return ⟨⟨srcIp, srcPort⟩, some ⟨dstIp, dstPort⟩, 1⟩
    | _, _ =>
      if family = unknownText then .ok ⟨defaultPeer, none, 1⟩
      else .error .invalidProxyProtocol

def parseLine (parser : AddrParser) (defaultPeer : SocketAddr) (line : List Byte) :
    Except ProxyError ProxyProtocolInfo := do
  let text ← parsed (fromUtf8 ((line.take (line.length - 2)).drop proxyV1MinLen))
  parseParts parser defaultPeer (splitWhitespace text)

def parseV1 (parser : AddrParser) (defaultPeer : SocketAddr) :
    HeaderReader σ ε ProxyProtocolInfo := do
  let line ← readLine 251 proxyV1Signature
  answer (parseLine parser defaultPeer line)

def v6Addr (octets : List Byte) : Except ProxyError IpAddr :=
  if hlength : octets.length = 16 then .ok (.v6 ⟨octets, hlength⟩)
  else .error .invalidProxyProtocol

def parseAddrs (defaultPeer : SocketAddr) (family : Byte) (data : List Byte) :
    Except ProxyError ProxyProtocolInfo :=
  let byteAt (index : ℕ) : Byte := data.getD index 0
  if family = 1 ∧ 12 ≤ data.length then
    let srcIp : IpAddr := .v4 (byteAt 0) (byteAt 1) (byteAt 2) (byteAt 3)
    let dstIp : IpAddr := .v4 (byteAt 4) (byteAt 5) (byteAt 6) (byteAt 7)
    .ok ⟨⟨srcIp, beNat [byteAt 8, byteAt 9]⟩,
      some ⟨dstIp, beNat [byteAt 10, byteAt 11]⟩, 2⟩
  else if family = 2 ∧ 36 ≤ data.length then do
    let srcIp ← v6Addr (data.take 16)
    let dstIp ← v6Addr ((data.drop 16).take 16)
    return ⟨⟨srcIp, beNat [byteAt 32, byteAt 33]⟩,
      some ⟨dstIp, beNat [byteAt 34, byteAt 35]⟩, 2⟩
  else if family = 0 then .ok ⟨defaultPeer, none, 2⟩
  else .error .invalidProxyProtocol

/-- The command decides whether the address data count: LOCAL keeps the peer
of the connection. -/
def parseCommand (defaultPeer : SocketAddr) (command family : Byte)
    (data : List Byte) : Except ProxyError ProxyProtocolInfo :=
  if command = 0 then .ok ⟨defaultPeer, none, 2⟩
  else if command ≠ 1 then .error .invalidProxyProtocol
  else parseAddrs defaultPeer family data

def parseV2 (header : List Byte) (defaultPeer : SocketAddr) :
    HeaderReader σ ε ProxyProtocolInfo := do
  let versionCommand := header.getD 12 0
  if versionCommand >>> 4 ≠ 2 then throw .invalidProxyProtocol
  else
    let addrLen := beNat [header.getD 14 0, header.getD 15 0]
    if proxyV2MaxAddrLen < addrLen then throw .invalidProxyProtocol
    else do
      let data ← if 0 < addrLen then readBytes addrLen else pure []
      answer (parseCommand defaultPeer (versionCommand &&& 0x0f)
        (header.getD 13 0 >>> 4) data)

def parseProxyProtocol (parser : AddrParser) (defaultPeer : SocketAddr) :
    HeaderReader σ ε ProxyProtocolInfo := do
  let first ← readBytes proxyV1MinLen
  if first = proxyV1Signature then parseV1 parser defaultPeer
  else do
    let more ← readBytes (proxyV2MinLen - proxyV1MinLen)
    if (first ++ more).take 12 = proxyV2Signature then
      parseV2 (first ++ more) defaultPeer
    else throw .invalidProxyProtocol

structure ProxyProtocolV1Builder where
  family : Text
  srcAddr : Option SocketAddr
  dstAddr : Option SocketAddr

namespace ProxyProtocolV1Builder

def new : ProxyProtocolV1Builder := ⟨unknownText, none, none⟩

def tcp4 (builder : ProxyProtocolV1Builder) (src dst : SocketAddr) :
    ProxyProtocolV1Builder :=
  { builder with family := tcp4Text, srcAddr := some src, dstAddr := some dst }

def tcp6 (builder : ProxyProtocolV1Builder) (src dst : SocketAddr) :
    ProxyProtocolV1Builder :=
  { builder with family := tcp6Text, srcAddr := some src, dstAddr := some dst }

def lineText (family : Text) (src dst : SocketAddr) : Text :=
  family ++ ' ' :: (ipText src.ip ++ ' ' :: (ipText dst.ip ++ ' ' ::
    (portText src.port ++ ' ' :: portText dst.port)))

def build (builder : ProxyProtocolV1Builder) : List Byte :=
  match builder.srcAddr, builder.dstAddr with
  | some src, some dst =>
    intoBytes ("PROXY ".toList ++ (lineText builder.family src dst ++
      "\r\n".toList))
  | _, _ => intoBytes "PROXY UNKNOWN\r\n".toList

end ProxyProtocolV1Builder

structure ProxyProtocolV2Builder where
  src : Option SocketAddr
  dst : Option SocketAddr

namespace ProxyProtocolV2Builder

def new : ProxyProtocolV2Builder := ⟨none, none⟩

def withAddrs (builder : ProxyProtocolV2Builder) (src dst : SocketAddr) :
    ProxyProtocolV2Builder :=
  { builder with src := some src, dst := some dst }

def fixedPart (versionCommand family : Byte) (octets : ℕ) : List Byte :=
  proxyV2Signature ++ versionCommand :: family :: beBytes 2 octets

def addrData (srcIp dstIp : List Byte) (srcPort dstPort : ℕ) : List Byte :=
  srcIp ++ (dstIp ++ (beBytes 2 srcPort ++ beBytes 2 dstPort))

def build (builder : ProxyProtocolV2Builder) : List Byte :=
  match builder.src, builder.dst with
  | some ⟨.v4 a b c d, srcPort⟩, some ⟨.v4 e f g h, dstPort⟩ =>
    fixedPart 0x21 0x11 12 ++ addrData [a, b, c, d] [e, f, g, h] srcPort dstPort
  | some ⟨.v6 srcIp, srcPort⟩, some ⟨.v6 dstIp, dstPort⟩ =>
    fixedPart 0x21 0x21 36 ++ addrData srcIp.val dstIp.val srcPort dstPort
  | _, _ => fixedPart 0x20 0x00 0

end ProxyProtocolV2Builder

/-! ## Version 1 is read back -/

variable {line : List Byte} {byte : Byte}

theorem not_crlf_suffix (hbyte : byte ≠ 0x0a) : ¬ crlf <:+ line ++ [byte] := by
  rintro ⟨front, hfront⟩
  have hlast := congrArg getLast? hfront
  simp only [crlf, getLast?_append_cons] at hlast
  exact hbyte (Option.some.inj hlast).symm

theorem readLine_step {rounds : ℕ} {later result : List Byte}
    (hopen : ¬ crlf <:+ line ++ [byte]) (hlength : line.length < 256)
    (hnext : Takes (readLine rounds (line ++ [byte]) : HeaderReader σ ε _) later result) :
    Takes (readLine (rounds + 1) line : HeaderReader σ ε _) (byte :: later) result := by
  have hshort : ¬ 256 < (line ++ [byte]).length := by
    rw [length_append, length_singleton]
    omega
  have hbyte : Takes (readBytes 1 : HeaderReader σ ε _) [byte] [byte] := readExact_takes rfl
  refine hbyte.bind ?_
  rw [if_neg hopen, if_neg hshort]
  exact hnext

theorem readLine_last (rounds : ℕ) (front : List Byte) :
    Takes (readLine (rounds + 1) (front ++ [0x0d]) : HeaderReader σ ε _)
      [0x0a] (front ++ crlf) := by
  have hline : front ++ [0x0d] ++ [0x0a] = front ++ crlf := by simp [crlf]
  have hbyte : Takes (readBytes 1 : HeaderReader σ ε _) [0x0a] [0x0a] := readExact_takes rfl
  have hreturn : Takes (pure (front ++ crlf) : HeaderReader σ ε _) [] (front ++ crlf) := .pure _
  refine hbyte.bind ?_
  rw [hline, if_pos (suffix_append front crlf)]
  exact hreturn

theorem readLine_takes {text line : List Byte} {rounds : ℕ} (hclean : 0x0a ∉ text)
    (hrounds : text.length + 2 ≤ rounds) (hlength : line.length + text.length + 1 ≤ 256) :
    Takes (readLine rounds line : HeaderReader σ ε _) (text ++ crlf) (line ++ text ++ crlf) := by
  induction text generalizing line rounds with
  | nil =>
    obtain ⟨more, rfl⟩ : ∃ more, rounds = more + 1 + 1 :=
      ⟨rounds - 2, by simp only [length_nil] at hrounds; omega⟩
    rw [append_nil]
    exact readLine_step (not_crlf_suffix (by decide)) (by omega) (readLine_last more line)
  | cons byte text ih =>
    obtain ⟨more, rfl⟩ : ∃ more, rounds = more + 1 :=
      ⟨rounds - 1, by simp only [length_cons] at hrounds; omega⟩
    have hbyte := ne_of_not_mem_cons hclean
    have htext := not_mem_of_not_mem_cons hclean
    rw [length_cons] at hrounds hlength
    have hrest : Takes (readLine more (line ++ [byte]) : HeaderReader σ ε _)
        (text ++ crlf) (line ++ [byte] ++ text ++ crlf) :=
      ih htext (by omega) (by
        rw [length_append, length_singleton]
        omega)
    rw [append_assoc line [byte] text] at hrest
    exact readLine_step (not_crlf_suffix (Ne.symm hbyte)) (by omega) hrest

theorem lineBody_eq (body : List Byte) :
    ((proxyV1Signature ++ body ++ crlf).take
      ((proxyV1Signature ++ body ++ crlf).length - 2)).drop proxyV1MinLen = body := by
  have hlength : (proxyV1Signature ++ body ++ crlf).length - 2 =
      (proxyV1Signature ++ body).length := by
    rw [length_append]
    exact Nat.add_sub_cancel _ _
  rw [hlength, take_left]
  exact drop_left' rfl

variable {parser : AddrParser} {src dst : SocketAddr} {family : Text}

theorem parseParts_build
    (defaultPeer : SocketAddr) (hfamily : family = tcp4Text ∨ family = tcp6Text)
    (hsrc : parser.Inverts src) (hdst : parser.Inverts dst) :
    parseParts parser defaultPeer [family, ipText src.ip, ipText dst.ip,
      portText src.port, portText dst.port] = .ok ⟨src, some dst, 1⟩ := by
  simp only [parseParts, decide_eq_true hfamily, hsrc.1, hsrc.2, hdst.1, hdst.2]
  rfl

namespace ProxyProtocolV1Builder

theorem word_family {family : Text} (hfamily : family = tcp4Text ∨ family = tcp6Text) :
    Word family := by
  rcases hfamily with rfl | rfl
  · exact .of_all (by decide) (by decide)
  · exact .of_all (by decide) (by decide)

theorem splitWhitespace_lineText {family : Text} (hfamily : Word family) (src dst : SocketAddr) :
    splitWhitespace (lineText family src dst) = [family, ipText src.ip,
      ipText dst.ip, portText src.port, portText dst.port] := by
  rw [lineText, splitWhitespace_word_blank hfamily, splitWhitespace_word_blank (word_ipText src.ip),
    splitWhitespace_word_blank (word_ipText dst.ip),
    splitWhitespace_word_blank (word_portText src.port),
    splitWhitespace_word (word_portText dst.port)]

theorem printable_lineText {family : Text} (hfamily : Word family)
    (src dst : SocketAddr) : Printable (lineText family src dst) := by
  have hports : Printable (portText src.port ++ ' ' :: portText dst.port) :=
    (word_portText src.port).printable.append_blank (word_portText dst.port).printable
  have hdst := (word_ipText dst.ip).printable.append_blank hports
  have hsrc := (word_ipText src.ip).printable.append_blank hdst
  exact hfamily.printable.append_blank hsrc

theorem length_lineText_le {family : Text}
    (hfamily : family = tcp4Text ∨ family = tcp6Text) {src dst : SocketAddr}
    (hsrc : src.port < 2 ^ 16) (hdst : dst.port < 2 ^ 16) :
    (lineText family src dst).length ≤ 102 := by
  have hname : family.length = 4 := by
    rcases hfamily with rfl | rfl <;> rfl
  have hsrcIp := length_ipText_le src.ip
  have hdstIp := length_ipText_le dst.ip
  have hsrcPort := length_portText_le hsrc
  have hdstPort := length_portText_le hdst
  simp only [lineText, length_append, length_cons]
  omega

theorem build_eq (family : Text) (src dst : SocketAddr) :
    build ⟨family, some src, some dst⟩ =
      proxyV1Signature ++ (intoBytes (lineText family src dst) ++ crlf) := by
  have hhead : intoBytes "PROXY ".toList = proxyV1Signature := by decide
  have hend : intoBytes "\r\n".toList = crlf := by decide
  have hbuild : build ⟨family, some src, some dst⟩ = intoBytes ("PROXY ".toList ++
      (lineText family src dst ++ "\r\n".toList)) := rfl
  rw [hbuild, intoBytes_append, intoBytes_append, hhead, hend]

end ProxyProtocolV1Builder

open ProxyProtocolV1Builder in
theorem parseV1_takes (defaultPeer : SocketAddr) (hfamily : family = tcp4Text ∨ family = tcp6Text)
    (hsrcPort : src.port < 2 ^ 16) (hdstPort : dst.port < 2 ^ 16)
    (hsrc : parser.Inverts src) (hdst : parser.Inverts dst) :
    Takes (parseV1 parser defaultPeer : HeaderReader σ ε _)
      (intoBytes (lineText family src dst) ++ crlf) ⟨src, some dst, 1⟩ := by
  have hprintable := printable_lineText (word_family hfamily) src dst
  have hlength : (intoBytes (lineText family src dst)).length ≤ 102 := by
    rw [hprintable.length_intoBytes]
    exact length_lineText_le hfamily hsrcPort hdstPort
  have hsignature : proxyV1Signature.length = 6 := rfl
  have hline := @readLine_takes σ ε (intoBytes (lineText family src dst))
    proxyV1Signature 251 hprintable.newline_notMem (by omega) (by omega)
  have hparse : parseLine parser defaultPeer
      (proxyV1Signature ++ intoBytes (lineText family src dst) ++ crlf) =
        .ok ⟨src, some dst, 1⟩ := by
    rw [parseLine, lineBody_eq, fromUtf8_intoBytes]
    show parseParts _ _ (splitWhitespace _) = _
    rw [splitWhitespace_lineText (word_family hfamily)]
    exact parseParts_build defaultPeer hfamily hsrc hdst
  exact hline.bind_answer hparse

open ProxyProtocolV2Builder

theorem beBytes_two (n : ℕ) : beBytes 2 n = [UInt8.ofNat (n / 256), UInt8.ofNat n] :=
  rfl

theorem beNat_two {n : ℕ} (hn : n < 2 ^ 16) : beNat [UInt8.ofNat (n / 256), UInt8.ofNat n] = n := by
  rw [← beBytes_two]
  exact beNat_beBytes_of_lt hn

variable {srcPort dstPort : ℕ}

theorem parseCommand_v4 (defaultPeer : SocketAddr) (a b c d e f g h : Byte)
    (hsrc : srcPort < 2 ^ 16) (hdst : dstPort < 2 ^ 16) :
    parseCommand defaultPeer 1 1 (addrData [a, b, c, d] [e, f, g, h] srcPort dstPort) =
        .ok ⟨⟨.v4 a b c d, srcPort⟩, some ⟨.v4 e f g h, dstPort⟩, 2⟩ := by
  rw [addrData, beBytes_two, beBytes_two]
  simp [parseCommand, parseAddrs, beNat_two hsrc, beNat_two hdst]

theorem v6Addr_of_length {octets : List Byte} (hlength : octets.length = 16) :
    v6Addr octets = .ok (.v6 ⟨octets, hlength⟩) := dif_pos hlength

theorem parseCommand_v6 (defaultPeer : SocketAddr)
    (srcIp dstIp : { octets : List Byte // octets.length = 16 }) (hsrc : srcPort < 2 ^ 16)
    (hdst : dstPort < 2 ^ 16) :
    parseCommand defaultPeer 1 2 (addrData srcIp.val dstIp.val srcPort dstPort) =
        .ok ⟨⟨.v6 srcIp, srcPort⟩, some ⟨.v6 dstIp, dstPort⟩, 2⟩ := by
  obtain ⟨srcIp, hsrcIp⟩ := srcIp
  obtain ⟨dstIp, hdstIp⟩ := dstIp
  rw [addrData, beBytes_two, beBytes_two]
  have htake (tail : List Byte) : (srcIp ++ tail).take 16 = srcIp := take_left' hsrcIp
  have hdrop (tail : List Byte) : (srcIp ++ tail).drop 16 = tail := drop_left' hsrcIp
  simp only [parseCommand, parseAddrs, htake, hdrop, take_left' hdstIp,
    v6Addr_of_length hsrcIp, v6Addr_of_length hdstIp]
  simp [hsrcIp, hdstIp, beNat_two hsrc, beNat_two hdst]
  rfl

variable {defaultPeer : SocketAddr} {data : List Byte} {info : ProxyProtocolInfo}

theorem parseV2_takes {family : Byte} (hpos : 0 < data.length) (hlength : data.length ≤ 216)
    (hinfo : parseCommand defaultPeer 1 (family >>> 4) data = .ok info) :
    Takes (parseV2 (fixedPart 0x21 family data.length) defaultPeer : HeaderReader σ ε _)
      data info := by
  have hlen : beNat [(fixedPart 0x21 family data.length).getD 14 0,
      (fixedPart 0x21 family data.length).getD 15 0] = data.length := beNat_two (by omega)
  have hversion : (fixedPart 0x21 family data.length).getD 12 0 = 0x21 := rfl
  have hfamily : (fixedPart 0x21 family data.length).getD 13 0 = family := rfl
  have hread : Takes (readBytes data.length : HeaderReader σ ε _) data data := readExact_takes rfl
  have hcommand : parseCommand defaultPeer (0x21 &&& 0x0f) (family >>> 4) data = .ok info := hinfo
  have hbounded : ¬ proxyV2MaxAddrLen < data.length := Nat.not_lt.mpr hlength
  simp only [parseV2, hversion, hfamily, hlen]
  rw [if_neg (by decide), if_neg hbounded, if_pos hpos]
  exact hread.bind_answer hcommand

/-! ## Both headers are read back -/

theorem parseProxyProtocol_v1_takes
    (hline : Takes (parseV1 parser defaultPeer : HeaderReader σ ε _) line info) :
    Takes (parseProxyProtocol parser defaultPeer : HeaderReader σ ε _)
      (proxyV1Signature ++ line) info := by
  have hfirst : Takes (readBytes proxyV1MinLen : HeaderReader σ ε _)
      proxyV1Signature proxyV1Signature := readExact_takes rfl
  refine hfirst.bind ?_
  exact hline

theorem fixedPart_takes {family : Byte} {octets : ℕ}
    (hoctets : data.length = octets) (hpos : 0 < octets) (hbound : octets ≤ 216)
    (hinfo : parseCommand defaultPeer 1 (family >>> 4) data = .ok info) :
    Takes (parseProxyProtocol parser defaultPeer : HeaderReader σ ε _)
      (fixedPart 0x21 family octets ++ data) info := by
  subst hoctets
  have hfixed : (fixedPart 0x21 family data.length).take 6 ++
      (fixedPart 0x21 family data.length).drop 6 = fixedPart 0x21 family data.length :=
    take_append_drop 6 _
  have hfirst : Takes (readBytes proxyV1MinLen : HeaderReader σ ε _)
      ((fixedPart 0x21 family data.length).take 6) ((fixedPart 0x21 family data.length).take 6) :=
    readExact_takes rfl
  have hmore : Takes (readBytes (proxyV2MinLen - proxyV1MinLen) : HeaderReader σ ε _)
      ((fixedPart 0x21 family data.length).drop 6) ((fixedPart 0x21 family data.length).drop 6) :=
    readExact_takes rfl
  have hother : (fixedPart 0x21 family data.length).take 6 ≠ proxyV1Signature := by
    have htake : (fixedPart 0x21 family data.length).take 6 =
      [0x0d, 0x0a, 0x0d, 0x0a, 0x00, 0x0d] := rfl
    rw [htake]
    decide
  refine hfirst.bind ?_
  refine hmore.bind ?_
  have hsignature : (fixedPart 0x21 family data.length).take 12 = proxyV2Signature := rfl
  exact parseV2_takes hpos hbound hinfo

inductive HeaderVersion where
  | v1
  | v2
  deriving Repr, DecidableEq

def HeaderVersion.number : HeaderVersion → ℕ
  | .v1 => 1
  | .v2 => 2

/-- The header a builder writes for two addresses, with the version 1 builder
of the family of the source. -/
def buildHeader (src dst : SocketAddr) : HeaderVersion → List Byte
  | .v1 =>
    if src.ip.isV4 then (ProxyProtocolV1Builder.new.tcp4 src dst).build
    else (ProxyProtocolV1Builder.new.tcp6 src dst).build
  | .v2 => (ProxyProtocolV2Builder.new.withAddrs src dst).build

theorem buildHeader_v1_takes (defaultPeer : SocketAddr) (hsrcPort : src.port < 2 ^ 16)
    (hdstPort : dst.port < 2 ^ 16) (hsrc : parser.Inverts src) (hdst : parser.Inverts dst) :
    Takes (parseProxyProtocol parser defaultPeer : HeaderReader σ ε _)
      (buildHeader src dst .v1) ⟨src, some dst, 1⟩ := by
  have hfamily (family : Text) (hname : family = tcp4Text ∨ family = tcp6Text) :
      Takes (parseProxyProtocol parser defaultPeer : HeaderReader σ ε _)
        (ProxyProtocolV1Builder.build ⟨family, some src, some dst⟩) ⟨src, some dst, 1⟩ := by
    rw [ProxyProtocolV1Builder.build_eq]
    exact parseProxyProtocol_v1_takes (parseV1_takes defaultPeer hname hsrcPort hdstPort hsrc hdst)
  simp only [buildHeader]
  split
  · exact hfamily tcp4Text (.inl rfl)
  · exact hfamily tcp6Text (.inr rfl)

theorem buildHeader_v2_takes (defaultPeer : SocketAddr) (hsame : src.ip.isV4 = dst.ip.isV4)
    (hsrcPort : src.port < 2 ^ 16) (hdstPort : dst.port < 2 ^ 16) :
    Takes (parseProxyProtocol parser defaultPeer : HeaderReader σ ε _)
      (buildHeader src dst .v2) ⟨src, some dst, 2⟩ := by
  obtain ⟨srcIp, srcPort⟩ := src
  obtain ⟨dstIp, dstPort⟩ := dst
  cases srcIp with
  | v4 a b c d =>
    cases dstIp with
    | v6 octets => exact absurd hsame.symm Bool.false_ne_true
    | v4 e f g h =>
      exact fixedPart_takes rfl (by decide) (by decide)
        (parseCommand_v4 defaultPeer a b c d e f g h hsrcPort hdstPort)
  | v6 srcOctets =>
    cases dstIp with
    | v4 e f g h => exact absurd hsame Bool.false_ne_true
    | v6 dstOctets =>
      have hlength :
          (addrData srcOctets.val dstOctets.val srcPort dstPort).length = 36 := by
        simp [addrData, srcOctets.property, dstOctets.property]
      exact fixedPart_takes hlength (by decide) (by decide)
        (parseCommand_v6 defaultPeer srcOctets dstOctets hsrcPort hdstPort)

/-- A header that a builder wrote for two addresses of one family is parsed
back to these addresses, and the parser leaves exactly what follows it. -/
theorem parseProxyProtocol_buildHeader (parser : AddrParser)
    (defaultPeer src dst : SocketAddr) (hsame : src.ip.isV4 = dst.ip.isV4)
    (hsrcPort : src.port < 2 ^ 16) (hdstPort : dst.port < 2 ^ 16)
    (hsrc : parser.Inverts src) (hdst : parser.Inverts dst)
    (version : HeaderVersion) (following : List Byte) (source : Source σ ε) (hfail : NoFail source)
    (hbytes : bytesOf source = buildHeader src dst version ++ following) :
    ∃ left, (parseProxyProtocol parser defaultPeer).run source =
        (.ok ⟨src, some dst, version.number⟩, left) ∧ bytesOf left = following := by
  have htakes : Takes (parseProxyProtocol parser defaultPeer : HeaderReader σ ε _)
      (buildHeader src dst version) ⟨src, some dst, version.number⟩ := by
    cases version with
    | v1 => exact buildHeader_v1_takes defaultPeer hsrcPort hdstPort hsrc hdst
    | v2 => exact buildHeader_v2_takes defaultPeer hsame hsrcPort hdstPort
  obtain ⟨left, hrun, hleft, -⟩ := htakes hfail hbytes
  exact ⟨left, hrun, hleft⟩

def clientAddr : SocketAddr :=
  ⟨.v6 ⟨[0x20, 1, 0xd, 0xb8, 0, 0, 0, 0, 0, 0, 0, 0, 0, 0, 0xab, 0xc], rfl⟩, 50123⟩

def balancerAddr : SocketAddr :=
  ⟨.v6 ⟨[0xfe, 0x80, 0, 0, 0, 0, 0, 0, 0, 0, 0, 0, 0, 0, 0, 1], rfl⟩, 443⟩

/-- The header byte by byte, each behind a poll that finds nothing, and then
what follows it in one piece. -/
def dribble (header following : List Byte) : Source Unit Unit :=
  header.flatMap (fun byte => [.stall (), .chunk byte []]) ++ pushFront following []

theorem bytesOf_dribble (header following : List Byte) :
    bytesOf (dribble header following) = header ++ following := by
  induction header with
  | nil => simp [dribble]
  | cons byte header ih => exact congrArg (byte :: ·) ih

theorem dribble_noFail (header following : List Byte) : NoFail (dribble header following) := by
  intro error hmem
  rcases mem_append.mp hmem with hheader | hfollowing
  · obtain ⟨byte, -, hbyte⟩ := mem_flatMap.mp hheader
    simp at hbyte
  · have hclean : NoFail ([] : Source Unit Unit) := fun _ hnil => not_mem_nil hnil
    exact hclean.pushFront following error hfollowing

theorem parseProxyProtocol_buildHeader_dribble :
    ∃ left, (parseProxyProtocol standardParser balancerAddr).run
        (dribble (buildHeader clientAddr balancerAddr .v1) [0x16, 0x03, 0x01]) =
        (.ok ⟨clientAddr, some balancerAddr, 1⟩, left) ∧ bytesOf left = [0x16, 0x03, 0x01] :=
  parseProxyProtocol_buildHeader standardParser balancerAddr clientAddr balancerAddr rfl
    (by decide) (by decide) (by decide +kernel) (by decide +kernel) .v1
    [0x16, 0x03, 0x01] _ (dribble_noFail _ _) (bytesOf_dribble _ _)

end TupoProxy.ProxyHeader
