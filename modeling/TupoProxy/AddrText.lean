import TupoProxy.NetAddr
import TupoProxy.PlainText

/-!
# The text of an address

Addresses and ports print as in the standard library: a port and the parts of
a v4 address in decimal, a v6 address as up to eight hexadecimal groups with
its longest run of zero groups left out, and a v4 address mapped into v6 with
its v4 part in decimal.  The text is a word of bounded length, which is all a
format built from it needs.
-/

namespace TupoProxy.AddrText

open PlainText List
open ByteWords

def decimal (n : ℕ) : Text := Nat.toDigits 10 n

def hexadecimal (n : ℕ) : Text := Nat.toDigits 16 n

def portText (port : ℕ) : Text := decimal port

def ipv4Text (a b c d : Byte) : Text :=
  decimal a.toNat ++ '.' :: decimal b.toNat ++ '.' :: decimal c.toNat ++
    '.' :: decimal d.toNat

/-- The 16-bit groups of an address. -/
def segments : List Byte → List ℕ
  | high :: low :: rest => beNat [high, low] :: segments rest
  | _ => []

structure Span where
  start : ℕ
  len : ℕ
  deriving Repr, DecidableEq

/-- One group of the scan for the longest run of zero groups: the longest and
the current run so far, and the index of the group. -/
def spanStep (state : Span × Span × ℕ) (segment : ℕ) : Span × Span × ℕ :=
  let (longest, current, index) := state
  if segment = 0 then
    let current : Span :=
      ⟨if current.len = 0 then index else current.start, current.len + 1⟩
    (if longest.len < current.len then current else longest, current, index + 1)
  else (longest, ⟨0, 0⟩, index + 1)

def zeroSpan (segments : List ℕ) : Span :=
  (segments.foldl spanStep (⟨0, 0⟩, ⟨0, 0⟩, 0)).1

def fmtSubslice : List ℕ → Text
  | [] => []
  | first :: tail => hexadecimal first ++ tail.flatMap fun segment =>
    ':' :: hexadecimal segment

/-- The v4 address of a v6 address `::ffff:a.b.c.d`. -/
def toIpv4Mapped (octets : List Byte) : Option (Byte × Byte × Byte × Byte) :=
  match octets.take 12 == [0, 0, 0, 0, 0, 0, 0, 0, 0, 0, 0xff, 0xff],
      octets.drop 12 with
  | true, [a, b, c, d] => some (a, b, c, d)
  | _, _ => none

def ipv6Text (octets : List Byte) : Text :=
  match toIpv4Mapped octets with
  | some (a, b, c, d) => "::ffff:".toList ++ ipv4Text a b c d
  | none =>
    let segments := segments octets
    let zeroes := zeroSpan segments
    if 1 < zeroes.len then
      fmtSubslice (segments.take zeroes.start) ++ ':' :: ':' ::
        fmtSubslice (segments.drop (zeroes.start + zeroes.len))
    else fmtSubslice segments

def ipText : IpAddr → Text
  | .v4 a b c d => ipv4Text a b c d
  | .v6 octets => ipv6Text octets.val

example : ipText (.v4 192 168 1 1) = "192.168.1.1".toList := by decide

example : ipText (.v6 ⟨[0x20, 1, 0xd, 0xb8, 0, 0, 0, 0, 0, 0, 0, 0, 0, 0, 0, 1],
    rfl⟩) = "2001:db8::1".toList := by decide

theorem visible_digitChar {digit : ℕ} (hdigit : digit < 16) :
    visible (Nat.digitChar digit) = true := by
  have hall : ∀ d : Fin 16, visible (Nat.digitChar d) = true := by decide
  exact hall ⟨digit, hdigit⟩

theorem visible_toDigits {base : ℕ} (hone : 1 < base) (hbase : base ≤ 16) (n : ℕ) :
    ∀ c ∈ Nat.toDigits base n, visible c = true := by
  induction n using Nat.strong_induction_on with
  | _ n ih =>
    intro c hc
    rw [Nat.toDigits_eq_if hone] at hc
    split at hc
    case isTrue hsmall =>
      rw [mem_singleton.mp hc]
      exact visible_digitChar (by omega)
    case isFalse hlarge =>
      have hless : n / base < n := Nat.div_lt_self (by omega) hone
      have hmod : n % base < base := Nat.mod_lt n (by omega)
      rcases mem_append.mp hc with hhigh | hlast
      · exact ih (n / base) hless c hhigh
      · rw [mem_singleton.mp hlast]
        exact visible_digitChar (by omega)

theorem word_decimal (n : ℕ) : Word (decimal n) where
  nonempty := Nat.toDigits_ne_nil
  visible := visible_toDigits (by decide) (by decide) n

theorem word_portText (port : ℕ) : Word (portText port) := word_decimal port

theorem word_hexadecimal (n : ℕ) : Word (hexadecimal n) where
  nonempty := Nat.toDigits_ne_nil
  visible := visible_toDigits (by decide) (by decide) n

theorem length_decimal_le {n digits : ℕ} (hdigits : 0 < digits)
    (hn : n < 10 ^ digits) : (decimal n).length ≤ digits :=
  (Nat.length_toDigits_le_iff (by decide) hdigits).mpr hn

theorem length_hexadecimal_le {n : ℕ} (hn : n < 2 ^ 16) : (hexadecimal n).length ≤ 4 :=
  (Nat.length_toDigits_le_iff (by decide) (by decide)).mpr (by omega)

theorem length_portText_le {port : ℕ} (hport : port < 2 ^ 16) : (portText port).length ≤ 5 :=
  length_decimal_le (by decide) (by omega)

/-! ## Addresses print as words -/

theorem word_ipv4Text (a b c d : Byte) : Word (ipv4Text a b c d) := by
  have htail (n : ℕ) : ∀ e ∈ '.' :: decimal n, visible e = true := by
    intro e he
    rcases mem_cons.mp he with rfl | he
    · rfl
    · exact (word_decimal n).visible e he
  have hfirst := (word_decimal a.toNat).append (htail b.toNat)
  exact (hfirst.append (htail c.toNat)).append (htail d.toNat)

theorem length_ipv4Text_le (a b c d : Byte) : (ipv4Text a b c d).length ≤ 15 := by
  have hbyte (e : Byte) : (decimal e.toNat).length ≤ 3 := by
    have hlt : e.toNat < 256 := e.toNat_lt
    exact length_decimal_le (by decide) (by omega)
  have ha := hbyte a
  have hb := hbyte b
  have hc := hbyte c
  have hd := hbyte d
  simp only [ipv4Text, length_append, length_cons]
  omega

theorem segments_lt (octets : List Byte) : ∀ segment ∈ segments octets,
    segment < 2 ^ 16 := by
  fun_induction segments octets with
  | case1 high low rest ih =>
    intro segment hmem
    rcases mem_cons.mp hmem with rfl | hrest
    · have hlt := leNat_lt [low, high]
      simpa [beNat] using hlt
    · exact ih segment hrest
  | case2 => simp

theorem length_segments (octets : List Byte) : (segments octets).length = octets.length / 2 := by
  fun_induction segments octets with
  | case1 high low rest ih =>
    simp only [length_cons, ih]
    omega
  | case2 octets hshort =>
    cases octets with
    | nil => simp
    | cons high octets =>
      cases octets with
      | nil => simp
      | cons low rest => exact absurd rfl (hshort high low rest)

theorem visible_fmtSubslice (chunk : List ℕ) : ∀ c ∈ fmtSubslice chunk, visible c = true := by
  intro c hc
  cases chunk with
  | nil => exact absurd hc not_mem_nil
  | cons first tail =>
    rcases mem_append.mp hc with hfirst | htail
    · exact (word_hexadecimal first).visible c hfirst
    · obtain ⟨segment, -, hc⟩ := mem_flatMap.mp htail
      rcases mem_cons.mp hc with rfl | hc
      · rfl
      · exact (word_hexadecimal segment).visible c hc

variable {chunk : List ℕ}

theorem fmtSubslice_ne_nil (hchunk : chunk ≠ []) : fmtSubslice chunk ≠ [] := by
  cases chunk with
  | nil => exact absurd rfl hchunk
  | cons first tail =>
    exact append_ne_nil_of_left_ne_nil (word_hexadecimal first).nonempty _

theorem length_fmtSubslice_le (hchunk : ∀ segment ∈ chunk, segment < 2 ^ 16) :
    (fmtSubslice chunk).length ≤ 5 * chunk.length := by
  have htail (tail : List ℕ) (hsmall : ∀ segment ∈ tail, segment < 2 ^ 16) :
      (tail.flatMap fun segment => ':' :: hexadecimal segment).length ≤ 5 * tail.length := by
    induction tail with
    | nil => exact Nat.le_refl _
    | cons segment tail ih =>
      have hlen := length_hexadecimal_le (hsmall segment mem_cons_self)
      have hrest := ih fun other hmem =>
        hsmall other (mem_cons_of_mem segment hmem)
      simp only [flatMap_cons, length_append, length_cons] at hrest ⊢
      omega
  cases chunk with
  | nil => exact Nat.le_refl _
  | cons first tail =>
    have hlen := length_hexadecimal_le (hchunk first mem_cons_self)
    have hrest := htail tail fun other hmem =>
      hchunk other (mem_cons_of_mem first hmem)
    simp only [fmtSubslice, length_append, length_cons] at hrest ⊢
    omega

variable {octets : List Byte}

theorem word_ipv6Text (hlength : octets.length = 16) : Word (ipv6Text octets) := by
  unfold ipv6Text
  split
  case h_1 a b c d hmapped =>
    have hhead : Word "::ffff:".toList := .of_all (by decide) (by decide)
    exact hhead.append (word_ipv4Text a b c d).visible
  case h_2 hmapped =>
    dsimp only
    split
    case isTrue hspan =>
      constructor
      · simp
      · intro c hc
        rcases mem_append.mp hc with hhead | htail
        · exact visible_fmtSubslice _ c hhead
        · rcases mem_cons.mp htail with rfl | htail
          · rfl
          · rcases mem_cons.mp htail with rfl | htail
            · rfl
            · exact visible_fmtSubslice _ c htail
    case isFalse hspan =>
      have hfull : segments octets ≠ [] := by
        intro hnil
        have hcount := length_segments octets
        rw [hnil, hlength] at hcount
        exact absurd hcount (by decide)
      exact ⟨fmtSubslice_ne_nil hfull, visible_fmtSubslice _⟩

theorem length_ipv6Text_le (hlength : octets.length = 16) : (ipv6Text octets).length ≤ 42 := by
  have hsmall := segments_lt octets
  have hcount : (segments octets).length = 8 := by
    rw [length_segments, hlength]
  unfold ipv6Text
  split
  case h_1 a b c d hmapped =>
    have hlen := length_ipv4Text_le a b c d
    have hhead : "::ffff:".toList.length = 7 := rfl
    rw [length_append, hhead]
    omega
  case h_2 hmapped =>
    dsimp only
    split
    case isTrue hspan =>
      have hleft (start : ℕ) : (fmtSubslice ((segments octets).take start)).length ≤
          5 * ((segments octets).take start).length :=
        length_fmtSubslice_le fun segment hmem =>
          hsmall segment (mem_of_mem_take hmem)
      have hright (stop : ℕ) : (fmtSubslice ((segments octets).drop stop)).length ≤
          5 * ((segments octets).drop stop).length :=
        length_fmtSubslice_le fun segment hmem =>
          hsmall segment (mem_of_mem_drop hmem)
      simp only [length_take, length_drop, hcount] at hleft hright
      have hhead := hleft (zeroSpan (segments octets)).start
      have htail := hright ((zeroSpan (segments octets)).start + (zeroSpan (segments octets)).len)
      simp only [length_append, length_cons]
      omega
    case isFalse hspan =>
      have hlen := length_fmtSubslice_le hsmall
      omega

theorem word_ipText (ip : IpAddr) : Word (ipText ip) := by
  cases ip with
  | v4 a b c d => exact word_ipv4Text a b c d
  | v6 octets => exact word_ipv6Text octets.property

theorem length_ipText_le (ip : IpAddr) : (ipText ip).length ≤ 42 := by
  cases ip with
  | v4 a b c d => exact (length_ipv4Text_le a b c d).trans (by decide)
  | v6 octets => exact length_ipv6Text_le octets.property

/-- The text parsers of the standard library for `IpAddr` and `u16`. -/
structure AddrParser where
  parseIp : Text → Option IpAddr
  parsePort : Text → Option ℕ

/-- The parsers undo the text of this address. -/
def AddrParser.Inverts (parser : AddrParser) (addr : SocketAddr) : Prop :=
  parser.parseIp (ipText addr.ip) = some addr.ip ∧
    parser.parsePort (portText addr.port) = some addr.port

instance (parser : AddrParser) (addr : SocketAddr) : Decidable (parser.Inverts addr) :=
  inferInstanceAs (Decidable (_ ∧ _))

/-! The parsers of the standard library, written out. -/

def digitValue (radix : ℕ) (c : Char) : Option ℕ :=
  (List.range radix).find? fun value => Nat.digitChar value == c.toLower

def readNumber (radix : ℕ) (text : Text) : Option ℕ :=
  if text = [] then none
  else text.foldl (fun value c => do return radix * (← value) + (← digitValue radix c)) (some 0)

/-- A plus sign may come first, and so may zeros. -/
def parseU16 (text : Text) : Option ℕ :=
  let digits := if text.head? = some '+' then text.tail else text
  (readNumber 10 digits).filter (· < 65536)

/-- At most three digits, and no zero before another digit. -/
def parseOctet (text : Text) : Option ℕ :=
  if 3 < text.length ∨ (1 < text.length ∧ text.head? = some '0') then none
  else (readNumber 10 text).filter (· < 256)

def parseOctets (text : Text) : Option (List Byte) := do
  let octets ← (text.splitOn '.').mapM parseOctet
  if octets.length = 4 then some (octets.map .ofNat) else none

def parseIpv4 (text : Text) : Option IpAddr := do
  match (← parseOctets text) with
  | [a, b, c, d] => some (.v4 a b c d)
  | _ => none

/-- Split at the first double colon. -/
def splitGap : Text → Option (Text × Text)
  | ':' :: ':' :: rest => some ([], rest)
  | c :: rest => (splitGap rest).map fun parts => (c :: parts.1, parts.2)
  | [] => none

def parseGroup (text : Text) : Option (List Byte) :=
  if 4 < text.length then none else (readNumber 16 text).map (beBytes 2)

/-- The bytes of groups between colons.  With `mapped` the last one may be a v4 address. -/
def parseGroups (mapped : Bool) (text : Text) : Option (List Byte) :=
  if text = [] then some []
  else do
    let parts := text.splitOn ':'
    let groups ← parts.dropLast.mapM parseGroup
    let last := parts.getLastD []
    let tail ← parseGroup last <|> if mapped then parseOctets last else none
    some (groups.flatten ++ tail)

/-- A gap stands for at least one group. -/
def parseIpv6 (text : Text) : Option IpAddr := do
  let octets ← match splitGap text with
    | none => parseGroups true text
    | some (left, right) => do
        let left ← parseGroups false left
        let right ← parseGroups true right
        let shown := left.length + right.length
        if shown ≤ 14 then some (left ++ List.replicate (16 - shown) 0 ++ right) else none
  if hoctets : octets.length = 16 then some (.v6 ⟨octets, hoctets⟩) else none

def standardParser : AddrParser where
  parseIp text := if ':' ∈ text then parseIpv6 text else parseIpv4 text
  parsePort := parseU16

/-- A signed port and a mapped address are read, an octet with a leading zero is not. -/
example :
    standardParser.parsePort "+1".toList = some 1 ∧
      standardParser.parseIp "::ffff:10.0.0.1".toList =
        some (.v6 ⟨[0, 0, 0, 0, 0, 0, 0, 0, 0, 0, 0xff, 0xff, 10, 0, 0, 1], rfl⟩) ∧
      standardParser.parseIp "10.0.0.01".toList = none := by
  decide

end TupoProxy.AddrText
