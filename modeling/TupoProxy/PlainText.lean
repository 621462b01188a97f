import TupoProxy.ByteWords
import Mathlib.Data.List.DropRight

/-!
# Texts and their bytes

A text is a list of characters.  On the wire it is its UTF-8 encoding, and a
reader cuts it at white space again.  A word is a text that survives both: it
is not empty and all its characters are visible ASCII.
-/

namespace TupoProxy.PlainText

open List

abbrev Text := List Char

def intoBytes (text : Text) : List Byte :=
  text.flatMap String.utf8EncodeChar

def fromUtf8 (bytes : List Byte) : Option Text :=
  bytes.toByteArray.utf8Decode?.map Array.toList

/-- The Unicode property `White_Space`. -/
def isWhitespace (c : Char) : Bool :=
  let code := c.toNat
  (9 ≤ code && code ≤ 13) || code == 0x20 || code == 0x85 || code == 0xa0 ||
    code == 0x1680 || (0x2000 ≤ code && code ≤ 0x200a) || code == 0x2028 ||
    code == 0x2029 || code == 0x202f || code == 0x205f || code == 0x3000

def splitWhitespace (text : Text) : List Text :=
  (text.splitOnP isWhitespace).filter (· ≠ [])

def trim (text : Text) : Text :=
  (text.dropWhile isWhitespace).rdropWhile isWhitespace

def splitOnce (separator : Char) (text : Text) : Option (Text × Text) :=
  match text.span (· ≠ separator) with
  | (before, _ :: after) => some (before, after)
  | (_, []) => none

def toAsciiLowercase (text : Text) : Text := text.map Char.toLower

theorem fromUtf8_intoBytes (text : Text) : fromUtf8 (intoBytes text) = some text := by
  have hencode : (intoBytes text).toByteArray = text.utf8Encode := rfl
  simp [fromUtf8, hencode]

variable {text : Text}

theorem intoBytes_append (left right : Text) :
    intoBytes (left ++ right) = intoBytes left ++ intoBytes right :=
  flatMap_append

def visible (c : Char) : Bool := 33 ≤ c.toNat && c.toNat ≤ 126

variable {c : Char}

theorem not_isWhitespace_of_visible (hc : visible c = true) : isWhitespace c = false := by
  simp only [visible, Bool.and_eq_true, decide_eq_true_eq] at hc
  simp only [isWhitespace, Bool.or_eq_false_iff, Bool.and_eq_false_iff,
    decide_eq_false_iff_not, beq_eq_false_iff_ne]
  omega

theorem utf8EncodeChar_of_ascii (hc : c.toNat ≤ 127) :
    String.utf8EncodeChar c = [UInt8.ofNat c.toNat] := by
  have hsize : c.utf8Size = 1 := Char.utf8Size_eq_one_iff.mpr hc
  rw [String.utf8EncodeChar_eq_singleton hsize]
  rfl

/-- Visible ASCII and the blank: one byte each, and never the end of a line. -/
def Printable (text : Text) : Prop :=
  ∀ c ∈ text, c = ' ' ∨ visible c = true

variable {left right : Text}

theorem Printable.append_blank (hleft : Printable left)
    (hright : Printable right) : Printable (left ++ ' ' :: right) := by
  intro c hc
  rcases mem_append.mp hc with hc | hc
  · exact hleft c hc
  · rcases mem_cons.mp hc with rfl | hc
    · exact .inl rfl
    · exact hright c hc

section

variable (htext : Printable text)
include htext

theorem Printable.bounds (hc : c ∈ text) : 32 ≤ c.toNat ∧ c.toNat ≤ 126 := by
  rcases htext c hc with rfl | hvisible
  · decide
  · simp only [visible, Bool.and_eq_true, decide_eq_true_eq] at hvisible
    omega

theorem Printable.intoBytes_eq : intoBytes text = text.map fun c => UInt8.ofNat c.toNat := by
  induction text with
  | nil => rfl
  | cons c text ih =>
    have hc := htext.bounds mem_cons_self
    have hrest : Printable text := fun d hd => htext d (mem_cons_of_mem c hd)
    have hbyte := utf8EncodeChar_of_ascii (show c.toNat ≤ 127 by omega)
    simp only [intoBytes, flatMap_cons, hbyte] at ih ⊢
    rw [ih hrest]
    rfl

theorem Printable.length_intoBytes : (intoBytes text).length = text.length := by
  rw [htext.intoBytes_eq, length_map]

theorem Printable.newline_notMem : 10 ∉ intoBytes text := by
  rw [htext.intoBytes_eq]
  intro hmem
  obtain ⟨c, hc, hbyte⟩ := mem_map.mp hmem
  have hbounds := htext.bounds hc
  have hvalue := congrArg UInt8.toNat hbyte
  have hten : (10 : UInt8).toNat = 10 := rfl
  rw [UInt8.toNat_ofNat', Nat.mod_eq_of_lt (by omega), hten] at hvalue
  omega

end

/-! ## Words -/

structure Word (text : Text) : Prop where
  nonempty : text ≠ []
  visible : ∀ c ∈ text, visible c = true

theorem Word.of_all (hnonempty : text ≠ []) (hall : text.all PlainText.visible = true) :
    Word text :=
  ⟨hnonempty, all_eq_true.mp hall⟩

theorem Word.printable (hword : Word text) : Printable text :=
  fun c hc => .inr (hword.visible c hc)

theorem Word.append (hleft : Word left)
    (hright : ∀ c ∈ right, PlainText.visible c = true) : Word (left ++ right) where
  nonempty := append_ne_nil_of_left_ne_nil hleft.nonempty right
  visible := by
    intro c hc
    rcases mem_append.mp hc with hc | hc
    · exact hleft.visible c hc
    · exact hright c hc

theorem Word.noWhitespace (hword : Word text) : ∀ c ∈ text, isWhitespace c = false :=
  fun c hc => not_isWhitespace_of_visible (hword.visible c hc)

variable {word : Text}

theorem splitWhitespace_word (hword : Word word) : splitWhitespace word = [word] := by
  rw [splitWhitespace, splitOnP_eq_singleton hword.noWhitespace]
  simp [hword.nonempty]

theorem splitWhitespace_word_blank (hword : Word word) (rest : Text) :
    splitWhitespace (word ++ ' ' :: rest) = word :: splitWhitespace rest := by
  rw [splitWhitespace, splitOnP_append_cons_of_forall_mem hword.noWhitespace ' ' (by decide)]
  simp [hword.nonempty, splitWhitespace]

end TupoProxy.PlainText
