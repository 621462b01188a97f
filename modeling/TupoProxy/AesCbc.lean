import TupoProxy.ByteWords
import TupoProxy.BlockChaining

/-!
# CBC over byte strings

The middle-end connection is encrypted with AES-256 in CBC mode.  The block
function under the negotiated key is an argument; all that is used of it is
that decryption of a block inverts encryption.
-/

namespace TupoProxy.AesCbc

open BlockChaining List

abbrev Block := { bytes : List Byte // bytes.length = 16 }

def Block.ofBytes (bytes : List Byte) : Block :=
  ⟨(bytes ++ List.replicate 16 0).take 16, by simp⟩

variable (block : Block) (blocks : List Block) (rest : List Byte)

theorem Block.ofBytes_val : Block.ofBytes block.val = block := by
  apply Subtype.ext
  exact take_left' block.property

def xorBlocks (a b : Block) : Block :=
  ⟨List.zipWith (· ^^^ ·) a.val b.val, by simp [a.property, b.property]⟩

theorem zipWith_xor_cancel (a b : List Byte) (hlen : a.length = b.length) :
    List.zipWith (· ^^^ ·) (List.zipWith (· ^^^ ·) a b) b = a := by
  induction a generalizing b with
  | nil => rfl
  | cons x a ih =>
    cases b with
    | nil => cases hlen
    | cons y b =>
      simp only [zipWith_cons_cons]
      rw [ih b (Nat.succ.inj hlen), UInt8.xor_assoc, UInt8.xor_self, UInt8.xor_zero]

theorem xorBlocks_xorBlocks (a b : Block) : xorBlocks (xorBlocks a b) b = a :=
  Subtype.ext (zipWith_xor_cancel a.val b.val (a.property.trans b.property.symm))

structure BlockCipher where
  encryptBlock : Block → Block
  decryptBlock : Block → Block
  decrypt_encrypt : ∀ block, decryptBlock (encryptBlock block) = block

def BlockCipher.chained (cipher : BlockCipher) : Cipher Block where
  encrypt := cipher.encryptBlock
  decrypt := cipher.decryptBlock
  mix := xorBlocks
  decrypt_encrypt := cipher.decrypt_encrypt
  mix_mix := xorBlocks_xorBlocks

def blocksFrom : ℕ → List Byte → List Block
  | 0, _ => []
  | count + 1, bytes => Block.ofBytes bytes :: blocksFrom count (bytes.drop 16)

def toBlocks (bytes : List Byte) : List Block := blocksFrom (bytes.length / 16) bytes

def ofBlocks (blocks : List Block) : List Byte := blocks.flatMap Subtype.val

theorem ofBlocks_cons :
    ofBlocks (block :: blocks) = block.val ++ ofBlocks blocks := rfl

theorem ofBlocks_append (left right : List Block) :
    ofBlocks (left ++ right) = ofBlocks left ++ ofBlocks right := flatMap_append

@[simp] theorem length_ofBlocks : (ofBlocks blocks).length = 16 * blocks.length := by
  induction blocks with
  | nil => rfl
  | cons block blocks ih =>
    rw [ofBlocks_cons, length_append, ih, block.property, length_cons]
    omega

theorem ofBytes_append : Block.ofBytes (block.val ++ rest) = block := by
  apply Subtype.ext
  change (block.val ++ rest ++ replicate 16 0).take 16 = block.val
  rw [append_assoc]
  exact take_left' block.property

theorem blocksFrom_ofBlocks : blocksFrom blocks.length (ofBlocks blocks ++ rest) = blocks := by
  induction blocks with
  | nil => rfl
  | cons block blocks ih =>
    rw [length_cons, blocksFrom, ofBlocks_cons, append_assoc, ofBytes_append]
    rw [drop_left' block.property, ih]

theorem toBlocks_ofBlocks (hrest : rest.length < 16) :
    toBlocks (ofBlocks blocks ++ rest) = blocks := by
  have hcount : (ofBlocks blocks ++ rest).length / 16 = blocks.length := by
    rw [length_append, length_ofBlocks]
    omega
  rw [toBlocks, hcount, blocksFrom_ofBlocks]

theorem exists_blocks (bytes : List Byte) :
    ∃ blocks rest, bytes = ofBlocks blocks ++ rest ∧ rest.length = bytes.length % 16 := by
  generalize hcount : bytes.length / 16 = count
  induction count generalizing bytes with
  | zero =>
    refine ⟨[], bytes, rfl, ?_⟩
    omega
  | succ count ih =>
    obtain ⟨blocks, rest, hbytes, hrest⟩ := ih (bytes.drop 16) (by rw [length_drop]; omega)
    have htake : (bytes.take 16).length = 16 := by
      rw [length_take]
      omega
    refine ⟨⟨bytes.take 16, htake⟩ :: blocks, rest, ?_, ?_⟩
    · rw [ofBlocks_cons, append_assoc, ← hbytes, take_append_drop]
    · rw [hrest, length_drop]
      omega

/-! ## Encryption of byte strings -/

inductive CryptoError where
  | unaligned (length : ℕ)
  deriving Repr, DecidableEq

section Cipher

variable (cipher : BlockCipher) (iv : Block)

def encryptInPlace (data : List Byte) : Except CryptoError (List Byte) :=
  if data.length % 16 ≠ 0 then .error (.unaligned data.length)
  else .ok (ofBlocks (cipher.chained.encryptBlocks iv (toBlocks data)))

def decryptInPlace (data : List Byte) : Except CryptoError (List Byte) :=
  if data.length % 16 ≠ 0 then .error (.unaligned data.length)
  else .ok (ofBlocks (cipher.chained.decryptBlocks iv (toBlocks data)))

theorem encryptInPlace_ofBlocks (blocks : List Block) :
    encryptInPlace cipher iv (ofBlocks blocks) =
      .ok (ofBlocks (cipher.chained.encryptBlocks iv blocks)) := by
  have hblocks := toBlocks_ofBlocks blocks [] (by decide)
  rw [append_nil] at hblocks
  rw [encryptInPlace, if_neg (by rw [length_ofBlocks]; omega), hblocks]

theorem decryptInPlace_ofBlocks (blocks : List Block) :
    decryptInPlace cipher iv (ofBlocks blocks) =
      .ok (ofBlocks (cipher.chained.decryptBlocks iv blocks)) := by
  have hblocks := toBlocks_ofBlocks blocks [] (by decide)
  rw [append_nil] at hblocks
  rw [decryptInPlace, if_neg (by rw [length_ofBlocks]; omega), hblocks]

end Cipher

/-- The last 16 bytes of a byte string as a block, or the old vector when it
is shorter. -/
def carryIv (iv : Block) (data : List Byte) : Block :=
  if 16 ≤ data.length then Block.ofBytes (data.drop (data.length - 16)) else iv

theorem carryIv_ofBlocks (iv : Block) (blocks : List Block) :
    carryIv iv (ofBlocks blocks) = Cipher.chainingAfter iv blocks := by
  rcases eq_nil_or_concat blocks with rfl | ⟨init, last, rfl⟩
  · rfl
  · rw [concat_eq_append, carryIv, if_pos (by rw [length_ofBlocks]; simp),
      ofBlocks_append, Cipher.chainingAfter, getLast?_concat]
    have hlast : ofBlocks [last] = last.val := append_nil _
    have hdrop : (ofBlocks init ++ ofBlocks [last]).length - 16 = (ofBlocks init).length := by
      rw [length_append, hlast, last.property]
      omega
    rw [hdrop, drop_left, hlast]
    exact Block.ofBytes_val last

end TupoProxy.AesCbc
