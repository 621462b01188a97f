import TupoProxy.RpcStream

/-!
# Encryption across frames

The operations of the cipher that allocate their result and those that
overwrite a buffer run the same chain over the blocks.  A sequence of frames,
each encrypted with the vector that the previous one left, is one message in
CBC mode, and it can be decrypted in any pieces of whole blocks.
-/

namespace TupoProxy
namespace AesCbc

open BlockChaining List

section Loops

/-- From the vector and a block, the next vector and the block that is put
out. -/
abbrev Turn := Block → Block → Block × Block

def encryptTurn (cipher : BlockCipher) : Turn := fun prevCiphertext plaintext =>
  let ciphertext := cipher.encryptBlock (xorBlocks plaintext prevCiphertext)
  (ciphertext, ciphertext)

def decryptTurn (cipher : BlockCipher) : Turn := fun prevCiphertext ciphertext =>
  (ciphertext, xorBlocks (cipher.decryptBlock ciphertext) prevCiphertext)

def chunkLoop (turn : Turn) : Block → List Block → List Byte → List Byte
  | _, [], result => result
  | prevCiphertext, chunk :: chunks, result =>
    let turned := turn prevCiphertext chunk
    chunkLoop turn turned.1 chunks (result ++ turned.2.val)

/-- Every round overwrites the block at `offset`; the vector of the next round
is taken before that. -/
def bufferLoop (turn : Turn) : ℕ → ℕ → Block → List Byte → List Byte
  | 0, _, _, data => data
  | rounds + 1, offset, prevCiphertext, data =>
    let turned := turn prevCiphertext (Block.ofBytes (data.drop offset))
    bufferLoop turn rounds (offset + 16) turned.1
      (data.take offset ++ turned.2.val ++ data.drop (offset + 16))

def whenAligned (data result : List Byte) : Except CryptoError (List Byte) :=
  if data.length % 16 ≠ 0 then .error (.unaligned data.length) else .ok result

variable (turn : Turn) (cipher : BlockCipher) (iv : Block) (data : List Byte)

def encrypt : Except CryptoError (List Byte) :=
  whenAligned data (chunkLoop (encryptTurn cipher) iv (toBlocks data) [])

def decrypt : Except CryptoError (List Byte) :=
  whenAligned data (chunkLoop (decryptTurn cipher) iv (toBlocks data) [])

def Buffer.encryptInPlace : Except CryptoError (List Byte) :=
  whenAligned data (bufferLoop (encryptTurn cipher) (data.length / 16) 0 iv data)

def Buffer.decryptInPlace : Except CryptoError (List Byte) :=
  whenAligned data (bufferLoop (decryptTurn cipher) (data.length / 16) 0 iv data)

variable (blocks : List Block)

/-- What the buffer holds before `offset` is the result so far. -/
theorem bufferLoop_eq (result : List Byte) :
    bufferLoop turn blocks.length result.length iv (result ++ ofBlocks blocks) =
      chunkLoop turn iv blocks result := by
  induction blocks generalizing iv result with
  | nil => exact append_nil result
  | cons block blocks ih =>
    rw [length_cons, bufferLoop, chunkLoop, ofBlocks_cons, drop_left, ofBytes_append,
      take_left, ← append_assoc, drop_left' (by simp [block.property])]
    rw [← ih]
    simp [(turn iv block).2.property]

theorem whenAligned_bufferLoop :
    whenAligned data (bufferLoop turn (data.length / 16) 0 iv data) =
      whenAligned data (chunkLoop turn iv (toBlocks data) []) := by
  by_cases haligned : data.length % 16 = 0
  · obtain ⟨blocks, rfl⟩ := RpcCodec.exists_blocks_of_mod haligned
    have hblocks := toBlocks_ofBlocks blocks [] (by decide)
    have hcount : (ofBlocks blocks).length / 16 = blocks.length := by
      rw [length_ofBlocks]
      omega
    rw [append_nil] at hblocks
    rw [hblocks, hcount, ← bufferLoop_eq]
    rfl
  · rw [whenAligned, whenAligned, if_pos haligned, if_pos haligned]

theorem chunkLoop_encryptTurn (result : List Byte) :
    chunkLoop (encryptTurn cipher) iv blocks result =
      result ++ ofBlocks (cipher.chained.encryptBlocks iv blocks) := by
  induction blocks generalizing iv result with
  | nil => exact (append_nil result).symm
  | cons block blocks ih =>
    rw [chunkLoop, ih, append_assoc]
    rfl

theorem chunkLoop_decryptTurn (result : List Byte) :
    chunkLoop (decryptTurn cipher) iv blocks result =
      result ++ ofBlocks (cipher.chained.decryptBlocks iv blocks) := by
  induction blocks generalizing iv result with
  | nil => exact (append_nil result).symm
  | cons block blocks ih =>
    rw [chunkLoop, ih, append_assoc]
    rfl

theorem encrypt_eq : encrypt cipher iv data = encryptInPlace cipher iv data := by
  rw [encrypt, chunkLoop_encryptTurn, nil_append]
  rfl

theorem decrypt_eq : decrypt cipher iv data = decryptInPlace cipher iv data := by
  rw [decrypt, chunkLoop_decryptTurn, nil_append]
  rfl

end Loops
end AesCbc

namespace RpcCodec

open AesCbc BlockChaining

def writeFrames (writer : RpcWriter) : List (List Byte) → Except CryptoError (List Byte)
  | [] => .ok []
  | frame :: frames => do
    let (written, writer) ← encryptAndWriteFrame writer frame
    let rest ← writeFrames writer frames
    return written ++ rest

/-- The reader's decryption of pieces of whole blocks. -/
def decryptPieces (cipher : BlockCipher) (div : Block) :
    List (List Byte) → Except CryptoError (List Byte)
  | [] => .ok []
  | chunk :: chunks => do
    let plain ← decryptInPlace cipher div chunk
    let rest ← decryptPieces cipher (carryIv div chunk) chunks
    return plain ++ rest

/-- The writer's frames go out as one chain of encrypted blocks. -/
theorem writeFrames_spec (writer : RpcWriter) (frames : List (List Byte)) :
    ∃ blocks, frames.flatMap padded = ofBlocks blocks ∧ writeFrames writer frames =
      .ok (ofBlocks (writer.cipher.chained.encryptBlocks writer.iv blocks)) := by
  induction frames generalizing writer with
  | nil => exact ⟨[], rfl, rfl⟩
  | cons frame frames ih =>
    obtain ⟨first, hfirst⟩ := exists_blocks_of_mod (length_padded_mod frame)
    obtain ⟨later, hlater, hsent⟩ := ih { writer with
      iv := carryIv writer.iv (ofBlocks (writer.cipher.chained.encryptBlocks writer.iv first)) }
    refine ⟨first ++ later, ?_, ?_⟩
    · rw [List.flatMap_cons, ofBlocks_append, hlater, padded, hfirst]
    · rw [writeFrames, encryptAndWriteFrame, hfirst, encryptInPlace_ofBlocks]
      dsimp only [Except.bind, bind]
      rw [hsent, carryIv_ofBlocks, Cipher.encryptBlocks_append, ofBlocks_append]
      rfl

/-- Pieces of whole blocks decrypt to the text of the whole chain. -/
theorem decryptPieces_spec (cipher : BlockCipher) (div : Block) (chunks : List (List Byte))
    (sealed : List Block) (haligned : ∀ chunk ∈ chunks, chunk.length % 16 = 0)
    (htext : chunks.flatten = ofBlocks sealed) :
    decryptPieces cipher div chunks = .ok (ofBlocks (cipher.chained.decryptBlocks div sealed)) := by
  induction chunks generalizing div sealed with
  | nil =>
    have hlength := congrArg List.length htext
    rw [length_ofBlocks] at hlength
    obtain rfl : sealed = [] := List.eq_nil_of_length_eq_zero (by simpa using hlength.symm)
    rfl
  | cons chunk chunks ih =>
    obtain ⟨hchunk, hchunks⟩ := List.forall_mem_cons.mp haligned
    obtain ⟨first, rfl⟩ := exists_blocks_of_mod hchunk
    obtain ⟨later, rfl, hlater⟩ := ofBlocks_split htext
    rw [decryptPieces, decryptInPlace_ofBlocks, carryIv_ofBlocks]
    dsimp only [Except.bind, bind]
    rw [ih _ _ hchunks hlater, Cipher.decryptBlocks_append, ofBlocks_append]
    rfl

/-- Frames encrypted one after the other are one message in CBC mode, every
cutting of it at block boundaries decrypts to the padded frames, and the
operations that work in place agree with those that do not. -/
theorem chaining_across_frames (cipher : BlockCipher) (iv : Block) :
    (∀ (seqNo : ℕ) (frames : List (List Byte)), ∃ written,
      writeFrames ⟨cipher, iv, seqNo⟩ frames = .ok written ∧
        encrypt cipher iv (frames.flatMap padded) = .ok written ∧
        ∀ chunks : List (List Byte), (∀ chunk ∈ chunks, chunk.length % 16 = 0) →
          chunks.flatten = written → decryptPieces cipher iv chunks = .ok (frames.flatMap padded)) ∧
      ∀ data, (Buffer.encryptInPlace cipher iv data = encrypt cipher iv data ∧
          encryptInPlace cipher iv data = encrypt cipher iv data) ∧
        Buffer.decryptInPlace cipher iv data = decrypt cipher iv data ∧
          decryptInPlace cipher iv data = decrypt cipher iv data := by
  refine ⟨?_, fun data => ⟨⟨whenAligned_bufferLoop _ iv data, (encrypt_eq cipher iv data).symm⟩,
    whenAligned_bufferLoop _ iv data, (decrypt_eq cipher iv data).symm⟩⟩
  intro seqNo frames
  obtain ⟨blocks, hplain, hwritten⟩ := writeFrames_spec ⟨cipher, iv, seqNo⟩ frames
  refine ⟨_, hwritten, ?_, ?_⟩
  · rw [encrypt_eq, hplain, encryptInPlace_ofBlocks]
  · intro chunks haligned htext
    rw [decryptPieces_spec cipher iv chunks _ haligned htext,
      Cipher.decryptBlocks_encryptBlocks, hplain]

end RpcCodec
end TupoProxy
