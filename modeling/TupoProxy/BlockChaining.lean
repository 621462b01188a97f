import Mathlib.Tactic

/-!
# Cipher block chaining

Blocks are values of any type with an operation that mixes a block with a
chaining value and can be undone.  A message may be handled in several pieces
when the chaining value is carried over from one piece to the next.
-/

namespace TupoProxy.BlockChaining

/-- A block cipher under a fixed key, with the operation that mixes a block
with the chaining value. -/
structure Cipher (β : Type*) where
  encrypt : β → β
  decrypt : β → β
  mix : β → β → β
  decrypt_encrypt : ∀ block, decrypt (encrypt block) = block
  mix_mix : ∀ block chaining, mix (mix block chaining) chaining = block

namespace Cipher

variable {β : Type*} (cipher : Cipher β)

def encryptBlocks : β → List β → List β
  | _, [] => []
  | chaining, block :: blocks =>
    let sealed := cipher.encrypt (cipher.mix block chaining)
    sealed :: encryptBlocks sealed blocks

def decryptBlocks : β → List β → List β
  | _, [] => []
  | chaining, sealed :: blocks =>
    cipher.mix (cipher.decrypt sealed) chaining :: decryptBlocks sealed blocks

def chainingAfter (chaining : β) (sealed : List β) : β := sealed.getLast?.getD chaining

theorem chainingAfter_cons (chaining block : β) (sealed : List β) :
    chainingAfter chaining (block :: sealed) = chainingAfter block sealed := by
  rw [chainingAfter, chainingAfter, List.getLast?_cons]
  rfl

variable (chaining : β) (left right : List β)

theorem chainingAfter_append :
    chainingAfter chaining (left ++ right) = chainingAfter (chainingAfter chaining left) right := by
  induction left generalizing chaining with
  | nil => rfl
  | cons block left ih => rw [List.cons_append, chainingAfter_cons, ih, chainingAfter_cons]

variable (blocks : List β)

theorem length_encryptBlocks : (cipher.encryptBlocks chaining blocks).length = blocks.length := by
  induction blocks generalizing chaining with
  | nil => rfl
  | cons block blocks ih => rw [encryptBlocks, List.length_cons, ih, List.length_cons]

theorem length_decryptBlocks : (cipher.decryptBlocks chaining blocks).length = blocks.length := by
  induction blocks generalizing chaining with
  | nil => rfl
  | cons block blocks ih => rw [decryptBlocks, List.length_cons, ih, List.length_cons]

theorem encryptBlocks_append :
    cipher.encryptBlocks chaining (left ++ right) = cipher.encryptBlocks chaining left ++
        cipher.encryptBlocks
          (chainingAfter chaining (cipher.encryptBlocks chaining left)) right := by
  induction left generalizing chaining with
  | nil => rfl
  | cons block left ih =>
    simp only [List.cons_append, encryptBlocks]
    rw [ih, chainingAfter_cons]

theorem decryptBlocks_append :
    cipher.decryptBlocks chaining (left ++ right) = cipher.decryptBlocks chaining left ++
        cipher.decryptBlocks (chainingAfter chaining left) right := by
  induction left generalizing chaining with
  | nil => rfl
  | cons block left ih =>
    simp only [List.cons_append, decryptBlocks]
    rw [ih, chainingAfter_cons]

theorem decryptBlocks_encryptBlocks :
    cipher.decryptBlocks chaining (cipher.encryptBlocks chaining blocks) = blocks := by
  induction blocks generalizing chaining with
  | nil => rfl
  | cons block blocks ih =>
    simp only [encryptBlocks, decryptBlocks]
    rw [ih, cipher.decrypt_encrypt, cipher.mix_mix]

end Cipher
end TupoProxy.BlockChaining
