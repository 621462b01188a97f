import Mathlib.Tactic

/-!
# Stream ciphers

A stream cipher maps a state and a piece of data to a new state and a piece of
the same length, and does not see how the data is cut into pieces.  Combining
the data with a keystream that is indexed by the position is one.
-/

namespace TupoProxy

structure StreamCipher (κ α : Type*) where
  apply : κ → List α → κ × List α
  apply_nil : ∀ state, apply state [] = (state, [])
  apply_append : ∀ state left right,
    apply state (left ++ right) =
      ((apply (apply state left).1 right).1,
        (apply state left).2 ++ (apply (apply state left).1 right).2)
  length_apply : ∀ state data, (apply state data).2.length = data.length

namespace StreamCipher

variable {κ α : Type*}

def ofKeystream (keystream : ℕ → α) (mix : α → α → α) : StreamCipher ℕ α where
  apply position data :=
    (position + data.length,
      data.mapIdx fun index element => mix element (keystream (position + index)))
  apply_nil position := rfl
  apply_append position left right := by
    have hposition : position + (left ++ right).length =
        position + left.length + right.length := by
      rw [List.length_append, Nat.add_assoc]
    have hshift : ∀ index, position + (index + left.length) =
        position + left.length + index := by
      intro index
      omega
    simp only [List.mapIdx_append, hposition, hshift]
  length_apply position data := List.length_mapIdx

theorem ofKeystream_drop (keystream : ℕ → α) (mix : α → α → α) (position : ℕ)
    {count : ℕ} {data : List α} (hcount : count ≤ data.length) :
    ((ofKeystream keystream mix).apply position data).2.drop count =
      ((ofKeystream keystream mix).apply (position + count) (data.drop count)).2 := by
  have hhead : (data.take count).length = count := List.length_take_of_le hcount
  have happend := (ofKeystream keystream mix).apply_append position (data.take count)
    (data.drop count)
  rw [List.take_append_drop] at happend
  rw [happend, List.drop_left' (by rw [length_apply, hhead])]
  simp only [ofKeystream, hhead]

theorem ofKeystream_involutive {keystream : ℕ → α} {mix : α → α → α}
    (hmix : ∀ element key, mix (mix element key) key = element) (position : ℕ) (data : List α) :
    ((ofKeystream keystream mix).apply position
      ((ofKeystream keystream mix).apply position data).2).2 = data := by
  apply List.ext_getElem?
  intro index
  simp only [ofKeystream, List.getElem?_mapIdx, Option.map_map, Function.comp_def, hmix,
    Option.map_id']

variable (cipher : StreamCipher κ α)

section

variable {start state : κ} {before : List α} (data : List α)
  (hstate : state = (cipher.apply start before).1)
include hstate

theorem apply_append_fst :
    (cipher.apply state data).1 = (cipher.apply start (before ++ data)).1 := by
  rw [cipher.apply_append, hstate]

theorem apply_append_snd :
    (cipher.apply start before).2 ++ (cipher.apply state data).2 =
      (cipher.apply start (before ++ data)).2 := by
  rw [cipher.apply_append, hstate]

end

end StreamCipher
end TupoProxy
