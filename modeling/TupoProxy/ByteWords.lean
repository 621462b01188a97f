import Mathlib.Tactic

/-!
# Little- and big-endian words

Every wire format of the proxy writes its lengths, sequence numbers and tags
as fixed-width words.  A word is a natural number here and its width is an
argument, so that one round-trip law serves `u16`, `u24`, `u32` and `u64`
fields alike.
-/

namespace TupoProxy

open List

abbrev Byte := UInt8

namespace ByteWords

def leNat : List Byte → ℕ
  | [] => 0
  | b :: bs => b.toNat + 256 * leNat bs

def leBytes : ℕ → ℕ → List Byte
  | 0, _ => []
  | width + 1, n => UInt8.ofNat n :: leBytes width (n / 256)

def beNat (bs : List Byte) : ℕ := leNat bs.reverse

def beBytes (width n : ℕ) : List Byte := (leBytes width n).reverse

variable (width n : ℕ)

@[simp] theorem length_leBytes : (leBytes width n).length = width := by
  induction width generalizing n with
  | zero => rfl
  | succ width ih => simp [leBytes, ih]

@[simp] theorem length_beBytes : (beBytes width n).length = width := by
  simp [beBytes]

theorem leNat_lt (bs : List Byte) : leNat bs < 256 ^ bs.length := by
  induction bs with
  | nil => simp [leNat]
  | cons b bs ih =>
    have hb : b.toNat < 256 := b.toNat_lt
    simp only [leNat, length_cons, pow_succ]
    omega

theorem leNat_leBytes : leNat (leBytes width n) = n % 256 ^ width := by
  induction width generalizing n with
  | zero => simp [leBytes, leNat, Nat.mod_one]
  | succ width ih =>
    have hbyte : (UInt8.ofNat n).toNat = n % 256 := by simp
    simp only [leBytes, leNat, hbyte, ih]
    rw [pow_succ', Nat.mod_mul]

theorem leBytes_mod : leBytes width (n % 256 ^ width) = leBytes width n := by
  induction width generalizing n with
  | zero => rfl
  | succ width ih =>
    have hbyte : UInt8.ofNat (n % 256 ^ (width + 1)) = UInt8.ofNat n := by
      apply UInt8.toNat_inj.mp
      simp only [UInt8.toNat_ofNat', pow_succ']
      exact Nat.mod_mul_right_mod n 256 (256 ^ width)
    have hrest : n % 256 ^ (width + 1) / 256 = n / 256 % 256 ^ width := by
      rw [pow_succ', Nat.mod_mul_right_div_self]
    simp only [leBytes, hbyte, hrest, ih]

theorem leNat_leBytes_of_lt {width n : ℕ} (hn : n < 256 ^ width) : leNat (leBytes width n) = n := by
  rw [leNat_leBytes, Nat.mod_eq_of_lt hn]

theorem beNat_beBytes_of_lt {width n : ℕ} (hn : n < 256 ^ width) : beNat (beBytes width n) = n := by
  simp [beNat, beBytes, leNat_leBytes_of_lt hn]

/-! ## Fields of a buffer -/

/-- `b[start..start + len]` -/
def slice (b : List Byte) (start len : ℕ) : List Byte := (b.drop start).take len

/-- `b[start..start + src.len()].copy_from_slice(src)` -/
def copyFromSlice (b : List Byte) (start : ℕ) (src : List Byte) : List Byte :=
  b.take start ++ src ++ b.drop (start + src.length)

theorem copyFromSlice_append (b old src rest : List Byte) (hlength : src.length = old.length) :
    copyFromSlice (b ++ (old ++ rest)) b.length src = b ++ (src ++ rest) := by
  unfold copyFromSlice
  rw [take_left, hlength, ← append_assoc b old rest, ← length_append, drop_left, append_assoc]

section Copy

variable {b src : List Byte} {start : ℕ}

theorem length_copyFromSlice (hfits : start + src.length ≤ b.length) :
    (copyFromSlice b start src).length = b.length := by
  simp only [copyFromSlice, length_append, length_take, length_drop]
  omega

theorem slice_copyFromSlice_self (hfits : start + src.length ≤ b.length) :
    slice (copyFromSlice b start src) start src.length = src := by
  have hhead : (b.take start).length = start := by
    rw [length_take]
    omega
  unfold slice copyFromSlice
  rw [append_assoc, drop_left' hhead, take_left]

theorem slice_copyFromSlice_of_le {offset len : ℕ} (hbefore : offset + len ≤ start)
    (hfits : start + src.length ≤ b.length) :
    slice (copyFromSlice b start src) offset len = slice b offset len := by
  have hshort : len ≤ ((b.take start).drop offset).length := by
    rw [length_drop, length_take]
    omega
  have hhead : offset ≤ (b.take start).length := by
    rw [length_take]
    omega
  unfold slice copyFromSlice
  rw [append_assoc, drop_append_of_le_length hhead,
    take_append_of_le_length hshort, drop_take, take_take, Nat.min_eq_left (by omega)]

theorem slice_copyFromSlice_of_ge {offset len : ℕ} (hbehind : start + src.length ≤ offset)
    (hfits : start + src.length ≤ b.length) :
    slice (copyFromSlice b start src) offset len = slice b offset len := by
  have hhead : (b.take start ++ src).length = start + src.length := by
    rw [length_append, length_take]
    omega
  obtain ⟨more, rfl⟩ := Nat.exists_eq_add_of_le hbehind
  unfold slice copyFromSlice
  rw [drop_append, hhead, drop_of_length_le (by omega), nil_append,
    Nat.add_sub_cancel_left, drop_drop]

end Copy

end ByteWords

end TupoProxy
