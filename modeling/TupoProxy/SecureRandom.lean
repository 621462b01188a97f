import TupoProxy.ByteWords
import TupoProxy.Runs

/-!
# The buffered random generator

Random bytes are drawn from the generator in chunks and handed out from a
buffer.  Other calls take numbers from the generator between two chunks, so
the chunks are an arbitrary sequence here.  Whatever the requests are, the
bytes handed out are the chunks one after the other: no byte is given twice,
and none is skipped.
-/

namespace TupoProxy.SecureRandom

open List

def chunkSize : ℕ := 512

structure SecureRandomInner where
  /-- How many chunks have been drawn from the generator. -/
  drawn : ℕ
  buffer : List Byte
  bufferStart : ℕ

namespace SecureRandomInner

def new : SecureRandomInner := ⟨0, [], 0⟩

def clearSpent (inner : SecureRandomInner) : SecureRandomInner :=
  if inner.buffer.length ≤ inner.bufferStart then { inner with buffer := [], bufferStart := 0 }
  else inner

variable (chunkAt : ℕ → List Byte)

def refill (inner : SecureRandomInner) : SecureRandomInner :=
  if inner.buffer.isEmpty then ⟨inner.drawn + 1, chunkAt inner.drawn, 0⟩ else inner

/-- One turn of the loop of `fill`, for `want` bytes that are still missing. -/
def turn (want : ℕ) (inner : SecureRandomInner) : SecureRandomInner × List Byte :=
  let inner := inner.clearSpent.refill chunkAt
  let available := inner.buffer.length - inner.bufferStart
  let taken := min want available
  ({ inner with bufferStart := inner.bufferStart + taken }.clearSpent,
    (inner.buffer.drop inner.bufferStart).take taken)

/-- Each turn writes at least one byte, so that the length is fuel enough. -/
def fillLoop (len : ℕ) : ℕ → SecureRandomInner → List Byte → SecureRandomInner × List Byte
  | 0, inner, out => (inner, out)
  | fuel + 1, inner, out =>
    if out.length < len then
      let (inner, piece) := inner.turn chunkAt (len - out.length)
      fillLoop len fuel inner (out ++ piece)
    else (inner, out)

def fill (inner : SecureRandomInner) (len : ℕ) : SecureRandomInner × List Byte :=
  fillLoop chunkAt len len inner []

/-- A call of `fill`, with the outputs of the calls before. -/
def step (len : ℕ) (state : SecureRandomInner × List (List Byte)) :
    SecureRandomInner × List (List Byte) :=
  let (inner, out) := state.1.fill chunkAt len
  (inner, state.2 ++ [out])

/-! ## The bytes given and the bytes left -/

def stream (count : ℕ) : List Byte := ((List.range count).map chunkAt).flatten

def unread (inner : SecureRandomInner) : List Byte := inner.buffer.drop inner.bufferStart

def Follows (inner : SecureRandomInner) (given : List Byte) : Prop :=
  given ++ inner.unread = stream chunkAt inner.drawn

variable {chunkAt} {inner : SecureRandomInner} {given out : List Byte} {len : ℕ}

theorem unread_clearSpent (inner : SecureRandomInner) : inner.clearSpent.unread = inner.unread := by
  unfold clearSpent
  split
  · next hspent => exact (drop_eq_nil_of_le hspent).symm
  · rfl

theorem drawn_clearSpent (inner : SecureRandomInner) : inner.clearSpent.drawn = inner.drawn := by
  unfold clearSpent
  split <;> rfl

theorem clearSpent_empty : inner.clearSpent.buffer = [] ↔ inner.unread = [] := by
  unfold clearSpent unread
  rw [drop_eq_nil_iff]
  split
  · next hspent => exact iff_of_true rfl hspent
  · next hleft =>
    refine iff_of_false ?_ hleft
    intro hnil
    rw [hnil] at hleft
    exact hleft (Nat.zero_le _)

section
variable (hchunk : ∀ count, (chunkAt count).length = chunkSize)
include hchunk

/-- After the refill there is something to read. -/
theorem Follows.refill (hfollows : inner.Follows chunkAt given) :
    (inner.clearSpent.refill chunkAt).Follows chunkAt given ∧
      0 < (inner.clearSpent.refill chunkAt).unread.length := by
  unfold SecureRandomInner.refill
  split
  · next hempty =>
    have hgiven : given ++ [] = stream chunkAt inner.drawn := by
      rw [← hfollows, clearSpent_empty.mp (isEmpty_iff.mp hempty)]
    rw [append_nil] at hgiven
    constructor
    · rw [Follows, stream, drawn_clearSpent, range_succ, map_append, flatten_append, hgiven]
      exact congrArg _ (append_nil _).symm
    · exact (hchunk _).symm ▸ Nat.zero_lt_succ 511
  · next hfull =>
    rw [Follows, unread_clearSpent, drawn_clearSpent]
    exact ⟨hfollows, length_pos_iff.mpr (mt clearSpent_empty.mpr (mt isEmpty_iff.mpr hfull))⟩

theorem Follows.turn (hfollows : inner.Follows chunkAt given) {want : ℕ} (hwant : 0 < want) :
    (inner.turn chunkAt want).1.Follows chunkAt (given ++ (inner.turn chunkAt want).2) ∧
      0 < (inner.turn chunkAt want).2.length ∧ (inner.turn chunkAt want).2.length ≤ want := by
  obtain ⟨hsplit, hsome⟩ := hfollows.refill hchunk
  unfold SecureRandomInner.turn
  generalize inner.clearSpent.refill chunkAt = full at hsplit hsome ⊢
  have havailable : full.buffer.length - full.bufferStart = full.unread.length :=
    length_drop.symm
  have hunread : full.buffer.drop full.bufferStart = full.unread := rfl
  simp only [havailable, hunread, length_take]
  refine ⟨?_, by omega⟩
  have hrest (taken : ℕ) : { full with bufferStart := full.bufferStart + taken }.unread =
      full.unread.drop taken := drop_drop.symm
  rw [Follows, unread_clearSpent, drawn_clearSpent, hrest, append_assoc, take_append_drop]
  exact hsplit

theorem Follows.fillLoop {fuel : ℕ} (hfollows : inner.Follows chunkAt (given ++ out))
    (hlen : out.length ≤ len) (hfuel : len ≤ out.length + fuel) :
    (fillLoop chunkAt len fuel inner out).1.Follows chunkAt
        (given ++ (fillLoop chunkAt len fuel inner out).2) ∧
      (fillLoop chunkAt len fuel inner out).2.length = len := by
  induction fuel generalizing inner out with
  | zero => exact ⟨hfollows, le_antisymm hlen hfuel⟩
  | succ fuel ih =>
    unfold SecureRandomInner.fillLoop
    split
    · next hmore =>
      obtain ⟨hturn, hsome, hmost⟩ := hfollows.turn hchunk (Nat.sub_pos_of_lt hmore)
      rw [append_assoc] at hturn
      apply ih hturn
      all_goals
        rw [length_append]
        omega
    · next hdone => exact ⟨hfollows, le_antisymm hlen (not_lt.mp hdone)⟩

/-- Whatever lengths are asked for, every request is filled, and the outputs
followed by the unread rest are the chunks drawn so far. -/
theorem fill_outputs_follow_stream (lens : List ℕ) :
    let calls := Runs.run (step chunkAt) lens (new, [])
    calls.2.map length = lens ∧
      calls.2.flatten ++ calls.1.unread = stream chunkAt calls.1.drawn := by
  induction lens using reverseRecOn with
  | nil => exact ⟨rfl, rfl⟩
  | append_singleton lens len ih =>
    rw [Runs.run_concat]
    generalize Runs.run (step chunkAt) lens (new, []) = before at ih ⊢
    obtain ⟨hlengths, hbefore⟩ := ih
    have hstart : before.1.Follows chunkAt (before.2.flatten ++ []) := by
      rw [append_nil]
      exact hbefore
    obtain ⟨hfill, hlen⟩ := hstart.fillLoop hchunk (Nat.zero_le len) (Nat.le_add_left len _)
    simp only [step, map_append, hlengths, flatten_append, flatten_singleton]
    exact ⟨congrArg (fun n => lens ++ [n]) hlen, hfill⟩

end

theorem fill_outputs_follow_zeros :
    (Runs.run (step fun _ => replicate chunkSize 0) [500, 30] (new, [])).2.map length = [500, 30] :=
  (fill_outputs_follow_stream (fun _ => length_replicate) [500, 30]).1

end SecureRandomInner
end TupoProxy.SecureRandom
