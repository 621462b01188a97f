import Mathlib.Tactic

/-!
# Sets that forget by age and by number

Additions are logged with their times, oldest first.  A key counts as seen for
`window` units of time after its addition and until `capacity` further
additions have been made.  What is still remembered is then a final segment of
the log, and the lemmas say how that segment moves when time passes and when a
key is added.
-/

namespace TupoProxy.WindowSet

open List

variable {κ : Type*}

/-- The key was added not more than `window` before `now`, and fewer than
`capacity` additions came after that one. -/
def Seen (window capacity now : ℕ) (log : List (ℕ × κ)) (key : κ) : Prop :=
  ∃ index time, log[index]? = some (time, key) ∧ now ≤ time + window ∧
    log.length - (index + 1) < capacity

def seen [DecidableEq κ] (window capacity now : ℕ) : List (ℕ × κ) → κ → Bool
  | [], _ => false
  | (time, added) :: rest, key =>
    (added = key && now ≤ time + window && rest.length < capacity) ||
      seen window capacity now rest key

variable {window capacity now : ℕ}

/-- The executable check decides the window. -/
theorem seen_iff [DecidableEq κ] {log : List (ℕ × κ)} {key : κ} :
    seen window capacity now log key = true ↔ Seen window capacity now log key := by
  induction log with
  | nil => simp [seen, Seen]
  | cons entry rest ih =>
    obtain ⟨time, added⟩ := entry
    simp only [seen, Bool.or_eq_true, Bool.and_eq_true, decide_eq_true_eq, ih]
    constructor
    · rintro (⟨⟨rfl, hage⟩, hlater⟩ | ⟨index, time', hget, hage, hlater⟩)
      · exact ⟨0, time, rfl, hage, by simpa using hlater⟩
      · exact ⟨index + 1, time', hget, hage, by
          rw [length_cons]
          omega⟩
    · rintro ⟨index, time', hget, hage, hlater⟩
      cases index with
      | zero =>
        cases hget
        exact Or.inl ⟨⟨rfl, hage⟩, by simpa using hlater⟩
      | succ index =>
        refine Or.inr ⟨index, time', hget, hage, ?_⟩
        rw [length_cons] at hlater
        omega

instance [DecidableEq κ] (window capacity now : ℕ) (log : List (ℕ × κ)) (key : κ) :
    Decidable (Seen window capacity now log key) :=
  decidable_of_iff _ seen_iff

/-- `live` is the log without a number of entries at its front, all of which
are too old or have been followed by too many additions. -/
structure Keeps (window capacity now : ℕ) (log live : List (ℕ × κ)) : Prop where
  within : live.length ≤ capacity
  suffix : ∃ count ≤ log.length, live = log.drop count ∧
    ∀ index entry, index < count → log[index]? = some entry →
      entry.1 + window < now ∨ capacity ≤ log.length - (index + 1)

theorem Keeps.nil (window capacity now : ℕ) : Keeps window capacity now ([] : List (ℕ × κ)) [] :=
  ⟨Nat.zero_le _, 0, le_rfl, rfl, fun _ _ hindex => absurd hindex (Nat.not_lt_zero _)⟩

variable {log live : List (ℕ × κ)}

section

variable (hkeeps : Keeps window capacity now log live)
include hkeeps

/-- What is seen is what is live, once the expired entries are gone. -/
theorem Keeps.seen_iff_mem {key : κ} (hyoung : ∀ entry ∈ live, now ≤ entry.1 + window) :
    Seen window capacity now log key ↔ key ∈ live.map Prod.snd := by
  obtain ⟨hwithin, count, -, hlive, hgone⟩ := hkeeps
  have hlength : live.length = log.length - count := by rw [hlive, length_drop]
  constructor
  · rintro ⟨index, time, hget, hage, hlater⟩
    have hindex : count ≤ index := by
      by_contra hlt
      rcases hgone index (time, key) (not_le.mp hlt) hget with hold | hmany
      · exact absurd hage (not_le.mpr hold)
      · exact absurd hlater (not_lt.mpr hmany)
    have hmem : (time, key) ∈ live := by
      apply mem_of_getElem? (i := index - count)
      rw [hlive, getElem?_drop, Nat.add_sub_cancel' hindex]
      exact hget
    exact mem_map_of_mem hmem
  · intro hmem
    obtain ⟨⟨time, added⟩, hentry, rfl⟩ := mem_map.mp hmem
    obtain ⟨index, hget⟩ := mem_iff_getElem?.mp hentry
    have hbound : index < live.length := (List.getElem?_eq_some_iff.mp hget).1
    refine ⟨count + index, time, ?_, hyoung _ hentry, by omega⟩
    rw [← getElem?_drop, ← hlive]
    exact hget

theorem Keeps.expire {later count : ℕ} (hlater : now ≤ later)
    (hcount : count ≤ live.length) (hold : ∀ entry ∈ live.take count, entry.1 + window < later) :
    Keeps window capacity later log (live.drop count) := by
  obtain ⟨hwithin, gone, hbound, hlive, hgone⟩ := hkeeps
  have hlength : live.length = log.length - gone := by rw [hlive, length_drop]
  refine ⟨?_, gone + count, by omega, ?_, ?_⟩
  · rw [length_drop]
    omega
  · rw [hlive, drop_drop]
  · intro index entry hindex hget
    by_cases hfirst : index < gone
    · rcases hgone index entry hfirst hget with hpast | hmany
      · exact Or.inl (hpast.trans_le hlater)
      · exact Or.inr hmany
    · left
      apply hold
      apply mem_of_getElem? (i := index - gone)
      rw [getElem?_take_of_lt (by omega), hlive, getElem?_drop,
        Nat.add_sub_cancel' (not_lt.mp hfirst)]
      exact hget

theorem Keeps.add (hcapacity : 0 < capacity) (entry : ℕ × κ) :
    Keeps window capacity now (log ++ [entry])
      (live.drop (live.length + 1 - capacity) ++ [entry]) := by
  obtain ⟨hwithin, gone, hbound, hlive, hgone⟩ := hkeeps
  have hlength : live.length = log.length - gone := by rw [hlive, length_drop]
  have hcount : gone + (live.length + 1 - capacity) ≤ log.length := by omega
  refine ⟨?_, gone + (live.length + 1 - capacity), ?_, ?_, ?_⟩
  · rw [length_append, length_drop, length_singleton]
    omega
  · rw [length_append]
    omega
  · rw [drop_append_of_le_length hcount]
    nth_rewrite 2 [hlive]
    rw [drop_drop]
  · intro index entry' hindex hget
    rw [getElem?_append_left (hindex.trans_le hcount)] at hget
    rw [length_append, length_singleton]
    by_cases hfirst : index < gone
    · rcases hgone index entry' hfirst hget with hpast | hmany
      · exact Or.inl hpast
      · right
        omega
    · right
      omega

end

end TupoProxy.WindowSet
