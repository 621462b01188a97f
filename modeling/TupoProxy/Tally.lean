import TupoProxy.KeyedTotal

/-!
# Tallies

A tally is a table of positive counts.  A book keeps one tally for each owner;
an owner without a tally counts like an owner with an empty one.  Occurrences
are taken away in amounts: a row that would not stay positive is dropped, and
with its last row the owner.
-/

namespace TupoProxy.Tally

open AList Table

variable {α κ : Type*} [DecidableEq α] [DecidableEq κ]

def count (tally : Table α ℕ) (item : α) : ℕ := (tally.lookup item).getD 0

def take (tally : Table α ℕ) (item : α) (amount : ℕ) : Table α ℕ :=
  match tally.lookup item with
  | none => tally
  | some found =>
    if amount < found then tally.insert item (found - amount)
    else tally.erase item

def Positive (tally : Table α ℕ) : Prop :=
  ∀ item found, tally.lookup item = some found → 0 < found

@[simp] theorem count_empty (item : α) : count (∅ : Table α ℕ) item = 0 := rfl

theorem positive_empty : Positive (∅ : Table α ℕ) := by
  intro item found hlookup
  simp at hlookup

section

variable (tally : Table α ℕ) (item other : α)

theorem count_insert (value : ℕ) :
    count (tally.insert item value) other = if other = item then value else count tally other := by
  unfold count
  split_ifs with heq
  · rw [heq, lookup_insert]
    rfl
  · rw [lookup_insert_ne heq]

theorem count_erase :
    count (tally.erase item) other = if other = item then 0 else count tally other := by
  unfold count
  split_ifs with heq
  · rw [heq, lookup_erase]
    rfl
  · rw [lookup_erase_ne heq]

theorem count_take (amount : ℕ) :
    count (take tally item amount) other =
      if other = item then count tally other - amount else count tally other := by
  unfold take
  cases hlookup : tally.lookup item with
  | none =>
    split_ifs with heq
    · subst heq
      simp [count, hlookup]
    · rfl
  | some found =>
    have hfound : count tally item = found := by simp [count, hlookup]
    simp only
    split_ifs with hless heq heq
    · rw [count_insert, if_pos heq, heq, hfound]
    · rw [count_insert, if_neg heq]
    · rw [count_erase, if_pos heq, heq, hfound]
      omega
    · rw [count_erase, if_neg heq]

end

variable {tally : Table α ℕ}

section

variable (hpositive : Positive tally) (item : α)
include hpositive

theorem Positive.insert {value : ℕ} (hvalue : 0 < value) : Positive (tally.insert item value) := by
  intro other found hlookup
  rcases lookup_insert_some hlookup with ⟨rfl, rfl⟩ | ⟨-, hold⟩
  · exact hvalue
  · exact hpositive other found hold

theorem Positive.erase : Positive (tally.erase item) := by
  intro other value hother
  exact hpositive other value (lookup_erase_some hother).2

theorem Positive.take (amount : ℕ) : Positive (take tally item amount) := by
  unfold Tally.take
  cases hlookup : tally.lookup item with
  | none => exact hpositive
  | some found =>
    simp only
    split_ifs with hless
    · exact hpositive.insert item (by omega)
    · exact hpositive.erase item

theorem Positive.mem_keys : item ∈ tally.keys ↔ 0 < count tally item := by
  rw [← AList.mem_keys, ← AList.lookup_isSome]
  unfold count
  cases hlookup : tally.lookup item with
  | none => simp
  | some found => simp [hpositive item found hlookup]

end

theorem Positive.length_keys (hpositive : Positive tally)
    {items : Finset α} (hitems : ∀ item, item ∈ items ↔ 0 < count tally item) :
    tally.keys.length = items.card := by
  rw [← List.toFinset_card_of_nodup tally.keys_nodup]
  congr 1
  ext item
  rw [List.mem_toFinset, hpositive.mem_keys, hitems]

theorem sum_rows (tally : Table α ℕ) (item : α) :
    tally.total (fun key value => if key = item then value else 0) = count tally item := by
  have hothers : ∀ table : Table α ℕ, table.lookup item = none →
      table.total (fun key value => if key = item then value else 0) = 0 := by
    intro table hnone
    refine total_eq_zero fun key value hlookup => if_neg ?_
    rintro rfl
    rw [hnone] at hlookup
    cases hlookup
  unfold count
  cases hlookup : tally.lookup item with
  | none => exact hothers tally hlookup
  | some found =>
    rw [← total_erase_add _ hlookup, hothers _ (lookup_erase item tally)]
    simp

/-! ## Books -/

abbrev Book (κ α : Type*) := Table κ (Table α ℕ)

def ofOwner (book : Book κ α) (owner : κ) : Table α ℕ :=
  (book.lookup owner).getD ∅

variable (book : Book κ α) (owner other : κ)

omit [DecidableEq α] in
theorem ofOwner_insert (tally : Table α ℕ) :
    ofOwner (book.insert owner tally) other =
      if other = owner then tally else ofOwner book other := by
  unfold ofOwner
  split_ifs with heq
  · rw [heq, lookup_insert]
    rfl
  · rw [lookup_insert_ne heq]

omit [DecidableEq α] in
theorem ofOwner_erase :
    ofOwner (book.erase owner) other = if other = owner then ∅ else ofOwner book other := by
  unfold ofOwner
  split_ifs with heq
  · rw [heq, lookup_erase]
    rfl
  · rw [lookup_erase_ne heq]

def orDefault (book : Book κ α) (owner : κ) : Book κ α :=
  if (book.lookup owner).isSome then book else book.insert owner ∅

omit [DecidableEq α] in
@[simp] theorem ofOwner_orDefault : ofOwner (orDefault book owner) other = ofOwner book other := by
  unfold orDefault
  split_ifs with hsome
  · rfl
  · rw [ofOwner_insert]
    split_ifs with heq
    · rw [heq, ofOwner, Option.not_isSome_iff_eq_none.mp hsome]
      rfl
    · rfl

omit [DecidableEq α] in
theorem lookup_orDefault (owner : κ) :
    (orDefault book owner).lookup owner = some (ofOwner book owner) := by
  unfold orDefault ofOwner
  cases hlookup : book.lookup owner with
  | none => simp [lookup_insert]
  | some tally => simp [hlookup]

/-- Take occurrences from the tally of an owner, and drop the owner with the
last row. -/
def release (book : Book κ α) (owner : κ) (item : α) (amount : ℕ) :
    Book κ α :=
  match book.lookup owner with
  | none => book
  | some tally =>
    let rest := take tally item amount
    if rest.entries.isEmpty then book.erase owner else book.insert owner rest

omit [DecidableEq α] in
theorem eq_empty_of_isEmpty (hempty : tally.entries.isEmpty = true) : tally = ∅ :=
  ext (List.isEmpty_iff.mp hempty)

theorem ofOwner_release (item : α) (amount : ℕ) :
    ofOwner (release book owner item amount) other =
      if other = owner then take (ofOwner book owner) item amount
      else ofOwner book other := by
  unfold release
  cases hlookup : book.lookup owner with
  | none =>
    have howner : ofOwner book owner = ∅ := by simp [ofOwner, hlookup]
    split_ifs with heq
    · rw [heq, howner]
      rfl
    · rfl
  | some tally =>
    have howner : ofOwner book owner = tally := by simp [ofOwner, hlookup]
    simp only
    rw [howner]
    split_ifs with hempty heq heq
    · rw [ofOwner_erase, if_pos heq, eq_empty_of_isEmpty hempty]
    · rw [ofOwner_erase, if_neg heq]
    · rw [ofOwner_insert, if_pos heq]
    · rw [ofOwner_insert, if_neg heq]

def size (book : Book κ α) : ℕ :=
  book.total fun _ tally => tally.entries.length

omit [DecidableEq α] in
theorem size_erase_add (owner : κ) :
    size (book.erase owner) + (ofOwner book owner).entries.length = size book := by
  unfold size ofOwner
  cases hlookup : book.lookup owner with
  | none =>
    rw [total_erase_none _ hlookup]
    rfl
  | some tally => exact total_erase_add _ hlookup

omit [DecidableEq α] in
theorem size_insert_add (owner : κ) (tally : Table α ℕ) :
    size (book.insert owner tally) + (ofOwner book owner).entries.length =
      tally.entries.length + size book := by
  have herase := size_erase_add book owner
  have hinsert : size (book.insert owner tally) = tally.entries.length + size (book.erase owner) :=
    total_insert _ _ _
  omega

omit [DecidableEq α] in
theorem length_ofOwner_le (owner : κ) : (ofOwner book owner).entries.length ≤ size book := by
  have herase := size_erase_add book owner
  omega

omit [DecidableEq α] in
theorem length_eq_total (tally : Table α ℕ) : tally.entries.length = tally.total fun _ _ => 1 := by
  simp [total]

variable {item : α} {found : ℕ}

theorem length_erase_add (hlookup : tally.lookup item = some found) :
    (tally.erase item).entries.length + 1 = tally.entries.length := by
  rw [length_eq_total, length_eq_total]
  exact total_erase_add _ hlookup

variable (value : ℕ)

theorem length_insert_new (hlookup : tally.lookup item = none) :
    (tally.insert item value).entries.length = 1 + tally.entries.length := by
  rw [length_eq_total, length_eq_total]
  exact total_insert_new _ hlookup

theorem length_insert_replace (hlookup : tally.lookup item = some found) :
    (tally.insert item value).entries.length = tally.entries.length := by
  have htotal := total_insert_replace (fun _ _ => 1) value hlookup
  rw [length_eq_total, length_eq_total]
  omega

end TupoProxy.Tally
