import Mathlib.Data.List.AList
import Mathlib.Tactic

/-!
# Totals over finite tables

A table is an association list with distinct keys.  A total adds up a weight
of all its rows.  The lemmas say how a total moves when a row is added,
replaced or erased, so that an account kept beside a table can be compared
with the table after every update.
-/

namespace TupoProxy

open List AList

abbrev Table (α β : Type*) := AList (fun _ : α => β)

namespace Table

variable {α β : Type*}

def total (table : Table α β) (weight : α → β → ℕ) : ℕ :=
  (table.entries.map fun row => weight row.1 row.2).sum

def retain (table : Table α β) (keep : α → β → Bool) : Table α β where
  entries := table.entries.filter fun row => keep row.1 row.2
  nodupKeys := table.nodupKeys.sublist List.filter_sublist

variable {table : Table α β}

theorem total_le_total {light heavy : α → β → ℕ}
    (hle : ∀ key value, light key value ≤ heavy key value) :
    total table light ≤ total table heavy :=
  sum_le_sum fun row _ => hle row.1 row.2

theorem length_keys (table : Table α β) : table.keys.length = total table fun _ _ => 1 := by
  rw [total, map_const', sum_replicate, smul_eq_mul, mul_one]
  exact length_map _

variable [DecidableEq α]

@[grind =]
theorem lookup_insert_eq (table : Table α β) (key other : α) (value : β) :
    (table.insert key value).lookup other =
      if other = key then some value else table.lookup other := by
  split
  · next hother => rw [hother, lookup_insert]
  · next hother => rw [lookup_insert_ne hother]

variable {key other : α} {value found : β}

theorem lookup_insert_some (hlookup : (table.insert key value).lookup other = some found) :
    (other = key ∧ found = value) ∨ (other ≠ key ∧ table.lookup other = some found) := by
  by_cases hother : other = key
  · subst hother
    rw [lookup_insert] at hlookup
    exact .inl ⟨rfl, (Option.some.inj hlookup).symm⟩
  · rw [lookup_insert_ne hother] at hlookup
    exact .inr ⟨hother, hlookup⟩

section

variable (hother : table.lookup other = some found) (hkey : table.lookup key ≠ some found)
include hother hkey

theorem lookup_insert_other : (table.insert key value).lookup other = some found := by
  rw [lookup_insert_ne]
  · exact hother
  · rintro rfl
    exact hkey hother

theorem lookup_erase_other : (table.erase key).lookup other = some found := by
  rw [lookup_erase_ne]
  · exact hother
  · rintro rfl
    exact hkey hother

end

theorem lookup_erase_some (hlookup : (table.erase key).lookup other = some found) :
    other ≠ key ∧ table.lookup other = some found := by
  by_cases hother : other = key
  · subst hother
    rw [lookup_erase] at hlookup
    contradiction
  · rw [lookup_erase_ne hother] at hlookup
    exact ⟨hother, hlookup⟩

variable (weight : α → β → ℕ)

theorem total_erase_add (hlookup : table.lookup key = some value) :
    total (table.erase key) weight + weight key value = total table weight := by
  have hmem : key ∈ table.entries.keys := by
    apply lookup_isSome.mp
    rw [hlookup]
    rfl
  obtain ⟨found, before, after, -, hentries, herase⟩ := exists_of_kerase hmem
  have hfound : found = value := by
    have hin : (⟨key, found⟩ : Sigma fun _ : α => β) ∈ table.entries := by
      rw [hentries]
      simp
    have hsome := (mem_dlookup_iff table.nodupKeys).mpr hin
    rw [AList.lookup] at hlookup
    rw [hlookup] at hsome
    exact (Option.some.inj hsome).symm
  have herased : (table.erase key).entries = before ++ after := herase
  rw [total, total, herased, hentries, hfound]
  simp only [map_append, map_cons, sum_append, sum_cons]
  omega

theorem total_insert (key : α) (value : β) (weight : α → β → ℕ) :
    total (table.insert key value) weight = weight key value + total (table.erase key) weight := by
  rfl

theorem total_erase_none
    (hlookup : table.lookup key = none) : total (table.erase key) weight = total table weight := by
  have hkey : key ∉ table.entries.keys := lookup_eq_none.mp hlookup
  have herase : (table.erase key).entries = table.entries := kerase_of_notMem_keys hkey
  rw [total, total, herase]

theorem total_insert_new (hlookup : table.lookup key = none) :
    total (table.insert key value) weight = weight key value + total table weight := by
  rw [total_insert, total_erase_none weight hlookup]

theorem total_insert_replace {old : β} (value : β) (hlookup : table.lookup key = some old) :
    total (table.insert key value) weight + weight key old =
      weight key value + total table weight := by
  rw [total_insert, ← total_erase_add weight hlookup]
  omega

theorem total_eq_zero {weight : α → β → ℕ}
    (hzero : ∀ key value, table.lookup key = some value → weight key value = 0) :
    total table weight = 0 := by
  rw [total, sum_eq_zero_iff]
  intro amount hamount
  obtain ⟨row, hrow, rfl⟩ := mem_map.mp hamount
  apply hzero row.1 row.2
  exact (mem_dlookup_iff table.nodupKeys).mpr hrow

theorem weight_le_total
    (hlookup : table.lookup key = some value) : weight key value ≤ total table weight := by
  rw [← total_erase_add weight hlookup]
  exact Nat.le_add_left _ _

end Table
end TupoProxy
