import Mathlib.Data.List.Nodup
import Mathlib.Tactic

/-!
# Lists with distinct keys

Entries are kept in the order of their arrival and found by a key that no two
of them share.  Updating or removing the entry of a key touches no other
entry.
-/

namespace TupoProxy

open List

structure KeyedList {α κ : Type*} (key : α → κ) where
  entries : List α
  distinct : (entries.map key).Nodup

namespace KeyedList

variable {α κ : Type*} {key : α → κ}

instance : Membership α (KeyedList key) where
  mem list entry := entry ∈ list.entries

instance [DecidableEq α] (entry : α) (list : KeyedList key) : Decidable (entry ∈ list) :=
  inferInstanceAs (Decidable (entry ∈ list.entries))

variable {list : KeyedList key}

theorem eq_of_key {left right : α} (hleft : left ∈ list)
    (hright : right ∈ list) (hkey : key left = key right) : left = right :=
  inj_on_of_nodup_map list.distinct hleft hright hkey

def map (change : α → α) (hkey : ∀ entry, key (change entry) = key entry)
    (list : KeyedList key) : KeyedList key where
  entries := list.entries.map change
  distinct := by
    have hkeys : key ∘ change = key := funext hkey
    rw [List.map_map, hkeys]
    exact list.distinct

variable {change : α → α} {entry : α}

theorem mem_map (hkey : ∀ entry, key (change entry) = key entry) :
    entry ∈ list.map change hkey ↔ ∃ old ∈ list, change old = entry :=
  List.mem_map

variable [DecidableEq κ]

def find? (wanted : κ) (list : KeyedList key) : Option α :=
  list.entries.find? fun entry => key entry = wanted

variable {wanted : κ}

theorem find?_eq_none : list.find? wanted = none ↔ ∀ entry ∈ list, key entry ≠ wanted := by
  rw [find?, List.find?_eq_none]
  simp only [decide_eq_true_eq]
  exact Iff.rfl

theorem find?_eq_some : list.find? wanted = some entry ↔ entry ∈ list ∧ key entry = wanted := by
  have hfound : ∀ {found}, list.find? wanted = some found →
      found ∈ list ∧ key found = wanted := by
    intro found hfind
    have hkey := find?_some hfind
    exact ⟨mem_of_find?_eq_some hfind, of_decide_eq_true hkey⟩
  constructor
  · exact hfound
  · rintro ⟨hmem, hkey⟩
    cases hfind : list.find? wanted with
    | none => exact absurd hkey (find?_eq_none.mp hfind entry hmem)
    | some found =>
      obtain ⟨hfoundMem, hfoundKey⟩ := hfound hfind
      rw [eq_of_key hfoundMem hmem (hfoundKey.trans hkey.symm)]

def push (entry : α) (list : KeyedList key) : KeyedList key :=
  if hfresh : list.find? (key entry) = none then
    { entries := list.entries ++ [entry]
      distinct := by
        rw [List.map_append, List.map_singleton, ← List.concat_eq_append, List.nodup_concat]
        refine ⟨?_, list.distinct⟩
        intro hmem
        obtain ⟨other, hother, hkey⟩ := List.mem_map.mp hmem
        exact find?_eq_none.mp hfresh other hother hkey }
  else list

theorem entries_push (hfresh : list.find? (key entry) = none) :
    (list.push entry).entries = list.entries ++ [entry] := by
  rw [push, dif_pos hfresh]

theorem mem_push {other : α} (hfresh : list.find? (key entry) = none) :
    other ∈ list.push entry ↔ other ∈ list ∨ other = entry := by
  change other ∈ (list.push entry).entries ↔ other ∈ list.entries ∨ other = entry
  rw [entries_push hfresh, mem_append, mem_singleton]

theorem find?_push
    (hwanted : key entry ≠ wanted) : (list.push entry).find? wanted = list.find? wanted := by
  unfold push
  split
  · simp [find?, find?_append, hwanted]
  · rfl

def remove (wanted : κ) (list : KeyedList key) : KeyedList key where
  entries := list.entries.filter fun entry => key entry ≠ wanted
  distinct := list.distinct.sublist (List.filter_sublist.map key)

theorem mem_remove : entry ∈ list.remove wanted ↔ entry ∈ list ∧ key entry ≠ wanted := by
  change entry ∈ list.entries.filter _ ↔ _
  rw [mem_filter, decide_eq_true_eq]
  exact Iff.rfl

def update (wanted : κ) (change : α → α) (hkey : ∀ entry, key (change entry) = key entry)
    (list : KeyedList key) : KeyedList key :=
  list.map (fun entry => if key entry = wanted then change entry else entry) fun entry => by
    split
    · exact hkey entry
    · rfl

theorem mem_update (hkey : ∀ entry, key (change entry) = key entry) :
    entry ∈ list.update wanted change hkey ↔ (entry ∈ list ∧ key entry ≠ wanted) ∨
        ∃ old ∈ list, key old = wanted ∧ change old = entry := by
  rw [update, mem_map]
  constructor
  · rintro ⟨old, hold, rfl⟩
    by_cases hwanted : key old = wanted
    · exact Or.inr ⟨old, hold, hwanted, by rw [if_pos hwanted]⟩
    · exact Or.inl ⟨by rw [if_neg hwanted]; exact hold, by rw [if_neg hwanted]; exact hwanted⟩
  · rintro (⟨hmem, hwanted⟩ | ⟨old, hold, hwanted, rfl⟩)
    · exact ⟨entry, hmem, if_neg hwanted⟩
    · exact ⟨old, hold, if_pos hwanted⟩

/-! ## Counting -/

theorem exists_around (hfind : list.find? wanted = some entry) :
    ∃ before after, list.entries = before ++ entry :: after ∧
      (∀ other ∈ before, key other ≠ wanted) ∧ ∀ other ∈ after, key other ≠ wanted := by
  obtain ⟨hmem, rfl⟩ := find?_eq_some.mp hfind
  obtain ⟨before, after, hentries⟩ := append_of_mem hmem
  have hdistinct := list.distinct
  rw [hentries, map_append, map_cons, nodup_middle, nodup_cons, mem_append, not_or] at hdistinct
  obtain ⟨⟨hbefore, hafter⟩, -⟩ := hdistinct
  refine ⟨before, after, hentries, fun other hother hkey => ?_, fun other hother hkey => ?_⟩
  · exact hbefore (hkey ▸ mem_map_of_mem hother)
  · exact hafter (hkey ▸ mem_map_of_mem hother)

theorem countP_remove (hfind : list.find? wanted = some entry) (good : α → Bool) :
    (list.remove wanted).entries.countP good + (if good entry then 1 else 0) =
      list.entries.countP good := by
  obtain ⟨before, after, hentries, hbefore, hafter⟩ := exists_around hfind
  have hkey := (find?_eq_some.mp hfind).2
  have hleft : before.filter (fun other => key other ≠ wanted) = before :=
    filter_eq_self.mpr fun other hother => decide_eq_true (hbefore other hother)
  have hright : after.filter (fun other => key other ≠ wanted) = after :=
    filter_eq_self.mpr fun other hother => decide_eq_true (hafter other hother)
  have hremoved : (list.remove wanted).entries = before ++ after := by
    change list.entries.filter _ = _
    rw [hentries, filter_append, filter_cons_of_neg (by simp [hkey]), hleft, hright]
  rw [hremoved, hentries, countP_append, countP_append, countP_cons, Nat.add_assoc]

theorem countP_update (hkey : ∀ entry, key (change entry) = key entry)
    (hfind : list.find? wanted = some entry) (good : α → Bool) :
    (list.update wanted change hkey).entries.countP good + (if good entry then 1 else 0) =
      list.entries.countP good + (if good (change entry) then 1 else 0) := by
  obtain ⟨before, after, hentries, hbefore, hafter⟩ := exists_around hfind
  have hwanted := (find?_eq_some.mp hfind).2
  have hkeep : ∀ others : List α, (∀ other ∈ others, key other ≠ wanted) →
      others.map (fun other => if key other = wanted then change other else other) = others := by
    intro others hothers
    rw [map_congr_left fun other hother => if_neg (hothers other hother)]
    exact map_id' others
  have hupdated : (list.update wanted change hkey).entries =
      before ++ change entry :: after := by
    change list.entries.map _ = _
    rw [hentries, map_append, map_cons, hkeep before hbefore, hkeep after hafter, if_pos hwanted]
  rw [hupdated, hentries, countP_append, countP_append, countP_cons, countP_cons]
  omega

theorem countP_push (hfresh : list.find? (key entry) = none) (good : α → Bool) :
    (list.push entry).entries.countP good =
      list.entries.countP good + (if good entry then 1 else 0) := by
  rw [entries_push hfresh, countP_append, countP_singleton]

end KeyedList
end TupoProxy
