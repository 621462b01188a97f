import Mathlib.Data.List.Nodup
import Mathlib.Tactic

/-!
# A bounded cache in order of use

The entries of the cache have distinct keys and stand in the order of their
last use, most recent first.  `get` renews an entry and `peek` does not.  An
insertion into a full cache drops the entry that was not used for longest.
-/

namespace TupoProxy

open List

structure LruCache (κ ν : Type*) where
  cap : ℕ
  entries : List (κ × ν)
  distinct : (entries.map Prod.fst).Nodup

namespace LruCache

variable {κ ν : Type*}

def new (cap : ℕ) : LruCache κ ν := ⟨cap, [], List.nodup_nil⟩

def len (cache : LruCache κ ν) : ℕ := cache.entries.length

def clear (cache : LruCache κ ν) : LruCache κ ν := ⟨cache.cap, [], List.nodup_nil⟩

variable [DecidableEq κ]

def without (entries : List (κ × ν)) (key : κ) : List (κ × ν) :=
  entries.filter fun entry => entry.1 ≠ key

variable {entries : List (κ × ν)}

theorem without_keys_nodup (hdistinct : (entries.map Prod.fst).Nodup)
    (key : κ) : ((without entries key).map Prod.fst).Nodup :=
  hdistinct.sublist (filter_sublist.map Prod.fst)

theorem notMem_without (entries : List (κ × ν)) (key : κ) :
    key ∉ (without entries key).map Prod.fst := by
  intro hmem
  obtain ⟨entry, hentry, hkey⟩ := mem_map.mp hmem
  exact of_decide_eq_true (mem_filter.mp hentry).2 hkey

def pop (cache : LruCache κ ν) (key : κ) : LruCache κ ν :=
  ⟨cache.cap, without cache.entries key, without_keys_nodup cache.distinct key⟩

def peek (cache : LruCache κ ν) (key : κ) : Option ν :=
  (cache.entries.find? fun entry => entry.1 = key).map Prod.snd

def front (cache : LruCache κ ν) (key : κ) (value : ν) : LruCache κ ν where
  cap := cache.cap
  entries := (key, value) :: without cache.entries key
  distinct := List.nodup_cons.mpr
    ⟨notMem_without _ _, without_keys_nodup cache.distinct key⟩

def get (cache : LruCache κ ν) (key : κ) : LruCache κ ν × Option ν :=
  match cache.peek key with
  | some value => (cache.front key value, some value)
  | none => (cache, none)

def dropLeastRecent (cache : LruCache κ ν) : LruCache κ ν :=
  ⟨cache.cap, cache.entries.dropLast, cache.distinct.sublist ((List.dropLast_sublist _).map _)⟩

def put (cache : LruCache κ ν) (key : κ) (value : ν) : LruCache κ ν :=
  if (cache.peek key).isSome then cache.front key value
  else if cache.len = cache.cap then cache.dropLeastRecent.front key value
  else cache.front key value

variable {cache : LruCache κ ν} {key : κ} {value : ν}

theorem peek_eq_some_iff : cache.peek key = some value ↔ (key, value) ∈ cache.entries := by
  constructor
  · intro hpeek
    obtain ⟨entry, hfind, rfl⟩ := Option.map_eq_some_iff.mp hpeek
    have hkey : entry.1 = key := by simpa using find?_some hfind
    subst hkey
    exact mem_of_find?_eq_some hfind
  · intro hmem
    obtain ⟨found, hfound⟩ : ∃ found,
        cache.entries.find? (fun entry => entry.1 = key) = some found := by
      apply Option.isSome_iff_exists.mp
      rw [find?_isSome]
      exact ⟨(key, value), hmem, decide_eq_true rfl⟩
    have hkey : found.1 = key := by simpa using find?_some hfound
    have hsame : found = (key, value) :=
      inj_on_of_nodup_map cache.distinct (mem_of_find?_eq_some hfound) hmem hkey
    rw [peek, hfound, hsame]
    rfl

theorem peek_eq_none_iff : cache.peek key = none ↔ key ∉ cache.entries.map Prod.fst := by
  constructor
  · intro hpeek hmem
    obtain ⟨⟨found, value⟩, hentry, rfl⟩ := mem_map.mp hmem
    rw [peek_eq_some_iff.mpr hentry] at hpeek
    cases hpeek
  · intro hmem
    cases hpeek : cache.peek key with
    | none => rfl
    | some value => exact absurd (mem_map_of_mem (peek_eq_some_iff.mp hpeek)) hmem

theorem without_of_notMem (hmem : key ∉ entries.map Prod.fst) : without entries key = entries := by
  apply filter_eq_self.mpr
  intro entry hentry
  apply decide_eq_true
  intro hkey
  exact hmem (hkey ▸ mem_map_of_mem hentry)

theorem pop_perm {rest : List (κ × ν)}
    (hperm : cache.entries.Perm ((key, value) :: rest)) : (cache.pop key).entries.Perm rest := by
  have hdistinct : (((key, value) :: rest).map Prod.fst).Nodup :=
    (hperm.map Prod.fst).nodup_iff.mp cache.distinct
  have hkey : key ∉ rest.map Prod.fst := (nodup_cons.mp hdistinct).1
  have hfilter := hperm.filter fun entry => decide (entry.1 ≠ key)
  rw [filter_cons_of_neg (by simp)] at hfilter
  change (without cache.entries key).Perm (without rest key) at hfilter
  rwa [without_of_notMem hkey] at hfilter

section

variable (cache : LruCache κ ν) (key : κ)

theorem get_perm : (cache.get key).1.entries.Perm cache.entries := by
  unfold get
  split
  · rename_i value hpeek
    obtain ⟨before, after, hsplit⟩ := append_of_mem (peek_eq_some_iff.mp hpeek)
    have hperm : cache.entries.Perm ((key, value) :: (before ++ after)) := by
      rw [hsplit]
      exact perm_middle
    exact ((pop_perm hperm).cons (key, value)).trans hperm.symm
  · exact List.Perm.refl _

theorem get_value : (cache.get key).2 = cache.peek key := by
  unfold get
  split <;> rename_i hpeek <;> rw [hpeek]

theorem get_cap : (cache.get key).1.cap = cache.cap := by
  unfold get
  split <;> rfl

end

theorem put_of_room (value : ν)
    (hnew : key ∉ cache.entries.map Prod.fst) (hroom : cache.len < cache.cap) :
    (cache.put key value).entries = (key, value) :: cache.entries ∧
      (cache.put key value).cap = cache.cap := by
  have hpeek := peek_eq_none_iff.mpr hnew
  have hput : cache.put key value = cache.front key value := by
    rw [put, hpeek, if_neg (by simp), if_neg hroom.ne]
  rw [hput]
  exact ⟨congrArg _ (without_of_notMem hnew), rfl⟩

end LruCache
end TupoProxy
