import TupoProxy.PoolWriters
import Mathlib.Data.Finmap
import Mathlib.Data.List.Destutter

/-!
# Applying an endpoint snapshot to the pool

A snapshot replaces the map of each family it has entries for.  The stored maps
then get a negative entry for each positive DC that lacks one.  The order of a
table is the order in which the source's hash map yields its rows; two maps are
equal when they are equal as finite maps.
-/

namespace TupoProxy.MiddleProxy

open List Option

inductive SnapshotApplyOutcome where
  | appliedChanged
  | appliedNoDelta
  | rejectedEmpty
  deriving Repr, DecidableEq

structure EndpointPreference where
  effectiveMultipath : Bool
  effectivePrefer : ℕ

structure ConfigPool where
  proxyMapV4 : ProxyMap
  proxyMapV6 : ProxyMap
  decision : EndpointPreference
  endpointDcMap : Table SocketAddr (Option ℤ)
  preferredEndpointsByDc : Table ℤ (List SocketAddr)
  endpointQuarantine : Table SocketAddr ℕ
  kdfMaterialFingerprint : Table SocketAddr (ℕ × ℕ)
  writerEpoch : ℕ

def mergeEndpointDc (endpointDcMap : Table SocketAddr (Option ℤ)) (dc : ℤ)
    (endpoint : IpAddr × ℕ) : Table SocketAddr (Option ℤ) :=
  let endpoint : SocketAddr := ⟨endpoint.1, endpoint.2⟩
  match endpointDcMap.lookup endpoint with
  | none => endpointDcMap.insert endpoint (some dc)
  | some existing =>
    if existing.any (· ≠ dc) then endpointDcMap.insert endpoint none else endpointDcMap

def buildEndpointDcMapFromMaps (mapV4 mapV6 : ProxyMap) : Table SocketAddr (Option ℤ) :=
  (mapV4.entries ++ mapV6.entries).foldl
    (fun merged row => row.2.foldl (fun merged endpoint => mergeEndpointDc merged row.1 endpoint)
      merged) ∅

/-- The position of an address in the order of `SocketAddr`. -/
def SocketAddr.rank (addr : SocketAddr) : List ℕ :=
  match addr.ip with
  | .v4 a b c d => 4 :: [a, b, c, d].map UInt8.toNat ++ [addr.port]
  | .v6 octets => 6 :: octets.1.map UInt8.toNat ++ [addr.port]

def buildPreferredEndpointsByDc (decision : EndpointPreference) (mapV4 mapV6 : ProxyMap) :
    Table ℤ (List SocketAddr) :=
  (mapV4.keys ++ mapV6.keys).dedup.foldl
    (fun out dc =>
      let v4 := ((mapV4.lookup dc).getD []).map fun endpoint => SocketAddr.mk endpoint.1 endpoint.2
      let v6 := ((mapV6.lookup dc).getD []).map fun endpoint => SocketAddr.mk endpoint.1 endpoint.2
      let preferIpv6 := decision.effectivePrefer = 6
      let selected :=
        if decision.effectiveMultipath then (if preferIpv6 then v6 ++ v4 else v4 ++ v6)
        else if preferIpv6 then (if v6.isEmpty then v4 else v6)
        else if v4.isEmpty then v6
        else v4
      let sorted := selected.mergeSort fun left right =>
        decide (SocketAddr.rank left ≤ SocketAddr.rank right)
      out.insert dc (sorted.destutter (· ≠ ·))) ∅

namespace ConfigPool

def rebuildEndpointDcMap (pool : ConfigPool) (now : ℕ) : ConfigPool :=
  let rebuilt := buildEndpointDcMapFromMaps pool.proxyMapV4 pool.proxyMapV6
  { pool with
    endpointDcMap := rebuilt
    preferredEndpointsByDc :=
      buildPreferredEndpointsByDc pool.decision pool.proxyMapV4 pool.proxyMapV6
    endpointQuarantine :=
      Table.retain pool.endpointQuarantine fun addr expiry => expiry > now && addr ∈ rebuilt.keys
    kdfMaterialFingerprint :=
      Table.retain pool.kdfMaterialFingerprint fun addr _ => addr ∈ rebuilt.keys }

def notifyWriterEpoch (pool : ConfigPool) : ConfigPool :=
  { pool with writerEpoch := (pool.writerEpoch + 1) % 2 ^ 64 }

end ConfigPool

/-- The stored map after the snapshot of its family, and whether it changed. -/
def replaceMap (stored snapshot : ProxyMap) : ProxyMap × Bool :=
  if snapshot.keys ≠ [] ∧ stored.toFinmap ≠ snapshot.toFinmap then (snapshot, true)
  else (stored, false)

def mirrorKey (guarded : ProxyMap × Bool) (key : ℤ) : ProxyMap × Bool :=
  match guarded.1.lookup (-key), guarded.1.lookup key with
  | none, some addrs => (guarded.1.insert (-key) addrs, true)
  | _, _ => guarded

def mirrorNegatives (map : ProxyMap) : ProxyMap × Bool :=
  (map.keys.filter (0 < ·)).foldl mirrorKey (map, false)

def ConfigPool.updateProxyMaps (pool : ConfigPool) (newV4 : ProxyMap)
    (newV6 : Option ProxyMap) (now : ℕ) : SnapshotApplyOutcome × ConfigPool :=
  if newV4.keys.isEmpty && newV6.all (·.keys.isEmpty) then (.rejectedEmpty, pool)
  else
    let (mapV4, replacedV4) := replaceMap pool.proxyMapV4 newV4
    let (mapV6, replacedV6) :=
      match newV6 with
      | none => (pool.proxyMapV6, false)
      | some newV6 => replaceMap pool.proxyMapV6 newV6
    let (mapV4, mirroredV4) := mirrorNegatives mapV4
    let (mapV6, mirroredV6) := mirrorNegatives mapV6
    let pool := { pool with proxyMapV4 := mapV4, proxyMapV6 := mapV6 }
    if replacedV4 || replacedV6 || mirroredV4 || mirroredV6 then
      (.appliedChanged, (pool.rebuildEndpointDcMap now).notifyWriterEpoch)
    else (.appliedNoDelta, pool)

/-! ## The mirrored entries -/

/-- Every positive key has its negative counterpart. -/
def Mirrored (map : ProxyMap) : Prop :=
  ∀ key > 0, map.lookup key ≠ none → map.lookup (-key) ≠ none

theorem mirrorKey_lookup (guarded : ProxyMap × Bool) (key dc : ℤ) :
    (mirrorKey guarded key).1.lookup dc =
      (guarded.1.lookup dc).or (if dc = -key then guarded.1.lookup key else none) := by
  unfold mirrorKey
  split
  · rename_i addrs hmissing hfound
    rw [Table.lookup_insert_eq]
    split
    · rename_i hdc
      rw [hdc, hmissing, hfound]
      rfl
    · exact (or_none).symm
  · rename_i hskip
    split
    · rename_i hdc
      subst hdc
      cases hnegative : guarded.1.lookup (-key) with
      | some addrs => rfl
      | none =>
        cases hpositive : guarded.1.lookup key with
        | none => rfl
        | some addrs => exact absurd hpositive (hskip addrs hnegative)
    · exact (or_none).symm

theorem foldl_mirrorKey_lookup {keys : List ℤ} (hpositive : ∀ key ∈ keys, 0 < key)
    (guarded : ProxyMap × Bool) (dc : ℤ) :
    (keys.foldl mirrorKey guarded).1.lookup dc =
      (guarded.1.lookup dc).or (if -dc ∈ keys then guarded.1.lookup (-dc) else none) := by
  induction keys generalizing guarded with
  | nil => exact (or_none).symm
  | cons key keys ih =>
    rw [foldl_cons, ih (fun other hother => hpositive other (mem_cons_of_mem _ hother)),
      mirrorKey_lookup, mirrorKey_lookup]
    have hkey := hpositive key mem_cons_self
    by_cases hdc : dc = -key
    · subst hdc
      rw [if_pos rfl, neg_neg, if_neg (by omega : key ≠ -key), or_none,
        if_pos mem_cons_self, Option.or_assoc]
      split
      · cases guarded.1.lookup key <;> rfl
      · rw [or_none]
    · rw [if_neg hdc, or_none]
      by_cases hmem : -dc ∈ keys
      · have hpos := hpositive (-dc) (mem_cons_of_mem _ hmem)
        rw [if_pos hmem, if_pos (mem_cons_of_mem _ hmem), if_neg (by omega), or_none]
      · have hnot : -dc ∉ key :: keys := by
          rw [mem_cons, not_or]
          exact ⟨by omega, hmem⟩
        rw [if_neg hmem, if_neg hnot]

variable (map : ProxyMap)

theorem mirrorNegatives_lookup (dc : ℤ) :
    (mirrorNegatives map).1.lookup dc =
      (map.lookup dc).or (if dc < 0 then map.lookup (-dc) else none) := by
  rw [mirrorNegatives, foldl_mirrorKey_lookup (by simp)]
  by_cases hnegative : dc < 0
  · rw [if_pos hnegative]
    split
    · rfl
    · rename_i habsent
      have hnone : map.lookup (-dc) = none := by
        rw [AList.lookup_eq_none]
        intro hmem
        exact habsent (mem_filter.mpr ⟨hmem, by simpa using hnegative⟩)
      rw [hnone]
  · rw [if_neg hnegative, if_neg]
    intro hmem
    have hpositive := (mem_filter.mp hmem).2
    simp at hpositive
    omega

theorem mirrorNegatives_mirrored : Mirrored (mirrorNegatives map).1 := by
  intro key hkey hfound
  rw [mirrorNegatives_lookup, if_neg (by omega), or_none] at hfound
  rw [mirrorNegatives_lookup, if_pos (by omega), neg_neg]
  intro hnone
  exact hfound (or_eq_none_iff.mp hnone).2

theorem Mirrored.mirrorNegatives {map : ProxyMap} (hmirrored : Mirrored map) :
    mirrorNegatives map = (map, false) := by
  have hfold : ∀ keys : List ℤ, (∀ key ∈ keys, 0 < key) →
      keys.foldl mirrorKey (map, false) = (map, false) := by
    intro keys hpositive
    induction keys with
    | nil => rfl
    | cons key keys ih =>
      have hkeep : mirrorKey (map, false) key = (map, false) := by
        unfold mirrorKey
        split
        · rename_i addrs hmissing hfound
          have hnegative := hmirrored key (hpositive key mem_cons_self)
            (by rw [hfound]; exact some_ne_none addrs)
          exact absurd hmissing hnegative
        · rfl
      rw [foldl_cons, hkeep]
      exact ih fun other hother => hpositive other (mem_cons_of_mem _ hother)
  exact hfold _ (by simp)

/-- What an update makes of the map of one family, and whether it calls it changed. -/
def applySnapshot (stored : ProxyMap) (snapshot : Option ProxyMap) : ProxyMap × Bool :=
  let (replaced, changed) := (snapshot.map (replaceMap stored)).getD (stored, false)
  let (mirrored, added) := mirrorNegatives replaced
  (mirrored, changed || added)

theorem ConfigPool.updateProxyMaps_eq (pool : ConfigPool) {newV4 : ProxyMap}
    {newV6 : Option ProxyMap} (now : ℕ)
    (hsome : ¬ (newV4.keys.isEmpty && newV6.all (·.keys.isEmpty)) = true) :
    pool.updateProxyMaps newV4 newV6 now =
      let stored := { pool with
        proxyMapV4 := (applySnapshot pool.proxyMapV4 (some newV4)).1
        proxyMapV6 := (applySnapshot pool.proxyMapV6 newV6).1 }
      if (applySnapshot pool.proxyMapV4 (some newV4)).2 ||
          (applySnapshot pool.proxyMapV6 newV6).2 then
        (.appliedChanged, (stored.rebuildEndpointDcMap now).notifyWriterEpoch)
      else (.appliedNoDelta, stored) := by
  unfold updateProxyMaps
  rw [if_neg hsome]
  cases newV6 with
  | none =>
    simp only [applySnapshot, map_some, map_none, getD_some,
      getD_none, Bool.or_assoc, Bool.or_left_comm, Bool.or_comm]
  | some newV6 =>
    simp only [applySnapshot, map_some, getD_some, Bool.or_assoc, Bool.or_left_comm, Bool.or_comm]

theorem lookup_eq_of_toFinmap {left right : ProxyMap} (heq : left.toFinmap = right.toFinmap)
    (dc : ℤ) : left.lookup dc = right.lookup dc := by
  rw [← Finmap.lookup_toFinmap, heq, Finmap.lookup_toFinmap]

theorem Mirrored.congr {left right : ProxyMap} (hmirrored : Mirrored left)
    (hlookup : ∀ dc, left.lookup dc = right.lookup dc) : Mirrored right := by
  intro key hkey
  rw [← hlookup, ← hlookup]
  exact hmirrored key hkey

variable (stored : ProxyMap)

theorem replaceMap_of_nonempty {snapshot : ProxyMap}
    (hrows : snapshot.keys ≠ []) : (replaceMap stored snapshot).1.toFinmap = snapshot.toFinmap := by
  unfold replaceMap
  split
  · rfl
  · rename_i hsame
    by_contra hdiffer
    exact hsame ⟨hrows, hdiffer⟩

theorem applySnapshot_mirrored (snapshot : Option ProxyMap) :
    Mirrored (applySnapshot stored snapshot).1 :=
  mirrorNegatives_mirrored _

theorem applySnapshot_of_empty {snapshot : Option ProxyMap}
    (hempty : ∀ map ∈ snapshot, map.keys = []) :
    applySnapshot stored snapshot = mirrorNegatives stored := by
  cases snapshot with
  | none => rfl
  | some map =>
    have hkept : replaceMap stored map = (stored, false) :=
      if_neg fun hreplaced => hreplaced.1 (hempty map rfl)
    simp only [applySnapshot, map_some, getD_some, hkept, Bool.false_or]

theorem applySnapshot_again (snapshot : Option ProxyMap) :
    let after := (applySnapshot stored snapshot).1
    ((applySnapshot after snapshot).2 = false ↔ ∀ map ∈ snapshot, Mirrored map) ∧
      ((applySnapshot after snapshot).2 = false → (applySnapshot after snapshot).1 = after) ∧
      ∀ dc, (applySnapshot after snapshot).1.lookup dc = after.lookup dc := by
  intro after
  have hafter : Mirrored after := applySnapshot_mirrored stored snapshot
  by_cases hempty : ∀ map ∈ snapshot, map.keys = []
  · have hagain : applySnapshot after snapshot = (after, false) := by
      rw [applySnapshot_of_empty after hempty, hafter.mirrorNegatives]
    rw [hagain]
    refine ⟨⟨fun _ map hmap key _ hfound => ?_, fun _ => rfl⟩, fun _ => rfl, fun _ => rfl⟩
    have hmem := AList.lookup_isSome.mp (isSome_iff_ne_none.mpr hfound)
    rw [AList.mem_keys, hempty map hmap] at hmem
    cases hmem
  · push Not at hempty
    obtain ⟨map, hmap, hrows⟩ := hempty
    cases hmap
    have hstored : after = (mirrorNegatives (replaceMap stored map).1).1 := rfl
    have hreplaced := lookup_eq_of_toFinmap (replaceMap_of_nonempty stored hrows)
    by_cases hmirrored : Mirrored map
    · have hkept : after = (replaceMap stored map).1 := by
        rw [hstored, (hmirrored.congr fun dc => (hreplaced dc).symm).mirrorNegatives]
      have hsame : replaceMap after map = (after, false) := by
        refine if_neg fun hdiffer => hdiffer.2 ?_
        rw [hkept]
        exact replaceMap_of_nonempty stored hrows
      have hagain : applySnapshot after (some map) = (after, false) := by
        simp only [applySnapshot, map_some, getD_some, hsame, hafter.mirrorNegatives, Bool.false_or]
      rw [hagain]
      refine ⟨⟨fun _ other hother => ?_, fun _ => rfl⟩, fun _ => rfl, fun _ => rfl⟩
      cases hother
      exact hmirrored
    · have hdiffer : after.toFinmap ≠ map.toFinmap := fun hequal =>
        hmirrored (hafter.congr (lookup_eq_of_toFinmap hequal))
      have hfresh : replaceMap after map = (map, true) := if_pos ⟨hrows, hdiffer⟩
      have hagain : applySnapshot after (some map) = ((mirrorNegatives map).1, true) := by
        simp only [applySnapshot, map_some, getD_some, hfresh, Bool.true_or]
      rw [hagain]
      refine ⟨⟨nofun, fun hall => absurd (hall map rfl) hmirrored⟩, nofun, fun dc => ?_⟩
      rw [hstored, mirrorNegatives_lookup, mirrorNegatives_lookup, hreplaced, hreplaced]

/-- A snapshot that was applied leaves both maps as they are when it is applied again, and
the second call reports no delta exactly if the snapshot is mirrored. -/
theorem snapshot_applied_twice (pool : ConfigPool) {newV4 : ProxyMap} {newV6 : Option ProxyMap}
    (now later : ℕ) (happlied : (pool.updateProxyMaps newV4 newV6 now).1 ≠ .rejectedEmpty) :
    let after := (pool.updateProxyMaps newV4 newV6 now).2
    let again := after.updateProxyMaps newV4 newV6 later
    (again.1 = .appliedNoDelta ↔ Mirrored newV4 ∧ ∀ map ∈ newV6, Mirrored map) ∧
      (again.1 = .appliedNoDelta → again.2 = after) ∧
      (∀ dc, again.2.proxyMapV4.lookup dc = after.proxyMapV4.lookup dc ∧
        again.2.proxyMapV6.lookup dc = after.proxyMapV6.lookup dc) ∧
      Mirrored after.proxyMapV4 ∧ Mirrored after.proxyMapV6 ∧
      (newV4.keys = [] → ∀ dc, after.proxyMapV4.lookup dc = (pool.proxyMapV4.lookup dc).or
        (if dc < 0 then pool.proxyMapV4.lookup (-dc) else none)) ∧
      ((∀ map ∈ newV6, map.keys = []) → ∀ dc, after.proxyMapV6.lookup dc =
        (pool.proxyMapV6.lookup dc).or
          (if dc < 0 then pool.proxyMapV6.lookup (-dc) else none)) := by
  have hsome : ¬ (newV4.keys.isEmpty && newV6.all (·.keys.isEmpty)) = true := by
    intro hempty
    unfold ConfigPool.updateProxyMaps at happlied
    rw [if_pos hempty] at happlied
    exact happlied rfl
  intro after again
  have hmapV4 : after.proxyMapV4 = (applySnapshot pool.proxyMapV4 (some newV4)).1 := by
    simp only [after, ConfigPool.updateProxyMaps_eq pool now hsome]
    split <;> rfl
  have hmapV6 : after.proxyMapV6 = (applySnapshot pool.proxyMapV6 newV6).1 := by
    simp only [after, ConfigPool.updateProxyMaps_eq pool now hsome]
    split <;> rfl
  obtain ⟨hdeltaV4, hkeptV4, hlookupV4⟩ := applySnapshot_again pool.proxyMapV4 (some newV4)
  obtain ⟨hdeltaV6, hkeptV6, hlookupV6⟩ := applySnapshot_again pool.proxyMapV6 newV6
  rw [← hmapV4] at hdeltaV4 hkeptV4 hlookupV4
  rw [← hmapV6] at hdeltaV6 hkeptV6 hlookupV6
  have hagain : again = _ := ConfigPool.updateProxyMaps_eq after later hsome
  have hnoDelta : again.1 = .appliedNoDelta ↔
      (applySnapshot after.proxyMapV4 (some newV4)).2 = false ∧
        (applySnapshot after.proxyMapV6 newV6).2 = false := by
    rw [hagain]
    split
    · rename_i hchanged
      refine ⟨nofun, fun hsame => ?_⟩
      rw [hsame.1, hsame.2] at hchanged
      simp at hchanged
    · rename_i hsame
      simpa using hsame
  refine ⟨?_, fun hsame => ?_, fun dc => ?_, ?_, ?_, fun hempty dc => ?_, fun hempty dc => ?_⟩
  · rw [hnoDelta, hdeltaV4, hdeltaV6]
    simp
  · obtain ⟨hsameV4, hsameV6⟩ := hnoDelta.mp hsame
    rw [hagain]
    simp only [hsameV4, hsameV6, Bool.or_self, Bool.false_eq_true, if_false, hkeptV4 hsameV4,
      hkeptV6 hsameV6]
  · rw [← hlookupV4 dc, ← hlookupV6 dc, hagain]
    split <;> exact ⟨rfl, rfl⟩
  · rw [hmapV4]
    exact applySnapshot_mirrored _ _
  · rw [hmapV6]
    exact applySnapshot_mirrored _ _
  · rw [hmapV4, applySnapshot_of_empty _ (by simpa using hempty), mirrorNegatives_lookup]
  · rw [hmapV6, applySnapshot_of_empty _ hempty, mirrorNegatives_lookup]

def freshPool : ConfigPool := ⟨∅, ∅, ⟨false, 4⟩, ∅, ∅, ∅, ∅, 0⟩

def dcTwo : ProxyMap := AList.singleton 2 [(.v4 149 154 167 50, 8888)]

theorem snapshot_applied_twice_mirrored :
    (freshPool.updateProxyMaps (dcTwo.insert (-2) []) none 10).1 ≠ .rejectedEmpty ∧
      ((freshPool.updateProxyMaps (dcTwo.insert (-2) []) none 10).2.updateProxyMaps
        (dcTwo.insert (-2) []) none 20).1 = .appliedNoDelta := by
  have happlied : (freshPool.updateProxyMaps (dcTwo.insert (-2) []) none 10).1 ≠
      .rejectedEmpty := by decide
  refine ⟨happlied, (snapshot_applied_twice freshPool 10 20 happlied).1.mpr ⟨?_, nofun⟩⟩
  intro key hkey hfound
  rw [dcTwo, Table.lookup_insert_eq, if_neg (by omega)] at hfound
  have hkeyTwo := AList.lookup_isSome.mp (isSome_iff_ne_none.mpr hfound)
  have hkeyTwo : key = 2 := mem_singleton.mp hkeyTwo
  subst hkeyTwo
  decide

/-- A snapshot with only positive DCs is called changed every time it is applied. -/
theorem positive_snapshot_changes_again :
    (freshPool.updateProxyMaps dcTwo none 10).1 = .appliedChanged ∧
      ((freshPool.updateProxyMaps dcTwo none 10).2.updateProxyMaps dcTwo none 20).1 =
        .appliedChanged ∧
      ((freshPool.updateProxyMaps dcTwo none 10).2.updateProxyMaps dcTwo none 20).2.writerEpoch =
        2 := by
  decide

end TupoProxy.MiddleProxy
