import TupoProxy.ByteWords
import TupoProxy.LruCache
import TupoProxy.Runs
import TupoProxy.WindowSet

/-!
# One shard of the replay checker

A shard remembers keys in a cache and, for their expiry, in a queue with the
times of their additions.  Instants are counted from the earliest instant that
the clock can represent, so that `checked_sub` fails when the window reaches
back further than that.
-/

namespace TupoProxy.Replay

open WindowSet List

def replayInlineKeyCap : ℕ := 48

/-- Short keys are stored in place, padded with zeros. -/
inductive ReplayKey where
  | inline (len : ℕ) (bytes : List Byte)
  | heap (bytes : List Byte)
  deriving Repr, DecidableEq

def ReplayKey.fromSlice (key : List Byte) : ReplayKey :=
  if key.length ≤ replayInlineKeyCap then
    .inline key.length (key ++ List.replicate (replayInlineKeyCap - key.length) 0)
  else .heap key

def ReplayKey.asSlice : ReplayKey → List Byte
  | .inline len bytes => bytes.take len
  | .heap bytes => bytes

@[simp] theorem ReplayKey.asSlice_fromSlice (key : List Byte) : (fromSlice key).asSlice = key := by
  unfold fromSlice
  split
  · exact take_left
  · rfl

structure ReplayEntry where
  seq : ℕ
  deriving Repr, DecidableEq

structure QueueEntry where
  time : ℕ
  key : ReplayKey
  seq : ℕ
  deriving Repr, DecidableEq

def QueueEntry.pair (entry : QueueEntry) : List Byte × ReplayEntry :=
  (entry.key.asSlice, ⟨entry.seq⟩)

def QueueEntry.stamp (entry : QueueEntry) : ℕ × List Byte := (entry.time, entry.key.asSlice)

structure ReplayShard where
  cache : LruCache (List Byte) ReplayEntry
  queue : List QueueEntry
  seqCounter : ℕ
  capacity : ℕ

namespace ReplayShard

def new (cap : ℕ+) : ReplayShard := ⟨.new cap, [], 0, cap⟩

/-- The counter is a `u64` and wraps. -/
def nextSeq (shard : ReplayShard) : ReplayShard × ℕ :=
  let seq := (shard.seqCounter + 1) % 2 ^ 64
  ({ shard with seqCounter := seq }, seq)

def evictQueueFront (shard : ReplayShard) : ReplayShard :=
  match shard.queue with
  | [] => shard
  | front :: rest =>
    match shard.cache.peek front.key.asSlice with
    | some entry =>
      if entry.seq = front.seq then
        { shard with queue := rest, cache := shard.cache.pop front.key.asSlice }
      else { shard with queue := rest }
    | none => { shard with queue := rest }

/-- The two eviction loops.  Each turn shortens the queue, so that its length
is fuel enough. -/
def evictWhile (more : List QueueEntry → Bool) : ℕ → ReplayShard → ReplayShard
  | 0, shard => shard
  | fuel + 1, shard =>
    if more shard.queue then evictWhile more fuel shard.evictQueueFront else shard

def checkedSub (now window : ℕ) : Option ℕ := if window ≤ now then some (now - window) else none

def frontBefore (cutoff : ℕ) (queue : List QueueEntry) : Bool :=
  queue.head?.any fun front => front.time < cutoff

def cleanup (shard : ReplayShard) (now window : ℕ) : ReplayShard :=
  if window = 0 then { shard with cache := shard.cache.clear, queue := [] }
  else
    let cutoff := (checkedSub now window).getD now
    shard.evictWhile (frontBefore cutoff) shard.queue.length

def check (shard : ReplayShard) (key : List Byte) (now window : ℕ) : ReplayShard × Bool :=
  if window = 0 then (shard, false)
  else
    let shard := shard.cleanup now window
    let (cache, entry) := shard.cache.get key
    ({ shard with cache := cache }, entry.isSome)

def noRoom (capacity : ℕ) (queue : List QueueEntry) : Bool := capacity ≤ queue.length

def makeRoom (shard : ReplayShard) : ReplayShard :=
  shard.evictWhile (noRoom shard.capacity) shard.queue.length

def insertNew (shard : ReplayShard) (key : ReplayKey) (now : ℕ) : ReplayShard :=
  let (shard, seq) := shard.nextSeq
  { shard with
    cache := shard.cache.put key.asSlice ⟨seq⟩
    queue := shard.queue ++ [⟨now, key, seq⟩] }

def addOwned (shard : ReplayShard) (key : ReplayKey) (now window : ℕ) : ReplayShard :=
  if window = 0 then shard
  else
    let shard := shard.cleanup now window
    if (shard.cache.peek key.asSlice).isSome then shard
    else shard.makeRoom.insertNew key now

def checkAndAdd (shard : ReplayShard) (key : List Byte) (now window : ℕ) :
    ReplayShard × Bool :=
  let (shard, found) := shard.check key now window
  if found then (shard, found) else (shard.addOwned (.fromSlice key) now window, found)

/-! ## The cache and the queue hold the same keys -/

structure Paired (shard : ReplayShard) : Prop where
  perm : shard.cache.entries.Perm (shard.queue.map QueueEntry.pair)
  cap_eq : shard.cache.cap = shard.capacity

variable {shard after : ReplayShard}

section

variable (hpaired : shard.Paired)
include hpaired

theorem Paired.distinct : (shard.queue.map fun entry => entry.key.asSlice).Nodup := by
  have hkeys := (hpaired.perm.map Prod.fst).nodup_iff.mp shard.cache.distinct
  rwa [map_map] at hkeys

theorem Paired.len_eq : shard.cache.len = shard.queue.length := by
  rw [LruCache.len, hpaired.perm.length_eq, length_map]

theorem Paired.peek_isSome (key : List Byte) :
    (shard.cache.peek key).isSome = true ↔
      key ∈ (shard.queue.map QueueEntry.stamp).map Prod.snd := by
  have hkeys : key ∈ shard.cache.entries.map Prod.fst ↔
      key ∈ (shard.queue.map QueueEntry.stamp).map Prod.snd := by
    rw [(hpaired.perm.map Prod.fst).mem_iff, map_map, map_map]
    rfl
  rw [← hkeys, ← not_iff_not, ← LruCache.peek_eq_none_iff, Bool.not_eq_true,
    Option.isSome_eq_false_iff, Option.isNone_iff_eq_none]

section

variable {rest : List QueueEntry} {front : QueueEntry} (hqueue : shard.queue = front :: rest)
include hqueue

theorem evictQueueFront_eq :
    shard.evictQueueFront =
      { shard with queue := rest, cache := shard.cache.pop front.key.asSlice } := by
  have hmem : front.pair ∈ shard.cache.entries := by
    rw [hpaired.perm.mem_iff, hqueue]
    exact mem_cons_self
  have hpeek : shard.cache.peek front.key.asSlice = some ⟨front.seq⟩ :=
    LruCache.peek_eq_some_iff.mpr hmem
  simp only [evictQueueFront, hqueue, hpeek, if_true]

theorem evictQueueFront_paired : shard.evictQueueFront.Paired := by
  have hperm := hpaired.perm
  rw [hqueue, map_cons] at hperm
  rw [evictQueueFront_eq hpaired hqueue]
  exact ⟨LruCache.pop_perm hperm, hpaired.cap_eq⟩

end

end

/-- A loop drops the front of the queue up to the first place at which its
condition fails. -/
structure Evicted (more : List QueueEntry → Bool) (shard after : ReplayShard)
    (count : ℕ) : Prop where
  bound : count ≤ shard.queue.length
  queue_eq : after.queue = shard.queue.drop count
  capacity_eq : after.capacity = shard.capacity
  paired : after.Paired
  went_on : ∀ index < count, more (shard.queue.drop index) = true
  stopped : more after.queue = false

variable {more : List QueueEntry → Bool} {count : ℕ}

theorem Evicted.subset
    (hevicted : Evicted more shard after count) {entry : QueueEntry} (hmem : entry ∈ after.queue) :
    entry ∈ shard.queue := by
  rw [hevicted.queue_eq] at hmem
  exact mem_of_mem_drop hmem

theorem Evicted.ordered (hevicted : Evicted more shard after count)
    (hordered : (shard.queue.map QueueEntry.time).Pairwise (· ≤ ·)) :
    (after.queue.map QueueEntry.time).Pairwise (· ≤ ·) := by
  rw [hevicted.queue_eq, map_drop]
  exact hordered.sublist (drop_sublist _ _)

theorem evictWhile_evicted (hnil : more [] = false)
    (hpaired : shard.Paired) {fuel : ℕ} (hfuel : shard.queue.length ≤ fuel) :
    ∃ count, Evicted more shard (shard.evictWhile more fuel) count := by
  induction fuel generalizing shard with
  | zero =>
    have hqueue : shard.queue = [] := length_eq_zero_iff.mp (Nat.le_zero.mp hfuel)
    refine ⟨0, Nat.zero_le _, rfl, rfl, hpaired, fun _ hindex => absurd hindex
      (Nat.not_lt_zero _), ?_⟩
    rw [evictWhile, hqueue, hnil]
  | succ fuel ih =>
    rw [evictWhile]
    split
    · rename_i hmore
      cases hqueue : shard.queue with
      | nil =>
        rw [hqueue, hnil] at hmore
        cases hmore
      | cons front rest =>
        have hnext : shard.evictQueueFront.queue = rest := by
          rw [evictQueueFront_eq hpaired hqueue]
        have hcapacity : shard.evictQueueFront.capacity = shard.capacity := by
          rw [evictQueueFront_eq hpaired hqueue]
        have hshort : shard.evictQueueFront.queue.length ≤ fuel := by
          rw [hqueue, length_cons] at hfuel
          rw [hnext]
          omega
        obtain ⟨count, hevicted⟩ := ih (evictQueueFront_paired hpaired hqueue) hshort
        have hbound := hevicted.bound
        rw [hnext] at hbound
        refine ⟨count + 1, ?_, ?_, hevicted.capacity_eq.trans hcapacity, hevicted.paired,
          ?_, hevicted.stopped⟩
        · rw [hqueue, length_cons]
          omega
        · rw [hevicted.queue_eq, hnext, hqueue]
          rfl
        · intro index hindex
          cases index with
          | zero => exact hmore
          | succ index =>
            have hwent := hevicted.went_on index (by omega)
            rw [hnext] at hwent
            rw [hqueue]
            exact hwent
    · rename_i hstop
      exact ⟨0, Nat.zero_le _, rfl, rfl, hpaired,
        fun _ hindex => absurd hindex (Nat.not_lt_zero _), Bool.eq_false_iff.mpr hstop⟩

/-- The shard after additions `log`, the last of its operations having been
made at `now`. -/
structure Tracks (window : ℕ) (shard : ReplayShard) (log : List (ℕ × List Byte))
    (now : ℕ) : Prop where
  paired : shard.Paired
  capacity_pos : 0 < shard.capacity
  keeps : Keeps window shard.capacity now log (shard.queue.map QueueEntry.stamp)
  ordered : (shard.queue.map QueueEntry.time).Pairwise (· ≤ ·)
  past : ∀ entry ∈ shard.queue, entry.time ≤ now

theorem new_tracks (window : ℕ) (cap : ℕ+) : Tracks window (new cap) [] 0 where
  paired := ⟨List.Perm.refl _, rfl⟩
  capacity_pos := cap.pos
  keeps := .nil _ _ _
  ordered := List.Pairwise.nil
  past := by
    intro entry hmem
    cases hmem

variable {window now later : ℕ} {shard : ReplayShard} {log : List (ℕ × List Byte)}

theorem check_eq (hpos : window ≠ 0) (key : List Byte) : shard.check key now window =
    ({ shard.cleanup now window with cache := ((shard.cleanup now window).cache.get key).1 },
      ((shard.cleanup now window).cache.get key).2.isSome) := by
  rw [check, if_neg hpos]

variable {key : List Byte}

theorem addOwned_of_present (hpos : window ≠ 0)
    (hpresent : ((shard.cleanup now window).cache.peek key).isSome = true) :
    shard.addOwned (.fromSlice key) now window = shard.cleanup now window := by
  rw [addOwned, if_neg hpos]
  simp only [ReplayKey.asSlice_fromSlice, hpresent, if_true]

theorem addOwned_of_absent (hpos : window ≠ 0)
    (habsent : ((shard.cleanup now window).cache.peek key).isSome = false) :
    shard.addOwned (.fromSlice key) now window =
      (shard.cleanup now window).makeRoom.insertNew (.fromSlice key) now := by
  rw [addOwned, if_neg hpos]
  simp only [ReplayKey.asSlice_fromSlice, habsent, Bool.false_eq_true, if_false]

variable {cutoff : ℕ}

theorem Evicted.front_old (hevicted : Evicted (frontBefore cutoff) shard after count) :
    ∀ entry ∈ shard.queue.take count, entry.time < cutoff := by
  intro entry hmem
  obtain ⟨index, hget⟩ := mem_iff_getElem?.mp hmem
  have hindex : index < count := by
    have hlt := (List.getElem?_eq_some_iff.mp hget).1
    rw [length_take] at hlt
    omega
  have hwent := hevicted.went_on index hindex
  rw [getElem?_take_of_lt hindex, ← head?_drop] at hget
  simpa [frontBefore, hget] using hwent

theorem Evicted.rest_young (hevicted : Evicted (frontBefore cutoff) shard after count)
    (hordered : (after.queue.map QueueEntry.time).Pairwise (· ≤ ·)) :
    ∀ entry ∈ after.queue, cutoff ≤ entry.time := by
  intro entry hmem
  have hstopped := hevicted.stopped
  cases hqueue : after.queue with
  | nil =>
    rw [hqueue] at hmem
    cases hmem
  | cons front rest =>
    rw [hqueue] at hstopped hordered hmem
    have hfront : cutoff ≤ front.time := by simpa [frontBefore] using hstopped
    rcases mem_cons.mp hmem with rfl | hrest
    · exact hfront
    · have htime : entry.time ∈ rest.map QueueEntry.time := mem_map_of_mem hrest
      exact hfront.trans (rel_of_pairwise_cons hordered htime)

theorem cleanup_evicted (hpaired : shard.Paired) (hpos : window ≠ 0) :
    ∃ count, Evicted (frontBefore ((checkedSub later window).getD later)) shard
      (shard.cleanup later window) count := by
  rw [ReplayShard.cleanup, if_neg hpos]
  have hempty : frontBefore ((checkedSub later window).getD later) [] = false := rfl
  exact evictWhile_evicted hempty hpaired le_rfl

theorem getD_checkedSub (hclock : window ≤ later) :
    (checkedSub later window).getD later = later - window := by
  rw [checkedSub, if_pos hclock]
  rfl

section

variable (htracks : Tracks window shard log now)
include htracks

theorem Tracks.cleanup (hlater : now ≤ later) (hpos : window ≠ 0) (hclock : window ≤ later) :
    Tracks window (shard.cleanup later window) log later ∧
      (∀ entry ∈ (shard.cleanup later window).queue, later ≤ entry.time + window) ∧
      (shard.cleanup later window).capacity = shard.capacity := by
  obtain ⟨count, hevicted⟩ := cleanup_evicted htracks.paired hpos
  rw [getD_checkedSub hclock] at hevicted
  have hordered := hevicted.ordered htracks.ordered
  refine ⟨⟨hevicted.paired, ?_, ?_, hordered, ?_⟩, ?_, hevicted.capacity_eq⟩
  · rw [hevicted.capacity_eq]
    exact htracks.capacity_pos
  · rw [hevicted.capacity_eq, hevicted.queue_eq, map_drop]
    refine htracks.keeps.expire hlater (by simpa using hevicted.bound) ?_
    rw [← map_take]
    intro entry hmem
    obtain ⟨queued, hqueued, rfl⟩ := mem_map.mp hmem
    have hlt := hevicted.front_old queued hqueued
    change queued.time + window < later
    omega
  · intro entry hmem
    exact (htracks.past entry (hevicted.subset hmem)).trans hlater
  · intro entry hmem
    have hyoung := hevicted.rest_young hordered entry hmem
    omega

theorem Tracks.peek_iff
    (hyoung : ∀ entry ∈ shard.queue, now ≤ entry.time + window) (key : List Byte) :
    (shard.cache.peek key).isSome = true ↔ Seen window shard.capacity now log key := by
  rw [htracks.paired.peek_isSome, htracks.keeps.seen_iff_mem]
  intro entry hmem
  obtain ⟨queued, hqueued, rfl⟩ := mem_map.mp hmem
  exact hyoung queued hqueued

theorem Tracks.renewed (key : List Byte) :
    Tracks window { shard with cache := (shard.cache.get key).1 } log now :=
  { htracks with
    paired := ⟨(shard.cache.get_perm key).trans htracks.paired.perm,
      (shard.cache.get_cap key).trans htracks.paired.cap_eq⟩ }

end

theorem Evicted.made_room (hevicted : Evicted (noRoom shard.capacity) shard after count) :
    after.queue.length < shard.capacity ∧ count = shard.queue.length + 1 - shard.capacity := by
  have hroom : after.queue.length < shard.capacity := by
    simpa [noRoom] using hevicted.stopped
  have hlength : after.queue.length = shard.queue.length - count := by
    rw [hevicted.queue_eq, length_drop]
  refine ⟨hroom, ?_⟩
  cases count with
  | zero => omega
  | succ count =>
    have hlast : shard.capacity ≤ shard.queue.length - count := by
      simpa [noRoom] using hevicted.went_on count (Nat.lt_succ_self _)
    omega

theorem insertNew_paired {roomy : ReplayShard} (hpaired : roomy.Paired) {key : ReplayKey}
    (hkey : key.asSlice ∉ roomy.cache.entries.map Prod.fst)
    (hroom : roomy.queue.length < roomy.capacity) (now : ℕ) : (roomy.insertNew key now).Paired := by
  have hfits : roomy.cache.len < roomy.cache.cap := by
    rw [hpaired.len_eq, hpaired.cap_eq]
    exact hroom
  obtain ⟨hentries, hcap⟩ := LruCache.put_of_room ⟨roomy.nextSeq.2⟩ hkey hfits
  refine ⟨?_, hcap.trans hpaired.cap_eq⟩
  have hmap : (roomy.insertNew key now).queue.map QueueEntry.pair =
      roomy.queue.map QueueEntry.pair ++ [(key.asSlice, ⟨roomy.nextSeq.2⟩)] := map_append
  rw [hmap]
  change (roomy.cache.put key.asSlice ⟨roomy.nextSeq.2⟩).entries.Perm _
  rw [hentries]
  exact (hpaired.perm.cons _).trans (perm_append_singleton _ _).symm

theorem makeRoom_evicted (hpaired : shard.Paired) (hpos : 0 < shard.capacity) :
    ∃ count, Evicted (noRoom shard.capacity) shard shard.makeRoom count := by
  have hempty : noRoom shard.capacity [] = false := by
    simpa [noRoom] using hpos.ne'
  exact evictWhile_evicted hempty hpaired le_rfl

theorem push_paired (hpaired : shard.Paired) (hpos : 0 < shard.capacity) {key : ReplayKey}
    (hnew : (shard.cache.peek key.asSlice).isSome = false) (now : ℕ) :
    (shard.makeRoom.insertNew key now).Paired := by
  obtain ⟨count, hevicted⟩ := makeRoom_evicted hpaired hpos
  have hroom := hevicted.made_room.1
  rw [← hevicted.capacity_eq] at hroom
  refine insertNew_paired hevicted.paired ?_ hroom now
  intro hmem
  rw [(hevicted.paired.perm.map Prod.fst).mem_iff, map_map, hevicted.queue_eq] at hmem
  have hqueued : key.asSlice ∈ (shard.queue.map QueueEntry.stamp).map Prod.snd := by
    rw [map_map]
    exact map_subset _ (drop_subset _ _) hmem
  rw [(hpaired.peek_isSome key.asSlice).mpr hqueued] at hnew
  cases hnew

theorem Tracks.push (htracks : Tracks window shard log now) (key : ReplayKey)
    (hnew : (shard.cache.peek key.asSlice).isSome = false) :
    Tracks window (shard.makeRoom.insertNew key now) (log ++ [(now, key.asSlice)]) now ∧
      (shard.makeRoom.insertNew key now).capacity = shard.capacity := by
  have hpos := htracks.capacity_pos
  obtain ⟨count, hevicted⟩ := makeRoom_evicted htracks.paired hpos
  have hcapacity := hevicted.capacity_eq
  have hkept : ∀ entry ∈ shard.makeRoom.queue, entry.time ≤ now := fun entry hmem =>
    htracks.past entry (hevicted.subset hmem)
  refine ⟨⟨push_paired htracks.paired hpos hnew now, ?_, ?_, ?_, ?_⟩, hcapacity⟩
  · exact hcapacity ▸ hpos
  · have hadded := htracks.keeps.add hpos (now, key.asSlice)
    rw [length_map, ← hevicted.made_room.2, ← map_drop, ← hevicted.queue_eq] at hadded
    change Keeps window shard.makeRoom.capacity now _
      ((shard.makeRoom.queue ++ [_]).map QueueEntry.stamp)
    rw [map_append, hcapacity]
    exact hadded
  · change ((shard.makeRoom.queue ++ [_]).map QueueEntry.time).Pairwise (· ≤ ·)
    rw [map_append, pairwise_append]
    refine ⟨hevicted.ordered htracks.ordered, pairwise_singleton _ _, ?_⟩
    intro time htime last hlast
    obtain ⟨entry, hentry, rfl⟩ := mem_map.mp htime
    rw [mem_singleton.mp hlast]
    exact hkept entry hentry
  · intro entry hmem
    rcases mem_append.mp hmem with hold | hlast
    · exact hkept entry hold
    · rw [mem_singleton.mp hlast]

end ReplayShard
end TupoProxy.Replay
