import TupoProxy.KeyedTotal
import TupoProxy.ReplayShard

/-!
# Replayed handshakes

A TLS handshake looks its digest up in the replay checker, does work that may
wait for the front cache, and adds the digest only then.  Handshakes are tasks
that are interleaved at their waits.

Instants and durations are in nanoseconds.  The outcome of the authentication
and the negotiation of key share and cipher suite are choices of each step.
-/

namespace TupoProxy.Replay

open Runs List

def minTlsReplayWindow : ℕ := 120 * 10 ^ 9

structure ReplayChecker where
  handshakeShards : Fin 64 → ReplayShard
  tlsShards : Fin 64 → ReplayShard
  window : ℕ
  tlsWindow : ℕ
  checks : ℕ
  hits : ℕ
  additions : ℕ
  cleanups : ℕ

namespace ReplayChecker

def new (totalCapacity window : ℕ) : ReplayChecker :=
  let cap : ℕ+ := ⟨max (totalCapacity / 64) 1, by omega⟩
  { handshakeShards := fun _ => .new cap
    tlsShards := fun _ => .new cap
    window := window
    tlsWindow := max window minTlsReplayWindow
    checks := 0
    hits := 0
    additions := 0
    cleanups := 0 }

/-- The hash function of the standard library is a parameter. -/
def getShardIdx (hash : List Byte → ℕ) (key : List Byte) : Fin 64 :=
  ⟨hash key % 64, Nat.mod_lt _ (by decide)⟩

def checkTlsDigest (hash : List Byte → ℕ) (checker : ReplayChecker) (data : List Byte)
    (now : ℕ) : ReplayChecker × Bool :=
  let idx := getShardIdx hash data
  let (shard, found) := (checker.tlsShards idx).check data now checker.tlsWindow
  ({ checker with
      tlsShards := Function.update checker.tlsShards idx shard
      checks := checker.checks + 1
      hits := if found then checker.hits + 1 else checker.hits },
    found)

def addTlsDigest (hash : List Byte → ℕ) (checker : ReplayChecker) (data : List Byte)
    (now : ℕ) : ReplayChecker :=
  let idx := getShardIdx hash data
  let shard := (checker.tlsShards idx).addOwned (.fromSlice data) now checker.tlsWindow
  { checker with
    tlsShards := Function.update checker.tlsShards idx shard
    additions := checker.additions + 1 }

def periodicCleanup (checker : ReplayChecker) (now : ℕ) : ReplayChecker :=
  { checker with
    handshakeShards := fun idx => (checker.handshakeShards idx).cleanup now checker.window
    tlsShards := fun idx => (checker.tlsShards idx).cleanup now checker.tlsWindow
    cleanups := checker.cleanups + 1 }

end ReplayChecker

/-- The parts of a handshake that decide where it waits. -/
structure TlsHandshake where
  digest : List Byte
  clientTls12 : Bool
  tlsEmulation : Bool
  tlsCache : Bool
  serverhelloCompact : Bool
  deriving Repr, DecidableEq

def tlsDigestHalfLen : ℕ := 16

def TlsHandshake.digestHalf (handshake : TlsHandshake) : List Byte :=
  handshake.digest.take tlsDigestHalfLen

/-- Where a task waits, or how it ended. -/
inductive TlsPc where
  | validating
  | cacheEntry
  | certBudget
  | helloDelay
  | serverHello
  | badClient
  deriving Repr, DecidableEq

structure TlsTask where
  handshake : TlsHandshake
  pc : TlsPc
  deriving Repr, DecidableEq

structure TlsChoice where
  authenticated : Bool
  keyShare : Bool
  cipherSuite : Bool
  deriving Repr, DecidableEq

namespace TlsTask

def half (task : TlsTask) : List Byte := task.handshake.digestHalf

def moveTo (task : TlsTask) (pc : TlsPc) : TlsTask := { task with pc := pc }

def addDigest (hash : List Byte → ℕ) (now : ℕ) (task : TlsTask) (checker : ReplayChecker) :
    TlsTask × ReplayChecker :=
  (task.moveTo .helloDelay, checker.addTlsDigest hash task.half now)

/-- From the cache entry, if there is a cache, to the next wait. -/
def negotiate (hash : List Byte → ℕ) (choice : TlsChoice) (now : ℕ) (task : TlsTask)
    (checker : ReplayChecker) : TlsTask × ReplayChecker :=
  let handshake := task.handshake
  if ¬ choice.keyShare then (task.moveTo .badClient, checker)
  else if ¬ choice.cipherSuite then (task.moveTo .badClient, checker)
  else if handshake.tlsEmulation ∧ handshake.tlsCache ∧ handshake.serverhelloCompact ∧
      handshake.clientTls12 then
    (task.moveTo .certBudget, checker)
  else task.addDigest hash now checker

def advance (hash : List Byte → ℕ) (choice : TlsChoice) (now : ℕ) (task : TlsTask)
    (checker : ReplayChecker) : TlsTask × ReplayChecker :=
  match task.pc with
  | .validating =>
    if ¬ choice.authenticated then (task.moveTo .badClient, checker)
    else
      let (checker, found) := checker.checkTlsDigest hash task.half now
      if found then (task.moveTo .badClient, checker)
      else if task.handshake.tlsEmulation ∧ task.handshake.tlsCache then
        (task.moveTo .cacheEntry, checker)
      else task.negotiate hash choice now checker
  | .cacheEntry => task.negotiate hash choice now checker
  | .certBudget => task.addDigest hash now checker
  | .helloDelay => (task.moveTo .serverHello, checker)
  | .serverHello => (task, checker)
  | .badClient => (task, checker)

def waits (task : TlsTask) : Bool :=
  match task.pc with
  | .cacheEntry | .certBudget => true
  | _ => false

def accepted (task : TlsTask) : Bool :=
  match task.pc with
  | .helloDelay | .serverHello => true
  | _ => false

end TlsTask

structure TlsSystem where
  checker : ReplayChecker
  clock : ℕ
  tasks : Table ℕ TlsTask

namespace TlsSystem

def new (totalCapacity window clock : ℕ) : TlsSystem :=
  ⟨.new totalCapacity window, clock, ∅⟩

inductive Action where
  | arrive (id : ℕ) (handshake : TlsHandshake)
  | advance (id : ℕ) (choice : TlsChoice)
  | elapse (nanos : ℕ)
  | cleanup
  deriving Repr, DecidableEq

def step (hash : List Byte → ℕ) (action : Action) (system : TlsSystem) : TlsSystem :=
  match action with
  | .arrive id handshake =>
    match system.tasks.lookup id with
    | some _ => system
    | none => { system with tasks := system.tasks.insert id ⟨handshake, .validating⟩ }
  | .advance id choice =>
    match system.tasks.lookup id with
    | none => system
    | some task =>
      let (task, checker) := task.advance hash choice system.clock system.checker
      { system with checker := checker, tasks := system.tasks.insert id task }
  | .elapse nanos => { system with clock := system.clock + nanos }
  | .cleanup => { system with checker := system.checker.periodicCleanup system.clock }

end TlsSystem

/-! ## What the operations do to the keys of a shard -/

namespace ReplayShard

variable {shard after : ReplayShard} {window now since : ℕ} {key : List Byte}

def Holds (shard : ReplayShard) (key : List Byte) (since : ℕ) : Prop :=
  ∃ entry ∈ shard.queue, entry.key.asSlice = key ∧ since ≤ entry.time

def Lacks (shard : ReplayShard) (key : List Byte) : Prop :=
  ∀ entry ∈ shard.queue, entry.key.asSlice ≠ key

/-- The shard stays well formed and gains no key but `added`. -/
structure Gains (added : List Byte → Prop) (shard after : ReplayShard) : Prop where
  paired : after.Paired
  capacity_eq : after.capacity = shard.capacity
  subset : ∀ entry ∈ after.queue, entry ∈ shard.queue ∨ added entry.key.asSlice

theorem Gains.lacks {added : List Byte → Prop} (hgains : Gains added shard after)
    (hlacks : shard.Lacks key) (hother : ¬ added key) : after.Lacks key := by
  intro entry hmem hkey
  rcases hgains.subset entry hmem with hold | hadded
  · exact hlacks entry hold hkey
  · exact hother (hkey ▸ hadded)

section

variable (hpaired : shard.Paired)
include hpaired

section

variable (hpos : window ≠ 0)
include hpos

theorem cleanup_gains (now : ℕ) : Gains (fun _ => False) shard (shard.cleanup now window) := by
  obtain ⟨count, hevicted⟩ := cleanup_evicted hpaired hpos
  exact ⟨hevicted.paired, hevicted.capacity_eq, fun entry hmem => Or.inl (hevicted.subset hmem)⟩

theorem check_gains (key : List Byte) (now : ℕ) :
    Gains (fun _ => False) shard (shard.check key now window).1 := by
  have hclean := cleanup_gains hpaired hpos now
  rw [check_eq hpos]
  exact { hclean with
    paired := ⟨(LruCache.get_perm _ key).trans hclean.paired.perm,
      (LruCache.get_cap _ key).trans hclean.paired.cap_eq⟩ }

theorem check_found_iff :
    (shard.check key now window).2 = true ↔
      ∃ entry ∈ (shard.cleanup now window).queue, entry.key.asSlice = key := by
  have hclean := cleanup_gains hpaired hpos now
  rw [check_eq hpos]
  simp only [LruCache.get_value]
  rw [hclean.paired.peek_isSome, map_map, mem_map]
  rfl

theorem check_lacks (hfound : (shard.check key now window).2 = false) :
    (shard.check key now window).1.Lacks key := by
  intro entry hmem hkey
  have hqueue : (shard.check key now window).1.queue = (shard.cleanup now window).queue := by
    rw [check_eq hpos]
  rw [hqueue] at hmem
  rw [(check_found_iff hpaired hpos).mpr ⟨entry, hmem, hkey⟩] at hfound
  cases hfound

theorem absent_of_lacks (hlacks : shard.Lacks key) :
    ((shard.cleanup now window).cache.peek key).isSome = false := by
  have hclean := cleanup_gains hpaired hpos now
  rw [Bool.eq_false_iff, Ne, hclean.paired.peek_isSome, map_map, mem_map]
  rintro ⟨entry, hmem, hkey⟩
  exact hclean.lacks hlacks id entry hmem hkey

theorem addOwned_gains (hcapacity : 0 < shard.capacity) (key : List Byte) (now : ℕ) :
    Gains (fun gained => gained = key) shard (shard.addOwned (.fromSlice key) now window) := by
  have hclean := cleanup_gains hpaired hpos now
  have hroom : 0 < (shard.cleanup now window).capacity := by
    rw [hclean.capacity_eq]
    exact hcapacity
  cases hpeek : ((shard.cleanup now window).cache.peek key).isSome with
  | true =>
    rw [addOwned_of_present hpos hpeek]
    exact { hclean with
      subset := fun entry hmem => (hclean.subset entry hmem).imp_right False.elim }
  | false =>
    rw [addOwned_of_absent hpos hpeek]
    obtain ⟨count, hevicted⟩ := makeRoom_evicted hclean.paired hroom
    rw [← ReplayKey.asSlice_fromSlice key] at hpeek
    refine ⟨push_paired hclean.paired hroom hpeek now,
      hevicted.capacity_eq.trans hclean.capacity_eq, ?_⟩
    intro entry hmem
    rcases mem_append.mp hmem with hold | hlast
    · exact (hclean.subset entry (hevicted.subset hold)).imp_right False.elim
    · rw [mem_singleton.mp hlast]
      exact Or.inr (ReplayKey.asSlice_fromSlice key)

theorem addOwned_holds (hlacks : shard.Lacks key) (now : ℕ) :
    (shard.addOwned (.fromSlice key) now window).Holds key now := by
  rw [addOwned_of_absent hpos (absent_of_lacks hpaired hpos hlacks)]
  exact ⟨_, mem_append_right _ (mem_singleton_self _), ReplayKey.asSlice_fromSlice key, le_rfl⟩

end

end

end ReplayShard

end TupoProxy.Replay
