import TupoProxy.IpAdmission

/-!
# Clearing the addresses of a user

When a user is deleted the tracker forgets the addresses of the user, but the
connections of the user go on and are released later.  A release does not know
whether its connection was admitted before or after the clear.
-/

namespace TupoProxy.IpTracker

open Tally

namespace UserIpTracker

variable {shardIdx : String → ShardIdx} {tracker : UserIpTracker}

theorem activeOf_clearUserIps (tracker : UserIpTracker) (user other : String) :
    (tracker.clearUserIps shardIdx user).activeOf shardIdx other =
      if other = user then ∅ else tracker.activeOf shardIdx other := by
  unfold activeOf clearUserIps setShard
  dsimp only
  by_cases hshard : shardIdx other = shardIdx user
  · rw [hshard, Function.update_self, ofOwner_erase]
  · have hother : other ≠ user := fun heq => hshard (by rw [heq])
    rw [Function.update_of_ne hshard, if_neg hother]

theorem Booked.clearUserIps (hbooked : Booked shardIdx tracker) (user : String) :
    Booked shardIdx (tracker.clearUserIps shardIdx user) where
  activePositive other := by
    rw [activeOf_clearUserIps]
    split_ifs
    · exact positive_empty
    · exact hbooked.activePositive other
  pendingPositive := hbooked.pendingPositive
  queueLen := hbooked.queueLen

end UserIpTracker

/-! ## Runs with clears -/

/-- The tracker with the connections that are admitted and not yet released:
`live` since the last clear of their user, `stale` before it. -/
structure ClearedRun where
  tracker : UserIpTracker
  live : List (String × IpAddr)
  stale : List (String × IpAddr)

/-- A release says whether its connection was admitted before the last clear. -/
inductive ClearCall where
  | checkAndAdd (user : String) (ip : IpAddr) (clock : Clock)
  | removeIp (beforeClear : Bool) (user : String) (ip : IpAddr) (clock : Clock)
  | enqueueCleanup (beforeClear : Bool) (user : String) (ip : IpAddr)
  | drainCleanupQueue (orders : ShardIdx → ℕ → ℕ × ℕ)
  | clearUserIps (user : String)

namespace ClearedRun

open UserIpTracker

variable (shardIdx : String → ShardIdx)

def forget (beforeClear : Bool) (connection : String × IpAddr) (run : ClearedRun) :
    ClearedRun :=
  if beforeClear then { run with stale := run.stale.erase connection }
  else { run with live := run.live.erase connection }

def step (call : ClearCall) (run : ClearedRun) : ClearedRun :=
  match call with
  | .checkAndAdd user ip clock =>
    let answer := run.tracker.checkAndAdd shardIdx user ip clock
    { run with tracker := answer.2, live := admitted answer.1 (user, ip) run.live }
  | .removeIp beforeClear user ip clock =>
    { run.forget beforeClear (user, ip) with
      tracker := run.tracker.removeIp shardIdx user ip clock }
  | .enqueueCleanup beforeClear user ip =>
    { run.forget beforeClear (user, ip) with
      tracker := run.tracker.enqueueCleanup shardIdx user ip }
  | .drainCleanupQueue orders =>
    { run with tracker := run.tracker.drainCleanupQueue orders }
  | .clearUserIps user =>
    { tracker := run.tracker.clearUserIps shardIdx user
      live := run.live.filter fun connection => connection.1 ≠ user
      stale := run.stale ++ run.live.filter fun connection => connection.1 = user }

/-- The connection that a call releases, and whether it is a stale one. -/
def released : ClearCall → Option (Bool × String × IpAddr)
  | .removeIp beforeClear user ip _ => some (beforeClear, user, ip)
  | .enqueueCleanup beforeClear user ip => some (beforeClear, user, ip)
  | _ => none

/-- Only an admitted connection that is not yet released is released. -/
def ReleasesOnce (run : ClearedRun) (call : ClearCall) : Prop :=
  ∀ release ∈ released call, release.2 ∈ if release.1 then run.stale else run.live

/-- A connection that was admitted before a clear is released only while none
admitted since from its address is left. -/
def ReleasesApart (run : ClearedRun) (call : ClearCall) : Prop :=
  ∀ release ∈ released call, release.1 = true → release.2 ∉ run.live

instance (run : ClearedRun) (call : ClearCall) : Decidable (run.ReleasesOnce call) :=
  inferInstanceAs (Decidable (∀ release ∈ released call,
    release.2 ∈ if release.1 then run.stale else run.live))

instance (run : ClearedRun) (call : ClearCall) : Decidable (run.ReleasesApart call) :=
  inferInstanceAs (Decidable (∀ release ∈ released call,
    release.1 = true → release.2 ∉ run.live))

def start (maxIps : Table String ℕ) (defaultMaxIps : ℕ) (limitMode : UserMaxUniqueIpsMode)
    (limitWindowSecs : ℕ) : ClearedRun where
  tracker :=
    { UserIpTracker.new with
      maxIps := maxIps
      defaultMaxIps := defaultMaxIps
      limitMode := limitMode
      limitWindowSecs := limitWindowSecs }
  live := []
  stale := []

/-- A live connection is counted, with the releases that wait for its address.
Where nothing is live a count may be too low. -/
structure Covered (run : ClearedRun) : Prop where
  booked : Booked shardIdx run.tracker
  covers : ∀ user ip, run.live.count (user, ip) = 0 ∨
    run.live.count (user, ip) + count (run.tracker.pendingOf shardIdx user) ip ≤
      count (run.tracker.activeOf shardIdx user) ip

variable {shardIdx} {run : ClearedRun}

section

variable (hcovered : Covered shardIdx run)
include hcovered

theorem Covered.drained {after : UserIpTracker} (hdrains : Drains shardIdx run.tracker after) :
    Covered shardIdx { run with tracker := after } where
  booked := hdrains.booked
  covers user ip := by
    obtain ⟨amount, hactive, hpending⟩ := hdrains.moved user ip
    rcases hcovered.covers user ip with hnone | hcounted
    · exact .inl hnone
    · right
      dsimp only
      omega

theorem Covered.checkAndAdd (user : String) (ip : IpAddr)
    (clock : Clock) : Covered shardIdx (step shardIdx (.checkAndAdd user ip clock) run) := by
  have hchecked := hcovered.drained (hcovered.booked.checked user clock)
  have hpending := hcovered.booked.pendingOf_checked user clock
  unfold step
  dsimp only
  rcases hcovered.booked.checkAndAdd user ip clock with hadmission | ⟨error, hanswer⟩
  · refine ⟨hadmission.booked, fun other otherIp => ?_⟩
    have hcovers := hchecked.covers other otherIp
    dsimp only at hcovers ⊢
    rw [hadmission.active, hadmission.pending]
    cases (run.tracker.checkAndAdd shardIdx user ip clock).1 with
    | error error =>
      rw [admitted, if_neg fun hok => Bool.false_ne_true hok.1]
      exact hcovers
    | ok value =>
      rw [admitted, List.count_cons]
      by_cases hsame : other = user ∧ otherIp = ip
      · obtain ⟨rfl, rfl⟩ := hsame
        rw [hpending] at hcovers ⊢
        rw [if_pos (beq_self_eq_true _), if_pos ⟨rfl, rfl, rfl⟩]
        omega
      · have hdiffer : ((user, ip) == (other, otherIp)) = false :=
          beq_false_of_ne fun heq =>
            hsame ⟨congrArg Prod.fst heq.symm, congrArg Prod.snd heq.symm⟩
        rw [hdiffer, if_neg Bool.false_ne_true, if_neg fun hok => hsame hok.2]
        exact hcovers
  · rw [hanswer]
    exact hchecked

theorem Covered.release {after : UserIpTracker}
    {beforeClear : Bool} {user : String} {ip : IpAddr} (hbooked : Booked shardIdx after)
    (hcounts : ∀ other otherIp, count (run.tracker.activeOf shardIdx other) otherIp +
          count (after.pendingOf shardIdx other) otherIp ≤
        count (after.activeOf shardIdx other) otherIp +
          count (run.tracker.pendingOf shardIdx other) otherIp +
          if other = user ∧ otherIp = ip then 1 else 0)
    (honce : (user, ip) ∈ if beforeClear then run.stale else run.live)
    (hapart : beforeClear = true → (user, ip) ∉ run.live) :
    Covered shardIdx { run.forget beforeClear (user, ip) with tracker := after } := by
  refine ⟨hbooked, fun other otherIp => ?_⟩
  have hcovers := hcovered.covers other otherIp
  have hmoved := hcounts other otherIp
  cases beforeClear with
  | true =>
    have hnone : run.live.count (user, ip) = 0 := List.count_eq_zero.mpr (hapart rfl)
    dsimp only [forget]
    rw [if_pos rfl]
    dsimp only
    by_cases hsame : other = user ∧ otherIp = ip
    · obtain ⟨rfl, rfl⟩ := hsame
      exact .inl hnone
    · rw [if_neg hsame] at hmoved
      omega
  | false =>
    have herased := count_erase_of_mem honce other otherIp
    dsimp only [forget]
    rw [if_neg Bool.false_ne_true] at *
    dsimp only at *
    omega

omit hcovered in
theorem count_filter_user (live : List (String × IpAddr)) (user other : String) (ip : IpAddr) :
    (live.filter fun connection => connection.1 ≠ user).count (other, ip) =
      if other = user then 0 else live.count (other, ip) := by
  split_ifs with hother
  · rw [List.count_eq_zero]
    intro hmem
    exact of_decide_eq_true (List.mem_filter.mp hmem).2 hother
  · exact List.count_filter (decide_eq_true hother)

theorem Covered.clearUserIps (user : String) :
    Covered shardIdx (step shardIdx (.clearUserIps user) run) := by
  refine ⟨hcovered.booked.clearUserIps user, fun other ip => ?_⟩
  have hcovers := hcovered.covers other ip
  dsimp only [step]
  rw [count_filter_user, activeOf_clearUserIps]
  split_ifs with hother
  · exact .inl rfl
  · exact hcovers

/-- Releases that are made once keep every live connection counted. -/
theorem Covered.step {call : ClearCall}
    (honce : run.ReleasesOnce call) (hapart : run.ReleasesApart call) :
    Covered shardIdx (step shardIdx call run) := by
  cases call with
  | checkAndAdd user ip clock => exact hcovered.checkAndAdd user ip clock
  | removeIp beforeClear user ip clock =>
    have hquiet := maybeCompactEmptyUsers_quiet run.tracker clock
    have hbooked := hcovered.booked.quiet hquiet
    have hmem : (user, ip) ∈ if beforeClear then run.stale else run.live := honce _ rfl
    have hnot : beforeClear = true → (user, ip) ∉ run.live := hapart _ rfl
    apply hcovered.release (hbooked.releaseActive _ _) _ hmem hnot
    intro other otherIp
    rw [hbooked.count_releaseOne, hquiet.activeOf]
    change _ + count ((run.tracker.maybeCompactEmptyUsers clock).pendingOf shardIdx other)
      otherIp ≤ _
    rw [hquiet.pendingOf]
    omega
  | enqueueCleanup beforeClear user ip =>
    have hmem : (user, ip) ∈ if beforeClear then run.stale else run.live := honce _ rfl
    have hnot : beforeClear = true → (user, ip) ∉ run.live := hapart _ rfl
    apply hcovered.release (hcovered.booked.enqueueCleanup user ip) _ hmem hnot
    intro other otherIp
    rw [count_enqueueCleanup, Nat.add_assoc]
    exact Nat.le_refl _
  | drainCleanupQueue orders =>
    exact hcovered.drained (hcovered.booked.drainCleanupQueue orders)
  | clearUserIps user => exact hcovered.clearUserIps user

end

theorem start_covered (maxIps : Table String ℕ) (defaultMaxIps : ℕ)
    (limitMode : UserMaxUniqueIpsMode) (limitWindowSecs : ℕ) :
    Covered shardIdx (start maxIps defaultMaxIps limitMode limitWindowSecs) where
  booked := booked_new.same (fun _ => rfl) rfl rfl
  covers := fun _ _ => .inl rfl

/-- The connections admitted since the last clear are counted, in every run
that releases each connection once and those from before a clear apart from
those admitted since. -/
theorem live_counted (shardIdx : String → ShardIdx) (maxIps : Table String ℕ)
    (defaultMaxIps : ℕ) (limitMode : UserMaxUniqueIpsMode) (limitWindowSecs : ℕ)
    (calls : List ClearCall) (hcalls : Runs.Along (step shardIdx)
      (fun run call => run.ReleasesOnce call ∧ run.ReleasesApart call) calls
      (start maxIps defaultMaxIps limitMode limitWindowSecs)) (user : String) (ip : IpAddr) :
    (Runs.run (step shardIdx) calls
        (start maxIps defaultMaxIps limitMode limitWindowSecs)).live.count (user, ip) ≤
      count ((Runs.run (step shardIdx) calls
        (start maxIps defaultMaxIps limitMode limitWindowSecs)).tracker.activeOf
          shardIdx user) ip := by
  have hstep : ∀ run call, Covered shardIdx run → ReleasesOnce run call ∧ ReleasesApart run call →
      Covered shardIdx (step shardIdx call run) :=
    fun run call hcovered hcall => hcovered.step hcall.1 hcall.2
  have hcovered := hcalls.invariant hstep
    (start_covered maxIps defaultMaxIps limitMode limitWindowSecs)
  have hcovers := hcovered.covers user ip
  omega

/-- A connection is released through the queue before the clear, another one
directly after it, and two come in between and after. -/
def clearedCalls : List ClearCall :=
  [.checkAndAdd "alice" (.v4 10 0 0 1) ⟨0, 100⟩,
    .checkAndAdd "alice" (.v4 10 0 0 2) ⟨1, 100⟩,
    .enqueueCleanup false "alice" (.v4 10 0 0 2),
    .clearUserIps "alice",
    .checkAndAdd "alice" (.v4 10 0 0 2) ⟨2, 100⟩,
    .removeIp true "alice" (.v4 10 0 0 1) ⟨3, 100⟩,
    .checkAndAdd "alice" (.v4 10 0 0 1) ⟨4, 100⟩]

theorem live_counted_cleared :
    (Runs.run (step TrackedRun.sampleShard) clearedCalls
        (start ∅ 0 .activeWindow 30)).live =
        [("alice", .v4 10 0 0 1), ("alice", .v4 10 0 0 2)] ∧
      (Runs.run (step TrackedRun.sampleShard) clearedCalls
        (start ∅ 0 .activeWindow 30)).live.count ("alice", .v4 10 0 0 1) ≤
        count ((Runs.run (step TrackedRun.sampleShard) clearedCalls
          (start ∅ 0 .activeWindow 30)).tracker.activeOf TrackedRun.sampleShard "alice")
          (.v4 10 0 0 1) := by
  refine ⟨by decide +kernel, live_counted TrackedRun.sampleShard ∅ 0 .activeWindow 30
    clearedCalls ?_ "alice" (.v4 10 0 0 1)⟩
  decide +kernel

/-- The release of a connection from before the clear takes the count of a
connection admitted since. -/
def staleRelease : List ClearCall :=
  [.checkAndAdd "alice" (.v4 10 0 0 1) ⟨0, 100⟩,
    .clearUserIps "alice",
    .checkAndAdd "alice" (.v4 10 0 0 1) ⟨1, 100⟩,
    .removeIp true "alice" (.v4 10 0 0 1) ⟨2, 100⟩]

theorem stale_release_uncounts :
    (Runs.run (step TrackedRun.sampleShard) staleRelease
        (start ∅ 1 .activeWindow 30)).live = [("alice", .v4 10 0 0 1)] ∧
      count ((Runs.run (step TrackedRun.sampleShard) staleRelease
        (start ∅ 1 .activeWindow 30)).tracker.activeOf TrackedRun.sampleShard "alice")
        (.v4 10 0 0 1) = 0 ∧
      ((Runs.run (step TrackedRun.sampleShard) staleRelease
        (start ∅ 1 .activeWindow 30)).tracker.checkAndAdd TrackedRun.sampleShard "alice"
          (.v4 10 0 0 2) ⟨3, 100⟩).1 = .ok () := by
  decide +kernel

end ClearedRun

end TupoProxy.IpTracker
