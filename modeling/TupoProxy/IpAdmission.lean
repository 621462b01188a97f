import TupoProxy.IpAccounts
import TupoProxy.Runs

/-!
# Admission follows the live connections

A check first takes the waiting releases of its user off the count, so what
it counts are the live connections.
-/

namespace TupoProxy.IpTracker

open Tally List UserIpTracker

namespace UserIpTracker

variable {shardIdx : String → ShardIdx} {tracker : UserIpTracker}
  {live : List (String × IpAddr)}

def liveIps (live : List (String × IpAddr)) (user : String) : Finset IpAddr :=
  ((live.filter fun connection => connection.1 = user).map Prod.snd).toFinset

theorem mem_liveIps {live : List (String × IpAddr)} {user : String}
    {ip : IpAddr} : ip ∈ liveIps live user ↔ (user, ip) ∈ live := by
  simp only [liveIps, mem_toFinset, mem_map, mem_filter, decide_eq_true_eq]
  constructor
  · rintro ⟨⟨owner, found⟩, ⟨hmem, rfl⟩, rfl⟩
    exact hmem
  · exact fun hmem => ⟨(user, ip), ⟨hmem, rfl⟩, rfl⟩

/-- The tracker that a check decides on. -/
def checked (shardIdx : String → ShardIdx) (tracker : UserIpTracker)
    (user : String) (clock : Clock) : UserIpTracker :=
  ((tracker.drainCleanupForUser shardIdx user).maybeCompactEmptyUsers
    clock).prepareUser shardIdx user clock.now

theorem checked_settled (tracker : UserIpTracker) (user : String)
    (clock : Clock) : Settled tracker (checked shardIdx tracker user clock) :=
  ((drainCleanupForUser_settled tracker user).trans
    (maybeCompactEmptyUsers_quiet _ clock).settled).trans
      (prepareUser_quiet shardIdx _ user clock.now).settled

theorem Booked.checked (hbooked : Booked shardIdx tracker) (user : String) (clock : Clock) :
    Drains shardIdx tracker (checked shardIdx tracker user clock) := by
  have hdrained := hbooked.drainCleanupForUser user
  have hcompacted := hdrained.trans
    (hdrained.booked.drains_quiet (maybeCompactEmptyUsers_quiet _ clock))
  exact hcompacted.trans
    (hcompacted.booked.drains_quiet (prepareUser_quiet shardIdx _ user clock.now))

theorem Booked.pendingOf_checked (hbooked : Booked shardIdx tracker) (user : String)
    (clock : Clock) (ip : IpAddr) :
    count ((UserIpTracker.checked shardIdx tracker user clock).pendingOf shardIdx user) ip =
      0 := by
  have hcompact := maybeCompactEmptyUsers_quiet (tracker.drainCleanupForUser shardIdx user) clock
  have hprepare := prepareUser_quiet shardIdx
    ((tracker.drainCleanupForUser shardIdx user).maybeCompactEmptyUsers clock) user clock.now
  unfold UserIpTracker.checked
  rw [hprepare.pendingOf, hcompact.pendingOf]
  exact hbooked.pendingOf_drained user ip

theorem Accounts.count_checked (haccounts : Accounts shardIdx tracker live)
    (user : String) (clock : Clock) (ip : IpAddr) :
    count ((UserIpTracker.checked shardIdx tracker user clock).activeOf
      shardIdx user) ip = live.count (user, ip) := by
  have hchecked := haccounts.drained (haccounts.booked.checked user clock)
  have hcounts := hchecked.counts user ip
  rw [haccounts.booked.pendingOf_checked] at hcounts
  exact hcounts

/-- The three ways a check can go. -/
inductive Check (shardIdx : String → ShardIdx) (tracker : UserIpTracker)
    (user : String) (ip : IpAddr) (clock : Clock) :
    Except IpTrackerError Unit × UserIpTracker → Prop
  | known (recentContainsIp : Bool)
      (hcontains : (((checked shardIdx tracker user clock).activeOf shardIdx
        user).lookup ip).isSome) :
      Check shardIdx tracker user ip clock
        ((checked shardIdx tracker user clock).addToActive shardIdx user ip
          clock.now recentContainsIp)
  | denied (error : IpTrackerError) (limit recentLen : ℕ) (isNewIp : Bool)
      (hfresh : ((checked shardIdx tracker user clock).activeOf shardIdx
        user).lookup ip = none)
      (hlimit : tracker.userLimit user = some limit)
      (hdenies : deniesNewIp tracker.limitMode limit
        ((checked shardIdx tracker user clock).activeOf shardIdx
          user).entries.length recentLen isNewIp = true) :
      Check shardIdx tracker user ip clock
        (.error error, checked shardIdx tracker user clock)
  | fresh (recentLen : ℕ) (isNewIp : Bool)
      (hfresh : ((checked shardIdx tracker user clock).activeOf shardIdx
        user).lookup ip = none)
      (hallows : ∀ limit, tracker.userLimit user = some limit →
        deniesNewIp tracker.limitMode limit
          ((checked shardIdx tracker user clock).activeOf shardIdx
            user).entries.length recentLen isNewIp = false) :
      Check shardIdx tracker user ip clock
        ((checked shardIdx tracker user clock).addNewActive shardIdx user ip
          clock.now isNewIp)

theorem checkAndAdd_check (tracker : UserIpTracker) (user : String) (ip : IpAddr) (clock : Clock) :
    Check shardIdx tracker user ip clock (tracker.checkAndAdd shardIdx user ip clock) := by
  have hsettled := @checked_settled shardIdx tracker user clock
  have hlimit := hsettled.limits.userLimit user
  have hmode := hsettled.limits.limitMode
  unfold checkAndAdd
  simp only
  split_ifs with hcontains
  · exact .known _ hcontains
  · have hfresh := Option.not_isSome_iff_eq_none.mp hcontains
    split
    · rename_i limit hsome
      have hsame : tracker.userLimit user = some limit := hlimit.symm.trans hsome
      split_ifs with hdenies
      · exact .denied _ limit _ _ hfresh hsame (hmode ▸ hdenies)
      · refine .fresh (ofOwner ((checked shardIdx tracker user
          clock).shards (shardIdx user)).recentIps user).entries.length _ hfresh
          fun other hother => ?_
        obtain rfl : limit = other := by
          rw [hsame] at hother
          exact Option.some.inj hother
        rw [← hmode]
        exact Bool.eq_false_iff.mpr hdenies
    · rename_i hnone
      refine .fresh 0 _ hfresh fun limit hother => ?_
      rw [← hlimit] at hother
      exact absurd (hnone.symm.trans hother) (by simp)

theorem Booked.admitIp (hbooked : Booked shardIdx tracker) (user : String) (ip : IpAddr) (now : ℕ) :
    Admission shardIdx (tracker.prepareUser shardIdx user now) user ip
        (tracker.admitIp shardIdx user ip now) ∨ ∃ error, tracker.admitIp shardIdx user ip now =
        (.error error, tracker.prepareUser shardIdx user now) := by
  have hprepared := hbooked.quiet (prepareUser_quiet shardIdx tracker user now)
  unfold UserIpTracker.admitIp
  dsimp only
  split_ifs with hcontains
  · exact .inl (hprepared.addToActive now _ hcontains)
  · have hfresh := Option.not_isSome_iff_eq_none.mp hcontains
    have hadd := fun isNewIp => hprepared.addNewActive now isNewIp
      (prepareUser_prepared tracker user now) hfresh
    split
    · split_ifs
      · exact .inr ⟨_, rfl⟩
      · exact .inl (hadd _)
    · exact .inl (hadd _)

theorem Booked.checkAndAdd (hbooked : Booked shardIdx tracker) (user : String) (ip : IpAddr)
    (clock : Clock) :
    Admission shardIdx (UserIpTracker.checked shardIdx tracker user clock) user ip
        (tracker.checkAndAdd shardIdx user ip clock) ∨
      ∃ error, tracker.checkAndAdd shardIdx user ip clock =
        (.error error, UserIpTracker.checked shardIdx tracker user clock) := by
  have hdrained := (hbooked.drainCleanupForUser user).booked
  have hcompacted := hdrained.quiet (maybeCompactEmptyUsers_quiet _ clock)
  exact hcompacted.admitIp user ip clock.now

theorem Accounts.checkAndAdd (haccounts : Accounts shardIdx tracker live)
    (user : String) (ip : IpAddr) (clock : Clock) :
    let answer := tracker.checkAndAdd shardIdx user ip clock
    Accounts shardIdx answer.2 (admitted answer.1 (user, ip) live) ∧
      SameLimits tracker answer.2 := by
  have hchecked := haccounts.drained (haccounts.booked.checked user clock)
  have hlimits := (@checked_settled shardIdx tracker user clock).limits
  intro answer
  rcases haccounts.booked.checkAndAdd user ip clock with hadmission | ⟨error, hanswer⟩
  · exact ⟨hchecked.admission hadmission, hlimits.trans hadmission.limits⟩
  · change Accounts shardIdx (tracker.checkAndAdd shardIdx user ip clock).2
        (admitted (tracker.checkAndAdd shardIdx user ip clock).1 (user, ip) live) ∧
      SameLimits tracker (tracker.checkAndAdd shardIdx user ip clock).2
    rw [hanswer]
    exact ⟨hchecked, hlimits⟩

theorem Accounts.checkAndAdd_ok (haccounts : Accounts shardIdx tracker live)
    {user : String} {limit : ℕ} (hmode : tracker.limitMode = .activeWindow)
    (hlimit : tracker.userLimit user = some limit) (ip : IpAddr) (clock : Clock) :
    let answer := tracker.checkAndAdd shardIdx user ip clock
    (answer.1 = .ok () → (user, ip) ∈ live ∨ (liveIps live user).card < limit) ∧
    (tracker.capsLeft → (user, ip) ∈ live ∨ (liveIps live user).card < limit →
      answer.1 = .ok ()) := by
  have hchecked := (haccounts.booked.checked user clock).booked
  have hsettled := @checked_settled shardIdx tracker user clock
  have hcounts := haccounts.count_checked user clock
  have hpositive := hchecked.activePositive user
  have hcaps : tracker.capsLeft → (checked shardIdx tracker user clock).capsLeft :=
    fun hleft => ⟨hsettled.activeEntryCount.trans_lt hleft.1,
      hsettled.recentEntryCount.trans_lt hleft.2⟩
  have hlen : ((checked shardIdx tracker user clock).activeOf
      shardIdx user).entries.length = (liveIps live user).card := by
    have hitems : ∀ other, other ∈ liveIps live user ↔
        0 < count ((checked shardIdx tracker user clock).activeOf
          shardIdx user) other := fun other => by
      rw [mem_liveIps, hcounts, count_pos_iff]
    rw [← hpositive.length_keys hitems]
    simp [AList.keys, keys]
  have hknown : (((checked shardIdx tracker user clock).activeOf
      shardIdx user).lookup ip).isSome ↔ (user, ip) ∈ live := by
    rw [AList.lookup_isSome, AList.mem_keys, hpositive.mem_keys, hcounts, count_pos_iff]
  have hcheck : Check shardIdx tracker user ip clock _ := checkAndAdd_check tracker user ip clock
  intro answer
  change Check shardIdx tracker user ip clock answer at hcheck
  clear_value answer
  cases hcheck with
  | known recentContainsIp hcontains =>
    have hok := (hchecked.addToActive clock.now recentContainsIp hcontains).fits
    exact ⟨fun _ => .inl (hknown.mp hcontains), fun hleft _ => hok (hcaps hleft)⟩
  | denied error other recentLen isNewIp hfresh hother hdenies =>
    obtain rfl : limit = other := Option.some.inj (hlimit.symm.trans hother)
    rw [hmode, hlen] at hdenies
    have hfull : limit ≤ (liveIps live user).card := by
      simpa [deniesNewIp] using hdenies
    refine ⟨fun hok => (by cases hok), fun _ hallowed => ?_⟩
    rcases hallowed with hlive | hroom
    · rw [← hknown, hfresh] at hlive
      cases hlive
    · omega
  | fresh recentLen isNewIp hfresh hallows =>
    have hok := (hchecked.addNewActive clock.now isNewIp
      (prepareUser_prepared _ user clock.now) hfresh).fits
    have hroom := hallows limit hlimit
    rw [hmode, hlen] at hroom
    refine ⟨fun _ => .inr ?_, fun hleft _ => hok (hcaps hleft)⟩
    simpa [deniesNewIp] using hroom

end UserIpTracker

/-! ## Whole runs -/

/-- The tracker with a record of the connections that are admitted and not yet
released. -/
structure TrackedRun where
  tracker : UserIpTracker
  live : List (String × IpAddr)

inductive TrackerCall where
  | checkAndAdd (user : String) (ip : IpAddr) (clock : Clock)
  | removeIp (user : String) (ip : IpAddr) (clock : Clock)
  | enqueueCleanup (user : String) (ip : IpAddr)
  | drainCleanupQueue (orders : ShardIdx → ℕ → ℕ × ℕ)
  | maybeCompactEmptyUsers (clock : Clock)

namespace TrackedRun

open UserIpTracker

variable (shardIdx : String → ShardIdx)

def step (call : TrackerCall) (run : TrackedRun) : TrackedRun :=
  match call with
  | .checkAndAdd user ip clock =>
    let answer := run.tracker.checkAndAdd shardIdx user ip clock
    ⟨answer.2, admitted answer.1 (user, ip) run.live⟩
  | .removeIp user ip clock =>
    ⟨run.tracker.removeIp shardIdx user ip clock, run.live.erase (user, ip)⟩
  | .enqueueCleanup user ip =>
    ⟨run.tracker.enqueueCleanup shardIdx user ip, run.live.erase (user, ip)⟩
  | .drainCleanupQueue orders =>
    ⟨run.tracker.drainCleanupQueue orders, run.live⟩
  | .maybeCompactEmptyUsers clock =>
    ⟨run.tracker.maybeCompactEmptyUsers clock, run.live⟩

/-- Only an admitted connection that is not yet released is released. -/
def releasesLive (run : TrackedRun) : TrackerCall → Prop
  | .removeIp user ip _ => (user, ip) ∈ run.live
  | .enqueueCleanup user ip => (user, ip) ∈ run.live
  | _ => True

instance (run : TrackedRun) (call : TrackerCall) :
    Decidable (run.releasesLive call) :=
  match call with
  | .removeIp user ip _ => inferInstanceAs (Decidable ((user, ip) ∈ run.live))
  | .enqueueCleanup user ip => inferInstanceAs (Decidable ((user, ip) ∈ run.live))
  | .checkAndAdd _ _ _ => inferInstanceAs (Decidable True)
  | .drainCleanupQueue _ => inferInstanceAs (Decidable True)
  | .maybeCompactEmptyUsers _ => inferInstanceAs (Decidable True)

def start (maxIps : Table String ℕ) (defaultMaxIps limitWindowSecs : ℕ) :
    TrackedRun where
  tracker :=
    { UserIpTracker.new with
      maxIps := maxIps
      defaultMaxIps := defaultMaxIps
      limitMode := .activeWindow
      limitWindowSecs := limitWindowSecs }
  live := []

variable {shardIdx}

/-- What every step keeps: the accounts, the limits, and the bound on the
addresses of a limited user. -/
structure Sound (shardIdx : String → ShardIdx) (origin : UserIpTracker)
    (user : String) (limit : ℕ) (run : TrackedRun) : Prop where
  accounts : run.tracker.Accounts shardIdx run.live
  limits : SameLimits origin run.tracker
  bound : (liveIps run.live user).card ≤ limit

section

variable (live : List (String × IpAddr)) (connection : String × IpAddr) (user : String)

theorem card_liveIps_erase_le :
    (liveIps (live.erase connection) user).card ≤ (liveIps live user).card := by
  apply Finset.card_le_card
  intro ip hmem
  exact mem_liveIps.mpr (mem_of_mem_erase (mem_liveIps.mp hmem))

theorem card_liveIps_cons_le :
    (liveIps (connection :: live) user).card ≤ (liveIps live user).card + 1 := by
  have hsubset : liveIps (connection :: live) user ⊆
      insert connection.2 (liveIps live user) := by
    intro ip hmem
    rcases mem_cons.mp (mem_liveIps.mp hmem) with heq | hrest
    · exact Finset.mem_insert.mpr (.inl (by rw [← heq]))
    · exact Finset.mem_insert_of_mem (mem_liveIps.mpr hrest)
  exact (Finset.card_le_card hsubset).trans (Finset.card_insert_le _ _)

end

variable {user : String}

theorem liveIps_cons_of_mem {live : List (String × IpAddr)} {connection : String × IpAddr}
    (hknown : connection.1 = user → connection ∈ live) :
    liveIps (connection :: live) user = liveIps live user := by
  ext ip
  rw [mem_liveIps, mem_liveIps, mem_cons]
  constructor
  · rintro (heq | hrest)
    · subst heq
      exact hknown rfl
    · exact hrest
  · exact .inr

variable {origin : UserIpTracker} {limit : ℕ} {run : TrackedRun}

section

variable (hsound : Sound shardIdx origin user limit run) (hmode : origin.limitMode = .activeWindow)
  (hlimit : origin.userLimit user = some limit)
include hsound hmode hlimit

theorem Sound.checkAndAdd (caller : String) (ip : IpAddr) (clock : Clock) :
    Sound shardIdx origin user limit (step shardIdx (.checkAndAdd caller ip clock) run) := by
  obtain ⟨hafter, hsame⟩ := hsound.accounts.checkAndAdd caller ip clock
  refine ⟨hafter, hsound.limits.trans hsame, ?_⟩
  have hbound := hsound.bound
  change (liveIps (admitted (run.tracker.checkAndAdd shardIdx caller ip clock).1
    (caller, ip) run.live) user).card ≤ limit
  cases hanswer : (run.tracker.checkAndAdd shardIdx caller ip clock).1 with
  | error error => exact hbound
  | ok value =>
    by_cases hcaller : caller = user
    · subst hcaller
      have hallowed := (hsound.accounts.checkAndAdd_ok (hsound.limits.limitMode.trans hmode)
        ((hsound.limits.userLimit caller).trans hlimit) ip clock).1 hanswer
      rcases hallowed with hlive | hroom
      · rw [admitted, liveIps_cons_of_mem fun _ => hlive]
        exact hbound
      · exact (card_liveIps_cons_le _ _ _).trans hroom
    · rw [admitted, liveIps_cons_of_mem fun heq => absurd heq hcaller]
      exact hbound

/-- Every call keeps the accounts, the limits, and the bound on the addresses of the user. -/
theorem Sound.step {call : TrackerCall} (hcall : run.releasesLive call) :
    Sound shardIdx origin user limit (step shardIdx call run) := by
  cases call with
  | checkAndAdd caller ip clock =>
    exact hsound.checkAndAdd hmode hlimit caller ip clock
  | removeIp caller ip clock =>
    have hquiet := maybeCompactEmptyUsers_quiet run.tracker clock
    have hquieted := hsound.accounts.drained (hsound.accounts.booked.drains_quiet hquiet)
    exact ⟨hquieted.releaseOne hcall,
      (hsound.limits.trans hquiet.settled.limits).trans ⟨rfl, rfl, rfl⟩,
      (card_liveIps_erase_le _ _ _).trans hsound.bound⟩
  | enqueueCleanup caller ip =>
    exact ⟨hsound.accounts.enqueueCleanup hcall, hsound.limits.trans ⟨rfl, rfl, rfl⟩,
      (card_liveIps_erase_le _ _ _).trans hsound.bound⟩
  | drainCleanupQueue orders =>
    exact ⟨hsound.accounts.drained (hsound.accounts.booked.drainCleanupQueue orders),
      hsound.limits.trans (drainCleanupQueue_limits _ orders), hsound.bound⟩
  | maybeCompactEmptyUsers clock =>
    have hquiet := maybeCompactEmptyUsers_quiet run.tracker clock
    exact ⟨hsound.accounts.drained (hsound.accounts.booked.drains_quiet hquiet),
      hsound.limits.trans hquiet.settled.limits, hsound.bound⟩

end

theorem start_sound (maxIps : Table String ℕ)
    (defaultMaxIps limitWindowSecs : ℕ) (user : String) (limit : ℕ) :
    Sound shardIdx (start maxIps defaultMaxIps limitWindowSecs).tracker user
      limit (start maxIps defaultMaxIps limitWindowSecs) where
  accounts := by
    have hbooked : Booked shardIdx (start maxIps defaultMaxIps limitWindowSecs).tracker :=
      booked_new.same (fun _ => rfl) rfl rfl
    exact hbooked.accounts fun _ _ => rfl
  limits := .refl _
  bound := Nat.zero_le _

/-- Admission follows the live connections, through every sequence of calls
that releases no connection twice. -/
theorem admission_follows_live (shardIdx : String → ShardIdx)
    (maxIps : Table String ℕ) (defaultMaxIps limitWindowSecs : ℕ)
    (calls : List TrackerCall) {user : String} {limit : ℕ}
    (hcalls : Runs.Along (step shardIdx) releasesLive calls
      (start maxIps defaultMaxIps limitWindowSecs))
    (hlimit : (start maxIps defaultMaxIps limitWindowSecs).tracker.userLimit user = some limit) :
    let run := Runs.run (step shardIdx) calls
      (start maxIps defaultMaxIps limitWindowSecs)
    (liveIps run.live user).card ≤ limit ∧
    ∀ ip clock, run.tracker.capsLeft →
      ((run.tracker.checkAndAdd shardIdx user ip clock).1 = .ok () ↔
        (user, ip) ∈ run.live ∨ (liveIps run.live user).card < limit) := by
  intro run
  have hsound : Sound shardIdx
      (start maxIps defaultMaxIps limitWindowSecs).tracker user limit run := hcalls.invariant
      (fun _ _ hbefore hcall => hbefore.step rfl hlimit hcall)
      (start_sound maxIps defaultMaxIps limitWindowSecs user limit)
  refine ⟨hsound.bound, fun ip clock hcaps => ?_⟩
  obtain ⟨hok, hadmits⟩ := hsound.accounts.checkAndAdd_ok hsound.limits.limitMode
    ((hsound.limits.userLimit user).trans hlimit) ip clock
  exact ⟨hok, hadmits hcaps⟩

/-- Two connections from one address, one of them released through the queue,
and a second address against a limit of one. -/
def sampleCalls : List TrackerCall :=
  [.checkAndAdd "alice" (.v4 10 0 0 1) ⟨0, 100⟩,
    .checkAndAdd "alice" (.v4 10 0 0 1) ⟨10, 100⟩,
    .enqueueCleanup "alice" (.v4 10 0 0 1),
    .checkAndAdd "alice" (.v4 10 0 0 2) ⟨20, 100⟩]

def sampleShard (user : String) : ShardIdx :=
  ⟨user.length % userIpTrackerShards, Nat.mod_lt _ (by decide)⟩

theorem admission_follows_live_sample :
    let run := Runs.run (step sampleShard) sampleCalls (start ∅ 1 30)
    run.live = [("alice", .v4 10 0 0 1)] ∧
    ((run.tracker.checkAndAdd sampleShard "alice" (.v4 10 0 0 2)
        ⟨30, 100⟩).1 = .ok () ↔
      ("alice", .v4 10 0 0 2) ∈ run.live ∨
        (liveIps run.live "alice").card < 1) := by
  intro run
  have hcaps : run.tracker.capsLeft := by
    constructor <;> decide +kernel
  refine ⟨by decide +kernel, ?_⟩
  exact (admission_follows_live sampleShard ∅ 1 30 sampleCalls (by decide +kernel) rfl).2 _ _ hcaps

end TrackedRun

end TupoProxy.IpTracker
