import TupoProxy.IpTracker

/-!
# The accounts of the address tracker

The tracker keeps, for every user and address, the connections that are
admitted and not yet released together with the releases that still wait in
the queue.  Every operation of the tracker keeps these accounts.
-/

namespace TupoProxy.IpTracker

open Tally Function UserIpTracker

def releasedOf (releases : List (String × IpAddr × ℕ)) (user : String)
    (ip : IpAddr) : ℕ :=
  (releases.map fun release =>
    if release.1 = user ∧ release.2.1 = ip then release.2.2 else 0).sum

variable (activeIps : Book String IpAddr)

theorem applyActiveCleanup_book (owner user : String) (ip : IpAddr) (pendingCount : ℕ)
    (hpositive : Positive (ofOwner activeIps user)) :
    Positive (ofOwner (applyActiveCleanup activeIps owner ip pendingCount).1 user) ∧
      ∀ other, count (ofOwner (applyActiveCleanup activeIps owner ip pendingCount).1 user) other =
        count (ofOwner activeIps user) other -
          if owner = user ∧ ip = other then pendingCount else 0 := by
  unfold applyActiveCleanup
  split_ifs with hzero
  · exact ⟨hpositive, fun other => by simp [hzero]⟩
  · rw [ofOwner_release]
    split_ifs with huser
    · subst huser
      refine ⟨hpositive.take ip pendingCount, fun other => ?_⟩
      rw [count_take]
      by_cases hip : other = ip
      · simp [hip]
      · simp [hip, Ne.symm hip]
    · refine ⟨hpositive, fun other => ?_⟩
      simp [Ne.symm huser]

theorem applyCleanups_book (user : String)
    (releases : List (String × IpAddr × ℕ)) (hpositive : Positive (ofOwner activeIps user)) :
    Positive (ofOwner (applyCleanups activeIps releases).1 user) ∧
      ∀ ip, count (ofOwner (applyCleanups activeIps releases).1 user) ip =
        count (ofOwner activeIps user) ip - releasedOf releases user ip := by
  induction releases generalizing activeIps with
  | nil => exact ⟨hpositive, fun ip => rfl⟩
  | cons release releases ih =>
    obtain ⟨owner, released, pendingCount⟩ := release
    obtain ⟨hfirst, hcount⟩ := applyActiveCleanup_book activeIps owner user
      released pendingCount hpositive
    obtain ⟨hrest, hcounts⟩ := ih _ hfirst
    refine ⟨hrest, fun ip => ?_⟩
    have hstep := hcounts ip
    rw [hcount ip] at hstep
    simp only [releasedOf, List.map_cons, List.sum_cons] at hstep ⊢
    simp only [applyCleanups]
    omega

theorem popOneCleanup_book {order : ℕ × ℕ} {queue rest : Book String IpAddr}
    {popped : String × IpAddr × ℕ} (hpop : popOneCleanup order queue = some (popped, rest)) :
    size rest + 1 = size queue ∧
      ∀ user, (Positive (ofOwner queue user) → Positive (ofOwner rest user)) ∧
        ∀ ip, count (ofOwner rest user) ip + releasedOf [popped] user ip =
          count (ofOwner queue user) ip := by
  unfold popOneCleanup at hpop
  split at hpop
  · cases hpop
  · rename_i owner _
    simp only at hpop
    split at hpop
    · cases hpop
    · rename_i item _
      split at hpop
      · cases hpop
      · rename_i found hlookup
        obtain ⟨rfl, rfl⟩ := hpop
        have hlength := length_erase_add hlookup
        have hcount : count (ofOwner queue owner) item = found := by
          simp [count, hlookup]
        have howner : ∀ user, ofOwner
            (if ((ofOwner queue owner).erase item).entries.isEmpty then
              queue.erase owner
            else queue.insert owner ((ofOwner queue owner).erase item)) user =
            if user = owner then (ofOwner queue owner).erase item
            else ofOwner queue user := by
          intro user
          split_ifs with hempty huser huser
          · rw [ofOwner_erase, if_pos huser, eq_empty_of_isEmpty hempty]
          · rw [ofOwner_erase, if_neg huser]
          · rw [ofOwner_insert, if_pos huser]
          · rw [ofOwner_insert, if_neg huser]
        refine ⟨?_, fun user => ?_⟩
        · split_ifs with hempty
          · have hsize := size_erase_add queue owner
            have hnone : ((ofOwner queue owner).erase item).entries.length = 0 := by
              rw [List.isEmpty_iff.mp hempty]
              rfl
            omega
          · have hsize := size_insert_add queue owner ((ofOwner queue owner).erase item)
            omega
        · rw [howner user]
          split_ifs with huser
          · subst huser
            refine ⟨fun hpositive => hpositive.erase item, fun ip => ?_⟩
            rw [count_erase]
            by_cases hip : ip = item
            · simp [releasedOf, hip, hcount]
            · simp [releasedOf, hip, Ne.symm hip]
          · refine ⟨id, fun ip => ?_⟩
            simp [releasedOf, Ne.symm huser]

theorem popCleanups_book (orders : ℕ → ℕ × ℕ) (left : ℕ) (queue : Book String IpAddr) :
    size (popCleanups orders left queue).2 + (popCleanups orders left queue).1.length = size queue ∧
      ∀ user, (Positive (ofOwner queue user) →
          Positive (ofOwner (popCleanups orders left queue).2 user)) ∧
        ∀ ip, count (ofOwner (popCleanups orders left queue).2 user) ip +
            releasedOf (popCleanups orders left queue).1 user ip =
          count (ofOwner queue user) ip := by
  induction left generalizing queue with
  | zero => exact ⟨rfl, fun user => ⟨id, fun ip => rfl⟩⟩
  | succ left ih =>
    simp only [popCleanups]
    split
    · exact ⟨rfl, fun user => ⟨id, fun ip => rfl⟩⟩
    · rename_i popped rest hpop
      obtain ⟨hsize, hbook⟩ := popOneCleanup_book hpop
      obtain ⟨hsizes, hbooks⟩ := ih rest
      refine ⟨?_, fun user => ⟨fun hpositive =>
        (hbooks user).1 ((hbook user).1 hpositive), fun ip => ?_⟩⟩
      · simp only [List.length_cons]
        omega
      · have hone := (hbook user).2 ip
        have hmore := (hbooks user).2 ip
        simp only [releasedOf, List.map_cons, List.map_nil, List.sum_cons,
          List.sum_nil] at hone hmore ⊢
        omega

variable (shard : UserIpShard)

theorem ofOwner_compactUser (user other : String) :
    ofOwner (shard.compactUser user).activeIps other = ofOwner shard.activeIps other := by
  unfold UserIpShard.compactUser
  simp only [Bool.and_eq_true]
  split_ifs with hempty
  · rw [ofOwner_erase]
    split_ifs with heq
    · rw [heq, eq_empty_of_isEmpty hempty.1]
    · rfl
  · rfl

theorem ofOwner_compact (now window : ℕ) (other : String) :
    ofOwner (shard.compact now window).1.activeIps other = ofOwner shard.activeIps other := by
  unfold UserIpShard.compact
  simp only
  generalize shard.activeIps.keys ++ _ = users
  have hfold : ∀ start : UserIpShard,
      ofOwner (users.foldl UserIpShard.compactUser start).activeIps other =
        ofOwner start.activeIps other := by
    induction users with
    | nil => exact fun start => rfl
    | cons user users ih =>
      intro start
      rw [List.foldl_cons, ih, ofOwner_compactUser]
  exact hfold _

namespace UserIpTracker

structure SameLimits (before after : UserIpTracker) : Prop where
  maxIps : after.maxIps = before.maxIps
  defaultMaxIps : after.defaultMaxIps = before.defaultMaxIps
  limitMode : after.limitMode = before.limitMode

theorem SameLimits.refl (tracker : UserIpTracker) : SameLimits tracker tracker :=
  ⟨rfl, rfl, rfl⟩

variable {first second third after : UserIpTracker} {user : String} {ip : IpAddr}

theorem SameLimits.trans (hleft : SameLimits first second) (hright : SameLimits second third) :
    SameLimits first third where
  maxIps := hright.maxIps.trans hleft.maxIps
  defaultMaxIps := hright.defaultMaxIps.trans hleft.defaultMaxIps
  limitMode := hright.limitMode.trans hleft.limitMode

theorem SameLimits.userLimit {before : UserIpTracker} (hlimits : SameLimits before after)
    (username : String) : after.userLimit username = before.userLimit username := by
  unfold UserIpTracker.userLimit
  rw [hlimits.maxIps, hlimits.defaultMaxIps]

/-- The limits are kept and no counter of entries rises. -/
structure Settled (before after : UserIpTracker) : Prop where
  limits : SameLimits before after
  activeEntryCount : after.activeEntryCount ≤ before.activeEntryCount
  recentEntryCount : after.recentEntryCount ≤ before.recentEntryCount

theorem Settled.refl (tracker : UserIpTracker) : Settled tracker tracker :=
  ⟨.refl tracker, Nat.le_refl _, Nat.le_refl _⟩

theorem Settled.trans (hleft : Settled first second) (hright : Settled second third) :
    Settled first third where
  limits := hleft.limits.trans hright.limits
  activeEntryCount := hright.activeEntryCount.trans hleft.activeEntryCount
  recentEntryCount := hright.recentEntryCount.trans hleft.recentEntryCount

/-- A step that no account can see. -/
structure Quiet (before after : UserIpTracker) : Prop where
  settled : Settled before after
  active : ∀ idx user, ofOwner (after.shards idx).activeIps user =
    ofOwner (before.shards idx).activeIps user
  cleanupShards : after.cleanupShards = before.cleanupShards
  cleanupQueueLen : after.cleanupQueueLen = before.cleanupQueueLen

theorem Quiet.refl (tracker : UserIpTracker) : Quiet tracker tracker :=
  ⟨.refl tracker, fun _ _ => rfl, rfl, rfl⟩

theorem Quiet.trans (hleft : Quiet first second) (hright : Quiet second third) :
    Quiet first third where
  settled := hleft.settled.trans hright.settled
  active idx user := (hright.active idx user).trans (hleft.active idx user)
  cleanupShards := hright.cleanupShards.trans hleft.cleanupShards
  cleanupQueueLen := hright.cleanupQueueLen.trans hleft.cleanupQueueLen

theorem compactShard_quiet (tracker : UserIpTracker) (now : ℕ)
    (idx : ShardIdx) : Quiet tracker (tracker.compactShard now idx) where
  settled := ⟨⟨rfl, rfl, rfl⟩, Nat.le_refl _, Nat.sub_le _ _⟩
  active other user := by
    simp only [compactShard, setShard]
    by_cases heq : other = idx
    · subst heq
      rw [update_self, ofOwner_compact]
    · rw [update_of_ne heq]
  cleanupShards := rfl
  cleanupQueueLen := rfl

theorem maybeCompactEmptyUsers_quiet (tracker : UserIpTracker)
    (clock : Clock) : Quiet tracker (tracker.maybeCompactEmptyUsers clock) := by
  unfold maybeCompactEmptyUsers
  split_ifs
  · exact .refl tracker
  · have hstart : Quiet tracker
        { tracker with lastCompactEpochSecs := clock.epochSecs } :=
      ⟨⟨⟨rfl, rfl, rfl⟩, Nat.le_refl _, Nat.le_refl _⟩, fun _ _ => rfl, rfl, rfl⟩
    apply List.foldlRecOn _ _ hstart
    intro middle hmiddle idx _
    exact hmiddle.trans (compactShard_quiet middle clock.now idx)

variable (shardIdx : String → ShardIdx)

theorem prepareUser_quiet (tracker : UserIpTracker) (username : String)
    (now : ℕ) : Quiet tracker (tracker.prepareUser shardIdx username now) where
  settled := ⟨⟨rfl, rfl, rfl⟩, Nat.le_refl _, Nat.sub_le _ _⟩
  active other user := by
    simp only [prepareUser, setShard]
    by_cases heq : other = shardIdx username
    · subst heq
      rw [update_self, ofOwner_orDefault]
    · rw [update_of_ne heq]
  cleanupShards := rfl
  cleanupQueueLen := rfl

def activeOf (tracker : UserIpTracker) (user : String) : Table IpAddr ℕ :=
  ofOwner (tracker.shards (shardIdx user)).activeIps user

def pendingOf (tracker : UserIpTracker) (user : String) : Table IpAddr ℕ :=
  ofOwner (tracker.cleanupShards (shardIdx user)) user

def queued (tracker : UserIpTracker) : ℕ :=
  ∑ idx, size (tracker.cleanupShards idx)

/-- No count is kept at zero, and the queue knows its length. -/
structure Booked (tracker : UserIpTracker) : Prop where
  activePositive : ∀ user, Positive (tracker.activeOf shardIdx user)
  pendingPositive : ∀ idx user,
    Positive (ofOwner (tracker.cleanupShards idx) user)
  queueLen : tracker.cleanupQueueLen = tracker.queued

/-- What is counted is what is live and what waits to be released. -/
structure Accounts (tracker : UserIpTracker) (live : List (String × IpAddr)) :
    Prop where
  counts : ∀ user ip, count (tracker.activeOf shardIdx user) ip =
    live.count (user, ip) + count (tracker.pendingOf shardIdx user) ip
  activePositive : ∀ user, Positive (tracker.activeOf shardIdx user)
  pendingPositive : ∀ idx user,
    Positive (ofOwner (tracker.cleanupShards idx) user)
  queueLen : tracker.cleanupQueueLen = tracker.queued

variable {shardIdx} {tracker : UserIpTracker} {live : List (String × IpAddr)}

theorem Accounts.booked (haccounts : Accounts shardIdx tracker live) : Booked shardIdx tracker :=
  ⟨haccounts.activePositive, haccounts.pendingPositive, haccounts.queueLen⟩

theorem Booked.accounts (hbooked : Booked shardIdx tracker)
    (hcounts : ∀ user ip, count (tracker.activeOf shardIdx user) ip =
      live.count (user, ip) + count (tracker.pendingOf shardIdx user) ip) :
    Accounts shardIdx tracker live :=
  ⟨hcounts, hbooked.activePositive, hbooked.pendingPositive, hbooked.queueLen⟩

theorem booked_new : Booked shardIdx UserIpTracker.new where
  activePositive := fun _ => positive_empty
  pendingPositive := fun _ _ => positive_empty
  queueLen := by
    change 0 = ∑ idx : ShardIdx, size (∅ : Book String IpAddr)
    simp [size, Table.total]

theorem Quiet.activeOf (hquiet : Quiet tracker after) (user : String) :
    after.activeOf shardIdx user = tracker.activeOf shardIdx user :=
  hquiet.active _ user

theorem Quiet.pendingOf (hquiet : Quiet tracker after) (user : String) :
    after.pendingOf shardIdx user = tracker.pendingOf shardIdx user := by
  unfold UserIpTracker.pendingOf
  rw [hquiet.cleanupShards]

theorem Booked.same (hbooked : Booked shardIdx tracker)
    (hactive : ∀ user, after.activeOf shardIdx user = tracker.activeOf shardIdx user)
    (hcleanup : after.cleanupShards = tracker.cleanupShards)
    (hlen : after.cleanupQueueLen = tracker.cleanupQueueLen) :
    Booked shardIdx after where
  activePositive user := by
    rw [hactive]
    exact hbooked.activePositive user
  pendingPositive := by
    rw [hcleanup]
    exact hbooked.pendingPositive
  queueLen := by
    unfold queued
    rw [hlen, hcleanup]
    exact hbooked.queueLen

theorem Booked.quiet (hbooked : Booked shardIdx tracker) (hquiet : Quiet tracker after) :
    Booked shardIdx after :=
  hbooked.same hquiet.activeOf hquiet.cleanupShards hquiet.cleanupQueueLen

theorem sum_update_size (books : ShardIdx → Book String IpAddr)
    (idx : ShardIdx) (book : Book String IpAddr) :
    ∑ other, size (Function.update books idx book other) + size (books idx) =
      size book + ∑ other, size (books other) := by
  have hupdate : ∀ other, size (update books idx book other) =
      update (fun other => size (books other)) idx (size book) other := by
    intro other
    by_cases heq : other = idx
    · subst heq
      rw [update_self, update_self]
    · rw [update_of_ne heq, update_of_ne heq]
  have hrest := Finset.add_sum_erase Finset.univ
    (fun other => size (books other)) (Finset.mem_univ idx)
  rw [Finset.sum_congr rfl fun other _ => hupdate other,
    Finset.sum_update_of_mem (Finset.mem_univ idx), ← Finset.erase_eq]
  omega

/-! ## Releases -/

theorem activeOf_releaseActive (tracker : UserIpTracker) (idx : ShardIdx)
    (releases : List (String × IpAddr × ℕ)) (user : String) :
    (tracker.releaseActive idx releases).activeOf shardIdx user =
      if shardIdx user = idx then
        ofOwner (applyCleanups (tracker.shards idx).activeIps releases).1 user
      else tracker.activeOf shardIdx user := by
  unfold activeOf releaseActive setShard
  simp only
  split_ifs with heq
  · subst heq
    rw [update_self]
  · rw [update_of_ne heq]

theorem releaseActive_nil (tracker : UserIpTracker) (idx : ShardIdx) :
    tracker.releaseActive idx [] = tracker := by
  simp [releaseActive, setShard, applyCleanups]

/-- What releases in one shard take off the count of a user and address. -/
def releasedIn (shardIdx : String → ShardIdx) (idx : ShardIdx)
    (releases : List (String × IpAddr × ℕ)) (user : String) (ip : IpAddr) : ℕ :=
  if shardIdx user = idx then releasedOf releases user ip else 0

section

variable (hbooked : Booked shardIdx tracker) (idx : ShardIdx)
  (releases : List (String × IpAddr × ℕ))
include hbooked

theorem Booked.count_releaseActive (user : String) (ip : IpAddr) :
    count ((tracker.releaseActive idx releases).activeOf shardIdx user) ip =
      count (tracker.activeOf shardIdx user) ip - releasedIn shardIdx idx releases user ip := by
  have hpositive := hbooked.activePositive user
  rw [activeOf_releaseActive, releasedIn]
  split_ifs with heq
  · subst heq
    exact (applyCleanups_book _ user releases hpositive).2 ip
  · rfl

theorem Booked.releaseActive :
    Booked shardIdx (tracker.releaseActive idx releases) where
  activePositive user := by
    have hpositive := hbooked.activePositive user
    rw [activeOf_releaseActive]
    split_ifs with heq
    · subst heq
      exact (applyCleanups_book _ user releases hpositive).1
    · exact hpositive
  pendingPositive := hbooked.pendingPositive
  queueLen := hbooked.queueLen

end

variable {idx : ShardIdx} {queue : Book String IpAddr} {amount : ℕ}

theorem Booked.dequeue (hbooked : Booked shardIdx tracker)
    (hsize : size queue + amount = size (tracker.cleanupShards idx))
    (hpositive : ∀ user, Positive (ofOwner (tracker.cleanupShards idx) user) →
      Positive (ofOwner queue user)) :
    Booked shardIdx
      { tracker with
        cleanupShards := Function.update tracker.cleanupShards idx queue
        cleanupQueueLen := tracker.cleanupQueueLen - amount } where
  activePositive := hbooked.activePositive
  pendingPositive other user := by
    dsimp only
    by_cases heq : other = idx
    · subst heq
      rw [update_self]
      exact hpositive user (hbooked.pendingPositive other user)
    · rw [update_of_ne heq]
      exact hbooked.pendingPositive other user
  queueLen := by
    have hlen := hbooked.queueLen
    have hsum := sum_update_size tracker.cleanupShards idx queue
    simp only [queued] at hlen ⊢
    omega

/-- Waiting releases are taken off the counts, for each user and address some
of them or all. -/
structure Drains (shardIdx : String → ShardIdx) (before after : UserIpTracker) : Prop where
  booked : Booked shardIdx after
  moved : ∀ user ip, ∃ amount,
    count (after.activeOf shardIdx user) ip =
        count (before.activeOf shardIdx user) ip - amount ∧
      count (after.pendingOf shardIdx user) ip + amount =
        count (before.pendingOf shardIdx user) ip

theorem Drains.trans (hleft : Drains shardIdx first second)
    (hright : Drains shardIdx second third) :
    Drains shardIdx first third where
  booked := hright.booked
  moved user ip := by
    obtain ⟨earlier, hactive, hpending⟩ := hleft.moved user ip
    obtain ⟨later, hactive', hpending'⟩ := hright.moved user ip
    exact ⟨earlier + later, by omega, by omega⟩

theorem Booked.drains_quiet (hbooked : Booked shardIdx tracker) (hquiet : Quiet tracker after) :
    Drains shardIdx tracker after where
  booked := hbooked.quiet hquiet
  moved user ip := by
    refine ⟨0, ?_, ?_⟩
    · rw [hquiet.activeOf]
      rfl
    · rw [hquiet.pendingOf]
      rfl

theorem Accounts.drained (haccounts : Accounts shardIdx tracker live)
    (hdrains : Drains shardIdx tracker after) : Accounts shardIdx after live := by
  apply hdrains.booked.accounts
  intro user ip
  have hcounts := haccounts.counts user ip
  obtain ⟨amount, hactive, hpending⟩ := hdrains.moved user ip
  omega

/-- Releases leave the queue and are not yet taken off the counts. -/
structure Takes (shardIdx : String → ShardIdx) (before after : UserIpTracker) (idx : ShardIdx)
    (releases : List (String × IpAddr × ℕ)) : Prop where
  booked : Booked shardIdx after
  active : ∀ user, after.activeOf shardIdx user = before.activeOf shardIdx user
  pending : ∀ user ip,
    count (after.pendingOf shardIdx user) ip + releasedIn shardIdx idx releases user ip =
      count (before.pendingOf shardIdx user) ip

variable {releases : List (String × IpAddr × ℕ)}

theorem Booked.take (hbooked : Booked shardIdx tracker)
    (hsize : size queue + amount = size (tracker.cleanupShards idx))
    (hbook : ∀ user, (Positive (ofOwner (tracker.cleanupShards idx) user) →
        Positive (ofOwner queue user)) ∧
      ∀ ip, count (ofOwner queue user) ip + releasedOf releases user ip =
        count (ofOwner (tracker.cleanupShards idx) user) ip) :
    Takes shardIdx tracker
      { tracker with
        cleanupShards := Function.update tracker.cleanupShards idx queue
        cleanupQueueLen := tracker.cleanupQueueLen - amount } idx releases where
  booked := hbooked.dequeue hsize fun user => (hbook user).1
  active := fun _ => rfl
  pending user ip := by
    unfold pendingOf releasedIn
    dsimp only
    split_ifs with heq
    · subst heq
      rw [update_self]
      exact (hbook user).2 ip
    · rw [update_of_ne heq]
      rfl

theorem Takes.drains (htakes : Takes shardIdx tracker after idx releases) :
    Drains shardIdx tracker (after.releaseActive idx releases) where
  booked := htakes.booked.releaseActive idx releases
  moved user ip := by
    refine ⟨releasedIn shardIdx idx releases user ip, ?_, htakes.pending user ip⟩
    rw [htakes.booked.count_releaseActive, htakes.active]

theorem releasedOf_rows (tally : Table IpAddr ℕ) (owner user : String) (ip : IpAddr) :
    releasedOf (tally.entries.map fun row => (owner, row.1, row.2)) user ip =
      if owner = user then count tally ip else 0 := by
  unfold releasedOf
  split_ifs with heq
  · rw [← sum_rows]
    simp [Table.total, heq, comp_def]
  · simp [heq, comp_def]

theorem Booked.takeCleanupForUser (hbooked : Booked shardIdx tracker) (user : String) :
    Takes shardIdx tracker (tracker.takeCleanupForUser shardIdx user).2 (shardIdx user)
      (tracker.takeCleanupForUser shardIdx user).1 := by
  unfold UserIpTracker.takeCleanupForUser
  split_ifs with hlen
  · exact ⟨hbooked, fun _ => rfl, fun _ _ => by simp [releasedIn, releasedOf]⟩
  · apply hbooked.take (size_erase_add (tracker.cleanupShards (shardIdx user)) user)
    intro other
    rw [ofOwner_erase]
    by_cases heq : other = user
    · subst heq
      rw [if_pos rfl]
      refine ⟨fun _ => positive_empty, fun ip => ?_⟩
      rw [releasedOf_rows, if_pos rfl, count_empty, Nat.zero_add]
    · rw [if_neg heq]
      refine ⟨id, fun ip => ?_⟩
      rw [releasedOf_rows, if_neg (Ne.symm heq)]
      rfl

theorem drainCleanupForUser_eq (tracker : UserIpTracker) (user : String) :
    tracker.drainCleanupForUser shardIdx user =
      (tracker.takeCleanupForUser shardIdx user).2.releaseActive (shardIdx user)
        (tracker.takeCleanupForUser shardIdx user).1 := by
  unfold drainCleanupForUser takeCleanupForUser
  split_ifs with hlen
  · exact (releaseActive_nil _ _).symm
  · dsimp only
    split_ifs with hempty
    · rw [List.isEmpty_iff.mp hempty, List.map_nil, releaseActive_nil]
      rfl
    · rfl

section

variable (hbooked : Booked shardIdx tracker)
include hbooked

theorem Booked.drainCleanupForUser (user : String) :
    Drains shardIdx tracker (tracker.drainCleanupForUser shardIdx user) := by
  rw [drainCleanupForUser_eq]
  exact (hbooked.takeCleanupForUser user).drains

theorem Booked.takeCleanupShard (orders : ℕ → ℕ × ℕ) (idx : ShardIdx) :
    Takes shardIdx tracker (tracker.takeCleanupShard orders idx).2 idx
      (tracker.takeCleanupShard orders idx).1 := by
  obtain ⟨hsize, hbook⟩ := popCleanups_book orders cleanupDrainBatchLimit
    (tracker.cleanupShards idx)
  exact hbooked.take hsize hbook

theorem Booked.drainCleanupShard (orders : ℕ → ℕ × ℕ) (idx : ShardIdx) :
    Drains shardIdx tracker (tracker.drainCleanupShard orders idx) :=
  (hbooked.takeCleanupShard orders idx).drains

theorem Booked.drainCleanupQueue (orders : ShardIdx → ℕ → ℕ × ℕ) :
    Drains shardIdx tracker (tracker.drainCleanupQueue orders) := by
  have hnone := hbooked.drains_quiet (.refl tracker)
  unfold UserIpTracker.drainCleanupQueue
  split_ifs with hlen
  · exact hnone
  · apply List.foldlRecOn _ _ hnone
    intro middle hmiddle idx _
    exact hmiddle.trans (hmiddle.booked.drainCleanupShard (orders idx) idx)

end

theorem drainCleanupForUser_settled (tracker : UserIpTracker) (user : String) :
    Settled tracker (tracker.drainCleanupForUser shardIdx user) := by
  unfold drainCleanupForUser
  split_ifs
  · exact .refl tracker
  · simp only
    split_ifs
    · exact ⟨⟨rfl, rfl, rfl⟩, Nat.le_refl _, Nat.le_refl _⟩
    · exact ⟨⟨rfl, rfl, rfl⟩, Nat.sub_le _ _, Nat.le_refl _⟩

theorem drainCleanupQueue_limits (tracker : UserIpTracker) (orders : ShardIdx → ℕ → ℕ × ℕ) :
    SameLimits tracker (tracker.drainCleanupQueue orders) := by
  unfold drainCleanupQueue
  split_ifs
  · exact .refl tracker
  · apply List.foldlRecOn _ _ (SameLimits.refl tracker)
    intro middle hmiddle idx _
    have hstep : SameLimits middle (middle.drainCleanupShard (orders idx) idx) := ⟨rfl, rfl, rfl⟩
    exact hmiddle.trans hstep

theorem Booked.pendingOf_empty (hbooked : Booked shardIdx tracker)
    (hlen : tracker.cleanupQueueLen = 0) (user : String) : tracker.pendingOf shardIdx user = ∅ := by
  have hsizes : size (tracker.cleanupShards (shardIdx user)) ≤ tracker.queued :=
    Finset.single_le_sum (f := fun idx => size (tracker.cleanupShards idx))
      (fun _ _ => Nat.zero_le _) (Finset.mem_univ (shardIdx user))
  have hrows := length_ofOwner_le (tracker.cleanupShards (shardIdx user)) user
  have hqueue := hbooked.queueLen
  apply eq_empty_of_isEmpty
  rw [List.isEmpty_iff, ← List.length_eq_zero_iff]
  unfold pendingOf
  omega

theorem Booked.pendingOf_drained (hbooked : Booked shardIdx tracker) (user : String) (ip : IpAddr) :
    count ((tracker.drainCleanupForUser shardIdx user).pendingOf shardIdx user) ip = 0 := by
  unfold UserIpTracker.drainCleanupForUser
  split_ifs with hlen
  · rw [hbooked.pendingOf_empty hlen]
    rfl
  · unfold pendingOf
    simp only
    split_ifs
    · simp only [update_self, ofOwner_erase, if_true, count_empty]
    · simp only [UserIpTracker.releaseActive, setShard, update_self, ofOwner_erase,
        if_true, count_empty]

theorem count_erase_of_mem {live : List (String × IpAddr)} (hlive : (user, ip) ∈ live)
    (other : String) (otherIp : IpAddr) :
    live.count (other, otherIp) = (live.erase (user, ip)).count (other, otherIp) +
      if other = user ∧ otherIp = ip then 1 else 0 := by
  have hpos := List.count_pos_iff.mpr hlive
  split_ifs with heq
  · obtain ⟨rfl, rfl⟩ := heq
    rw [List.count_erase_self]
    omega
  · rw [List.count_erase_of_ne (by simpa using heq)]
    rfl

theorem count_enqueueCleanup (tracker : UserIpTracker) (user : String) (ip : IpAddr)
    (other : String) (otherIp : IpAddr) :
    count ((tracker.enqueueCleanup shardIdx user ip).pendingOf shardIdx other) otherIp =
      count (tracker.pendingOf shardIdx other) otherIp +
        if other = user ∧ otherIp = ip then 1 else 0 := by
  unfold pendingOf enqueueCleanup
  simp only
  by_cases hshard : shardIdx other = shardIdx user
  · rw [hshard, update_self, ofOwner_insert]
    by_cases hother : other = user
    · subst hother
      rw [if_pos rfl, count_insert]
      by_cases hip : otherIp = ip
      · simp [hip]
      · simp [hip]
    · simp [hother]
  · have hother : other ≠ user := fun heq => hshard (by rw [heq])
    rw [update_of_ne hshard]
    simp [hother]

theorem Booked.enqueueCleanup (hbooked : Booked shardIdx tracker) (user : String)
    (ip : IpAddr) : Booked shardIdx (tracker.enqueueCleanup shardIdx user ip) where
  activePositive := hbooked.activePositive
  pendingPositive idx other := by
    unfold UserIpTracker.enqueueCleanup
    simp only
    by_cases hshard : idx = shardIdx user
    · subst hshard
      rw [update_self, ofOwner_insert]
      split_ifs with hother
      · exact (hbooked.pendingPositive _ user).insert ip (Nat.succ_pos _)
      · exact hbooked.pendingPositive _ other
    · rw [update_of_ne hshard]
      exact hbooked.pendingPositive idx other
  queueLen := by
    have hlen := hbooked.queueLen
    have hpositive := hbooked.pendingPositive (shardIdx user) user
    unfold UserIpTracker.enqueueCleanup queued at *
    simp only
    have hsum := sum_update_size tracker.cleanupShards (shardIdx user)
      ((tracker.cleanupShards (shardIdx user)).insert user
        ((ofOwner (tracker.cleanupShards (shardIdx user)) user).insert ip
          (count (ofOwner (tracker.cleanupShards (shardIdx user)) user) ip + 1)))
    have hinsert := size_insert_add (tracker.cleanupShards (shardIdx user)) user
      ((ofOwner (tracker.cleanupShards (shardIdx user)) user).insert ip
        (count (ofOwner (tracker.cleanupShards (shardIdx user)) user) ip + 1))
    cases hlookup : (ofOwner (tracker.cleanupShards (shardIdx user)) user).lookup ip with
    | none =>
      have hzero : count (ofOwner (tracker.cleanupShards (shardIdx user))
          user) ip = 0 := by
        simp [count, hlookup]
      rw [length_insert_new _ hlookup] at hinsert
      rw [if_pos hzero]
      omega
    | some found =>
      have hfound : count (ofOwner (tracker.cleanupShards (shardIdx user))
          user) ip = found := by
        simp [count, hlookup]
      have hpos := hpositive ip found hlookup
      rw [length_insert_replace _ hlookup] at hinsert
      rw [if_neg (by omega)]
      omega

theorem Accounts.enqueueCleanup (haccounts : Accounts shardIdx tracker live)
    (hlive : (user, ip) ∈ live) :
    Accounts shardIdx (tracker.enqueueCleanup shardIdx user ip) (live.erase (user, ip)) := by
  apply (haccounts.booked.enqueueCleanup user ip).accounts
  intro other otherIp
  have hcounts := haccounts.counts other otherIp
  have herased := count_erase_of_mem hlive other otherIp
  rw [count_enqueueCleanup]
  change count (tracker.activeOf shardIdx other) otherIp = _
  omega

theorem Booked.count_releaseOne (hbooked : Booked shardIdx tracker) (user : String)
    (ip : IpAddr) (other : String) (otherIp : IpAddr) :
    count ((tracker.releaseActive (shardIdx user) [(user, ip, 1)]).activeOf shardIdx
        other) otherIp = count (tracker.activeOf shardIdx other) otherIp -
        if other = user ∧ otherIp = ip then 1 else 0 := by
  rw [hbooked.count_releaseActive]
  have hreleased : releasedIn shardIdx (shardIdx user) [(user, ip, 1)] other otherIp =
      if other = user ∧ otherIp = ip then 1 else 0 := by
    simp only [releasedIn, releasedOf, List.map_cons, List.map_nil, List.sum_cons, List.sum_nil,
      Nat.add_zero]
    by_cases hsame : other = user ∧ otherIp = ip
    · obtain ⟨rfl, rfl⟩ := hsame
      simp
    · have hdiffer : ¬ (user = other ∧ ip = otherIp) := fun heq => hsame ⟨heq.1.symm, heq.2.symm⟩
      rw [if_neg hsame, if_neg hdiffer, ite_self]
  rw [hreleased]

/-- A release gives back one live connection. -/
theorem Accounts.releaseOne (haccounts : Accounts shardIdx tracker live)
    (hlive : (user, ip) ∈ live) :
    Accounts shardIdx (tracker.releaseActive (shardIdx user) [(user, ip, 1)])
      (live.erase (user, ip)) := by
  apply (haccounts.booked.releaseActive _ _).accounts
  intro other otherIp
  have hcounts := haccounts.counts other otherIp
  have herased := count_erase_of_mem hlive other otherIp
  rw [haccounts.booked.count_releaseOne]
  change _ = _ + count (tracker.pendingOf shardIdx other) otherIp
  omega

/-! ## Admissions -/

def admitted (answer : Except IpTrackerError Unit)
    (connection : String × IpAddr) (live : List (String × IpAddr)) :
    List (String × IpAddr) :=
  match answer with
  | .ok _ => connection :: live
  | .error _ => live

/-- What holds of a tracker in which the entries of a user are prepared. -/
structure Prepared (shardIdx : String → ShardIdx) (tracker : UserIpTracker)
    (user : String) : Prop where
  active : (tracker.shards (shardIdx user)).activeIps.lookup user =
    some (tracker.activeOf shardIdx user)
  recent : ∃ userRecent,
    (tracker.shards (shardIdx user)).recentIps.lookup user = some userRecent

theorem prepareUser_prepared (tracker : UserIpTracker) (user : String) (now : ℕ) :
    Prepared shardIdx (tracker.prepareUser shardIdx user now) user where
  active := by
    have hquiet := prepareUser_quiet shardIdx tracker user now
    unfold activeOf
    rw [hquiet.active]
    simp only [prepareUser, setShard, update_self, lookup_orDefault]
  recent := by
    simp only [prepareUser, setShard, update_self, AList.lookup_insert]
    exact ⟨_, rfl⟩

def capsLeft (tracker : UserIpTracker) : Prop :=
  tracker.activeEntryCount < maxActiveIpEntries ∧
    tracker.recentEntryCount < maxRecentIpEntries

/-- An answer counts the connection if it admits it, and changes no other
count. -/
structure Admission (shardIdx : String → ShardIdx) (before : UserIpTracker)
    (user : String) (ip : IpAddr)
    (answer : Except IpTrackerError Unit × UserIpTracker) : Prop where
  booked : Booked shardIdx answer.2
  active : ∀ other otherIp, count (answer.2.activeOf shardIdx other) otherIp =
    count (before.activeOf shardIdx other) otherIp +
      if answer.1.isOk ∧ other = user ∧ otherIp = ip then 1 else 0
  pending : ∀ other, answer.2.pendingOf shardIdx other = before.pendingOf shardIdx other
  limits : SameLimits before answer.2
  fits : before.capsLeft → answer.1 = .ok ()

theorem Booked.refuse (hbooked : Booked shardIdx tracker) (error : IpTrackerError)
    (hshards : after.shards = tracker.shards)
    (hcleanup : after.cleanupShards = tracker.cleanupShards)
    (hlen : after.cleanupQueueLen = tracker.cleanupQueueLen)
    (hlimits : SameLimits tracker after) (hcaps : ¬ tracker.capsLeft) :
    Admission shardIdx tracker user ip (.error error, after) := by
  have hactive : ∀ other, after.activeOf shardIdx other = tracker.activeOf shardIdx other := by
    intro other
    unfold activeOf
    rw [hshards]
  refine ⟨hbooked.same hactive hcleanup hlen, ?_, ?_, hlimits, fun hleft => absurd hleft hcaps⟩
  · intro other otherIp
    rw [hactive, if_neg]
    · rfl
    · intro hok
      exact Bool.false_ne_true hok.1
  · intro other
    unfold pendingOf
    rw [hcleanup]

theorem Booked.enter (hbooked : Booked shardIdx tracker)
    (hactive : (after.shards (shardIdx user)).activeIps =
      (tracker.shards (shardIdx user)).activeIps.insert user
        ((tracker.activeOf shardIdx user).insert ip
          (count (tracker.activeOf shardIdx user) ip + 1))) (hothers : ∀ idx, idx ≠ shardIdx user →
      after.shards idx = tracker.shards idx)
    (hcleanup : after.cleanupShards = tracker.cleanupShards)
    (hlen : after.cleanupQueueLen = tracker.cleanupQueueLen) (hlimits : SameLimits tracker after) :
    Admission shardIdx tracker user ip (.ok (), after) := by
  have hafter : ∀ other, after.activeOf shardIdx other =
      if other = user then (tracker.activeOf shardIdx user).insert ip
        (count (tracker.activeOf shardIdx user) ip + 1)
      else tracker.activeOf shardIdx other := by
    intro other
    unfold activeOf at hactive ⊢
    by_cases hshard : shardIdx other = shardIdx user
    · rw [hshard, hactive, ofOwner_insert]
    · have hother : other ≠ user := fun heq => hshard (by rw [heq])
      rw [hothers _ hshard, if_neg hother]
  exact {
    booked :=
      { activePositive := fun other => by
          rw [hafter]
          split_ifs with hother
          · exact (hbooked.activePositive user).insert ip (Nat.succ_pos _)
          · exact hbooked.activePositive other
        pendingPositive := by
          rw [hcleanup]
          exact hbooked.pendingPositive
        queueLen := by
          unfold queued
          rw [hlen, hcleanup]
          exact hbooked.queueLen }
    active := fun other otherIp => by
      rw [hafter]
      by_cases hother : other = user
      · subst hother
        rw [if_pos rfl, count_insert]
        by_cases hip : otherIp = ip
        · simp [hip, Except.isOk, Except.toBool]
        · simp [hip]
      · simp [hother]
    pending := fun other => by
      unfold pendingOf
      rw [hcleanup]
    limits := hlimits
    fits := fun _ => rfl }

theorem recentEntry_some {needed : Bool} (hcaps : tracker.recentEntryCount < maxRecentIpEntries) :
    (if needed then
        tryIncrementCounter tracker.recentEntryCount maxRecentIpEntries
      else some tracker.recentEntryCount) ≠ none := by
  unfold tryIncrementCounter
  split_ifs <;> simp

theorem Booked.addToActive (hbooked : Booked shardIdx tracker) (now : ℕ)
    (recentContainsIp : Bool) (hcontains : ((tracker.activeOf shardIdx user).lookup ip).isSome) :
    Admission shardIdx tracker user ip
      (tracker.addToActive shardIdx user ip now recentContainsIp) := by
  obtain ⟨found, hlookup⟩ := Option.isSome_iff_exists.mp hcontains
  have hfound : count (tracker.activeOf shardIdx user) ip = found := by
    simp [count, hlookup]
  simp only [UserIpTracker.addToActive]
  split
  · rename_i hnone
    refine hbooked.refuse _ rfl rfl rfl ⟨rfl, rfl, rfl⟩ fun hcaps => ?_
    have hsome := @recentEntry_some tracker (!recentContainsIp) hcaps.2
    cases recentContainsIp <;> simp_all
  · have hactive : (ofOwner (tracker.shards (shardIdx user)).activeIps
        user).lookup ip = some found := hlookup
    simp only [hactive]
    refine hbooked.enter ?_ ?_ rfl rfl ⟨rfl, rfl, rfl⟩
    · simp only [setShard, update_self]
      rw [hfound]
      rfl
    · intro idx hne
      simp only [setShard, update_of_ne hne]

theorem Booked.addNewActive (hbooked : Booked shardIdx tracker) (now : ℕ) (isNewIp : Bool)
    (hprepared : Prepared shardIdx tracker user)
    (hfresh : (tracker.activeOf shardIdx user).lookup ip = none) :
    Admission shardIdx tracker user ip (tracker.addNewActive shardIdx user ip now isNewIp) := by
  have hzero : count (tracker.activeOf shardIdx user) ip = 0 := by
    simp [count, hfresh]
  obtain ⟨userRecent, hrecent⟩ := hprepared.recent
  simp only [UserIpTracker.addNewActive]
  split
  · rename_i hnone
    refine hbooked.refuse _ rfl rfl rfl ⟨rfl, rfl, rfl⟩ fun hcaps => ?_
    unfold tryIncrementCounter at hnone
    rw [if_pos hcaps.1] at hnone
    cases hnone
  · split
    · rename_i hnone
      refine hbooked.refuse _ rfl rfl rfl ⟨rfl, rfl, rfl⟩ fun hcaps => ?_
      exact absurd hnone (recentEntry_some hcaps.2)
    · simp only [hprepared.active, hrecent]
      refine hbooked.enter ?_ ?_ rfl rfl ⟨rfl, rfl, rfl⟩
      · simp only [setShard, update_self]
        rw [hzero]
      · intro idx hne
        simp only [setShard, update_of_ne hne]

/-- An admission books the connection exactly if the answer admits it. -/
theorem Accounts.admission (haccounts : Accounts shardIdx tracker live)
    {answer : Except IpTrackerError Unit × UserIpTracker}
    (hadmission : Admission shardIdx tracker user ip answer) :
    Accounts shardIdx answer.2 (admitted answer.1 (user, ip) live) := by
  apply hadmission.booked.accounts
  intro other otherIp
  have hcounts := haccounts.counts other otherIp
  rw [hadmission.active, hadmission.pending, hcounts]
  cases hanswer : answer.1 with
  | error error => simp [admitted, Except.isOk, Except.toBool]
  | ok value =>
    rw [admitted, List.count_cons]
    by_cases hsame : other = user ∧ otherIp = ip
    · simp [hsame, Except.isOk, Except.toBool]
      omega
    · have hdiffer : ¬ (user = other ∧ ip = otherIp) := fun heq => hsame ⟨heq.1.symm, heq.2.symm⟩
      simp [hsame, hdiffer]

end UserIpTracker

end TupoProxy.IpTracker
