import TupoProxy.NetAddr
import TupoProxy.Tally

/-!
# The tracker of client addresses

The tracker counts the connections of every user and address.  A connection
that ends can be taken off the count at once, or its release is queued and
taken off when the user is next looked at or when the queue is drained.

The assignment of users to the 64 shards is an argument, and so are the order
in which a hash map hands out its keys and the readings of the two clocks:
milliseconds for instants and seconds since the epoch.
-/

namespace TupoProxy.IpTracker

open Tally

def cleanupDrainBatchLimit : ℕ := 1024
def maxActiveIpEntries : ℕ := 131072
def maxRecentIpEntries : ℕ := 262144
def userIpTrackerShards : ℕ := 64
def compactIntervalSecs : ℕ := 60

abbrev ShardIdx := Fin userIpTrackerShards

inductive UserMaxUniqueIpsMode where
  | activeWindow
  | timeWindow
  | combined
  deriving Repr, DecidableEq

/-- The texts of a refused admission, with the values they show. -/
inductive IpTrackerError where
  | recentEntryCapReached (entries : ℕ)
  | activeEntryCapReached (entries : ℕ)
  | activeEntryUnavailable (username : String)
  | recentEntryUnavailable (username : String)
  | ipLimitReached (username : String) (active limit recent : ℕ)
      (mode : UserMaxUniqueIpsMode)
  deriving Repr, DecidableEq

structure UserIpShard where
  activeIps : Book String IpAddr
  recentIps : Table String (Table IpAddr ℕ)

structure UserIpTracker where
  shards : ShardIdx → UserIpShard
  activeEntryCount : ℕ
  recentEntryCount : ℕ
  activeCapRejects : ℕ
  recentCapRejects : ℕ
  cleanupDeferredReleases : ℕ
  maxIps : Table String ℕ
  defaultMaxIps : ℕ
  limitMode : UserMaxUniqueIpsMode
  limitWindowSecs : ℕ
  lastCompactEpochSecs : ℕ
  cleanupQueueLen : ℕ
  cleanupShards : ShardIdx → Book String IpAddr

def UserIpTracker.new : UserIpTracker where
  shards := fun _ => ⟨∅, ∅⟩
  activeEntryCount := 0
  recentEntryCount := 0
  activeCapRejects := 0
  recentCapRejects := 0
  cleanupDeferredReleases := 0
  maxIps := ∅
  defaultMaxIps := 0
  limitMode := .activeWindow
  limitWindowSecs := 30
  lastCompactEpochSecs := 0
  cleanupQueueLen := 0
  cleanupShards := fun _ => ∅

/-- The readings of the clocks at one call. -/
structure Clock where
  now : ℕ
  epochSecs : ℕ
  deriving Repr, DecidableEq

namespace UserIpTracker

def limitWindow (tracker : UserIpTracker) : ℕ :=
  max 1 tracker.limitWindowSecs * 1000

def userLimit (tracker : UserIpTracker) (username : String) : Option ℕ :=
  match (tracker.maxIps.lookup username).filter (0 < ·) with
  | some limit => some limit
  | none =>
    if 0 < tracker.defaultMaxIps then some tracker.defaultMaxIps else none

def setShard (tracker : UserIpTracker) (idx : ShardIdx) (shard : UserIpShard) :
    UserIpTracker :=
  { tracker with shards := Function.update tracker.shards idx shard }

end UserIpTracker

def tryIncrementCounter (counter cap : ℕ) : Option ℕ :=
  if counter < cap then some (counter + 1) else none

/-- Take queued or direct releases off the count, and tell how many entries
went with them. -/
def applyActiveCleanup (activeIps : Book String IpAddr) (user : String)
    (ip : IpAddr) (pendingCount : ℕ) : Book String IpAddr × ℕ :=
  if pendingCount = 0 then (activeIps, 0)
  else
    (release activeIps user ip pendingCount,
      match (ofOwner activeIps user).lookup ip with
      | some count => if pendingCount < count then 0 else 1
      | none => 0)

def applyCleanups (activeIps : Book String IpAddr) :
    List (String × IpAddr × ℕ) → Book String IpAddr × ℕ
  | [] => (activeIps, 0)
  | (user, ip, pendingCount) :: rest =>
    let (activeIps, removed) := applyActiveCleanup activeIps user ip pendingCount
    let (activeIps, later) := applyCleanups activeIps rest
    (activeIps, removed + later)

namespace UserIpTracker

def releaseActive (tracker : UserIpTracker) (idx : ShardIdx)
    (releases : List (String × IpAddr × ℕ)) : UserIpTracker :=
  let shard := tracker.shards idx
  let (activeIps, removed) := applyCleanups shard.activeIps releases
  { tracker.setShard idx { shard with activeIps := activeIps } with
    activeEntryCount := tracker.activeEntryCount - removed }

variable (shardIdx : String → ShardIdx)

def enqueueCleanup (tracker : UserIpTracker) (user : String) (ip : IpAddr) :
    UserIpTracker :=
  let idx := shardIdx user
  let queue := tracker.cleanupShards idx
  let userQueue := ofOwner queue user
  let count := count userQueue ip
  { tracker with
    cleanupShards := Function.update tracker.cleanupShards idx
      (queue.insert user (userQueue.insert ip (count + 1)))
    cleanupQueueLen :=
      if count = 0 then tracker.cleanupQueueLen + 1 else tracker.cleanupQueueLen
    cleanupDeferredReleases := tracker.cleanupDeferredReleases + 1 }

def drainCleanupForUser (tracker : UserIpTracker) (user : String) :
    UserIpTracker :=
  if tracker.cleanupQueueLen = 0 then tracker
  else
    let idx := shardIdx user
    let queue := tracker.cleanupShards idx
    let toRemove := ofOwner queue user
    let tracker :=
      { tracker with
        cleanupShards :=
          Function.update tracker.cleanupShards idx (queue.erase user) }
    if toRemove.entries.isEmpty then tracker
    else
      UserIpTracker.releaseActive
        { tracker with
          cleanupQueueLen := tracker.cleanupQueueLen - toRemove.entries.length }
        idx (toRemove.entries.map fun row => (user, row.1, row.2))

/-- A drain before it waits for the lock of its shard: it holds the releases
that it has taken out of the queue. -/
def takeCleanupForUser (tracker : UserIpTracker) (user : String) :
    List (String × IpAddr × ℕ) × UserIpTracker :=
  if tracker.cleanupQueueLen = 0 then ([], tracker)
  else
    let idx := shardIdx user
    let queue := tracker.cleanupShards idx
    let toRemove := ofOwner queue user
    (toRemove.entries.map fun row => (user, row.1, row.2),
      { tracker with
        cleanupShards :=
          Function.update tracker.cleanupShards idx (queue.erase user)
        cleanupQueueLen := tracker.cleanupQueueLen - toRemove.entries.length })

end UserIpTracker

/-- The pair of numbers says which of its keys each map hands out. -/
def popOneCleanup (order : ℕ × ℕ) (queue : Book String IpAddr) :
    Option ((String × IpAddr × ℕ) × Book String IpAddr) :=
  match queue.keys[order.1 % queue.keys.length]? with
  | none => none
  | some user =>
    let userQueue := ofOwner queue user
    match userQueue.keys[order.2 % userQueue.keys.length]? with
    | none => none
    | some ip =>
      match userQueue.lookup ip with
      | none => none
      | some count =>
        let userQueue := userQueue.erase ip
        some ((user, ip, count),
          if userQueue.entries.isEmpty then queue.erase user
          else queue.insert user userQueue)

def popCleanups (orders : ℕ → ℕ × ℕ) :
    ℕ → Book String IpAddr → List (String × IpAddr × ℕ) × Book String IpAddr
  | 0, queue => ([], queue)
  | left + 1, queue =>
    match popOneCleanup (orders left) queue with
    | none => ([], queue)
    | some (popped, queue) =>
      let (later, queue) := popCleanups orders left queue
      (popped :: later, queue)

namespace UserIpTracker

def drainCleanupShard (tracker : UserIpTracker) (orders : ℕ → ℕ × ℕ)
    (idx : ShardIdx) : UserIpTracker :=
  let (toRemove, queue) :=
    popCleanups orders cleanupDrainBatchLimit (tracker.cleanupShards idx)
  UserIpTracker.releaseActive
    { tracker with
      cleanupShards := Function.update tracker.cleanupShards idx queue
      cleanupQueueLen := tracker.cleanupQueueLen - toRemove.length }
    idx toRemove

def takeCleanupShard (tracker : UserIpTracker) (orders : ℕ → ℕ × ℕ)
    (idx : ShardIdx) : List (String × IpAddr × ℕ) × UserIpTracker :=
  let (toRemove, queue) :=
    popCleanups orders cleanupDrainBatchLimit (tracker.cleanupShards idx)
  (toRemove,
    { tracker with
      cleanupShards := Function.update tracker.cleanupShards idx queue
      cleanupQueueLen := tracker.cleanupQueueLen - toRemove.length })

def drainCleanupQueue (tracker : UserIpTracker)
    (orders : ShardIdx → ℕ → ℕ × ℕ) : UserIpTracker :=
  if tracker.cleanupQueueLen = 0 then tracker
  else
    (List.finRange userIpTrackerShards).foldl
      (fun tracker idx => tracker.drainCleanupShard (orders idx) idx) tracker

end UserIpTracker

/-! ## Compaction -/

def pruneRecent (userRecent : Table IpAddr ℕ) (now window : ℕ) :
    Table IpAddr ℕ × ℕ :=
  if userRecent.entries.isEmpty then (userRecent, 0)
  else
    let kept := userRecent.retain fun _ seenAt => decide (now - seenAt ≤ window)
    (kept, userRecent.entries.length - kept.entries.length)

def pruneUsers (now window : ℕ) :
    List String → Table String (Table IpAddr ℕ) →
      Table String (Table IpAddr ℕ) × ℕ
  | [], recentIps => (recentIps, 0)
  | user :: users, recentIps =>
    let (kept, pruned) := pruneRecent (ofOwner recentIps user) now window
    let (recentIps, later) :=
      pruneUsers now window users (recentIps.insert user kept)
    (recentIps, pruned + later)

def UserIpShard.compactUser (shard : UserIpShard) (user : String) :
    UserIpShard :=
  let activeEmpty := (ofOwner shard.activeIps user).entries.isEmpty
  let recentEmpty := (ofOwner shard.recentIps user).entries.isEmpty
  if activeEmpty && recentEmpty then
    ⟨shard.activeIps.erase user, shard.recentIps.erase user⟩
  else shard

def UserIpShard.compact (shard : UserIpShard) (now window : ℕ) :
    UserIpShard × ℕ :=
  let (recentIps, pruned) :=
    pruneUsers now window shard.recentIps.keys shard.recentIps
  let users := shard.activeIps.keys ++
    recentIps.keys.filter fun user => !(shard.activeIps.lookup user).isSome
  (users.foldl UserIpShard.compactUser { shard with recentIps := recentIps },
    pruned)

namespace UserIpTracker

def compactShard (tracker : UserIpTracker) (now : ℕ) (idx : ShardIdx) :
    UserIpTracker :=
  let (shard, pruned) :=
    (tracker.shards idx).compact now tracker.limitWindow
  { tracker.setShard idx shard with
    recentEntryCount := tracker.recentEntryCount - pruned }

def maybeCompactEmptyUsers (tracker : UserIpTracker) (clock : Clock) :
    UserIpTracker :=
  if clock.epochSecs - tracker.lastCompactEpochSecs < compactIntervalSecs then
    tracker
  else
    (List.finRange userIpTrackerShards).foldl
      (fun tracker idx => tracker.compactShard clock.now idx)
      { tracker with lastCompactEpochSecs := clock.epochSecs }

variable (shardIdx : String → ShardIdx)

/-- A further connection of an address that is already active. -/
def addToActive (tracker : UserIpTracker) (username : String) (ip : IpAddr)
    (now : ℕ) (recentContainsIp : Bool) :
    Except IpTrackerError Unit × UserIpTracker :=
  let recentEntryCount :=
    if recentContainsIp then some tracker.recentEntryCount
    else tryIncrementCounter tracker.recentEntryCount maxRecentIpEntries
  match recentEntryCount with
  | none =>
    (.error (.recentEntryCapReached tracker.recentEntryCount),
      { tracker with recentCapRejects := tracker.recentCapRejects + 1 })
  | some recentEntryCount =>
    let tracker := { tracker with recentEntryCount := recentEntryCount }
    let idx := shardIdx username
    let shard := tracker.shards idx
    match (ofOwner shard.activeIps username).lookup ip with
    | none => (.error (.activeEntryUnavailable username), tracker)
    | some count =>
      (.ok (), tracker.setShard idx
        { activeIps := shard.activeIps.insert username
            ((ofOwner shard.activeIps username).insert ip (count + 1))
          recentIps :=
            match shard.recentIps.lookup username with
            | some userRecent =>
              shard.recentIps.insert username (userRecent.insert ip now)
            | none => shard.recentIps })

/-- The first connection of an address that has passed the limit. -/
def addNewActive (tracker : UserIpTracker) (username : String) (ip : IpAddr)
    (now : ℕ) (isNewIp : Bool) : Except IpTrackerError Unit × UserIpTracker :=
  match tryIncrementCounter tracker.activeEntryCount maxActiveIpEntries with
  | none =>
    (.error (.activeEntryCapReached tracker.activeEntryCount),
      { tracker with activeCapRejects := tracker.activeCapRejects + 1 })
  | some activeEntryCount =>
    let recentEntryCount :=
      if isNewIp then
        tryIncrementCounter tracker.recentEntryCount maxRecentIpEntries
      else some tracker.recentEntryCount
    match recentEntryCount with
    | none =>
      (.error (.recentEntryCapReached tracker.recentEntryCount),
        { tracker with
          activeEntryCount := activeEntryCount - 1
          recentCapRejects := tracker.recentCapRejects + 1 })
    | some recentEntryCount =>
      let idx := shardIdx username
      let shard := tracker.shards idx
      let reserved := if isNewIp then 1 else 0
      match shard.activeIps.lookup username with
      | none =>
        (.error (.activeEntryUnavailable username),
          { tracker with
            activeEntryCount := activeEntryCount - 1
            recentEntryCount := recentEntryCount - reserved })
      | some userActive =>
        let activeIps :=
          shard.activeIps.insert username (userActive.insert ip 1)
        let activeEntryCount :=
          if (userActive.lookup ip).isSome then activeEntryCount - 1
          else activeEntryCount
        let tracker :=
          { tracker.setShard idx { shard with activeIps := activeIps } with
            activeEntryCount := activeEntryCount
            recentEntryCount := recentEntryCount }
        match shard.recentIps.lookup username with
        | none =>
          (.error (.recentEntryUnavailable username),
            { tracker with
              activeEntryCount := activeEntryCount - 1
              recentEntryCount := recentEntryCount - reserved })
        | some userRecent =>
          let recentEntryCount :=
            if (userRecent.lookup ip).isSome then
              recentEntryCount - reserved
            else recentEntryCount
          (.ok (),
            { tracker.setShard idx
                { activeIps := activeIps
                  recentIps := shard.recentIps.insert username
                    (userRecent.insert ip now) } with
              recentEntryCount := recentEntryCount })

def deniesNewIp (mode : UserMaxUniqueIpsMode) (limit activeLen recentLen : ℕ)
    (isNewIp : Bool) : Bool :=
  let activeLimitReached := decide (limit ≤ activeLen)
  let recentLimitReached := decide (limit ≤ recentLen) && isNewIp
  match mode with
  | .activeWindow => activeLimitReached
  | .timeWindow => recentLimitReached
  | .combined => activeLimitReached || recentLimitReached

/-- The entries of the user exist from here on, with the recent ones pruned. -/
def prepareUser (tracker : UserIpTracker) (username : String) (now : ℕ) :
    UserIpTracker :=
  let idx := shardIdx username
  let shard := tracker.shards idx
  let (userRecent, pruned) :=
    pruneRecent (ofOwner shard.recentIps username) now tracker.limitWindow
  { tracker.setShard idx
      { activeIps := orDefault shard.activeIps username
        recentIps := shard.recentIps.insert username userRecent } with
    recentEntryCount := tracker.recentEntryCount - pruned }

def checkAndAdd (tracker : UserIpTracker) (username : String) (ip : IpAddr)
    (clock : Clock) : Except IpTrackerError Unit × UserIpTracker :=
  let tracker := tracker.drainCleanupForUser shardIdx username
  let tracker := tracker.maybeCompactEmptyUsers clock
  let tracker := tracker.prepareUser shardIdx username clock.now
  let shard := tracker.shards (shardIdx username)
  let userActive := ofOwner shard.activeIps username
  let userRecent := ofOwner shard.recentIps username
  let recentContainsIp := (userRecent.lookup ip).isSome
  if (userActive.lookup ip).isSome then
    tracker.addToActive shardIdx username ip clock.now recentContainsIp
  else
    match tracker.userLimit username with
    | some limit =>
      if deniesNewIp tracker.limitMode limit userActive.entries.length
          userRecent.entries.length (!recentContainsIp) then
        (.error (.ipLimitReached username userActive.entries.length limit
          userRecent.entries.length tracker.limitMode), tracker)
      else
        tracker.addNewActive shardIdx username ip clock.now (!recentContainsIp)
    | none =>
      tracker.addNewActive shardIdx username ip clock.now (!recentContainsIp)

/-- What is left of a check once it has the lock of its shard. -/
def admitIp (tracker : UserIpTracker) (username : String) (ip : IpAddr)
    (now : ℕ) : Except IpTrackerError Unit × UserIpTracker :=
  let tracker := tracker.prepareUser shardIdx username now
  let shard := tracker.shards (shardIdx username)
  let userActive := ofOwner shard.activeIps username
  let userRecent := ofOwner shard.recentIps username
  let recentContainsIp := (userRecent.lookup ip).isSome
  if (userActive.lookup ip).isSome then
    tracker.addToActive shardIdx username ip now recentContainsIp
  else
    match tracker.userLimit username with
    | some limit =>
      if deniesNewIp tracker.limitMode limit userActive.entries.length
          userRecent.entries.length (!recentContainsIp) then
        (.error (.ipLimitReached username userActive.entries.length limit
          userRecent.entries.length tracker.limitMode), tracker)
      else
        tracker.addNewActive shardIdx username ip now (!recentContainsIp)
    | none =>
      tracker.addNewActive shardIdx username ip now (!recentContainsIp)

def removeIp (tracker : UserIpTracker) (username : String) (ip : IpAddr)
    (clock : Clock) : UserIpTracker :=
  (tracker.maybeCompactEmptyUsers clock).releaseActive (shardIdx username)
    [(username, ip, 1)]

def clearUserIps (tracker : UserIpTracker) (username : String) : UserIpTracker :=
  let idx := shardIdx username
  let shard := tracker.shards idx
  let removedActiveEntries := (ofOwner shard.activeIps username).entries.length
  let removedRecentEntries := (ofOwner shard.recentIps username).entries.length
  { tracker.setShard idx ⟨shard.activeIps.erase username, shard.recentIps.erase username⟩ with
    activeEntryCount := tracker.activeEntryCount - removedActiveEntries
    recentEntryCount := tracker.recentEntryCount - removedRecentEntries }

end UserIpTracker

end TupoProxy.IpTracker
