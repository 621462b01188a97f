import TupoProxy.KeyedTotal
import TupoProxy.Runs

/-!
# The limit on connections of a user

The connections of a user are counted in the statistics of the user.  An
acquisition fetches the entry of the user, counts on it and then asks the
address tracker; a connection that passes holds a reservation until its
release counts it off again.  A session can be dropped wherever it waits: while
it holds a reservation the count is taken back, while it waits for the address
tracker it is not.  The entry of an idle user is dropped from time to time, and
an operator can switch the statistics of users off and on.

The state is that of one user: the entries of different users have nothing in
common but the switch and the clock.  Entries are numbered in the order of
their creation, since an acquisition can hold an entry that is no longer the
user's.
-/

namespace TupoProxy.ConnLimit

def userStatsCleanupIntervalSecs : ℕ := 60
def userStatsIdleTtlSecs : ℕ := 24 * 60 * 60

def tcpLimit (userMaxTcpConns : Option ℕ) (globalEach : ℕ) : Option ℕ :=
  match userMaxTcpConns.filter (0 < ·) with
  | some limit => some limit
  | none => if 0 < globalEach then some globalEach else none

structure UserStats where
  currConnects : ℕ
  lastSeenEpochSecs : ℕ
  deriving Repr, DecidableEq

def UserStats.kept (stats : UserStats) (now : ℕ) : Bool :=
  decide (0 < stats.currConnects) ||
    decide (now - stats.lastSeenEpochSecs ≤ userStatsIdleTtlSecs)

structure Stats where
  telemetryUserEnabled : Bool
  cachedEpochSecs : ℕ
  userStatsLastCleanupEpochSecs : ℕ
  userStats : Option ℕ
  entries : ℕ → UserStats
  created : ℕ

namespace Stats

def refreshCachedEpochSecs (stats : Stats) (now : ℕ) : Stats :=
  { stats with cachedEpochSecs := now }

def touchUserStats (stats : Stats) (entry now : ℕ) : Stats :=
  let stats :=
    if stats.cachedEpochSecs = 0 then stats.refreshCachedEpochSecs now else stats
  { stats with
    entries := Function.update stats.entries entry
      { stats.entries entry with lastSeenEpochSecs := stats.cachedEpochSecs } }

def getOrCreateUserStatsHandle (stats : Stats) (now : ℕ) : ℕ × Stats :=
  match stats.userStats with
  | some entry => (entry, stats.touchUserStats entry now)
  | none =>
    (stats.created,
      touchUserStats
        { stats with
          userStats := some stats.created
          entries := Function.update stats.entries stats.created ⟨0, 0⟩
          created := stats.created + 1 }
        stats.created now)

/-- The load and the exchange of the loop count as one step: the exchange
succeeds only on the value that was compared with the limit. -/
def tryCount (stats : Stats) (entry : ℕ) (limit : Option ℕ) : Option Stats :=
  let current := (stats.entries entry).currConnects
  if limit.any (· ≤ current) then none
  else
    some { stats with
      entries := Function.update stats.entries entry
        { stats.entries entry with currConnects := current + 1 } }

def decrementUserCurrConnects (stats : Stats) (now : ℕ) : Stats :=
  match stats.userStats with
  | none => stats
  | some entry =>
    let stats := stats.touchUserStats entry now
    { stats with
      entries := Function.update stats.entries entry
        { stats.entries entry with
          currConnects := (stats.entries entry).currConnects - 1 } }

def getUserCurrConnects (stats : Stats) : ℕ :=
  match stats.userStats with
  | none => 0
  | some entry => (stats.entries entry).currConnects

def cleanupDue (stats : Stats) (now : ℕ) : Bool :=
  decide (userStatsCleanupIntervalSecs ≤ now - stats.userStatsLastCleanupEpochSecs)

def maybeCleanupUserStats (stats : Stats) (now : ℕ) : Stats :=
  let stats := stats.refreshCachedEpochSecs now
  if stats.cleanupDue now then
    { stats with
      userStatsLastCleanupEpochSecs := now
      userStats := stats.userStats.filter fun entry => (stats.entries entry).kept now }
  else stats

end Stats

/-- Where a connection of the user is.  One that was refused or released is no
longer listed. -/
inductive Stage where
  | counting (entry : ℕ)
  | checkingIp
  | admitted
  | releasing
  deriving Repr, DecidableEq

structure System where
  stats : Stats
  connections : Table ℕ Stage

inductive Action where
  | acquire (id now : ℕ)
  | count (id now : ℕ)
  | checkIp (id now : ℕ) (passes : Bool)
  | release (id : ℕ)
  | finishRelease (id now : ℕ)
  | drop (id now : ℕ)
  | setTelemetry (userEnabled : Bool)
  | touch (now : ℕ)
  | touchHandle (entry now : ℕ)
  | cleanup (now : ℕ)
  deriving Repr, DecidableEq

def System.start (userEnabled : Bool) : System where
  stats :=
    { telemetryUserEnabled := userEnabled
      cachedEpochSecs := 0
      userStatsLastCleanupEpochSecs := 0
      userStats := none
      entries := fun _ => ⟨0, 0⟩
      created := 0 }
  connections := ∅

/-- One step.  With the statistics of users off an acquisition goes on to the
address check without counting.  A release waits for the address tracker
between its mark and its count; a dropped reservation does both at once.  A
session that is dropped before it has its reservation, or after the mark, leaves
its count behind. -/
def System.step (limit : Option ℕ) (action : Action) (system : System) :
    System :=
  match action with
  | .acquire id now =>
    if (system.connections.lookup id).isSome then system
    else if system.stats.telemetryUserEnabled then
      let handle := system.stats.getOrCreateUserStatsHandle now
      ⟨handle.2, system.connections.insert id (.counting handle.1)⟩
    else
      { system with connections := system.connections.insert id .checkingIp }
  | .count id now =>
    match system.connections.lookup id with
    | some (.counting entry) =>
      let stats := system.stats.touchUserStats entry now
      match stats.tryCount entry limit with
      | some stats => ⟨stats, system.connections.insert id .checkingIp⟩
      | none => ⟨stats, system.connections.erase id⟩
    | _ => system
  | .checkIp id now passes =>
    match system.connections.lookup id with
    | some .checkingIp =>
      if passes then
        { system with connections := system.connections.insert id .admitted }
      else
        ⟨system.stats.decrementUserCurrConnects now,
          system.connections.erase id⟩
    | _ => system
  | .release id =>
    match system.connections.lookup id with
    | some .admitted =>
      { system with connections := system.connections.insert id .releasing }
    | _ => system
  | .finishRelease id now =>
    match system.connections.lookup id with
    | some .releasing =>
      ⟨system.stats.decrementUserCurrConnects now,
        system.connections.erase id⟩
    | _ => system
  | .drop id now =>
    match system.connections.lookup id with
    | some .admitted =>
      ⟨system.stats.decrementUserCurrConnects now,
        system.connections.erase id⟩
    | some .checkingIp | some .releasing =>
      { system with connections := system.connections.erase id }
    | _ => system
  | .setTelemetry userEnabled =>
    { system with
      stats := { system.stats with telemetryUserEnabled := userEnabled } }
  | .touch now =>
    if system.stats.telemetryUserEnabled then
      { system with stats := (system.stats.getOrCreateUserStatsHandle now).2 }
    else system
  | .touchHandle entry now =>
    { system with stats := system.stats.touchUserStats entry now }
  | .cleanup now =>
    { system with stats := system.stats.maybeCleanupUserStats now }

def Stage.isCounting : Stage → Bool
  | .counting _ => true
  | _ => false

def Stage.isLive : Stage → Bool
  | .admitted | .releasing => true
  | _ => false

def System.tally (system : System) (counts : Stage → Bool) : ℕ :=
  system.connections.total fun _ stage => (counts stage).toNat

def System.live (system : System) : ℕ := system.tally Stage.isLive

def System.acquiring (system : System) : ℕ :=
  system.tally fun stage => !stage.isLive

/-- Acquisitions start only while the statistics of users are on, and the
entry of the user is not dropped between an acquisition's fetch of it and its
count on it. -/
def System.counted (system : System) : Action → Prop
  | .acquire _ _ => system.stats.telemetryUserEnabled = true
  | .cleanup now =>
    system.stats.cleanupDue now = true →
      (∀ entry ∈ system.stats.userStats,
        (system.stats.entries entry).kept now = true) ∨
      system.tally Stage.isCounting = 0
  | _ => True

instance (system : System) (action : Action) :
    Decidable (system.counted action) :=
  match action with
  | .acquire _ _ =>
    inferInstanceAs (Decidable (system.stats.telemetryUserEnabled = true))
  | .cleanup now =>
    inferInstanceAs (Decidable
      (system.stats.cleanupDue now = true →
        (∀ entry ∈ system.stats.userStats,
          (system.stats.entries entry).kept now = true) ∨
        system.tally Stage.isCounting = 0))
  | .count _ _ => .isTrue trivial
  | .checkIp _ _ _ => .isTrue trivial
  | .release _ => .isTrue trivial
  | .finishRelease _ _ => .isTrue trivial
  | .drop _ _ => .isTrue trivial
  | .setTelemetry _ => .isTrue trivial
  | .touch _ => .isTrue trivial
  | .touchHandle _ _ => .isTrue trivial

/-- The counts that an action leaves behind: one when it drops a session that
waits for the address tracker. -/
def System.abandons (system : System) : Action → ℕ
  | .drop id _ =>
    match system.connections.lookup id with
    | some .checkingIp | some .releasing => 1
    | _ => 0
  | _ => 0

/-! ## What the operations do to the counter -/

namespace Stats

variable {stats : Stats} (entry now : ℕ)

@[simp] theorem touchUserStats_userStats :
    (stats.touchUserStats entry now).userStats = stats.userStats := by
  unfold touchUserStats refreshCachedEpochSecs
  split <;> rfl

@[simp] theorem touchUserStats_currConnects (other : ℕ) :
    ((stats.touchUserStats entry now).entries other).currConnects =
      (stats.entries other).currConnects := by
  unfold touchUserStats refreshCachedEpochSecs
  by_cases hother : other = entry
  · subst hother
    split <;> simp
  · split <;> simp [hother]

@[simp] theorem touchUserStats_getUserCurrConnects :
    (stats.touchUserStats entry now).getUserCurrConnects = stats.getUserCurrConnects := by
  unfold getUserCurrConnects
  rw [touchUserStats_userStats]
  split <;> simp

theorem getUserCurrConnects_of_some {entry : ℕ} (hentry : stats.userStats = some entry) :
    stats.getUserCurrConnects = (stats.entries entry).currConnects := by
  rw [getUserCurrConnects, hentry]

@[simp] theorem getOrCreateUserStatsHandle_userStats :
    (stats.getOrCreateUserStatsHandle now).2.userStats =
      some (stats.getOrCreateUserStatsHandle now).1 := by
  unfold getOrCreateUserStatsHandle
  split
  · simpa
  · simp

theorem getOrCreateUserStatsHandle_of_some {entry : ℕ} (hentry : stats.userStats = some entry) :
    (stats.getOrCreateUserStatsHandle now).2.userStats = some entry := by
  simp [getOrCreateUserStatsHandle, hentry]

@[simp] theorem getOrCreateUserStatsHandle_getUserCurrConnects :
    (stats.getOrCreateUserStatsHandle now).2.getUserCurrConnects = stats.getUserCurrConnects := by
  unfold getOrCreateUserStatsHandle
  split
  case h_1 => simp
  case h_2 hnone => simp [getUserCurrConnects, hnone]

theorem tryCount_some {entry : ℕ} {limit : Option ℕ} {counted : Stats}
    (hentry : stats.userStats = some entry) (hcount : stats.tryCount entry limit = some counted) :
    counted.userStats = some entry ∧ counted.getUserCurrConnects = stats.getUserCurrConnects + 1 ∧
      ∀ max ∈ limit, stats.getUserCurrConnects < max := by
  rw [getUserCurrConnects_of_some hentry]
  simp only [tryCount] at hcount
  split at hcount
  · contradiction
  · rename_i hroom
    obtain rfl := Option.some.inj hcount
    refine ⟨hentry, ?_, ?_⟩
    · simp [getUserCurrConnects, hentry]
    · simpa [Option.any_eq_true] using hroom

@[simp] theorem decrementUserCurrConnects_userStats :
    (stats.decrementUserCurrConnects now).userStats = stats.userStats := by
  unfold decrementUserCurrConnects
  split <;> simp

@[simp] theorem decrementUserCurrConnects_getUserCurrConnects :
    (stats.decrementUserCurrConnects now).getUserCurrConnects = stats.getUserCurrConnects - 1 := by
  unfold decrementUserCurrConnects
  split
  case h_1 hnone => simp [getUserCurrConnects, hnone]
  case h_2 entry hentry => simp [getUserCurrConnects, hentry]

theorem maybeCleanupUserStats_userStats :
    (stats.maybeCleanupUserStats now).userStats =
      if stats.cleanupDue now then
        stats.userStats.filter fun entry => (stats.entries entry).kept now
      else stats.userStats := by
  rw [maybeCleanupUserStats]
  exact apply_ite Stats.userStats _ _ _

@[simp] theorem maybeCleanupUserStats_entries :
    (stats.maybeCleanupUserStats now).entries = stats.entries := by
  rw [maybeCleanupUserStats]
  exact (apply_ite Stats.entries _ _ _).trans (ite_self _)

theorem maybeCleanupUserStats_userStats_of_kept {now : ℕ} (hkept : stats.cleanupDue now = true →
      ∀ entry ∈ stats.userStats, (stats.entries entry).kept now = true) :
    (stats.maybeCleanupUserStats now).userStats = stats.userStats := by
  rw [maybeCleanupUserStats_userStats]
  split
  case isTrue hdue =>
      cases hentry : stats.userStats with
      | none => rfl
      | some entry => exact Option.filter_some_pos (hkept hdue entry hentry)
  case isFalse => rfl

/-- An entry that counts connections is never dropped. -/
@[simp] theorem maybeCleanupUserStats_getUserCurrConnects :
    (stats.maybeCleanupUserStats now).getUserCurrConnects = stats.getUserCurrConnects := by
  rw [getUserCurrConnects, maybeCleanupUserStats_userStats,
    maybeCleanupUserStats_entries, getUserCurrConnects]
  cases stats.userStats with
  | none => simp
  | some entry =>
    cases hkept : (stats.entries entry).kept now with
    | true => simp [Option.filter, hkept]
    | false =>
      have hzero : (stats.entries entry).currConnects = 0 := by
        simp only [UserStats.kept, Bool.or_eq_false_iff] at hkept
        simpa using hkept.1
      cases stats.cleanupDue now <;> simp [Option.filter, hkept, hzero]

end Stats

theorem Stage.isLive_le (stage : Stage) : stage.isLive.toNat ≤ (!stage.isCounting).toNat := by
  cases stage <;> simp [isLive, isCounting]

theorem Stage.isCounting_eq_false (stage : Stage) (hlive : stage.isLive = true) :
    (!stage.isCounting) = stage.isLive := by
  cases stage <;> simp_all [isLive, isCounting]

namespace System

variable {system : System} {limit : Option ℕ} {id : ℕ}

theorem tally_insert_new (stage : Stage) (counts : Stage → Bool)
    (hid : system.connections.lookup id = none) (stats : Stats) :
    tally ⟨stats, system.connections.insert id stage⟩ counts =
      (counts stage).toNat + system.tally counts :=
  Table.total_insert_new _ hid

variable {old : Stage}

theorem tally_insert (stage : Stage) (counts : Stage → Bool)
    (hid : system.connections.lookup id = some old) (stats : Stats) :
    tally ⟨stats, system.connections.insert id stage⟩ counts + (counts old).toNat =
      (counts stage).toNat + system.tally counts :=
  Table.total_insert_replace _ stage hid

theorem tally_erase (counts : Stage → Bool)
    (hid : system.connections.lookup id = some old) (stats : Stats) :
    tally ⟨stats, system.connections.erase id⟩ counts + (counts old).toNat = system.tally counts :=
  Table.total_erase_add _ hid

/-- The connections that the counter stands for: the acquisitions that
counted, and the admitted. -/
def holding (system : System) : ℕ := system.tally fun stage => !stage.isCounting

/-- An acquisition that is about to count holds the user's entry, and the
counter of that entry is the number of connections that counted, with the counts
that dropped sessions left. -/
structure Sound (limit : Option ℕ) (left : ℕ) (system : System) : Prop where
  counting : ∀ {id entry}, system.connections.lookup id = some (.counting entry) →
    system.stats.userStats = some entry
  counter : system.stats.getUserCurrConnects = left + system.holding
  bounded : ∀ max ∈ limit, system.stats.getUserCurrConnects ≤ max

variable {left : ℕ}

theorem start_sound (userEnabled : Bool) : (start userEnabled).Sound limit 0 where
  counting := fun hlookup => by simp [start] at hlookup
  counter := rfl
  bounded := fun max _ => Nat.zero_le max

variable {stats : Stats}

theorem Sound.of_stats (hsound : system.Sound limit left)
    (hentry : ∀ {entry}, system.stats.userStats = some entry → stats.userStats = some entry)
    (hcounter : stats.getUserCurrConnects = system.stats.getUserCurrConnects) :
    Sound limit left { system with stats } where
  counting := fun hlookup => hentry (hsound.counting hlookup)
  counter := hcounter.trans hsound.counter
  bounded := fun max hmax => hcounter.trans_le (hsound.bounded max hmax)

variable {stage : Stage}

section

variable (hsound : system.Sound limit left) (hid : system.connections.lookup id = some old)
include hsound hid

theorem Sound.move
    (hstage : stage.isCounting = false) (hentry : stats.userStats = system.stats.userStats)
    (hcounter : stats.getUserCurrConnects + (!old.isCounting).toNat =
      system.stats.getUserCurrConnects + 1)
    (hbounded : ∀ max ∈ limit, stats.getUserCurrConnects ≤ max) :
    Sound limit left ⟨stats, system.connections.insert id stage⟩ where
  counting := by
    intro other entry hlookup
    apply hentry.trans
    rcases Table.lookup_insert_some hlookup with ⟨rfl, rfl⟩ | ⟨-, hbefore⟩
    · contradiction
    · exact hsound.counting hbefore
  counter := by
    have hholding := tally_insert stage (fun stage => !stage.isCounting) hid stats
    have hbefore := hsound.counter
    simp only [hstage, Bool.not_false, Bool.toNat_true] at hholding
    simp only [holding] at hbefore ⊢
    omega
  bounded := hbounded

theorem Sound.erase (more : ℕ) (hentry : stats.userStats = system.stats.userStats)
    (hcounter : stats.getUserCurrConnects + (!old.isCounting).toNat =
      system.stats.getUserCurrConnects + more)
    (hle : stats.getUserCurrConnects ≤ system.stats.getUserCurrConnects) :
    Sound limit (left + more) ⟨stats, system.connections.erase id⟩ where
  counting := by
    intro other entry hlookup
    exact hentry.trans (hsound.counting (Table.lookup_erase_some hlookup).2)
  counter := by
    have hholding := tally_erase (fun stage => !stage.isCounting) hid stats
    have hbefore := hsound.counter
    simp only [holding] at hbefore ⊢
    omega
  bounded := fun max hmax => hle.trans (hsound.bounded max hmax)

theorem Sound.decrement (hold : old.isCounting = false) (now : ℕ) :
    Sound limit left ⟨system.stats.decrementUserCurrConnects now, system.connections.erase id⟩ := by
  have hpositive : 0 < system.stats.getUserCurrConnects := by
    have hholding := tally_erase (fun stage => !stage.isCounting) hid system.stats
    have hbefore := hsound.counter
    simp only [hold, Bool.not_false, Bool.toNat_true] at hholding
    simp only [holding] at hbefore
    omega
  have hcounter := @Stats.decrementUserCurrConnects_getUserCurrConnects system.stats now
  apply hsound.erase hid 0 (Stats.decrementUserCurrConnects_userStats now)
  · rw [hcounter, hold]
    exact Nat.sub_add_cancel hpositive
  · exact hcounter.trans_le (Nat.sub_le _ _)

/-- A session that counted and is dropped without a reservation. -/
theorem Sound.abandon (hold : old.isCounting = false) :
    Sound limit (left + 1) ⟨system.stats, system.connections.erase id⟩ := by
  refine hsound.erase hid 1 rfl ?_ le_rfl
  rw [hold]
  rfl

end

theorem Sound.acquire (hsound : system.Sound limit left) (now : ℕ)
    (hid : system.connections.lookup id = none) :
    Sound limit left ⟨(system.stats.getOrCreateUserStatsHandle now).2,
      system.connections.insert id
        (.counting (system.stats.getOrCreateUserStatsHandle now).1)⟩ where
  counting := by
    intro other entry hlookup
    rcases Table.lookup_insert_some hlookup with ⟨-, hnew⟩ | ⟨-, hbefore⟩
    · obtain rfl := Stage.counting.inj hnew
      exact Stats.getOrCreateUserStatsHandle_userStats now
    · exact Stats.getOrCreateUserStatsHandle_of_some now (hsound.counting hbefore)
  counter := by
    rw [Stats.getOrCreateUserStatsHandle_getUserCurrConnects, hsound.counter]
    exact congrArg (left + ·) ((tally_insert_new _ _ hid _).trans (Nat.zero_add _)).symm
  bounded := by
    rw [Stats.getOrCreateUserStatsHandle_getUserCurrConnects]
    exact hsound.bounded

theorem Sound.count (hsound : system.Sound limit left) {entry : ℕ} (now : ℕ)
    (hid : system.connections.lookup id = some (.counting entry)) :
    (system.step limit (.count id now)).Sound limit left := by
  have hentry := hsound.counting hid
  have htouched : (system.stats.touchUserStats entry now).userStats = some entry :=
    (Stats.touchUserStats_userStats entry now).trans hentry
  simp only [step, hid]
  split
  case h_1 stats hcount =>
      obtain ⟨hafter, hcounter, hroom⟩ := Stats.tryCount_some htouched hcount
      rw [Stats.touchUserStats_getUserCurrConnects] at hcounter hroom
      refine hsound.move hid rfl (hafter.trans hentry.symm) hcounter ?_
      intro max hmax
      have := hroom max hmax
      omega
  case h_2 =>
      have hcounter := @Stats.touchUserStats_getUserCurrConnects system.stats entry now
      exact hsound.erase hid 0 (Stats.touchUserStats_userStats entry now) hcounter hcounter.le

theorem tally_eq_zero {counts : Stage → Bool} (hzero : system.tally counts = 0)
    (hid : system.connections.lookup id = some stage) : counts stage = false := by
  have hsum := tally_erase counts hid system.stats
  cases hcounts : counts stage with
  | false => rfl
  | true =>
    rw [hcounts, Bool.toNat_true] at hsum
    omega

theorem Sound.cleanup (hsound : system.Sound limit left) {now : ℕ}
    (hcounted : system.counted (.cleanup now)) :
    (system.step limit (.cleanup now)).Sound limit left where
  counting := by
    intro id entry hlookup
    have hentry := hsound.counting hlookup
    apply (Stats.maybeCleanupUserStats_userStats_of_kept ?_).trans hentry
    intro hdue
    rcases hcounted hdue with hkept | hzero
    · exact hkept
    · exact absurd (tally_eq_zero hzero hlookup) (absurd · Bool.false_ne_true.symm)
  counter := (Stats.maybeCleanupUserStats_getUserCurrConnects now).trans hsound.counter
  bounded := by
    intro max hmax
    exact (Stats.maybeCleanupUserStats_getUserCurrConnects now).trans_le (hsound.bounded max hmax)

/-- Dropped sessions apart, one step keeps the counter equal to what the connections hold. -/
theorem step_sound {action : Action} (hsound : system.Sound limit left)
    (hcounted : system.counted action) :
    (system.step limit action).Sound limit (left + system.abandons action) := by
  cases action with
  | acquire id now =>
    have henabled : system.stats.telemetryUserEnabled = true := hcounted
    simp only [step, henabled, if_true]
    split
    case isTrue => exact hsound
    case isFalse hid =>
        exact hsound.acquire now (Option.not_isSome_iff_eq_none.mp hid)
  | count id now =>
    cases hid : system.connections.lookup id with
    | none =>
      simp only [step, hid]
      exact hsound
    | some stage =>
      cases stage with
      | counting entry => exact hsound.count now hid
      | checkingIp | admitted | releasing =>
        simp only [step, hid]
        exact hsound
  | checkIp id now passes =>
    simp only [step]
    split
    case h_1 hid =>
        cases passes with
        | true => exact hsound.move hid rfl rfl rfl hsound.bounded
        | false => exact hsound.decrement hid rfl now
    case h_2 => exact hsound
  | release id =>
    simp only [step]
    split
    case h_1 hid => exact hsound.move hid rfl rfl rfl hsound.bounded
    case h_2 => exact hsound
  | finishRelease id now =>
    simp only [step]
    split
    case h_1 hid => exact hsound.decrement hid rfl now
    case h_2 => exact hsound
  | drop id now =>
    cases hid : system.connections.lookup id with
    | none =>
      simp only [step, abandons, hid]
      exact hsound
    | some stage =>
      simp only [step, abandons, hid]
      cases stage with
      | counting entry => exact hsound
      | checkingIp | releasing => exact hsound.abandon hid rfl
      | admitted => exact hsound.decrement hid rfl now
  | setTelemetry userEnabled => exact hsound.of_stats id rfl
  | touch now =>
    simp only [step]
    split
    case isTrue =>
        exact hsound.of_stats (Stats.getOrCreateUserStatsHandle_of_some now)
          (Stats.getOrCreateUserStatsHandle_getUserCurrConnects now)
    case isFalse => exact hsound
  | touchHandle entry now =>
    exact hsound.of_stats (Stats.touchUserStats_userStats entry now).trans
      (Stats.touchUserStats_getUserCurrConnects entry now)
  | cleanup now => exact hsound.cleanup hcounted

/-- Along a counted run the books lack exactly the abandoned counts. -/
theorem run_sound {userEnabled : Bool} {actions : List Action}
    (hcounted : Runs.Along (step limit) counted actions (start userEnabled)) :
    (Runs.run (step limit) actions (start userEnabled)).Sound limit
      (Runs.costAlong (step limit) abandons actions (start userEnabled)) := by
  have hstep : ∀ left (system : System) action, system.Sound limit left → system.counted action →
      (system.step limit action).Sound limit (left + system.abandons action) :=
    fun _ _ _ hsound hgood => step_sound hsound hgood
  have hrun := hcounted.invariant_cost hstep (start_sound userEnabled)
  rwa [Nat.zero_add] at hrun

theorem live_le_holding (system : System) : system.live ≤ system.holding := by
  apply List.sum_le_sum
  intro row _
  exact row.2.isLive_le

theorem holding_eq_live (hacquiring : system.acquiring = 0) : system.holding = system.live := by
  apply congrArg List.sum
  apply List.map_congr_left
  intro row hrow
  have hid : system.connections.lookup row.1 = some row.2 :=
    (List.mem_dlookup_iff system.connections.nodupKeys).mpr hrow
  have hlive : row.2.isLive = true := by
    simpa using tally_eq_zero hacquiring hid
  exact congrArg Bool.toNat (row.2.isCounting_eq_false hlive)

/-- No more connections are live than the limit allows. -/
theorem Sound.live_le (hsound : system.Sound limit left) {max : ℕ} (hmax : max ∈ limit) :
    system.live ≤ max :=
  calc system.live
      ≤ system.holding := system.live_le_holding
    _ ≤ left + system.holding := Nat.le_add_left _ _
    _ = system.stats.getUserCurrConnects := hsound.counter.symm
    _ ≤ max := hsound.bounded max hmax

/-- In every run in which acquisitions start only while the statistics of
users are on, and in which no cleanup drops an entry that an acquisition has
just fetched, the live connections stay within the limit.  Whenever no
acquisition is in progress the counter shows them and one more for every session
that was dropped while it waited for the address tracker: it shows just them if
there was none. -/
theorem live_within_limit (userMaxTcpConns : Option ℕ) (globalEach : ℕ)
    (userEnabled : Bool) (actions : List Action)
    (hcounted : Runs.Along (step (tcpLimit userMaxTcpConns globalEach)) counted
      actions (start userEnabled)) :
    let step := step (tcpLimit userMaxTcpConns globalEach)
    let system := Runs.run step actions (start userEnabled)
    (∀ max ∈ tcpLimit userMaxTcpConns globalEach, system.live ≤ max) ∧
      (system.acquiring = 0 → system.stats.getUserCurrConnects =
        Runs.costAlong step abandons actions (start userEnabled) + system.live) := by
  intro step system
  have hsound := run_sound hcounted
  constructor
  · intro max hmax
    exact hsound.live_le hmax
  · intro hacquiring
    rw [hsound.counter, holding_eq_live hacquiring]

/-- A connection is admitted, a second one is refused, and a third one is
admitted after the first was released with the statistics off. -/
def limitedRun : List Action :=
  [.acquire 0 1, .count 0 1, .checkIp 0 1 true, .acquire 1 2, .count 1 2,
    .setTelemetry false, .release 0, .finishRelease 0 3, .cleanup 90000,
    .setTelemetry true, .acquire 2 90001, .count 2 90001, .checkIp 2 90001 true]

theorem live_within_limit_sample :
    let step := step (tcpLimit (some 1) 0)
    let system := Runs.run step limitedRun (start true)
    Runs.Along step counted limitedRun (start true) ∧
      Runs.costAlong step abandons limitedRun (start true) = 0 ∧ system.live = 1 ∧
      (∀ max ∈ tcpLimit (some 1) 0, system.live ≤ max) ∧
      system.stats.getUserCurrConnects = system.live := by
  intro step system
  have hcounted : Runs.Along step counted limitedRun (start true) := by decide +kernel
  have hkept : Runs.costAlong step abandons limitedRun (start true) = 0 := by decide +kernel
  obtain ⟨hlimit, hcounter⟩ := live_within_limit _ _ _ _ hcounted
  have hexact := hcounter (by decide +kernel)
  rw [hkept, Nat.zero_add] at hexact
  exact ⟨hcounted, hkept, by decide +kernel, hlimit, hexact⟩

/-- With the statistics of users off two connections pass a limit of one, and
the counter shows none of them. -/
theorem telemetry_off_exceeds_limit :
    let system := Runs.run (step (tcpLimit (some 1) 0))
      [.acquire 0 1, .checkIp 0 1 true, .acquire 1 1, .checkIp 1 1 true] (start false)
    system.live = 2 ∧ system.acquiring = 0 ∧ system.stats.getUserCurrConnects = 0 := by
  decide +kernel

/-- A session that is dropped while it waits for the address tracker leaves its
count, and the next connection is refused although none is live. -/
example :
    let system := Runs.run (step (tcpLimit (some 1) 0))
      [.acquire 0 1, .count 0 1, .drop 0 1, .acquire 1 2, .count 1 2] (start true)
    system.live = 0 ∧ system.acquiring = 0 ∧ system.stats.getUserCurrConnects = 1 := by
  decide +kernel

/-- An acquisition that counts on a dropped entry is not seen by the next. -/
example :
    (Runs.run (step (tcpLimit (some 1) 0))
      [.acquire 0 1, .cleanup 90000, .count 0 90000, .checkIp 0 90000 true,
        .acquire 1 90001, .count 1 90001, .checkIp 1 90001 true]
      (start true)).live = 2 := by
  decide +kernel

end System

end TupoProxy.ConnLimit
