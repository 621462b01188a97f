import TupoProxy.EpochBudget
import TupoProxy.QuotaRelay
import TupoProxy.KeyedTotal
import TupoProxy.Runs

/-!
# Rate-limit buckets

One direction of a user, or of a source network, has a bucket that counts the
bytes granted in the present epoch of 20 ms.  The bucket of a network divides
its cap among the users that are active in the epoch.
-/

namespace TupoProxy.TrafficLimiter

open EpochBudget QuotaRelay

def fairEpochMs : ℕ := 20

def maxBorrowChunkBytes : ℕ := 32 * 1024

def bytesPerEpoch (bps : ℕ) : ℕ :=
  if bps = 0 then 0
  else
    let numerator := min (bps * fairEpochMs) u64Max
    let bytes := numerator / 8000
    max bytes 1

theorem bytesPerEpoch_le (bps : ℕ) : bytesPerEpoch bps ≤ u64Max := by
  unfold bytesPerEpoch
  split
  · exact Nat.zero_le _
  · have hnumerator := Nat.min_le_right (bps * fairEpochMs) u64Max
    have hone : 1 ≤ u64Max := by decide
    dsimp only
    omega

structure DirectionBucket where
  epoch : ℕ
  used : ℕ
  deriving Repr, DecidableEq

namespace DirectionBucket

def default : DirectionBucket := ⟨0, 0⟩

def syncEpoch (epoch : ℕ) (bucket : DirectionBucket) : DirectionBucket :=
  if bucket.epoch = epoch then bucket
  else if bucket.epoch < epoch then ⟨epoch, 0⟩
  else bucket

/-- `epoch` is the answer of the clock. -/
def tryConsume (epoch capBps requested : ℕ) (bucket : DirectionBucket) : ℕ × DirectionBucket :=
  if requested = 0 then (0, bucket)
  else if capBps = 0 then (requested, bucket)
  else
    let bucket := bucket.syncEpoch epoch
    let capEpoch := bytesPerEpoch capBps
    if capEpoch ≤ bucket.used then (0, bucket)
    else
      let remaining := capEpoch - bucket.used
      let grant := min requested remaining
      if grant = 0 then (0, bucket)
      else (grant, { bucket with used := min (bucket.used + grant) u64Max })

def refund (bytes : ℕ) (bucket : DirectionBucket) : DirectionBucket :=
  if bytes = 0 then bucket else { bucket with used := bucket.used - bytes }

def meter (bucket : DirectionBucket) : Meter := ⟨bucket.epoch, bucket.used⟩

variable {bucket : DirectionBucket}

theorem meter_syncEpoch (epoch : ℕ) : (bucket.syncEpoch epoch).meter = bucket.meter.sync epoch := by
  unfold syncEpoch Meter.sync
  by_cases hbehind : bucket.epoch < epoch
  · rw [if_neg hbehind.ne, if_pos hbehind]
    exact (if_pos hbehind).symm
  · rw [if_neg hbehind, ite_self]
    exact (if_neg hbehind).symm

theorem meter_refund (bytes : ℕ) :
    (bucket.refund bytes).meter = ⟨bucket.meter.epoch, bucket.meter.used - bytes⟩ := by
  unfold refund
  split
  · rename_i hbytes
    rw [hbytes]
    rfl
  · rfl

theorem tryConsume_charge {epoch capBps requested : ℕ} (hcap : 0 < capBps) :
    Charge (bytesPerEpoch capBps) epoch bucket.meter (bucket.tryConsume epoch capBps requested).1
      (bucket.tryConsume epoch capBps requested).2.meter := by
  have hbound := bytesPerEpoch_le capBps
  unfold tryConsume
  split
  · exact .idle
  · rw [if_neg hcap.ne']
    dsimp only
    split
    · exact .refused_of_sync (meter_syncEpoch epoch)
    · split
      · exact .refused_of_sync (meter_syncEpoch epoch)
      · have hfits : (bucket.syncEpoch epoch).used +
            min requested (bytesPerEpoch capBps - (bucket.syncEpoch epoch).used) ≤
            bytesPerEpoch capBps := by omega
        rw [Nat.min_eq_left (hfits.trans hbound)]
        exact .granted_of_sync (meter_syncEpoch epoch) hfits

end DirectionBucket

structure CidrUserDirectionState where
  epoch : ℕ
  used : ℕ
  deriving Repr, DecidableEq

namespace CidrUserDirectionState

def default : CidrUserDirectionState := ⟨0, 0⟩

def syncEpochAndMarkActive (epoch activeUsers : ℕ) (share : CidrUserDirectionState) :
    CidrUserDirectionState × ℕ :=
  if share.epoch = epoch then (share, activeUsers)
  else if share.epoch < epoch then (⟨epoch, 0⟩, (activeUsers + 1) % 2 ^ 64)
  else (share, activeUsers)

def refund (bytes : ℕ) (share : CidrUserDirectionState) : CidrUserDirectionState :=
  if bytes = 0 then share else { share with used := share.used - bytes }

theorem used_syncEpochAndMarkActive_le (epoch activeUsers : ℕ) (share : CidrUserDirectionState) :
    (share.syncEpochAndMarkActive epoch activeUsers).1.used ≤ share.used := by
  unfold syncEpochAndMarkActive
  split
  · exact le_refl _
  · split
    · exact Nat.zero_le _
    · exact le_refl _

theorem used_refund_le (bytes : ℕ) (share : CidrUserDirectionState) :
    (share.refund bytes).used ≤ share.used := by
  unfold refund
  split
  · exact le_refl _
  · exact Nat.sub_le _ _

end CidrUserDirectionState

structure CidrDirectionBucket where
  epoch : ℕ
  used : ℕ
  activeUsers : ℕ
  deriving Repr, DecidableEq

namespace CidrDirectionBucket

def default : CidrDirectionBucket := ⟨0, 0, 0⟩

def syncEpoch (epoch : ℕ) (bucket : CidrDirectionBucket) : CidrDirectionBucket :=
  if bucket.epoch = epoch then bucket
  else if bucket.epoch < epoch then ⟨epoch, 0, 0⟩
  else bucket

/-- The bytes that a user gets who has used `userUsed` of a fair share. -/
def grantOf (fairShare userUsed totalRemaining requested : ℕ) : ℕ :=
  let guaranteedRemaining := fairShare - userUsed
  if 0 < guaranteedRemaining then min (min requested guaranteedRemaining) totalRemaining
  else min (min requested totalRemaining) maxBorrowChunkBytes

def tryConsume (epoch capEpoch requested : ℕ) (bucket : CidrDirectionBucket)
    (share : CidrUserDirectionState) : ℕ × CidrDirectionBucket × CidrUserDirectionState :=
  if requested = 0 ∨ capEpoch = 0 then (0, bucket, share)
  else
    let bucket := bucket.syncEpoch epoch
    let marked := share.syncEpochAndMarkActive epoch bucket.activeUsers
    let share := marked.1
    let bucket := { bucket with activeUsers := marked.2 }
    let fairShare := max (capEpoch / max bucket.activeUsers 1) 1
    if capEpoch ≤ bucket.used then (0, bucket, share)
    else
      let grant := grantOf fairShare share.used (capEpoch - bucket.used) requested
      if grant = 0 then (0, bucket, share)
      else
        (grant, { bucket with used := min (bucket.used + grant) u64Max },
          { share with used := (share.used + grant) % 2 ^ 64 })

def refund (bytes : ℕ) (bucket : CidrDirectionBucket) : CidrDirectionBucket :=
  if bytes = 0 then bucket else { bucket with used := bucket.used - bytes }

/-- One direction of `CidrBucket::try_consume_for_user`. -/
def tryConsumeForUser (epoch capBps requested : ℕ) (bucket : CidrDirectionBucket)
    (share : CidrUserDirectionState) : ℕ × CidrDirectionBucket × CidrUserDirectionState :=
  if capBps = 0 then (requested, bucket, share)
  else bucket.tryConsume epoch (bytesPerEpoch capBps) requested share

def meter (bucket : CidrDirectionBucket) : Meter := ⟨bucket.epoch, bucket.used⟩

variable {bucket : CidrDirectionBucket} {share : CidrUserDirectionState}

theorem meter_syncEpoch (epoch : ℕ) : (bucket.syncEpoch epoch).meter = bucket.meter.sync epoch := by
  unfold syncEpoch Meter.sync
  by_cases hbehind : bucket.epoch < epoch
  · rw [if_neg hbehind.ne, if_pos hbehind]
    exact (if_pos hbehind).symm
  · rw [if_neg hbehind, ite_self]
    exact (if_neg hbehind).symm

theorem meter_refund (bytes : ℕ) :
    (bucket.refund bytes).meter = ⟨bucket.meter.epoch, bucket.meter.used - bytes⟩ := by
  unfold refund
  split
  · rename_i hbytes
    rw [hbytes]
    rfl
  · rfl

theorem grantOf_le (fairShare userUsed totalRemaining requested : ℕ) :
    grantOf fairShare userUsed totalRemaining requested ≤ totalRemaining := by
  unfold grantOf
  dsimp only
  split
  · exact Nat.min_le_right _ _
  · exact (Nat.min_le_left _ _).trans (Nat.min_le_right _ _)

theorem tryConsume_charge (epoch requested : ℕ) {capEpoch : ℕ} (hcap : capEpoch ≤ u64Max) :
    Charge capEpoch epoch bucket.meter (bucket.tryConsume epoch capEpoch requested share).1
      (bucket.tryConsume epoch capEpoch requested share).2.1.meter := by
  unfold tryConsume
  split
  · exact .idle
  · dsimp only
    split
    · exact .refused_of_sync (meter_syncEpoch epoch)
    · rename_i hroom
      generalize hgrant : grantOf _ _ _ _ = grant
      have hle : grant ≤ capEpoch - (bucket.syncEpoch epoch).used := by
        rw [← hgrant]
        exact grantOf_le _ _ _ _
      split
      · exact .refused_of_sync (meter_syncEpoch epoch)
      · have hfits : (bucket.syncEpoch epoch).used + grant ≤ capEpoch := by omega
        rw [Nat.min_eq_left (hfits.trans hcap)]
        exact .granted_of_sync (meter_syncEpoch epoch) hfits

theorem used_tryConsume_le (epoch capEpoch requested : ℕ) :
    (bucket.tryConsume epoch capEpoch requested share).2.2.used ≤
      share.used + (bucket.tryConsume epoch capEpoch requested share).1 := by
  have hsync := share.used_syncEpochAndMarkActive_le epoch (bucket.syncEpoch epoch).activeUsers
  unfold tryConsume
  split
  · exact Nat.le_add_right _ _
  · dsimp only
    split
    · exact hsync
    · split
      · exact hsync
      · exact (Nat.mod_le _ _).trans (Nat.add_le_add_right hsync _)

end CidrDirectionBucket

/-! ## Calls of one bucket -/

inductive BucketCall where
  | tryConsume (epoch requested : ℕ)
  | refund (epoch bytes : ℕ)
  deriving Repr, DecidableEq

def BucketCall.epoch : BucketCall → ℕ
  | .tryConsume epoch _ => epoch
  | .refund epoch _ => epoch

/-- The bucket of a user with the epoch of the last call and all grants and
refunds so far. -/
structure UserRate where
  bucket : DirectionBucket
  clock : ℕ
  log : List Entry
  deriving Repr, DecidableEq

namespace UserRate

def start : UserRate := ⟨.default, 0, []⟩

def step (capBps : ℕ) : BucketCall → UserRate → UserRate
  | .tryConsume epoch requested, rate =>
    let answer := rate.bucket.tryConsume epoch capBps requested
    ⟨answer.2, epoch, rate.log ++ [⟨epoch, answer.1, 0⟩]⟩
  | .refund epoch bytes, rate =>
    ⟨rate.bucket.refund bytes, epoch, rate.log ++ [⟨epoch, 0, bytes⟩]⟩

def Limited (capBps : ℕ) (rate : UserRate) : Prop :=
  Within (bytesPerEpoch capBps) rate.clock rate.bucket.meter rate.log

theorem Limited.step {capBps : ℕ} (hcap : 0 < capBps) {rate : UserRate} {call : BucketCall}
    (hlimited : Limited capBps rate) (hclock : rate.clock ≤ call.epoch) :
    Limited capBps (step capBps call rate) := by
  have htick : Within (bytesPerEpoch capBps) call.epoch rate.bucket.meter rate.log :=
    Within.tick hlimited hclock
  cases call with
  | tryConsume epoch requested =>
    exact htick.charge (DirectionBucket.tryConsume_charge hcap)
  | refund epoch bytes =>
    unfold Limited UserRate.step
    dsimp only
    rw [DirectionBucket.meter_refund]
    exact htick.refund bytes

/-- With a clock that does not go back, no epoch exceeds the rate of the user. -/
theorem limited_run {capBps : ℕ} (hcap : 0 < capBps) {calls : List BucketCall}
    (hsorted : (calls.map BucketCall.epoch).Pairwise (· ≤ ·)) :
    Limited capBps (Runs.run (step capBps) calls start) := by
  have hclock : ∀ call rate, UserRate.clock (step capBps call rate) = BucketCall.epoch call := by
    intro call rate
    cases call with
    | tryConsume | refund => rfl
  exact Runs.invariant_of_sorted hclock (fun _ _ hlimited => hlimited.step hcap) hsorted rfl
    (within_new _ _)

end UserRate

inductive CidrCall where
  | tryConsume (user : String) (epoch requested : ℕ)
  | refund (user : String) (epoch bytes : ℕ)
  deriving Repr, DecidableEq

def CidrCall.epoch : CidrCall → ℕ
  | .tryConsume _ epoch _ => epoch
  | .refund _ epoch _ => epoch

/-- The bucket of a network with the shares of its users.  The log says whose
grants and refunds they were. -/
structure CidrRate where
  bucket : CidrDirectionBucket
  shares : Table String CidrUserDirectionState
  clock : ℕ
  log : List (String × Entry)

namespace CidrRate

def start : CidrRate := ⟨.default, ∅, 0, []⟩

def shareOf (user : String) (rate : CidrRate) : CidrUserDirectionState :=
  (rate.shares.lookup user).getD .default

def step (capBps : ℕ) : CidrCall → CidrRate → CidrRate
  | .tryConsume user epoch requested, rate =>
    let answer := rate.bucket.tryConsumeForUser epoch capBps requested (rate.shareOf user)
    { bucket := answer.2.1
      shares := rate.shares.insert user answer.2.2
      clock := epoch
      log := rate.log ++ [(user, ⟨epoch, answer.1, 0⟩)] }
  | .refund user epoch bytes, rate =>
    { bucket := rate.bucket.refund bytes
      shares := rate.shares.insert user ((rate.shareOf user).refund bytes)
      clock := epoch
      log := rate.log ++ [(user, ⟨epoch, 0, bytes⟩)] }

def entries (rate : CidrRate) : List Entry := rate.log.map Prod.snd

def grantedTo (user : String) (rate : CidrRate) : ℕ :=
  ((rate.log.filter fun row => row.1 = user).map fun row => row.2.granted).sum

structure Limited (capBps : ℕ) (rate : CidrRate) : Prop where
  within : Within (bytesPerEpoch capBps) rate.clock rate.bucket.meter rate.entries
  shares : ∀ user, (rate.shareOf user).used ≤ rate.grantedTo user

theorem shareOf_insert (shares : Table String CidrUserDirectionState) (user other : String)
    (share : CidrUserDirectionState) :
    ((shares.insert user share).lookup other).getD .default =
      if other = user then share else (shares.lookup other).getD .default := by
  by_cases hother : other = user
  · rw [hother, AList.lookup_insert, if_pos rfl]
    rfl
  · rw [AList.lookup_insert_ne hother, if_neg hother]

theorem granted_concat (log : List (String × Entry)) (user other : String) (entry : Entry) :
    (((log ++ [(user, entry)]).filter fun row => row.1 = other).map fun row => row.2.granted).sum =
      ((log.filter fun row => row.1 = other).map fun row => row.2.granted).sum +
        if other = user then entry.granted else 0 := by
  by_cases hother : other = user
  · simp [hother]
  · simp [hother, Ne.symm hother]

theorem shares_step {rate : CidrRate} {user : String} {share : CidrUserDirectionState}
    {entry : Entry} (hshares : ∀ user, (rate.shareOf user).used ≤ rate.grantedTo user)
    (hshare : share.used ≤ (rate.shareOf user).used + entry.granted) (other : String) :
    (((rate.shares.insert user share).lookup other).getD .default).used ≤
      (((rate.log ++ [(user, entry)]).filter fun row => row.1 = other).map
        fun row => row.2.granted).sum := by
  have hold := hshares other
  rw [shareOf_insert, granted_concat]
  by_cases hother : other = user
  · subst hother
    rw [if_pos rfl, if_pos rfl]
    exact hshare.trans (Nat.add_le_add_right hold _)
  · rw [if_neg hother, if_neg hother]
    exact hold

theorem Limited.step {capBps : ℕ} (hcap : 0 < capBps) {rate : CidrRate} {call : CidrCall}
    (hlimited : Limited capBps rate) (hclock : rate.clock ≤ call.epoch) :
    Limited capBps (step capBps call rate) := by
  have htick := hlimited.within.tick hclock
  cases call with
  | tryConsume user epoch requested =>
    dsimp only [CidrRate.step, CidrDirectionBucket.tryConsumeForUser]
    rw [if_neg hcap.ne']
    constructor
    · rw [entries, List.map_append]
      exact htick.charge
        (CidrDirectionBucket.tryConsume_charge epoch requested (bytesPerEpoch_le capBps))
    · exact shares_step hlimited.shares (CidrDirectionBucket.used_tryConsume_le _ _ _)
  | refund user epoch bytes =>
    dsimp only [CidrRate.step]
    constructor
    · rw [entries, List.map_append, CidrDirectionBucket.meter_refund]
      exact htick.refund bytes
    · exact shares_step hlimited.shares (CidrUserDirectionState.used_refund_le _ _)

/-- With a clock that does not go back, no epoch exceeds the rate of the network. -/
theorem limited_run {capBps : ℕ} (hcap : 0 < capBps) {calls : List CidrCall}
    (hsorted : (calls.map CidrCall.epoch).Pairwise (· ≤ ·)) :
    Limited capBps (Runs.run (step capBps) calls start) := by
  have hclock : ∀ call rate, CidrRate.clock (step capBps call rate) = CidrCall.epoch call := by
    intro call rate
    cases call with
    | tryConsume | refund => rfl
  exact Runs.invariant_of_sorted hclock (fun _ _ hlimited => hlimited.step hcap) hsorted rfl
    ⟨within_new _ _, fun _ => Nat.zero_le _⟩

end CidrRate

/-- With a cap other than zero, the bytes granted in any consecutive epochs
exceed the bytes refunded in them by at most the cap of each epoch, and no
share of a network's bucket records more than was granted to its user. -/
theorem grants_limited (capBps : ℕ) (hcap : 0 < capBps) :
    (∀ calls : List BucketCall, (calls.map BucketCall.epoch).Pairwise (· ≤ ·) → ∀ first count,
        grantedIn (Runs.run (UserRate.step capBps) calls .start).log first count ≤
          count * bytesPerEpoch capBps +
            refundedIn (Runs.run (UserRate.step capBps) calls .start).log first count) ∧
    (∀ calls : List CidrCall, (calls.map CidrCall.epoch).Pairwise (· ≤ ·) → (∀ first count,
        grantedIn (Runs.run (CidrRate.step capBps) calls .start).entries first count ≤
          count * bytesPerEpoch capBps +
            refundedIn (Runs.run (CidrRate.step capBps) calls .start).entries first count) ∧
      ∀ user, ((Runs.run (CidrRate.step capBps) calls .start).shareOf user).used ≤
        (Runs.run (CidrRate.step capBps) calls .start).grantedTo user) := by
  constructor
  · intro calls hsorted first count
    exact (UserRate.limited_run hcap hsorted).window first count
  · intro calls hsorted
    have hlimited := CidrRate.limited_run hcap hsorted
    exact ⟨fun first count => hlimited.within.window first count, hlimited.shares⟩

/-- Two users of a network with 20 bytes an epoch, and a late refund. -/
def sharedCalls : List CidrCall :=
  [.tryConsume "alice" 3 12, .tryConsume "bob" 3 12, .tryConsume "bob" 5 12,
    .refund "alice" 5 12, .tryConsume "bob" 5 30, .tryConsume "bob" 5 30]

theorem grants_limited_shared :
    grantedIn (Runs.run (CidrRate.step 8000) sharedCalls .start).entries 5 1 = 32 ∧
      grantedIn (Runs.run (CidrRate.step 8000) sharedCalls .start).entries 5 1 ≤
        1 * bytesPerEpoch 8000 +
          refundedIn (Runs.run (CidrRate.step 8000) sharedCalls .start).entries 5 1 := by
  have hlimited := ((grants_limited 8000 (by decide)).2 sharedCalls (by decide)).1 5 1
  exact ⟨by decide, hlimited⟩

/-- A cap of zero stands for no limit. -/
theorem unlimited_at_zero :
    grantedIn (Runs.run (UserRate.step 0) [.tryConsume 0 7] .start).log 0 1 = 7 ∧
      1 * bytesPerEpoch 0 +
        refundedIn (Runs.run (UserRate.step 0) [.tryConsume 0 7] .start).log 0 1 = 0 := by
  decide

end TupoProxy.TrafficLimiter
