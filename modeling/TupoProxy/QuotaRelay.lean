import TupoProxy.MachineWords
import Mathlib.Tactic

/-!
# Quota accounting of the direct relay

Every stream of the direct relay is wrapped by `StatsIo`.  A poll first
reserves bytes in the quota counter of the user, then performs the inner I/O,
and then refunds what the inner I/O did not transfer.  The counter is shared
by all streams of the user.

A poll meets three sources of outside behaviour besides the inner stream: the
answers of the traffic lease, the timers it waits on, and the spurious
failures of a weak compare-exchange.  They are lists that the poll consumes.
-/

namespace TupoProxy.QuotaRelay

structure UserQuotaCounters where
  usedBytes : ℕ
  deriving Repr, DecidableEq

inductive QuotaReserveError where
  | limitExceeded
  | contended
  deriving Repr, DecidableEq

def UserQuotaCounters.refund (counters : UserQuotaCounters) (bytes : ℕ) :
    UserQuotaCounters :=
  ⟨counters.usedBytes - bytes⟩

/-- One reservation step.  `casFails` is the answer of the weak
compare-exchange, which may fail without another writer. -/
def UserQuotaCounters.tryReserve (counters : UserQuotaCounters)
    (bytes limit : ℕ) (casFails : Bool) :
    Except QuotaReserveError ℕ × UserQuotaCounters :=
  let current := counters.usedBytes
  if limit - current < bytes then (.error .limitExceeded, counters)
  else
    let next := min (current + bytes) u64Max
    if casFails then (.error .contended, counters)
    else (.ok next, ⟨next⟩)

structure Stats where
  quotaContentionTotal : ℕ
  quotaContentionTimeoutTotal : ℕ
  quotaRefundBytesTotal : ℕ
  telemetryUserEnabled : Bool
  octetsFromClient : ℕ
  msgsFromClient : ℕ
  octetsToClient : ℕ
  msgsToClient : ℕ
  deriving Repr, DecidableEq

def Stats.addUserTrafficFrom (stats : Stats) (bytes : ℕ) : Stats :=
  if stats.telemetryUserEnabled then
    { stats with
      octetsFromClient := stats.octetsFromClient + bytes
      msgsFromClient := stats.msgsFromClient + 1 }
  else stats

def Stats.addUserTrafficTo (stats : Stats) (bytes : ℕ) : Stats :=
  if stats.telemetryUserEnabled then
    { stats with
      octetsToClient := stats.octetsToClient + bytes
      msgsToClient := stats.msgsToClient + 1 }
  else stats

structure SharedCounters where
  c2sBytes : ℕ
  s2cBytes : ℕ
  c2sOps : ℕ
  s2cOps : ℕ
  deriving Repr, DecidableEq

/-- A timer with the reasons it was armed for.  `started` and `sleep` differ
after a successful write, which records the wait without ending the sleep. -/
structure RateWaitState where
  sleep : Bool
  started : Bool
  blockedUser : Bool
  blockedCidr : Bool
  deriving Repr, DecidableEq

def RateWaitState.new : RateWaitState := ⟨false, false, false, false⟩

structure StatsIo where
  counters : SharedCounters
  trafficLease : Bool
  c2sRateDebtBytes : ℕ
  c2sWait : RateWaitState
  s2cWait : RateWaitState
  quotaWait : RateWaitState
  quotaLimit : Option ℕ
  quotaExceeded : ℕ
  quotaBytesSinceCheck : ℕ
  deriving Repr, DecidableEq

def StatsIo.newWithTrafficLease (trafficLease : Bool) (quotaLimit : Option ℕ)
    (quotaExceeded : ℕ) : StatsIo where
  counters := ⟨0, 0, 0, 0⟩
  trafficLease := trafficLease
  c2sRateDebtBytes := 0
  c2sWait := .new
  s2cWait := .new
  quotaWait := .new
  quotaLimit := quotaLimit
  quotaExceeded := quotaExceeded
  quotaBytesSinceCheck := 0

/-- One answer of the traffic lease. -/
structure TrafficConsume where
  granted : ℕ
  blockedUser : Bool
  blockedCidr : Bool
  deriving Repr, DecidableEq

/-- What the inner stream answers to one poll. -/
inductive InnerAnswer where
  | pending
  | error
  | ready (count : ℕ)
  deriving Repr, DecidableEq

/-- A poll in progress: the stream it belongs to, what it shares with other
streams, and the outside answers it has not used yet.  `exceeded` is the value
of the stream's quota flag, `leaseRefunded` what the poll gave back to the
lease and `reserved` the quota bytes it has reserved. -/
structure PollState where
  io : StatsIo
  user : UserQuotaCounters
  stats : Stats
  exceeded : Bool
  leases : List TrafficConsume
  timers : List Bool
  casFails : List Bool
  leaseRefunded : ℕ
  reserved : ℕ
  deriving Repr, DecidableEq

inductive PollIo where
  | pending
  | quotaError
  | innerError
  | ready (count : ℕ)
  deriving Repr, DecidableEq

def PollIo.transferred : PollIo → ℕ
  | .ready count => count
  | _ => 0

def RateWaitState.recordWait (wait : RateWaitState) : RateWaitState :=
  if wait.started then
    { wait with started := false, blockedUser := false, blockedCidr := false }
  else wait

def RateWaitState.armWait (wait : RateWaitState)
    (blockedUser blockedCidr : Bool) : RateWaitState :=
  { sleep := true
    started := wait.started || !wait.sleep
    blockedUser := wait.blockedUser || blockedUser
    blockedCidr := wait.blockedCidr || blockedCidr }

/-- Poll a timer; an armed one answers by the next entry of `timers` and stays
pending once they are used up.  The Boolean says whether it is ready. -/
def RateWaitState.pollWait (wait : RateWaitState) (timers : List Bool) :
    Bool × RateWaitState × List Bool :=
  if wait.sleep then
    match timers with
    | true :: timers =>
      (true, RateWaitState.recordWait { wait with sleep := false }, timers)
    | false :: timers => (false, wait, timers)
    | [] => (false, wait, [])
  else (true, wait, timers)

/-- The loop that pays the upload debt from the lease.  A lease without
further answers grants nothing, and then the timer stays pending. -/
def settleDebt :
    List TrafficConsume → List Bool → ℕ → RateWaitState →
      Bool × ℕ × RateWaitState × List TrafficConsume × List Bool
  | leases, timers, 0, wait =>
    match wait.pollWait timers with
    | (ready, wait, timers) => (ready, 0, wait, leases, timers)
  | [], timers, debt + 1, wait =>
    (false, debt + 1, wait.armWait false false, [], timers)
  | consume :: leases, timers, debt + 1, wait =>
    if 0 < consume.granted then
      settleDebt leases timers (debt + 1 - consume.granted) wait
    else
      match (wait.armWait consume.blockedUser consume.blockedCidr).pollWait
          timers with
      | (false, wait, timers) => (false, debt + 1, wait, leases, timers)
      | (true, wait, timers) => settleDebt leases timers (debt + 1) wait

def PollState.settleC2sRateDebt (poll : PollState) : Bool × PollState :=
  if poll.io.trafficLease then
    match settleDebt poll.leases poll.timers poll.io.c2sRateDebtBytes
        poll.io.c2sWait with
    | (ready, debt, wait, leases, timers) =>
      (ready,
        { poll with
          io := { poll.io with c2sRateDebtBytes := debt, c2sWait := wait }
          leases := leases
          timers := timers })
  else
    (true, { poll with io := { poll.io with c2sRateDebtBytes := 0 } })

def PollState.armQuotaWait (poll : PollState) : Bool × PollState :=
  match (poll.io.quotaWait.armWait false false).pollWait poll.timers with
  | (ready, wait, timers) =>
    (ready,
      { poll with
        io := { poll.io with quotaWait := wait }
        timers := timers })

def quotaReserveSpinRetries : ℕ := 64
def quotaReserveMaxRounds : ℕ := 8

inductive SpinOutcome where
  | reserved
  | limitExceeded
  | contended
  deriving Repr, DecidableEq

def PollState.countContention (poll : PollState) : PollState :=
  { poll with
    casFails := poll.casFails.tail
    stats :=
      { poll.stats with
        quotaContentionTotal := poll.stats.quotaContentionTotal + 1 } }

/-- The inner reservation loop of both directions. -/
def PollState.reserveSpin (desired limit : ℕ) :
    ℕ → PollState → SpinOutcome × PollState
  | 0, poll => (.contended, poll)
  | spins + 1, poll =>
    match poll.user.tryReserve desired limit
        (poll.casFails.headD false) with
    | (.ok _, user) =>
      (.reserved,
        { poll with
          user := user
          casFails := poll.casFails.tail
          reserved := poll.reserved + desired })
    | (.error .limitExceeded, _) =>
      (.limitExceeded, { poll with casFails := poll.casFails.tail })
    | (.error .contended, _) =>
      PollState.reserveSpin desired limit spins poll.countContention

def PollState.countTimeout (poll : PollState) : PollState :=
  { poll with
    stats :=
      { poll.stats with
        quotaContentionTimeoutTotal :=
          poll.stats.quotaContentionTimeoutTotal + 1 } }

/-- The rounds of `poll_read` between two waits. -/
def PollState.reserveReadRounds (desired limit : ℕ) :
    ℕ → PollState → SpinOutcome × PollState
  | 0, poll => (.contended, poll)
  | rounds + 1, poll =>
    match poll.reserveSpin desired limit quotaReserveSpinRetries with
    | (.contended, poll) =>
      PollState.reserveReadRounds desired limit rounds poll
    | answer => answer

/-- The reservation of `poll_read`, which waits for a timer after every eight
contended rounds and goes on when the timer is ready.  Every wait uses up a
timer answer, which bounds the waits. -/
def PollState.reserveRead (desired limit : ℕ) :
    ℕ → PollState → SpinOutcome × PollState
  | 0, poll => (.contended, poll)
  | waits + 1, poll =>
    match poll.reserveReadRounds desired limit quotaReserveMaxRounds with
    | (.contended, poll) =>
      match poll.countTimeout.armQuotaWait with
      | (false, poll) => (.contended, poll)
      | (true, poll) => PollState.reserveRead desired limit waits poll
    | answer => answer

/-- What the reservation of `poll_write` ends with. -/
inductive WriteReserve where
  | reserved (bytes remaining : ℕ)
  | exhausted
  | contended
  deriving Repr, DecidableEq

/-- The rounds of `poll_write`, which reads the counter anew in each round. -/
def PollState.reserveWrite (limit len : ℕ) :
    ℕ → PollState → WriteReserve × PollState
  | 0, poll => (.contended, poll)
  | rounds + 1, poll =>
    let remaining := limit - poll.user.usedBytes
    if remaining = 0 then (.exhausted, poll)
    else
      let desired := min remaining len
      match poll.reserveSpin desired limit quotaReserveSpinRetries with
      | (.reserved, poll) => (.reserved desired remaining, poll)
      | (_, poll) => PollState.reserveWrite limit len rounds poll

/-- Refund a reservation and count the refunded bytes. -/
def PollState.refundReserved (poll : PollState) (bytes : ℕ) : PollState :=
  if bytes = 0 then poll
  else
    { poll with
      user := poll.user.refund bytes
      stats :=
        { poll.stats with
          quotaRefundBytesTotal := poll.stats.quotaRefundBytesTotal + bytes } }

def quotaNearLimitBytes : ℕ := 64 * 1024
def quotaLargeChargeBytes : ℕ := 16 * 1024
def quotaAdaptiveIntervalMinBytes : ℕ := 4 * 1024
def quotaAdaptiveIntervalMaxBytes : ℕ := 64 * 1024

def quotaAdaptiveIntervalBytes (remainingBefore : ℕ) : ℕ :=
  max quotaAdaptiveIntervalMinBytes
    (min (remainingBefore / 2) quotaAdaptiveIntervalMaxBytes)

def shouldImmediateQuotaCheck (remainingBefore chargeBytes : ℕ) : Bool :=
  decide (remainingBefore ≤ quotaNearLimitBytes) ||
    decide (quotaLargeChargeBytes ≤ chargeBytes)

/-- The byte count since the last check after a charge, and whether the charge
makes a check due. -/
def checkCadence (sinceCheck remaining charge : ℕ) : Bool × ℕ :=
  if shouldImmediateQuotaCheck remaining charge then (true, 0)
  else
    let sinceCheck := min (sinceCheck + charge) u64Max
    if quotaAdaptiveIntervalBytes remaining ≤ sinceCheck then (true, 0)
    else (false, sinceCheck)

def PollState.quotaSpent (poll : PollState) : Bool :=
  match poll.io.quotaLimit with
  | some limit => decide (limit ≤ poll.user.usedBytes)
  | none => false

/-- The upload side sets the flag whenever the quota is spent. -/
def PollState.chargeRead (poll : PollState) (bytes : ℕ)
    (remainingBefore : Option ℕ) : PollState :=
  let sinceCheck :=
    match remainingBefore with
    | some remaining =>
      (checkCadence poll.io.quotaBytesSinceCheck remaining bytes).2
    | none => poll.io.quotaBytesSinceCheck
  let counters := poll.io.counters
  let charged :=
    { poll with
      exceeded := poll.exceeded || poll.quotaSpent
      stats := poll.stats.addUserTrafficFrom bytes
      io :=
        { poll.io with
          quotaBytesSinceCheck := sinceCheck
          counters :=
            { counters with
              c2sBytes := counters.c2sBytes + bytes
              c2sOps := counters.c2sOps + 1 } } }
  if charged.io.trafficLease then
    (PollState.settleC2sRateDebt
      { charged with
        io :=
          { charged.io with
            c2sRateDebtBytes :=
              min (charged.io.c2sRateDebtBytes + bytes) u64Max } }).2
  else charged

/-- The download side sets the flag only when a check is due. -/
def PollState.chargeWrite (poll : PollState) (bytes : ℕ)
    (remainingBefore : Option ℕ) : PollState :=
  let cadence :=
    match remainingBefore with
    | some remaining => checkCadence poll.io.quotaBytesSinceCheck remaining bytes
    | none => (false, poll.io.quotaBytesSinceCheck)
  let counters := poll.io.counters
  { poll with
    exceeded := poll.exceeded || (cadence.1 && poll.quotaSpent)
    stats := poll.stats.addUserTrafficTo bytes
    io :=
      { poll.io with
        s2cWait :=
          if poll.io.trafficLease then poll.io.s2cWait.recordWait
          else poll.io.s2cWait
        quotaBytesSinceCheck := cadence.2
        counters :=
          { counters with
            s2cBytes := counters.s2cBytes + bytes
            s2cOps := counters.s2cOps + 1 } } }

def PollState.markExceeded (poll : PollState) : PollState :=
  { poll with exceeded := true }

/-- The inner read into at most `readLimit` bytes and the settlement of the
reservation against what it transferred. -/
def PollState.finishRead (poll : PollState) (reserved readLimit : ℕ)
    (remainingBefore : Option ℕ) : InnerAnswer → PollIo × PollState
  | .pending => (.pending, poll.refundReserved reserved)
  | .error => (.innerError, poll.refundReserved reserved)
  | .ready count =>
    let count := min count readLimit
    let poll := poll.refundReserved (reserved - count)
    (.ready count,
      if 0 < count then poll.chargeRead count remainingBefore else poll)

def PollState.pollRead (poll : PollState) (room : ℕ) (inner : InnerAnswer) :
    PollIo × PollState :=
  if poll.exceeded then (.quotaError, poll)
  else
    match poll.settleC2sRateDebt with
    | (false, poll) => (.pending, poll)
    | (true, poll) =>
      if room = 0 then poll.finishRead 0 0 none inner
      else
        match poll.io.quotaLimit with
        | none => poll.finishRead 0 room none inner
        | some limit =>
          let remaining := limit - poll.user.usedBytes
          let readLimit := min room remaining
          if remaining = 0 ∨ readLimit = 0 then
            (.quotaError, poll.markExceeded)
          else
            match poll.reserveRead readLimit limit
                (poll.timers.length + 1) with
            | (.limitExceeded, poll) =>
              (.quotaError, poll.markExceeded)
            | (.contended, poll) => (.pending, poll)
            | (.reserved, poll) =>
              poll.finishRead readLimit readLimit (some remaining) inner

/-- The loop that asks the lease for download bytes; `none` is a pending wait.
The Boolean of `pollWait` is ignored once bytes are granted. -/
def shapeWrite :
    List TrafficConsume → List Bool → RateWaitState →
      Option ℕ × RateWaitState × List TrafficConsume × List Bool
  | [], timers, wait => (none, wait.armWait false false, [], timers)
  | consume :: leases, timers, wait =>
    if 0 < consume.granted then
      match wait.pollWait timers with
      | (_, wait, timers) => (some consume.granted, wait, leases, timers)
    else
      match (wait.armWait consume.blockedUser consume.blockedCidr).pollWait
          timers with
      | (false, wait, timers) => (none, wait, leases, timers)
      | (true, wait, timers) => shapeWrite leases timers wait

/-- The bytes the lease has reserved for the write.  Without a lease the whole
buffer goes through and nothing is reserved. -/
def PollState.shape (poll : PollState) (len : ℕ) : Option ℕ × PollState :=
  if poll.io.trafficLease then
    if len = 0 then
      match poll.io.s2cWait.pollWait poll.timers with
      | (_, wait, timers) =>
        (some 0,
          { poll with io := { poll.io with s2cWait := wait }, timers := timers })
    else
      match shapeWrite poll.leases poll.timers poll.io.s2cWait with
      | (granted, wait, leases, timers) =>
        (granted,
          { poll with
            io := { poll.io with s2cWait := wait }
            leases := leases
            timers := timers })
  else (some 0, poll)

def PollState.refundLease (poll : PollState) (bytes : ℕ) : PollState :=
  if poll.io.trafficLease then
    { poll with leaseRefunded := poll.leaseRefunded + bytes }
  else poll

def PollState.finishWrite (poll : PollState) (reserved shaped len : ℕ)
    (remainingBefore : Option ℕ) : InnerAnswer → PollIo × PollState
  | .pending => (.pending, (poll.refundReserved reserved).refundLease shaped)
  | .error => (.innerError, (poll.refundReserved reserved).refundLease shaped)
  | .ready count =>
    let count := min count len
    let poll :=
      (poll.refundReserved (reserved - count)).refundLease (shaped - count)
    (.ready count,
      if 0 < count then poll.chargeWrite count remainingBefore else poll)

def PollState.pollWrite (poll : PollState) (len : ℕ) (inner : InnerAnswer) :
    PollIo × PollState :=
  if poll.exceeded then (.quotaError, poll)
  else
    match poll.shape len with
    | (none, poll) => (.pending, poll)
    | (some shaped, poll) =>
      let len := if poll.io.trafficLease then min len shaped else len
      match poll.io.quotaLimit with
      | none => poll.finishWrite 0 shaped len none inner
      | some limit =>
        if len = 0 then
          let remaining := limit - poll.user.usedBytes
          if remaining = 0 then
            (.quotaError, (poll.refundLease shaped).markExceeded)
          else poll.finishWrite 0 shaped 0 (some remaining) inner
        else
          match poll.reserveWrite limit len quotaReserveMaxRounds with
          | (.exhausted, poll) =>
            (.quotaError, (poll.refundLease shaped).markExceeded)
          | (.contended, poll) =>
            (.pending,
              (poll.countTimeout.refundLease shaped).armQuotaWait.2)
          | (.reserved bytes remaining, poll) =>
            poll.finishWrite bytes shaped bytes (some remaining) inner

/-! ## What a poll does to the quota -/

theorem UserQuotaCounters.tryReserve_ok {bytes limit : ℕ} {counters next : UserQuotaCounters}
    {total : ℕ} {casFails : Bool} (hlimit : limit ≤ u64Max) (hpos : 0 < bytes)
    (hreserve : counters.tryReserve bytes limit casFails = (.ok total, next)) :
    next.usedBytes = counters.usedBytes + bytes ∧ next.usedBytes ≤ limit := by
  unfold UserQuotaCounters.tryReserve at hreserve
  simp only at hreserve
  split_ifs at hreserve with hroom hfails
  · simp at hreserve
  · simp at hreserve
  · simp only [Prod.mk.injEq, Except.ok.injEq] at hreserve
    obtain ⟨rfl, rfl⟩ := hreserve
    simp only
    omega

namespace PollState

/-- Steps that touch neither the counter nor the reservation. -/
structure Untouched (before after : PollState) : Prop where
  user : after.user = before.user
  reserved : after.reserved = before.reserved
  limit : after.io.quotaLimit = before.io.quotaLimit

theorem Untouched.refl (poll : PollState) : poll.Untouched poll :=
  ⟨rfl, rfl, rfl⟩

variable {first second third : PollState}

theorem Untouched.trans
    (hfirst : first.Untouched second) (hsecond : second.Untouched third) : first.Untouched third :=
  ⟨hsecond.user.trans hfirst.user, hsecond.reserved.trans hfirst.reserved,
    hsecond.limit.trans hfirst.limit⟩

section

variable (poll : PollState)

theorem settleC2sRateDebt_untouched : poll.Untouched poll.settleC2sRateDebt.2 := by
  unfold settleC2sRateDebt
  split <;> exact ⟨rfl, rfl, rfl⟩

theorem armQuotaWait_untouched : poll.Untouched poll.armQuotaWait.2 :=
  ⟨rfl, rfl, rfl⟩

theorem shape_untouched (len : ℕ) : poll.Untouched (poll.shape len).2 := by
  unfold shape
  split
  · split <;> exact ⟨rfl, rfl, rfl⟩
  · exact .refl poll

theorem refundLease_untouched (bytes : ℕ) : poll.Untouched (poll.refundLease bytes) := by
  unfold refundLease
  split <;> exact ⟨rfl, rfl, rfl⟩

theorem markExceeded_untouched : poll.Untouched poll.markExceeded :=
  ⟨rfl, rfl, rfl⟩

theorem chargeRead_untouched (bytes : ℕ) (remainingBefore : Option ℕ) :
    poll.Untouched (poll.chargeRead bytes remainingBefore) := by
  unfold chargeRead
  simp only
  split
  · refine .trans ?_ (settleC2sRateDebt_untouched _)
    exact ⟨rfl, rfl, rfl⟩
  · exact ⟨rfl, rfl, rfl⟩

theorem chargeWrite_untouched (bytes : ℕ) (remainingBefore : Option ℕ) :
    poll.Untouched (poll.chargeWrite bytes remainingBefore) :=
  ⟨rfl, rfl, rfl⟩

end

/-- A reservation moves `bytes` into the counter, which stays within the
limit. -/
structure Reserves (before after : PollState) (bytes limit : ℕ) :
    Prop where
  used : after.user.usedBytes = before.user.usedBytes + bytes
  reserved : after.reserved = before.reserved + bytes
  within : after.user.usedBytes ≤ limit
  limit : after.io.quotaLimit = before.io.quotaLimit

variable {bytes limit desired : ℕ} {next poll before after : PollState}

theorem Untouched.reserves
    (hfirst : first.Untouched second) (hsecond : second.Reserves third bytes limit) :
    first.Reserves third bytes limit :=
  ⟨hfirst.user ▸ hsecond.used, hfirst.reserved ▸ hsecond.reserved,
    hsecond.within, hsecond.limit.trans hfirst.limit⟩

/-- What an attempt with an outcome does to the quota. -/
def Attempts (before after : PollState) (desired limit : ℕ) (outcome : SpinOutcome) : Prop :=
  (outcome = .reserved → before.Reserves after desired limit) ∧
    (outcome ≠ .reserved → before.Untouched after)

theorem Untouched.attempts {outcome : SpinOutcome}
    (hfirst : first.Untouched second) (hsecond : second.Attempts third desired limit outcome) :
    first.Attempts third desired limit outcome :=
  ⟨fun heq => hfirst.reserves (hsecond.1 heq), fun hne => hfirst.trans (hsecond.2 hne)⟩

section

variable (hlimit : limit ≤ u64Max)
include hlimit

variable {outcome : SpinOutcome}

/-- A bounded number of attempts reserves all that is desired or nothing. -/
theorem reserveSpin_spec {spins : ℕ}
    (hpos : 0 < desired) (hspin : poll.reserveSpin desired limit spins = (outcome, next)) :
    poll.Attempts next desired limit outcome := by
  induction spins generalizing poll with
  | zero =>
    simp only [reserveSpin, Prod.mk.injEq] at hspin
    obtain ⟨rfl, rfl⟩ := hspin
    exact ⟨by simp, fun _ => .refl poll⟩
  | succ spins ih =>
    simp only [reserveSpin] at hspin
    split at hspin
    · next total user hreserve =>
        obtain ⟨rfl, rfl⟩ := hspin
        obtain ⟨hused, hwithin⟩ := UserQuotaCounters.tryReserve_ok hlimit hpos hreserve
        exact ⟨fun _ => ⟨hused, rfl, hwithin, rfl⟩, by simp⟩
    · simp only [Prod.mk.injEq] at hspin
      obtain ⟨rfl, rfl⟩ := hspin
      exact ⟨by simp, fun _ => ⟨rfl, rfl, rfl⟩⟩
    · have hsame : poll.Untouched poll.countContention := ⟨rfl, rfl, rfl⟩
      exact hsame.attempts (ih hspin)

theorem reserveReadRounds_spec {rounds : ℕ} (hpos : 0 < desired)
    (hrounds : poll.reserveReadRounds desired limit rounds = (outcome, next)) :
    poll.Attempts next desired limit outcome := by
  induction rounds generalizing poll with
  | zero =>
    simp only [reserveReadRounds, Prod.mk.injEq] at hrounds
    obtain ⟨rfl, rfl⟩ := hrounds
    exact ⟨by simp, fun _ => .refl poll⟩
  | succ rounds ih =>
    simp only [reserveReadRounds] at hrounds
    split at hrounds
    · next contended hspin =>
        have hsame := (reserveSpin_spec hlimit hpos hspin).2 (by simp)
        exact hsame.attempts (ih hrounds)
    · exact reserveSpin_spec hlimit hpos hrounds

/-- A reservation takes what it answers from the quota and no more. -/
theorem reserveRead_spec {waits : ℕ}
    (hpos : 0 < desired) (hread : poll.reserveRead desired limit waits = (outcome, next)) :
    poll.Attempts next desired limit outcome := by
  induction waits generalizing poll with
  | zero =>
    simp only [reserveRead, Prod.mk.injEq] at hread
    obtain ⟨rfl, rfl⟩ := hread
    exact ⟨by simp, fun _ => .refl poll⟩
  | succ waits ih =>
    simp only [reserveRead] at hread
    split at hread
    · next contended hrounds =>
        have hsame : poll.Untouched contended.countTimeout.armQuotaWait.2 :=
          .trans ((reserveReadRounds_spec hlimit hpos hrounds).2 (by simp)) ⟨rfl, rfl, rfl⟩
        split at hread
        · next waiting hwait =>
            obtain ⟨rfl, rfl⟩ := hread
            rw [hwait] at hsame
            exact ⟨by simp, fun _ => hsame⟩
        · next ready hwait =>
            rw [hwait] at hsame
            exact hsame.attempts (ih hread)
    · exact reserveReadRounds_spec hlimit hpos hread

theorem reserveWrite_spec {len rounds : ℕ} {outcome : WriteReserve} (hlen : 0 < len)
    (hwrite : poll.reserveWrite limit len rounds = (outcome, next)) :
    (∀ bytes remaining, outcome = .reserved bytes remaining → poll.Reserves next bytes limit) ∧
      ((∀ bytes remaining, outcome ≠ .reserved bytes remaining) → poll.Untouched next) := by
  induction rounds generalizing poll with
  | zero =>
    simp only [reserveWrite, Prod.mk.injEq] at hwrite
    obtain ⟨rfl, rfl⟩ := hwrite
    exact ⟨by simp, fun _ => .refl poll⟩
  | succ rounds ih =>
    by_cases hspent : limit - poll.user.usedBytes = 0
    · simp only [reserveWrite, if_pos hspent, Prod.mk.injEq] at hwrite
      obtain ⟨rfl, rfl⟩ := hwrite
      exact ⟨by simp, fun _ => .refl poll⟩
    · have hpos : 0 < min (limit - poll.user.usedBytes) len := by omega
      simp only [reserveWrite, if_neg hspent] at hwrite
      split at hwrite
      · next reserved hspin =>
          obtain ⟨rfl, rfl⟩ := hwrite
          have hspec := (reserveSpin_spec hlimit hpos hspin).1 rfl
          refine ⟨fun bytes remaining heq => ?_, fun hne => ?_⟩
          · cases heq
            exact hspec
          · exact absurd rfl (hne _ _)
      · next answer contended hne hspin =>
          have hsame := (reserveSpin_spec hlimit hpos hspin).2 hne
          obtain ⟨hreserved, hother⟩ := ih hwrite
          exact ⟨fun bytes remaining heq =>
              hsame.reserves (hreserved bytes remaining heq),
            fun hall => hsame.trans (hother hall)⟩

end

theorem refundReserved_spec (poll : PollState) (bytes : ℕ) :
    (poll.refundReserved bytes).user.usedBytes = poll.user.usedBytes - bytes ∧
      (poll.refundReserved bytes).reserved = poll.reserved ∧
      (poll.refundReserved bytes).io.quotaLimit = poll.io.quotaLimit := by
  unfold refundReserved
  split
  · next hzero => simp [hzero]
  · exact ⟨rfl, rfl, rfl⟩

/-- The counter has grown by exactly what the poll transferred, within the
limit, and the poll reserved at least that much. -/
structure Exact (before : PollState) (limit : ℕ)
    (answer : PollIo × PollState) : Prop where
  used : answer.2.user.usedBytes =
    before.user.usedBytes + answer.1.transferred
  within : answer.2.user.usedBytes ≤ limit
  backed : before.reserved + answer.1.transferred ≤ answer.2.reserved
  limit : answer.2.io.quotaLimit = before.io.quotaLimit

variable {result : PollIo}

theorem Untouched.exact (hsame : before.Untouched after)
    (hwithin : before.user.usedBytes ≤ limit) (hnothing : result.transferred = 0) :
    before.Exact limit (result, after) := by
  refine ⟨?_, ?_, ?_, hsame.limit⟩
  · simp [hsame.user, hnothing]
  · simpa [hsame.user] using hwithin
  · simp [hsame.reserved, hnothing]

theorem Untouched.reserves_zero (hsame : before.Untouched after)
    (hwithin : before.user.usedBytes ≤ limit) : before.Reserves after 0 limit :=
  ⟨by rw [hsame.user, Nat.add_zero], by rw [hsame.reserved, Nat.add_zero],
    by rwa [hsame.user], hsame.limit⟩

theorem Reserves.refund (hreserves : before.Reserves after bytes limit) (result : PollIo)
    (hcount : result.transferred ≤ bytes) :
    before.Exact limit (result, after.refundReserved (bytes - result.transferred)) := by
  obtain ⟨hrefund, hkept, hlimit⟩ := after.refundReserved_spec (bytes - result.transferred)
  have hused := hreserves.used
  have hwithin := hreserves.within
  refine ⟨?_, ?_, ?_, hlimit.trans hreserves.limit⟩
  · simp only [hrefund]
    omega
  · simp only [hrefund]
    omega
  · simp only [hkept, hreserves.reserved]
    omega

theorem Exact.untouched {middle : PollState}
    (hexact : before.Exact limit (result, middle)) (hsame : middle.Untouched after) :
    before.Exact limit (result, after) :=
  ⟨by rw [hsame.user]; exact hexact.used, by rw [hsame.user]; exact hexact.within,
    by rw [hsame.reserved]; exact hexact.backed, hsame.limit.trans hexact.limit⟩

theorem Reserves.finishRead {reserved readLimit : ℕ} (remainingBefore : Option ℕ)
    (inner : InnerAnswer) (hreserves : before.Reserves poll reserved limit)
    (hroom : readLimit ≤ reserved) :
    before.Exact limit (poll.finishRead reserved readLimit remainingBefore inner) := by
  cases inner with
  | pending => exact hreserves.refund .pending (Nat.zero_le _)
  | error => exact hreserves.refund .innerError (Nat.zero_le _)
  | ready count =>
    have hexact := hreserves.refund (.ready _) (show min count readLimit ≤ reserved by omega)
    simp only [PollState.finishRead]
    split
    · exact hexact.untouched (chargeRead_untouched _ _ _)
    · exact hexact

theorem Reserves.finishWrite {reserved len : ℕ} (shaped : ℕ)
    (remainingBefore : Option ℕ) (inner : InnerAnswer)
    (hreserves : before.Reserves poll reserved limit) (hroom : len ≤ reserved) :
    before.Exact limit (poll.finishWrite reserved shaped len remainingBefore inner) := by
  cases inner with
  | pending =>
    exact (hreserves.refund .pending (Nat.zero_le _)).untouched (refundLease_untouched _ _)
  | error =>
    exact (hreserves.refund .innerError (Nat.zero_le _)).untouched (refundLease_untouched _ _)
  | ready count =>
    have hexact := (hreserves.refund (.ready _) (show min count len ≤ reserved by omega)).untouched
      (refundLease_untouched _ (shaped - min count len))
    simp only [PollState.finishWrite]
    split
    · exact hexact.untouched (chargeWrite_untouched _ _ _)
    · exact hexact

section

variable (hlimit : limit ≤ u64Max) (hquota : poll.io.quotaLimit = some limit)
  (hwithin : poll.user.usedBytes ≤ limit)
include hlimit hquota hwithin

theorem pollRead_exact
    (room : ℕ) (inner : InnerAnswer) : poll.Exact limit (poll.pollRead room inner) := by
  unfold pollRead
  split
  · exact (Untouched.refl poll).exact hwithin rfl
  · have hsettle := poll.settleC2sRateDebt_untouched
    split
    · next settled hsettled =>
        rw [hsettled] at hsettle
        exact hsettle.exact hwithin rfl
    · next settled hsettled =>
        rw [hsettled] at hsettle
        split
        · exact (hsettle.reserves_zero hwithin).finishRead _ _ le_rfl
        · have hsome : settled.io.quotaLimit = some limit := hsettle.limit.trans hquota
          simp only [hsome]
          split
          · exact (hsettle.trans settled.markExceeded_untouched).exact hwithin rfl
          · next hroom =>
              have hpos : 0 < min room (limit - settled.user.usedBytes) := by
                omega
              split
              · next answer hreserve =>
                  have hspec := (reserveRead_spec hlimit hpos hreserve).2 (by simp)
                  exact ((hsettle.trans hspec).trans
                    answer.markExceeded_untouched).exact hwithin rfl
              · next answer hreserve =>
                  have hspec := (reserveRead_spec hlimit hpos hreserve).2 (by simp)
                  exact (hsettle.trans hspec).exact hwithin rfl
              · next answer hreserve =>
                  have hspec := (reserveRead_spec hlimit hpos hreserve).1 rfl
                  exact (hsettle.reserves hspec).finishRead _ _ le_rfl

theorem pollWrite_exact (len : ℕ)
    (inner : InnerAnswer) : poll.Exact limit (poll.pollWrite len inner) := by
  unfold pollWrite
  split
  · exact (Untouched.refl poll).exact hwithin rfl
  · have hshape := poll.shape_untouched len
    split
    · next shaped hshaped =>
        rw [hshaped] at hshape
        exact hshape.exact hwithin rfl
    · next granted shaped hshaped =>
        rw [hshaped] at hshape
        have hsome : shaped.io.quotaLimit = some limit := hshape.limit.trans hquota
        have hlease := fun after : PollState =>
          after.refundLease_untouched granted
        simp only [hsome]
        generalize (if shaped.io.trafficLease then min len granted else len) = writeLen
        by_cases hempty : writeLen = 0
        · rw [if_pos hempty]
          split
          · exact ((hshape.trans (hlease shaped)).trans
              (markExceeded_untouched _)).exact hwithin rfl
          · exact (hshape.reserves_zero hwithin).finishWrite _ _ _ le_rfl
        · rw [if_neg hempty]
          have hpos : 0 < writeLen := by omega
          split
          · next answer hreserve =>
              have hspec := (reserveWrite_spec hlimit hpos hreserve).2 (by simp)
              exact (((hshape.trans hspec).trans (hlease answer)).trans
                (markExceeded_untouched _)).exact hwithin rfl
          · next answer hreserve =>
              have hspec := (reserveWrite_spec hlimit hpos hreserve).2 (by simp)
              have hcount : answer.Untouched answer.countTimeout := ⟨rfl, rfl, rfl⟩
              exact ((((hshape.trans hspec).trans hcount).trans (hlease answer.countTimeout)).trans
                (armQuotaWait_untouched _)).exact hwithin rfl
          · next bytes remaining answer hreserve =>
              have hspec := (reserveWrite_spec hlimit hpos hreserve).1 bytes remaining rfl
              exact (hshape.reserves hspec).finishWrite _ _ _ le_rfl

end

end PollState

/-! ## Runs over several streams -/

/-- All streams of one user.  `flags` holds the quota flags, which streams may
share. -/
structure System where
  user : UserQuotaCounters
  stats : Stats
  flags : ℕ → Bool
  streams : List StatsIo

inductive PollOp where
  | read (room : ℕ)
  | write (len : ℕ)
  deriving Repr, DecidableEq

/-- One poll of one stream together with everything outside it that it meets. -/
structure PollRequest where
  stream : ℕ
  op : PollOp
  inner : InnerAnswer
  leases : List TrafficConsume
  timers : List Bool
  casFails : List Bool
  deriving Repr, DecidableEq

structure PollReport where
  result : PollIo
  reserved : ℕ
  deriving Repr, DecidableEq

def PollReport.transferred (report : PollReport) : ℕ :=
  report.result.transferred

def System.begin (system : System) (request : PollRequest) (io : StatsIo) :
    PollState where
  io := io
  user := system.user
  stats := system.stats
  exceeded := system.flags io.quotaExceeded
  leases := request.leases
  timers := request.timers
  casFails := request.casFails
  leaseRefunded := 0
  reserved := 0

def PollOp.perform (op : PollOp) (poll : PollState) (inner : InnerAnswer) :
    PollIo × PollState :=
  match op with
  | .read room => poll.pollRead room inner
  | .write len => poll.pollWrite len inner

/-- Perform one request; a request for a stream that does not exist does
nothing. -/
def System.step (system : System) (request : PollRequest) :
    PollReport × System :=
  match system.streams[request.stream]? with
  | none => (⟨.pending, 0⟩, system)
  | some io =>
    let (result, poll) :=
      request.op.perform (system.begin request io) request.inner
    (⟨result, poll.reserved⟩,
      { user := poll.user
        stats := poll.stats
        flags := Function.update system.flags io.quotaExceeded poll.exceeded
        streams := system.streams.set request.stream poll.io })

def System.run : System → List PollRequest → List PollReport × System
  | system, [] => ([], system)
  | system, request :: requests =>
    let (report, system) := system.step request
    let (reports, system) := System.run system requests
    (report :: reports, system)

/-- Every stream charges the same limit, and the counter is within it. -/
structure System.Limited (system : System) (limit : ℕ) : Prop where
  streams : ∀ io ∈ system.streams, io.quotaLimit = some limit
  within : system.user.usedBytes ≤ limit

section

variable {limit : ℕ} {system : System} (hlimit : limit ≤ u64Max) (hlimited : system.Limited limit)
include hlimit hlimited

/-- One poll charges exactly the bytes it moved, within the limit. -/
theorem System.Limited.step_exact (request : PollRequest) :
    (system.step request).2.Limited limit ∧ (system.step request).2.user.usedBytes =
        system.user.usedBytes + (system.step request).1.transferred ∧
      (system.step request).1.transferred ≤ (system.step request).1.reserved := by
  unfold System.step
  split
  · exact ⟨hlimited, rfl, le_rfl⟩
  · next io hio =>
      have hquota : io.quotaLimit = some limit := hlimited.streams io (List.mem_of_getElem? hio)
      have hexact : (system.begin request io).Exact limit
          (request.op.perform (system.begin request io) request.inner) := by
        cases request.op with
        | read room =>
          exact PollState.pollRead_exact hlimit hquota hlimited.within _ _
        | write len =>
          exact PollState.pollWrite_exact hlimit hquota hlimited.within _ _
      refine ⟨⟨?_, hexact.within⟩, hexact.used, ?_⟩
      · intro other hmem
        rcases List.mem_or_eq_of_mem_set hmem with hold | rfl
        · exact hlimited.streams other hold
        · exact hexact.limit.trans hquota
      · have hbacked := hexact.backed
        simp only [System.begin, Nat.zero_add] at hbacked
        exact hbacked

/-- Over any requests the quota is charged exactly for what was transferred. -/
theorem System.Limited.run_spec (requests : List PollRequest) :
    (system.run requests).2.Limited limit ∧
      (system.run requests).2.user.usedBytes = system.user.usedBytes +
        ((system.run requests).1.map PollReport.transferred).sum ∧
      ∀ report ∈ (system.run requests).1, report.transferred ≤ report.reserved := by
  induction requests generalizing system with
  | nil => exact ⟨hlimited, by simp [System.run], by simp [System.run]⟩
  | cons request requests ih =>
    obtain ⟨hnext, hused, hbacked⟩ := hlimited.step_exact hlimit request
    obtain ⟨hfinal, hrest, hall⟩ := ih hnext
    refine ⟨hfinal, ?_, ?_⟩
    · simp only [System.run, List.map_cons, List.sum_cons]
      omega
    · intro report hmem
      rcases List.mem_cons.mp hmem with rfl | hlater
      · exact hbacked
      · exact hall report hlater

end

/-- For any number of streams of one user and every sequence of polls, the
quota counter grows by exactly the transferred bytes, never passes the limit,
and every poll has reserved what it transferred. -/
theorem System.run_exact {system : System} {limit : ℕ} (hlimit : limit ≤ u64Max)
    (hstreams : ∀ io ∈ system.streams, io.quotaLimit = some limit)
    (hwithin : system.user.usedBytes ≤ limit) (requests : List PollRequest) :
    (system.run requests).2.user.usedBytes = system.user.usedBytes +
        ((system.run requests).1.map PollReport.transferred).sum ∧
      (system.run requests).2.user.usedBytes ≤ limit ∧ ∀ report ∈ (system.run requests).1,
        report.transferred ≤ report.reserved := by
  obtain ⟨hfinal, hused, hbacked⟩ := System.Limited.run_spec hlimit ⟨hstreams, hwithin⟩ requests
  exact ⟨hused, hfinal.within, hbacked⟩

/-- Two streams of a user with ten bytes of quota, four of them used. -/
def twoStreams : System where
  user := ⟨4⟩
  stats := ⟨0, 0, 0, true, 0, 0, 0, 0⟩
  flags := fun _ => false
  streams := [.newWithTrafficLease false (some 10) 0,
    .newWithTrafficLease true (some 10) 1]

/-- A short read after one spurious failure, a pending write, a write cut by
the lease, an inner error and a read into the last byte of the quota. -/
def mixedPolls : List PollRequest :=
  [⟨0, .read 8, .ready 3, [], [], [true]⟩,
    ⟨1, .write 5, .pending, [⟨5, false, false⟩], [], []⟩,
    ⟨1, .write 5, .ready 5, [⟨2, false, false⟩], [], []⟩,
    ⟨0, .write 4, .error, [], [], []⟩,
    ⟨1, .read 9, .ready 9, [], [], []⟩,
    ⟨1, .read 9, .ready 9, [], [], []⟩]

theorem System.run_exact_mixed :
    (twoStreams.run mixedPolls).1 = [⟨.ready 3, 6⟩, ⟨.pending, 3⟩, ⟨.ready 2, 2⟩, ⟨.innerError, 1⟩,
          ⟨.ready 1, 1⟩, ⟨.quotaError, 0⟩] ∧
      (twoStreams.run mixedPolls).2.user.usedBytes = 4 + 6 := by
  have hreports : (twoStreams.run mixedPolls).1 =
      [⟨.ready 3, 6⟩, ⟨.pending, 3⟩, ⟨.ready 2, 2⟩, ⟨.innerError, 1⟩,
        ⟨.ready 1, 1⟩, ⟨.quotaError, 0⟩] := by decide +kernel
  have hstreams : ∀ io ∈ twoStreams.streams, io.quotaLimit = some 10 := by
    simp [twoStreams, StatsIo.newWithTrafficLease]
  have hexact := System.run_exact (by decide) hstreams (by decide) mixedPolls
  exact ⟨hreports, hexact.1⟩

end TupoProxy.QuotaRelay
