import TupoProxy.PoolWriters
import TupoProxy.Runs

/-!
# Refills after a lost writer

The loss of a writer triggers a task that reconnects.  A mark for the endpoint
and a mark for the DC and family keep refills from running twice.  The endpoint
mark is taken by the trigger, or by the task if the lock was contended, and the
DC mark by the task.  A step of a task goes from one await to the next, and what
the pool answers there is a choice of the step.
-/

namespace TupoProxy

open Function

/-- The marks are those that somebody holds, each held once. -/
structure Marks {ι κ : Type} (holder : ι → Option κ) (marks : Finset κ) : Prop where
  held : ∀ key, key ∈ marks ↔ ∃ id, holder id = some key
  single : ∀ id other key, holder id = some key → holder other = some key → id = other

namespace Marks

variable {ι κ : Type} {holder : ι → Option κ} {marks : Finset κ} {id : ι} {key : κ}

theorem none : Marks (fun _ : ι => (none : Option κ)) ∅ where
  held _ := by simp
  single _ _ _ hheld := nomatch hheld

theorem eq_empty (hmarks : Marks holder marks) (hnone : ∀ id, holder id = .none) : marks = ∅ := by
  apply Finset.eq_empty_of_forall_notMem
  intro key hmem
  obtain ⟨id, hheld⟩ := (hmarks.held key).mp hmem
  cases (hnone id).symm.trans hheld

variable [DecidableEq ι]

theorem keep (hmarks : Marks holder marks) {mark : Option κ} (hsame : mark = holder id) :
    Marks (Function.update holder id mark) marks := by
  rw [hsame, update_eq_self]
  exact hmarks

variable [DecidableEq κ]

theorem take (hmarks : Marks holder marks) (hnone : holder id = .none) (hfresh : key ∉ marks) :
    Marks (Function.update holder id (some key)) (insert key marks) := by
  have hheld := hmarks.held
  have hsingle := hmarks.single
  constructor
  · intro found
    rw [Finset.mem_insert, hheld]
    constructor
    · rintro (rfl | ⟨other, hother⟩)
      · exact ⟨id, update_self _ _ _⟩
      · exact ⟨other, by grind [update_apply]⟩
    · rintro ⟨other, hother⟩
      grind [update_apply]
  · intro first second found hfirst hsecond
    grind [update_apply]

theorem drop (hmarks : Marks holder marks) (hid : holder id = some key) :
    Marks (Function.update holder id .none) (marks.erase key) := by
  have hheld := hmarks.held
  have hsingle := hmarks.single
  constructor
  · intro found
    rw [Finset.mem_erase, hheld]
    constructor
    · rintro ⟨hfound, other, hother⟩
      exact ⟨other, by grind [update_apply]⟩
    · rintro ⟨other, hother⟩
      grind [update_apply]
  · intro first second found hfirst hsecond
    grind [update_apply]

end Marks

namespace MiddleProxy

open Runs

def meRefillTotalAttemptCap : ℕ := 20

/-- Where a refill awaits: the state of the pool, a connect round to the lost endpoint or
to the endpoints of the DC, or nothing any more. -/
inductive RefillPhase where
  | probing
  | sameEndpoint (attempt : ℕ)
  | fallback (attempt : ℕ)
  | returned (restored : Bool)
  deriving DecidableEq

/-- `rounds` counts the connect rounds that were begun. -/
structure RefillRun where
  fastRetries : ℕ
  totalAttempts : ℕ
  dcEndpoints : List SocketAddr
  phase : RefillPhase
  rounds : ℕ
  deriving DecidableEq

/-- What the pool answers at an await of a refill. -/
structure RefillAnswer where
  quarantined : Bool
  dcEndpoints : List SocketAddr
  disableQuarantine : Bool
  connected : Bool

namespace RefillRun

def start (fastRetryCount : ℕ) : RefillRun := ⟨max fastRetryCount 1, 0, [], .probing, 0⟩

def connect (run : RefillRun) (phase : RefillPhase) : RefillRun :=
  { run with
    totalAttempts := run.totalAttempts + 1
    phase := phase
    rounds := run.rounds + 1 }

def tryFallback (run : RefillRun) (attempt : ℕ) : RefillRun :=
  if attempt < run.fastRetries ∧ run.totalAttempts < meRefillTotalAttemptCap then
    run.connect (.fallback attempt)
  else { run with phase := .returned false }

def afterSameEndpoint (run : RefillRun) : RefillRun :=
  if run.dcEndpoints.isEmpty then { run with phase := .returned false } else run.tryFallback 0

def trySameEndpoint (run : RefillRun) (attempt : ℕ) : RefillRun :=
  if attempt < run.fastRetries ∧ run.totalAttempts < meRefillTotalAttemptCap then
    run.connect (.sameEndpoint attempt)
  else run.afterSameEndpoint

/-- `refill_writer_after_loss` from one await to the next. -/
def advance (addr : SocketAddr) (answer : RefillAnswer) (run : RefillRun) : RefillRun :=
  match run.phase with
  | .probing =>
    let run := { run with dcEndpoints := answer.dcEndpoints }
    if !answer.quarantined || decide (answer.dcEndpoints = [addr]) && answer.disableQuarantine then
      run.trySameEndpoint 0
    else run.afterSameEndpoint
  | .sameEndpoint attempt =>
    if answer.connected then { run with phase := .returned true }
    else run.trySameEndpoint (attempt + 1)
  | .fallback attempt =>
    if answer.connected then { run with phase := .returned true }
    else run.tryFallback (attempt + 1)
  | .returned _ => run

structure Capped (run : RefillRun) : Prop where
  counted : run.totalAttempts = run.rounds
  rounds_le : run.rounds ≤ meRefillTotalAttemptCap

variable {run : RefillRun}

theorem Capped.tryFallback (hcapped : run.Capped) (attempt : ℕ) :
    (run.tryFallback attempt).Capped := by
  have hcounted := hcapped.counted
  unfold RefillRun.tryFallback
  split
  · next hroom =>
    refine ⟨congrArg (· + 1) hcounted, ?_⟩
    dsimp only [connect]
    omega
  · exact ⟨hcounted, hcapped.rounds_le⟩

theorem Capped.afterSameEndpoint (hcapped : run.Capped) : run.afterSameEndpoint.Capped := by
  unfold RefillRun.afterSameEndpoint
  split
  · exact ⟨hcapped.counted, hcapped.rounds_le⟩
  · exact hcapped.tryFallback 0

theorem Capped.trySameEndpoint (hcapped : run.Capped) (attempt : ℕ) :
    (run.trySameEndpoint attempt).Capped := by
  have hcounted := hcapped.counted
  unfold RefillRun.trySameEndpoint
  split
  · next hroom =>
    refine ⟨congrArg (· + 1) hcounted, ?_⟩
    dsimp only [connect]
    omega
  · exact hcapped.afterSameEndpoint

theorem Capped.advance (hcapped : run.Capped) (addr : SocketAddr) (answer : RefillAnswer) :
    (run.advance addr answer).Capped := by
  have hprobed : Capped { run with dcEndpoints := answer.dcEndpoints } :=
    ⟨hcapped.counted, hcapped.rounds_le⟩
  unfold RefillRun.advance
  split
  · split
    · exact hprobed.trySameEndpoint 0
    · exact hprobed.afterSameEndpoint
  · split
    · exact ⟨hcapped.counted, hcapped.rounds_le⟩
    · exact hcapped.trySameEndpoint _
  · split
    · exact ⟨hcapped.counted, hcapped.rounds_le⟩
    · exact hcapped.tryFallback _
  · exact hcapped

end RefillRun

/-! ## Tasks and marks -/

structure RefillDcKey where
  dc : ℤ
  family : IpFamily
  deriving DecidableEq

structure RefillEndpointKey where
  dc : ℤ
  addr : SocketAddr
  deriving DecidableEq

/-- The await of a spawned task.  The locks are named by what is done under them. -/
inductive RefillStage where
  | markEndpoint
  | markDc
  | skip
  | refilling (run : RefillRun)
  | unmarkEndpoint
  | unmarkDc
  | finished
  deriving DecidableEq

structure RefillTask where
  addr : SocketAddr
  writerDc : ℤ
  stage : RefillStage
  deriving DecidableEq

namespace RefillTask

def endpointKey (task : RefillTask) : RefillEndpointKey := ⟨task.writerDc, task.addr⟩

def dcKey (task : RefillTask) : RefillDcKey :=
  ⟨task.writerDc, if task.addr.ip.isV4 then .v4 else .v6⟩

def endpointMark (task : RefillTask) : Option RefillEndpointKey :=
  match task.stage with
  | .markDc | .skip | .refilling _ | .unmarkEndpoint => some task.endpointKey
  | .markEndpoint | .unmarkDc | .finished => none

def dcMark (task : RefillTask) : Option RefillDcKey :=
  match task.stage with
  | .refilling _ | .unmarkEndpoint | .unmarkDc => some task.dcKey
  | .markEndpoint | .markDc | .skip | .finished => none

end RefillTask

structure RefillPool where
  refillInflight : Finset RefillEndpointKey
  refillInflightDc : Finset RefillDcKey
  spawned : ℕ
  tasks : ℕ → Option RefillTask

namespace RefillPool

inductive Action where
  | trigger (addr : SocketAddr) (writerDc : ℤ) (contended : Bool)
  | advance (id : ℕ) (answer : RefillAnswer)

def start : RefillPool := ⟨∅, ∅, 0, fun _ => none⟩

def spawn (pool : RefillPool) (task : RefillTask) : RefillPool :=
  { pool with
    spawned := pool.spawned + 1
    tasks := Function.update pool.tasks pool.spawned (some task) }

def triggerImmediateRefillForDc (pool : RefillPool) (addr : SocketAddr) (writerDc : ℤ)
    (contended : Bool) : RefillPool :=
  let endpointKey : RefillEndpointKey := ⟨writerDc, addr⟩
  if contended then pool.spawn ⟨addr, writerDc, .markEndpoint⟩
  else if endpointKey ∈ pool.refillInflight then pool
  else
    { pool with refillInflight := insert endpointKey pool.refillInflight }.spawn
      ⟨addr, writerDc, .markDc⟩

def setStage (pool : RefillPool) (id : ℕ) (task : RefillTask) (stage : RefillStage) :
    RefillPool :=
  { pool with tasks := Function.update pool.tasks id (some { task with stage := stage }) }

/-- The spawned task from one await to the next. -/
def advance (fastRetryCount : ℕ) (pool : RefillPool) (id : ℕ) (task : RefillTask)
    (answer : RefillAnswer) : RefillPool :=
  match task.stage with
  | .markEndpoint =>
    if task.endpointKey ∈ pool.refillInflight then pool.setStage id task .finished
    else
      { pool with refillInflight := insert task.endpointKey pool.refillInflight }.setStage id
        task .markDc
  | .markDc =>
    if task.dcKey ∈ pool.refillInflightDc then pool.setStage id task .skip
    else
      { pool with refillInflightDc := insert task.dcKey pool.refillInflightDc }.setStage id
        task (.refilling (.start fastRetryCount))
  | .skip =>
    { pool with refillInflight := pool.refillInflight.erase task.endpointKey }.setStage id
      task .finished
  | .refilling run =>
    match run.phase with
    | .returned _ => pool.setStage id task .unmarkEndpoint
    | _ => pool.setStage id task (.refilling (run.advance task.addr answer))
  | .unmarkEndpoint =>
    { pool with refillInflight := pool.refillInflight.erase task.endpointKey }.setStage id
      task .unmarkDc
  | .unmarkDc =>
    { pool with refillInflightDc := pool.refillInflightDc.erase task.dcKey }.setStage id
      task .finished
  | .finished => pool

def step (fastRetryCount : ℕ) : Action → RefillPool → RefillPool
  | .trigger addr writerDc contended, pool =>
    pool.triggerImmediateRefillForDc addr writerDc contended
  | .advance id answer, pool =>
    match pool.tasks id with
    | some task => pool.advance fastRetryCount id task answer
    | none => pool

def endpointHolder (pool : RefillPool) : ℕ → Option RefillEndpointKey :=
  (fun task => task.bind RefillTask.endpointMark) ∘ pool.tasks

def dcHolder (pool : RefillPool) : ℕ → Option RefillDcKey :=
  (fun task => task.bind RefillTask.dcMark) ∘ pool.tasks

structure Sound (pool : RefillPool) : Prop where
  endpoints : Marks pool.endpointHolder pool.refillInflight
  dcs : Marks pool.dcHolder pool.refillInflightDc
  unspawned : ∀ id, pool.spawned ≤ id → pool.tasks id = none
  capped : ∀ id task run, pool.tasks id = some task → task.stage = .refilling run →
    run.Capped

variable {pool : RefillPool} {id : ℕ} {task : RefillTask}

theorem start_sound : start.Sound where
  endpoints := .none
  dcs := .none
  unspawned _ _ := rfl
  capped := nofun

/-- One task changes, and the sets with its marks. -/
theorem Sound.put (hsound : pool.Sound) {inflight : Finset RefillEndpointKey}
    {inflightDc : Finset RefillDcKey} {spawned : ℕ} (new : RefillTask)
    (hendpoints : Marks (Function.update pool.endpointHolder id new.endpointMark) inflight)
    (hdcs : Marks (Function.update pool.dcHolder id new.dcMark) inflightDc)
    (hspawned : pool.spawned ≤ spawned ∧ id < spawned)
    (hcapped : ∀ run, new.stage = .refilling run → run.Capped) :
    Sound ⟨inflight, inflightDc, spawned, Function.update pool.tasks id (some new)⟩ where
  endpoints := by
    rw [endpointHolder, comp_update]
    exact hendpoints
  dcs := by
    rw [dcHolder, comp_update]
    exact hdcs
  unspawned other hother := by
    dsimp only at hother ⊢
    rw [update_of_ne (by omega)]
    exact hsound.unspawned other (by omega)
  capped other found run hfound hstage := by
    dsimp only at hfound
    by_cases hother : other = id
    · subst hother
      rw [update_self] at hfound
      exact hcapped run (Option.some.inj hfound ▸ hstage)
    · rw [update_of_ne hother] at hfound
      exact hsound.capped other found run hfound hstage

theorem trigger_sound (hsound : pool.Sound) (addr : SocketAddr) (writerDc : ℤ)
    (contended : Bool) : (pool.triggerImmediateRefillForDc addr writerDc contended).Sound := by
  have hunspawned := hsound.unspawned pool.spawned le_rfl
  have hendpoint : pool.endpointHolder pool.spawned = none :=
    congrArg (Option.bind · RefillTask.endpointMark) hunspawned
  have hdc : pool.dcHolder pool.spawned = none :=
    congrArg (Option.bind · RefillTask.dcMark) hunspawned
  have hnext : pool.spawned ≤ pool.spawned + 1 ∧ pool.spawned < pool.spawned + 1 := by omega
  unfold triggerImmediateRefillForDc
  dsimp only
  split
  · exact hsound.put _ (hsound.endpoints.keep hendpoint.symm) (hsound.dcs.keep hdc.symm) hnext nofun
  · split
    · exact hsound
    · next hfresh =>
      exact hsound.put _ (hsound.endpoints.take hendpoint hfresh) (hsound.dcs.keep hdc.symm)
        hnext nofun

/-- After a step of a refill the marks are still those of the tasks. -/
theorem advance_sound (hsound : pool.Sound) (fastRetryCount : ℕ)
    (htask : pool.tasks id = some task) (answer : RefillAnswer) :
    (pool.advance fastRetryCount id task answer).Sound := by
  have hendpoint : pool.endpointHolder id = task.endpointMark :=
    congrArg (Option.bind · RefillTask.endpointMark) htask
  have hdc : pool.dcHolder id = task.dcMark := congrArg (Option.bind · RefillTask.dcMark) htask
  have hspawned : pool.spawned ≤ pool.spawned ∧ id < pool.spawned := by
    refine ⟨le_rfl, not_le.mp fun hle => ?_⟩
    cases htask.symm.trans (hsound.unspawned id hle)
  unfold advance
  cases hstage : task.stage <;>
    simp only [RefillTask.endpointMark, RefillTask.dcMark, hstage] at hendpoint hdc ⊢
  case markEndpoint =>
    split
    · exact hsound.put _ (hsound.endpoints.keep hendpoint.symm) (hsound.dcs.keep hdc.symm)
        hspawned nofun
    · next hfresh =>
      exact hsound.put _ (hsound.endpoints.take hendpoint hfresh) (hsound.dcs.keep hdc.symm)
        hspawned nofun
  case markDc =>
    split
    · exact hsound.put _ (hsound.endpoints.keep hendpoint.symm) (hsound.dcs.keep hdc.symm)
        hspawned nofun
    · next hfresh =>
      refine hsound.put _ (hsound.endpoints.keep hendpoint.symm) (hsound.dcs.take hdc hfresh)
        hspawned ?_
      rintro _ ⟨⟩
      exact ⟨rfl, Nat.zero_le _⟩
  case skip =>
    exact hsound.put _ (hsound.endpoints.drop hendpoint) (hsound.dcs.keep hdc.symm) hspawned nofun
  case refilling run =>
    have hadvanced := (hsound.capped id task run htask hstage).advance task.addr answer
    split
    · exact hsound.put _ (hsound.endpoints.keep hendpoint.symm) (hsound.dcs.keep hdc.symm)
        hspawned nofun
    · refine hsound.put _ (hsound.endpoints.keep hendpoint.symm) (hsound.dcs.keep hdc.symm)
        hspawned ?_
      rintro _ ⟨⟩
      exact hadvanced
  case unmarkEndpoint =>
    exact hsound.put _ (hsound.endpoints.drop hendpoint) (hsound.dcs.keep hdc.symm) hspawned nofun
  case unmarkDc =>
    exact hsound.put _ (hsound.endpoints.keep hendpoint.symm) (hsound.dcs.drop hdc) hspawned nofun
  case finished => exact hsound

/-- In every reachable state the marks are those of the tasks in flight. -/
theorem run_sound (fastRetryCount : ℕ) (actions : List Action) :
    (run (step fastRetryCount) actions start).Sound := by
  have hstep : ∀ pool action, Sound pool → True → (step fastRetryCount action pool).Sound := by
    intro pool action hsound _
    cases action with
    | trigger addr writerDc contended => exact trigger_sound hsound addr writerDc contended
    | advance id answer =>
      simp only [step]
      split
      · next task htask => exact advance_sound hsound fastRetryCount htask answer
      · exact hsound
  exact Along.invariant hstep (along_true actions start) start_sound

/-- After every run, two running refills are for different DCs or families, no refill has
begun more connect rounds than the cap, and without an unfinished task no mark is left. -/
theorem refill_single_flight (fastRetryCount : ℕ) (actions : List Action) :
    let pool := run (step fastRetryCount) actions start
    (∀ id other task found first second, pool.tasks id = some task → task.stage = .refilling first →
        pool.tasks other = some found → found.stage = .refilling second →
        task.dcKey = found.dcKey → id = other) ∧
      (∀ id task refill, pool.tasks id = some task → task.stage = .refilling refill →
        refill.rounds ≤ meRefillTotalAttemptCap) ∧
      ((∀ id task, pool.tasks id = some task → task.stage = .finished) →
        pool.refillInflight = ∅ ∧ pool.refillInflightDc = ∅) := by
  intro pool
  have hsound : pool.Sound := run_sound fastRetryCount actions
  refine ⟨?_, ?_, ?_⟩
  · intro id other task found first second htask hfirst hfound hsecond hsame
    apply hsound.dcs.single id other task.dcKey
    · simp [dcHolder, htask, RefillTask.dcMark, hfirst]
    · simp [dcHolder, hfound, RefillTask.dcMark, hsecond, hsame]
  · intro id task refill htask hstage
    exact (hsound.capped id task refill htask hstage).rounds_le
  · intro hfinished
    constructor
    · apply hsound.endpoints.eq_empty
      intro id
      cases htask : pool.tasks id with
      | none => simp [endpointHolder, htask]
      | some task =>
        simp [endpointHolder, htask, RefillTask.endpointMark, hfinished id task htask]
    · apply hsound.dcs.eq_empty
      intro id
      cases htask : pool.tasks id with
      | none => simp [dcHolder, htask]
      | some task => simp [dcHolder, htask, RefillTask.dcMark, hfinished id task htask]

end RefillPool
end MiddleProxy
end TupoProxy
