import TupoProxy.FairnessExact
import TupoProxy.Runs

/-!
# Hysteresis of the pressure state

The evaluator keeps a candidate and a hit counter instead of a history.  The history is
kept beside it here: the targets computed since the state last changed or backpressure was
switched off, the latest first.  The counter is the length of the run of the candidate at
the front of that history, so the state changes exactly when the last computed targets,
as many as the hysteresis asks for, agree on another state.

The calls the worker makes are listed as a function of its operations, with their times and
signals, so the result holds along every run of the worker.
-/

namespace TupoProxy.Fairness

open List

namespace PressureEvaluator

def computed (evaluator : PressureEvaluator) (now : ℕ) (cfg : PressureConfig)
    (maxTotalQueuedBytes : ℕ) (signals : PressureSignals) (force : Bool) :
    Option PressureState :=
  let evaluator := evaluator.rotateWindowIfNeeded now cfg
  if !cfg.backpressureEnabled then none
  else if !force && decide (satAdd u32Max evaluator.roundsSinceEval 1 <
      max cfg.evaluateEveryRounds 1) then none
  else
    some (deriveTargetState { evaluator with roundsSinceEval := 0 } cfg maxTotalQueuedBytes
      signals)

end PressureEvaluator

structure PressureMonitor where
  cfg : PressureConfig
  evaluator : PressureEvaluator
  deriving DecidableEq

inductive PressureOp where
  | noteAdmissionReject (now : ℕ)
  | noteRouteStall (now : ℕ)
  | maybeEvaluate (now maxTotalQueuedBytes : ℕ) (signals : PressureSignals) (force : Bool)
  | setBackpressureEnabled (enabled : Bool) (now maxTotalQueuedBytes : ℕ)
      (signals : PressureSignals)
  deriving DecidableEq

namespace PressureMonitor

def start (cfg : PressureConfig) (now : ℕ) : PressureMonitor := ⟨cfg, .new now⟩

def withSwitch (monitor : PressureMonitor) (enabled : Bool) : PressureConfig :=
  { monitor.cfg with backpressureEnabled := enabled }

def step : PressureOp → PressureMonitor → PressureMonitor
  | .noteAdmissionReject now, monitor =>
    { monitor with evaluator := monitor.evaluator.noteAdmissionReject now monitor.cfg }
  | .noteRouteStall now, monitor =>
    { monitor with evaluator := monitor.evaluator.noteRouteStall now monitor.cfg }
  | .maybeEvaluate now maxTotalQueuedBytes signals force, monitor =>
    { monitor with
      evaluator :=
        monitor.evaluator.maybeEvaluate now monitor.cfg maxTotalQueuedBytes signals force }
  | .setBackpressureEnabled enabled now maxTotalQueuedBytes signals, monitor =>
    if monitor.cfg.backpressureEnabled = enabled then monitor
    else
      { cfg := monitor.withSwitch enabled
        evaluator :=
          monitor.evaluator.maybeEvaluate now (monitor.withSwitch enabled)
            maxTotalQueuedBytes signals true }

def computed : PressureOp → PressureMonitor → Option PressureState
  | .noteAdmissionReject _, _ | .noteRouteStall _, _ => none
  | .maybeEvaluate now maxTotalQueuedBytes signals force, monitor =>
    monitor.evaluator.computed now monitor.cfg maxTotalQueuedBytes signals force
  | .setBackpressureEnabled enabled now maxTotalQueuedBytes signals, monitor =>
    if monitor.cfg.backpressureEnabled = enabled then none
    else
      monitor.evaluator.computed now (monitor.withSwitch enabled) maxTotalQueuedBytes signals
        true

end PressureMonitor

/-- The evaluator with the targets computed since the state last changed or backpressure
was off, the latest first. -/
structure WatchedPressure where
  monitor : PressureMonitor
  targets : List PressureState
  deriving DecidableEq

namespace WatchedPressure

def start (cfg : PressureConfig) (now : ℕ) : WatchedPressure := ⟨.start cfg now, []⟩

def state (watched : WatchedPressure) : PressureState := watched.monitor.evaluator.state

def extended (op : PressureOp) (watched : WatchedPressure) : List PressureState :=
  (watched.monitor.computed op).toList ++ watched.targets

def step (op : PressureOp) (watched : WatchedPressure) : WatchedPressure :=
  let next := watched.monitor.step op
  { monitor := next
    targets :=
      if next.cfg.backpressureEnabled = false then []
      else if next.evaluator.state = watched.state then watched.extended op
      else [] }

end WatchedPressure

/-! ## Counter and history -/

theorem le_length_takeWhile_iff {α : Type*} (p : α → Bool) (n : ℕ) (list : List α) :
    n ≤ (list.takeWhile p).length ↔ n ≤ list.length ∧ ∀ x ∈ list.take n, p x = true := by
  induction list generalizing n with
  | nil => simp
  | cons head list ih =>
    cases n with
    | zero => simp
    | succ n =>
      by_cases hhead : p head = true
      · rw [takeWhile_cons_of_pos hhead, length_cons, length_cons,
          Nat.add_le_add_iff_right, ih n, take_succ_cons, Nat.add_le_add_iff_right, forall_mem_cons]
        simp [hhead]
      · rw [takeWhile_cons_of_neg hhead, take_succ_cons, forall_mem_cons]
        simp [hhead]

def frontRun (target : PressureState) (targets : List PressureState) : ℕ :=
  (targets.takeWhile fun computed => decide (computed = target)).length

theorem le_frontRun_iff (n : ℕ) (target : PressureState) (targets : List PressureState) :
    n ≤ frontRun target targets ↔
      n ≤ targets.length ∧ ∀ computed ∈ targets.take n, computed = target := by
  rw [frontRun, le_length_takeWhile_iff]
  simp only [decide_eq_true_eq]

theorem frontRun_cons_self (target : PressureState) (targets : List PressureState) :
    frontRun target (target :: targets) = frontRun target targets + 1 := by
  simp [frontRun]

theorem frontRun_cons_ne {target head : PressureState} (hhead : head ≠ target)
    (targets : List PressureState) : frontRun target (head :: targets) = 0 := by
  simp [frontRun, hhead]

def hysteresisRounds (cfg : PressureConfig) : ℕ := max cfg.transitionHysteresisRounds 1

/-- What the candidate and its counter say about the history. -/
structure Counted (rounds : ℕ) (evaluator : PressureEvaluator) (targets : List PressureState) :
    Prop where
  few : evaluator.candidateHits < rounds
  settled : evaluator.candidateHits = 0 → evaluator.candidateState = evaluator.state
  moving : 0 < evaluator.candidateHits → evaluator.candidateState ≠ evaluator.state
  hits : ∀ target, target ≠ evaluator.state → frontRun target targets =
    if target = evaluator.candidateState then evaluator.candidateHits else 0

structure SameCount (evaluator next : PressureEvaluator) : Prop where
  state : next.state = evaluator.state
  candidate : next.candidateState = evaluator.candidateState
  hits : next.candidateHits = evaluator.candidateHits

theorem Counted.congr {rounds : ℕ} {evaluator next : PressureEvaluator}
    {targets : List PressureState} (hcounted : Counted rounds evaluator targets)
    (hsame : SameCount evaluator next) : Counted rounds next targets := by
  constructor
  · rw [hsame.hits]
    exact hcounted.few
  · rw [hsame.hits, hsame.state, hsame.candidate]
    exact hcounted.settled
  · rw [hsame.hits, hsame.state, hsame.candidate]
    exact hcounted.moving
  · rw [hsame.hits, hsame.state, hsame.candidate]
    exact hcounted.hits

variable (cfg : PressureConfig)

theorem hysteresisRounds_pos : 0 < hysteresisRounds cfg :=
  Nat.le_max_right _ _

theorem counted_fresh {evaluator : PressureEvaluator} (hhits : evaluator.candidateHits = 0)
    (hcandidate : evaluator.candidateState = evaluator.state) :
    Counted (hysteresisRounds cfg) evaluator [] := by
  refine ⟨hhits ▸ hysteresisRounds_pos cfg, fun _ => hcandidate, fun hpos => ?_, ?_⟩
  · exact absurd hhits hpos.ne'
  · intro target hother
    rw [hcandidate, if_neg hother]
    rfl

variable (evaluator : PressureEvaluator)

theorem rotateWindowIfNeeded_same (now : ℕ)
    (cfg : PressureConfig) : SameCount evaluator (evaluator.rotateWindowIfNeeded now cfg) := by
  unfold PressureEvaluator.rotateWindowIfNeeded
  split <;> exact ⟨rfl, rfl, rfl⟩

section Approach

variable {cfg : PressureConfig} {evaluator : PressureEvaluator} {targets : List PressureState}
  {target : PressureState} (hcounted : Counted (hysteresisRounds cfg) evaluator targets)
  (hbyte : cfg.transitionHysteresisRounds ≤ u8Max)

include hcounted hbyte

theorem hits_eq_frontRun (hother : target ≠ evaluator.state) :
    (if evaluator.candidateState = target then satAdd u8Max evaluator.candidateHits 1 else 1) =
      frontRun target (target :: targets) := by
  have hfew := hcounted.few
  rw [frontRun_cons_self, hcounted.hits target hother]
  by_cases hsame : evaluator.candidateState = target
  · have hroom : evaluator.candidateHits + 1 ≤ u8Max := by
      have hone : 1 ≤ u8Max := by decide
      unfold hysteresisRounds at hfew
      omega
    rw [if_pos hsame, if_pos hsame.symm, satAdd, min_eq_left hroom]
  · rw [if_neg hsame, if_neg (Ne.symm hsame)]

theorem approach_other (hother : target ≠ evaluator.state) :
    evaluator.approach cfg target =
      if hysteresisRounds cfg ≤ frontRun target (target :: targets) then
        { evaluator with state := target, candidateState := target, candidateHits := 0 }
      else
        { evaluator with
          candidateState := target
          candidateHits := frontRun target (target :: targets) } := by
  unfold PressureEvaluator.approach
  rw [if_neg hother]
  rw [hits_eq_frontRun hcounted hbyte hother]
  rfl

theorem approach_state (target : PressureState) :
    (evaluator.approach cfg target).state =
      if target ≠ evaluator.state ∧
          hysteresisRounds cfg ≤ frontRun target (target :: targets) then target
      else evaluator.state := by
  by_cases hsame : target = evaluator.state
  · rw [if_neg fun hmoves => hmoves.1 hsame, PressureEvaluator.approach, if_pos hsame]
  · rw [approach_other hcounted hbyte hsame]
    by_cases hmany : hysteresisRounds cfg ≤ frontRun target (target :: targets)
    · rw [if_pos hmany, if_pos ⟨hsame, hmany⟩]
    · rw [if_neg hmany, if_neg fun hmoves => hmany hmoves.2]

theorem approach_counted (target : PressureState) :
    Counted (hysteresisRounds cfg) (evaluator.approach cfg target)
      (if (evaluator.approach cfg target).state = evaluator.state then target :: targets
        else []) := by
  have hstate := approach_state hcounted hbyte target
  by_cases hsame : target = evaluator.state
  · rw [if_neg fun hmoves => hmoves.1 hsame] at hstate
    rw [if_pos hstate, PressureEvaluator.approach, if_pos hsame]
    refine ⟨hysteresisRounds_pos cfg, fun _ => hsame, fun hpos => absurd hpos (lt_irrefl 0), ?_⟩
    intro other hother
    rw [ite_self]
    exact frontRun_cons_ne (fun heq => hother (heq.symm.trans hsame)) targets
  · by_cases hmany : hysteresisRounds cfg ≤ frontRun target (target :: targets)
    · rw [if_pos ⟨hsame, hmany⟩] at hstate
      have hmoved : (evaluator.approach cfg target).state ≠ evaluator.state := by
        rw [hstate]
        exact hsame
      rw [if_neg hmoved, approach_other hcounted hbyte hsame, if_pos hmany]
      exact counted_fresh cfg rfl rfl
    · rw [if_neg fun hmoves => hmany hmoves.2] at hstate
      rw [if_pos hstate, approach_other hcounted hbyte hsame, if_neg hmany]
      refine ⟨not_le.mp hmany, fun hnone => ?_, fun _ => hsame, ?_⟩
      · rw [frontRun_cons_self] at hnone
        exact absurd hnone (Nat.succ_ne_zero _)
      · intro other hother
        by_cases hcandidate : other = target
        · rw [if_pos hcandidate, hcandidate]
        · rw [if_neg hcandidate]
          exact frontRun_cons_ne (Ne.symm hcandidate) targets

end Approach

/-- What an evaluation does: backpressure is off and everything is reset, or it is skipped,
or the evaluator approaches the computed target. -/
inductive Evaluation (cfg : PressureConfig) (evaluator : PressureEvaluator) :
    Option PressureState → PressureEvaluator → Prop where
  | off {next : PressureEvaluator} (hoff : cfg.backpressureEnabled = false)
      (hhits : next.candidateHits = 0) (hcandidate : next.candidateState = next.state) :
      Evaluation cfg evaluator none next
  | skipped {next : PressureEvaluator} (hon : cfg.backpressureEnabled = true)
      (hsame : SameCount evaluator next) : Evaluation cfg evaluator none next
  | done {rotated : PressureEvaluator} {target : PressureState}
      (hon : cfg.backpressureEnabled = true) (hsame : SameCount evaluator rotated) :
      Evaluation cfg evaluator (some target) (rotated.approach cfg target)

theorem maybeEvaluate_evaluation (now : ℕ)
    (cfg : PressureConfig) (maxTotalQueuedBytes : ℕ) (signals : PressureSignals) (force : Bool) :
    Evaluation cfg evaluator (evaluator.computed now cfg maxTotalQueuedBytes signals force)
      (evaluator.maybeEvaluate now cfg maxTotalQueuedBytes signals force) := by
  have hsame := rotateWindowIfNeeded_same evaluator now cfg
  unfold PressureEvaluator.computed PressureEvaluator.maybeEvaluate
  cases hswitch : cfg.backpressureEnabled with
  | false =>
    exact .off hswitch rfl rfl
  | true =>
    simp only [Bool.not_true, Bool.false_eq_true, if_false]
    split
    · exact .skipped hswitch ⟨hsame.state, hsame.candidate, hsame.hits⟩
    · exact .done hswitch ⟨hsame.state, hsame.candidate, hsame.hits⟩

def nextTargets (cfg : PressureConfig) (before after : PressureState)
    (extended : List PressureState) : List PressureState :=
  if cfg.backpressureEnabled = false then [] else if after = before then extended else []

section Evaluation

variable {cfg : PressureConfig} {evaluator next : PressureEvaluator}
  {targets : List PressureState} {target : Option PressureState}
  (hcounted : Counted (hysteresisRounds cfg) evaluator targets)
  (hbyte : cfg.transitionHysteresisRounds ≤ u8Max)

include hcounted hbyte

theorem Evaluation.counted (hevaluation : Evaluation cfg evaluator target next) :
    Counted (hysteresisRounds cfg) next
      (nextTargets cfg evaluator.state next.state (target.toList ++ targets)) := by
  unfold nextTargets
  cases hevaluation with
  | off hoff hhits hcandidate =>
    rw [if_pos hoff]
    exact counted_fresh cfg hhits hcandidate
  | skipped hon hsame =>
    rw [if_neg (by rw [hon]; exact Bool.noConfusion), if_pos hsame.state]
    exact hcounted.congr hsame
  | @done rotated target hon hsame =>
    have happroach := approach_counted (hcounted.congr hsame) hbyte target
    rw [if_neg (by rw [hon]; exact Bool.noConfusion)]
    rw [hsame.state] at happroach
    exact happroach

/-- The state moves to a goal exactly if enough evaluations in a row have computed it. -/
theorem Evaluation.moves_iff (hevaluation : Evaluation cfg evaluator target next)
    (hon : cfg.backpressureEnabled = true) (goal : PressureState) :
    (next.state = goal ∧ goal ≠ evaluator.state) ↔ goal ≠ evaluator.state ∧ target.isSome = true ∧
        hysteresisRounds cfg ≤ (target.toList ++ targets).length ∧
        ∀ computed ∈ (target.toList ++ targets).take (hysteresisRounds cfg), computed = goal := by
  have hpositive := hysteresisRounds_pos cfg
  cases hevaluation with
  | off hoff =>
    rw [hon] at hoff
    cases hoff
  | skipped _ hsame =>
    rw [hsame.state]
    constructor
    · rintro ⟨heq, hother⟩
      exact absurd heq.symm hother
    · rintro ⟨-, hnone, -⟩
      cases hnone
  | @done rotated target _ hsame =>
    rw [approach_state (hcounted.congr hsame) hbyte target, hsame.state, ← le_frontRun_iff]
    have hlist : (some target).toList ++ targets = target :: targets := rfl
    rw [hlist]
    constructor
    · rintro ⟨hstate, hother⟩
      split at hstate
      · next hmoves =>
        subst hstate
        exact ⟨hother, rfl, hmoves.2⟩
      · exact absurd hstate.symm hother
    · rintro ⟨hother, -, hrun⟩
      have hsame : target = goal := by
        by_contra hne
        rw [frontRun_cons_ne hne] at hrun
        omega
      subst hsame
      exact ⟨if_pos ⟨hother, hrun⟩, hother⟩

end Evaluation

variable (op : PressureOp)

/-- An operation evaluates, or it leaves the hysteresis and the switch alone. -/
theorem PressureMonitor.step_effect (monitor : PressureMonitor) :
    (monitor.computed op = none ∧ (monitor.step op).cfg = monitor.cfg ∧
        SameCount monitor.evaluator (monitor.step op).evaluator) ∨
      Evaluation (monitor.step op).cfg monitor.evaluator (monitor.computed op)
        (monitor.step op).evaluator := by
  have hrotated := fun now => rotateWindowIfNeeded_same monitor.evaluator now monitor.cfg
  cases op with
  | noteAdmissionReject now =>
    exact Or.inl ⟨rfl, rfl, (hrotated now).state, (hrotated now).candidate, (hrotated now).hits⟩
  | noteRouteStall now =>
    exact Or.inl ⟨rfl, rfl, (hrotated now).state, (hrotated now).candidate, (hrotated now).hits⟩
  | maybeEvaluate now maxTotalQueuedBytes signals force =>
    exact Or.inr (maybeEvaluate_evaluation _ _ _ _ _ _)
  | setBackpressureEnabled enabled now maxTotalQueuedBytes signals =>
    simp only [PressureMonitor.step, PressureMonitor.computed]
    by_cases hsame : monitor.cfg.backpressureEnabled = enabled
    · rw [if_pos hsame, if_pos hsame]
      exact Or.inl ⟨rfl, rfl, rfl, rfl, rfl⟩
    · rw [if_neg hsame, if_neg hsame]
      exact Or.inr (maybeEvaluate_evaluation _ _ _ _ _ _)

theorem PressureMonitor.step_hysteresis (monitor : PressureMonitor) :
    (monitor.step op).cfg.transitionHysteresisRounds = monitor.cfg.transitionHysteresisRounds := by
  cases op with
  | noteAdmissionReject | noteRouteStall | maybeEvaluate => rfl
  | setBackpressureEnabled enabled now maxTotalQueuedBytes signals =>
    simp only [PressureMonitor.step]
    split <;> rfl

namespace WatchedPressure

/-- The counter agrees with the history, and there is no history while backpressure is
off. -/
structure Tracked (rounds : ℕ) (watched : WatchedPressure) : Prop where
  hysteresis : watched.monitor.cfg.transitionHysteresisRounds = rounds
  counted : Counted (hysteresisRounds watched.monitor.cfg) watched.monitor.evaluator
    watched.targets
  off : watched.monitor.cfg.backpressureEnabled = false → watched.targets = []

variable {rounds : ℕ} {watched : WatchedPressure}

/-- The counter of the evaluator keeps up with the history of its targets. -/
theorem Tracked.step (htracked : Tracked rounds watched) (hbyte : rounds ≤ u8Max)
    (op : PressureOp) : Tracked rounds (watched.step op) := by
  have hkept := PressureMonitor.step_hysteresis op watched.monitor
  have hrounds : hysteresisRounds (watched.monitor.step op).cfg =
      hysteresisRounds watched.monitor.cfg := by
    unfold hysteresisRounds
    rw [hkept]
  refine ⟨hkept.trans htracked.hysteresis, ?_, fun hoff => if_pos hoff⟩
  rcases watched.monitor.step_effect op with ⟨hnone, hcfg, hsame⟩ | hevaluation
  · have htargets : (watched.step op).targets = watched.targets := by
      simp only [WatchedPressure.step, extended, hnone, hcfg]
      split
      · next hoff => exact (htracked.off hoff).symm
      · exact if_pos hsame.state
    rw [htargets]
    simp only [WatchedPressure.step, hrounds]
    exact htracked.counted.congr hsame
  · have hcounted := htracked.counted
    rw [← hrounds] at hcounted
    have hbound : (watched.monitor.step op).cfg.transitionHysteresisRounds ≤ u8Max := by
      rw [hkept, htracked.hysteresis]
      exact hbyte
    exact hevaluation.counted hcounted hbound

theorem tracked_start (cfg : PressureConfig) (now : ℕ) :
    Tracked cfg.transitionHysteresisRounds (start cfg now) :=
  ⟨rfl, counted_fresh cfg rfl rfl, fun _ => rfl⟩

/-- The hit counter is the front run of the history, along every run. -/
theorem tracked_run (cfg : PressureConfig) (hbyte : cfg.transitionHysteresisRounds ≤ u8Max)
    (now : ℕ) (ops : List PressureOp) :
    Tracked cfg.transitionHysteresisRounds (Runs.run step ops (start cfg now)) :=
  Runs.Along.invariant (fun _ op htracked _ => htracked.step hbyte op)
    (Runs.along_true ops _) (tracked_start cfg now)

theorem run_monitor (ops : List PressureOp) (watched : WatchedPressure) :
    (Runs.run step ops watched).monitor = Runs.run PressureMonitor.step ops watched.monitor := by
  induction ops generalizing watched with
  | nil => rfl
  | cons op ops ih => exact ih (watched.step op)

end WatchedPressure

/-- After every run, an operation with backpressure on moves the state to another one
exactly when it evaluates, and the last computed targets since the state changed or
backpressure was off, as many as the hysteresis asks for and its own one among them, are
all that state.  In every other case the state is unchanged. -/
theorem run_state_moves_iff (cfg : PressureConfig)
    (hbyte : cfg.transitionHysteresisRounds ≤ u8Max) (now : ℕ) (ops : List PressureOp)
    (op : PressureOp) (watched : WatchedPressure)
    (hwatched : watched = Runs.run WatchedPressure.step ops (.start cfg now))
    (hon : (watched.step op).monitor.cfg.backpressureEnabled = true) (goal : PressureState) :
    ((watched.step op).state = goal ∧ goal ≠ watched.state) ↔
      goal ≠ watched.state ∧ (watched.monitor.computed op).isSome = true ∧
        max 1 cfg.transitionHysteresisRounds ≤ (watched.extended op).length ∧
        ∀ target ∈ (watched.extended op).take (max 1 cfg.transitionHysteresisRounds),
          target = goal := by
  have htracked := WatchedPressure.tracked_run cfg hbyte now ops
  rw [← hwatched] at htracked
  have hkept := (PressureMonitor.step_hysteresis op watched.monitor).trans htracked.hysteresis
  have hrounds : hysteresisRounds (watched.monitor.step op).cfg =
      max 1 cfg.transitionHysteresisRounds := by
    rw [hysteresisRounds, hkept, max_comm]
  have hcounted : Counted (hysteresisRounds (watched.monitor.step op).cfg)
      watched.monitor.evaluator watched.targets := by
    have hold := htracked.counted
    rw [hysteresisRounds, htracked.hysteresis, max_comm] at hold
    rw [hrounds]
    exact hold
  rw [← hrounds]
  rcases watched.monitor.step_effect op with ⟨hnone, -, hsame⟩ | hevaluation
  · rw [hnone]
    constructor
    · rintro ⟨hstate, hother⟩
      exact absurd (hsame.state.symm.trans hstate).symm hother
    · rintro ⟨-, hsome, -⟩
      cases hsome
  · exact hevaluation.moves_iff hcounted (hkept.trans_le hbyte) hon goal

theorem run_state_moves_iff_saturated :
    let full : PressureOp := .maybeEvaluate 0 100 ⟨1, 100, 0, 0⟩ true
    let watched := Runs.run WatchedPressure.step [full, full] (.start {} 0)
    watched.state = .normal ∧ (watched.step full).state = .saturated ∧
      (((watched.step full).state = .saturated ∧ .saturated ≠ watched.state) ↔
        .saturated ≠ watched.state ∧ (watched.monitor.computed full).isSome = true ∧
          max 1 3 ≤ (watched.extended full).length ∧
          ∀ target ∈ (watched.extended full).take (max 1 3), target = .saturated) := by
  intro full watched
  exact ⟨by decide, by decide,
    run_state_moves_iff {} (by decide) 0 [full, full] full watched rfl (by decide) .saturated⟩

namespace WorkerFairnessState

def monitor (state : WorkerFairnessState) : PressureMonitor :=
  ⟨state.config.pressure, state.pressure⟩

def signals (state : WorkerFairnessState) : PressureSignals :=
  ⟨state.flows.keys.length, state.totalQueuedBytes, state.standingFlowCount,
    state.backpressuredFlowCount⟩

def evaluation (state : WorkerFairnessState) (now : ℕ) (force : Bool) : PressureOp :=
  .maybeEvaluate now state.config.maxTotalQueuedBytes state.signals force

/-- The calls of the evaluator that an operation makes.  A decision evaluates the counters
before it; admissions, rejections and feedback evaluate those that they leave. -/
def pressureCalls (state : WorkerFairnessState) (op : Op) : List PressureOp :=
  match op with
  | .enqueueData connId flags data now =>
    match (state.enqueueData connId flags data now).1 with
    | .admitted => [(state.step op).evaluation now true]
    | .rejectSaturated => [.noteAdmissionReject now]
    | _ => [.noteAdmissionReject now, (state.step op).evaluation now true]
  | .dispatch now feedback feedbackAt =>
    state.evaluation now false ::
      match (state.nextDecision now).1, feedback with
      | .idle, _ => []
      | .dispatch _, .routed => [(state.step op).evaluation feedbackAt false]
      | .dispatch _, .queueFull =>
        (if state.config.backpressureEnabled then [.noteRouteStall feedbackAt] else []) ++
          [(state.step op).evaluation feedbackAt true]
      | .dispatch _, .channelClosed | .dispatch _, .noConn =>
        [(state.step op).evaluation feedbackAt true]
  | .removeFlow _ => []
  | .setBackpressureEnabled enabled now =>
    [.setBackpressureEnabled enabled now state.config.maxTotalQueuedBytes state.signals]

def pressureHistory : WorkerFairnessState → List Op → List PressureOp
  | _, [] => []
  | state, op :: ops => state.pressureCalls op ++ (state.step op).pressureHistory ops

/-- The evaluator of the second state is the first one's after these calls. -/
def Calls (state : WorkerFairnessState) (calls : List PressureOp) (next : WorkerFairnessState) :
    Prop :=
  next.monitor = Runs.run PressureMonitor.step calls state.monitor

variable {state middle next : WorkerFairnessState}

theorem Calls.same (hcontrol : SameControl state next) : state.Calls [] next := by
  rw [Calls, monitor, hcontrol.config, hcontrol.pressure]
  rfl

theorem Calls.trans {before after : List PressureOp} (hfirst : state.Calls before middle)
    (hsecond : middle.Calls after next) : state.Calls (before ++ after) next := by
  rw [Calls, Runs.run_append, ← hfirst]
  exact hsecond

section

variable (now : ℕ)

theorem calls_evaluatePressure (force : Bool) (hcontrol : SameControl state next) :
    state.Calls [(next.evaluatePressure now force).evaluation now force]
      (next.evaluatePressure now force) := by
  have hcalls : next.Calls [next.evaluation now force] (next.evaluatePressure now force) := rfl
  exact (Calls.same hcontrol).trans hcalls

theorem calls_rejectFrame (decision : AdmissionDecision) (hcontrol : SameControl state next) :
    state.Calls [.noteAdmissionReject now, (next.rejectFrame decision now).2.evaluation now true]
      (next.rejectFrame decision now).2 := by
  have hcalls : next.Calls [.noteAdmissionReject now, next.evaluation now true]
      (next.rejectFrame decision now).2 := rfl
  exact (Calls.same hcontrol).trans hcalls

theorem calls_noteRouteStall :
    state.Calls (if state.config.backpressureEnabled then [.noteRouteStall now] else [])
      (state.noteRouteStall now) := by
  unfold noteRouteStall
  split
  · rfl
  · rfl

theorem calls_enqueueData (connId flags : ℕ) (data : List Byte) :
    state.Calls (state.pressureCalls (.enqueueData connId flags data now))
      (state.enqueueData connId flags data now).2 := by
  have hsame : SameControl state state := ⟨rfl, rfl⟩
  have hopen : SameControl state (state.openFlow connId (state.config.weightForFlags flags)).2 := by
    unfold openFlow
    split <;> exact ⟨rfl, rfl⟩
  have hexit := enqueueData_exit state connId flags data now
  simp only [pressureCalls, step]
  generalize state.enqueueData connId flags data now = answer at hexit ⊢
  cases hexit with
  | saturated => rfl
  | refused hdecision hcalm =>
    split
    · next hadmitted => exact absurd hadmitted hdecision
    · next hsaturated => exact absurd hsaturated hcalm
    · exact calls_rejectFrame now _ hsame
  | refusedOpen hdecision hcalm =>
    split
    · next hadmitted => exact absurd hadmitted hdecision
    · next hsaturated => exact absurd hsaturated hcalm
    · exact calls_rejectFrame now _ hopen
  | admitted =>
    apply calls_evaluatePressure now true
    exact hopen.trans ⟨(rejoin_control _ connId _).config, (rejoin_control _ connId _).pressure⟩

theorem calls_nextDecision :
    state.Calls [state.evaluation now false] (state.nextDecision now).2 := by
  have hcounted : SameControl state state.countRound := ⟨rfl, rfl⟩
  exact (calls_evaluatePressure now false hcounted).trans (.same (visitRing_control _ _ _))

end

/-- The two switches of a worker agree. -/
def Aligned (state : WorkerFairnessState) : Prop :=
  state.config.pressure.backpressureEnabled = state.config.backpressureEnabled

theorem step_aligned (haligned : state.Aligned) (op : Op) : (state.step op).Aligned := by
  cases op with
  | enqueueData connId flags data now =>
    simp only [Aligned, step, enqueueData_config]
    exact haligned
  | dispatch now feedback feedbackAt =>
    simp only [Aligned, step, dispatch_config]
    exact haligned
  | removeFlow connId =>
    simp only [Aligned, step, (removeFlow_control _ _).config]
    exact haligned
  | setBackpressureEnabled enabled now =>
    simp only [step, setBackpressureEnabled]
    split
    · exact haligned
    · rfl

theorem calls_feedbackQueueFull (connId : ℕ) (frame : QueuedFrame) (now : ℕ) :
    state.Calls
      ((if state.config.backpressureEnabled then [.noteRouteStall now] else []) ++
        [(state.feedbackQueueFull connId frame now).2.evaluation now true])
      (state.feedbackQueueFull connId frame now).2 := by
  apply (calls_noteRouteStall now).trans
  unfold feedbackQueueFull
  dsimp only
  split
  · exact calls_evaluatePressure now true ⟨rfl, rfl⟩
  · next flow hlookup =>
    have hstalled := stallFrame_control (state.noteRouteStall now) connId flow frame now
    split
    · exact calls_evaluatePressure now true (hstalled.trans (removeFlow_control _ connId))
    · exact calls_evaluatePressure now true hstalled

/-- One operation of the worker moves its evaluator by the calls listed for it. -/
theorem calls_step (haligned : state.Aligned) (op : Op) :
    state.Calls (state.pressureCalls op) (state.step op) := by
  cases op with
  | enqueueData connId flags data now => exact calls_enqueueData now connId flags data
  | dispatch now feedback feedbackAt =>
    have hdecided := @calls_nextDecision state now
    have hconfig : (state.nextDecision now).2.config = state.config :=
      (visitRing_control _ _ _).config
    simp only [pressureCalls, step, dispatch]
    generalize state.nextDecision now = answer at hdecided hconfig ⊢
    obtain ⟨decision, next⟩ := answer
    cases decision with
    | idle => exact hdecided
    | dispatch candidate =>
      apply hdecided.trans
      cases feedback with
      | routed =>
        simp only [applyDispatchFeedback, feedbackRouted]
        split
        · exact calls_evaluatePressure feedbackAt false ⟨rfl, rfl⟩
        · exact calls_evaluatePressure feedbackAt false ⟨rfl, rfl⟩
      | queueFull =>
        dsimp only at hconfig ⊢
        rw [← hconfig]
        exact calls_feedbackQueueFull _ candidate.frame feedbackAt
      | channelClosed | noConn =>
        exact calls_evaluatePressure feedbackAt true (removeFlow_control next _)
  | removeFlow connId => exact .same (removeFlow_control state connId)
  | setBackpressureEnabled enabled now =>
    simp only [pressureCalls, step, setBackpressureEnabled]
    split
    · next hkept =>
      have hswitch : state.monitor.cfg.backpressureEnabled = enabled := haligned.trans hkept
      exact (if_pos hswitch).symm
    · next hchanged =>
      have hswitch : ¬ state.monitor.cfg.backpressureEnabled = enabled :=
        fun hsame => hchanged (haligned.symm.trans hsame)
      exact (if_neg hswitch).symm

/-- A run of the worker makes the calls of its operations, in order. -/
theorem calls_run (haligned : state.Aligned) (ops : List Op) :
    state.Calls (state.pressureHistory ops) (state.run ops) := by
  induction ops generalizing state with
  | nil => rfl
  | cons op ops ih => exact (calls_step haligned op).trans (ih (step_aligned haligned op))

/-- Along every run of a worker its evaluator is the evaluator alone after the calls that
the operations of the worker make, each with the time of its operation and the counters
of the worker. -/
theorem run_pressure_history (config : WorkerFairnessConfig) (start : ℕ) (ops : List Op) :
    ((new config start).run ops).monitor =
      (Runs.run WatchedPressure.step ((new config start).pressureHistory ops)
        (.start { config.pressure with backpressureEnabled := config.backpressureEnabled }
          start)).monitor := by
  rw [WatchedPressure.run_monitor]
  exact @calls_run (new config start) rfl ops

/-- Two rejections under a worker cap of one byte, and what the evaluator is asked. -/
example :
    (new { maxTotalQueuedBytes := 1 } 0).pressureHistory
        [.enqueueData 7 0 [1] 3, .enqueueData 7 0 [2] 4, .dispatch 5 .routed 6] =
      [.maybeEvaluate 3 1 ⟨1, 1, 0, 0⟩ true, .noteAdmissionReject 4,
        .maybeEvaluate 4 1 ⟨1, 1, 0, 0⟩ true, .maybeEvaluate 5 1 ⟨1, 1, 0, 0⟩ false,
        .maybeEvaluate 6 1 ⟨1, 0, 0, 0⟩ false] := by
  decide +kernel

end WorkerFairnessState
end TupoProxy.Fairness
