import TupoProxy.PoolWriters
import TupoProxy.Runs

/-!
# The health of an address family

The health monitor reports for each address family whether it is degraded.  The
pool keeps two streak counters and a deadline for a family.  The history of its
observations, each with the mark whether a suppression was active at its time,
determines what these three numbers stand for.
-/

namespace TupoProxy.FamilyHealth

open Runs MiddleProxy

def familySuppressFailStreakThreshold : ℕ := 5
def familySuppressDurationSecs : ℕ := 60
def familyRecoverSuccessStreakTarget : ℕ := 2

inductive MeFamilyRuntimeState where
  | healthy
  | degraded
  | suppressed
  | recovering
  deriving Repr, DecidableEq

structure FamilyHealthSnapshot where
  state : MeFamilyRuntimeState
  stateSinceEpochSecs : ℕ
  suppressedUntilEpochSecs : ℕ
  failStreak : ℕ
  recoverSuccessStreak : ℕ

namespace FamilyHealthSnapshot

def new (now : ℕ) : FamilyHealthSnapshot := ⟨.healthy, now, 0, 0, 0⟩

/-- The next state, deadline, failure streak and recovery streak. -/
def next (previous : FamilyHealthSnapshot) (now : ℕ) (degraded : Bool) :
    MeFamilyRuntimeState × ℕ × ℕ × ℕ :=
  if previous.suppressedUntilEpochSecs > now then
    (.suppressed, previous.suppressedUntilEpochSecs,
      if degraded then min (previous.failStreak + 1) u32Max else previous.failStreak, 0)
  else if degraded then
    let failStreak := min (previous.failStreak + 1) u32Max
    if failStreak ≥ familySuppressFailStreakThreshold then
      (.suppressed, min (now + familySuppressDurationSecs) u64Max, failStreak, 0)
    else (.degraded, 0, failStreak, 0)
  else if previous.state = .healthy then (.healthy, 0, 0, 0)
  else
    let recoverSuccessStreak := min (previous.recoverSuccessStreak + 1) u32Max
    if recoverSuccessStreak ≥ familyRecoverSuccessStreakTarget then (.healthy, 0, 0, 0)
    else (.recovering, 0, 0, recoverSuccessStreak)

def update (previous : FamilyHealthSnapshot) (now : ℕ) (degraded : Bool) :
    FamilyHealthSnapshot :=
  let (state, suppressedUntil, failStreak, recoverSuccessStreak) := previous.next now degraded
  { state := state
    stateSinceEpochSecs :=
      if state ≠ previous.state ∨ previous.stateSinceEpochSecs = 0 then now
      else previous.stateSinceEpochSecs
    suppressedUntilEpochSecs := suppressedUntil
    failStreak := failStreak
    recoverSuccessStreak := recoverSuccessStreak }

end FamilyHealthSnapshot

structure HealthRuntime where
  familyHealthV4 : FamilyHealthSnapshot
  familyHealthV6 : FamilyHealthSnapshot

namespace HealthRuntime

def new (now : ℕ) : HealthRuntime := ⟨.new now, .new now⟩

def familyHealth (runtime : HealthRuntime) : IpFamily → FamilyHealthSnapshot
  | .v4 => runtime.familyHealthV4
  | .v6 => runtime.familyHealthV6

def setFamilyRuntimeState (runtime : HealthRuntime) (snapshot : FamilyHealthSnapshot) :
    IpFamily → HealthRuntime
  | .v4 => { runtime with familyHealthV4 := snapshot }
  | .v6 => { runtime with familyHealthV6 := snapshot }

def updateFamilyRuntimeState (runtime : HealthRuntime) (family : IpFamily) (now : ℕ)
    (degraded : Bool) : HealthRuntime :=
  runtime.setFamilyRuntimeState ((runtime.familyHealth family).update now degraded) family

end HealthRuntime

structure Observation where
  family : IpFamily
  now : ℕ
  degraded : Bool

/-- What an observation was and whether a suppression was active when it was made. -/
structure Mark where
  degraded : Bool
  inside : Bool

def Mark.calm (mark : Mark) : Bool := !mark.degraded && !mark.inside

/-- Degraded observations since the last calm one, newest first. -/
def failures (marks : List Mark) : ℕ :=
  (marks.takeWhile fun mark => !mark.calm).countP Mark.degraded

def calmStreak (marks : List Mark) : ℕ := (marks.takeWhile Mark.calm).length

structure Watch where
  runtime : HealthRuntime
  marks : IpFamily → List Mark

namespace Watch

def new (now : ℕ) : Watch := ⟨.new now, fun _ => []⟩

def health (watch : Watch) (family : IpFamily) : FamilyHealthSnapshot :=
  watch.runtime.familyHealth family

def observe (observation : Observation) (watch : Watch) : Watch where
  runtime :=
    watch.runtime.updateFamilyRuntimeState observation.family observation.now
      observation.degraded
  marks :=
    Function.update watch.marks observation.family
      (⟨observation.degraded,
          (watch.health observation.family).suppressedUntilEpochSecs > observation.now⟩ ::
        watch.marks observation.family)

section

variable (watch : Watch) (family : IpFamily) (observation : Observation)

end

end Watch

/-- The counters of a family hold what its history says. -/
structure Tracks (health : FamilyHealthSnapshot) (marks : List Mark) : Prop where
  failStreak : health.failStreak = min (failures marks) u32Max
  recovery : health.state ≠ .healthy →
    health.recoverSuccessStreak = calmStreak marks ∧
      calmStreak marks < familyRecoverSuccessStreakTarget
  deadline : health.state = .healthy → health.suppressedUntilEpochSecs = 0

theorem new_tracks (now : ℕ) : Tracks (.new now) [] where
  failStreak := rfl
  recovery hleft := absurd rfl hleft
  deadline _ := rfl

variable {health : FamilyHealthSnapshot} {now : ℕ}

variable {marks : List Mark}

variable {watch : Watch} {family : IpFamily}

end TupoProxy.FamilyHealth
