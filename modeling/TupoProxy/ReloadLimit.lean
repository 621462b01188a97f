import TupoProxy.ConnLimit

/-!
# The limit on connections across reloads

Every runtime generation is prepared with statistics of its own.  After a
reload that drains, the connections of the old generation live on and are
counted there, while the new generation starts to count from zero.  Here any
generation may take any step at any time; that a draining one starts no new
sessions is not used.
-/

namespace TupoProxy.ConnLimit

structure Generations where
  systems : ℕ → System
  newest : ℕ

inductive ReloadAction where
  | reload (userEnabled : Bool)
  | act (generation : ℕ) (action : Action)
  deriving Repr, DecidableEq

def Action.isAcquire : Action → Bool
  | .acquire _ _ => true
  | _ => false

def System.idle (system : System) : Bool := system.connections.entries.isEmpty

namespace Generations

def start (userEnabled : Bool) : Generations := ⟨fun _ => .start userEnabled, 0⟩

def step (limit : Option ℕ) (action : ReloadAction) (gens : Generations) : Generations :=
  match action with
  | .reload userEnabled =>
    ⟨Function.update gens.systems (gens.newest + 1) (.start userEnabled), gens.newest + 1⟩
  | .act generation action =>
    if generation ≤ gens.newest then
      { gens with
        systems := Function.update gens.systems generation
          ((gens.systems generation).step limit action) }
    else gens

/-- The admitted connections of the user that are not released, over all
generations. -/
def live (gens : Generations) : ℕ := ∑ g ∈ Finset.range (gens.newest + 1), (gens.systems g).live

/-- Within a generation the connections are counted, and an acquisition starts
only while no other generation has a connection of the user. -/
def counted (gens : Generations) : ReloadAction → Prop
  | .reload _ => True
  | .act generation action => (gens.systems generation).counted action ∧
    (action.isAcquire = true → ∀ other < gens.newest + 1,
      other ≠ generation → (gens.systems other).idle = true)

instance (gens : Generations) (action : ReloadAction) : Decidable (gens.counted action) :=
  match action with
  | .reload _ => .isTrue trivial
  | .act _ _ => inferInstanceAs (Decidable (_ ∧ _))

end Generations

namespace System

variable {system : System} {limit : Option ℕ}

theorem idle_entries (hidle : system.idle = true) : system.connections.entries = [] :=
  List.isEmpty_iff.mp hidle

theorem live_of_idle (hidle : system.idle = true) : system.live = 0 := by
  rw [live, tally, Table.total, idle_entries hidle]
  rfl

theorem step_idle {action : Action} (hidle : system.idle = true)
    (haction : action.isAcquire = false) : (system.step limit action).idle = true := by
  have hnone : ∀ id, system.connections.lookup id = none := by
    intro id
    rw [AList.lookup, idle_entries hidle]
    rfl
  cases action with
  | acquire id now => cases haction
  | touch now =>
    simp only [step]
    split
    · exact hidle
    · exact hidle
  | setTelemetry userEnabled => exact hidle
  | touchHandle entry now => exact hidle
  | cleanup now => exact hidle
  | _ => simpa only [step, hnone] using hidle

end System

namespace Generations

variable {limit : Option ℕ} {gens : Generations}

/-- Every generation counts its connections, and at most one has any. -/
structure Sound (limit : Option ℕ) (gens : Generations) : Prop where
  sound : ∀ g, ∃ left, (gens.systems g).Sound limit left
  single : ∃ busy, ∀ other ≠ busy, (gens.systems other).idle = true
  fresh : ∀ g, gens.newest < g → (gens.systems g).idle = true

theorem Sound.update (hsound : gens.Sound limit) {g newest left : ℕ} {system : System}
    (hsystem : system.Sound limit left)
    (hsingle : system.idle = true ∨ ∀ other ≠ g, (gens.systems other).idle = true)
    (hnewest : gens.newest ≤ newest) (hg : g ≤ newest) :
    Sound limit ⟨Function.update gens.systems g system, newest⟩ where
  sound := (Function.forall_update_iff gens.systems fun _ system =>
    ∃ left, System.Sound limit left system).mpr ⟨⟨left, hsystem⟩, fun other _ => hsound.sound other⟩
  single := by
    rcases hsingle with hidle | hothers
    · obtain ⟨busy, hbusy⟩ := hsound.single
      exact ⟨busy, (Function.forall_update_iff gens.systems fun other system =>
        other ≠ busy → system.idle = true).mpr ⟨fun _ => hidle, fun other _ => hbusy other⟩⟩
    · refine ⟨g, fun other hother => ?_⟩
      exact (congrArg System.idle (Function.update_of_ne hother _ _)).trans (hothers other hother)
  fresh := by
    intro other hother
    have hnew : other ≠ g := Nat.ne_of_gt (hg.trans_lt hother)
    exact (congrArg System.idle (Function.update_of_ne hnew _ _)).trans
      (hsound.fresh other (hnewest.trans_lt hother))

theorem start_sound (userEnabled : Bool) : (start userEnabled).Sound limit where
  sound := fun _ => ⟨0, System.start_sound userEnabled⟩
  single := ⟨0, fun _ _ => rfl⟩
  fresh := fun _ _ => rfl

/-- A step of any generation keeps the shared counter sound. -/
theorem step_sound {action : ReloadAction} (hsound : gens.Sound limit)
    (hcounted : gens.counted action) : (gens.step limit action).Sound limit := by
  cases action with
  | reload userEnabled =>
    exact hsound.update (System.start_sound userEnabled) (Or.inl rfl) (Nat.le_succ _) le_rfl
  | act generation action =>
    simp only [step]
    split
    case isFalse => exact hsound
    case isTrue hold =>
      obtain ⟨hsystem, hothers⟩ := hcounted
      obtain ⟨left, hbefore⟩ := hsound.sound generation
      refine hsound.update (System.step_sound hbefore hsystem) ?_ le_rfl hold
      cases haction : action.isAcquire with
      | true =>
        refine Or.inr fun other hother => ?_
        by_cases hnew : other < gens.newest + 1
        · exact hothers haction other hnew hother
        · exact hsound.fresh other (by omega)
      | false =>
        obtain ⟨busy, hbusy⟩ := hsound.single
        rcases eq_or_ne generation busy with rfl | hidle
        · exact Or.inr hbusy
        · exact Or.inl (System.step_idle (hbusy generation hidle) haction)

/-- In every run with reloads in which the connections of each generation are
counted and no acquisition starts while another generation has a connection of
the user, the live connections of all generations stay within the limit. -/
theorem live_within_limit_across_reloads (userMaxTcpConns : Option ℕ) (globalEach : ℕ)
    (userEnabled : Bool) (actions : List ReloadAction)
    (hcounted : Runs.Along (step (tcpLimit userMaxTcpConns globalEach)) counted actions
      (start userEnabled)) (max : ℕ) (hmax : max ∈ tcpLimit userMaxTcpConns globalEach) :
    (Runs.run (step (tcpLimit userMaxTcpConns globalEach)) actions (start userEnabled)).live ≤
      max := by
  have hsound := Runs.Along.invariant (fun _ _ hsound hgood => step_sound hsound hgood) hcounted
    (start_sound userEnabled)
  obtain ⟨busy, hbusy⟩ := hsound.single
  rw [live, Finset.sum_eq_single busy]
  · obtain ⟨left, hsystem⟩ := hsound.sound busy
    exact hsystem.live_le hmax
  · intro other _ hother
    exact System.live_of_idle (hbusy other hother)
  · intro hnew
    exact System.live_of_idle (hsound.fresh busy (by simpa using hnew))

/-- The connection of the old generation is released before the new one admits
another. -/
def drainedRun : List ReloadAction :=
  [.act 0 (.acquire 0 1), .act 0 (.count 0 1), .act 0 (.checkIp 0 1 true), .reload true,
    .act 0 (.drop 0 2), .act 1 (.acquire 1 3), .act 1 (.count 1 3), .act 1 (.checkIp 1 3 true)]

theorem live_within_limit_across_reloads_sample :
    Runs.Along (step (tcpLimit (some 1) 0)) counted drainedRun (start true) ∧
      (Runs.run (step (tcpLimit (some 1) 0)) drainedRun (start true)).live ≤ 1 := by
  have hcounted : Runs.Along (step (tcpLimit (some 1) 0)) counted drainedRun (start true) := by
    decide +kernel
  exact ⟨hcounted, live_within_limit_across_reloads (some 1) 0 true drainedRun hcounted 1 rfl⟩

/-- Two generations admit one connection each of a user with a limit of one. -/
theorem draining_generation_exceeds_limit :
    (Runs.run (step (tcpLimit (some 1) 0))
      [.act 0 (.acquire 0 1), .act 0 (.count 0 1), .act 0 (.checkIp 0 1 true), .reload true,
        .act 1 (.acquire 1 3), .act 1 (.count 1 3), .act 1 (.checkIp 1 3 true)]
      (start true)).live = 2 := by
  decide +kernel

end Generations
end TupoProxy.ConnLimit
