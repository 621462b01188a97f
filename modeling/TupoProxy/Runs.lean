import Mathlib.Tactic

/-!
# Runs of a step function

A run applies a list of actions one after the other.  A condition on single
steps can be asked of all steps of a run, and a mark that is set at some point
of a run was put there by an earlier step.
-/

namespace TupoProxy
namespace Runs

open List

variable {σ α κ : Type*} (step : α → σ → σ)

def run (actions : List α) (start : σ) : σ :=
  actions.foldl (fun state action => step action state) start

theorem run_append (left right : List α) (start : σ) :
    run step (left ++ right) start = run step right (run step left start) :=
  foldl_append

theorem run_concat (actions : List α) (action : α) (start : σ) :
    run step (actions ++ [action]) start = step action (run step actions start) := by
  rw [run_append]
  rfl

/-- Every action of the run is good in the state that it meets. -/
def Along (good : σ → α → Prop) : List α → σ → Prop
  | [], _ => True
  | action :: actions, state => good state action ∧ Along good actions (step action state)

instance (good : σ → α → Prop) [∀ state action, Decidable (good state action)]
    (actions : List α) (state : σ) : Decidable (Along step good actions state) :=
  match actions with
  | [] => inferInstanceAs (Decidable True)
  | action :: actions =>
    have : Decidable (Along step good actions (step action state)) :=
      instDecidableAlong good actions (step action state)
    inferInstanceAs (Decidable (good state action ∧ _))

/-- The costs of the actions of a run, each in the state that it meets. -/
def costAlong (cost : σ → α → ℕ) : List α → σ → ℕ
  | [], _ => 0
  | action :: actions, state => cost state action + costAlong cost actions (step action state)

variable {step} {good : σ → α → Prop} {actions : List α} {start : σ}

theorem Along.split {before after : List α} {action : α} (halong : Along step good actions start)
    (hsplit : actions = before ++ action :: after) : good (run step before start) action := by
  induction before generalizing actions start with
  | nil =>
    subst hsplit
    exact halong.1
  | cons first before ih =>
    subst hsplit
    exact ih halong.2 rfl

theorem Along.left {left right : List α}
    (halong : Along step good (left ++ right) start) : Along step good left start := by
  induction left generalizing start with
  | nil => trivial
  | cons first left ih => exact ⟨halong.1, ih halong.2⟩

theorem along_of_forall {good : α → Prop} {actions : List α}
    (hgood : ∀ action ∈ actions, good action) (start : σ) :
    Along step (fun _ action => good action) actions start := by
  induction actions generalizing start with
  | nil => trivial
  | cons action actions ih =>
    exact ⟨hgood action mem_cons_self,
      ih (fun other hother => hgood other (mem_cons_of_mem action hother)) _⟩

theorem along_true (actions : List α) (start : σ) : Along step (fun _ _ => True) actions start :=
  along_of_forall (fun _ _ => trivial) start

/-- If every step sets a clock to the time of its action, then actions in the
order of time never meet a later clock. -/
theorem along_of_sorted {time : α → ℕ} {clock : σ → ℕ}
    (hclock : ∀ action state, clock (step action state) = time action)
    (hsorted : (actions.map time).Pairwise (· ≤ ·))
    (hstart : ∀ action ∈ actions, clock start ≤ time action) :
    Along step (fun state action => clock state ≤ time action) actions start := by
  induction actions generalizing start with
  | nil => trivial
  | cons action actions ih =>
    rw [map_cons, pairwise_cons] at hsorted
    refine ⟨hstart action mem_cons_self, ih hsorted.2 ?_⟩
    intro later hlater
    rw [hclock]
    exact hsorted.1 (time later) (mem_map_of_mem hlater)

/-- What good steps preserve holds after every run of good steps. -/
theorem Along.invariant {inv : σ → Prop}
    (hstep : ∀ state action, inv state → good state action → inv (step action state))
    (halong : Along step good actions start)
    (hstart : inv start) : inv (run step actions start) := by
  induction actions generalizing start with
  | nil => exact hstart
  | cons action actions ih => exact ih halong.2 (hstep start action hstart halong.1)

theorem invariant_of_sorted {time : α → ℕ} {clock : σ → ℕ} {inv : σ → Prop}
    (hclock : ∀ action state, clock (step action state) = time action)
    (hstep : ∀ state action, inv state → clock state ≤ time action → inv (step action state))
    (hsorted : (actions.map time).Pairwise (· ≤ ·)) (hzero : clock start = 0)
    (hstart : inv start) : inv (run step actions start) :=
  (along_of_sorted hclock hsorted fun _ _ => hzero ▸ Nat.zero_le _).invariant hstep hstart

/-- An invariant that each good step shifts by its cost is shifted by the costs of the run. -/
theorem Along.invariant_cost {inv : ℕ → σ → Prop} {cost : σ → α → ℕ} {paid : ℕ}
    (hstep : ∀ paid state action, inv paid state → good state action →
      inv (paid + cost state action) (step action state))
    (halong : Along step good actions start) (hstart : inv paid start) :
    inv (paid + costAlong step cost actions start) (run step actions start) := by
  induction actions generalizing start paid with
  | nil => exact hstart
  | cons action actions ih =>
    have hrest := ih halong.2 (hstep paid start action hstart halong.1)
    rw [Nat.add_assoc] at hrest
    exact hrest

/-- A mark that no step removes silently has a cause: whatever is marked after
a run was marked by one of its steps. -/
theorem exists_cause {mark : σ → κ → Prop} {cause : σ → α → κ → Prop}
    (hstart : ∀ key, ¬ mark start key) (actions : List α)
    (hstep : ∀ before action after, actions = before ++ action :: after → ∀ key,
      mark (step action (run step before start)) key →
        mark (run step before start) key ∨ cause (run step before start) action key)
    (key : κ) (hmark : mark (run step actions start) key) :
    ∃ before action after, actions = before ++ action :: after ∧
      cause (run step before start) action key := by
  induction actions using reverseRecOn with
  | nil => exact absurd hmark (hstart key)
  | append_singleton actions action ih =>
    rw [run_concat] at hmark
    rcases hstep actions action [] rfl key hmark with hbefore | hcause
    · have hprefix : ∀ before action' after, actions = before ++ action' :: after →
          ∀ key, mark (step action' (run step before start)) key →
            mark (run step before start) key ∨ cause (run step before start) action' key := by
        intro before action' after hsplit
        apply hstep before action' (after ++ [action])
        rw [hsplit, append_assoc]
        rfl
      obtain ⟨before, action', after, hsplit, hcause⟩ := ih hprefix hbefore
      refine ⟨before, action', after ++ [action], ?_, hcause⟩
      rw [hsplit, append_assoc]
      rfl
    · exact ⟨actions, action, [], rfl, hcause⟩

end Runs

/-! ## Streams that answer calls -/

namespace Polling

variable {σ κ α β : Type}

/-- A stream answers calls and changes its state; `traffic` is what its
upstream has seen of it. -/
structure Stream (σ κ α β : Type) where
  poll : κ → σ → α × σ
  isError : α → Prop
  traffic : σ → β

def Stream.after (stream : Stream σ κ α β) (calls : List κ) (start : σ) : σ :=
  Runs.run (fun call state => (stream.poll call state).2) calls start

/-- After any allowed calls, every call that asks for something is refused, and
nothing has passed since. -/
def Stream.Unusable (stream : Stream σ κ α β) (allowed asks : κ → Prop)
    (state : σ) : Prop :=
  ∀ calls : List κ, (∀ call ∈ calls, allowed call) → ∀ call, allowed call → asks call →
    stream.isError (stream.poll call (stream.after calls state)).1 ∧
      stream.traffic (stream.poll call (stream.after calls state)).2 =
        stream.traffic state

/-- The allowed calls do not leave these states and pass nothing in them, and
the asking ones among them are refused. -/
def Stream.Absorbs (stream : Stream σ κ α β) (allowed asks : κ → Prop)
    (poisoned : σ → Prop) : Prop :=
  ∀ call state, allowed call → poisoned state →
    poisoned (stream.poll call state).2 ∧
      stream.traffic (stream.poll call state).2 = stream.traffic state ∧
      (asks call → stream.isError (stream.poll call state).1)

theorem Stream.Absorbs.unusable {stream : Stream σ κ α β} {allowed asks : κ → Prop}
    {poisoned : σ → Prop} (habsorbs : stream.Absorbs allowed asks poisoned) {state : σ}
    (hpoisoned : poisoned state) : stream.Unusable allowed asks state := by
  intro calls hcalls call hallowed hasks
  have hstep : ∀ next call,
      (poisoned next ∧ stream.traffic next = stream.traffic state) → allowed call →
        poisoned (stream.poll call next).2 ∧
          stream.traffic (stream.poll call next).2 = stream.traffic state := by
    intro next call hnext hcall
    obtain ⟨hstays, hsilent, -⟩ := habsorbs call next hcall hnext.1
    exact ⟨hstays, hsilent.trans hnext.2⟩
  obtain ⟨hafter, htraffic⟩ := Runs.Along.invariant hstep (Runs.along_of_forall hcalls state)
    ⟨hpoisoned, rfl⟩
  obtain ⟨-, hsilent, hrefused⟩ := habsorbs call _ hallowed hafter
  exact ⟨hrefused hasks, hsilent.trans htraffic⟩

end Polling

end TupoProxy
