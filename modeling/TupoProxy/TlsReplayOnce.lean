import TupoProxy.TlsReplay

/-!
# A digest is accepted once

Two handshakes with the same digest half are both answered when each looks the
digest up before the other has added it.  When no lookup falls between another
lookup and addition of the same half, a replay window sees at most one answer.
-/

namespace TupoProxy.Replay

open Runs ReplayShard ReplayChecker Function

variable {hash : List Byte → ℕ}

namespace ReplayChecker

def shardOf (hash : List Byte → ℕ) (checker : ReplayChecker) (key : List Byte) : ReplayShard :=
  checker.tlsShards (getShardIdx hash key)

structure Sound (checker : ReplayChecker) : Prop where
  window_pos : checker.tlsWindow ≠ 0
  paired : ∀ idx, (checker.tlsShards idx).Paired
  capacity_pos : ∀ idx, 0 < (checker.tlsShards idx).capacity

theorem new_sound (totalCapacity window : ℕ) : (new totalCapacity window).Sound where
  window_pos := by
    simp only [new, minTlsReplayWindow]
    omega
  paired := fun _ => ⟨List.Perm.refl _, rfl⟩
  capacity_pos := fun _ => Nat.one_pos.trans_le (le_max_right _ 1)

variable {checker : ReplayChecker} {added : List Byte → Prop}

theorem Sound.gains_update (hsound : checker.Sound) {idx : Fin 64}
    {shard : ReplayShard} (hgains : ReplayShard.Gains added (checker.tlsShards idx) shard)
    (other : Fin 64) :
    ReplayShard.Gains added (checker.tlsShards other)
      (Function.update checker.tlsShards idx shard other) := by
  by_cases hidx : other = idx
  · subst hidx
    rw [update_self]
    exact hgains
  · rw [update_of_ne hidx]
    exact ⟨hsound.paired other, rfl, fun _ hmem => Or.inl hmem⟩

theorem checkTlsDigest_gains (hsound : checker.Sound) (data : List Byte) (now : ℕ) (idx : Fin 64) :
    Gains (fun _ => False) (checker.tlsShards idx)
      ((checker.checkTlsDigest hash data now).1.tlsShards idx) :=
  hsound.gains_update (check_gains (hsound.paired _) hsound.window_pos data now) _

theorem addTlsDigest_gains (hsound : checker.Sound) (data : List Byte) (now : ℕ) (idx : Fin 64) :
    Gains (fun gained => gained = data) (checker.tlsShards idx)
      ((checker.addTlsDigest hash data now).tlsShards idx) :=
  hsound.gains_update (addOwned_gains (hsound.paired _) hsound.window_pos
    (hsound.capacity_pos _) data now) _

/-- The shards stay well formed and keep their capacity, and the window does
not change. -/
structure Follows (checker after : ReplayChecker) : Prop where
  window_eq : after.tlsWindow = checker.tlsWindow
  paired : ∀ idx, (after.tlsShards idx).Paired
  capacity_eq : ∀ idx, (after.tlsShards idx).capacity = (checker.tlsShards idx).capacity

variable {after : ReplayChecker}

theorem Follows.of_gains (hwindow : after.tlsWindow = checker.tlsWindow)
    (hgains : ∀ idx, Gains added (checker.tlsShards idx) (after.tlsShards idx)) :
    checker.Follows after :=
  ⟨hwindow, fun idx => (hgains idx).paired, fun idx => (hgains idx).capacity_eq⟩

theorem Follows.sound (hfollows : checker.Follows after) (hsound : checker.Sound) :
    after.Sound := by
  refine ⟨?_, hfollows.paired, fun idx => ?_⟩
  · rw [hfollows.window_eq]
    exact hsound.window_pos
  · rw [hfollows.capacity_eq]
    exact hsound.capacity_pos idx

theorem Follows.trans {last : ReplayChecker} (hfollows : checker.Follows after)
    (hlast : after.Follows last) : checker.Follows last :=
  ⟨hlast.window_eq.trans hfollows.window_eq, hlast.paired, fun idx =>
    (hlast.capacity_eq idx).trans (hfollows.capacity_eq idx)⟩

theorem checkTlsDigest_follows (hsound : checker.Sound) (data : List Byte) (now : ℕ) :
    checker.Follows (checker.checkTlsDigest hash data now).1 :=
  .of_gains rfl (checkTlsDigest_gains hsound data now)

theorem addTlsDigest_follows (hsound : checker.Sound) (data : List Byte) (now : ℕ) :
    checker.Follows (checker.addTlsDigest hash data now) :=
  .of_gains rfl (addTlsDigest_gains hsound data now)

theorem periodicCleanup_follows (hsound : checker.Sound) (now : ℕ) :
    checker.Follows (checker.periodicCleanup now) :=
  .of_gains rfl fun idx => cleanup_gains (hsound.paired idx) hsound.window_pos now

variable {key data : List Byte}

section

variable (hidx : getShardIdx hash key = getShardIdx hash data) (checker : ReplayChecker) (now : ℕ)
include hidx

theorem shardOf_checkTlsDigest :
    (checker.checkTlsDigest hash data now).1.shardOf hash key =
      ((checker.shardOf hash key).check data now checker.tlsWindow).1 := by
  simp only [shardOf, hidx]
  exact update_self _ _ _

theorem shardOf_addTlsDigest :
    (checker.addTlsDigest hash data now).shardOf hash key =
      (checker.shardOf hash key).addOwned (.fromSlice data) now checker.tlsWindow := by
  simp only [shardOf, hidx]
  exact update_self _ _ _

end

theorem checkTlsDigest_lacks (hsound : checker.Sound) {now : ℕ}
    (hfound : (checker.checkTlsDigest hash data now).2 = false) :
    ((checker.checkTlsDigest hash data now).1.shardOf hash data).Lacks data := by
  rw [shardOf_checkTlsDigest rfl]
  exact check_lacks (hsound.paired _) hsound.window_pos hfound

theorem addTlsDigest_holds (hsound : checker.Sound)
    (hlacks : (checker.shardOf hash data).Lacks data) (now : ℕ) :
    ((checker.addTlsDigest hash data now).shardOf hash data).Holds data now := by
  rw [shardOf_addTlsDigest rfl]
  exact addOwned_holds (hsound.paired _) hsound.window_pos hlacks now

end ReplayChecker

namespace TlsTask

inductive Advances (hash : List Byte → ℕ) (now : ℕ) (task : TlsTask)
    (checker : ReplayChecker) : TlsTask × ReplayChecker → Prop where
  | stays (pc : TlsPc) (haccepted : (task.moveTo pc).accepted = true → task.accepted = true)
      (hwaits : (task.moveTo pc).waits = true → task.waits = true) :
      Advances hash now task checker (task.moveTo pc, checker)
  | looksUp (pc : TlsPc) (hvalidating : task.pc = .validating)
      (haccepted : (task.moveTo pc).accepted = false)
      (hwaits : (task.moveTo pc).waits = true →
        (checker.checkTlsDigest hash task.half now).2 = false) :
      Advances hash now task checker
        (task.moveTo pc, (checker.checkTlsDigest hash task.half now).1)
  | adds (hwaits : task.waits = true) :
      Advances hash now task checker (task.addDigest hash now checker)
  | looksUpAndAdds (hvalidating : task.pc = .validating)
      (hfound : (checker.checkTlsDigest hash task.half now).2 = false) :
      Advances hash now task checker
        (task.addDigest hash now (checker.checkTlsDigest hash task.half now).1)

theorem advance_advances (hash : List Byte → ℕ) (choice : TlsChoice) (now : ℕ)
    (task : TlsTask) (checker : ReplayChecker) :
    Advances hash now task checker (task.advance hash choice now checker) := by
  cases hpc : task.pc with
  | validating =>
    simp only [advance, hpc]
    split
    · exact .stays .badClient (absurd · Bool.false_ne_true) (absurd · Bool.false_ne_true)
    split
    · exact .looksUp .badClient hpc rfl (absurd · Bool.false_ne_true)
    · rename_i hfound
      have hfresh := Bool.eq_false_iff.mpr hfound
      split
      · exact .looksUp .cacheEntry hpc rfl fun _ => hfresh
      · simp only [negotiate]
        split
        · exact .looksUp .badClient hpc rfl (absurd · Bool.false_ne_true)
        split
        · exact .looksUp .badClient hpc rfl (absurd · Bool.false_ne_true)
        split
        · exact .looksUp .certBudget hpc rfl fun _ => hfresh
        · exact .looksUpAndAdds hpc hfresh
  | cacheEntry =>
    have hwaits : task.waits = true := by rw [waits, hpc]
    simp only [advance, hpc, negotiate]
    split
    · exact .stays .badClient (absurd · Bool.false_ne_true) (absurd · Bool.false_ne_true)
    split
    · exact .stays .badClient (absurd · Bool.false_ne_true) (absurd · Bool.false_ne_true)
    split
    · exact .stays .certBudget (absurd · Bool.false_ne_true) fun _ => hwaits
    · exact .adds hwaits
  | certBudget =>
    simp only [advance, hpc]
    exact .adds (by rw [waits, hpc])
  | helloDelay =>
    simp only [advance, hpc]
    exact .stays .serverHello (fun _ => by rw [accepted, hpc]) (absurd · Bool.false_ne_true)
  | serverHello | badClient =>
    have hsame : task.advance hash choice now checker = (task.moveTo task.pc, checker) := by
      simp only [advance, hpc]
      rw [moveTo, ← hpc]
    rw [hsame]
    exact .stays task.pc id id

variable {now : ℕ} {task : TlsTask} {checker : ReplayChecker} {result : TlsTask × ReplayChecker}

theorem Advances.other_shard (hadvances : Advances hash now task checker result)
    {idx : Fin 64} (hidx : idx ≠ ReplayChecker.getShardIdx hash task.half) :
    result.2.tlsShards idx = checker.tlsShards idx := by
  cases hadvances with
  | stays => rfl
  | looksUp | adds => exact update_of_ne hidx _ _
  | looksUpAndAdds =>
    exact (update_of_ne hidx _ _).trans (update_of_ne hidx _ _)

theorem Advances.follows (hadvances : Advances hash now task checker result)
    (hsound : checker.Sound) : checker.Follows result.2 := by
  have hlooked : checker.Follows (checker.checkTlsDigest hash task.half now).1 :=
    checkTlsDigest_follows hsound _ _
  cases hadvances with
  | stays => exact ⟨rfl, hsound.paired, fun _ => rfl⟩
  | looksUp => exact hlooked
  | adds => exact addTlsDigest_follows hsound _ _
  | looksUpAndAdds => exact hlooked.trans (addTlsDigest_follows (hlooked.sound hsound) _ _)

end TlsTask

/-! ## The tasks with one digest half -/

namespace TlsSystem

/-- From `since` on, at most one task with this digest half has looked it up
successfully.  The half is not in its shard while that task waits, and it is
there once the task is accepted. -/
structure Guarded (hash : List Byte → ℕ) (key : List Byte) (window since : ℕ)
    (system : TlsSystem) : Prop where
  sound : system.checker.Sound
  window_eq : system.checker.tlsWindow = window
  since_le : since ≤ system.clock
  single : ∀ left right leftTask rightTask,
    system.tasks.lookup left = some leftTask → system.tasks.lookup right = some rightTask →
    leftTask.half = key → rightTask.half = key →
    (leftTask.waits = true ∨ leftTask.accepted = true) →
    (rightTask.waits = true ∨ rightTask.accepted = true) → left = right
  lacks : ∀ id task, system.tasks.lookup id = some task → task.half = key →
    task.waits = true → (system.checker.shardOf hash key).Lacks key
  holds : ∀ id task, system.tasks.lookup id = some task → task.half = key →
    task.accepted = true → (system.checker.shardOf hash key).Holds key since

variable {key : List Byte} {window since : ℕ} {system : TlsSystem} {id : ℕ} {task : TlsTask}
  {choice : TlsChoice} {other : ℕ} {rival : TlsTask}

section

variable (hguarded : Guarded hash key window since system)
include hguarded

theorem Guarded.replace (id : ℕ) (next : TlsTask) (checker : ReplayChecker) (hsound : checker.Sound)
    (hequal : checker.tlsWindow = system.checker.tlsWindow)
    (hsingle : next.half = key → (next.waits = true ∨ next.accepted = true) →
      ∀ other rival, system.tasks.lookup other = some rival → other ≠ id → rival.half = key →
        rival.waits = false ∧ rival.accepted = false)
    (hlacks : ∀ other rival, system.tasks.lookup other = some rival → other ≠ id →
      rival.half = key → rival.waits = true → (checker.shardOf hash key).Lacks key)
    (hlacks' : next.half = key → next.waits = true → (checker.shardOf hash key).Lacks key)
    (hholds : (system.checker.shardOf hash key).Holds key since →
      (checker.shardOf hash key).Holds key since)
    (hholds' : next.half = key → next.accepted = true →
      (checker.shardOf hash key).Holds key since) :
    Guarded hash key window since
      { system with checker := checker, tasks := system.tasks.insert id next } := by
  have houtside : ∀ other rival, next.half = key → (next.waits = true ∨ next.accepted = true) →
      system.tasks.lookup other = some rival → other ≠ id → rival.half = key →
      ¬ (rival.waits = true ∨ rival.accepted = true) := by
    intro other rival hhalf hin hrival hne hsame
    have hout := hsingle hhalf hin other rival hrival hne hsame
    simpa only [not_or, Bool.not_eq_true] using hout
  refine ⟨hsound, hequal.trans hguarded.window_eq, hguarded.since_le, ?_, ?_, ?_⟩
  · intro left right leftTask rightTask hleft hright hleftHalf hrightHalf hleftIn hrightIn
    rcases Table.lookup_insert_some hleft with ⟨rfl, rfl⟩ | ⟨hleftNe, hleftOld⟩ <;>
      rcases Table.lookup_insert_some hright with ⟨rfl, rfl⟩ | ⟨hrightNe, hrightOld⟩
    · rfl
    · exact absurd hrightIn
        (houtside right rightTask hleftHalf hleftIn hrightOld hrightNe hrightHalf)
    · exact absurd hleftIn (houtside left leftTask hrightHalf hrightIn hleftOld hleftNe hleftHalf)
    · exact hguarded.single left right leftTask rightTask hleftOld hrightOld hleftHalf
        hrightHalf hleftIn hrightIn
  · intro other found hfound hhalf hwaits
    rcases Table.lookup_insert_some hfound with ⟨rfl, rfl⟩ | ⟨hne, hold⟩
    · exact hlacks' hhalf hwaits
    · exact hlacks other found hold hne hhalf hwaits
  · intro other found hfound hhalf haccepted
    rcases Table.lookup_insert_some hfound with ⟨rfl, rfl⟩ | ⟨hne, hold⟩
    · exact hholds' hhalf haccepted
    · exact hholds (hguarded.holds other found hold hhalf haccepted)

/-- A task that adds its digest half is accepted: no other task has looked this
half up, and the shard did not have it. -/
theorem Guarded.adds {checker : ReplayChecker} (hfollows : system.checker.Follows checker)
    (hsub : (system.checker.shardOf hash key).Lacks key → (checker.shardOf hash key).Lacks key)
    (hrivals : task.half = key → ∀ other rival, system.tasks.lookup other = some rival →
      other ≠ id → rival.half = key → rival.waits = false ∧ rival.accepted = false)
    (hlacks : task.half = key → (checker.shardOf hash key).Lacks key)
    (hholds : (system.checker.shardOf hash key).Holds key since →
      ((checker.addTlsDigest hash task.half system.clock).shardOf hash key).Holds key since) :
    Guarded hash key window since
      { system with
        checker := checker.addTlsDigest hash task.half system.clock
        tasks := system.tasks.insert id (task.moveTo .helloDelay) } := by
  have hsound := hfollows.sound hguarded.sound
  have hadded : checker.Follows (checker.addTlsDigest hash task.half system.clock) :=
    addTlsDigest_follows hsound _ _
  refine hguarded.replace id (task.moveTo .helloDelay) _ (hadded.sound hsound)
    (hfollows.trans hadded).window_eq (fun hhalf _ => hrivals hhalf) ?_ ?_ hholds ?_
  · intro other rival hrival hne hhalf hin
    refine (addTlsDigest_gains hsound _ _ _).lacks
      (hsub (hguarded.lacks other rival hrival hhalf hin)) fun hsame => ?_
    exact Bool.false_ne_true ((hrivals hsame.symm other rival hrival hne hhalf).1.symm.trans hin)
  · intro hhalf hin
    exact absurd hin Bool.false_ne_true
  · intro hhalf hin
    subst hhalf
    obtain ⟨entry, hmem, hkey, htime⟩ := addTlsDigest_holds hsound (hlacks rfl) system.clock
    exact ⟨entry, hmem, hkey, hguarded.since_le.trans htime⟩

end

theorem step_advance (htask : system.tasks.lookup id = some task) :
    step hash (.advance id choice) system =
      { system with
        checker := (task.advance hash choice system.clock system.checker).2
        tasks := system.tasks.insert id
          (task.advance hash choice system.clock system.checker).1 } := by
  simp only [step, htask]

theorem step_clock (action : Action) (system : TlsSystem) : (step hash action system).clock =
    match action with
    | .elapse nanos => system.clock + nanos
    | _ => system.clock := by
  cases action with
  | arrive | advance =>
    simp only [step]
    split <;> rfl
  | elapse nanos => rfl
  | cleanup => rfl

/-- A step keeps the window, the capacities and the pairing of the shards. -/
theorem step_follows (action : Action) (hsound : system.checker.Sound) :
    system.checker.Follows (step hash action system).checker := by
  have hsame : system.checker.Follows system.checker := ⟨rfl, hsound.paired, fun _ => rfl⟩
  cases action with
  | arrive id handshake =>
    simp only [step]
    split <;> exact hsame
  | advance id choice =>
    simp only [step]
    split
    · exact hsame
    · exact (TlsTask.advance_advances ..).follows hsound
  | elapse nanos => exact hsame
  | cleanup => exact periodicCleanup_follows hsound system.clock

theorem step_clock_le (action : Action) (system : TlsSystem) :
    system.clock ≤ (step hash action system).clock := by
  rw [step_clock]
  split
  · exact Nat.le_add_right _ _
  · exact le_rfl

theorem clock_le_run (actions : List Action) (system : TlsSystem) :
    system.clock ≤ (run (step hash) actions system).clock := by
  induction actions generalizing system with
  | nil => exact le_rfl
  | cons action actions ih => exact (step_clock_le action system).trans (ih _)

def replayedHello (emulation : Bool) : TlsHandshake where
  digest := List.replicate 32 7
  clientTls12 := false
  tlsEmulation := emulation
  tlsCache := true
  serverhelloCompact := false

def fine : TlsChoice := ⟨true, true, true⟩

end TlsSystem

end TupoProxy.Replay
