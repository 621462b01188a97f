import TupoProxy.TlsReplayOnce

/-!
# Replay protection across runtime generations

A successful reload prepares a new runtime generation, closes the admission of
the old one and swaps them.  Every generation owns a replay checker of its own,
and a connection is served by the generation that its accept loop loaded.  A
recorded digest is refused for a whole window by the generation that recorded
it; a later generation does not know it.
-/

namespace TupoProxy.Replay

open Runs ReplayShard ReplayChecker List Option ReplayChecker

variable {hash : List Byte → ℕ}

namespace TlsSystem

/-- The digest half that the step enters into its shard.  A half that is there
already is not entered again. -/
def recordedBy (hash : List Byte → ℕ) (system : TlsSystem) : Action → Option (List Byte)
  | .advance id choice =>
    match system.tasks.lookup id with
    | some task =>
      let next := (task.advance hash choice system.clock system.checker).1
      let shard := (system.checker.shardOf hash task.half).cleanup system.clock
        system.checker.tlsWindow
      if next.accepted ∧ ¬ task.accepted ∧ ¬ (shard.cache.peek task.half).isSome then
        some task.half
      else none
    | none => none
  | _ => none

end TlsSystem

def crowding (hash : List Byte → ℕ) (key : List Byte) (recorded : List (List Byte)) : ℕ :=
  (recorded.filter fun half =>
    ReplayChecker.getShardIdx hash half = ReplayChecker.getShardIdx hash key).length

structure ReplaySettings where
  replayCheckLen : ℕ
  replayWindow : ℕ
  deriving Repr, DecidableEq

namespace ReplaySettings

def tlsWindow (settings : ReplaySettings) : ℕ :=
  max settings.replayWindow minTlsReplayWindow

def shardCapacity (settings : ReplaySettings) : ℕ :=
  max (settings.replayCheckLen / 64) 1

end ReplaySettings

structure RuntimeGeneration where
  replayChecker : ReplayChecker
  tasks : Table ℕ TlsTask
  admissionClosed : Bool
  sessionsCancelled : Bool

/-- What `prepare_runtime` builds for the replay protection. -/
def prepareRuntime (settings : ReplaySettings) : RuntimeGeneration where
  replayChecker := .new settings.replayCheckLen settings.replayWindow
  tasks := ∅
  admissionClosed := false
  sessionsCancelled := false

namespace RuntimeGeneration

/-- The handshakes of a generation as a system of their own. -/
def tls (generation : RuntimeGeneration) (clock : ℕ) : TlsSystem :=
  ⟨generation.replayChecker, clock, generation.tasks⟩

def act (hash : List Byte → ℕ) (clock : ℕ) (action : TlsSystem.Action)
    (generation : RuntimeGeneration) : RuntimeGeneration :=
  let system := TlsSystem.step hash action (generation.tls clock)
  { generation with replayChecker := system.checker, tasks := system.tasks }

end RuntimeGeneration

structure Maestro where
  clock : ℕ
  active : ℕ
  generations : Table ℕ RuntimeGeneration
  /-- Accepted connections that wait for a permit, with the generation that
  the accept loop loaded for them. -/
  waiting : Table ℕ ℕ

namespace Maestro

def start (settings : ReplaySettings) (clock : ℕ) : Maestro where
  clock := clock
  active := 1
  generations := (∅ : Table ℕ RuntimeGeneration).insert 1 (prepareRuntime settings)
  waiting := ∅

inductive Action where
  | accept (conn : ℕ)
  | spawnSession (conn : ℕ) (handshake : TlsHandshake)
  | advance (generation conn : ℕ) (choice : TlsChoice)
  | elapse (nanos : ℕ)
  | cleanup (generation : ℕ)
  | reload (settings : ReplaySettings)
  | stopSessions (generation : ℕ)
  deriving Repr, DecidableEq

def update (maestro : Maestro) (id : ℕ)
    (change : RuntimeGeneration → RuntimeGeneration) : Maestro :=
  match maestro.generations.lookup id with
  | some generation =>
    { maestro with generations := maestro.generations.insert id (change generation) }
  | none => maestro

def activate (maestro : Maestro) (prepared : RuntimeGeneration) : Maestro :=
  let closed := maestro.update maestro.active fun generation =>
    { generation with admissionClosed := true }
  { closed with
    active := maestro.active + 1
    generations := closed.generations.insert (maestro.active + 1) prepared }

/-- The step that an action is for one generation. -/
def onGeneration (maestro : Maestro) (id : ℕ) (generation : RuntimeGeneration) :
    Action → Option TlsSystem.Action
  | .spawnSession conn handshake =>
    if maestro.waiting.lookup conn = some id ∧ ¬ generation.admissionClosed then
      some (.arrive conn handshake)
    else none
  | .advance target conn choice =>
    if target = id ∧ ¬ generation.sessionsCancelled then some (.advance conn choice)
    else none
  | .elapse nanos => some (.elapse nanos)
  | .cleanup target => if target = id then some .cleanup else none
  | _ => none

/-- Let the handshakes of a generation take the step that the action is for
them. -/
def actOn (hash : List Byte → ℕ) (maestro : Maestro) (id : ℕ) (action : Action) : Maestro :=
  maestro.update id fun generation =>
    match maestro.onGeneration id generation action with
    | some turn => generation.act hash maestro.clock turn
    | none => generation

def step (hash : List Byte → ℕ) (action : Action) (maestro : Maestro) : Maestro :=
  match action with
  | .accept conn => { maestro with waiting := maestro.waiting.insert conn maestro.active }
  | .spawnSession conn _ =>
    match maestro.waiting.lookup conn with
    | some id =>
      { maestro.actOn hash id action with waiting := maestro.waiting.erase conn }
    | none => maestro
  | .advance id _ _ => maestro.actOn hash id action
  | .elapse nanos => { maestro with clock := maestro.clock + nanos }
  | .cleanup id => maestro.actOn hash id action
  | .reload settings => maestro.activate (prepareRuntime settings)
  | .stopSessions id =>
    maestro.update id fun generation => { generation with sessionsCancelled := true }

end Maestro

/-! ## An entry stays while few others follow it -/

namespace ReplayShard

variable {shard : ReplayShard} {key : List Byte} {window since now followers : ℕ}

/-- The key was entered at `since` or later, and at most `followers` entries
came after it. -/
def Retains (shard : ReplayShard) (key : List Byte) (since followers : ℕ) : Prop :=
  ∃ front entry behind, shard.queue = front ++ entry :: behind ∧
    entry.key.asSlice = key ∧ since ≤ entry.time ∧ behind.length ≤ followers

theorem Retains.mono {more : ℕ} (hretains : shard.Retains key since followers)
    (hmore : followers ≤ more) : shard.Retains key since more := by
  obtain ⟨front, entry, behind, hqueue, hkey, htime, hfew⟩ := hretains
  exact ⟨front, entry, behind, hqueue, hkey, htime, hfew.trans hmore⟩

theorem Retains.dropped {after : ReplayShard} {count : ℕ} {front behind : List QueueEntry}
    {entry : QueueEntry} (hqueue : shard.queue = front ++ entry :: behind)
    (hafter : after.queue = shard.queue.drop count) (hcount : count ≤ front.length) :
    after.queue = front.drop count ++ entry :: behind := by
  rw [hafter, hqueue, drop_append_of_le_length hcount]

/-- What was entered at `since` is not over yet. -/
structure Fresh (shard : ReplayShard) (window since now : ℕ) : Prop where
  paired : shard.Paired
  window_pos : window ≠ 0
  window_le : window ≤ now
  young : now ≤ since + window

section

variable (hretains : shard.Retains key since followers)
include hretains

section

variable (hfresh : shard.Fresh window since now)
include hfresh

theorem cleanup_retains : (shard.cleanup now window).Retains key since followers := by
  obtain ⟨front, entry, behind, hqueue, hkey, htime, hfew⟩ := hretains
  obtain ⟨count, hevicted⟩ := cleanup_evicted hfresh.paired hfresh.window_pos
  rw [getD_checkedSub hfresh.window_le] at hevicted
  have hcount : count ≤ front.length := by
    by_contra hlong
    have hmem : entry ∈ shard.queue.take count := by
      rw [hqueue, take_append, take_cons (by omega)]
      exact mem_append_right _ mem_cons_self
    have hold := hevicted.front_old entry hmem
    have hyoung := hfresh.young
    omega
  exact ⟨front.drop count, entry, behind,
    Retains.dropped hqueue hevicted.queue_eq hcount, hkey, htime, hfew⟩

theorem check_retains (asked : List Byte) :
    (shard.check asked now window).1.Retains key since followers := by
  rw [check_eq hfresh.window_pos]
  exact cleanup_retains hretains hfresh

theorem check_found_of_retains : (shard.check key now window).2 = true := by
  obtain ⟨front, entry, behind, hqueue, hkey, -, -⟩ := cleanup_retains hretains hfresh
  rw [check_found_iff hfresh.paired hfresh.window_pos]
  refine ⟨entry, ?_, hkey⟩
  rw [hqueue]
  exact mem_append_right _ mem_cons_self

end

omit hretains in
theorem insertNew_queue (shard : ReplayShard) (key : ReplayKey) (now : ℕ) :
    (shard.insertNew key now).queue = shard.queue ++ [⟨now, key, shard.nextSeq.2⟩] := rfl

theorem push_retains (hpaired : shard.Paired) (hroom : followers + 1 < shard.capacity)
    (added : ReplayKey) (now : ℕ) :
    (shard.makeRoom.insertNew added now).Retains key since (followers + 1) := by
  obtain ⟨front, entry, behind, hqueue, hkey, htime, hfew⟩ := hretains
  obtain ⟨count, hevicted⟩ := makeRoom_evicted hpaired (by omega)
  have hcount : count ≤ front.length := by
    have hmade := hevicted.made_room.2
    rw [hqueue, length_append, length_cons] at hmade
    omega
  have hleft := Retains.dropped hqueue hevicted.queue_eq hcount
  refine ⟨front.drop count, entry, behind ++ [⟨now, added, shard.makeRoom.nextSeq.2⟩],
    ?_, hkey, htime, ?_⟩
  · rw [insertNew_queue, hleft, append_assoc]
    rfl
  · rw [length_append, length_singleton]
    omega

theorem addOwned_retains_present (hfresh : shard.Fresh window since now) {added : List Byte}
    (hpresent : ((shard.cleanup now window).cache.peek added).isSome = true) :
    (shard.addOwned (.fromSlice added) now window).Retains key since followers := by
  rw [addOwned_of_present hfresh.window_pos hpresent]
  exact cleanup_retains hretains hfresh

theorem addOwned_retains
    (hfresh : shard.Fresh window since now) (hroom : followers + 1 < shard.capacity)
    (added : List Byte) :
    (shard.addOwned (.fromSlice added) now window).Retains key since (followers + 1) := by
  have hgains := cleanup_gains hfresh.paired hfresh.window_pos now
  have hclean := cleanup_retains hretains hfresh
  cases hpeek : ((shard.cleanup now window).cache.peek added).isSome with
  | true =>
    exact (addOwned_retains_present hretains hfresh hpeek).mono (Nat.le_succ _)
  | false =>
    rw [addOwned_of_absent hfresh.window_pos hpeek]
    rw [← hgains.capacity_eq] at hroom
    exact push_retains hclean hgains.paired hroom _ now

end

theorem addOwned_records (hpos : window ≠ 0) {added : List Byte}
    (habsent : ((shard.cleanup now window).cache.peek added).isSome = false) :
    (shard.addOwned (.fromSlice added) now window).Retains added now 0 := by
  rw [addOwned_of_absent hpos habsent]
  exact ⟨_, _, [], insertNew_queue _ _ now, ReplayKey.asSlice_fromSlice added, le_rfl, le_rfl⟩

end ReplayShard

namespace ReplayChecker

structure Configured (settings : ReplaySettings) (checker : ReplayChecker) : Prop where
  sound : checker.Sound
  window_eq : checker.tlsWindow = settings.tlsWindow
  capacity_eq : ∀ idx, (checker.tlsShards idx).capacity = settings.shardCapacity

theorem new_configured (settings : ReplaySettings) :
    Configured settings (new settings.replayCheckLen settings.replayWindow) :=
  ⟨new_sound _ _, rfl, fun _ => rfl⟩

theorem Follows.configured {settings : ReplaySettings} {checker after : ReplayChecker}
    (hfollows : checker.Follows after) (hchecker : checker.Configured settings) :
    after.Configured settings :=
  ⟨hfollows.sound hchecker.sound, hfollows.window_eq.trans hchecker.window_eq, fun idx =>
    (hfollows.capacity_eq idx).trans (hchecker.capacity_eq idx)⟩

variable {settings : ReplaySettings} {checker : ReplayChecker}

end ReplayChecker

theorem TlsTask.Advances.half_eq {now : ℕ} {task : TlsTask} {checker : ReplayChecker}
    {result : TlsTask × ReplayChecker} (hadvances : TlsTask.Advances hash now task checker result) :
    result.1.half = task.half := by
  cases hadvances <;> rfl

namespace TlsSystem

variable {settings : ReplaySettings} {key : List Byte} {since followers : ℕ}
  {system : TlsSystem} {id : ℕ} {task : TlsTask}

theorem step_configured (action : Action) (hchecker : system.checker.Configured settings) :
    (step hash action system).checker.Configured settings :=
  (step_follows action hchecker.sound).configured hchecker

/-- The key was recorded at `since`, and the handshake `late` with this key had
not looked it up by then. -/
structure Recalls (hash : List Byte → ℕ) (settings : ReplaySettings) (key : List Byte)
    (since followers late : ℕ) (system : TlsSystem) : Prop where
  configured : system.checker.Configured settings
  since_le : since ≤ system.clock
  retains : (system.checker.shardOf hash key).Retains key since followers
  refused : ∀ task, system.tasks.lookup late = some task → task.half = key →
    task.waits = false ∧ task.accepted = false

variable {choice : TlsChoice}

theorem recordedBy_of_adds (htask : system.tasks.lookup id = some task)
    (hout : task.accepted = false)
    (hnext : (task.advance hash choice system.clock system.checker).1.accepted = true) :
    recordedBy hash system (.advance id choice) =
      if (((system.checker.shardOf hash task.half).cleanup system.clock
        system.checker.tlsWindow).cache.peek task.half).isSome then none
      else some task.half := by
  simp only [recordedBy, htask, hnext, hout]
  split <;> simp_all

theorem crowding_self {half : List Byte} (hidx : ReplayChecker.getShardIdx hash key =
    ReplayChecker.getShardIdx hash half) : crowding hash key [half] = 1 := by
  simp [crowding, hidx]

theorem accepted_of_waits (hwaits : task.waits = true) : task.accepted = false := by
  cases hpc : task.pc <;> simp_all [TlsTask.waits, TlsTask.accepted]

variable {checker : ReplayChecker}

theorem checked_absent {data : List Byte} {now : ℕ}
    (hsound : checker.Sound) (hfound : (checker.checkTlsDigest hash data now).2 = false) :
    (((checker.shardOf hash data).cleanup now checker.tlsWindow).cache.peek data).isSome =
      false := by
  have hanswer : (checker.checkTlsDigest hash data now).2 =
      ((checker.shardOf hash data).check data now checker.tlsWindow).2 := rfl
  rw [hanswer, check_eq hsound.window_pos] at hfound
  rw [← LruCache.get_value]
  exact hfound

structure InWindow (settings : ReplaySettings) (since clock : ℕ) : Prop where
  representable : settings.tlsWindow ≤ since
  since_le : since ≤ clock
  not_over : clock ≤ since + settings.tlsWindow

theorem InWindow.fresh {clock : ℕ}
    (htime : InWindow settings since clock) (hchecker : checker.Configured settings)
    (idx : Fin 64) : (checker.tlsShards idx).Fresh checker.tlsWindow since clock := by
  refine ⟨hchecker.sound.paired idx, hchecker.sound.window_pos, ?_, ?_⟩
  · rw [hchecker.window_eq]
    exact htime.representable.trans htime.since_le
  · rw [hchecker.window_eq]
    exact htime.not_over

section

variable (hchecker : system.checker.Configured settings)
  (htime : InWindow settings since system.clock)
  (hretains : (system.checker.shardOf hash key).Retains key since followers)
include hchecker htime hretains

theorem advance_retains (htask : system.tasks.lookup id = some task)
    (hroom : followers + crowding hash key (recordedBy hash system (.advance id choice)).toList <
      settings.shardCapacity) :
    ((task.advance hash choice system.clock system.checker).2.shardOf hash key).Retains key since
      (followers + crowding hash key (recordedBy hash system (.advance id choice)).toList) := by
  have hadvances := task.advance_advances hash choice system.clock system.checker
  by_cases hidx : getShardIdx hash key = getShardIdx hash task.half
  · have hfresh := htime.fresh hchecker (getShardIdx hash key)
    have hcapacity := hchecker.capacity_eq (getShardIdx hash key)
    generalize hresult : task.advance hash choice system.clock system.checker = result at hadvances
    cases hadvances with
    | stays pc haccepted hwaits => exact hretains.mono (Nat.le_add_right _ _)
    | looksUp pc hvalidating haccepted hwaits =>
      rw [shardOf_checkTlsDigest hidx]
      exact (check_retains hretains hfresh task.half).mono (Nat.le_add_right _ _)
    | adds hwaits =>
      have hrecorded := recordedBy_of_adds htask (accepted_of_waits hwaits)
        (show (task.advance hash choice system.clock system.checker).1.accepted = true by
          rw [hresult]
          rfl)
      have hshard : (system.checker.shardOf hash task.half) =
          system.checker.shardOf hash key := by
        simp only [shardOf, hidx]
      rw [hshard] at hrecorded
      change ((system.checker.addTlsDigest hash task.half system.clock).shardOf hash
        key).Retains key since _
      rw [shardOf_addTlsDigest hidx]
      cases hpeek : (((system.checker.shardOf hash key).cleanup system.clock
          system.checker.tlsWindow).cache.peek task.half).isSome with
      | true =>
        have hkept := addOwned_retains_present hretains hfresh hpeek
        exact hkept.mono (Nat.le_add_right _ _)
      | false =>
        rw [hpeek, if_neg Bool.false_ne_true] at hrecorded
        rw [hrecorded, toList_some, crowding_self hidx] at hroom ⊢
        exact addOwned_retains hretains hfresh (hcapacity ▸ hroom) task.half
    | looksUpAndAdds hvalidating hfound =>
      have hout : task.accepted = false := by rw [TlsTask.accepted, hvalidating]
      have hrecorded := recordedBy_of_adds htask hout
        (show (task.advance hash choice system.clock system.checker).1.accepted = true by
          rw [hresult]
          rfl)
      rw [checked_absent hchecker.sound hfound, if_neg Bool.false_ne_true] at hrecorded
      have hchecked : (system.checker.checkTlsDigest hash task.half
          system.clock).1.Configured settings :=
        (checkTlsDigest_follows hchecker.sound _ _).configured hchecker
      have hkept := check_retains hretains hfresh task.half
      rw [← shardOf_checkTlsDigest hidx] at hkept
      change (((system.checker.checkTlsDigest hash task.half system.clock).1.addTlsDigest
        hash task.half system.clock).shardOf hash key).Retains key since _
      rw [shardOf_addTlsDigest hidx]
      rw [hrecorded, toList_some, crowding_self hidx] at hroom ⊢
      have hmore := hchecked.capacity_eq (getShardIdx hash key)
      exact addOwned_retains hkept (htime.fresh hchecked _) (hmore ▸ hroom) task.half
  · rw [shardOf, hadvances.other_shard hidx]
    exact hretains.mono (Nat.le_add_right _ _)

theorem advance_refused
    (hhalf : task.half = key) (hwaits : task.waits = false) (hout : task.accepted = false) :
    (task.advance hash choice system.clock system.checker).1.waits = false ∧
      (task.advance hash choice system.clock system.checker).1.accepted = false := by
  have hfound : (system.checker.checkTlsDigest hash task.half system.clock).2 = true := by
    subst hhalf
    exact check_found_of_retains hretains (htime.fresh hchecker _)
  have hadvances := task.advance_advances hash choice system.clock system.checker
  generalize task.advance hash choice system.clock system.checker = result at hadvances
  cases hadvances with
  | stays pc haccepted hwaits' =>
    exact ⟨Bool.eq_false_iff.mpr fun hnow => Bool.false_ne_true (hwaits.symm.trans (hwaits' hnow)),
      Bool.eq_false_iff.mpr fun hnow => Bool.false_ne_true (hout.symm.trans (haccepted hnow))⟩
  | looksUp pc hvalidating haccepted hwaits' =>
    refine ⟨Bool.eq_false_iff.mpr fun hnow => ?_, haccepted⟩
    exact Bool.false_ne_true ((hwaits' hnow).symm.trans hfound)
  | adds hnow => exact absurd (hwaits.symm.trans hnow) Bool.false_ne_true
  | looksUpAndAdds hvalidating hmissing =>
    exact absurd (hmissing.symm.trans hfound) Bool.false_ne_true

end

variable {late : ℕ}

section

variable (hrecalls : Recalls hash settings key since followers late system)
  (hwindow : settings.tlsWindow ≤ since) (hclock : system.clock ≤ since + settings.tlsWindow)
include hrecalls hwindow hclock

theorem Recalls.inWindow : InWindow settings since system.clock :=
  ⟨hwindow, hrecalls.since_le, hclock⟩

/-- A step keeps the digest while its shard has room. -/
theorem step_recalls {action : Action}
    (hroom : followers + crowding hash key (recordedBy hash system action).toList <
      settings.shardCapacity) :
    Recalls hash settings key since
      (followers + crowding hash key (recordedBy hash system action).toList) late
      (step hash action system) := by
  have htime := hrecalls.inWindow hwindow hclock
  cases action with
  | arrive id handshake =>
    cases htask : system.tasks.lookup id with
    | some task =>
      simp only [step, htask]
      exact hrecalls
    | none =>
      simp only [step, htask]
      refine { hrecalls with refused := ?_ }
      intro found hfound hhalf
      rcases Table.lookup_insert_some hfound with ⟨-, rfl⟩ | ⟨-, hold⟩
      · exact ⟨rfl, rfl⟩
      · exact hrecalls.refused found hold hhalf
  | advance id choice =>
    cases htask : system.tasks.lookup id with
    | none =>
      have hstep : step hash (.advance id choice) system = system := by
        simp only [step, htask]
      rw [hstep]
      exact { hrecalls with retains := hrecalls.retains.mono (Nat.le_add_right _ _) }
    | some task =>
      have hconfigured := @step_configured hash _ _ (.advance id choice) hrecalls.configured
      have hretains := advance_retains hrecalls.configured htime hrecalls.retains htask hroom
      rw [step_advance htask] at hconfigured ⊢
      refine ⟨hconfigured, hrecalls.since_le, hretains, ?_⟩
      intro found hfound hhalf
      rcases Table.lookup_insert_some hfound with ⟨rfl, rfl⟩ | ⟨-, hold⟩
      · have hkeeps : task.half = key := by
          rw [← hhalf]
          exact (task.advance_advances hash choice system.clock system.checker).half_eq.symm
        obtain ⟨hwaits, hout⟩ := hrecalls.refused task htask hkeeps
        exact advance_refused hrecalls.configured htime hrecalls.retains hkeeps hwaits hout
      · exact hrecalls.refused found hold hhalf
  | elapse nanos =>
    exact { hrecalls with since_le := hrecalls.since_le.trans (Nat.le_add_right _ _) }
  | cleanup =>
    refine { hrecalls with
      configured := step_configured .cleanup hrecalls.configured
      retains := ?_ }
    exact cleanup_retains hrecalls.retains (htime.fresh hrecalls.configured _)

end

theorem recorded_retains (hchecker : system.checker.Configured settings)
    (hrecorded : recordedBy hash system (.advance id choice) = some key) :
    ((step hash (.advance id choice) system).checker.shardOf hash key).Retains key
      system.clock 0 := by
  have hpos := hchecker.sound.window_pos
  cases htask : system.tasks.lookup id with
  | none =>
    rw [recordedBy, htask] at hrecorded
    cases hrecorded
  | some task =>
    simp only [recordedBy, htask] at hrecorded
    split at hrecorded
    case isFalse => cases hrecorded
    case isTrue hadded =>
      obtain ⟨hnext, hbefore, habsent⟩ := hadded
      cases hrecorded
      rw [step_advance htask]
      have hadvances := task.advance_advances hash choice system.clock system.checker
      generalize task.advance hash choice system.clock system.checker = result at hadvances hnext ⊢
      cases hadvances with
      | stays pc haccepted hwaits => exact absurd (haccepted hnext) hbefore
      | looksUp pc hvalidating haccepted hwaits =>
        exact absurd (haccepted.symm.trans hnext) Bool.false_ne_true
      | adds hwaits =>
        change ((system.checker.addTlsDigest hash task.half system.clock).shardOf hash
          task.half).Retains task.half system.clock 0
        rw [shardOf_addTlsDigest rfl]
        exact addOwned_records hpos (Bool.eq_false_iff.mpr habsent)
      | looksUpAndAdds hvalidating hfound =>
        have hlacks := checkTlsDigest_lacks hchecker.sound hfound
        have hchecked : (system.checker.checkTlsDigest hash task.half system.clock).1.Sound :=
          (checkTlsDigest_follows hchecker.sound _ _).sound hchecker.sound
        change (((system.checker.checkTlsDigest hash task.half
          system.clock).1.addTlsDigest hash task.half system.clock).shardOf hash
            task.half).Retains task.half system.clock 0
        rw [shardOf_addTlsDigest rfl]
        exact addOwned_records hpos (absent_of_lacks (hchecked.paired _) hpos hlacks)

end TlsSystem

namespace Maestro

variable {maestro : Maestro} {settings : ReplaySettings} {g : ℕ}
  {generation : RuntimeGeneration}

theorem lookup_update (maestro : Maestro) (id g : ℕ)
    (change : RuntimeGeneration → RuntimeGeneration) :
    (maestro.update id change).generations.lookup g =
      (maestro.generations.lookup g).map fun generation =>
        if g = id then change generation else generation := by
  unfold update
  split
  case h_1 found hfound =>
    by_cases hsame : g = id
    · subst hsame
      simp only [hfound, Option.map_some, if_true]
      exact AList.lookup_insert _
    · simp only [hsame, if_false, Option.map_id']
      exact AList.lookup_insert_ne hsame
  case h_2 hnone =>
    by_cases hsame : g = id
    · subst hsame
      rw [hnone]
      rfl
    · simp only [hsame, if_false, Option.map_id']

theorem update_frame (maestro : Maestro) (id : ℕ) (change : RuntimeGeneration → RuntimeGeneration) :
    (maestro.update id change).clock = maestro.clock ∧
      (maestro.update id change).active = maestro.active := by
  unfold update
  split <;> exact ⟨rfl, rfl⟩

/-- Generations are numbered in the order of their activation, and each has a
checker with the settings of the run. -/
structure Numbered (settings : ReplaySettings) (maestro : Maestro) : Prop where
  le_active : ∀ id generation, maestro.generations.lookup id = some generation →
    id ≤ maestro.active
  configured : ∀ id generation, maestro.generations.lookup id = some generation →
    generation.replayChecker.Configured settings

theorem start_numbered (settings : ReplaySettings) (clock : ℕ) :
    Numbered settings (start settings clock) := by
  constructor
  · intro id generation hlookup
    rcases Table.lookup_insert_some hlookup with ⟨rfl, -⟩ | ⟨-, hnone⟩
    · exact le_rfl
    · cases hnone
  · intro id generation hlookup
    rcases Table.lookup_insert_some hlookup with ⟨-, rfl⟩ | ⟨-, hnone⟩
    · exact new_configured settings
    · cases hnone

def becomes (hash : List Byte → ℕ) (maestro : Maestro) (g : ℕ) (action : Action)
    (generation : RuntimeGeneration) : RuntimeGeneration :=
  match action with
  | .reload _ =>
    if g = maestro.active then { generation with admissionClosed := true } else generation
  | .stopSessions id =>
    if g = id then { generation with sessionsCancelled := true } else generation
  | .elapse _ => generation
  | _ =>
    match maestro.onGeneration g generation action with
    | some turn => generation.act hash maestro.clock turn
    | none => generation

theorem lookup_actOn (maestro : Maestro) (id : ℕ) (action : Action)
    (hother : ∀ generation, g ≠ id → maestro.onGeneration g generation action = none) :
    (maestro.actOn hash id action).generations.lookup g =
      (maestro.generations.lookup g).map fun generation =>
        match maestro.onGeneration g generation action with
        | some turn => generation.act hash maestro.clock turn
        | none => generation := by
  rw [actOn, lookup_update]
  cases maestro.generations.lookup g with
  | none => rfl
  | some generation =>
    by_cases hsame : g = id
    · subst hsame
      simp only [map_some, if_true]
    · simp only [map_some, hsame, if_false, hother generation hsame]

theorem lookup_step (action : Action) (hle : g ≤ maestro.active) :
    (step hash action maestro).generations.lookup g =
      (maestro.generations.lookup g).map (becomes hash maestro g action) := by
  have hidle : ∀ action, (∀ generation, becomes hash maestro g action generation = generation) →
      maestro.generations.lookup g =
        (maestro.generations.lookup g).map (becomes hash maestro g action) := by
    intro action hsame
    rw [funext hsame]
    exact map_id'.symm
  cases action with
  | accept | elapse => exact hidle _ fun _ => rfl
  | spawnSession conn handshake =>
    simp only [step]
    cases hwaiting : maestro.waiting.lookup conn with
    | none =>
      apply hidle
      intro generation
      simp only [becomes, onGeneration, hwaiting, reduceCtorEq, false_and, if_false]
    | some id =>
      apply lookup_actOn
      intro generation hne
      have hother : ¬ (some id = some g) := fun hsame => hne (some.inj hsame).symm
      simp only [onGeneration, hwaiting, hother, false_and, if_false]
  | advance id conn choice =>
    apply lookup_actOn
    intro generation hne
    simp only [onGeneration, Ne.symm hne, false_and, if_false]
  | cleanup id =>
    apply lookup_actOn
    intro generation hne
    simp only [onGeneration, Ne.symm hne, if_false]
  | reload other =>
    have hnew : g ≠ maestro.active + 1 := by omega
    exact (AList.lookup_insert_ne hnew).trans (lookup_update maestro maestro.active g _)
  | stopSessions id => exact lookup_update maestro id g _

theorem lookup_step_new (action : Action) (hnone : maestro.generations.lookup g = none)
    {found : RuntimeGeneration}
    (hfound : (step hash action maestro).generations.lookup g = some found) :
    ∃ settings, action = .reload settings ∧ g = maestro.active + 1 ∧
      found = prepareRuntime settings := by
  have hupdate : ∀ id change, (maestro.update id change).generations.lookup g = none := by
    intro id change
    rw [lookup_update, hnone]
    rfl
  cases action with
  | reload settings =>
    refine ⟨settings, rfl, ?_⟩
    rcases Table.lookup_insert_some hfound with hnew | ⟨-, hold⟩
    · exact hnew
    · rw [hupdate] at hold
      cases hold
  | spawnSession conn handshake =>
    simp only [step] at hfound
    split at hfound
    case h_1 id hwaiting =>
      have hempty := (hupdate id _).symm.trans hfound
      cases hempty
    case h_2 hwaiting =>
      rw [hnone] at hfound
      cases hfound
  | accept | elapse => cases hnone.symm.trans hfound
  | advance id conn choice => cases (hupdate id _).symm.trans hfound
  | cleanup id => cases (hupdate id _).symm.trans hfound
  | stopSessions id => cases (hupdate id _).symm.trans hfound

theorem step_frame (action : Action) (maestro : Maestro) :
    ((step hash action maestro).clock =
        match action with
        | .elapse nanos => maestro.clock + nanos
        | _ => maestro.clock) ∧
      maestro.active ≤ (step hash action maestro).active := by
  have hupdate := fun id change =>
    And.imp_right (fun hsame => hsame.ge) (maestro.update_frame id change)
  cases action with
  | accept | elapse => exact ⟨rfl, le_rfl⟩
  | spawnSession conn handshake =>
    simp only [step]
    split
    · exact hupdate _ _
    · exact ⟨rfl, le_rfl⟩
  | advance | cleanup | stopSessions => exact hupdate _ _
  | reload settings => exact ⟨(maestro.update_frame _ _).1, Nat.le_succ _⟩

theorem becomes_configured (action : Action)
    (hchecker : generation.replayChecker.Configured settings) :
    (becomes hash maestro g action generation).replayChecker.Configured settings := by
  unfold becomes
  split
  · split <;> exact hchecker
  · split <;> exact hchecker
  · exact hchecker
  · split
    · exact TlsSystem.step_configured _ hchecker
    · exact hchecker

def keeps (settings : ReplaySettings) : Action → Bool
  | .reload other => other = settings
  | _ => true

variable {action : Action}

theorem step_numbered (hnumbered : Numbered settings maestro)
    (hkeeps : keeps settings action = true) : Numbered settings (step hash action maestro) := by
  have hcases : ∀ id found, (step hash action maestro).generations.lookup id = some found →
      id ≤ (step hash action maestro).active ∧ found.replayChecker.Configured settings := by
    intro id found hfound
    by_cases hle : id ≤ maestro.active
    · rw [lookup_step action hle] at hfound
      obtain ⟨generation, hlookup, rfl⟩ := map_eq_some_iff.mp hfound
      exact ⟨hle.trans (step_frame action maestro).2,
        becomes_configured action (hnumbered.configured id generation hlookup)⟩
    · have hnone : maestro.generations.lookup id = none := by
        cases hlookup : maestro.generations.lookup id with
        | none => rfl
        | some generation => exact absurd (hnumbered.le_active id generation hlookup) hle
      obtain ⟨other, rfl, rfl, rfl⟩ := lookup_step_new action hnone hfound
      cases of_decide_eq_true hkeeps
      exact ⟨le_rfl, new_configured settings⟩
  exact ⟨fun id found hfound => (hcases id found hfound).1,
    fun id found hfound => (hcases id found hfound).2⟩

variable {turn : TlsSystem.Action}

theorem act_tls (hturn : ∀ nanos, turn ≠ .elapse nanos)
    (generation : RuntimeGeneration) (clock : ℕ) :
    (generation.act hash clock turn).tls clock =
      TlsSystem.step hash turn (generation.tls clock) := by
  have hclock : (TlsSystem.step hash turn (generation.tls clock)).clock = clock := by
    rw [TlsSystem.step_clock]
    split
    · exact absurd rfl (hturn _)
    · rfl
  exact congrArg (fun now => TlsSystem.mk
    (TlsSystem.step hash turn (generation.tls clock)).checker now
    (TlsSystem.step hash turn (generation.tls clock)).tasks) hclock.symm

theorem becomes_tls (action : Action) (maestro : Maestro) (g : ℕ) (generation : RuntimeGeneration) :
    (becomes hash maestro g action generation).tls (step hash action maestro).clock =
      match maestro.onGeneration g generation action with
      | some turn => TlsSystem.step hash turn (generation.tls maestro.clock)
      | none => generation.tls maestro.clock := by
  rw [(step_frame action maestro).1]
  cases action with
  | accept | elapse => rfl
  | spawnSession | advance | cleanup =>
    simp only [becomes, onGeneration]
    split
    case h_1 turn hturn =>
      apply act_tls
      rintro nanos rfl
      split at hturn <;> cases hturn
    case h_2 => rfl
  | reload | stopSessions =>
    simp only [becomes, onGeneration]
    split <;> rfl

def recordedBy (hash : List Byte → ℕ) (g : ℕ) (maestro : Maestro) (action : Action) :
    Option (List Byte) :=
  match maestro.generations.lookup g with
  | some generation =>
    match maestro.onGeneration g generation action with
    | some turn => TlsSystem.recordedBy hash (generation.tls maestro.clock) turn
    | none => none
  | none => none

def recorded (hash : List Byte → ℕ) (g : ℕ) : List Action → Maestro → List (List Byte)
  | [], _ => []
  | action :: actions, maestro =>
    (recordedBy hash g maestro action).toList ++
      recorded hash g actions (step hash action maestro)

/-- A generation recalls a key that it recorded. -/
def Recalls (hash : List Byte → ℕ) (settings : ReplaySettings) (key : List Byte)
    (since followers g late : ℕ) (maestro : Maestro) : Prop :=
  ∃ generation, maestro.generations.lookup g = some generation ∧
    TlsSystem.Recalls hash settings key since followers late
      (generation.tls maestro.clock)

variable {key : List Byte} {since followers late : ℕ}

/-- The same for a step of the process, in the given generation. -/
theorem step_recalls (hnumbered : Numbered settings maestro)
    (hrecalls : Recalls hash settings key since followers g late maestro)
    (hwindow : settings.tlsWindow ≤ since) (hclock : maestro.clock ≤ since + settings.tlsWindow)
    (hroom : followers + crowding hash key (recordedBy hash g maestro action).toList <
      settings.shardCapacity) :
    Recalls hash settings key since
      (followers + crowding hash key (recordedBy hash g maestro action).toList) g late
      (step hash action maestro) := by
  obtain ⟨generation, hlookup, hrecalls⟩ := hrecalls
  have hle := hnumbered.le_active g generation hlookup
  refine ⟨becomes hash maestro g action generation, ?_, ?_⟩
  · rw [lookup_step action hle, hlookup]
    rfl
  · rw [becomes_tls]
    simp only [recordedBy, hlookup] at hroom ⊢
    cases hturn : maestro.onGeneration g generation action with
    | none => exact hrecalls
    | some turn =>
      rw [hturn] at hroom
      exact TlsSystem.step_recalls hrecalls hwindow hclock hroom

theorem clock_le_run (actions : List Action) (maestro : Maestro) :
    maestro.clock ≤ (run (step hash) actions maestro).clock := by
  induction actions generalizing maestro with
  | nil => exact le_rfl
  | cons action actions ih =>
    refine le_trans ?_ (ih (step hash action maestro))
    rw [(step_frame action maestro).1]
    split
    · exact Nat.le_add_right _ _
    · exact le_rfl

theorem crowding_append (key : List Byte) (left right : List (List Byte)) :
    crowding hash key (left ++ right) = crowding hash key left + crowding hash key right := by
  simp only [crowding, filter_append, length_append]

/-- The generation remembers the digest while its shard has room, across reloads. -/
theorem run_recalls {actions : List Action} (hnumbered : Numbered settings maestro)
    (hkeeps : ∀ action ∈ actions, keeps settings action = true)
    (hrecalls : Recalls hash settings key since followers g late maestro)
    (hwindow : settings.tlsWindow ≤ since)
    (hend : (run (step hash) actions maestro).clock ≤ since + settings.tlsWindow)
    (hroom : followers + crowding hash key (recorded hash g actions maestro) <
      settings.shardCapacity) :
    ∃ more, Recalls hash settings key since more g late (run (step hash) actions maestro) := by
  induction actions generalizing maestro followers with
  | nil => exact ⟨followers, hrecalls⟩
  | cons action actions ih =>
    have hclock := (clock_le_run (action :: actions) maestro).trans hend
    rw [recorded, crowding_append] at hroom
    have hnow : followers + crowding hash key (recordedBy hash g maestro action).toList <
        settings.shardCapacity := by
      omega
    have hlater : followers + crowding hash key (recordedBy hash g maestro action).toList +
        crowding hash key (recorded hash g actions (step hash action maestro)) <
        settings.shardCapacity := by
      omega
    exact ih (step_numbered hnumbered (hkeeps action mem_cons_self))
      (fun other hother => hkeeps other (mem_cons_of_mem action hother))
      (step_recalls hnumbered hrecalls hwindow hclock hnow) hend hlater

variable {conn : ℕ} {choice : TlsChoice}

theorem onGeneration_advance
    (hturn : maestro.onGeneration g generation (.advance g conn choice) = some turn) :
    turn = .advance conn choice := by
  simp only [onGeneration] at hturn
  split at hturn
  · exact (some.inj hturn).symm
  · cases hturn

theorem advance_recalls (hnumbered : Numbered settings maestro)
    (hrecorded : recordedBy hash g maestro (.advance g conn choice) = some key)
    (hlate : ∀ generation task,
      (step hash (.advance g conn choice) maestro).generations.lookup g = some generation →
      generation.tasks.lookup late = some task → task.half = key →
        task.waits = false ∧ task.accepted = false) :
    Recalls hash settings key (step hash (.advance g conn choice) maestro).clock 0 g late
      (step hash (.advance g conn choice) maestro) := by
  cases hlookup : maestro.generations.lookup g with
  | none =>
    rw [recordedBy, hlookup] at hrecorded
    cases hrecorded
  | some generation =>
    have hchecker := hnumbered.configured g generation hlookup
    have hbecomes : (step hash (.advance g conn choice) maestro).generations.lookup g =
        some (becomes hash maestro g (.advance g conn choice) generation) := by
      rw [lookup_step _ (hnumbered.le_active g generation hlookup), hlookup]
      rfl
    refine ⟨_, hbecomes, ?_⟩
    simp only [recordedBy, hlookup] at hrecorded
    cases hturn : maestro.onGeneration g generation (.advance g conn choice) with
    | none =>
      rw [hturn] at hrecorded
      cases hrecorded
    | some turn =>
      cases onGeneration_advance hturn
      rw [hturn] at hrecorded
      have htls : (becomes hash maestro g (.advance g conn choice) generation).tls
          (step hash (.advance g conn choice) maestro).clock =
          TlsSystem.step hash (.advance conn choice) (generation.tls maestro.clock) := by
        rw [becomes_tls, hturn]
      have hconfigured : (TlsSystem.step hash (.advance conn choice)
          (generation.tls maestro.clock)).checker.Configured settings :=
        TlsSystem.step_configured _ hchecker
      have hretains := TlsSystem.recorded_retains hchecker hrecorded
      have hclock : (step hash (.advance g conn choice) maestro).clock =
          (generation.tls maestro.clock).clock := (step_frame _ _).1
      rw [← htls] at hconfigured hretains
      refine ⟨hconfigured, le_rfl, ?_, fun task htask hhalf =>
        hlate _ task hbecomes htask hhalf⟩
      rw [hclock]
      exact hretains

/-- A digest that a generation records is refused by this generation for the
whole window, as long as fewer digests than fit into its shard are recorded
there, however many reloads take place meanwhile. -/
theorem digest_refused (hash : List Byte → ℕ) (settings : ReplaySettings) (clock : ℕ)
    (before during : List Action) (g conn late : ℕ) (choice : TlsChoice) (key : List Byte)
    (maestro after final : Maestro)
    (hmaestro : run (step hash) before (start settings clock) = maestro)
    (hafter : step hash (.advance g conn choice) maestro = after)
    (hfinal : run (step hash) during after = final)
    (hkeeps : ∀ action ∈ before ++ during, keeps settings action = true)
    (hrecorded : recordedBy hash g maestro (.advance g conn choice) = some key)
    (hlate : ∀ generation task, after.generations.lookup g = some generation →
      generation.tasks.lookup late = some task → task.half = key →
        task.waits = false ∧ task.accepted = false) (hclock : settings.tlsWindow ≤ after.clock)
    (hend : final.clock ≤ after.clock + settings.tlsWindow)
    (hfew : crowding hash key (recorded hash g during after) < settings.shardCapacity) :
    ∀ generation task, final.generations.lookup g = some generation →
      generation.tasks.lookup late = some task → task.half = key → task.accepted = false := by
  have hnumbered : Numbered settings maestro := by
    subst hmaestro
    have halong : Along (step hash) (fun _ action => keeps settings action = true) before
        (start settings clock) :=
      along_of_forall (fun action hmem => hkeeps action (mem_append_left during hmem)) _
    exact halong.invariant (fun _ _ hnumbered hkeep => step_numbered hnumbered hkeep)
      (start_numbered settings clock)
  have hrecalls : Recalls hash settings key after.clock 0 g late after := by
    subst hafter
    exact advance_recalls hnumbered hrecorded hlate
  have hnumberedAfter : Numbered settings after := by
    rw [← hafter]
    exact step_numbered hnumbered rfl
  subst hfinal
  obtain ⟨more, generation, hlookup, hfinal⟩ := run_recalls hnumberedAfter
    (fun action hmem => hkeeps action (mem_append_right before hmem)) hrecalls hclock
    hend (by omega)
  intro found task hfound htask hhalf
  rw [hlookup] at hfound
  cases hfound
  exact (hfinal.refused task htask hhalf).2

/-! ## The same ClientHello before and after a reload -/

def usualSettings : ReplaySettings := ⟨65536, minTlsReplayWindow⟩

def hello : TlsHandshake := TlsSystem.replayedHello false

def taskOf (maestro : Maestro) (g conn : ℕ) : Option TlsTask :=
  (maestro.generations.lookup g).bind fun generation => generation.tasks.lookup conn

def firstConnection : List Action := [.accept 0, .spawnSession 0 hello]

/-- The second connection was accepted before the reload and is drained. -/
def drained : List Action :=
  [.advance 1 0 TlsSystem.fine, .accept 1, .spawnSession 1 hello, .reload usualSettings,
    .elapse 1000, .advance 1 1 TlsSystem.fine]

def recordedFirst : Maestro :=
  step (fun _ => 0) (.advance 1 0 TlsSystem.fine)
    (run (step fun _ => 0) firstConnection (start usualSettings (10 ^ 12)))

theorem digest_refused_drained :
    ((run (step fun _ => 0) drained recordedFirst).taskOf 1 1).map TlsTask.pc = some .badClient ∧
      ∀ generation task, (run (step fun _ => 0) drained recordedFirst).generations.lookup 1 =
          some generation →
        generation.tasks.lookup 1 = some task → task.half = List.replicate 16 7 →
        task.accepted = false :=
  ⟨by decide +kernel,
    digest_refused (fun _ => 0) usualSettings (10 ^ 12) firstConnection drained 1 0 1
      TlsSystem.fine (replicate 16 7) _ recordedFirst _ rfl rfl rfl (by decide)
      (by decide +kernel)
      (fun generation task hgeneration htask _ => by
        have hnone : recordedFirst.taskOf 1 1 = none := by decide +kernel
        rw [taskOf, hgeneration] at hnone
        exact absurd (htask.symm.trans hnone) (some_ne_none task))
      (by decide +kernel) (by decide +kernel) (by decide +kernel)⟩

/-- The second connection is accepted after the reload. -/
def afterReload : List Action :=
  [.advance 1 0 TlsSystem.fine, .reload usualSettings, .accept 1, .spawnSession 1 hello,
    .elapse 1000, .advance 2 1 TlsSystem.fine, .advance 2 1 TlsSystem.fine]

/-- A reload that keeps the settings comes between two connections with the
same ClientHello, and both are answered within a
microsecond. -/
theorem digest_accepted_after_reload :
    let final := run (step fun _ => 0) afterReload recordedFirst
    (∀ action ∈ firstConnection ++ afterReload, keeps usualSettings action = true) ∧
      final.taskOf 1 0 = some ⟨hello, .serverHello⟩ ∧
      final.taskOf 2 1 = some ⟨hello, .serverHello⟩ ∧
      usualSettings.tlsWindow ≤ recordedFirst.clock ∧
      final.clock ≤ recordedFirst.clock + usualSettings.tlsWindow ∧
      recorded (fun _ => 0) 1 afterReload recordedFirst = [] := by
  decide +kernel

end Maestro

end TupoProxy.Replay
