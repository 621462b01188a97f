import TupoProxy.SendHistory

/-!
# Which writers a send removes

A call decides to remove a writer in one step and removes it in a later one;
other calls and tasks run in between.  Every removal of a run is traced back to
the step that decided on it, and the decision is compared with the state of the
writer at that step.
-/

namespace TupoProxy.MiddleProxy

open Runs TupoProxy.MiddleProxy.System

variable {system : System} {task : SendTask} {choice : Choice} {writerId : ℕ}

namespace SendTask

theorem Effect.condemned_of_removed {next : System} (heffect : Effect system task next)
    {writer : MeWriter} (hmem : writer ∈ system.pool.writers)
    (hgone : writer ∉ next.pool.writers) : task.pc.condemned = some writer.id := by
  cases heffect with
  | lines hpool hregistry => exact absurd (hpool ▸ hmem) hgone
  | bound now writerId conn hpool hregistry => exact absurd (hpool ▸ hmem) hgone
  | lost removal removed hpc hpool hregistry => exact absurd (hpool ▸ hmem) hgone
  | removed removal hpc hpool hregistry =>
    have hid : writer.id = removal.writerId := by
      by_contra hother
      apply hgone
      rw [hpool]
      exact mem_removeWriterAndCloseClients.mpr ⟨hmem, hother⟩
    rw [hpc, hid]
    rfl

theorem Effect.condemned_of_unbound {next : System} (heffect : Effect system task next)
    {connId : ℕ} (hother : connId ≠ task.call.connId)
    (hchanged : next.registry.bindingOf connId ≠ system.registry.bindingOf connId) :
    ∃ writerId, system.registry.writerForConn.lookup connId = some writerId ∧
      task.pc.condemned = some writerId := by
  cases heffect with
  | lines hpool hregistry => exact absurd (congrArg _ hregistry) hchanged
  | removed removal hpc hpool hregistry => exact absurd (congrArg _ hregistry) hchanged
  | bound now writerId conn hpool hregistry =>
    rw [hregistry, ConnRegistry.bindingOf_bindWriter _ _ _ hother] at hchanged
    exact absurd rfl hchanged
  | lost removal removed hpc hpool hregistry =>
    refine ⟨removal.writerId, ?_, by rw [hpc]; rfl⟩
    by_contra hnot
    rw [hregistry, ConnRegistry.bindingOf_writerLost hnot] at hchanged
    exact hchanged rfl

theorem Simple.condemned (hsimple : task.Simple) : task.pc.condemned = none := by
  rcases hsimple with hpc | ⟨shortage, hpc⟩ | ⟨error, hpc⟩
  · rw [hpc]
    rfl
  · rw [hpc]
    rfl
  · rw [hpc]
    rfl

end SendTask

/-- The step does not bind a connection that has left the routing table to a
registered writer. -/
def SendTask.bindRouted (system : System) (task : SendTask) : Bool :=
  match task.pc with
  | .bind writerId _ =>
    task.call.connId ∈ system.registry.routing ∨ writerId ∉ system.registry.writers
  | _ => true

def System.bindRouted (system : System) : Action → Bool
  | .send taskId _ => (system.tasks taskId).all (SendTask.bindRouted system)
  | _ => true

def System.Marked (system : System) (key : ℕ × ℕ) : Prop :=
  ∃ task, system.tasks key.1 = some task ∧ task.pc.condemned = some key.2

/-- In this step the call decides to remove the writer, and either its channel
or its byte budget is closed, or the bind fails because it is not registered. -/
def System.Decides (system : System) (action : Action) (key : ℕ × ℕ) : Prop :=
  ∃ choice task, action = .send key.1 choice ∧ system.tasks key.1 = some task ∧
    task.pc.condemned ≠ some key.2 ∧
    (task.advance choice system).1.pc.condemned = some key.2 ∧
    (system.LineClosed key.2 ∨
      (∃ resume, task.pc = .bind key.2 resume) ∧ key.2 ∉ system.registry.writers)

theorem begin_condemned (config : RouteConfig) (pool : MePool) (call : SendCall) :
    (call.begin config pool).pc.condemned = none := by
  unfold SendCall.begin
  split
  · exact (SendTask.beginLegacy_simple _ _ _).1.condemned
  · exact (SendTask.checkBudget_simple _ _ _).1.condemned

variable {taskId : ℕ} {key : ℕ × ℕ}

theorem sendStep_eq (htask : system.tasks taskId = some task) :
    System.step (.send taskId choice) system =
      { (task.advance choice system).2 with
        tasks := Function.update system.tasks taskId (some (task.advance choice system).1) } := by
  change system.sendStep taskId choice = _
  rw [sendStep, htask]

theorem sendStep_none (htask : system.tasks taskId = none) :
    System.step (.send taskId choice) system = system := by
  change system.sendStep taskId choice = _
  rw [sendStep, htask]

theorem startCall_marked {call : SendCall}
    (hmark : (system.startCall taskId call).Marked key) : system.Marked key := by
  unfold startCall at hmark
  split at hmark
  · exact hmark
  · obtain ⟨task, htask, hcondemned⟩ := hmark
    by_cases hkey : key.1 = taskId
    · dsimp only at htask
      rw [hkey, Function.update_self] at htask
      cases htask
      rw [begin_condemned] at hcondemned
      cases hcondemned
    · dsimp only at htask
      rw [Function.update_of_ne hkey] at htask
      exact ⟨task, htask, hcondemned⟩

theorem sendStep_marked (hrouted : system.bindRouted (.send taskId choice) = true)
    (hmark : (system.sendStep taskId choice).Marked key) :
    system.Marked key ∨ system.Decides (.send taskId choice) key := by
  unfold sendStep at hmark
  split at hmark
  · exact Or.inl hmark
  · next task htask =>
    obtain ⟨advanced, hadvanced, hcondemned⟩ := hmark
    by_cases hkey : key.1 = taskId
    · dsimp only at hadvanced
      rw [hkey, Function.update_self] at hadvanced
      cases hadvanced
      by_cases hbefore : task.pc.condemned = some key.2
      · exact Or.inl ⟨task, hkey ▸ htask, hbefore⟩
      · right
        refine ⟨choice, task, by rw [hkey], hkey ▸ htask, hbefore, hcondemned, ?_⟩
        rcases SendTask.advance_advances.condemned _ hcondemned with hsame | hclosed |
          ⟨resume, hpc, hfailed⟩
        · exact absurd hsame hbefore
        · exact Or.inl hclosed
        · refine Or.inr ⟨⟨resume, hpc⟩, ?_⟩
          rcases hfailed with hgone | hmissing
          · rw [bindRouted, htask, Option.all_some, SendTask.bindRouted, hpc] at hrouted
            exact (of_decide_eq_true hrouted).resolve_left hgone
          · exact hmissing
    · dsimp only at hadvanced
      rw [Function.update_of_ne hkey] at hadvanced
      exact Or.inl ⟨advanced, hadvanced, hcondemned⟩

/-- A call marks a writer for removal only in the step that decides it. -/
theorem step_marked {action : Action} (hrouted : system.bindRouted action = true)
    (hmark : (System.step action system).Marked key) :
    system.Marked key ∨ system.Decides action key := by
  cases action with
  | start taskId call => exact Or.inl (startCall_marked hmark)
  | send taskId choice => exact sendStep_marked hrouted hmark
  | addWriter writer line =>
    left
    rw [step, addWriter] at hmark
    split at hmark
    · exact hmark
    · exact hmark
  | register | unregisterStart | unregisterFinish | bind | registerWriter | markWriterIdle
  | countWriter | removeFromPool | writerLost | markDraining | closeChannel | closeBudget
  | takeCommand | releaseBytes | control | reconfigure => exact Or.inl hmark

/-- An earlier step of the run, by the same call, decided on the removal for a
good reason. -/
def DecidedBefore (start : System) (actions : List Action) (taskId writerId : ℕ) : Prop :=
  ∃ before action after, actions = before ++ action :: after ∧
    (run System.step before start).Decides action (taskId, writerId)

theorem decidedBefore_of_condemned {start : System} {actions : List Action}
    {task : SendTask} {writerId : ℕ} (hidle : ∀ taskId, start.tasks taskId = none)
    (hrouted : Along System.step (fun system action => system.bindRouted action = true)
      actions start) (htask : (run System.step actions start).tasks taskId = some task)
    (hcondemned : task.pc.condemned = some writerId) :
    DecidedBefore start actions taskId writerId := by
  have hstart : ∀ key, ¬ start.Marked key := by
    rintro key ⟨task, htask, -⟩
    rw [hidle] at htask
    cases htask
  refine exists_cause hstart actions ?_ (taskId, writerId) ⟨task, htask, hcondemned⟩
  intro before action after hsplit key hmark
  exact step_marked (hrouted.split hsplit) hmark

/-- In every run in which no send binds an unregistered connection to a
registered writer, a send takes a writer out of the pool, or unbinds another
connection, only after it has found the channel or the byte budget of that
writer closed, or the writer missing from the registry at the bind. -/
theorem send_removes_only_unusable (start : System) (actions : List Action)
    (hidle : ∀ taskId, start.tasks taskId = none)
    (hrouted : Along System.step (fun system action => system.bindRouted action = true)
      actions start) (before after : List Action) (taskId : ℕ) (choice : Choice)
    (hsplit : actions = before ++ .send taskId choice :: after) :
    let system := run step before start
    let next := step (.send taskId choice) system
    (∀ writer ∈ system.pool.writers, writer ∉ next.pool.writers →
        DecidedBefore start before taskId writer.id) ∧
      ∀ connId, next.registry.bindingOf connId ≠ system.registry.bindingOf connId →
        (∃ task, system.tasks taskId = some task ∧ task.call.connId = connId) ∨
          ∃ writerId, system.registry.writerForConn.lookup connId = some writerId ∧
            DecidedBefore start before taskId writerId := by
  intro system next
  rw [hsplit] at hrouted
  cases htask : system.tasks taskId with
  | none =>
    have hsame : next = system := sendStep_none htask
    rw [hsame]
    exact ⟨fun writer hmem hgone => absurd hmem hgone, fun connId hchanged => absurd rfl hchanged⟩
  | some task =>
    have hnext : next = _ := sendStep_eq htask
    have heffect : SendTask.Effect system task (task.advance choice system).2 :=
      SendTask.advance_advances.effect
    have hdecided : ∀ writerId, task.pc.condemned = some writerId →
        DecidedBefore start before taskId writerId := by
      intro writerId hcondemned
      exact decidedBefore_of_condemned hidle hrouted.left htask hcondemned
    rw [hnext]
    constructor
    · intro writer hmem hgone
      exact hdecided writer.id (heffect.condemned_of_removed hmem hgone)
    · intro connId hchanged
      by_cases hown : task.call.connId = connId
      · exact Or.inl ⟨task, rfl, hown⟩
      · right
        obtain ⟨writerId, hbound, hcondemned⟩ :=
          heffect.condemned_of_unbound (Ne.symm hown) hchanged
        exact ⟨writerId, hbound, hdecided writerId hcondemned⟩

/-! ## Two writers and two connections -/

def meAddr (host : Byte) : SocketAddr := ⟨.v4 149 154 167 host, 8888⟩

def healthyWriter (id : ℕ) (host : Byte) : MeWriter where
  id := id
  addr := meAddr host
  sourceIp := .v4 198 51 100 1
  writerDc := 2
  generation := 1
  contour := .active
  draining := false
  drainingStartedAtEpochSecs := 0
  drainDeadlineEpochSecs := 0
  allowDrainFallback := false

def busyMeta : ConnMeta :=
  ⟨2, ⟨.v4 192 0 2 9, 40000⟩, ⟨.v4 198 51 100 1, 443⟩, 0⟩

/-- Both writers are registered and open.  Connection 9 is bound to writer 1,
connection 7 is not bound yet. -/
def twoWriters : System where
  pool :=
    { writers := ⟨[healthyWriter 1 10, healthyWriter 2 11], by decide⟩
      connCount := 2
      drainingActiveRuntime := 0
      proxyMapV4 := AList.singleton 2 [((meAddr 10).ip, 8888), ((meAddr 11).ip, 8888)]
      proxyMapV6 := ∅
      decision := ⟨true, false⟩
      suppressedUntilV4 := 0
      suppressedUntilV6 := 0
      reinit := ⟨1, 1, 0, 0, 0, 0, true⟩
      mePoolMinFreshRatioPermille := 800
      mePoolForceCloseSecs := 300
      lastDrainGate := ⟨false, false, .opened, 0⟩ }
  config :=
    { noWriterMode := .hybridAsyncPersistent
      blockingSendTimeout := some 250
      inlineRecoveryAttempts := 3
      bindStaleMode := .never
      bindStaleTtlSecs := 90
      preferredEndpointsByDc := AList.singleton 2 [meAddr 10, meAddr 11]
      defaultDc := 2
      proxyTag := none
      writerByteBudgetPermits := 2049 }
  registry :=
    { routing := {7, 9}
      writers := {1, 2}
      hotBinding := AList.singleton 9 ⟨1, busyMeta⟩
      writerForConn := AList.singleton 9 1
      connsForWriter := (AList.singleton 1 {9}).insert 2 ∅
      connMeta := AList.singleton 9 busyMeta
      writerIdleSinceEpochSecs := AList.singleton 2 50
      boundClientsByWriter := (AList.singleton 1 1).insert 2 0
      activeSessionsByTargetDc := AList.singleton 2 1
      lastMetaForWriter := AList.singleton 1 busyMeta
      nextId := 10 }
  lines := fun _ => ⟨4096, [], 0, false, 2049, false⟩
  retired := fun _ => none
  tasks := fun _ => none

def lateCall : SendCall where
  connId := 7
  targetDc := 2
  clientAddr := ⟨.v4 192 0 2 7, 40001⟩
  ourAddr := ⟨.v4 198 51 100 1, 443⟩
  data := [1, 2, 3, 4]
  protoFlags := 0
  tagOverride := none
  pooledCapacity := none

def inOrder : Choice := ⟨100, false, [1, 2]⟩

/-- The channel of writer 1 closes before connection 7 sends. -/
def closedRun : List Action :=
  [.closeChannel 1, .start 0 lateCall, .send 0 inOrder, .send 0 inOrder]

theorem send_removes_closed_writer :
    DecidedBefore twoWriters closedRun 0 1 ∧
      (run System.step (closedRun ++ [.send 0 inOrder]) twoWriters).pool.writers.entries =
        [healthyWriter 2 11] := by
  have hrouted : Along step (fun system action => system.bindRouted action = true)
      (closedRun ++ [.send 0 inOrder]) twoWriters := by decide +kernel
  have hleft : (run step (closedRun ++ [.send 0 inOrder]) twoWriters).pool.writers.entries =
      [healthyWriter 2 11] := by decide +kernel
  have hremoved := (send_removes_only_unusable twoWriters _ (fun _ => rfl) hrouted closedRun []
    0 inOrder rfl).1 (healthyWriter 1 10)
  exact ⟨hremoved (by decide +kernel) (by decide +kernel), hleft⟩

/-- The middle-end closes connection 7 while the call of its session is about
to choose a writer. -/
def unregisteredRun : List Action :=
  [.start 0 lateCall, .unregisterStart 7, .unregisterFinish 100 7] ++
    List.replicate 12 (.send 0 inOrder)

/-- Both binds fail because connection 7 is gone.  The call takes the two open
and registered writers out of the pool, and connection 9 loses its binding. -/
theorem send_removes_healthy_writers :
    let atBind := run step (unregisteredRun.take 5) twoWriters
    let final := run step unregisteredRun twoWriters
    (∀ writerId ∈ [1, 2], (final.lines writerId).channelClosed = false ∧
        (final.lines writerId).budgetClosed = false) ∧
      (atBind.registry.writers = {1, 2} ∧ 7 ∉ atBind.registry.routing ∧
        atBind.pool.writers.entries.map MeWriter.id = [1, 2] ∧
        atBind.registry.getWriterWithMeta 9 = some (1, busyMeta)) ∧
      final.pool.writers.entries = [] ∧ 9 ∈ final.registry.routing ∧
      final.registry.getWriterWithMeta 9 = none := by
  decide +kernel

end TupoProxy.MiddleProxy
