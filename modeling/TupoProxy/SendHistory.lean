import TupoProxy.SendProxyReq

/-!
# The history of a send

The history of one call is kept beside a run: the data commands its steps put
into the queues, the writers it found its connection bound to or bound it to,
and the owner of the permit for the client bytes.  What a step of a call does
to its history, to the pool and the registry and to the writers it removes is
said once, for every step.
-/

namespace TupoProxy.MiddleProxy

open ProxyReqWire List Function
open Runs

inductive PermitOwner where
  | call
  | command
  | queue (writerId : ℕ)
  | nobody
  deriving DecidableEq

structure ClientPermit where
  owner : PermitOwner
  drops : ℕ
  deriving DecidableEq

namespace ClientPermit

def given : ClientPermit := ⟨.call, 0⟩

def take (permit : ClientPermit) : ClientPermit :=
  match permit.owner with
  | .call => { permit with owner := .command }
  | _ => permit

def recover (permit : ClientPermit) : ClientPermit :=
  match permit.owner with
  | .command => { permit with owner := .call }
  | _ => permit

def send (writerId : ℕ) (permit : ClientPermit) : ClientPermit :=
  match permit.owner with
  | .command => { permit with owner := .queue writerId }
  | _ => permit

def drop (permit : ClientPermit) : ClientPermit :=
  match permit.owner with
  | .call | .command => ⟨.nobody, permit.drops + 1⟩
  | _ => permit

end ClientPermit

def Pc.isFinished : Pc → Bool
  | .finished _ => true
  | _ => false

namespace SendTask

variable (choice : Choice) (system : System) (task : SendTask)

def commits (writerId : ℕ) : Bool :=
  (system.registry.bindWriter choice.now task.call.connId writerId
    ⟨task.call.targetDc, task.call.clientAddr, task.effectiveOurAddr writerId system,
      task.call.protoFlags⟩).1

def passPermit (permit : ClientPermit) : ClientPermit :=
  match task.pc with
  | .boundBytes writerId _ =>
    match (system.lines writerId).tryReserveBytes task.permits,
        (system.lines writerId).tryReserveSlot with
    | .acquired, .acquired => permit.take.send writerId
    | .acquired, .noPermits => permit.take
    | .acquired, .closed => permit.take.recover
    | _, _ => permit
  | .boundSlot writerId _ =>
    match (system.lines writerId).tryReserveSlot with
    | .acquired => permit.send writerId
    | .noPermits => permit
    | .closed => permit.recover
  | .bind writerId _ =>
    if task.commits choice system writerId then permit.take.send writerId else permit
  | _ => permit

def movePermit (permit : ClientPermit) : ClientPermit :=
  let passed := task.passPermit choice system permit
  if (task.advance choice system).1.pc.isFinished then passed.drop else passed

end SendTask

def WriterCommand.carriesData : WriterCommand → Bool
  | .data _ => true
  | .proxyReq _ _ _ _ _ _ => true
  | .controlAndFlush _ => false
  | .close => false

/-- What a step has added to the queue of a writer. -/
def System.appended (before after : System) (writerId : ℕ) : List WriterCommand :=
  (after.lines writerId).queue.drop (before.lines writerId).queue.length

def System.boundWriter (system : System) (connId : ℕ) : Option ℕ :=
  (system.registry.getWriterWithMeta connId).map Prod.fst

structure CallHistory where
  /-- The data commands put into the queue of each writer. -/
  placed : ℕ → List WriterCommand
  /-- The writers that the call found its connection bound to. -/
  found : List ℕ
  /-- The writers that the call bound its connection to. -/
  bound : List ℕ
  permit : ClientPermit

def CallHistory.fresh : CallHistory := ⟨fun _ => [], [], [], .given⟩

def CallHistory.extend (task : SendTask) (choice : Choice) (before after : System)
    (history : CallHistory) : CallHistory where
  placed writerId :=
    history.placed writerId ++
      (before.appended after writerId).filter WriterCommand.carriesData
  found :=
    match task.pc with
    | .enter => history.found ++ (before.boundWriter task.call.connId).toList
    | _ => history.found
  bound :=
    match task.pc with
    | .bind writerId _ =>
      if after.boundWriter task.call.connId = some writerId then
        history.bound ++ [writerId]
      else history.bound
    | _ => history.bound
  permit := task.movePermit choice before history.permit

structure Watched where
  system : System
  history : CallHistory

def Watched.observe (taskId : ℕ) (action : Action) (watched : Watched) : CallHistory :=
  let history := watched.history
  match action with
  | .start id call =>
    if id = taskId ∧ (watched.system.tasks id).isNone ∧
        (call.begin watched.system.config watched.system.pool).pc.isFinished then
      { history with permit := history.permit.drop }
    else history
  | .send id choice =>
    match watched.system.tasks id with
    | none => history
    | some task =>
      if id = taskId then
        history.extend task choice watched.system (System.step action watched.system)
      else history
  | _ => history

def Watched.step (taskId : ℕ) (action : Action) (watched : Watched) : Watched :=
  ⟨System.step action watched.system, watched.observe taskId action⟩

/-! ## What one step does -/

def System.sourceIp (system : System) (writerId : ℕ) : Option IpAddr :=
  (system.writerRecord writerId).map MeWriter.sourceIp

/-- All of a system but its lines and its calls. -/
def System.frame (system : System) :
    MePool × RouteConfig × ConnRegistry × (ℕ → Option MeWriter) :=
  (system.pool, system.config, system.registry, system.retired)

def SendCall.Carries (config : RouteConfig) (ourAddr : SocketAddr) (call : SendCall)
    (command : WriterCommand) : Prop :=
  command = .data (proxyReqPayload call.connId call.clientAddr ourAddr call.data
      (call.legacyTag config) call.protoFlags) ∨
    command = .proxyReq call.connId call.clientAddr ourAddr call.protoFlags
      (call.tag config) call.data

/-- The writers that the call may still choose. -/
def Resume.mentions : Resume → List ℕ
  | .top => []
  | .scan rest fallback => rest ++ fallback.toList

def Pc.mentions : Pc → List ℕ
  | .scan rest fallback => rest ++ fallback.toList
  | .fallbackBytes writerId => [writerId]
  | .fallbackSlot writerId => [writerId]
  | .bind writerId resume => writerId :: resume.mentions
  | .removePool removal => removal.resume.mentions
  | .removeRegistry removal _ => removal.resume.mentions
  | .removeClose removal _ => removal.resume.mentions
  | _ => []

def Pc.holding : Pc → ClientPermit
  | .boundSlot _ _ => ⟨.command, 0⟩
  | _ => .given

/-- The writer that a call has decided to remove. -/
def Pc.condemned : Pc → Option ℕ
  | .removePool removal => some removal.writerId
  | .removeRegistry removal _ => some removal.writerId
  | .removeClose removal _ => some removal.writerId
  | _ => none

/-- The command channel or the byte budget of the writer is closed. -/
def System.LineClosed (system : System) (writerId : ℕ) : Prop :=
  (system.lines writerId).channelClosed = true ∨ (system.lines writerId).budgetClosed = true

theorem budgetClosed_of_tryReserveBytes {line : WriterLine} {permits : ℕ}
    (hclosed : line.tryReserveBytes permits = .closed) : line.budgetClosed = true := by
  by_contra hopen
  rw [WriterLine.tryReserveBytes, if_neg hopen] at hclosed
  split at hclosed
  · cases hclosed
  · cases hclosed

theorem channelClosed_of_tryReserveSlot {line : WriterLine}
    (hclosed : line.tryReserveSlot = .closed) : line.channelClosed = true := by
  by_contra hopen
  rw [WriterLine.tryReserveSlot, if_neg hopen] at hclosed
  split at hclosed
  · cases hclosed
  · cases hclosed

namespace SendTask

def Quiet (before after : System) : Prop :=
  ∀ writerId, ∃ extra, (after.lines writerId).queue = (before.lines writerId).queue ++ extra ∧
    extra.filter WriterCommand.carriesData = []

/-- The step puts this command into the queue of this writer, and nothing else. -/
def Puts (before after : System) (writerId : ℕ) (command : WriterCommand) : Prop :=
  (after.lines writerId).queue = (before.lines writerId).queue ++ [command] ∧
    ∀ other, other ≠ writerId →
      (after.lines other).queue = (before.lines other).queue

/-- Where a command that is put into a queue comes from. -/
inductive Origin (choice : Choice) (system : System) (task : SendTask) (writerId : ℕ)
    (command : WriterCommand) : Prop where
  | bytes (conn : ConnMeta) (hpc : task.pc = .boundBytes writerId conn)
      (hcommand : command = task.boundCommand system conn)
  | slot (hpc : task.pc = .boundSlot writerId command)
  | commit (resume : Resume) (hpc : task.pc = .bind writerId resume)
      (hcommits : task.commits choice system writerId = true)
      (hcommand : command = task.dataCommand system (task.effectiveOurAddr writerId system))

/-- How a call reaches a place on the path of a bound writer. -/
def Reached (system : System) (task : SendTask) : Pc → Prop
  | .boundBytes writerId conn =>
    task.pc = .boundBytes writerId conn ∨
      task.pc = .enter ∧
        system.registry.getWriterWithMeta task.call.connId = some (writerId, conn)
  | .boundSlot writerId command =>
    task.pc = .boundSlot writerId command ∨
      ∃ conn, task.pc = .boundBytes writerId conn ∧
        command = task.boundCommand system conn
  | _ => True

/-- The steps of a call, as far as its history is concerned. -/
inductive Moves (choice : Choice) (system : System) (task next : SendTask) (after : System) :
    Prop where
  | goOn (hunfinished : next.pc.isFinished = false) (hquiet : Quiet system after)
      (hpermit : task.passPermit choice system task.pc.holding = next.pc.holding)
      (hreached : Reached system task next.pc)
      (hknown : ∀ writerId ∈ next.pc.mentions,
        writerId ∈ task.pc.mentions ∨ (system.sourceIp writerId).isSome = true)
  | put (writerId : ℕ) (command : WriterCommand) (hpc : next.pc = .finished (.ok ()))
      (hputs : Puts system after writerId command)
      (hpermit : task.passPermit choice system task.pc.holding = ⟨.queue writerId, 0⟩)
      (horigin : Origin choice system task writerId command)
  | fail (error : SendError) (hpc : next.pc = .finished (.error error))
      (hquiet : Quiet system after)
      (hpermit : (task.passPermit choice system task.pc.holding).drop = ⟨.nobody, 1⟩)
  | stay (hfinished : task.pc.isFinished = true) (hnext : next = task) (hafter : after = system)

/-- A step changes the pool and the registry only in a bind and in the two parts
of a removal. -/
inductive Base (choice : Choice) (system : System) (task : SendTask) : System → Prop where
  | same : Base choice system task system
  | bound (writerId : ℕ) (resume : Resume) (hpc : task.pc = .bind writerId resume)
      (hcommits : task.commits choice system writerId = true) :
      Base choice system task
        { system with
          registry := (system.registry.bindWriter choice.now task.call.connId writerId
            ⟨task.call.targetDc, task.call.clientAddr,
              task.effectiveOurAddr writerId system, task.call.protoFlags⟩).2 }
  | removed (writerId : ℕ) : Base choice system task (system.removeFromPool writerId).2
  | lost (writerId : ℕ) : Base choice system task (system.loseWriter writerId)

/-- The call stays the same, and everything but the lines is as in the base. -/
def Rests (choice : Choice) (system : System) (task next : SendTask) (after : System) : Prop :=
  next.call = task.call ∧ ∃ base, Base choice system task base ∧ after.frame = base.frame

/-- Why a call decides to remove a writer. -/
def Condemns (system : System) (task : SendTask) (writerId : ℕ) : Prop :=
  system.LineClosed writerId ∨
    ∃ resume, task.pc = .bind writerId resume ∧
      (task.call.connId ∉ system.registry.routing ∨ writerId ∉ system.registry.writers)

/-- Apart from a bind and from the two parts of a removal, a step leaves the
pool and the registry alone. -/
inductive Effect (system : System) (task : SendTask) (next : System) : Prop where
  | lines (hpool : next.pool = system.pool) (hregistry : next.registry = system.registry)
  | bound (now writerId : ℕ) (conn : ConnMeta) (hpool : next.pool = system.pool)
      (hregistry : next.registry =
        (system.registry.bindWriter now task.call.connId writerId conn).2)
  | removed (removal : Removal) (hpc : task.pc = .removePool removal)
      (hpool : next.pool = (system.removeFromPool removal.writerId).2.pool)
      (hregistry : next.registry = system.registry)
  | lost (removal : Removal) (removed : Bool) (hpc : task.pc = .removeRegistry removal removed)
      (hpool : next.pool = system.pool)
      (hregistry : next.registry = (system.registry.writerLost removal.writerId).2)

/-- What a step does to the history of the call, to the pool and the registry,
and whose removal it decides on. -/
structure Advances (choice : Choice) (system : System) (task next : SendTask)
    (after : System) : Prop where
  moves : Moves choice system task next after
  rests : Rests choice system task next after
  effect : Effect system task after
  condemned : ∀ writerId, next.pc.condemned = some writerId →
    task.pc.condemned = some writerId ∨ Condemns system task writerId

theorem Quiet.refl (system : System) : Quiet system system :=
  fun _ => ⟨[], (append_nil _).symm, rfl⟩

variable {change : WriterLine → WriterLine}

theorem quiet_setLine {writerId : ℕ} {system : System}
    (hchange : ∀ line, (change line).queue = line.queue) :
    Quiet system (system.setLine writerId change) := by
  intro other
  refine ⟨[], ?_, rfl⟩
  rw [append_nil]
  by_cases hother : other = writerId
  · subst hother
    simp only [System.setLine, update_self]
    exact hchange _
  · simp only [System.setLine, update_of_ne hother]

variable {command : WriterCommand}

theorem puts_setLine {writerId : ℕ} {system : System}
    (hchange : ∀ line, (change line).queue = line.queue ++ [command]) :
    Puts system (system.setLine writerId change) writerId command := by
  constructor
  · simp only [System.setLine, update_self]
    exact hchange _
  · intro other hother
    simp only [System.setLine, update_of_ne hother]

variable {choice : Choice} {system after : System} {task next : SendTask} {writerId : ℕ}

section

variable (hmoves : Moves choice system task next after)
include hmoves

section

variable (hcall : next.call = task.call) (hframe : after.frame = system.frame)
include hcall hframe

theorem Advances.lines
    (hcondemned : ∀ writerId, next.pc.condemned = some writerId → Condemns system task writerId) :
    Advances choice system task next after where
  moves := hmoves
  rests := ⟨hcall, system, .same, hframe⟩
  effect := .lines (congrArg Prod.fst hframe) (congrArg (fun frame => frame.2.2.1) hframe)
  condemned writerId hnext := .inr (hcondemned writerId hnext)

/-- Most steps decide on no removal. -/
theorem Advances.calm
    (hpc : next.pc.condemned = none) : Advances choice system task next after := by
  refine .lines hmoves hcall hframe (fun writerId hnext => ?_)
  rw [hpc] at hnext
  cases hnext

theorem Advances.closed
    (hpc : next.pc.condemned = some writerId) (hclosed : system.LineClosed writerId) :
    Advances choice system task next after := by
  refine .lines hmoves hcall hframe (fun wanted hnext => ?_)
  rw [hpc] at hnext
  cases hnext
  exact .inl hclosed

end

end

theorem boundBytesStep_advances {conn : ConnMeta} (hpc : task.pc = .boundBytes writerId conn) :
    Advances choice system task (task.boundBytesStep writerId conn choice system).1
      (task.boundBytesStep writerId conn choice system).2 := by
  unfold boundBytesStep
  cases hbytes : (system.lines writerId).tryReserveBytes task.permits with
  | closed =>
    refine .closed (.goOn rfl (.refl system) ?_ trivial (fun _ hmem => by cases hmem)) rfl rfl
      rfl (.inr (budgetClosed_of_tryReserveBytes hbytes))
    simp only [passPermit, hpc, hbytes]
    rfl
  | noPermits =>
    have hpass : task.passPermit choice system task.pc.holding = .given := by
      simp only [passPermit, hpc, hbytes]
      rfl
    dsimp only
    split
    · exact .calm (.fail .byteBudgetFull rfl (.refl system) (by rw [hpass]; rfl)) rfl rfl rfl
    · refine .calm (.goOn (by rw [hpc]; rfl) (.refl system) (by rw [hpass, hpc]; rfl) ?_
        (fun _ hmem => .inl hmem)) rfl rfl (by rw [hpc]; rfl)
      rw [hpc]
      exact .inl hpc
  | acquired =>
    cases hslot : (system.lines writerId).tryReserveSlot with
    | acquired =>
      dsimp only
      refine .calm (.put writerId _ rfl (puts_setLine fun _ => rfl) ?_ (.bytes conn hpc rfl))
        rfl rfl rfl
      simp only [passPermit, hpc, hbytes, hslot]
      rfl
    | noPermits =>
      refine .calm (.goOn rfl (quiet_setLine fun _ => rfl) ?_ (.inr ⟨conn, hpc, rfl⟩)
        (fun _ hmem => by cases hmem)) rfl rfl rfl
      simp only [passPermit, hpc, hbytes, hslot]
      rfl
    | closed =>
      refine .closed (.goOn rfl (.refl system) ?_ trivial (fun _ hmem => by cases hmem)) rfl rfl
        rfl (.inl (channelClosed_of_tryReserveSlot hslot))
      simp only [passPermit, hpc, hbytes, hslot]
      rfl

theorem boundSlotStep_advances (hpc : task.pc = .boundSlot writerId command) :
    Advances choice system task (task.boundSlotStep writerId command choice system).1
      (task.boundSlotStep writerId command choice system).2 := by
  unfold boundSlotStep
  cases hslot : (system.lines writerId).tryReserveSlot with
  | closed =>
    refine .closed (.goOn rfl (quiet_setLine fun _ => rfl) ?_ trivial
      (fun _ hmem => by cases hmem)) rfl rfl rfl (.inl (channelClosed_of_tryReserveSlot hslot))
    simp only [passPermit, hpc, hslot]
    rfl
  | acquired =>
    refine .calm (.put writerId command rfl (puts_setLine fun _ => rfl) ?_ (.slot hpc)) rfl rfl rfl
    simp only [passPermit, hpc, hslot]
    rfl
  | noPermits =>
    have hpass : task.passPermit choice system task.pc.holding = ⟨.command, 0⟩ := by
      simp only [passPermit, hpc, hslot]
      rfl
    dsimp only
    split
    · exact .calm (.fail .channelFull rfl (quiet_setLine fun _ => rfl) (by rw [hpass]; rfl))
        rfl rfl rfl
    · refine .calm (.goOn (by rw [hpc]; rfl) (.refl system) (by rw [hpass, hpc]; rfl) ?_
        (fun _ hmem => .inl hmem)) rfl rfl (by rw [hpc]; rfl)
      rw [hpc]
      exact .inl hpc

/-! The other places: the call holds the permit and passes it on only in a
bind. -/

/-- A place outside the path of a bound writer, and not at a bind. -/
def Plain (task : SendTask) : Prop :=
  task.pc.holding = .given ∧
    ∀ choice system, task.passPermit choice system .given = .given

theorem Plain.goOn (hplain : task.Plain)
    (hunfinished : next.pc.isFinished = false) (hquiet : Quiet system after)
    (hpermit : next.pc.holding = .given) (hreached : Reached system task next.pc)
    (hknown : ∀ writerId ∈ next.pc.mentions,
      writerId ∈ task.pc.mentions ∨ (system.sourceIp writerId).isSome = true) :
    Moves choice system task next after :=
  .goOn hunfinished hquiet (by rw [hplain.1, hplain.2, hpermit]) hreached hknown

/-- The next place of the call is one that mentions no new writers. -/
def Simple (next : SendTask) : Prop :=
  next.pc = .enter ∨ (∃ shortage, next.pc = .recover shortage) ∨
    ∃ error, next.pc = .finished (.error error)

theorem Plain.simple (hplain : task.Plain) (hnext : next.Simple ∧ next.call = task.call)
    (hquiet : Quiet system after) (hframe : after.frame = system.frame) :
    Advances choice system task next after := by
  obtain ⟨hpc | ⟨shortage, hpc⟩ | ⟨error, hpc⟩, hcall⟩ := hnext
  · exact .calm (hplain.goOn (by rw [hpc]; rfl) hquiet (by rw [hpc]; rfl) (by rw [hpc]; trivial)
      (by rw [hpc]; exact fun _ hmem => by cases hmem)) hcall hframe (by rw [hpc]; rfl)
  · exact .calm (hplain.goOn (by rw [hpc]; rfl) hquiet (by rw [hpc]; rfl) (by rw [hpc]; trivial)
      (by rw [hpc]; exact fun _ hmem => by cases hmem)) hcall hframe (by rw [hpc]; rfl)
  · exact .calm (.fail error hpc hquiet (by rw [hplain.1, hplain.2]; rfl)) hcall hframe
      (by rw [hpc]; rfl)

theorem checkBudget_simple (config : RouteConfig) (permits : Option ℕ) (task : SendTask) :
    (task.checkBudget config permits).Simple ∧
      (task.checkBudget config permits).call = task.call := by
  unfold checkBudget
  split
  · exact ⟨.inr (.inr ⟨_, rfl⟩), rfl⟩
  · split
    · exact ⟨.inr (.inr ⟨_, rfl⟩), rfl⟩
    · exact ⟨.inl rfl, rfl⟩

theorem beginLegacy_simple (config : RouteConfig) (pool : MePool) (task : SendTask) :
    (task.beginLegacy config pool).Simple ∧ (task.beginLegacy config pool).call = task.call :=
  checkBudget_simple _ _ _

theorem onShortage_simple (shortage : Shortage) :
    (task.onShortage shortage choice system).Simple ∧
      (task.onShortage shortage choice system).call = task.call := by
  unfold onShortage
  split
  · exact ⟨.inr (.inl ⟨_, rfl⟩), rfl⟩
  · exact ⟨.inr (.inl ⟨_, rfl⟩), rfl⟩
  · split
    · exact ⟨.inr (.inl ⟨_, rfl⟩), rfl⟩
    · split
      · exact ⟨.inr (.inr ⟨_, rfl⟩), rfl⟩
      · exact ⟨.inr (.inl ⟨_, rfl⟩), rfl⟩
  · split
    · exact ⟨.inr (.inr ⟨_, rfl⟩), rfl⟩
    · exact ⟨.inr (.inl ⟨_, rfl⟩), rfl⟩
  · split
    · exact ⟨.inr (.inr ⟨_, rfl⟩), rfl⟩
    · exact ⟨.inr (.inl ⟨_, rfl⟩), rfl⟩

theorem isSome_sourceIp_of_mem {writer : MeWriter} (hmem : writer ∈ system.pool.writers) :
    (system.sourceIp writer.id).isSome = true := by
  rw [System.sourceIp, Option.isSome_map, System.writerRecord, Option.isSome_or]
  cases hfind : system.pool.writers.find? writer.id with
  | none => exact absurd rfl (KeyedList.find?_eq_none.mp hfind writer hmem)
  | some found => rfl

theorem isSome_sourceIp_of_candidate (now : ℕ) (routedDc : ℤ)
    (hmem : writerId ∈ system.candidates now routedDc) :
    (system.sourceIp writerId).isSome = true := by
  have hforDc : ∀ includeWarm,
      writerId ∈ system.config.candidateIdsForDc now routedDc includeWarm
        system.pool.writers → (system.sourceIp writerId).isSome = true := by
    intro includeWarm hmem
    unfold RouteConfig.candidateIdsForDc at hmem
    split at hmem
    · cases hmem
    · obtain ⟨writer, hwriter, rfl⟩ := mem_map.mp hmem
      exact isSome_sourceIp_of_mem (mem_filter.mp hwriter).1
  unfold System.candidates RouteConfig.candidateIds at hmem
  split at hmem
  · exact hforDc true hmem
  · exact hforDc false hmem

theorem Plain.startScan {candidates : List ℕ} {now : ℕ} {routedDc : ℤ}
    (hplain : task.Plain) (hunfinished : task.pc.isFinished = false)
    (hreached : Reached system task task.pc) (hpc : task.pc.condemned = none)
    (hcandidates : system.candidates now routedDc = candidates) :
    Advances choice system task (task.startScan choice candidates) system := by
  unfold SendTask.startScan
  split
  · next hperm =>
    refine .calm (hplain.goOn rfl (.refl system) rfl trivial (fun writerId hmem => .inr ?_))
      rfl rfl rfl
    have horder : writerId ∈ choice.order := by
      simpa [SendTask.at, Pc.mentions] using hmem
    refine isSome_sourceIp_of_candidate now routedDc ?_
    rw [hcandidates]
    exact hperm.mem_iff.mp horder
  · exact .calm (hplain.goOn hunfinished (.refl system) hplain.1 hreached
      (fun writerId hmem => .inl hmem)) rfl rfl hpc

theorem enterStep_advances (hpc : task.pc = .enter) :
    Advances choice system task (task.enterStep choice system) system := by
  have hplain : task.Plain := by
    rw [Plain, hpc]
    exact ⟨rfl, fun _ _ => by rw [passPermit, hpc]⟩
  unfold enterStep
  split
  · next bound conn hbound =>
    exact .calm (hplain.goOn rfl (.refl system) rfl (.inr ⟨hpc, hbound⟩)
      (fun _ hmem => by cases hmem)) rfl rfl rfl
  · split
    · exact hplain.simple (beginLegacy_simple _ _ _) (.refl system) rfl
    · split
      · exact hplain.simple (onShortage_simple _) (.refl system) rfl
      · split
        · exact hplain.simple (onShortage_simple _) (.refl system) rfl
        · exact hplain.startScan (by rw [hpc]; rfl) (by rw [hpc]; trivial) (by rw [hpc]; rfl) rfl

theorem recoverStep_advances {shortage : Shortage} (hpc : task.pc = .recover shortage) :
    Advances choice system task (task.recoverStep shortage choice system) system := by
  have hplain : task.Plain := by
    rw [Plain, hpc]
    exact ⟨rfl, fun _ _ => by rw [passPermit, hpc]⟩
  have hfail : ∀ error, Advances choice system task (task.fail error) system :=
    fun error => hplain.simple ⟨.inr (.inr ⟨error, rfl⟩), rfl⟩ (.refl system) rfl
  have henter : Advances choice system task (task.at .enter) system :=
    hplain.simple ⟨.inl rfl, rfl⟩ (.refl system) rfl
  unfold recoverStep
  split
  · split
    · exact hfail _
    · exact henter
  · split
    · exact hfail _
    · exact henter
  · split
    · exact hfail _
    · exact henter
  · split
    · exact hfail _
    · split
      · exact henter
      · exact hplain.startScan (by rw [hpc]; rfl) (by rw [hpc]; trivial) (by rw [hpc]; rfl) rfl
  · exact henter

theorem scanStep_advances {rest : List ℕ} {fallback : Option ℕ}
    (hpc : task.pc = .scan rest fallback) :
    Advances choice system task (task.scanStep rest fallback choice system).1
      (task.scanStep rest fallback choice system).2 := by
  have hplain : task.Plain := by
    rw [Plain, hpc]
    exact ⟨rfl, fun _ _ => by rw [passPermit, hpc]⟩
  have hmentions : ∀ writerId, writerId ∈ rest ∨ fallback = some writerId →
      writerId ∈ task.pc.mentions := by
    intro writerId hmem
    rw [hpc]
    simpa [Pc.mentions] using hmem
  unfold scanStep
  split
  · split
    · exact hplain.simple ⟨.inl rfl, rfl⟩ (.refl system) rfl
    · next last =>
      split
      · refine .calm (hplain.goOn rfl (.refl system) rfl trivial
          (fun writerId hmem => .inl ?_)) rfl rfl rfl
        cases mem_singleton.mp hmem
        exact hmentions _ (.inr rfl)
      · exact hplain.simple ⟨.inl rfl, rfl⟩ (.refl system) rfl
  · next first rest =>
    have hrest : ∀ writerId ∈ rest ++ fallback.toList, writerId ∈ task.pc.mentions := by
      intro writerId hmem
      apply hmentions
      rcases mem_append.mp hmem with hmem | hmem
      · exact .inl (mem_cons_of_mem first hmem)
      · exact .inr (Option.mem_toList.mp hmem)
    have hfallback : ∀ writerId ∈ rest ++ (fallback.or (some first)).toList,
        writerId ∈ task.pc.mentions := by
      intro writerId hmem
      cases fallback with
      | some last => exact hrest writerId hmem
      | none =>
        apply hmentions
        rcases mem_append.mp hmem with hmem | hmem
        · exact .inl (mem_cons_of_mem first hmem)
        · exact .inl (mem_cons.mpr (.inl (mem_singleton.mp hmem)))
    have hkept : Advances choice system task
        (task.at (.scan rest (fallback.or (some first)))) system :=
      .calm (hplain.goOn rfl (.refl system) rfl trivial
        (fun writerId hmem => .inl (hfallback writerId hmem))) rfl rfl rfl
    split
    · exact .calm (hplain.goOn rfl (.refl system) rfl trivial
        (fun writerId hmem => .inl (hrest writerId hmem))) rfl rfl rfl
    · split
      · exact hkept
      · next hclosed =>
        exact .closed (hplain.goOn rfl (.refl system) rfl trivial
          (fun writerId hmem => .inl (hrest writerId hmem))) rfl rfl rfl
          (.inr (budgetClosed_of_tryReserveBytes hclosed))
      · split
        · dsimp only
          refine .calm (hplain.goOn rfl (quiet_setLine fun _ => rfl) rfl trivial
            (fun writerId hmem => .inl ?_)) rfl rfl rfl
          rcases mem_cons.mp hmem with rfl | hmem
          · exact hmentions _ (.inl mem_cons_self)
          · exact hrest writerId hmem
        · exact hkept
        · next hclosed =>
          exact .closed (hplain.goOn rfl (quiet_setLine fun _ => rfl) rfl trivial
            (fun writerId hmem => .inl (hrest writerId hmem))) rfl rfl rfl
            (.inl (channelClosed_of_tryReserveSlot hclosed))

theorem fallbackBytesStep_advances (hpc : task.pc = .fallbackBytes writerId) :
    Advances choice system task (task.fallbackBytesStep writerId choice system).1
      (task.fallbackBytesStep writerId choice system).2 := by
  have hplain : task.Plain := by
    rw [Plain, hpc]
    exact ⟨rfl, fun _ _ => by rw [passPermit, hpc]⟩
  unfold fallbackBytesStep
  split
  · next hclosed =>
    exact .closed (hplain.goOn rfl (.refl system) rfl trivial (fun _ hmem => by cases hmem))
      rfl rfl rfl (.inr (budgetClosed_of_tryReserveBytes hclosed))
  · refine .calm (hplain.goOn rfl (quiet_setLine fun _ => rfl) rfl trivial
      (fun writerId hmem => .inl ?_)) rfl rfl rfl
    rw [hpc]
    exact hmem
  · split
    · exact hplain.simple ⟨.inl rfl, rfl⟩ (.refl system) rfl
    · exact .calm (hplain.goOn (by rw [hpc]; rfl) (.refl system) hplain.1 (by rw [hpc]; trivial)
        (fun _ hmem => .inl hmem)) rfl rfl (by rw [hpc]; rfl)

theorem fallbackSlotStep_advances (hpc : task.pc = .fallbackSlot writerId) :
    Advances choice system task (task.fallbackSlotStep writerId choice system).1
      (task.fallbackSlotStep writerId choice system).2 := by
  have hplain : task.Plain := by
    rw [Plain, hpc]
    exact ⟨rfl, fun _ _ => by rw [passPermit, hpc]⟩
  unfold fallbackSlotStep
  split
  · next hclosed =>
    exact .closed (hplain.goOn rfl (.refl system) rfl trivial (fun _ hmem => by cases hmem))
      rfl rfl rfl (.inl (channelClosed_of_tryReserveSlot hclosed))
  · refine .calm (hplain.goOn rfl (quiet_setLine fun _ => rfl) rfl trivial
      (fun writerId hmem => .inl ?_)) rfl rfl rfl
    rw [hpc]
    exact hmem
  · split
    · exact hplain.simple ⟨.inl rfl, rfl⟩ (quiet_setLine fun _ => rfl) rfl
    · exact .calm (hplain.goOn (by rw [hpc]; rfl) (.refl system) hplain.1 (by rw [hpc]; trivial)
        (fun _ hmem => .inl hmem)) rfl rfl (by rw [hpc]; rfl)

variable {resume : Resume}

theorem bindStep_advances (hpc : task.pc = .bind writerId resume) :
    Advances choice system task (task.bindStep writerId resume choice system).1
      (task.bindStep writerId resume choice system).2 := by
  unfold bindStep
  dsimp only
  split
  · next registry hbind =>
    have hcommits : task.commits choice system writerId = false := congrArg Prod.fst hbind
    refine .lines (.goOn rfl (quiet_setLine fun _ => rfl) ?_ trivial
      (fun writerId hmem => .inl ?_)) rfl rfl (fun wanted hnext => ?_)
    · rw [passPermit, hpc]
      simp only [hcommits]
      rfl
    · rw [hpc]
      exact mem_cons_of_mem _ hmem
    · cases hnext
      exact .inr ⟨resume, hpc, ConnRegistry.bindWriter_false hcommits⟩
  · next registry hbind =>
    have hcommits : task.commits choice system writerId = true := congrArg Prod.fst hbind
    have hputs : Puts { system with registry := registry }
        ({ system with registry := registry }.setLine writerId fun line =>
          line.releaseSlot.push (task.dataCommand system (task.effectiveOurAddr writerId system)))
        writerId _ := puts_setLine fun _ => rfl
    refine ⟨.put writerId _ rfl hputs ?_ (.commit resume hpc hcommits rfl),
      ⟨rfl, _, .bound writerId resume hpc hcommits, by rw [hbind]; rfl⟩,
      .bound _ _ _ rfl (congrArg Prod.snd hbind).symm, fun wanted hnext => nomatch hnext⟩
    rw [passPermit, hpc]
    simp only [hcommits]
    rfl

theorem resume_advances (hplain : task.Plain)
    (hmentions : task.pc.mentions = resume.mentions) (hquiet : Quiet system after)
    (hframe : after.frame = system.frame) :
    Advances choice system task (task.resume system resume) after := by
  cases resume with
  | top =>
    rw [SendTask.resume, toTop]
    split
    · exact hplain.simple (beginLegacy_simple _ _ _) hquiet hframe
    · exact hplain.simple ⟨.inl rfl, rfl⟩ hquiet hframe
  | scan rest fallback =>
    refine .calm (hplain.goOn rfl hquiet rfl trivial (fun writerId hmem => .inl ?_)) rfl hframe rfl
    rw [hmentions]
    exact hmem

theorem removeCloseStep_advances {removal : Removal} {removed : Bool}
    (hpc : task.pc = .removeClose removal removed) :
    Advances choice system task (task.removeCloseStep removal removed system).1
      (task.removeCloseStep removal removed system).2 := by
  have hplain : task.Plain := by
    rw [Plain, hpc]
    exact ⟨rfl, fun _ _ => by rw [passPermit, hpc]⟩
  refine resume_advances hplain (by rw [hpc]; rfl) (fun other => ?_) rfl
  by_cases hother : other = removal.writerId
  · subst hother
    simp only [removeCloseStep, System.setLine, update_self]
    have hreleased : ∀ line : WriterLine,
        (if removal.held then line.releaseBytes task.permits else line).queue = line.queue := by
      intro line
      split
      · rfl
      · rfl
    rw [hreleased]
    split
    · exact ⟨[.close], rfl, rfl⟩
    · exact ⟨[], (append_nil _).symm, rfl⟩
  · refine ⟨[], ?_, rfl⟩
    rw [append_nil]
    simp only [removeCloseStep, System.setLine, update_of_ne hother]

theorem advance_advances :
    Advances choice system task (task.advance choice system).1 (task.advance choice system).2 := by
  cases hpc : task.pc with
  | enter =>
    simp only [advance, hpc]
    exact enterStep_advances hpc
  | boundBytes writerId conn =>
    simp only [advance, hpc]
    exact boundBytesStep_advances hpc
  | boundSlot writerId command =>
    simp only [advance, hpc]
    exact boundSlotStep_advances hpc
  | recover shortage =>
    simp only [advance, hpc]
    exact recoverStep_advances hpc
  | scan rest fallback =>
    simp only [advance, hpc]
    exact scanStep_advances hpc
  | fallbackBytes writerId =>
    simp only [advance, hpc]
    exact fallbackBytesStep_advances hpc
  | fallbackSlot writerId =>
    simp only [advance, hpc]
    exact fallbackSlotStep_advances hpc
  | bind writerId resume =>
    simp only [advance, hpc]
    exact bindStep_advances hpc
  | removePool removal =>
    simp only [advance, hpc]
    refine ⟨.goOn rfl (.refl system) ?_ trivial (fun writerId hmem => .inl ?_),
      ⟨rfl, _, .removed removal.writerId, rfl⟩, .removed removal hpc rfl rfl,
      fun wanted hnext => .inl (hpc ▸ hnext)⟩
    · rw [passPermit, hpc]
      rfl
    · rw [hpc]
      exact hmem
  | removeRegistry removal removed =>
    simp only [advance, hpc]
    refine ⟨.goOn rfl (.refl system) ?_ trivial (fun writerId hmem => .inl ?_),
      ⟨rfl, _, .lost removal.writerId, rfl⟩, .lost removal removed hpc rfl rfl,
      fun wanted hnext => .inl (hpc ▸ hnext)⟩
    · rw [passPermit, hpc]
      rfl
    · rw [hpc]
      exact hmem
  | removeClose removal removed =>
    simp only [advance, hpc]
    exact removeCloseStep_advances hpc
  | finished result =>
    simp only [advance, hpc]
    exact .calm (.stay (by rw [hpc]; rfl) rfl rfl) rfl rfl (by rw [hpc]; rfl)

end SendTask

end TupoProxy.MiddleProxy
