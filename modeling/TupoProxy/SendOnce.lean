import TupoProxy.SendHistory
import TupoProxy.SendSafety

/-!
# A request is sent once

A call that returns has put its request into the queue of one writer, once, or
has failed and put it nowhere.  The proxy address in a request comes from the
binding of its connection, so the bindings have to keep the source addresses
of their writers, through every removal and every new binding.
-/

namespace TupoProxy.MiddleProxy

open Runs List Function TupoProxy.MiddleProxy.System SendTask ConnRegistry

theorem sourceIp_removeFromPool (system : System) (gone writerId : ℕ) :
    (system.removeFromPool gone).2.sourceIp writerId = system.sourceIp writerId := by
  have hpool : ∀ writer, writer ∈ (system.removeFromPool gone).2.pool.writers ↔
      writer ∈ system.pool.writers ∧ writer.id ≠ gone :=
    fun writer => mem_removeWriterAndCloseClients
  unfold sourceIp writerRecord
  by_cases hgone : writerId = gone
  · subst hgone
    have hnone : (system.removeFromPool writerId).2.pool.writers.find? writerId = none := by
      rw [KeyedList.find?_eq_none]
      exact fun writer hmem => ((hpool writer).mp hmem).2
    rw [hnone]
    simp only [removeFromPool, update_self]
    rfl
  · have hsame : (system.removeFromPool gone).2.pool.writers.find? writerId =
        system.pool.writers.find? writerId := by
      apply Option.ext
      intro writer
      rw [KeyedList.find?_eq_some, KeyedList.find?_eq_some, hpool]
      constructor
      · rintro ⟨⟨hmem, -⟩, hid⟩
        exact ⟨hmem, hid⟩
      · rintro ⟨hmem, hid⟩
        exact ⟨⟨hmem, fun hother => hgone (hid.symm.trans hother)⟩, hid⟩
    rw [hsame]
    simp only [removeFromPool, update_of_ne hgone]

theorem sourceIp_markDraining (system : System) (marked now writerId : ℕ)
    (timeout : Option ℕ) (allow : Bool) :
    (System.step (.markDraining marked now timeout allow) system).sourceIp writerId =
      system.sourceIp writerId := by
  have hpool : ∀ writer,
      writer ∈ (step (.markDraining marked now timeout allow) system).pool.writers ↔
        (writer ∈ system.pool.writers ∧ writer.id ≠ marked) ∨
          ∃ old ∈ system.pool.writers, old.id = marked ∧
            old.beginDrain now timeout allow = writer := fun writer => mem_markWriterDraining
  unfold sourceIp writerRecord
  cases hfind : system.pool.writers.find? writerId with
  | none =>
    have hnone : (step (.markDraining marked now timeout allow)
        system).pool.writers.find? writerId = none := by
      rw [KeyedList.find?_eq_none] at hfind ⊢
      intro writer hmem
      rcases (hpool writer).mp hmem with ⟨hmem, -⟩ | ⟨old, hold, -, rfl⟩
      · exact hfind writer hmem
      · exact hfind old hold
    rw [hnone]
    rfl
  | some writer =>
    obtain ⟨hmem, hid⟩ := KeyedList.find?_eq_some.mp hfind
    by_cases hmarked : writer.id = marked
    · have hsome : (step (.markDraining marked now timeout allow)
          system).pool.writers.find? writerId = some (writer.beginDrain now timeout allow) :=
        KeyedList.find?_eq_some.mpr ⟨(hpool _).mpr (.inr ⟨writer, hmem, hmarked, rfl⟩), hid⟩
      rw [hsome]
      rfl
    · have hsome : (step (.markDraining marked now timeout allow)
          system).pool.writers.find? writerId = some writer :=
        KeyedList.find?_eq_some.mpr ⟨(hpool _).mpr (.inl ⟨hmem, hmarked⟩), hid⟩
      rw [hsome]
      rfl

variable {base : System}

theorem sourceIp_congr {after : System} (hframe : after.frame = base.frame)
    (writerId : ℕ) : after.sourceIp writerId = base.sourceIp writerId := by
  simp only [frame, Prod.mk.injEq] at hframe
  rw [sourceIp, sourceIp, writerRecord, writerRecord, hframe.1,
    hframe.2.2.2]

variable {system : System} {task : SendTask} {choice : Choice} {writerId : ℕ} {ip : IpAddr}

theorem SendTask.Base.sourceIp_eq (hbase : Base choice system task base)
    (writerId : ℕ) : base.sourceIp writerId = system.sourceIp writerId := by
  cases hbase with
  | same | bound | lost => rfl
  | removed gone => exact sourceIp_removeFromPool system gone writerId

theorem sourceIp_advance :
    (task.advance choice system).2.sourceIp writerId = system.sourceIp writerId := by
  obtain ⟨-, base, hbase, hframe⟩ := advance_advances.rests
  rw [sourceIp_congr hframe, hbase.sourceIp_eq]

variable {action : Action}

/-- A writer keeps its source address, also when it has left the pool. -/
theorem step_sourceIp (hip : system.sourceIp writerId = some ip) :
    (System.step action system).sourceIp writerId = some ip := by
  cases action with
  | send taskId choice =>
    change (system.sendStep taskId choice).sourceIp writerId = some ip
    unfold sendStep
    split
    · exact hip
    · exact sourceIp_advance.trans hip
  | start taskId call =>
    change (system.startCall taskId call).sourceIp writerId = some ip
    unfold startCall
    split
    · exact hip
    · exact hip
  | addWriter writer line =>
    change (system.addWriter writer line).sourceIp writerId = some ip
    unfold addWriter
    split
    · exact hip
    · next hfresh =>
      have hother : writer.id ≠ writerId := by
        rintro rfl
        rw [sourceIp] at hip
        rw [← Option.isSome_map (f := MeWriter.sourceIp), hip] at hfresh
        exact hfresh rfl
      rw [sourceIp, writerRecord, KeyedList.find?_push hother]
      exact hip
  | removeFromPool gone => exact (sourceIp_removeFromPool system gone writerId).trans hip
  | markDraining marked now timeout allow =>
    exact (sourceIp_markDraining system marked now writerId timeout allow).trans hip
  | register | unregisterStart | unregisterFinish | bind | registerWriter | markWriterIdle
  | countWriter | writerLost | closeChannel | closeBudget | takeCommand | releaseBytes | control
  | reconfigure => exact hip

/-- Only a send binds connections, and the tag of a pool never changes. -/
def Action.genuine (tag : Option (List Byte)) : Action → Bool
  | .bind _ _ _ _ => false
  | .reconfigure config => config.proxyTag = tag
  | _ => true

/-- The proxy address of every binding is the source address of its writer. -/
def System.BoundAligned (system : System) : Prop :=
  ∀ connId hot, system.registry.hotBinding.lookup connId = some hot →
    system.sourceIp hot.writerId = some hot.conn.ourAddr.ip

structure System.Aligned (tag : Option (List Byte)) (system : System) : Prop where
  tag : system.config.proxyTag = tag
  bound : system.BoundAligned
  known : ∀ taskId task, system.tasks taskId = some task → ∀ writerId ∈ task.pc.mentions,
    (system.sourceIp writerId).isSome = true

theorem effectiveOurAddr_ip (hknown : (system.sourceIp writerId).isSome = true) :
    system.sourceIp writerId = some (task.effectiveOurAddr writerId system).ip := by
  unfold sourceIp at hknown ⊢
  unfold effectiveOurAddr
  cases hrecord : system.writerRecord writerId with
  | none =>
    rw [hrecord] at hknown
    cases hknown
  | some writer => rfl

theorem SendTask.Base.boundAligned (hbase : Base choice system task base)
    (hbound : system.BoundAligned)
    (hknown : ∀ writerId ∈ task.pc.mentions, (system.sourceIp writerId).isSome = true) :
    base.BoundAligned := by
  intro connId hot hlookup
  rw [hbase.sourceIp_eq]
  cases hbase with
  | same | removed => exact hbound connId hot hlookup
  | lost gone => exact hbound connId hot (hotBinding_writerLost hlookup)
  | bound writerId resume hpc hcommits =>
    have htables := (hotTables_bindWriter hcommits).1
    rw [hotTables, Prod.mk.injEq, Prod.mk.injEq] at htables
    rw [htables.2.2] at hlookup
    rcases Table.lookup_insert_some hlookup with ⟨-, rfl⟩ | ⟨-, hlookup⟩
    · refine effectiveOurAddr_ip (hknown writerId ?_)
      rw [hpc]
      exact mem_cons_self
    · exact hbound connId hot hlookup

theorem SendTask.Base.config_eq (hbase : Base choice system task base) :
    base.config = system.config := by
  cases hbase with
  | same | bound | removed | lost => rfl

theorem isSome_sourceIp_step (hsome : (system.sourceIp writerId).isSome = true) :
    ((System.step action system).sourceIp writerId).isSome = true := by
  obtain ⟨ip, hip⟩ := Option.isSome_iff_exists.mp hsome
  rw [step_sourceIp hip]
  rfl

theorem SendTask.Moves.known {next : SendTask} {after : System}
    (hmoves : Moves choice system task next after)
    (hknown : ∀ writerId ∈ task.pc.mentions, (system.sourceIp writerId).isSome = true) :
    ∀ writerId ∈ next.pc.mentions, (system.sourceIp writerId).isSome = true := by
  intro writerId hmem
  cases hmoves with
  | goOn hunfinished hquiet hpermit hreached hmentions =>
    exact (hmentions writerId hmem).elim (hknown writerId) id
  | put bound command hpc hputs hpermit horigin =>
    rw [hpc] at hmem
    cases hmem
  | fail error hpc hquiet hpermit =>
    rw [hpc] at hmem
    cases hmem
  | stay hfinished hnext hafter => exact hknown writerId (hnext ▸ hmem)

theorem begin_simple (config : RouteConfig) (pool : MePool) (call : SendCall) :
    (call.begin config pool).Simple := by
  unfold SendCall.begin
  split
  · exact (beginLegacy_simple _ _ _).1
  · exact (checkBudget_simple _ _ _).1

theorem SendTask.Simple.mentions_eq_nil (hsimple : task.Simple) : task.pc.mentions = [] := by
  rcases hsimple with hpc | ⟨shortage, hpc⟩ | ⟨error, hpc⟩
  · rw [hpc]
    rfl
  · rw [hpc]
    rfl
  · rw [hpc]
    rfl

variable {call : SendCall}

theorem startCall_eq {taskId : ℕ} (htask : system.tasks taskId = none) :
    System.step (.start taskId call) system =
      { system with
        tasks := Function.update system.tasks taskId
          (some (call.begin system.config system.pool)) } := by
  change system.startCall taskId call = _
  rw [startCall, htask]

theorem startCall_some {taskId : ℕ} (htask : system.tasks taskId = some task) :
    System.step (.start taskId call) system = system := by
  change system.startCall taskId call = _
  rw [startCall, htask]

namespace System

variable {tag : Option (List Byte)}

section

variable (haligned : system.Aligned tag)
include haligned

theorem Aligned.transfer {action : Action}
    (hconfig : (step action system).config.proxyTag = tag) (hhot : ∀ connId hot,
      (step action system).registry.hotBinding.lookup connId = some hot →
        system.registry.hotBinding.lookup connId = some hot)
    (htasks : (step action system).tasks = system.tasks) :
    (step action system).Aligned tag where
  tag := hconfig
  bound := fun connId hot hlookup =>
    step_sourceIp (haligned.bound connId hot (hhot connId hot hlookup))
  known := by
    intro taskId task htask writerId hmem
    rw [htasks] at htask
    exact isSome_sourceIp_step (haligned.known taskId task htask writerId hmem)

theorem Aligned.send {taskId : ℕ} (htask : system.tasks taskId = some task) :
    (step (.send taskId choice) system).Aligned tag := by
  have hrests : SendTask.Rests choice system task (task.advance choice system).1
      (task.advance choice system).2 := advance_advances.rests
  obtain ⟨-, base, hbase, hframe⟩ := hrests
  have hknown := haligned.known taskId task htask
  have hip : ∀ writerId, (step (.send taskId choice) system).sourceIp writerId =
      system.sourceIp writerId := by
    intro writerId
    rw [sendStep_eq htask]
    exact sourceIp_advance
  constructor
  · rw [sendStep_eq htask]
    simp only [frame, Prod.mk.injEq] at hframe
    change (task.advance choice system).2.config.proxyTag = tag
    rw [hframe.2.1, hbase.config_eq]
    exact haligned.tag
  · intro connId hot hlookup
    rw [sendStep_eq htask] at hlookup
    simp only [frame, Prod.mk.injEq] at hframe
    simp only [hframe.2.2.1] at hlookup
    rw [hip, ← hbase.sourceIp_eq]
    exact hbase.boundAligned haligned.bound hknown connId hot hlookup
  · intro other found hfound writerId hmem
    rw [hip]
    rw [sendStep_eq htask] at hfound
    by_cases hother : other = taskId
    · subst hother
      simp only [update_self, Option.some.injEq] at hfound
      subst hfound
      exact advance_advances.moves.known hknown writerId hmem
    · simp only [update_of_ne hother] at hfound
      exact haligned.known other found hfound writerId hmem

theorem Aligned.start {taskId : ℕ} {call : SendCall}
    (htask : system.tasks taskId = none) : (step (.start taskId call) system).Aligned tag := by
  rw [startCall_eq htask]
  refine ⟨haligned.tag, haligned.bound, ?_⟩
  intro other found hfound writerId hmem
  by_cases hother : other = taskId
  · subst hother
    simp only [update_self, Option.some.injEq] at hfound
    subst hfound
    rw [(begin_simple _ _ _).mentions_eq_nil] at hmem
    cases hmem
  · simp only [update_of_ne hother] at hfound
    exact haligned.known other found hfound writerId hmem

/-- A genuine action keeps every bound address that of its writer. -/
theorem Aligned.step {action : Action}
    (hgenuine : action.genuine tag = true) : (System.step action system).Aligned tag := by
  cases action with
  | bind now connId bound conn => cases hgenuine
  | send taskId choice =>
    cases htask : system.tasks taskId with
    | none =>
      rw [sendStep_none htask]
      exact haligned
    | some task => exact haligned.send htask
  | start taskId call =>
    cases htask : system.tasks taskId with
    | none => exact haligned.start htask
    | some task =>
      rw [startCall_some htask]
      exact haligned
  | addWriter writer line =>
    have hsame : ∀ {β : Type} (part : System → β),
        (∀ pool lines, part { system with pool := pool, lines := lines } = part system) →
        part (System.step (.addWriter writer line) system) = part system := by
      intro β part hpart
      change part (system.addWriter writer line) = _
      unfold addWriter
      split
      · rfl
      · exact hpart _ _
    refine haligned.transfer ?_ ?_ (hsame tasks fun _ _ => rfl)
    · rw [hsame config fun _ _ => rfl]
      exact haligned.tag
    · rw [hsame registry fun _ _ => rfl]
      exact fun _ _ hlookup => hlookup
  | unregisterStart connId =>
    exact haligned.transfer haligned.tag
      (fun _ _ hlookup => (Table.lookup_erase_some hlookup).2) rfl
  | unregisterFinish now connId =>
    refine haligned.transfer haligned.tag (fun _ _ hlookup => ?_) rfl
    have htables : (system.registry.unregisterFinish now connId).2.hotTables =
        system.registry.hotTables := hotTables_unregisterFinish now
    simp only [hotTables, Prod.mk.injEq] at htables
    rw [← htables.2.2]
    exact hlookup
  | markWriterIdle now idle =>
    refine haligned.transfer haligned.tag (fun _ _ hlookup => ?_) rfl
    have htables : (system.registry.markWriterIdle now idle).hotTables =
        system.registry.hotTables := hotTables_markWriterIdle now idle
    simp only [hotTables, Prod.mk.injEq] at htables
    rw [← htables.2.2]
    exact hlookup
  | writerLost lost =>
    exact haligned.transfer haligned.tag
      (fun _ _ hlookup => hotBinding_writerLost hlookup) rfl
  | reconfigure config =>
    exact haligned.transfer (of_decide_eq_true hgenuine) (fun _ _ hlookup => hlookup) rfl
  | register => exact haligned.transfer haligned.tag (fun _ _ hlookup => hlookup) rfl
  | registerWriter | removeFromPool | markDraining | closeChannel | closeBudget | takeCommand
  | releaseBytes | control =>
    exact haligned.transfer haligned.tag (fun _ _ hlookup => hlookup) rfl
  | countWriter => exact haligned.transfer haligned.tag (fun _ _ hlookup => hlookup) rfl

end

end System

/-! ## The history tells what the call did -/

variable {ourAddr : SocketAddr} {command : WriterCommand}

theorem carries_congr {config other : RouteConfig} (htag : config.proxyTag = other.proxyTag)
    (hcarries : call.Carries config ourAddr command) : call.Carries other ourAddr command := by
  have hsame : call.tag config = call.tag other := by
    simp only [SendCall.tag, htag]
  have hlegacy : call.legacyTag config = call.legacyTag other := by
    simp only [SendCall.legacyTag, hsame, htag]
  rw [SendCall.Carries, ← hsame, ← hlegacy]
  exact hcarries

theorem carriesData_of_carries {config : RouteConfig}
    (hcarries : call.Carries config ourAddr command) : command.carriesData = true := by
  rcases hcarries with rfl | rfl
  · rfl
  · rfl

theorem boundCommand_carries (conn : ConnMeta) :
    task.call.Carries system.config conn.ourAddr (task.boundCommand system conn) := by
  unfold boundCommand
  split
  · exact .inr rfl
  · exact .inl rfl

structure Delivered (config : RouteConfig) (system : System) (history : CallHistory)
    (call : SendCall) (writerId : ℕ) (ourAddr : SocketAddr) (command : WriterCommand) :
    Prop where
  once : history.placed = Function.update (fun _ => []) writerId [command]
  request : call.Carries config ourAddr command
  sourceIp : system.sourceIp writerId = some ourAddr.ip
  writer : writerId ∈ history.found ∨ writerId ∈ history.bound
  permit : history.permit = ⟨.queue writerId, 0⟩

structure Refused (history : CallHistory) : Prop where
  never : history.placed = fun _ => []
  permit : history.permit = ⟨.nobody, 1⟩

structure Story (config : RouteConfig) (system : System) (history : CallHistory)
    (task : SendTask) : Prop where
  waiting : task.pc.isFinished = false →
    history.placed = (fun _ => []) ∧ history.permit = task.pc.holding
  bytes : ∀ writerId conn, task.pc = .boundBytes writerId conn →
    writerId ∈ history.found ∧ system.sourceIp writerId = some conn.ourAddr.ip
  slot : ∀ writerId command, task.pc = .boundSlot writerId command →
    writerId ∈ history.found ∧ ∃ ourAddr, task.call.Carries config ourAddr command ∧
      system.sourceIp writerId = some ourAddr.ip
  sent : task.pc = .finished (.ok ()) →
    ∃ writerId ourAddr command, Delivered config system history task.call writerId ourAddr
      command
  failed : ∀ error, task.pc = .finished (.error error) → Refused history

variable {config : RouteConfig} {history : CallHistory}

/-- The story of a call outlives the steps of the others. -/
theorem Story.step (hstory : Story config system history task) :
    Story config (System.step action system) history task where
  waiting := hstory.waiting
  bytes := by
    intro writerId conn hpc
    obtain ⟨hfound, hip⟩ := hstory.bytes writerId conn hpc
    exact ⟨hfound, step_sourceIp hip⟩
  slot := by
    intro writerId command hpc
    obtain ⟨hfound, ourAddr, hcarries, hip⟩ := hstory.slot writerId command hpc
    exact ⟨hfound, ourAddr, hcarries, step_sourceIp hip⟩
  sent := by
    intro hpc
    obtain ⟨writerId, ourAddr, command, honce, hrequest, hip, hwriter, hpermit⟩ := hstory.sent hpc
    exact ⟨writerId, ourAddr, command, honce, hrequest, step_sourceIp hip, hwriter, hpermit⟩
  failed := hstory.failed

theorem story_waiting (hunfinished : task.pc.isFinished = false)
    (hplaced : history.placed = fun _ => []) (hpermit : history.permit = task.pc.holding)
    (hbytes : ∀ writerId conn, task.pc = .boundBytes writerId conn →
      writerId ∈ history.found ∧ system.sourceIp writerId = some conn.ourAddr.ip)
    (hslot : ∀ writerId command, task.pc = .boundSlot writerId command →
      writerId ∈ history.found ∧ ∃ ourAddr, task.call.Carries config ourAddr command ∧
        system.sourceIp writerId = some ourAddr.ip) :
    Story config system history task where
  waiting := fun _ => ⟨hplaced, hpermit⟩
  bytes := hbytes
  slot := hslot
  sent := by
    intro hpc
    rw [hpc] at hunfinished
    cases hunfinished
  failed := by
    intro error hpc
    rw [hpc] at hunfinished
    cases hunfinished

theorem story_finished {result : Except SendError Unit} (hpc : task.pc = .finished result)
    (hsent : result = .ok () → ∃ writerId ourAddr command,
      Delivered config system history task.call writerId ourAddr command)
    (hfailed : ∀ error, result = .error error → Refused history) :
    Story config system history task where
  waiting := by
    intro hunfinished
    rw [hpc] at hunfinished
    cases hunfinished
  bytes := by
    intro writerId conn hbytes
    rw [hpc] at hbytes
    cases hbytes
  slot := by
    intro writerId command hslot
    rw [hpc] at hslot
    cases hslot
  sent := by
    intro hok
    rw [hpc] at hok
    exact hsent (Pc.finished.inj hok)
  failed := by
    intro error herror
    rw [hpc] at herror
    exact hfailed error (Pc.finished.inj herror)

theorem story_simple (hsimple : task.Simple) (hunfinished : task.pc.isFinished = false) :
    Story config system .fresh task := by
  rcases hsimple with hpc | ⟨shortage, hpc⟩ | ⟨error, hpc⟩
  case inr.inr =>
    rw [hpc] at hunfinished
    cases hunfinished
  all_goals
    exact story_waiting hunfinished rfl (by rw [hpc]; rfl)
      (by rw [hpc]; exact fun _ _ hbytes => by cases hbytes)
      (by rw [hpc]; exact fun _ _ hslot => by cases hslot)

theorem story_simple_finished (hsimple : task.Simple) (hfinished : task.pc.isFinished = true) :
    Story config system
      { CallHistory.fresh with permit := CallHistory.fresh.permit.drop } task := by
  rcases hsimple with hpc | ⟨shortage, hpc⟩ | ⟨error, hpc⟩
  · rw [hpc] at hfinished
    cases hfinished
  · rw [hpc] at hfinished
    cases hfinished
  · exact story_finished hpc (fun hok => by cases hok) (fun _ _ => ⟨rfl, rfl⟩)

/-! One step of the call itself. -/

variable {before after : System}

theorem placed_of_quiet (hquiet : SendTask.Quiet before after)
    (hplaced : history.placed = fun _ => []) :
    (history.extend task choice before after).placed = fun _ => [] := by
  funext writerId
  obtain ⟨extra, hqueue, hextra⟩ := hquiet writerId
  simp only [CallHistory.extend, appended, hqueue, drop_left, hplaced, hextra]
  rfl

theorem placed_of_puts
    (hputs : SendTask.Puts before after writerId command) (hdata : command.carriesData = true)
    (hplaced : history.placed = fun _ => []) :
    (history.extend task choice before after).placed =
      Function.update (fun _ => []) writerId [command] := by
  funext other
  by_cases hother : other = writerId
  · subst hother
    simp only [CallHistory.extend, appended, hputs.1, drop_left, hplaced, update_self]
    exact filter_cons_of_pos hdata
  · simp only [CallHistory.extend, appended, hputs.2 other hother, drop_length,
      hplaced, update_of_ne hother]
    rfl

theorem mem_found_extend (hmem : writerId ∈ history.found) :
    writerId ∈ (history.extend task choice before after).found := by
  simp only [CallHistory.extend]
  split
  · exact mem_append_left _ hmem
  · exact hmem

theorem mem_bound_extend (hmem : writerId ∈ history.bound) :
    writerId ∈ (history.extend task choice before after).bound := by
  simp only [CallHistory.extend]
  split
  · split
    · exact mem_append_left _ hmem
    · exact hmem
  · exact hmem

theorem exists_of_isFinished {pc : Pc} (hfinished : pc.isFinished = true) :
    ∃ result, pc = .finished result := by
  cases pc with
  | finished result => exact ⟨result, rfl⟩
  | _ => cases hfinished

variable {permit : ClientPermit}

theorem movePermit_waiting (hunfinished : (task.advance choice system).1.pc.isFinished = false) :
    task.movePermit choice system permit = task.passPermit choice system permit := by
  rw [movePermit, hunfinished]
  rfl

theorem movePermit_finished (hfinished : (task.advance choice system).1.pc.isFinished = true) :
    task.movePermit choice system permit = (task.passPermit choice system permit).drop := by
  rw [movePermit, hfinished]
  rfl

section OwnStep

variable {taskId : ℕ} (htask : system.tasks taskId = some task)

include htask

theorem quiet_sendStep (hquiet : SendTask.Quiet system (task.advance choice system).2) :
    SendTask.Quiet system (System.step (.send taskId choice) system) := by
  rw [sendStep_eq htask]
  exact hquiet

theorem boundWriter_sendStep {resume : Resume} (hpc : task.pc = .bind writerId resume)
    (hcommits : task.commits choice system writerId = true) :
    (System.step (.send taskId choice) system).boundWriter task.call.connId = some writerId := by
  rw [sendStep_eq htask]
  simp only [boundWriter, advance, hpc, bindStep]
  have hget := getWriterWithMeta_bindWriter hcommits
  split
  · next registry hbind =>
    unfold commits at hcommits
    rw [hbind] at hcommits
    cases hcommits
  · next registry hbind =>
    rw [hbind] at hget
    change (registry.getWriterWithMeta task.call.connId).map Prod.fst = some writerId
    rw [hget]
    rfl

/-- The story of a call goes on in its own step. -/
abbrev TellsStep (config : RouteConfig) (system : System) (history : CallHistory)
    (task : SendTask) (taskId : ℕ) (choice : Choice) : Prop :=
  Story config (System.step (.send taskId choice) system)
    (history.extend task choice system (System.step (.send taskId choice) system))
    (task.advance choice system).1

section

variable (hstory : Story config system history task)
include hstory

theorem Story.goOn
    (haligned : system.Aligned config.proxyTag) (hwaiting : task.pc.isFinished = false)
    (hunfinished : (task.advance choice system).1.pc.isFinished = false)
    (hquiet : SendTask.Quiet system (task.advance choice system).2)
    (hpermit : task.passPermit choice system task.pc.holding =
      (task.advance choice system).1.pc.holding)
    (hreached : SendTask.Reached system task (task.advance choice system).1.pc) :
    TellsStep config system history task taskId choice := by
  obtain ⟨hplaced, hheld⟩ := hstory.waiting hwaiting
  have hcall : (task.advance choice system).1.call = task.call := advance_advances.rests.1
  refine story_waiting hunfinished (placed_of_quiet (quiet_sendStep htask hquiet) hplaced) ?_ ?_ ?_
  · change task.movePermit choice system history.permit = _
    rw [movePermit_waiting hunfinished, hheld, hpermit]
  · intro bound conn hbytes
    rw [hbytes] at hreached
    rcases hreached with hpc | ⟨hpc, hget⟩
    · obtain ⟨hfound, hip⟩ := hstory.bytes bound conn hpc
      exact ⟨mem_found_extend hfound, step_sourceIp hip⟩
    · constructor
      · simp [CallHistory.extend, hpc, boundWriter, hget]
      · exact step_sourceIp (haligned.bound _ _ (getWriterWithMeta_hot hget))
  · intro bound command hslot
    rw [hslot] at hreached
    rw [hcall]
    rcases hreached with hpc | ⟨conn, hpc, rfl⟩
    · obtain ⟨hfound, ourAddr, hcarries, hip⟩ := hstory.slot bound command hpc
      exact ⟨mem_found_extend hfound, ourAddr, hcarries, step_sourceIp hip⟩
    · obtain ⟨hfound, hip⟩ := hstory.bytes bound conn hpc
      exact ⟨mem_found_extend hfound, conn.ourAddr,
        carries_congr haligned.tag (boundCommand_carries conn), step_sourceIp hip⟩

theorem Story.put {command : WriterCommand} (haligned : system.Aligned config.proxyTag)
    (hpc : (task.advance choice system).1.pc = .finished (.ok ()))
    (hputs : SendTask.Puts system (task.advance choice system).2 writerId command)
    (hpermit : task.passPermit choice system task.pc.holding = ⟨.queue writerId, 0⟩)
    (horigin : SendTask.Origin choice system task writerId command) :
    TellsStep config system history task taskId choice := by
  have hcall : (task.advance choice system).1.call = task.call := advance_advances.rests.1
  have hwaiting : task.pc.isFinished = false := by
    cases horigin with
    | bytes conn horigin hcommand => rw [horigin]; rfl
    | slot horigin => rw [horigin]; rfl
    | commit resume horigin hcommits hcommand => rw [horigin]; rfl
  obtain ⟨hplaced, hheld⟩ := hstory.waiting hwaiting
  have hqueued : task.movePermit choice system history.permit = ⟨.queue writerId, 0⟩ := by
    rw [movePermit_finished (by rw [hpc]; rfl), hheld, hpermit]
    rfl
  have hdelivered : ∀ ourAddr, task.call.Carries config ourAddr command →
      system.sourceIp writerId = some ourAddr.ip →
      writerId ∈ (history.extend task choice system
          (System.step (.send taskId choice) system)).found ∨
        writerId ∈ (history.extend task choice system
          (System.step (.send taskId choice) system)).bound →
      Delivered config (System.step (.send taskId choice) system)
        (history.extend task choice system (System.step (.send taskId choice) system))
        task.call writerId ourAddr command :=
    fun ourAddr hcarries hip hwriter =>
      { once := placed_of_puts (by rw [sendStep_eq htask]; exact hputs)
          (carriesData_of_carries hcarries) hplaced
        request := hcarries
        sourceIp := step_sourceIp hip
        writer := hwriter
        permit := hqueued }
  refine story_finished hpc (fun _ => ?_) (fun error herror => by cases herror)
  rw [hcall]
  cases horigin with
  | bytes conn horigin hcommand =>
    obtain ⟨hfound, hip⟩ := hstory.bytes writerId conn horigin
    subst hcommand
    exact ⟨writerId, conn.ourAddr, _, hdelivered _
      (carries_congr haligned.tag (boundCommand_carries conn)) hip (.inl (mem_found_extend hfound))⟩
  | slot horigin =>
    obtain ⟨hfound, ourAddr, hcarries, hip⟩ := hstory.slot writerId command horigin
    exact ⟨writerId, ourAddr, command, hdelivered ourAddr hcarries hip
      (.inl (mem_found_extend hfound))⟩
  | commit resume horigin hcommits hcommand =>
    have hknown : (system.sourceIp writerId).isSome = true := by
      refine haligned.known taskId task htask writerId ?_
      rw [horigin]
      exact mem_cons_self
    have hcarries : task.call.Carries system.config
        (task.effectiveOurAddr writerId system) command := .inl hcommand
    refine ⟨writerId, task.effectiveOurAddr writerId system, command, hdelivered _
      (carries_congr haligned.tag hcarries) (effectiveOurAddr_ip hknown) (.inr ?_)⟩
    simp [CallHistory.extend, horigin, boundWriter_sendStep htask horigin hcommits]

theorem Story.fail {error : SendError} (hwaiting : task.pc.isFinished = false)
    (hpc : (task.advance choice system).1.pc = .finished (.error error))
    (hquiet : SendTask.Quiet system (task.advance choice system).2)
    (hpermit : (task.passPermit choice system task.pc.holding).drop = ⟨.nobody, 1⟩) :
    TellsStep config system history task taskId choice := by
  obtain ⟨hplaced, hheld⟩ := hstory.waiting hwaiting
  refine story_finished hpc (fun hok => by cases hok) (fun _ _ => ⟨?_, ?_⟩)
  · exact placed_of_quiet (quiet_sendStep htask hquiet) hplaced
  · change task.movePermit choice system history.permit = _
    rw [movePermit_finished (by rw [hpc]; rfl), hheld, hpermit]

theorem Story.stay
    (hfinished : task.pc.isFinished = true) (hnext : (task.advance choice system).1 = task)
    (hafter : (task.advance choice system).2 = system) :
    TellsStep config system history task taskId choice := by
  rw [TellsStep, hnext]
  have hplaced : (history.extend task choice system
      (System.step (.send taskId choice) system)).placed = history.placed := by
    have hlines : (System.step (.send taskId choice) system).lines = system.lines := by
      rw [sendStep_eq htask]
      rw [hafter]
    funext writerId
    simp [CallHistory.extend, appended, hlines]
  obtain ⟨result, hpc⟩ := exists_of_isFinished hfinished
  have hpermit : task.movePermit choice system history.permit = history.permit.drop := by
    rw [movePermit_finished (by rw [hnext]; exact hfinished), passPermit, hpc]
  refine story_finished hpc (fun hok => ?_) (fun error herror => ?_)
  · rw [hok] at hpc
    obtain ⟨writerId, ourAddr, command, hdelivered⟩ := hstory.sent hpc
    refine ⟨writerId, ourAddr, command, hplaced.trans hdelivered.once, hdelivered.request,
      step_sourceIp hdelivered.sourceIp, ?_, ?_⟩
    · exact hdelivered.writer.imp mem_found_extend mem_bound_extend
    · change task.movePermit choice system history.permit = _
      rw [hpermit, hdelivered.permit]
      rfl
  · rw [herror] at hpc
    have hrefused := hstory.failed error hpc
    refine ⟨hplaced.trans hrefused.never, ?_⟩
    change task.movePermit choice system history.permit = _
    rw [hpermit, hrefused.permit]
    rfl

theorem Story.send (haligned : system.Aligned config.proxyTag) :
    TellsStep config system history task taskId choice := by
  have hmoves : SendTask.Moves choice system task (task.advance choice system).1
      (task.advance choice system).2 := advance_advances.moves
  cases hfinished : task.pc.isFinished with
  | true =>
    obtain ⟨result, hpc⟩ := exists_of_isFinished hfinished
    have hadvance : task.advance choice system = (task, system) := by
      rw [advance, hpc]
    exact hstory.stay htask hfinished (congrArg Prod.fst hadvance) (congrArg Prod.snd hadvance)
  | false =>
    cases hmoves with
    | goOn hunfinished hquiet hpermit hreached hknown =>
      exact hstory.goOn htask haligned hfinished hunfinished hquiet hpermit hreached
    | put writerId command hpc hputs hpermit horigin =>
      exact hstory.put htask haligned hpc hputs hpermit horigin
    | fail error hpc hquiet hpermit =>
      exact hstory.fail htask hfinished hpc hquiet hpermit
    | stay hstay hnext hafter =>
      rw [hfinished] at hstay
      cases hstay

end

end OwnStep

/-- The history of the call of this id, which is fresh before the call starts. -/
structure Told (config : RouteConfig) (taskId : ℕ) (watched : Watched) : Prop where
  aligned : watched.system.Aligned config.proxyTag
  idle : watched.system.tasks taskId = none → watched.history = .fresh
  story : ∀ task, watched.system.tasks taskId = some task →
    Story config watched.system watched.history task

variable {taskId : ℕ} {watched : Watched}

section

variable (htold : Told config taskId watched)
include htold

theorem Told.transfer {action : Action}
    (haligned : (System.step action watched.system).Aligned config.proxyTag)
    (htasks : (System.step action watched.system).tasks taskId = watched.system.tasks taskId)
    (hobserve : watched.observe taskId action = watched.history) :
    Told config taskId (watched.step taskId action) where
  aligned := haligned
  idle := by
    intro hnone
    change watched.observe taskId action = _
    rw [hobserve]
    exact htold.idle (htasks ▸ hnone)
  story := by
    intro task htask
    change Story config (step action watched.system) (watched.observe taskId action) task
    rw [hobserve]
    exact (htold.story task (htasks ▸ htask)).step

omit htold in
theorem Told.ofStory {action : Action} {task : SendTask}
    (haligned : (System.step action watched.system).Aligned config.proxyTag)
    (hnext : (step action watched.system).tasks taskId = some task)
    (hstory : Story config (step action watched.system) (watched.observe taskId action) task) :
    Told config taskId (watched.step taskId action) := by
  refine ⟨haligned, fun hnone => ?_, fun found hfound => ?_⟩
  · exact absurd (hnext.symm.trans hnone) (Option.some_ne_none _)
  · cases hnext.symm.trans hfound
    exact hstory

theorem Told.send {id : ℕ} {choice : Choice} :
    Told config taskId (watched.step taskId (.send id choice)) := by
  have haligned : (step (.send id choice) watched.system).Aligned config.proxyTag :=
    htold.aligned.step rfl
  cases htask : watched.system.tasks id with
  | none =>
    refine htold.transfer haligned ?_ ?_
    · rw [sendStep_none htask]
    · simp only [Watched.observe, htask]
  | some task =>
    by_cases hid : id = taskId
    · subst hid
      have hobserve : watched.observe id (.send id choice) =
          watched.history.extend task choice watched.system
            (step (.send id choice) watched.system) := by
        simp only [Watched.observe, htask, if_true]
      have hnext : (step (.send id choice) watched.system).tasks id =
          some (task.advance choice watched.system).1 := by
        rw [sendStep_eq htask]
        exact update_self ..
      refine .ofStory haligned hnext ?_
      rw [hobserve]
      exact (htold.story task htask).send htask htold.aligned
    · refine htold.transfer haligned ?_ ?_
      · rw [sendStep_eq htask]
        exact update_of_ne (Ne.symm hid) ..
      · simp only [Watched.observe, htask, if_neg hid]

theorem Told.start {id : ℕ} {call : SendCall} :
    Told config taskId (watched.step taskId (.start id call)) := by
  have haligned : (step (.start id call) watched.system).Aligned config.proxyTag :=
    htold.aligned.step rfl
  cases htask : watched.system.tasks id with
  | some task =>
    refine htold.transfer haligned ?_ ?_
    · rw [startCall_some htask]
    · simp [Watched.observe, htask]
  | none =>
    by_cases hid : id = taskId
    · subst hid
      have hfresh := htold.idle htask
      have hnext : (step (.start id call) watched.system).tasks id =
          some (call.begin watched.system.config watched.system.pool) := by
        rw [startCall_eq htask]
        exact update_self ..
      refine .ofStory haligned hnext ?_
      simp only [Watched.observe, htask, hfresh, Option.isNone_none, true_and]
      split
      · next hfinished =>
        exact story_simple_finished (begin_simple _ _ _) hfinished
      · next hfinished =>
        exact story_simple (begin_simple _ _ _) (Bool.not_eq_true _ ▸ hfinished)
    · refine htold.transfer haligned ?_ ?_
      · rw [startCall_eq htask]
        exact update_of_ne (Ne.symm hid) ..
      · simp [Watched.observe, hid]

/-- Every action, also of other calls, leaves the history true of its call. -/
theorem Told.step {action : Action} (hgenuine : action.genuine config.proxyTag = true) :
    Told config taskId (watched.step taskId action) := by
  have haligned := htold.aligned.step hgenuine
  cases action with
  | send id choice => exact htold.send
  | start id call => exact htold.start
  | addWriter writer line =>
    refine htold.transfer haligned ?_ rfl
    change (watched.system.addWriter writer line).tasks taskId = _
    unfold addWriter
    split
    · rfl
    · rfl
  | _ => exact htold.transfer haligned rfl rfl

end

theorem run_watched_system (start : System) (actions : List Action) (taskId : ℕ)
    (history : CallHistory) :
    (run (Watched.step taskId) actions ⟨start, history⟩).system =
      run System.step actions start := by
  induction actions generalizing start history with
  | nil => rfl
  | cons action actions ih => exact ih _ _

def historyOf (start : System) (actions : List Action) (taskId : ℕ) : CallHistory :=
  (run (Watched.step taskId) actions ⟨start, .fresh⟩).history

/-- In every run, a call that returns has put its request into the queue of one
writer, once, or it has failed and put it nowhere.  The writer is one that the
call found its connection bound to or bound it to, the proxy address in the
request is the source address of the writer, and the permit for the client
bytes went with the request or was dropped once. -/
theorem send_proxyReq_once (start : System) (actions : List Action) (taskId : ℕ)
    (hidle : ∀ taskId, start.tasks taskId = none) (hbound : start.BoundAligned)
    (hgenuine : ∀ action ∈ actions, action.genuine start.config.proxyTag = true)
    (task : SendTask) (htask : (run System.step actions start).tasks taskId = some task) :
    (task.pc = .finished (.ok ()) → ∃ writerId ourAddr command,
        Delivered start.config (run System.step actions start)
          (historyOf start actions taskId) task.call writerId ourAddr command) ∧
      ∀ error, task.pc = .finished (.error error) → Refused (historyOf start actions taskId) := by
  have htold : Told start.config taskId (run (Watched.step taskId) actions ⟨start, .fresh⟩) := by
    refine Along.invariant (fun _ _ htold hgood => htold.step hgood)
      (along_of_forall hgenuine _) ⟨⟨rfl, hbound, ?_⟩, fun _ => rfl, ?_⟩
    · intro other found hfound
      rw [hidle] at hfound
      cases hfound
    · intro found hfound
      rw [hidle] at hfound
      cases hfound
  rw [← run_watched_system start actions taskId .fresh] at htask ⊢
  have hstory := htold.story task htask
  exact ⟨hstory.sent, hstory.failed⟩

deriving instance DecidableEq for Pc, SendTask

/-- Writer 1 turns out to be closed; the request goes to writer 2. -/
def retryRun : List Action :=
  [.start 0 lateCall, .closeChannel 1] ++ List.replicate 7 (.send 0 inOrder)

def sentTask : SendTask where
  call := lateCall
  pooled := false
  permits := 1
  routedDc := 2
  unknownTargetDc := false
  emergencyAttempts := 0
  pc := .finished (.ok ())

theorem twoWriters_boundAligned : twoWriters.BoundAligned := by
  intro connId hot hlookup
  have hbinding : twoWriters.registry.hotBinding = AList.singleton 9 ⟨1, busyMeta⟩ := rfl
  have hmem := AList.mem_lookup_iff.mp hlookup
  cases mem_singleton.mp hmem
  decide

theorem sentTask_of_run : (run System.step retryRun twoWriters).tasks 0 = some sentTask := by
  decide +kernel

theorem send_proxyReq_once_retry :
    ∃ writerId ourAddr command, Delivered twoWriters.config (run System.step retryRun twoWriters)
        (historyOf twoWriters retryRun 0) lateCall writerId ourAddr command :=
  (send_proxyReq_once twoWriters retryRun 0 (fun _ => rfl) twoWriters_boundAligned
    (by decide +kernel) sentTask sentTask_of_run).1 rfl

end TupoProxy.MiddleProxy
