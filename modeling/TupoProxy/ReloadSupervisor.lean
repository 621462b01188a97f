import TupoProxy.DnsOverrides
import TupoProxy.ListenerControl

/-!
# The reload supervisor

A reload command builds a candidate runtime generation beside the active one
and then activates it: the DNS overrides of the process are replaced, the
listeners move to the new endpoints, and the active generation is swapped.
Every step before the swap can fail, and each exit has its own undo code.

The configuration watchers of the two generations are tasks of their own and
not part of a command.
-/

namespace TupoProxy.Reload

open PlainText
open AddrText
open DnsOverrides
open Listeners

inductive LogLevel where
  | debug
  | verbose
  | normal
  | silent
  deriving DecidableEq

def LogLevel.toFilterStr : LogLevel → String
  | .debug => "trace"
  | .verbose => "debug"
  | .normal => "info"
  | .silent => "warn"

def logFilterSpec (rustLog : Option String) (level : LogLevel) : String :=
  match rustLog, level with
  | some directives, _ => directives
  | none, .silent => "warn,tupoproxy::links=info"
  | none, level => level.toFilterStr

structure RuntimeLogFilter where
  directives : String
  attached : Bool
  deriving DecidableEq

def RuntimeLogFilter.applyReload (level : LogLevel) (filter : RuntimeLogFilter) :
    RuntimeLogFilter :=
  if filter.attached then { filter with directives := logFilterSpec none level }
  else filter

inductive ReloadMode where
  | instant
  | drain

inductive ReloadFailurePolicy where
  | keepNew
  | rollback
  deriving DecidableEq

inductive ReloadPhase where
  | accepted
  | preparing
  | activating
  | draining
  | succeeded
  | rolledBack
  | failed
  deriving DecidableEq

structure ProxyConfig where
  logLevel : LogLevel
  network : NetworkConfig
  server : ServerConfig

structure ReloadRequest where
  mode : ReloadMode
  failurePolicy : ReloadFailurePolicy

structure ReloadCommand where
  targetGeneration : ℕ
  config : ProxyConfig
  configRevision : Text
  request : ReloadRequest

structure ReloadStatus where
  state : ReloadPhase
  warnings : List Text
  error : Option Text

inductive RevisionGateAction where
  | proceed
  | warn (warning : Text)
  | rollback (warning : Text)

def revisionGateAction (acceptedRevision : Text) (currentRevision : Except Text Text)
    (failurePolicy : ReloadFailurePolicy) : RevisionGateAction :=
  let gate (warning : Text) : RevisionGateAction :=
    match failurePolicy with
    | .keepNew => .warn warning
    | .rollback => .rollback warning
  match currentRevision with
  | .ok current =>
    if current = acceptedRevision then .proceed
    else gate ("config revision changed during preparation: accepted=".toList ++
      acceptedRevision ++ " current=".toList ++ current)
  | .error error => gate ("config revision verification failed: ".toList ++ error)

structure RuntimeGeneration where
  id : ℕ
  config : ProxyConfig
  accepting : Bool

structure Process where
  active : RuntimeGeneration
  listeners : ListenerManager
  dns : Store
  logFilter : RuntimeLogFilter

structure Reloading where
  process : Process
  status : ReloadStatus

namespace Reloading

def markPhase (phase : ReloadPhase) (reloading : Reloading) : Reloading :=
  { reloading with status := { reloading.status with state := phase } }

def addWarning (warning : Text) (reloading : Reloading) : Reloading :=
  { reloading with
    status := { reloading.status with warnings := reloading.status.warnings ++ [warning] } }

def finish (phase : ReloadPhase) (error : Option Text) (reloading : Reloading) : Reloading :=
  { reloading with status := { reloading.status with state := phase, error := error } }

def fail (error : Text) : Reloading → Reloading := finish .failed (some error)

def rolledBack (error : Text) : Reloading → Reloading := finish .rolledBack (some error)

def succeed : Reloading → Reloading := finish .succeeded none

def applyReload (level : LogLevel) (reloading : Reloading) : Reloading :=
  { reloading with
    process :=
      { reloading.process with
        logFilter := reloading.process.logFilter.applyReload level } }

def resumeAcceptingSessions (reloading : Reloading) : Reloading :=
  { reloading with
    process :=
      { reloading.process with
        active := { reloading.process.active with accepting := true } } }

end Reloading

structure Surroundings where
  /-- A failure of the network probe, the TLS front or the middle-end pool. -/
  preparation : Option Text
  calls : SocketCalls
  currentRevision : Except Text Text
  drained : Bool
  closeTimedOut : Bool

section Supervisor

variable (parser : AddrParser) (resolveReloadConfig : ProxyConfig → ProxyConfig → ProxyConfig)
  (surroundings : Surroundings) (command : ReloadCommand)

def prepareRuntime (config : ProxyConfig) : Except Text RuntimeGeneration :=
  match parseEntries parser config.network.dnsOverrides, surroundings.preparation with
  | .error error, _ => .error ("DNS override preparation failed: ".toList ++ error)
  | .ok _, some error => .error error
  | .ok _, none => .ok ⟨command.targetGeneration, config, true⟩

/-- Wait for the sessions of the replaced generation, or stop them. -/
def retire (replaced : ℕ) (reloading : Reloading) : Reloading :=
  let waited :=
    match command.request.mode with
    | .instant => reloading
    | .drain =>
      let draining := reloading.markPhase .draining
      if surroundings.drained then draining
      else draining.addWarning ("generation ".toList ++ decimal replaced ++
        " exceeded drain timeout; remaining sessions were cancelled".toList)
  let closed :=
    if surroundings.closeTimedOut then
      waited.addWarning ("generation ".toList ++ decimal replaced ++
        " Middle-End close broadcast timed out".toList)
    else waited
  closed.succeed

def publish (candidate : RuntimeGeneration) (pending : Option PreparedListenerTransition)
    (reloading : Reloading) : Reloading :=
  let process := reloading.process
  let listeners :=
    match pending with
    | some prepared => process.listeners.finishTransition prepared
    | none => process.listeners
  let swapped : Process := { process with active := candidate, listeners := listeners }
  retire surroundings command process.active.id
    (Reloading.applyReload candidate.config.logLevel ⟨swapped, reloading.status⟩)

def switchListeners (candidate : RuntimeGeneration)
    (transition : Option PreparedListenerTransition) (reloading : Reloading) : Reloading :=
  match transition with
  | none => publish surroundings command candidate none reloading
  | some prepared =>
    let process := reloading.process
    let begun := process.listeners.beginTransition surroundings.calls prepared
    let moved : Reloading := ⟨{ process with listeners := begun.2 }, reloading.status⟩
    match begun.1 with
    | .ok () => publish surroundings command candidate (some prepared) moved
    | .error error => (moved.applyReload process.active.config.logLevel).fail error

def activate (candidate : RuntimeGeneration)
    (transition : Option PreparedListenerTransition) (reloading : Reloading) : Reloading :=
  let activating := reloading.markPhase .activating
  let process := activating.process
  match installEntries parser candidate.config.network.dnsOverrides process.dns with
  | .ok installed =>
    switchListeners surroundings command candidate transition
      ⟨{ process with dns := installed }, activating.status⟩
  | .error error =>
    let message := "runtime DNS activation failed: ".toList ++ error
    match command.request.failurePolicy with
    | .rollback =>
      (activating.resumeAcceptingSessions.applyReload
        process.active.config.logLevel).rolledBack message
    | .keepNew =>
      switchListeners surroundings command candidate transition
        (activating.addWarning message)

def activatePreparedWithTransition (candidate : RuntimeGeneration)
    (transition : Option PreparedListenerTransition) (action : RevisionGateAction)
    (reloading : Reloading) : Reloading :=
  match action with
  | .proceed => activate parser surroundings command candidate transition reloading
  | .warn warning =>
    activate parser surroundings command candidate transition
      (reloading.addWarning warning)
  | .rollback warning =>
    (reloading.applyReload reloading.process.active.config.logLevel).rolledBack warning

def reload (process : Process) : Reloading :=
  let preparing : Reloading := ⟨process, .preparing, [], none⟩
  let effective := resolveReloadConfig process.active.config command.config
  match prepareRuntime parser surroundings command effective with
  | .error error => preparing.fail error
  | .ok candidate =>
    match process.listeners.prepareTransition surroundings.calls
        (listenerBindPlan parser candidate.config.server candidate.config.network) with
    | .error error =>
      (preparing.applyReload process.active.config.logLevel).fail error
    | .ok transition =>
      activatePreparedWithTransition parser surroundings command candidate transition
        (revisionGateAction command.configRevision surroundings.currentRevision
          command.request.failurePolicy) preparing

end Supervisor

/-! ## A command that does not succeed -/

def ReloadStatus.Unsuccessful (status : ReloadStatus) : Prop :=
  status.state = .failed ∨ status.state = .rolledBack

/-- The two processes serve clients in the same way: the active generation and
whether it accepts sessions, the endpoints with a running accept loop, the DNS
overrides and the log filter. -/
structure Unchanged (before after : Process) : Prop where
  active : after.active = before.active
  listeners : after.listeners.accepting = before.listeners.accepting
  dns : ∀ key, after.dns.entries.lookup key = before.dns.entries.lookup key
  logFilter : after.logFilter = before.logFilter

/-- The log filter is the one of the active configuration, or it cannot be changed. -/
def Process.KeepsFilter (process : Process) : Prop :=
  process.logFilter.attached = true →
    process.logFilter.directives = logFilterSpec none process.active.config.logLevel

/-- The accept loops that a failing transition starts again were running. -/
def Process.RestartsRunning (calls : SocketCalls)
    (transition : Option PreparedListenerTransition) (process : Process) : Prop :=
  ∀ prepared ∈ transition, ∀ addr ∈ process.listeners.restarted calls prepared,
    addr ∈ process.listeners.accepting

section Undone

variable (parser : AddrParser) (resolveReloadConfig : ProxyConfig → ProxyConfig → ProxyConfig)
  (surroundings : Surroundings) (command : ReloadCommand)

/-- What a process needs, besides its log filter, for a failing activation to leave it as it
was: for the roll back after a refused installation, that it accepts sessions; for a failing
transition, that the accept loops it starts again were running and the entries that were
installed before change nothing. -/
def Process.ActivationUndone (candidate : RuntimeGeneration)
    (transition : Option PreparedListenerTransition) (process : Process) : Prop :=
  match installEntries parser candidate.config.network.dnsOverrides process.dns with
  | .ok installed =>
    (∀ key, installed.entries.lookup key = process.dns.entries.lookup key) ∧
      process.RestartsRunning surroundings.calls transition
  | .error _ =>
    match command.request.failurePolicy with
    | .rollback => process.active.accepting = true
    | .keepNew => process.RestartsRunning surroundings.calls transition

/-- What a process needs for a failing command to leave it as it was, by the exit that the
command takes: a failed preparation needs nothing, the later ones restore the log filter. -/
def Process.ReloadUndone (process : Process) : Prop :=
  match prepareRuntime parser surroundings command
      (resolveReloadConfig process.active.config command.config) with
  | .error _ => True
  | .ok candidate =>
    process.KeepsFilter ∧
      match process.listeners.prepareTransition surroundings.calls
          (listenerBindPlan parser candidate.config.server candidate.config.network) with
      | .error _ => True
      | .ok transition =>
        match revisionGateAction command.configRevision surroundings.currentRevision
            command.request.failurePolicy with
        | .rollback _ => True
        | .proceed | .warn _ =>
          process.ActivationUndone parser surroundings command candidate transition

end Undone

variable {parser : AddrParser} {resolveReloadConfig : ProxyConfig → ProxyConfig → ProxyConfig}
  {surroundings : Surroundings} {command : ReloadCommand} {candidate : RuntimeGeneration}
  {transition : Option PreparedListenerTransition} {process : Process}

theorem applyReload_eq_iff :
    process.logFilter.applyReload process.active.config.logLevel = process.logFilter ↔
      process.KeepsFilter := by
  obtain ⟨active, listeners, dns, directives, attached⟩ := process
  cases attached with
  | false => simp [RuntimeLogFilter.applyReload, Process.KeepsFilter]
  | true => simp [RuntimeLogFilter.applyReload, Process.KeepsFilter, eq_comm]

theorem unchanged_applyReload :
    Unchanged process
        { process with
          logFilter := process.logFilter.applyReload process.active.config.logLevel } ↔
      process.KeepsFilter :=
  ⟨fun hsame => applyReload_eq_iff.mp hsame.logFilter,
    fun hkeeps => ⟨rfl, rfl, fun _ => rfl, applyReload_eq_iff.mpr hkeeps⟩⟩

theorem publish_succeeded (pending : Option PreparedListenerTransition) (reloading : Reloading) :
    ¬ (publish surroundings command candidate pending reloading).status.Unsuccessful := by
  rintro (hfailed | hrolledBack)
  · cases hfailed
  · cases hrolledBack

theorem switchListeners_unsuccessful {reloading : Reloading}
    (hended : (switchListeners surroundings command candidate transition
      reloading).status.Unsuccessful) :
    ∃ prepared error, let begun :=
        reloading.process.listeners.beginTransition surroundings.calls prepared
      transition = some prepared ∧ begun.1 = .error error ∧
        (switchListeners surroundings command candidate transition reloading).process =
          { reloading.process with
            listeners := begun.2
            logFilter := reloading.process.logFilter.applyReload
              reloading.process.active.config.logLevel } := by
  unfold switchListeners at hended ⊢
  cases transition with
  | none => exact absurd hended (publish_succeeded none reloading)
  | some prepared =>
    cases hbegun : (reloading.process.listeners.beginTransition surroundings.calls prepared).1 with
    | ok done =>
      simp only [hbegun] at hended
      exact absurd hended (publish_succeeded (some prepared) _)
    | error error =>
      refine ⟨prepared, error, rfl, hbegun, ?_⟩
      simp only [hbegun]
      rfl

theorem switchListeners_unchanged {status : ReloadStatus} {dns : Store}
    (hended : (switchListeners surroundings command candidate transition
      ⟨{ process with dns := dns }, status⟩).status.Unsuccessful) :
    Unchanged process (switchListeners surroundings command candidate transition
        ⟨{ process with dns := dns }, status⟩).process ↔
      process.KeepsFilter ∧ (∀ key, dns.entries.lookup key = process.dns.entries.lookup key) ∧
        process.RestartsRunning surroundings.calls transition := by
  obtain ⟨prepared, error, rfl, hbegun, hprocess⟩ := switchListeners_unsuccessful hended
  have hlisteners := ListenerManager.beginTransition_error hbegun
  rw [hprocess]
  constructor
  · intro hsame
    refine ⟨applyReload_eq_iff.mp hsame.logFilter, hsame.dns, ?_⟩
    rintro _ ⟨⟩ addr haddr
    rw [← hsame.listeners]
    exact hlisteners ▸ Finset.mem_union_right _ (List.mem_toFinset.mpr haddr)
  · rintro ⟨hfilter, hdns, hrunning⟩
    refine ⟨rfl, hlisteners.trans (Finset.union_eq_left.mpr ?_), hdns,
      applyReload_eq_iff.mpr hfilter⟩
    intro addr haddr
    exact hrunning prepared rfl addr (List.mem_toFinset.mp haddr)

theorem activate_unchanged {status : ReloadStatus}
    (hended : (activate parser surroundings command candidate transition
      ⟨process, status⟩).status.Unsuccessful) :
    Unchanged process
        (activate parser surroundings command candidate transition ⟨process, status⟩).process ↔
      process.KeepsFilter ∧
        process.ActivationUndone parser surroundings command candidate transition := by
  unfold activate at hended ⊢
  unfold Process.ActivationUndone
  simp only [Reloading.markPhase] at hended ⊢
  cases hinstall : installEntries parser candidate.config.network.dnsOverrides process.dns with
  | ok installed =>
    simp only [hinstall] at hended ⊢
    exact switchListeners_unchanged hended
  | error error =>
    simp only [hinstall] at hended ⊢
    cases hpolicy : command.request.failurePolicy with
    | rollback =>
      constructor
      · intro hsame
        exact ⟨applyReload_eq_iff.mp hsame.logFilter,
          congrArg RuntimeGeneration.accepting hsame.active.symm⟩
      · rintro ⟨hfilter, haccepting⟩
        refine ⟨?_, rfl, fun _ => rfl, applyReload_eq_iff.mpr hfilter⟩
        exact congrArg (RuntimeGeneration.mk _ _) haccepting.symm
    | keepNew =>
      simp only [hpolicy] at hended ⊢
      exact (switchListeners_unchanged hended).trans
        (and_congr_right fun _ => and_iff_right fun _ => rfl)

/-- A command that ends as failed or rolled back leaves the active generation and its
admission, the accepting endpoints, the DNS overrides and the log filter as they were
exactly when the process meets the condition of the exit that the command took. -/
theorem reload_unchanged (parser : AddrParser)
    (resolveReloadConfig : ProxyConfig → ProxyConfig → ProxyConfig)
    (surroundings : Surroundings) (command : ReloadCommand) (process : Process)
    (hended : (reload parser resolveReloadConfig surroundings command
      process).status.Unsuccessful) :
    Unchanged process
        (reload parser resolveReloadConfig surroundings command process).process ↔
      process.ReloadUndone parser resolveReloadConfig surroundings command := by
  unfold reload at hended ⊢
  unfold Process.ReloadUndone
  cases hprepare : prepareRuntime parser surroundings command
      (resolveReloadConfig process.active.config command.config) with
  | error error =>
    simp only [hprepare]
    exact iff_of_true ⟨rfl, rfl, fun _ => rfl, rfl⟩ trivial
  | ok candidate =>
    simp only [hprepare] at hended ⊢
    cases htransition : process.listeners.prepareTransition surroundings.calls
        (listenerBindPlan parser candidate.config.server candidate.config.network) with
    | error error => exact unchanged_applyReload.trans (and_iff_left trivial).symm
    | ok transition =>
      simp only [htransition] at hended ⊢
      unfold activatePreparedWithTransition at hended ⊢
      cases haction : revisionGateAction command.configRevision surroundings.currentRevision
          command.request.failurePolicy with
      | proceed | warn =>
        simp only [haction] at hended ⊢
        exact activate_unchanged hended
      | rollback warning => exact unchanged_applyReload.trans (and_iff_left trivial).symm

def endpoint (port : ℕ) : SocketAddr := ⟨.v4 10 0 0 1, port⟩

def listenAt (ports : List ℕ) : ServerConfig where
  port := 443
  clientMss := none
  clientMssBulk := none
  proxyProtocol := false
  listenBacklog := 1024
  listeners := ports.map fun port => ⟨(endpoint port).ip, some port, none, none, false⟩

def configured (ports : List ℕ) (dnsOverrides : List String) : ProxyConfig where
  logLevel := .normal
  network := ⟨true, none, dnsOverrides.map String.toList⟩
  server := listenAt ports

def startSlots (plan : BindPlan) : Slots :=
  plan.entries.foldl (fun slots row => slots.insert row.1 (.start row.2)) ∅

def serving (config : ProxyConfig) : Process where
  active := ⟨1, config, true⟩
  listeners := ⟨(listenerBindPlan standardParser config.server config.network).toOption.elim ∅
    startSlots⟩
  dns := ⟨(parseEntries standardParser config.network.dnsOverrides).toOption.getD ∅, false⟩
  logFilter := ⟨logFilterSpec none config.logLevel, true⟩

def move (config : ProxyConfig) (policy : ReloadFailurePolicy) : ReloadCommand where
  targetGeneration := 2
  config := config
  configRevision := "b7".toList
  request := ⟨.instant, policy⟩

def twoEndpoints : Process := serving (configured [443, 8443] ["tg.test:443:10.0.0.9"])

/-- The accept loop of the second endpoint panics while it is stopped. -/
def acceptLoopPanics : Surroundings where
  preparation := none
  calls := ⟨fun _ => none, fun _ => none,
    fun addr => if addr = endpoint 8443 then some "panicked".toList else none⟩
  currentRevision := .ok "b7".toList
  drained := true
  closeTimedOut := false

/-- An accept loop panics while it is stopped, and the DNS overrides stay the same. -/
theorem reload_unchanged_accept_panic :
    let ended := reload standardParser (fun _ desired => desired) acceptLoopPanics
      (move (configured [9443] ["tg.test:443:10.0.0.9"]) .keepNew) twoEndpoints
    ended.status.state = .failed ∧ Unchanged twoEndpoints ended.process := by
  intro ended
  have hfailed : ended.status.state = .failed := by decide +kernel
  refine ⟨hfailed, (reload_unchanged standardParser _ acceptLoopPanics _ twoEndpoints
    (.inl hfailed)).mpr ⟨fun _ => rfl, fun _ => rfl, ?_⟩⟩
  rintro _ ⟨⟩
  decide +kernel

/-- The new endpoint cannot be put into the listening state. -/
def listenFails : Surroundings where
  preparation := none
  calls := ⟨fun _ => none,
    fun addr => if addr = endpoint 9443 then some "Address in use".toList else none,
    fun _ => none⟩
  currentRevision := .ok "b7".toList
  drained := true
  closeTimedOut := false

/-- The DNS overrides of the refused configuration stay installed. -/
theorem reload_failed_installs_dns :
    twoEndpoints.active.accepting = true ∧
      twoEndpoints.listeners.accepting = {endpoint 443, endpoint 8443} ∧
      twoEndpoints.dns.entries.lookup ("tg.test".toList, 443) = some (.v4 10 0 0 9) ∧
      ∀ policy : ReloadFailurePolicy,
        let ended := reload standardParser (fun _ desired => desired) listenFails
          (move (configured [9443] ["tg.test:443:10.0.0.7"]) policy) twoEndpoints
        ended.status.state = .failed ∧ ended.process.active.id = 1 ∧
          ended.process.dns.entries.lookup ("tg.test".toList, 443) =
            some (.v4 10 0 0 7) := by
  refine ⟨rfl, by decide +kernel, by decide +kernel, ?_⟩
  intro policy
  cases policy with
  | keepNew => decide +kernel
  | rollback => decide +kernel

end TupoProxy.Reload
