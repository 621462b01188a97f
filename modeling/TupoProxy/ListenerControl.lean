import TupoProxy.AddrText
import TupoProxy.KeyedTotal
import Mathlib.Data.List.Sort

/-!
# The listeners of the process

The configuration gives a plan of TCP endpoints.  The manager owns one slot
with an accept loop for each endpoint.  A reload that moves endpoints binds the
new sockets first, then listens on them and stops the accept loops of the
endpoints that go, and only after the runtime swap starts the new accept loops.
When a step fails, the accept loops that were stopped are started again.
-/

namespace TupoProxy.Listeners

open PlainText List
open AddrText

structure ListenerConfig where
  ip : IpAddr
  port : Option ℕ
  clientMss : Option Text
  proxyProtocol : Option Bool
  reuseAllow : Bool

structure ServerConfig where
  port : ℕ
  clientMss : Option Text
  clientMssBulk : Option Text
  proxyProtocol : Bool
  listenBacklog : ℕ
  listeners : List ListenerConfig

structure NetworkConfig where
  ipv4 : Bool
  ipv6 : Option Bool
  dnsOverrides : List Text

structure ListenOptions where
  reusePort : Bool
  backlog : ℕ
  ipv6Only : Bool
  clientMss : Option ℕ
  deriving DecidableEq

structure ListenerBindSpec where
  addr : SocketAddr
  options : ListenOptions
  proxyProtocol : Bool
  tlsResponseFragmentSize : Option ℕ
  deriving DecidableEq

abbrev BindPlan := Table SocketAddr ListenerBindSpec

def socketText (addr : SocketAddr) : Text :=
  match addr.ip with
  | .v4 a b c d => ipv4Text a b c d ++ ':' :: portText addr.port
  | .v6 octets => '[' :: ipText (.v6 octets) ++ ']' :: ':' :: portText addr.port

def clientMssExtremeLow : ℕ := 88
def clientMssTspu : ℕ := 92
def clientMss2in8 : ℕ := 256
def clientMssMin : ℕ := clientMssExtremeLow
def clientMssMax : ℕ := 4096

def parseClientMss (parser : AddrParser) : Option Text → Except Text (Option ℕ)
  | none => .ok none
  | some raw =>
    let value := trim raw
    let lower := toAsciiLowercase value
    if value = [] then .ok none
    else if lower = "extreme-low".toList then .ok (some clientMssExtremeLow)
    else if lower = "tspu".toList then .ok (some clientMssTspu)
    else if lower = "2in8".toList then .ok (some clientMss2in8)
    else
      match parser.parsePort value with
      | none =>
        .error "must be \"\", extreme-low, tspu, 2in8, or a decimal value".toList
      | some parsed =>
        if clientMssMin ≤ parsed ∧ parsed ≤ clientMssMax then .ok (some parsed)
        else .error "custom value must be within [88, 4096]".toList

def ListenerConfig.effectiveClientMss (parser : AddrParser) (listener : ListenerConfig)
    (server : ServerConfig) : Except Text (Option ℕ) :=
  match listener.clientMss with
  | some value => parseClientMss parser (some value)
  | none => parseClientMss parser server.clientMss

def tcpMssRuntimeProfile : Option ℕ → Option ℕ → Option ℕ × Option ℕ
  | some fragmentSize, some listenerMss => (some listenerMss, some fragmentSize)
  | listenerMss, none => (listenerMss, none)
  | none, some _ => (none, none)

def bindSpec (server : ServerConfig) (listener : ListenerConfig) (addr : SocketAddr)
    (configured bulk : Option ℕ) : ListenerBindSpec :=
  let profile := tcpMssRuntimeProfile configured bulk
  { addr
    options :=
      { reusePort := listener.reuseAllow
        backlog := server.listenBacklog
        ipv6Only := !listener.ip.isV4
        clientMss := profile.1 }
    proxyProtocol := listener.proxyProtocol.getD server.proxyProtocol
    tlsResponseFragmentSize := profile.2 }

def planListener (parser : AddrParser) (server : ServerConfig) (network : NetworkConfig)
    (bulk : Option ℕ) (plan : BindPlan) (listener : ListenerConfig) :
    Except Text BindPlan :=
  let addr : SocketAddr := ⟨listener.ip, listener.port.getD server.port⟩
  if addr.ip.isV4 = true ∧ network.ipv4 = false then .ok plan
  else if addr.ip.isV4 = false ∧ network.ipv6 = some false then .ok plan
  else
    match listener.effectiveClientMss parser server with
    | .error error =>
      .error ("invalid client MSS for listener ".toList ++ socketText addr ++
        ": ".toList ++ error)
    | .ok configured =>
      if (plan.lookup addr).isSome then
        .error ("duplicate effective listener endpoint: ".toList ++ socketText addr)
      else .ok (plan.insert addr (bindSpec server listener addr configured bulk))

def listenerBindPlan (parser : AddrParser) (server : ServerConfig)
    (network : NetworkConfig) : Except Text BindPlan :=
  match parseClientMss parser server.clientMssBulk with
  | .error error => .error ("invalid server.client_mss_bulk: ".toList ++ error)
  | .ok bulk => server.listeners.foldlM (planListener parser server network bulk) ∅

/-- What became of a spawned accept loop. -/
inductive AcceptLoop where
  | accepting
  | returned
  | panicked (report : Text)
  deriving DecidableEq

structure ListenerSlot where
  spec : ListenerBindSpec
  cancelled : Bool
  task : Option AcceptLoop
  deriving DecidableEq

namespace ListenerSlot

def start (spec : ListenerBindSpec) : ListenerSlot := ⟨spec, false, some .accepting⟩

def accepting (slot : ListenerSlot) : Bool :=
  slot.task = some .accepting && !slot.cancelled

/-- How the join of the accept loop fails.  A loop that is running when it is
cancelled returns, unless it panics on the way out. -/
def joinError (panic : Option Text) (slot : ListenerSlot) : Option Text :=
  match slot.task with
  | some (.panicked report) => some report
  | some .accepting => panic
  | _ => none

def stop (panic : Option Text) (slot : ListenerSlot) : Except Text Unit × ListenerSlot :=
  (match slot.joinError panic with
    | some report =>
      .error ("listener ".toList ++ socketText slot.spec.addr ++
        " task failed: ".toList ++ report)
    | none => .ok (),
    { slot with cancelled := true, task := none })

def restart (slot : ListenerSlot) : ListenerSlot :=
  { slot with cancelled := false, task := some .accepting }

theorem restart_accepting (slot : ListenerSlot) : slot.restart.accepting = true := rfl

end ListenerSlot

abbrev Slots := Table SocketAddr ListenerSlot

structure ListenerManager where
  slots : Slots

structure PreparedListenerTransition where
  additions : List ListenerBindSpec
  removals : List SocketAddr

/-- What the operating system answers when sockets are bound and put into the
listening state, and which accept loops panic while they are stopped. -/
structure SocketCalls where
  bindError : SocketAddr → Option Text
  listenError : SocketAddr → Option Text
  panic : SocketAddr → Option Text

/-- The order of addresses in an ordered map: v4 before v6, then the address,
then the port. -/
def sortKey (addr : SocketAddr) : List ℕ :=
  match addr.ip with
  | .v4 a b c d => [0, a.toNat, b.toNat, c.toNat, d.toNat, addr.port]
  | .v6 octets => 1 :: octets.val.map (·.toNat) ++ [addr.port]

def ascending (addrs : List SocketAddr) : List SocketAddr :=
  addrs.insertionSort fun left right => sortKey left ≤ sortKey right

namespace ListenerManager

variable (calls : SocketCalls)

def accepting (manager : ListenerManager) : Finset SocketAddr :=
  (manager.slots.keys.filter fun addr =>
    (manager.slots.lookup addr).any ListenerSlot.accepting).toFinset

def prepareListener (spec : ListenerBindSpec) : Except Text ListenerBindSpec :=
  match calls.bindError spec.addr with
  | some error =>
    .error ("failed to prepare listener ".toList ++ socketText spec.addr ++
      ": ".toList ++ error)
  | none => .ok spec

def policyChanged (plan : BindPlan) (manager : ListenerManager) (addr : SocketAddr) :
    Bool :=
  (manager.slots.lookup addr).any fun slot => plan.lookup addr ≠ some slot.spec

/-- Bind the added endpoints.  The active slots are not touched. -/
def prepareTransition (plan : Except Text BindPlan) (manager : ListenerManager) :
    Except Text (Option PreparedListenerTransition) := do
  let plan ← plan
  let current := manager.slots.keys
  let target := plan.keys
  if current.toFinset = target.toFinset ∧
      ∀ addr ∈ current, manager.policyChanged plan addr = false then
    return none
  match (ascending (current.filter (· ∈ target))).find? (manager.policyChanged plan) with
  | some addr =>
    throw ("listener ".toList ++ socketText addr ++
      (" bind policy changed at the same endpoint; process restart required").toList)
  | none =>
    let added := (ascending (target.filter (· ∉ current))).filterMap plan.lookup
    let additions ← added.mapM (prepareListener calls)
    return some ⟨additions, ascending (current.filter (· ∉ target))⟩

def activate (spec : ListenerBindSpec) : Except Text ListenerBindSpec :=
  match calls.listenError spec.addr with
  | some error => .error ("failed to activate prepared listener: ".toList ++ error)
  | none => .ok spec

def restartSlot (slots : Slots) (addr : SocketAddr) : Slots :=
  match slots.lookup addr with
  | none => slots
  | some slot => slots.insert addr slot.restart

/-- Stop the accept loops of the removed endpoints one after another.  The
removals come from the active slots, so every one of them is found. -/
def stopRemovals (stopped : List SocketAddr) :
    List SocketAddr → Slots → Except Text Unit × Slots
  | [], slots => (.ok (), slots)
  | addr :: rest, slots =>
    match slots.lookup addr with
    | none => stopRemovals stopped rest slots
    | some slot =>
      let stopping := slot.stop (calls.panic addr)
      let slots := slots.insert addr stopping.2
      match stopping.1 with
      | .error error =>
        (.error error, restartSlot (stopped.foldl restartSlot slots) addr)
      | .ok () => stopRemovals (stopped ++ [addr]) rest slots

def beginTransition (prepared : PreparedListenerTransition) (manager : ListenerManager) :
    Except Text Unit × ListenerManager :=
  match prepared.additions.mapM (activate calls) with
  | .error error => (.error error, manager)
  | .ok _ =>
    let stopping := stopRemovals calls [] prepared.removals manager.slots
    (stopping.1, ⟨stopping.2⟩)

def finishTransition (prepared : PreparedListenerTransition) (manager : ListenerManager) :
    ListenerManager where
  slots :=
    prepared.additions.foldl (fun slots spec => slots.insert spec.addr (.start spec))
      (prepared.removals.foldl (fun slots addr => slots.erase addr) manager.slots)

/-! ## A transition that fails -/

/-- The removed endpoints with a slot, up to the first one whose accept loop cannot be
joined. -/
def stoppedFirst (slots : Slots) : List SocketAddr → List SocketAddr
  | [] => []
  | addr :: rest =>
    match slots.lookup addr with
    | none => stoppedFirst slots rest
    | some slot =>
      match slot.joinError (calls.panic addr) with
      | some _ => [addr]
      | none => addr :: stoppedFirst slots rest

/-- The endpoints whose accept loops a failing transition stops and starts again. -/
def restarted (prepared : PreparedListenerTransition) (manager : ListenerManager) :
    List SocketAddr :=
  match prepared.additions.mapM (activate calls) with
  | .error _ => []
  | .ok _ => stoppedFirst calls manager.slots prepared.removals

def Accepts (slots : Slots) (addr : SocketAddr) : Prop :=
  ∃ slot, slots.lookup addr = some slot ∧ slot.accepting = true

variable {calls} {manager : ListenerManager} {slots : Slots} {addr other : SocketAddr}

theorem mem_accepting : addr ∈ manager.accepting ↔ Accepts manager.slots addr := by
  simp only [accepting, mem_toFinset, mem_filter, Option.any_eq_true]
  constructor
  · exact fun hmem => hmem.2
  · rintro ⟨slot, hlookup, haccepting⟩
    have hkey : addr ∈ manager.slots := by
      apply AList.lookup_isSome.mp
      rw [hlookup]
      rfl
    exact ⟨hkey, slot, hlookup, haccepting⟩

theorem accepts_insert_ne (hother : other ≠ addr) (slot : ListenerSlot) :
    Accepts (slots.insert addr slot) other ↔ Accepts slots other := by
  rw [Accepts, AList.lookup_insert_ne hother, Accepts]

theorem mem_restartSlot : other ∈ restartSlot slots addr ↔ other ∈ slots := by
  unfold restartSlot
  cases hlookup : slots.lookup addr with
  | none => rfl
  | some slot =>
    have hmem : addr ∈ slots := AList.lookup_isSome.mp (Option.isSome_of_mem hlookup)
    rw [AList.mem_insert]
    exact ⟨fun hin => hin.elim (fun heq => heq ▸ hmem) fun hold => hold, Or.inr⟩

theorem mem_foldl_restartSlot (stopped : List SocketAddr) :
    other ∈ stopped.foldl restartSlot slots ↔ other ∈ slots := by
  induction stopped generalizing slots with
  | nil => rfl
  | cons addr stopped ih => rw [foldl_cons, ih, mem_restartSlot]

theorem accepts_restartSlot :
    Accepts (restartSlot slots addr) other ↔
      Accepts slots other ∨ (other = addr ∧ other ∈ slots) := by
  unfold restartSlot
  by_cases hother : other = addr
  · subst hother
    cases hlookup : slots.lookup other with
    | none =>
      have hmem : other ∉ slots := AList.lookup_eq_none.mp hlookup
      simp [hmem]
    | some slot =>
      have hmem : other ∈ slots := AList.lookup_isSome.mp (Option.isSome_of_mem hlookup)
      exact iff_of_true ⟨_, AList.lookup_insert _, slot.restart_accepting⟩ (.inr ⟨rfl, hmem⟩)
  · cases slots.lookup addr with
    | none => simp [hother]
    | some slot => simp [hother, accepts_insert_ne hother]

theorem accepts_foldl_restartSlot (stopped : List SocketAddr) :
    Accepts (stopped.foldl restartSlot slots) other ↔
      Accepts slots other ∨ (other ∈ stopped ∧ other ∈ slots) := by
  induction stopped generalizing slots with
  | nil => simp
  | cons addr stopped ih =>
    rw [foldl_cons, ih, accepts_restartSlot, mem_restartSlot, mem_cons]
    tauto

/-- A slot whose accept loop was joined is passed over when it comes again. -/
theorem stoppedFirst_insert {slot : ListenerSlot} (hlookup : slots.lookup addr = some slot)
    (hjoin : slot.joinError (calls.panic addr) = none) (removals : List SocketAddr) :
    stoppedFirst calls (slots.insert addr (slot.stop (calls.panic addr)).2) removals =
      stoppedFirst calls slots removals := by
  induction removals with
  | nil => rfl
  | cons other removals ih =>
    unfold stoppedFirst
    by_cases hother : other = addr
    · subst hother
      simp only [AList.lookup_insert, hlookup, hjoin, ih]
      rfl
    · simp only [AList.lookup_insert_ne hother, ih]

variable {removals stopped : List SocketAddr} {error : Text}

theorem stopRemovals_error
    (hstop : (stopRemovals calls stopped removals slots).1 = .error error) :
    Accepts (stopRemovals calls stopped removals slots).2 other ↔
      Accepts slots other ∨ (other ∈ stopped ∧ other ∈ slots) ∨
        other ∈ stoppedFirst calls slots removals := by
  induction removals generalizing stopped slots with
  | nil => cases hstop
  | cons addr removals ih =>
    unfold stopRemovals at hstop ⊢
    unfold stoppedFirst
    cases hlookup : slots.lookup addr with
    | none =>
      simp only [hlookup] at hstop ⊢
      exact ih hstop
    | some slot =>
      simp only [hlookup] at hstop ⊢
      have hmem : addr ∈ slots := AList.lookup_isSome.mp (Option.isSome_of_mem hlookup)
      cases hjoin : slot.joinError (calls.panic addr) with
      | some report =>
        obtain ⟨failure, hresult⟩ :
            ∃ failure, (slot.stop (calls.panic addr)).1 = .error failure := by
          rw [ListenerSlot.stop, hjoin]
          exact ⟨_, rfl⟩
        simp only [hresult]
        rw [accepts_restartSlot, accepts_foldl_restartSlot, mem_foldl_restartSlot,
          AList.mem_insert, mem_singleton]
        by_cases hother : other = addr
        · simp [hother]
        · simp [hother, accepts_insert_ne hother]
      | none =>
        have hresult : (slot.stop (calls.panic addr)).1 = .ok () := by
          rw [ListenerSlot.stop, hjoin]
        simp only [hresult] at hstop ⊢
        rw [ih hstop, stoppedFirst_insert hlookup hjoin, mem_append, mem_singleton, mem_cons,
          AList.mem_insert]
        by_cases hother : other = addr
        · simp [hother]
        · simp [hother, accepts_insert_ne hother]

/-- A failing transition leaves every accept loop as it was and those running that it
stopped on the way. -/
theorem beginTransition_error {prepared : PreparedListenerTransition}
    (hbegin : (beginTransition calls prepared manager).1 = .error error) :
    (beginTransition calls prepared manager).2.accepting =
      manager.accepting ∪ (restarted calls prepared manager).toFinset := by
  unfold beginTransition restarted at *
  cases hadditions : prepared.additions.mapM (activate calls) with
  | error failure => simp
  | ok additions =>
    simp only [hadditions] at hbegin ⊢
    ext addr
    rw [Finset.mem_union, mem_accepting, mem_accepting, stopRemovals_error hbegin, mem_toFinset]
    simp

end ListenerManager
end TupoProxy.Listeners
