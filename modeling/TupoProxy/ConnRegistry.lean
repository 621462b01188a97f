import TupoProxy.PoolWriters

/-!
# The connection registry

The registry knows which client connections exist (the routing table), which
writers exist, and which writer each connection is bound to.  The bindings are
changed under one lock; the routing table and the hot bindings, from which a
send reads, are changed without it, so `unregister` has two parts.
-/

namespace TupoProxy.MiddleProxy

open AList

structure ConnMeta where
  targetDc : ℤ
  clientAddr : SocketAddr
  ourAddr : SocketAddr
  protoFlags : ℕ
  deriving DecidableEq

structure HotConnBinding where
  writerId : ℕ
  conn : ConnMeta
  deriving DecidableEq

structure BoundConn where
  connId : ℕ
  conn : ConnMeta
  deriving DecidableEq

structure ConnRegistry where
  routing : Finset ℕ
  writers : Finset ℕ
  hotBinding : Table ℕ HotConnBinding
  writerForConn : Table ℕ ℕ
  connsForWriter : Table ℕ (Finset ℕ)
  connMeta : Table ℕ ConnMeta
  writerIdleSinceEpochSecs : Table ℕ ℕ
  boundClientsByWriter : Table ℕ ℕ
  activeSessionsByTargetDc : Table ℤ ℕ
  lastMetaForWriter : Table ℕ ConnMeta
  nextId : ℕ

namespace ConnRegistry

def setWriterBoundCount (now writerId count : ℕ) (registry : ConnRegistry) : ConnRegistry :=
  { registry with
    boundClientsByWriter := registry.boundClientsByWriter.insert writerId count
    writerIdleSinceEpochSecs :=
      if count = 0 then
        if (registry.writerIdleSinceEpochSecs.lookup writerId).isSome then
          registry.writerIdleSinceEpochSecs
        else registry.writerIdleSinceEpochSecs.insert writerId now
      else registry.writerIdleSinceEpochSecs.erase writerId }

def raiseActiveTargetDc (targetDc : ℤ) (registry : ConnRegistry) : ConnRegistry :=
  if targetDc = 0 then registry
  else
    { registry with
      activeSessionsByTargetDc :=
        match registry.activeSessionsByTargetDc.lookup targetDc with
        | some count =>
          registry.activeSessionsByTargetDc.insert targetDc (min (count + 1) u64Max)
        | none => registry.activeSessionsByTargetDc.insert targetDc 1 }

def lowerActiveTargetDc (targetDc : ℤ) (registry : ConnRegistry) : ConnRegistry :=
  if targetDc = 0 then registry
  else
    match registry.activeSessionsByTargetDc.lookup targetDc with
    | some count =>
      if count - 1 = 0 then
        { registry with
          activeSessionsByTargetDc := registry.activeSessionsByTargetDc.erase targetDc }
      else
        { registry with
          activeSessionsByTargetDc :=
            registry.activeSessionsByTargetDc.insert targetDc (count - 1) }
    | none => registry

def register (registry : ConnRegistry) : ℕ × ConnRegistry :=
  (registry.nextId,
    { registry with
      routing := insert registry.nextId registry.routing
      nextId := (registry.nextId + 1) % 2 ^ 64 })

/-- The part of `unregister` before the lock. -/
def unregisterStart (connId : ℕ) (registry : ConnRegistry) : ConnRegistry :=
  { registry with
    routing := registry.routing.erase connId
    hotBinding := registry.hotBinding.erase connId }

def leaveWriter (now connId writerId : ℕ) (registry : ConnRegistry) : ConnRegistry :=
  match registry.connsForWriter.lookup writerId with
  | some conns =>
    setWriterBoundCount now writerId (conns.erase connId).card
      { registry with
        connsForWriter := registry.connsForWriter.insert writerId (conns.erase connId) }
  | none => setWriterBoundCount now writerId 0 registry

def dropMeta (connId : ℕ) (registry : ConnRegistry) : ConnRegistry :=
  match registry.connMeta.lookup connId with
  | some conn =>
    lowerActiveTargetDc conn.targetDc
      { registry with connMeta := registry.connMeta.erase connId }
  | none => registry

/-- The part of `unregister` under the lock. -/
def unregisterFinish (now connId : ℕ) (registry : ConnRegistry) : Option ℕ × ConnRegistry :=
  let registry := dropMeta connId registry
  match registry.writerForConn.lookup connId with
  | some writerId =>
    (some writerId,
      leaveWriter now connId writerId
        { registry with writerForConn := registry.writerForConn.erase connId })
  | none => (none, registry)

def registerWriter (now writerId : ℕ) (registry : ConnRegistry) : ConnRegistry :=
  { registry with
    connsForWriter :=
      if (registry.connsForWriter.lookup writerId).isSome then registry.connsForWriter
      else registry.connsForWriter.insert writerId ∅
    boundClientsByWriter :=
      if (registry.boundClientsByWriter.lookup writerId).isSome then
        registry.boundClientsByWriter
      else registry.boundClientsByWriter.insert writerId 0
    writerIdleSinceEpochSecs :=
      if (registry.writerIdleSinceEpochSecs.lookup writerId).isSome then
        registry.writerIdleSinceEpochSecs
      else registry.writerIdleSinceEpochSecs.insert writerId now
    writers := insert writerId registry.writers }

def markWriterIdle (now writerId : ℕ) (registry : ConnRegistry) : ConnRegistry :=
  match registry.connsForWriter.lookup writerId with
  | some conns => setWriterBoundCount now writerId conns.card registry
  | none =>
    setWriterBoundCount now writerId 0
      { registry with connsForWriter := registry.connsForWriter.insert writerId ∅ }

def unbindLost (writerId : ℕ) (state : List BoundConn × ConnRegistry) (connId : ℕ) :
    List BoundConn × ConnRegistry :=
  let registry := state.2
  let unbound := dropMeta connId
    { registry with
      writerForConn := registry.writerForConn.erase connId
      hotBinding :=
        if (registry.hotBinding.lookup connId).map HotConnBinding.writerId = some writerId then
          registry.hotBinding.erase connId
        else registry.hotBinding }
  match registry.connMeta.lookup connId with
  | some conn => (state.1 ++ [⟨connId, conn⟩], unbound)
  | none => (state.1, unbound)

/-- The connections of a writer that are still bound to it.  The source walks
the set of the writer and skips the others. -/
def connsBoundTo (writerId : ℕ) (registry : ConnRegistry) : List ℕ :=
  let conns := (registry.connsForWriter.lookup writerId).getD ∅
  (registry.writerForConn.entries.filter fun row => row.2 = writerId ∧ row.1 ∈ conns).map
    Sigma.fst

def writerLost (writerId : ℕ) (registry : ConnRegistry) : List BoundConn × ConnRegistry :=
  (registry.connsBoundTo writerId).foldl (unbindLost writerId)
    ([],
      { registry with
        writers := registry.writers.erase writerId
        lastMetaForWriter := registry.lastMetaForWriter.erase writerId
        writerIdleSinceEpochSecs := registry.writerIdleSinceEpochSecs.erase writerId
        boundClientsByWriter := registry.boundClientsByWriter.erase writerId
        connsForWriter := registry.connsForWriter.erase writerId })

def leavePrevious (now connId writerId : ℕ) (registry : ConnRegistry) : ConnRegistry :=
  match registry.writerForConn.lookup connId with
  | some previous =>
    if previous ≠ writerId then leaveWriter now connId previous registry else registry
  | none => registry

def joinWriter (now connId writerId : ℕ) (registry : ConnRegistry) : ConnRegistry :=
  let conns := insert connId ((registry.connsForWriter.lookup writerId).getD ∅)
  setWriterBoundCount now writerId conns.card
    { registry with connsForWriter := registry.connsForWriter.insert writerId conns }

def setMeta (connId : ℕ) (conn : ConnMeta) (registry : ConnRegistry) : ConnRegistry :=
  { registry with connMeta := registry.connMeta.insert connId conn }

def setBinding (connId writerId : ℕ) (conn : ConnMeta) (registry : ConnRegistry) :
    ConnRegistry :=
  { registry with
    writerForConn := registry.writerForConn.insert connId writerId
    lastMetaForWriter := registry.lastMetaForWriter.insert writerId conn
    hotBinding := registry.hotBinding.insert connId ⟨writerId, conn⟩ }

def bindWriter (now connId writerId : ℕ) (conn : ConnMeta) (registry : ConnRegistry) :
    Bool × ConnRegistry :=
  if connId ∉ registry.routing then (false, registry)
  else if writerId ∉ registry.writers then (false, registry)
  else
    let registry := leavePrevious now connId writerId registry
    let registry := setMeta connId conn (dropMeta connId registry)
    let registry := raiseActiveTargetDc conn.targetDc registry
    let registry := joinWriter now connId writerId registry
    (true, setBinding connId writerId conn registry)

def getWriterWithMeta (connId : ℕ) (registry : ConnRegistry) : Option (ℕ × ConnMeta) :=
  if connId ∉ registry.routing then none
  else
    match registry.hotBinding.lookup connId with
    | none => none
    | some hot => if hot.writerId ∈ registry.writers then some (hot.writerId, hot.conn) else none

/-! ## What the operations leave alone -/

def bindingOf (connId : ℕ) (registry : ConnRegistry) :
    Bool × Option ℕ × Option ConnMeta × Option HotConnBinding :=
  (connId ∈ registry.routing, registry.writerForConn.lookup connId,
    registry.connMeta.lookup connId, registry.hotBinding.lookup connId)

variable {registry : ConnRegistry} {connId other : ℕ} (targetDc : ℤ)

@[simp] theorem bindingOf_raiseActiveTargetDc :
    (registry.raiseActiveTargetDc targetDc).bindingOf other = registry.bindingOf other := by
  unfold raiseActiveTargetDc
  split
  · rfl
  · rfl

@[simp] theorem bindingOf_lowerActiveTargetDc :
    (registry.lowerActiveTargetDc targetDc).bindingOf other = registry.bindingOf other := by
  unfold lowerActiveTargetDc
  split
  · rfl
  · split
    · split
      · rfl
      · rfl
    · rfl

@[simp] theorem bindingOf_leaveWriter (now writerId : ℕ) :
    (registry.leaveWriter now connId writerId).bindingOf other = registry.bindingOf other := by
  unfold leaveWriter
  split
  · rfl
  · rfl

@[simp] theorem bindingOf_leavePrevious (now writerId : ℕ) :
    (registry.leavePrevious now connId writerId).bindingOf other = registry.bindingOf other := by
  unfold leavePrevious
  split
  · split
    · exact bindingOf_leaveWriter now _
    · rfl
  · rfl

@[simp] theorem bindingOf_joinWriter (now writerId : ℕ) :
    (registry.joinWriter now connId writerId).bindingOf other = registry.bindingOf other := rfl

theorem bindingOf_dropMeta (hother : other ≠ connId) :
    (registry.dropMeta connId).bindingOf other = registry.bindingOf other := by
  unfold dropMeta
  split
  · rw [bindingOf_lowerActiveTargetDc]
    simp only [bindingOf, lookup_erase_ne hother]
  · rfl

theorem bindingOf_setMeta (conn : ConnMeta) (hother : other ≠ connId) :
    (registry.setMeta connId conn).bindingOf other = registry.bindingOf other := by
  simp only [bindingOf, setMeta, lookup_insert_ne hother]
  rfl

theorem bindingOf_setBinding (writerId : ℕ) (conn : ConnMeta) (hother : other ≠ connId) :
    (registry.setBinding connId writerId conn).bindingOf other = registry.bindingOf other := by
  simp only [bindingOf, setBinding, lookup_insert_ne hother]
  rfl

/-- Binding a connection changes the binding of no other connection. -/
theorem bindingOf_bindWriter (now writerId : ℕ) (conn : ConnMeta) (hother : other ≠ connId) :
    (registry.bindWriter now connId writerId conn).2.bindingOf other =
      registry.bindingOf other := by
  unfold bindWriter
  split
  · rfl
  · split
    · rfl
    · dsimp only
      rw [bindingOf_setBinding _ _ hother, bindingOf_joinWriter, bindingOf_raiseActiveTargetDc,
        bindingOf_setMeta _ hother, bindingOf_dropMeta hother, bindingOf_leavePrevious]

variable {now writerId : ℕ} {conn : ConnMeta}

theorem bindWriter_false (hfalse : (registry.bindWriter now connId writerId conn).1 = false) :
    connId ∉ registry.routing ∨ writerId ∉ registry.writers := by
  by_contra hboth
  rw [not_or, not_not, not_not] at hboth
  rw [bindWriter, if_neg (not_not.mpr hboth.1), if_neg (not_not.mpr hboth.2)] at hfalse
  cases hfalse

variable (state : List BoundConn × ConnRegistry)

theorem bindingOf_unbindLost (hother : other ≠ connId) :
    (unbindLost writerId state connId).2.bindingOf other = state.2.bindingOf other := by
  have hunbound : ∀ hot : Table ℕ HotConnBinding,
      hot.lookup other = state.2.hotBinding.lookup other →
      (dropMeta connId { state.2 with
        writerForConn := state.2.writerForConn.erase connId
        hotBinding := hot }).bindingOf other = state.2.bindingOf other := by
    intro hot hhot
    rw [bindingOf_dropMeta hother]
    simp only [bindingOf, lookup_erase_ne hother, hhot]
  have hhot : (if (state.2.hotBinding.lookup connId).map HotConnBinding.writerId =
        some writerId then state.2.hotBinding.erase connId
      else state.2.hotBinding).lookup other = state.2.hotBinding.lookup other := by
    split
    · exact lookup_erase_ne hother
    · rfl
  unfold unbindLost
  dsimp only
  split
  · exact hunbound _ hhot
  · exact hunbound _ hhot

theorem bindingOf_foldl_unbindLost {conns : List ℕ} (hother : other ∉ conns) :
    (conns.foldl (unbindLost writerId) state).2.bindingOf other = state.2.bindingOf other := by
  induction conns generalizing state with
  | nil => rfl
  | cons first conns ih =>
    rw [List.mem_cons, not_or] at hother
    rw [List.foldl_cons, ih _ hother.2, bindingOf_unbindLost _ hother.1]

/-- Losing a writer changes the binding of its own connections only. -/
theorem bindingOf_writerLost (hother : registry.writerForConn.lookup other ≠ some writerId) :
    (registry.writerLost writerId).2.bindingOf other = registry.bindingOf other := by
  rw [writerLost, bindingOf_foldl_unbindLost]
  · rfl
  · intro hmem
    obtain ⟨row, hrow, rfl⟩ := List.mem_map.mp hmem
    obtain ⟨hrow, hbound⟩ := List.mem_filter.mp hrow
    have hbound := of_decide_eq_true hbound
    apply hother
    rw [← hbound.1]
    exact mem_lookup_iff.mpr hrow

/-! ## The tables that a send reads -/

def hotTables (registry : ConnRegistry) : Finset ℕ × Finset ℕ × Table ℕ HotConnBinding :=
  (registry.routing, registry.writers, registry.hotBinding)

@[simp] theorem hotTables_setWriterBoundCount (now writerId count : ℕ) :
    (registry.setWriterBoundCount now writerId count).hotTables = registry.hotTables := rfl

@[simp] theorem hotTables_raiseActiveTargetDc :
    (registry.raiseActiveTargetDc targetDc).hotTables = registry.hotTables := by
  unfold raiseActiveTargetDc
  split
  · rfl
  · rfl

@[simp] theorem hotTables_lowerActiveTargetDc :
    (registry.lowerActiveTargetDc targetDc).hotTables = registry.hotTables := by
  unfold lowerActiveTargetDc
  split
  · rfl
  · split
    · split
      · rfl
      · rfl
    · rfl

@[simp] theorem hotTables_leaveWriter (now writerId : ℕ) :
    (registry.leaveWriter now connId writerId).hotTables = registry.hotTables := by
  unfold leaveWriter
  split
  · rfl
  · rfl

@[simp] theorem hotTables_leavePrevious (now writerId : ℕ) :
    (registry.leavePrevious now connId writerId).hotTables = registry.hotTables := by
  unfold leavePrevious
  split
  · split
    · exact hotTables_leaveWriter now _
    · rfl
  · rfl

@[simp] theorem hotTables_dropMeta : (registry.dropMeta connId).hotTables = registry.hotTables := by
  unfold dropMeta
  split
  · exact hotTables_lowerActiveTargetDc _
  · rfl

theorem hotTables_unregisterFinish (now : ℕ) :
    (registry.unregisterFinish now connId).2.hotTables = registry.hotTables := by
  unfold unregisterFinish
  dsimp only
  split
  · rw [hotTables_leaveWriter]
    exact hotTables_dropMeta
  · exact hotTables_dropMeta

theorem hotTables_markWriterIdle (now writerId : ℕ) :
    (registry.markWriterIdle now writerId).hotTables = registry.hotTables := by
  unfold markWriterIdle
  split
  · rfl
  · rfl

theorem hotTables_bindWriter (htrue : (registry.bindWriter now connId writerId conn).1 = true) :
    (registry.bindWriter now connId writerId conn).2.hotTables =
        (registry.routing, registry.writers, registry.hotBinding.insert connId ⟨writerId, conn⟩) ∧
      connId ∈ registry.routing ∧ writerId ∈ registry.writers := by
  unfold bindWriter at htrue ⊢
  split at htrue
  · cases htrue
  · next hrouted =>
    split at htrue
    · cases htrue
    · next hwriter =>
      rw [not_not] at hrouted hwriter
      have hbefore : (joinWriter now connId writerId (raiseActiveTargetDc conn.targetDc
          (setMeta connId conn (dropMeta connId
            (leavePrevious now connId writerId registry))))).hotTables =
          registry.hotTables := by
        change (raiseActiveTargetDc _ _).hotTables = _
        rw [hotTables_raiseActiveTargetDc]
        change (dropMeta _ _).hotTables = _
        rw [hotTables_dropMeta, hotTables_leavePrevious]
      rw [if_neg (not_not.mpr hrouted), if_neg (not_not.mpr hwriter)]
      refine ⟨?_, hrouted, hwriter⟩
      rw [hotTables, Prod.mk.injEq, Prod.mk.injEq] at hbefore
      simp only [hotTables, setBinding, hbefore.1, hbefore.2.1, hbefore.2.2]

theorem getWriterWithMeta_bindWriter
    (htrue : (registry.bindWriter now connId writerId conn).1 = true) :
    (registry.bindWriter now connId writerId conn).2.getWriterWithMeta connId =
      some (writerId, conn) := by
  obtain ⟨htables, hrouted, hwriter⟩ := hotTables_bindWriter htrue
  rw [hotTables, Prod.mk.injEq, Prod.mk.injEq] at htables
  rw [getWriterWithMeta, htables.1, if_neg (not_not.mpr hrouted), htables.2.1, htables.2.2,
    lookup_insert]
  exact if_pos hwriter

theorem writers_foldl_unbindLost (writerId : ℕ) (conns : List ℕ)
    (state : List BoundConn × ConnRegistry) :
    (conns.foldl (unbindLost writerId) state).2.writers = state.2.writers := by
  induction conns generalizing state with
  | nil => rfl
  | cons connId conns ih =>
    rw [List.foldl_cons, ih]
    unfold unbindLost
    dsimp only
    split
    · exact congrArg (fun tables => tables.2.1) hotTables_dropMeta
    · exact congrArg (fun tables => tables.2.1) hotTables_dropMeta

theorem writers_writerLost (registry : ConnRegistry) (writerId : ℕ) :
    (registry.writerLost writerId).2.writers = registry.writers.erase writerId :=
  writers_foldl_unbindLost writerId _ _

variable {hot : HotConnBinding}

theorem hotBinding_unbindLost {state : List BoundConn × ConnRegistry}
    (hlookup : (unbindLost writerId state connId).2.hotBinding.lookup other = some hot) :
    state.2.hotBinding.lookup other = some hot := by
  have htables : (unbindLost writerId state connId).2.hotTables.2.2 =
      if (state.2.hotBinding.lookup connId).map HotConnBinding.writerId = some writerId then
        state.2.hotBinding.erase connId
      else state.2.hotBinding := by
    unfold unbindLost
    dsimp only
    split
    · rw [hotTables_dropMeta]
      rfl
    · rw [hotTables_dropMeta]
      rfl
  change (unbindLost writerId state connId).2.hotTables.2.2.lookup other = some hot at hlookup
  rw [htables] at hlookup
  split at hlookup
  · exact (Table.lookup_erase_some hlookup).2
  · exact hlookup

theorem hotBinding_writerLost
    (hlookup : (registry.writerLost writerId).2.hotBinding.lookup other = some hot) :
    registry.hotBinding.lookup other = some hot := by
  have hfold : ∀ (conns : List ℕ) (state : List BoundConn × ConnRegistry),
      (conns.foldl (unbindLost writerId) state).2.hotBinding.lookup other = some hot →
        state.2.hotBinding.lookup other = some hot := by
    intro conns
    induction conns with
    | nil => exact fun _ hlookup => hlookup
    | cons conn conns ih =>
      intro state hlookup
      exact hotBinding_unbindLost (ih _ hlookup)
  exact hfold _ _ hlookup

theorem getWriterWithMeta_hot (hfound : registry.getWriterWithMeta connId = some (writerId, conn)) :
    registry.hotBinding.lookup connId = some ⟨writerId, conn⟩ := by
  unfold getWriterWithMeta at hfound
  split at hfound
  · cases hfound
  · split at hfound
    · cases hfound
    · next hot hhot =>
      split at hfound
      · cases hfound
        exact hhot
      · cases hfound

end ConnRegistry

end TupoProxy.MiddleProxy
