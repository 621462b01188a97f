import TupoProxy.KeyedTotal
import TupoProxy.Runs

/-!
# Disabling a user

A session of a user is admitted in three moves: it checks that the user is
enabled, waits for the reservation of a connection, and registers itself with
a cancellation token under a random number.  Disabling a user marks the name
and then cancels the tokens of the sessions that are registered under it.

Tokens are numbered in the order of their creation.  A session that has ended
stays listed with what became of it.
-/

namespace TupoProxy.UserSessions

open List Runs

structure SharedState where
  disabledUsers : Finset String
  activeUserSessions : Table (String × ℕ) ℕ
  cancelled : Finset ℕ
  created : ℕ

namespace SharedState

def isUserEnabled (shared : SharedState) (user : String) : Bool :=
  decide (user ∉ shared.disabledUsers)

def setUserEnabled (shared : SharedState) (user : String) (enabled : Bool) :
    Bool × SharedState :=
  if enabled then
    (false, { shared with disabledUsers := shared.disabledUsers.erase user })
  else
    (shared.isUserEnabled user,
      { shared with disabledUsers := insert user shared.disabledUsers })

def desiredDisabled (userEnabled : Table String Bool) : Finset String :=
  ((userEnabled.entries.filter fun row => !row.2).map Sigma.fst).toFinset

/-- The answer lists the users that were not disabled before. -/
def applyUserEnabledConfig (shared : SharedState) (userEnabled : Table String Bool) :
    Finset String × SharedState :=
  let desired := desiredDisabled userEnabled
  let current := shared.disabledUsers
  (desired \ current,
    { shared with disabledUsers := (current \ (current \ desired)) ∪ desired })

def registerUserSession (shared : SharedState) (user : String) (sessionId : ℕ) :
    ℕ × SharedState :=
  (shared.created,
    { shared with
      activeUserSessions :=
        shared.activeUserSessions.insert (user, sessionId) shared.created
      created := shared.created + 1 })

def dropGuard (shared : SharedState) (user : String) (sessionId : ℕ) : SharedState :=
  { shared with
    activeUserSessions := shared.activeUserSessions.erase (user, sessionId) }

def tokensOf (shared : SharedState) (user : String) : List ℕ :=
  (shared.activeUserSessions.entries.filter fun row => row.1.1 == user).map Sigma.snd

def cancelUserSessions (shared : SharedState) (user : String) : ℕ × SharedState :=
  let tokens := shared.tokensOf user
  (tokens.length, { shared with cancelled := shared.cancelled ∪ tokens.toFinset })

end SharedState

inductive Stage where
  | reserving
  | failed
  | registered (sessionId token : ℕ)
  | closed (token : ℕ)
  deriving Repr, DecidableEq

structure Session where
  user : String
  stage : Stage
  deriving Repr, DecidableEq

structure System where
  shared : SharedState
  sessions : Table ℕ Session

inductive Action where
  | connect (id : ℕ) (user : String)
  | reserve (id : ℕ) (granted : Bool) (sessionId : ℕ)
  | close (id : ℕ)
  | setUserEnabled (user : String) (enabled : Bool)
  | applyUserEnabledConfig (userEnabled : Table String Bool)
  | cancelUserSessions (user : String)

def System.start : System where
  shared := ⟨∅, ∅, ∅, 0⟩
  sessions := ∅

/-- One step between two awaits.  Nothing is awaited between the reservation
and the registration. -/
def System.step (action : Action) (system : System) : System :=
  match action with
  | .connect id user =>
    match system.sessions.lookup id with
    | some _ => system
    | none =>
      let stage := if system.shared.isUserEnabled user then .reserving else .failed
      { system with sessions := system.sessions.insert id ⟨user, stage⟩ }
  | .reserve id granted sessionId =>
    match system.sessions.lookup id with
    | some ⟨user, .reserving⟩ =>
      if granted then
        let registration := system.shared.registerUserSession user sessionId
        ⟨registration.2,
          system.sessions.insert id ⟨user, .registered sessionId registration.1⟩⟩
      else { system with sessions := system.sessions.insert id ⟨user, .failed⟩ }
    | _ => system
  | .close id =>
    match system.sessions.lookup id with
    | some ⟨user, .registered sessionId token⟩ =>
      ⟨system.shared.dropGuard user sessionId,
        system.sessions.insert id ⟨user, .closed token⟩⟩
    | _ => system
  | .setUserEnabled user enabled =>
    { system with shared := (system.shared.setUserEnabled user enabled).2 }
  | .applyUserEnabledConfig userEnabled =>
    { system with shared := (system.shared.applyUserEnabledConfig userEnabled).2 }
  | .cancelUserSessions user =>
    { system with shared := (system.shared.cancelUserSessions user).2 }

def Action.disables (user : String) : Action → Bool
  | .setUserEnabled name enabled => name == user && !enabled
  | .applyUserEnabledConfig userEnabled => userEnabled.lookup user == some false
  | _ => false

def Action.enables (user : String) : Action → Bool
  | .setUserEnabled name enabled => name == user && enabled
  | .applyUserEnabledConfig userEnabled => userEnabled.lookup user != some false
  | _ => false

def Session.ended (cancelled : Finset ℕ) (session : Session) : Bool :=
  match session.stage with
  | .reserving => false
  | .failed => true
  | .registered _ token => decide (token ∈ cancelled)
  | .closed token => decide (token ∈ cancelled)

def Session.isClosed (session : Session) : Bool :=
  match session.stage with
  | .closed _ => true
  | _ => false

/-- A session of the user registers under a number that no other registered
session of the user has. -/
def System.registersFresh (user : String) (system : System) : Action → Prop
  | .reserve id granted sessionId =>
    system.sessions.lookup id = some ⟨user, .reserving⟩ → granted = true →
      system.shared.activeUserSessions.lookup (user, sessionId) = none
  | _ => True

instance (user : String) (system : System) (action : Action) :
    Decidable (system.registersFresh user action) :=
  match action with
  | .reserve id granted sessionId =>
    inferInstanceAs (Decidable
      (system.sessions.lookup id = some ⟨user, .reserving⟩ → granted = true →
        system.shared.activeUserSessions.lookup (user, sessionId) = none))
  | .connect _ _ => .isTrue trivial
  | .close _ => .isTrue trivial
  | .setUserEnabled _ _ => .isTrue trivial
  | .applyUserEnabledConfig _ => .isTrue trivial
  | .cancelUserSessions _ => .isTrue trivial

theorem Session.ended_mono {cancelled more : Finset ℕ} {session : Session}
    (hsubset : cancelled ⊆ more) (hended : session.ended cancelled = true) :
    session.ended more = true := by
  obtain ⟨name, stage⟩ := session
  cases stage with
  | reserving => exact absurd hended Bool.false_ne_true
  | failed => rfl
  | registered sessionId token =>
    exact decide_eq_true (hsubset (of_decide_eq_true hended))
  | closed token => exact decide_eq_true (hsubset (of_decide_eq_true hended))

/-! ## The shared state -/

namespace SharedState

variable {shared : SharedState}

theorem mem_desiredDisabled {userEnabled : Table String Bool} {user : String} :
    user ∈ desiredDisabled userEnabled ↔ userEnabled.lookup user = some false := by
  have hlookup : userEnabled.lookup user = some false ↔
      (⟨user, false⟩ : Sigma fun _ : String => Bool) ∈ userEnabled.entries :=
    mem_dlookup_iff userEnabled.nodupKeys
  rw [hlookup, desiredDisabled, mem_toFinset, mem_map]
  constructor
  · rintro ⟨⟨name, enabled⟩, hrow, rfl⟩
    obtain ⟨hmem, hdisabled⟩ := mem_filter.mp hrow
    obtain rfl : enabled = false := by simpa using hdisabled
    exact hmem
  · intro hmem
    exact ⟨⟨user, false⟩, mem_filter.mpr ⟨hmem, rfl⟩, rfl⟩

theorem applyUserEnabledConfig_disabledUsers (userEnabled : Table String Bool) :
    (shared.applyUserEnabledConfig userEnabled).2.disabledUsers = desiredDisabled userEnabled := by
  ext user
  simp only [applyUserEnabledConfig, Finset.mem_union, Finset.mem_sdiff]
  tauto

section

variable {sessionId token : ℕ} {user : String}
  (hactive : shared.activeUserSessions.lookup (user, sessionId) = some token)
include hactive

theorem mem_tokensOf : token ∈ shared.tokensOf user := by
  have hrow : (⟨(user, sessionId), token⟩ : Sigma fun _ : String × ℕ => ℕ) ∈
      shared.activeUserSessions.entries :=
    (mem_dlookup_iff shared.activeUserSessions.nodupKeys).mp hactive
  exact mem_map.mpr ⟨_, mem_filter.mpr ⟨hrow, beq_self_eq_true user⟩, rfl⟩

theorem mem_cancelUserSessions : token ∈ (shared.cancelUserSessions user).2.cancelled :=
  Finset.mem_union_right _ (mem_toFinset.mpr (mem_tokensOf hactive))

end

end SharedState

namespace System

variable {system : System} {user : String} {action : Action}

theorem step_disabled (hdisables : action.disables user = true) :
    user ∈ (system.step action).shared.disabledUsers := by
  cases action with
  | setUserEnabled name enabled =>
    obtain ⟨rfl, rfl⟩ : name = user ∧ enabled = false := by
      simpa [Action.disables] using hdisables
    exact Finset.mem_insert_self name _
  | applyUserEnabledConfig userEnabled =>
    have hlookup : userEnabled.lookup user = some false := by
      simpa [Action.disables] using hdisables
    exact (SharedState.applyUserEnabledConfig_disabledUsers userEnabled).symm ▸
      SharedState.mem_desiredDisabled.mpr hlookup
  | connect | reserve | close | cancelUserSessions => exact absurd hdisables Bool.false_ne_true

theorem step_keeps_disabled (hdisabled : user ∈ system.shared.disabledUsers)
    (henables : action.enables user = false) :
    user ∈ (system.step action).shared.disabledUsers := by
  cases action with
  | connect | close =>
    simp only [step]
    split <;> exact hdisabled
  | reserve id granted sessionId =>
    simp only [step]
    split
    · cases granted <;> exact hdisabled
    · exact hdisabled
  | setUserEnabled name enabled =>
    cases enabled with
    | false => exact Finset.mem_insert_of_mem hdisabled
    | true =>
      have hname : user ≠ name := by
        rintro rfl
        simp [Action.enables] at henables
      exact Finset.mem_erase.mpr ⟨hname, hdisabled⟩
  | applyUserEnabledConfig userEnabled =>
    have hlookup : userEnabled.lookup user = some false := by
      simpa [Action.enables] using henables
    exact (SharedState.applyUserEnabledConfig_disabledUsers userEnabled).symm ▸
      SharedState.mem_desiredDisabled.mpr hlookup
  | cancelUserSessions name => exact hdisabled

variable {actions : List Action}

/-- A disabled user stays so until an enabling action. -/
theorem run_keeps_disabled (henables : ∀ action ∈ actions, action.enables user = false)
    (hdisabled : user ∈ system.shared.disabledUsers) :
    user ∈ (Runs.run step actions system).shared.disabledUsers := by
  have hstep : ∀ (state : System) (action : Action),
      user ∈ state.shared.disabledUsers → action.enables user = false →
        user ∈ (state.step action).shared.disabledUsers :=
    fun state action hstate hgood => step_keeps_disabled hstate hgood
  exact Runs.Along.invariant hstep (along_of_forall henables system) hdisabled

/-- The registered sessions of the user stand in the table of active sessions,
each under a number of its own. -/
structure Tracked (user : String) (system : System) : Prop where
  active : ∀ {id sessionId token},
    system.sessions.lookup id = some ⟨user, .registered sessionId token⟩ →
      system.shared.activeUserSessions.lookup (user, sessionId) = some token
  distinct : ∀ {id other sessionId token found},
    system.sessions.lookup id = some ⟨user, .registered sessionId token⟩ →
      system.sessions.lookup other = some ⟨user, .registered sessionId found⟩ →
        id = other

theorem start_tracked : start.Tracked user where
  active := fun hlookup => by simp [start] at hlookup
  distinct := fun hlookup => by simp [start] at hlookup

variable {id sessionId token : ℕ} {session : Session}

theorem lookup_insert_registered {other : ℕ}
    (hsession : ∀ sessionId token, session ≠ ⟨user, .registered sessionId token⟩)
    (hlookup : (system.sessions.insert id session).lookup other =
      some ⟨user, .registered sessionId token⟩) :
    other ≠ id ∧ system.sessions.lookup other = some ⟨user, .registered sessionId token⟩ := by
  rcases Table.lookup_insert_some hlookup with ⟨-, hnew⟩ | hbefore
  · exact absurd hnew.symm (hsession sessionId token)
  · exact hbefore

section

variable (htracked : system.Tracked user)
include htracked

theorem Tracked.insert {session : Session} (id : ℕ)
    (hsession : ∀ sessionId token, session ≠ ⟨user, .registered sessionId token⟩) :
    Tracked user { system with sessions := system.sessions.insert id session } where
  active := fun hlookup =>
    htracked.active (lookup_insert_registered hsession hlookup).2
  distinct := fun hlookup hfound =>
    htracked.distinct (lookup_insert_registered hsession hlookup).2
      (lookup_insert_registered hsession hfound).2

section

variable (hfresh : system.shared.activeUserSessions.lookup (user, sessionId) = none)
include hfresh

theorem Tracked.lookup_register {other number found : ℕ}
    (hlookup : (system.sessions.insert id ⟨user, .registered sessionId token⟩).lookup
      other = some ⟨user, .registered number found⟩) :
    (other = id ∧ number = sessionId ∧ found = token) ∨ (number ≠ sessionId ∧
        system.sessions.lookup other = some ⟨user, .registered number found⟩) := by
  rcases Table.lookup_insert_some hlookup with ⟨hid, hnew⟩ | ⟨-, hbefore⟩
  · obtain ⟨-, hstage⟩ := Session.mk.inj hnew
    exact .inl ⟨hid, Stage.registered.inj hstage⟩
  · refine .inr ⟨?_, hbefore⟩
    rintro rfl
    have hactive := htracked.active hbefore
    rw [hfresh] at hactive
    contradiction

theorem Tracked.register :
    Tracked user
      ⟨(system.shared.registerUserSession user sessionId).2,
        system.sessions.insert id ⟨user, .registered sessionId system.shared.created⟩⟩ where
  active := by
    intro other number found hlookup
    rcases htracked.lookup_register hfresh hlookup with ⟨-, rfl, rfl⟩ | ⟨hnumber, hold⟩
    · exact AList.lookup_insert _
    · have hkey : (user, number) ≠ (user, sessionId) := by simpa using hnumber
      exact (AList.lookup_insert_ne hkey).trans (htracked.active hold)
  distinct := by
    intro first second number found found' hfirst hsecond
    rcases htracked.lookup_register hfresh hfirst with ⟨rfl, hnew, -⟩ | ⟨hne, hold⟩ <;>
      rcases htracked.lookup_register hfresh hsecond with ⟨rfl, hnew', -⟩ | ⟨hne', hold'⟩
    · rfl
    · exact absurd hnew hne'
    · exact absurd hnew' hne
    · exact htracked.distinct hold hold'

end

theorem Tracked.register_other {name : String} (hname : name ≠ user) :
    Tracked user ⟨(system.shared.registerUserSession name sessionId).2,
        system.sessions.insert id ⟨name, .registered sessionId system.shared.created⟩⟩ := by
  have hsession : ∀ number token,
      (⟨name, .registered sessionId system.shared.created⟩ : Session) ≠
        ⟨user, .registered number token⟩ := by
    intro number token heq
    exact hname (congrArg Session.user heq)
  have hinserted := htracked.insert id hsession
  constructor
  · intro other number token hlookup
    have hkey : (user, number) ≠ (name, sessionId) := by
      intro heq
      exact hname (congrArg Prod.fst heq).symm
    exact (AList.lookup_insert_ne hkey).trans (hinserted.active hlookup)
  · exact hinserted.distinct

theorem Tracked.close {name : String}
    (hid : system.sessions.lookup id = some ⟨name, .registered sessionId token⟩) :
    Tracked user ⟨system.shared.dropGuard name sessionId,
        system.sessions.insert id ⟨name, .closed token⟩⟩ := by
  have hsession : ∀ number found,
      (⟨name, .closed token⟩ : Session) ≠ ⟨user, .registered number found⟩ := by
    intro number found heq
    have hstage := congrArg Session.stage heq
    contradiction
  constructor
  · intro other number found hlookup
    obtain ⟨hother, hbefore⟩ := lookup_insert_registered hsession hlookup
    have hkey : (user, number) ≠ (name, sessionId) := by
      intro heq
      obtain ⟨rfl, rfl⟩ := Prod.mk.inj heq
      exact hother (htracked.distinct hbefore hid)
    exact (AList.lookup_erase_ne hkey).trans (htracked.active hbefore)
  · exact (htracked.insert id hsession).distinct

/-- Every step keeps the sessions of the user in the registry that cancels them. -/
theorem step_tracked (hfresh : system.registersFresh user action) :
    (system.step action).Tracked user := by
  cases action with
  | connect id name =>
    simp only [step]
    split
    · exact htracked
    · apply htracked.insert id
      intro sessionId token heq
      have hstage := congrArg Session.stage heq
      revert hstage
      cases system.shared.isUserEnabled name <;> simp
  | reserve id granted sessionId =>
    simp only [step]
    split
    case h_1 name hid =>
        cases granted with
        | true =>
          by_cases hname : name = user
          · subst hname
            exact htracked.register (hfresh hid rfl)
          · exact htracked.register_other hname
        | false =>
          apply htracked.insert id
          intro number token heq
          have hstage := congrArg Session.stage heq
          contradiction
    case h_2 => exact htracked
  | close id =>
    simp only [step]
    split
    case h_1 name sessionId token hid => exact htracked.close hid
    case h_2 => exact htracked
  | setUserEnabled name enabled =>
    cases enabled <;> exact ⟨htracked.active, htracked.distinct⟩
  | applyUserEnabledConfig | cancelUserSessions => exact ⟨htracked.active, htracked.distinct⟩

end

/-- Every session of the user has ended or had closed in the state `before`,
and no new one is let in. -/
structure Ended (user : String) (before system : System) : Prop where
  disabled : user ∈ system.shared.disabledUsers
  sessions : ∀ {id session}, system.sessions.lookup id = some session →
    session.user = user →
      session.ended system.shared.cancelled = true ∨
        session.isClosed = true ∧ before.sessions.lookup id = some session

/-- A cancellation ends every session of a disabled user that is past its reservation. -/
theorem cancel_ended (htracked : system.Tracked user)
    (hdisabled : user ∈ system.shared.disabledUsers)
    (hreserving : ∀ id, system.sessions.lookup id ≠ some ⟨user, .reserving⟩) :
    Ended user system (system.step (.cancelUserSessions user)) where
  disabled := hdisabled
  sessions := by
    intro id session hlookup huser
    have hbefore : system.sessions.lookup id = some session := hlookup
    obtain ⟨name, stage⟩ := session
    obtain rfl : name = user := huser
    cases stage with
    | reserving => exact absurd hbefore (hreserving id)
    | failed => exact .inl rfl
    | registered sessionId token =>
      exact .inl (decide_eq_true (SharedState.mem_cancelUserSessions (htracked.active hbefore)))
    | closed token => exact .inr ⟨rfl, hbefore⟩

variable {before : System}

theorem Ended.of_lookup (hended : Ended user before system)
    (hlookup : system.sessions.lookup id = some session)
    (huser : session.user = user) (hclosed : session.isClosed = false) :
    session.ended system.shared.cancelled = true := by
  rcases hended.sessions hlookup huser with hdone | ⟨hwas, -⟩
  · exact hdone
  · rw [hclosed] at hwas
    contradiction

variable {shared : SharedState}

theorem Ended.insert (hended : Ended user before system)
    (hdisabled : shared.disabledUsers = system.shared.disabledUsers)
    (hcancelled : shared.cancelled = system.shared.cancelled) (hsession : session.user = user →
      session.ended system.shared.cancelled = true) :
    Ended user before ⟨shared, system.sessions.insert id session⟩ where
  disabled := hdisabled ▸ hended.disabled
  sessions := by
    intro other found hlookup huser
    rw [hcancelled]
    rcases Table.lookup_insert_some hlookup with ⟨-, rfl⟩ | ⟨-, hbefore⟩
    · exact .inl (hsession huser)
    · exact hended.sessions hbefore huser

theorem Ended.withShared (hended : Ended user before system)
    (hdisabled : user ∈ shared.disabledUsers)
    (hcancelled : system.shared.cancelled ⊆ shared.cancelled) :
    Ended user before { system with shared } where
  disabled := hdisabled
  sessions := fun hlookup huser =>
    (hended.sessions hlookup huser).imp_left (Session.ended_mono hcancelled)

theorem step_ended (hended : Ended user before system)
    (henables : action.enables user = false) : Ended user before (system.step action) := by
  have hdisabled := step_keeps_disabled hended.disabled henables
  cases action with
  | connect id name =>
    simp only [step]
    split
    · exact hended
    · apply hended.insert rfl rfl
      rintro rfl
      simp [SharedState.isUserEnabled, hended.disabled, Session.ended]
  | reserve id granted sessionId =>
    simp only [step]
    split
    case h_1 name hid =>
        have hname : name ≠ user := fun huser =>
          absurd (hended.of_lookup hid huser rfl) Bool.false_ne_true
        cases granted <;> exact hended.insert rfl rfl (absurd · hname)
    case h_2 => exact hended
  | close id =>
    simp only [step]
    split
    case h_1 name sessionId token hid =>
        refine hended.insert ?_ ?_ fun huser => ?_
        · rfl
        · rfl
        · have hdone := hended.of_lookup hid huser rfl
          exact hdone
    case h_2 => exact hended
  | setUserEnabled name enabled =>
    apply hended.withShared hdisabled
    cases enabled <;> exact Finset.Subset.refl _
  | applyUserEnabledConfig userEnabled =>
    exact hended.withShared hdisabled (Finset.Subset.refl _)
  | cancelUserSessions name =>
    exact hended.withShared hdisabled Finset.subset_union_left

/-- The sessions from before the disable stay ended. -/
theorem run_ended (henables : ∀ action ∈ actions, action.enables user = false)
    (hended : Ended user before system) : Ended user before (Runs.run step actions system) :=
  Runs.Along.invariant (fun _ _ hstate hgood => step_ended hstate hgood)
    (along_of_forall henables system) hended

/-- A disable step of the user: `mark` disables the name, and the sessions are
cancelled later, at a moment at which no admission of the user is between its
check and its registration.  Until the user is enabled again, every session of
the user has failed before relaying, has a cancelled token, or had closed
before the cancellation. -/
theorem disable_ends_sessions (user : String) (first between after : List Action)
    (mark : Action) (hmark : mark.disables user = true)
    (hbetween : ∀ action ∈ between, action.enables user = false)
    (hafter : ∀ action ∈ after, action.enables user = false)
    (hfresh : Runs.Along step (registersFresh user) (first ++ mark :: between) start)
    (hreserving : ∀ id, (Runs.run step (first ++ mark :: between) start).sessions.lookup id ≠
        some ⟨user, .reserving⟩) :
    let before := run step (first ++ mark :: between) start
    let system := run step (.cancelUserSessions user :: after) before
    ∀ id session, system.sessions.lookup id = some session → session.user = user →
      session.ended system.shared.cancelled = true ∨
        session.isClosed = true ∧ before.sessions.lookup id = some session := by
  intro before system
  have htracked : before.Tracked user :=
    Runs.Along.invariant (fun _ _ hstate hgood => step_tracked hstate hgood) hfresh start_tracked
  have hdisabled : user ∈ before.shared.disabledUsers := by
    have hrun : before = run step between
        ((run step first start).step mark) := run_append step first _ start
    rw [hrun]
    exact run_keeps_disabled hbetween (step_disabled hmark)
  have hended : Ended user before (run step after (before.step (.cancelUserSessions user))) :=
    run_ended hafter (cancel_ended htracked hdisabled hreserving)
  intro id session hlookup huser
  exact hended.sessions hlookup huser

/-- One session is relaying, one has closed and one is refused later. -/
def admitted : List Action :=
  [.connect 0 "alice", .reserve 0 true 7, .connect 1 "alice", .reserve 1 true 8,
    .close 1, .connect 2 "bob"]

theorem disable_ends_sessions_sample :
    let before := run step (admitted ++ [.setUserEnabled "alice" false]) start
    let system := run step [.cancelUserSessions "alice", .connect 3 "alice"] before
    system.sessions.lookup 0 = some ⟨"alice", .registered 7 0⟩ ∧
      (⟨"alice", .registered 7 0⟩ : Session).ended system.shared.cancelled = true ∧
      system.sessions.lookup 3 = some ⟨"alice", .failed⟩ := by
  intro before system
  have hreserving : ∀ id, before.sessions.lookup id ≠ some ⟨"alice", .reserving⟩ := by
    intro id hlookup
    have hrow := (mem_dlookup_iff before.sessions.nodupKeys).mp hlookup
    have hrows : ∀ row ∈ before.sessions.entries, row.2 ≠ ⟨"alice", .reserving⟩ := by
      decide +kernel
    exact hrows _ hrow rfl
  have hended := disable_ends_sessions "alice" admitted [] [.connect 3 "alice"]
    (.setUserEnabled "alice" false) rfl (by decide) (by decide) (by decide +kernel)
    hreserving
  have hrelaying : system.sessions.lookup 0 = some ⟨"alice", .registered 7 0⟩ := by
    decide +kernel
  refine ⟨hrelaying, ?_, by decide +kernel⟩
  rcases hended 0 _ hrelaying rfl with hdone | ⟨hclosed, -⟩
  · exact hdone
  · exact absurd hclosed Bool.false_ne_true

/-- A session that has passed its check registers after the cancellation. -/
theorem disable_misses_admission :
    let system := run step
      [.connect 0 "alice", .setUserEnabled "alice" false, .cancelUserSessions "alice",
        .reserve 0 true 7] start
    system.sessions.lookup 0 = some ⟨"alice", .registered 7 0⟩ ∧
      (⟨"alice", .registered 7 0⟩ : Session).ended system.shared.cancelled = false := by
  decide +kernel

end System

end TupoProxy.UserSessions
