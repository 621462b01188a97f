import TupoProxy.KeyedTotal
import TupoProxy.Runs

/-!
# Idle candidates and pressure events

A middle-relay session whose client is silent marks itself as an idle candidate.  A
pressure event permits one eviction.  Every session looks at the registry for itself and
leaves when it is the candidate with the oldest mark, the mark is older than the last
event, and nobody has used the event.

The registry keeps the candidates twice, by connection and in the order of their marks,
and counts events and used events.  It is compared with the history of the calls: which
connections wait, in which order, and which events were used.
-/

namespace TupoProxy.IdleRegistry

open List AList

structure RelayIdleCandidateMeta where
  markOrderSeq : ℕ
  markPressureSeq : ℕ
  deriving Repr, DecidableEq

/-- The registry together with the counter of marks. -/
structure Registry where
  byConnId : Table ℕ RelayIdleCandidateMeta
  ordered : List (ℕ × ℕ)
  pressureEventSeq : ℕ
  pressureConsumedSeq : ℕ
  relayIdleMarkSeq : ℕ

def Registry.empty : Registry := ⟨∅, [], 0, 0, 0⟩

def insertOrdered (entry : ℕ × ℕ) : List (ℕ × ℕ) → List (ℕ × ℕ)
  | [] => [entry]
  | first :: rest =>
    if entry = first then first :: rest
    else if entry.1 < first.1 ∨ (entry.1 = first.1 ∧ entry.2 < first.2) then
      entry :: first :: rest
    else first :: insertOrdered entry rest

def markRelayIdleCandidate (registry : Registry) (connId : ℕ) : Bool × Registry :=
  if (registry.byConnId.lookup connId).isSome then (false, registry)
  else
    let markOrderSeq := registry.relayIdleMarkSeq + 1
    let candidate := ⟨markOrderSeq, registry.pressureEventSeq⟩
    (true,
      { registry with
        relayIdleMarkSeq := registry.relayIdleMarkSeq + 1
        byConnId := registry.byConnId.insert connId candidate
        ordered := insertOrdered (markOrderSeq, connId) registry.ordered })

def clearRelayIdleCandidate (registry : Registry) (connId : ℕ) : Registry :=
  match registry.byConnId.lookup connId with
  | none => registry
  | some candidate =>
    { registry with
      byConnId := registry.byConnId.erase connId
      ordered := registry.ordered.erase (candidate.markOrderSeq, connId) }

def noteRelayPressureEvent (registry : Registry) : Registry :=
  { registry with pressureEventSeq := registry.pressureEventSeq + 1 }

/-- The ordered set from its first entry on that is not stale. -/
def dropStale (byConnId : Table ℕ RelayIdleCandidateMeta) : List (ℕ × ℕ) → List (ℕ × ℕ)
  | [] => []
  | (markOrderSeq, connId) :: rest =>
    match byConnId.lookup connId with
    | none => dropStale byConnId rest
    | some candidate =>
      if candidate.markOrderSeq ≠ markOrderSeq then dropStale byConnId rest
      else (markOrderSeq, connId) :: rest

/-- Only `evicted` ends the session; the other two are the answer `false`. -/
inductive EvictOutcome where
  | evicted
  | foundNone
  | refused
  deriving Repr, DecidableEq

/-- The answer, the event that the session has seen, and the registry.  Nothing comes
between the steps of a call, so its exchange of the used events always succeeds. -/
def maybeEvictIdleCandidateOnPressure (registry : Registry) (connId seenPressureSeq : ℕ) :
    EvictOutcome × ℕ × Registry :=
  let latestPressureSeq := registry.pressureEventSeq
  if latestPressureSeq = seenPressureSeq then (.refused, seenPressureSeq, registry)
  else if latestPressureSeq = registry.pressureConsumedSeq then
    (.refused, latestPressureSeq, registry)
  else
    let registry :=
      { registry with ordered := dropStale registry.byConnId registry.ordered }
    match registry.ordered with
    | [] =>
      (.foundNone, latestPressureSeq,
        { registry with pressureConsumedSeq := latestPressureSeq })
    | (_, oldest) :: _ =>
      if oldest ≠ connId then (.refused, latestPressureSeq, registry)
      else
        match registry.byConnId.lookup connId with
        | none => (.refused, latestPressureSeq, registry)
        | some candidate =>
          if latestPressureSeq = candidate.markPressureSeq then
            (.refused, latestPressureSeq, registry)
          else
            (.evicted, latestPressureSeq,
              clearRelayIdleCandidate
                { registry with pressureConsumedSeq := latestPressureSeq } connId)

/-! ## Coherence of the two tables -/

structure Coherent (registry : Registry) : Prop where
  increasing : registry.ordered.Pairwise fun left right => left.1 < right.1
  listed : ∀ markOrderSeq connId, (markOrderSeq, connId) ∈ registry.ordered ↔
    ∃ candidate, registry.byConnId.lookup connId = some candidate ∧
      candidate.markOrderSeq = markOrderSeq
  bounded : ∀ entry ∈ registry.ordered, entry.1 ≤ registry.relayIdleMarkSeq
  consumed_le : registry.pressureConsumedSeq ≤ registry.pressureEventSeq

theorem Coherent.empty : Coherent Registry.empty where
  increasing := List.Pairwise.nil
  listed := by
    intro markOrderSeq connId
    simp [Registry.empty]
  bounded := by
    intro entry hentry
    cases hentry
  consumed_le := Nat.le_refl 0

variable {ordered : List (ℕ × ℕ)}

theorem insertOrdered_last {entry : ℕ × ℕ} (hlast : ∀ other ∈ ordered, other.1 < entry.1) :
    insertOrdered entry ordered = ordered ++ [entry] := by
  induction ordered with
  | nil => rfl
  | cons first rest ih =>
    have hfirst := hlast first mem_cons_self
    have hne : entry ≠ first := by
      intro hsame
      rw [hsame] at hfirst
      exact Nat.lt_irrefl _ hfirst
    have hbehind : ¬ (entry.1 < first.1 ∨ (entry.1 = first.1 ∧ entry.2 < first.2)) := by
      omega
    rw [insertOrdered, if_neg hne, if_neg hbehind,
      ih fun other hother => hlast other (mem_cons_of_mem _ hother)]
    rfl

theorem map_erase_entry {entry : ℕ × ℕ}
    (honly : ∀ other ∈ ordered, other.2 = entry.2 → other = entry) :
    (ordered.erase entry).map Prod.snd = (ordered.map Prod.snd).erase entry.2 := by
  induction ordered with
  | nil => rfl
  | cons first rest ih =>
    have hrest := ih fun other hother => honly other (mem_cons_of_mem _ hother)
    by_cases hsame : first = entry
    · subst hsame
      rw [erase_cons_head, map_cons, erase_cons_head]
    · have hother : ¬ first.2 = entry.2 := fun hconn => hsame (honly first mem_cons_self hconn)
      rw [erase_cons_tail (by simpa using hsame), map_cons, map_cons,
        erase_cons_tail (by simpa using hother), hrest]

variable {registry : Registry} {connId : ℕ}

theorem Coherent.entry_unique (hcoherent : Coherent registry) {candidate : RelayIdleCandidateMeta}
    (hlookup : registry.byConnId.lookup connId = some candidate) :
    ∀ other ∈ registry.ordered, other.2 = connId → other = (candidate.markOrderSeq, connId) := by
  rintro ⟨markOrderSeq, other⟩ hmem rfl
  obtain ⟨found, hfound, hseq⟩ := (hcoherent.listed _ _).mp hmem
  rw [hlookup] at hfound
  cases hfound
  rw [hseq]

theorem Coherent.mem_map_snd (hcoherent : Coherent registry) (connId : ℕ) :
    connId ∈ registry.ordered.map Prod.snd ↔ (registry.byConnId.lookup connId).isSome = true := by
  constructor
  · intro hmem
    obtain ⟨⟨markOrderSeq, other⟩, hentry, rfl⟩ := mem_map.mp hmem
    obtain ⟨candidate, hlookup, -⟩ := (hcoherent.listed _ _).mp hentry
    rw [hlookup]
    rfl
  · intro hsome
    obtain ⟨candidate, hlookup⟩ := Option.isSome_iff_exists.mp hsome
    exact mem_map.mpr ⟨_, (hcoherent.listed _ _).mpr ⟨candidate, hlookup, rfl⟩, rfl⟩

theorem Coherent.dropStale (hcoherent : Coherent registry) :
    dropStale registry.byConnId registry.ordered = registry.ordered := by
  cases hordered : registry.ordered with
  | nil => rfl
  | cons first rest =>
    obtain ⟨markOrderSeq, connId⟩ := first
    have hmem : (markOrderSeq, connId) ∈ registry.ordered := by
      rw [hordered]
      exact mem_cons_self
    obtain ⟨candidate, hlookup, hseq⟩ := (hcoherent.listed _ _).mp hmem
    simp only [IdleRegistry.dropStale, hlookup, hseq, ne_eq, not_true_eq_false, if_false]

structure Marked (registry next : Registry) (connId : ℕ) : Prop where
  fresh : registry.byConnId.lookup connId = none
  coherent : Coherent next
  ordered : next.ordered = registry.ordered ++ [(registry.relayIdleMarkSeq + 1, connId)]
  byConnId : next.byConnId = registry.byConnId.insert connId
    ⟨registry.relayIdleMarkSeq + 1, registry.pressureEventSeq⟩
  events : next.pressureEventSeq = registry.pressureEventSeq
  consumed : next.pressureConsumedSeq = registry.pressureConsumedSeq

theorem Coherent.mark (hcoherent : Coherent registry) (connId : ℕ) :
    markRelayIdleCandidate registry connId = (false, registry) ∨
      (markRelayIdleCandidate registry connId).1 = true ∧
        Marked registry (markRelayIdleCandidate registry connId).2 connId := by
  unfold markRelayIdleCandidate
  by_cases hthere : (registry.byConnId.lookup connId).isSome
  · exact .inl (if_pos hthere)
  · have hfresh : registry.byConnId.lookup connId = none := by
      simpa using hthere
    have hlast : insertOrdered (registry.relayIdleMarkSeq + 1, connId) registry.ordered =
        registry.ordered ++ [(registry.relayIdleMarkSeq + 1, connId)] :=
      insertOrdered_last fun other hother =>
        Nat.lt_succ_of_le (hcoherent.bounded other hother)
    rw [if_neg hthere]
    refine .inr ⟨rfl, hfresh, ⟨?_, ?_, ?_, hcoherent.consumed_le⟩, hlast, rfl, rfl, rfl⟩
    · dsimp only
      rw [hlast, pairwise_append]
      refine ⟨hcoherent.increasing, pairwise_singleton _ _, ?_⟩
      intro left hleft right hright
      rw [mem_singleton.mp hright]
      exact Nat.lt_succ_of_le (hcoherent.bounded left hleft)
    · intro markOrderSeq other
      dsimp only
      rw [hlast, mem_append, mem_singleton, hcoherent.listed]
      by_cases hsame : other = connId
      · subst hsame
        rw [lookup_insert, hfresh]
        simp [eq_comm]
      · rw [lookup_insert_ne hsame]
        simp [hsame]
    · intro entry hentry
      dsimp only at hentry ⊢
      rw [hlast, mem_append, mem_singleton] at hentry
      rcases hentry with hold | rfl
      · exact Nat.le_succ_of_le (hcoherent.bounded entry hold)
      · exact Nat.le_refl _

structure Cleared (registry next : Registry) (connId : ℕ) : Prop where
  coherent : Coherent next
  waiting : next.ordered.map Prod.snd = (registry.ordered.map Prod.snd).erase connId
  others : ∀ other candidate, next.byConnId.lookup other = some candidate ↔
    other ≠ connId ∧ registry.byConnId.lookup other = some candidate
  events : next.pressureEventSeq = registry.pressureEventSeq
  consumed : next.pressureConsumedSeq = registry.pressureConsumedSeq

theorem Coherent.clear (hcoherent : Coherent registry) (connId : ℕ) :
    Cleared registry (clearRelayIdleCandidate registry connId) connId := by
  unfold clearRelayIdleCandidate
  cases hlookup : registry.byConnId.lookup connId with
  | none =>
    have habsent : connId ∉ registry.ordered.map Prod.snd := by
      rw [hcoherent.mem_map_snd, hlookup]
      exact Bool.false_ne_true
    refine ⟨hcoherent, (erase_of_not_mem habsent).symm, ?_, rfl, rfl⟩
    intro other candidate
    refine ⟨fun hother => ⟨?_, hother⟩, fun hother => hother.2⟩
    rintro rfl
    rw [hlookup] at hother
    cases hother
  | some candidate =>
    have honly := hcoherent.entry_unique hlookup
    have hothers : ∀ other found, (registry.byConnId.erase connId).lookup other = some found ↔
        other ≠ connId ∧ registry.byConnId.lookup other = some found := by
      intro other found
      by_cases hsame : other = connId
      · subst hsame
        simp [lookup_erase]
      · simp [lookup_erase_ne hsame, hsame]
    have hnodup : registry.ordered.Nodup := hcoherent.increasing.imp fun hlt hsame =>
      absurd (congrArg Prod.fst hsame) (Nat.ne_of_lt hlt)
    refine ⟨⟨hcoherent.increasing.sublist erase_sublist, ?_, ?_,
      hcoherent.consumed_le⟩, map_erase_entry honly, hothers, rfl, rfl⟩
    · intro markOrderSeq other
      rw [hnodup.mem_erase_iff, hcoherent.listed]
      by_cases hsame : other = connId
      · subst hsame
        rw [lookup_erase, hlookup]
        constructor
        · rintro ⟨hne, found, hfound, hseq⟩
          cases hfound
          exact absurd (by rw [hseq]) hne
        · rintro ⟨found, hfound, -⟩
          cases hfound
      · rw [lookup_erase_ne hsame]
        simp [hsame]
    · exact fun entry hentry => hcoherent.bounded entry (mem_of_mem_erase hentry)

inductive Attempted (registry : Registry) (connId : ℕ) :
    EvictOutcome × ℕ × Registry → Prop where
  | refused (seen : ℕ) : Attempted registry connId (.refused, seen, registry)
  | foundNone (hunused : registry.pressureEventSeq ≠ registry.pressureConsumedSeq)
      (hempty : registry.ordered = []) :
      Attempted registry connId (.foundNone, registry.pressureEventSeq,
        { registry with pressureConsumedSeq := registry.pressureEventSeq })
  | evicted (candidate : RelayIdleCandidateMeta)
      (hunused : registry.pressureEventSeq ≠ registry.pressureConsumedSeq)
      (holdest : (registry.ordered.map Prod.snd).head? = some connId)
      (hlookup : registry.byConnId.lookup connId = some candidate)
      (hmark : registry.pressureEventSeq ≠ candidate.markPressureSeq) :
      Attempted registry connId (.evicted, registry.pressureEventSeq,
        clearRelayIdleCandidate
          { registry with pressureConsumedSeq := registry.pressureEventSeq } connId)

theorem Coherent.attempt (hcoherent : Coherent registry) (connId seen : ℕ) :
    Attempted registry connId (maybeEvictIdleCandidateOnPressure registry connId seen) := by
  unfold maybeEvictIdleCandidateOnPressure
  simp only [hcoherent.dropStale]
  by_cases hseen : registry.pressureEventSeq = seen
  · rw [if_pos hseen]
    exact .refused seen
  rw [if_neg hseen]
  by_cases hused : registry.pressureEventSeq = registry.pressureConsumedSeq
  · rw [if_pos hused]
    exact .refused _
  rw [if_neg hused]
  split
  next hempty => exact .foundNone hused hempty
  next markOrderSeq oldest rest hordered =>
    by_cases hother : oldest ≠ connId
    · rw [if_pos hother]
      exact .refused _
    rw [if_neg hother]
    have hhead : (registry.ordered.map Prod.snd).head? = some connId := by
      rw [hordered, map_cons, head?_cons, not_not.mp hother]
    cases hlookup : registry.byConnId.lookup connId with
    | none => exact .refused _
    | some candidate =>
      dsimp only
      by_cases hmark : registry.pressureEventSeq = candidate.markPressureSeq
      · rw [if_pos hmark]
        exact .refused _
      · rw [if_neg hmark]
        exact .evicted candidate hused hhead hlookup hmark

theorem Coherent.consume (hcoherent : Coherent registry) :
    Coherent { registry with pressureConsumedSeq := registry.pressureEventSeq } :=
  ⟨hcoherent.increasing, hcoherent.listed, hcoherent.bounded, Nat.le_refl _⟩

theorem Coherent.pressure (hcoherent : Coherent registry) :
    Coherent (noteRelayPressureEvent registry) :=
  ⟨hcoherent.increasing, hcoherent.listed, hcoherent.bounded,
    Nat.le_succ_of_le hcoherent.consumed_le⟩

/-- What the calls of all sessions did, newest first. -/
inductive Entry where
  | marked (connId : ℕ)
  | cleared (connId : ℕ)
  | pressure
  | evicted (connId : ℕ)
  | foundNone
  deriving Repr, DecidableEq

def Entry.uses : Entry → Bool
  | .evicted _ => true
  | .foundNone => true
  | _ => false

def Entry.isEviction : Entry → Bool
  | .evicted _ => true
  | _ => false

def Entry.concerns (connId : ℕ) : Entry → Bool
  | .marked other => other == connId
  | .cleared other => other == connId
  | .evicted other => other == connId
  | _ => false

/-- The candidates not yet cleared or evicted, in the order of their marks. -/
def waiting : List Entry → List ℕ
  | [] => []
  | .marked connId :: past => waiting past ++ [connId]
  | .cleared connId :: past => (waiting past).erase connId
  | .evicted connId :: past => (waiting past).erase connId
  | _ :: past => waiting past

/-- When a connection may be evicted after a history.  It is the first of those that wait;
its mark is older than the last pressure event and still stands; and the event has not
been used, neither by an eviction nor by a session that found no candidate. -/
structure MayEvict (past : List Entry) (connId : ℕ) : Prop where
  oldest : (waiting past).head? = some connId
  event : ∃ recent between older,
    past = recent ++ .pressure :: (between ++ .marked connId :: older) ∧
      (∀ entry ∈ recent, entry ≠ .pressure ∧ entry.uses = false) ∧
      ∀ entry ∈ recent ++ between, entry.concerns connId = false

inductive RelayOp where
  | mark (connId : ℕ)
  | clear (connId : ℕ)
  | pressure
  | attempt (connId seenPressureSeq : ℕ)
  deriving Repr, DecidableEq

structure RelayHistory where
  registry : Registry
  log : List Entry

def RelayHistory.start : RelayHistory := ⟨.empty, []⟩

def Entry.ofAttempt (connId : ℕ) : EvictOutcome → List Entry
  | .evicted => [.evicted connId]
  | .foundNone => [.foundNone]
  | .refused => []

def RelayHistory.step (op : RelayOp) (history : RelayHistory) : RelayHistory :=
  match op with
  | .mark connId =>
    let answer := markRelayIdleCandidate history.registry connId
    ⟨answer.2, if answer.1 then .marked connId :: history.log else history.log⟩
  | .clear connId =>
    ⟨clearRelayIdleCandidate history.registry connId, .cleared connId :: history.log⟩
  | .pressure => ⟨noteRelayPressureEvent history.registry, .pressure :: history.log⟩
  | .attempt connId seenPressureSeq =>
    let answer := maybeEvictIdleCandidateOnPressure history.registry connId seenPressureSeq
    ⟨answer.2.2, Entry.ofAttempt connId answer.1 ++ history.log⟩

def Unused (log : List Entry) : Prop :=
  ∀ recent older, log = recent ++ .pressure :: older → .pressure ∉ recent →
    ∀ entry ∈ recent, entry.uses = false

/-- The mark of a connection stands, and was made when so many events had been. -/
def MarkedAt (log : List Entry) (connId events : ℕ) : Prop :=
  ∃ newer older, log = newer ++ .marked connId :: older ∧
    (∀ entry ∈ newer, entry.concerns connId = false) ∧ events = older.count .pressure

/-- The registry is what its history says. -/
structure Traced (registry : Registry) (log : List Entry) : Prop where
  coherent : Coherent registry
  queue : registry.ordered.map Prod.snd = waiting log
  events : registry.pressureEventSeq = log.count .pressure
  evictions : log.countP Entry.isEviction ≤ registry.pressureConsumedSeq
  unused : registry.pressureEventSeq ≠ registry.pressureConsumedSeq → Unused log
  marks : ∀ connId candidate, registry.byConnId.lookup connId = some candidate →
    MarkedAt log connId candidate.markPressureSeq

variable {log : List Entry} {entry : Entry}

theorem Unused.cons (hunused : Unused log) (hentry : entry.uses = false) :
    Unused (entry :: log) := by
  intro recent older hsplit hlast other hother
  cases recent with
  | nil => cases hother
  | cons first rest =>
    rw [cons_append, cons.injEq] at hsplit
    rcases mem_cons.mp hother with rfl | hrest
    · rw [← hsplit.1, hentry]
    · exact hunused rest older hsplit.2 (fun hmem => hlast (mem_cons_of_mem _ hmem)) other hrest

theorem unused_pressure : Unused (.pressure :: log) := by
  intro recent older hsplit hlast other hother
  cases recent with
  | nil => cases hother
  | cons first rest =>
    rw [cons_append, cons.injEq] at hsplit
    rw [← hsplit.1] at hlast
    exact absurd mem_cons_self hlast

variable {events : ℕ}

theorem MarkedAt.cons (hmarked : MarkedAt log connId events)
    (hentry : entry.concerns connId = false) : MarkedAt (entry :: log) connId events := by
  obtain ⟨newer, older, rfl, hnewer, hevents⟩ := hmarked
  refine ⟨entry :: newer, older, rfl, ?_, hevents⟩
  intro other hother
  rcases mem_cons.mp hother with rfl | hmem
  · exact hentry
  · exact hnewer other hmem

theorem MarkedAt.mayEvict (hmarked : MarkedAt log connId events)
    (hunused : Unused log) (hnewer : log.count .pressure ≠ events)
    (holdest : (waiting log).head? = some connId) : MayEvict log connId := by
  obtain ⟨newer, older, rfl, hclear, hevents⟩ := hmarked
  have hpressed : .pressure ∈ newer := by
    by_contra habsent
    apply hnewer
    rw [count_append, count_eq_zero.mpr habsent, count_cons_of_ne (by simp), hevents, Nat.zero_add]
  -- the last event is the first one met from the newest entry on
  obtain ⟨recent, between, rfl, hlast⟩ := eq_append_cons_of_mem hpressed
  refine ⟨holdest, recent, between, older, by simp, ?_, ?_⟩
  · intro entry hentry
    refine ⟨fun hsame => hlast (hsame ▸ hentry), ?_⟩
    exact hunused recent (between ++ .marked connId :: older) (by simp) hlast entry hentry
  · intro entry hentry
    apply hclear
    rcases mem_append.mp hentry with hrecent | hbetween
    · exact mem_append_left _ hrecent
    · exact mem_append_right _ (mem_cons_of_mem _ hbetween)

theorem Traced.start : Traced Registry.empty [] where
  coherent := .empty
  queue := rfl
  events := rfl
  evictions := Nat.le_refl 0
  unused := fun hne => absurd rfl hne
  marks := by
    intro connId candidate hlookup
    cases hlookup

section

variable (htraced : Traced registry log)
include htraced

theorem Traced.mark {next : Registry} {connId : ℕ}
    (hmarked : Marked registry next connId) : Traced next (.marked connId :: log) where
  coherent := hmarked.coherent
  queue := by
    rw [hmarked.ordered, map_append, htraced.queue]
    rfl
  events := by
    rw [hmarked.events, htraced.events, count_cons_of_ne (by simp)]
  evictions := by
    rw [hmarked.consumed, countP_cons_of_neg (by simp [Entry.isEviction])]
    exact htraced.evictions
  unused := by
    rw [hmarked.events, hmarked.consumed]
    exact fun hne => (htraced.unused hne).cons rfl
  marks := by
    intro other candidate hlookup
    rw [hmarked.byConnId] at hlookup
    by_cases hsame : other = connId
    · subst hsame
      rw [lookup_insert] at hlookup
      cases hlookup
      refine ⟨[], log, rfl, ?_, htraced.events⟩
      intro entry hentry
      cases hentry
    · rw [lookup_insert_ne hsame] at hlookup
      exact (htraced.marks other candidate hlookup).cons
        (by simpa [Entry.concerns] using Ne.symm hsame)

omit htraced in
theorem Cleared.marks {next : Registry} {connId : ℕ} {entry : Entry}
    (hcleared : Cleared registry next connId)
    (hmarks : ∀ other candidate, registry.byConnId.lookup other = some candidate →
      MarkedAt log other candidate.markPressureSeq)
    (hentry : ∀ other, other ≠ connId → entry.concerns other = false) :
    ∀ other candidate, next.byConnId.lookup other = some candidate →
      MarkedAt (entry :: log) other candidate.markPressureSeq := by
  intro other candidate hlookup
  obtain ⟨hne, hbefore⟩ := (hcleared.others other candidate).mp hlookup
  exact (hmarks other candidate hbefore).cons (hentry other hne)

theorem Traced.clear (connId : ℕ) :
    Traced (clearRelayIdleCandidate registry connId) (.cleared connId :: log) := by
  have hcleared := htraced.coherent.clear connId
  refine ⟨hcleared.coherent, ?_, ?_, ?_, ?_, hcleared.marks htraced.marks ?_⟩
  · rw [hcleared.waiting, htraced.queue]
    rfl
  · rw [hcleared.events, htraced.events, count_cons_of_ne (by simp)]
  · rw [hcleared.consumed, countP_cons_of_neg (by simp [Entry.isEviction])]
    exact htraced.evictions
  · rw [hcleared.events, hcleared.consumed]
    exact fun hne => (htraced.unused hne).cons rfl
  · intro other hne
    simpa [Entry.concerns] using Ne.symm hne

theorem Traced.pressure :
    Traced (noteRelayPressureEvent registry) (.pressure :: log) where
  coherent := htraced.coherent.pressure
  queue := htraced.queue
  events := by
    rw [count_cons_self, ← htraced.events]
    rfl
  evictions := by
    exact htraced.evictions
  unused := fun _ => unused_pressure
  marks := fun connId candidate hlookup => (htraced.marks connId candidate hlookup).cons rfl

theorem Traced.foundNone :
    Traced { registry with pressureConsumedSeq := registry.pressureEventSeq }
      (.foundNone :: log) where
  coherent := htraced.coherent.consume
  queue := htraced.queue
  events := by
    exact htraced.events
  evictions := by
    exact htraced.evictions.trans htraced.coherent.consumed_le
  unused := fun hne => absurd rfl hne
  marks := fun connId candidate hlookup => (htraced.marks connId candidate hlookup).cons rfl

/-- An eviction uses an event that no earlier one has used. -/
theorem Traced.evict (connId : ℕ)
    (hunused : registry.pressureEventSeq ≠ registry.pressureConsumedSeq) :
    Traced
      (clearRelayIdleCandidate
        { registry with pressureConsumedSeq := registry.pressureEventSeq } connId)
      (.evicted connId :: log) := by
  have hcleared := htraced.coherent.consume.clear connId
  refine ⟨hcleared.coherent, ?_, ?_, ?_, ?_, hcleared.marks htraced.marks ?_⟩
  · rw [hcleared.waiting, htraced.queue]
    rfl
  · rw [hcleared.events, count_cons_of_ne (by simp)]
    exact htraced.events
  · rw [hcleared.consumed, countP_cons_of_pos (by simp [Entry.isEviction])]
    have hcount := htraced.evictions
    have hconsumed := htraced.coherent.consumed_le
    dsimp only
    omega
  · rw [hcleared.events, hcleared.consumed]
    exact fun hne => absurd rfl hne
  · intro other hne
    simpa [Entry.concerns] using Ne.symm hne

end

/-! ## Every run -/

def Fair (log : List Entry) : Prop :=
  ∀ later connId past, log = later ++ .evicted connId :: past → MayEvict past connId

theorem Fair.cons (hfair : Fair log)
    (hentry : ∀ connId, entry = .evicted connId → MayEvict log connId) : Fair (entry :: log) := by
  intro later connId past hsplit
  cases later with
  | nil =>
    rw [nil_append, cons.injEq] at hsplit
    rw [← hsplit.2]
    exact hentry connId hsplit.1
  | cons first rest =>
    rw [cons_append, cons.injEq] at hsplit
    exact hfair rest connId past hsplit.2

def Accounted (history : RelayHistory) : Prop :=
  Traced history.registry history.log ∧ Fair history.log

theorem Accounted.start : Accounted .start := by
  refine ⟨.start, ?_⟩
  intro later connId past hsplit
  simp [RelayHistory.start] at hsplit

variable {history : RelayHistory}

theorem Accounted.attempt (haccounted : Accounted history)
    (connId seen : ℕ) : Accounted (history.step (.attempt connId seen)) := by
  obtain ⟨htraced, hfair⟩ := haccounted
  have hattempted := htraced.coherent.attempt connId seen
  simp only [RelayHistory.step]
  generalize maybeEvictIdleCandidateOnPressure history.registry connId seen = answer at hattempted ⊢
  cases hattempted with
  | refused seen => exact ⟨htraced, hfair⟩
  | foundNone hunused hempty =>
    refine ⟨htraced.foundNone, hfair.cons ?_⟩
    intro other hother
    cases hother
  | evicted candidate hunused holdest hlookup hmark =>
    refine ⟨htraced.evict connId hunused, hfair.cons ?_⟩
    intro other hother
    cases hother
    rw [htraced.queue] at holdest
    rw [htraced.events] at hmark
    exact (htraced.marks connId candidate hlookup).mayEvict (htraced.unused hunused) hmark holdest

/-- Every call keeps the registry in step with its history. -/
theorem Accounted.step (haccounted : Accounted history)
    (op : RelayOp) : Accounted (history.step op) := by
  obtain ⟨htraced, hfair⟩ := haccounted
  cases op with
  | mark connId =>
    simp only [RelayHistory.step]
    rcases htraced.coherent.mark connId with hthere | ⟨hanswer, hmarked⟩
    · rw [hthere]
      exact ⟨htraced, hfair⟩
    · rw [hanswer, if_pos rfl]
      refine ⟨htraced.mark hmarked, hfair.cons ?_⟩
      intro other hother
      cases hother
  | clear connId =>
    refine ⟨htraced.clear connId, hfair.cons ?_⟩
    intro other hother
    cases hother
  | pressure =>
    refine ⟨htraced.pressure, hfair.cons ?_⟩
    intro other hother
    cases hother
  | attempt connId seen => exact Accounted.attempt ⟨htraced, hfair⟩ connId seen

theorem RelayHistory.step_pressures (history : RelayHistory) (op : RelayOp) :
    (history.step op).log.count .pressure = history.log.count .pressure + [op].count .pressure := by
  cases op with
  | mark connId =>
    simp only [RelayHistory.step]
    split <;> simp
  | clear | pressure => simp [RelayHistory.step]
  | attempt connId seen =>
    simp only [RelayHistory.step]
    cases (maybeEvictIdleCandidateOnPressure history.registry connId seen).1 <;>
      simp [Entry.ofAttempt]

theorem run_pressures (ops : List RelayOp) (history : RelayHistory) :
    (Runs.run RelayHistory.step ops history).log.count .pressure =
      history.log.count .pressure + ops.count .pressure := by
  induction ops generalizing history with
  | nil => rfl
  | cons op ops ih =>
    have hrest := ih (history.step op)
    rw [history.step_pressures] at hrest
    rw [← singleton_append, count_append, ← Nat.add_assoc]
    exact hrest

/-- Whatever the sessions do, there are no more evictions than pressure events, and each
eviction takes the candidate with the oldest mark on an event that is newer than the mark
and has not been used. -/
theorem evictions_fair (ops : List RelayOp) :
    let log := (Runs.run RelayHistory.step ops .start).log
    log.countP Entry.isEviction ≤ ops.count .pressure ∧
      ∀ later connId past, log = later ++ .evicted connId :: past → MayEvict past connId := by
  obtain ⟨htraced, hfair⟩ : Accounted (Runs.run RelayHistory.step ops .start) :=
    (Runs.along_true ops _).invariant (fun _ op haccounted _ => haccounted.step op) .start
  refine ⟨?_, hfair⟩
  have hcount := run_pressures ops .start
  calc (Runs.run RelayHistory.step ops .start).log.countP Entry.isEviction
      ≤ (Runs.run RelayHistory.step ops .start).registry.pressureConsumedSeq := htraced.evictions
    _ ≤ (Runs.run RelayHistory.step ops .start).registry.pressureEventSeq :=
        htraced.coherent.consumed_le
    _ = ops.count .pressure := by
        rw [htraced.events, hcount]
        exact Nat.zero_add _

example : (Runs.run RelayHistory.step
    [.pressure, .mark 7, .attempt 7 0, .mark 8, .pressure, .attempt 8 0, .attempt 7 0,
      .attempt 8 0, .pressure, .attempt 8 2] .start).log =
    [.evicted 8, .pressure, .evicted 7, .pressure, .marked 8, .marked 7, .pressure] := by
  decide

end TupoProxy.IdleRegistry
