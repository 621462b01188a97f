import TupoProxy.PoolConnect

/-!
# The accounts of the writer pool

`conn_count`, the draining counter, the writer table of the registry and the
lifecycle tasks all follow the list of pool writers.  The counters are compared with
the pool up to the writers whose connects have published but not counted them, and
the tables up to the calls in progress.  When nothing is in progress, the accounts
agree, provided that no connect was dropped behind its publication and that nobody
removed a writer whose connect was still going on.
-/

namespace TupoProxy.MiddleProxy
namespace PoolSystem

open Table AList KeyedList

variable {system : PoolSystem}
  {pool : WriterPool} {writerId now : ℕ} {timeout : Option ℕ} {allow : Bool}

section

variable (hcount : pool.drainingActiveRuntime = pool.writers.entries.countP MeWriter.draining)
include hcount

theorem drainingActive_mark :
    (pool.markWriterDrainingWithTimeout writerId now timeout allow).drainingActiveRuntime =
      (pool.markWriterDrainingWithTimeout writerId now timeout allow).writers.entries.countP
        MeWriter.draining := by
  unfold WriterPool.markWriterDrainingWithTimeout
  cases hfind : pool.writers.find? writerId with
  | none => exact hcount
  | some writer =>
    have hupdate := countP_update (MeWriter.beginDrain_id now timeout allow) hfind
      MeWriter.draining
    have hdrains : (writer.beginDrain now timeout allow).draining = true := rfl
    rw [hdrains, if_pos rfl] at hupdate
    dsimp only
    cases hdraining : writer.draining with
    | true =>
      rw [hdraining, if_pos rfl] at hupdate
      rw [if_pos rfl, hcount]
      omega
    | false =>
      rw [hdraining, if_neg Bool.false_ne_true] at hupdate
      rw [if_neg Bool.false_ne_true, hcount]
      omega

theorem drainingActive_remove {mode : WriterTeardownMode} :
    (pool.removeWriterWithMode mode writerId).2.drainingActiveRuntime =
      (pool.removeWriterWithMode mode writerId).2.writers.entries.countP MeWriter.draining := by
  unfold WriterPool.removeWriterWithMode
  cases hfind : pool.writers.find? writerId with
  | none => exact hcount
  | some writer =>
    have hremove := countP_remove hfind MeWriter.draining
    dsimp only
    split
    · exact hcount
    · dsimp only
      cases hdraining : writer.draining with
      | true =>
        rw [hdraining, if_pos rfl] at hremove
        rw [if_pos rfl, hcount]
        omega
      | false =>
        rw [hdraining, if_neg Bool.false_ne_true] at hremove
        rw [if_neg Bool.false_ne_true, hcount]
        omega

end

variable {writer : MeWriter}

theorem drainingActive_push
    (hfresh : pool.writers.find? writer.id = none) (hdraining : writer.draining = false) :
    (pool.writers.push writer).entries.countP MeWriter.draining =
      pool.writers.entries.countP MeWriter.draining := by
  rw [countP_push hfresh, hdraining, if_neg Bool.false_ne_true, Nat.add_zero]

/-- The connect of a task is at a stage and has a writer id. -/
def Stands (connects : Table ℕ ConnectStage) (task : ℕ) (stage : ConnectStage) (id : ℕ) : Prop :=
  connects.lookup task = some stage ∧ stage.writerId = some id

def Connecting (connects : Table ℕ ConnectStage) (id : ℕ) : Prop :=
  ∃ task stage, Stands connects task stage id

variable {connects : Table ℕ ConnectStage} {task other id : ℕ} {stage later : ConnectStage}

theorem stands_insert :
    Stands (connects.insert task stage) other later id ↔
      (other ≠ task ∧ Stands connects other later id) ∨
        (other = task ∧ later = stage ∧ stage.writerId = some id) := by
  unfold Stands
  by_cases hother : other = task
  · subst hother
    rw [lookup_insert, Option.some.injEq]
    constructor
    · rintro ⟨rfl, hid⟩
      exact .inr ⟨rfl, rfl, hid⟩
    · rintro (⟨hne, -⟩ | ⟨-, rfl, hid⟩)
      · exact absurd rfl hne
      · exact ⟨rfl, hid⟩
  · rw [lookup_insert_ne hother]
    constructor
    · exact fun hstands => .inl ⟨hother, hstands⟩
    · rintro (⟨-, hstands⟩ | ⟨htask, -⟩)
      · exact hstands
      · exact absurd htask hother

theorem stands_erase :
    Stands (connects.erase task) other later id ↔
      other ≠ task ∧ Stands connects other later id := by
  unfold Stands
  by_cases hother : other = task
  · subst hother
    rw [lookup_erase]
    constructor
    · rintro ⟨hlookup, -⟩
      cases hlookup
    · rintro ⟨hne, -⟩
      exact absurd rfl hne
  · rw [lookup_erase_ne hother]
    exact ⟨fun hstands => ⟨hother, hstands⟩, And.right⟩

theorem connecting_insert (hlookup : connects.lookup task = some later)
    (hsame : stage.writerId = later.writerId) :
    Connecting (connects.insert task stage) id ↔ Connecting connects id := by
  constructor
  · rintro ⟨other, found, hstands⟩
    rcases stands_insert.mp hstands with ⟨-, hold⟩ | ⟨-, -, hid⟩
    · exact ⟨other, found, hold⟩
    · exact ⟨task, later, hlookup, hsame ▸ hid⟩
  · rintro ⟨other, found, hlook, hid⟩
    by_cases hother : other = task
    · subst hother
      rw [hlookup] at hlook
      cases hlook
      exact ⟨other, stage, stands_insert.mpr (.inr ⟨rfl, rfl, hsame.trans hid⟩)⟩
    · exact ⟨other, found, stands_insert.mpr (.inl ⟨hother, hlook, hid⟩)⟩

/-- How the tables and the calls in progress stand to the pool. -/
structure Placed (system : PoolSystem) : Prop where
  old : ∀ id, system.Holds id → id < system.nextWriterId
  connectIds : ∀ task stage id, Stands system.connects task stage id → id < system.nextWriterId
  connectsApart : ∀ task other stage later id, Stands system.connects task stage id →
    Stands system.connects other later id → task = other
  unpublished : ∀ task writer, system.connects.lookup task = some (.publishing writer) →
    ¬ system.Holds writer.id ∧ writer.draining = false
  published : ∀ task writer, system.connects.lookup task = some (.registering writer) →
    system.Holds writer.id
  removalIds : ∀ task removal, system.removals.lookup task = some removal →
    removal.writerId < system.nextWriterId ∧ ¬ Connecting system.connects removal.writerId
  gone : ∀ task removal, system.removals.lookup task = some removal →
    removal.stage = .losing → ¬ system.Holds removal.writerId
  lifecycleIds : ∀ id stage, system.lifecycles.lookup id = some stage →
    id < system.nextWriterId ∧ ¬ Connecting system.connects id
  registered : ∀ id, id ∈ system.registry.writers →
    system.Holds id ∨ ∃ task removal, system.removals.lookup task = some removal ∧
      removal.writerId = id ∧ removal.stage = .losing
  known : ∀ id, system.Holds id → id ∈ system.registry.writers ∨
    ∃ task writer, system.connects.lookup task = some (.registering writer) ∧ writer.id = id
  served : ∀ id, system.Holds id →
    (system.lifecycles.lookup id).isSome ∨ Connecting system.connects id

theorem start_placed (nextId : ℕ) : (start nextId).Placed := by
  have hnone : ∀ id, ¬ (start nextId).Holds id := fun id ⟨_, hmem, _⟩ => nomatch hmem
  have hregistry : ∀ id, id ∉ (start nextId).registry.writers := Finset.notMem_empty
  exact
    { old := fun id hholds => absurd hholds (hnone id)
      connectIds := fun _ _ _ hstands => nomatch hstands.1
      connectsApart := fun _ _ _ _ _ hstands => nomatch hstands.1
      unpublished := fun _ _ hlookup => nomatch hlookup
      published := fun _ _ hlookup => nomatch hlookup
      removalIds := fun _ _ hlookup => nomatch hlookup
      gone := fun _ _ hlookup => nomatch hlookup
      lifecycleIds := fun _ _ hlookup => nomatch hlookup
      registered := fun id hid => absurd hid (hregistry id)
      known := fun id hholds => absurd hholds (hnone id)
      served := fun id hholds => absurd hholds (hnone id) }

/-- A step that starts no connect keeps what is said of all connects. -/
theorem Placed.fewer {connects : Table ℕ ConnectStage} (hplaced : system.Placed)
    (hfewer : ∀ task stage id, Stands connects task stage id →
      ∃ earlier, Stands system.connects task earlier id) :
    (∀ task stage id, Stands connects task stage id → id < system.nextWriterId) ∧
      (∀ task other stage later id, Stands connects task stage id →
        Stands connects other later id → task = other) ∧
      (∀ task removal, system.removals.lookup task = some removal →
        removal.writerId < system.nextWriterId ∧ ¬ Connecting connects removal.writerId) ∧
      ∀ id stage, system.lifecycles.lookup id = some stage →
        id < system.nextWriterId ∧ ¬ Connecting connects id := by
  have hconnecting : ∀ id, Connecting connects id → Connecting system.connects id := by
    rintro id ⟨task, stage, hstands⟩
    obtain ⟨earlier, hold⟩ := hfewer task stage id hstands
    exact ⟨task, earlier, hold⟩
  refine ⟨fun task stage id hstands => ?_, fun task other stage later id hone htwo => ?_,
    fun task removal hlook => ?_, fun id stage hlook => ?_⟩
  · obtain ⟨earlier, hold⟩ := hfewer task stage id hstands
    exact hplaced.connectIds task earlier id hold
  · obtain ⟨first, hone⟩ := hfewer task stage id hone
    obtain ⟨second, htwo⟩ := hfewer other later id htwo
    exact hplaced.connectsApart task other first second id hone htwo
  · exact (hplaced.removalIds task removal hlook).imp_right (mt (hconnecting _))
  · exact (hplaced.lifecycleIds id stage hlook).imp_right (mt (hconnecting _))

theorem Placed.of_same_stands {connects : Table ℕ ConnectStage} (hplaced : system.Placed)
    (hstands : ∀ task stage id,
      Stands connects task stage id ↔ Stands system.connects task stage id) :
    Placed { system with connects := connects } := by
  have hconnecting : ∀ id, Connecting connects id ↔ Connecting system.connects id := by
    intro id
    unfold Connecting
    simp only [hstands]
  have hlookup : ∀ task writer stage, connects.lookup task = some stage →
      stage.writerId = some writer → system.connects.lookup task = some stage :=
    fun task writer stage hlook hid => ((hstands task stage writer).mp ⟨hlook, hid⟩).1
  obtain ⟨hids, hapart, hremovals, hlifecycles⟩ :=
    hplaced.fewer fun task stage id hnew => ⟨stage, (hstands task stage id).mp hnew⟩
  exact
    { hplaced with
      connectIds := hids
      connectsApart := hapart
      unpublished := fun task writer hlook =>
        hplaced.unpublished task writer (hlookup task writer.id _ hlook rfl)
      published := fun task writer hlook =>
        hplaced.published task writer (hlookup task writer.id _ hlook rfl)
      removalIds := hremovals
      lifecycleIds := hlifecycles
      known := fun id hholds => by
        rcases hplaced.known id hholds with hin | ⟨task, writer, hlook, hid⟩
        · exact .inl hin
        · exact .inr ⟨task, writer, ((hstands task _ writer.id).mpr ⟨hlook, rfl⟩).1, hid⟩
      served := fun id hholds => by
        rw [hconnecting]
        exact hplaced.served id hholds }

theorem stands_insert_opening {request : ConnectRequest}
    (hold : ∀ stage ∈ connects.lookup task, stage.writerId = none) :
    Stands (connects.insert task (.opening request)) other later id ↔
      Stands connects other later id := by
  rw [stands_insert]
  constructor
  · rintro (⟨-, hstands⟩ | ⟨-, -, hid⟩)
    · exact hstands
    · cases hid
  · intro hstands
    refine .inl ⟨?_, hstands⟩
    rintro rfl
    have hnone := hold later hstands.1
    rw [hstands.2] at hnone
    cases hnone

theorem stands_erase_opening (hold : ∀ stage ∈ connects.lookup task, stage.writerId = none) :
    Stands (connects.erase task) other later id ↔ Stands connects other later id := by
  rw [stands_erase]
  constructor
  · exact And.right
  · intro hstands
    refine ⟨?_, hstands⟩
    rintro rfl
    have hnone := hold later hstands.1
    rw [hstands.2] at hnone
    cases hnone

theorem connect_placed (hplaced : system.Placed) (task : ℕ) (request : ConnectRequest) :
    (system.connect task request).Placed := by
  unfold connect
  split
  · exact hplaced
  · next hnone =>
    rw [Option.not_isSome_iff_eq_none] at hnone
    apply hplaced.of_same_stands
    intro other stage id
    apply stands_insert_opening
    rw [hnone]
    intro stage hstage
    cases hstage

theorem connectError_placed (hplaced : system.Placed) (task : ℕ) :
    (system.connectError task).Placed := by
  unfold connectError
  split
  · next request hlookup =>
    apply hplaced.of_same_stands
    intro other stage id
    apply stands_erase_opening
    rw [hlookup]
    rintro stage ⟨⟩
    rfl
  · exact hplaced

theorem connecting_insert_new (hlookup : connects.lookup task = some later)
    (hnone : later.writerId = none) :
    Connecting (connects.insert task stage) id ↔
      Connecting connects id ∨ stage.writerId = some id := by
  constructor
  · rintro ⟨other, found, hstands⟩
    rcases stands_insert.mp hstands with ⟨-, hold⟩ | ⟨-, -, hid⟩
    · exact .inl ⟨other, found, hold⟩
    · exact .inr hid
  · rintro (⟨other, found, hlook, hid⟩ | hid)
    · refine ⟨other, found, stands_insert.mpr (.inl ⟨?_, hlook, hid⟩)⟩
      rintro rfl
      rw [hlookup] at hlook
      cases hlook
      rw [hnone] at hid
      cases hid
    · exact ⟨task, stage, stands_insert.mpr (.inr ⟨rfl, rfl, hid⟩)⟩

theorem connectOpened_placed (hplaced : system.Placed) (task : ℕ) (sourceIp : IpAddr) :
    (system.connectOpened task sourceIp).Placed := by
  unfold connectOpened
  split
  · next request hlookup =>
    generalize hwriter : request.writer system.nextWriterId sourceIp = writer
    have hid : writer.id = system.nextWriterId := hwriter ▸ rfl
    have hfresh : ¬ system.Holds writer.id := by
      intro hholds
      have hlt := hplaced.old _ hholds
      omega
    have hconnecting : ∀ id, Connecting (system.connects.insert task (.publishing writer)) id ↔
        Connecting system.connects id ∨ writer.id = id := by
      intro id
      rw [connecting_insert_new hlookup rfl]
      exact or_congr_right Option.some_inj
    have hkeeps : ∀ id, id < system.nextWriterId → ¬ Connecting system.connects id →
        ¬ Connecting (system.connects.insert task (.publishing writer)) id := by
      intro id hlt hnot hnow
      rcases (hconnecting id).mp hnow with hold | hnew
      · exact hnot hold
      · omega
    exact
      { hplaced with
        old := fun id hholds => Nat.lt_succ_of_lt (hplaced.old id hholds)
        connectIds := fun other stage id hstands => by
          rcases stands_insert.mp hstands with ⟨-, hold⟩ | ⟨-, -, hnew⟩
          · exact Nat.lt_succ_of_lt (hplaced.connectIds other stage id hold)
          · cases hnew
            exact Nat.lt_succ_of_le (Nat.le_of_eq hid)
        connectsApart := fun one two stage later id hone htwo => by
          rcases stands_insert.mp hone with ⟨-, hone⟩ | ⟨rfl, -, hone⟩
          · rcases stands_insert.mp htwo with ⟨-, htwo⟩ | ⟨-, -, htwo⟩
            · exact hplaced.connectsApart one two stage later id hone htwo
            · cases htwo
              have hlt := hplaced.connectIds one stage _ hone
              omega
          · rcases stands_insert.mp htwo with ⟨-, htwo⟩ | ⟨rfl, -, -⟩
            · cases hone
              have hlt := hplaced.connectIds two later _ htwo
              omega
            · rfl
        unpublished := fun other found hlook => by
          rcases lookup_insert_some hlook with ⟨-, hsame⟩ | ⟨-, hold⟩
          · cases hsame
            exact ⟨hfresh, hwriter ▸ rfl⟩
          · exact hplaced.unpublished other found hold
        published := fun other found hlook => by
          rcases lookup_insert_some hlook with ⟨-, hsame⟩ | ⟨-, hold⟩
          · cases hsame
          · exact hplaced.published other found hold
        removalIds := fun other removal hlook => by
          obtain ⟨hlt, hnot⟩ := hplaced.removalIds other removal hlook
          exact ⟨Nat.lt_succ_of_lt hlt, hkeeps _ hlt hnot⟩
        lifecycleIds := fun id stage hlook => by
          obtain ⟨hlt, hnot⟩ := hplaced.lifecycleIds id stage hlook
          exact ⟨Nat.lt_succ_of_lt hlt, hkeeps _ hlt hnot⟩
        known := fun id hholds => by
          rcases hplaced.known id hholds with hin | ⟨other, found, hlook, hsame⟩
          · exact .inl hin
          · exact .inr ⟨other, found, lookup_insert_other hlook (by rw [hlookup]; nofun), hsame⟩
        served := fun id hholds =>
          (hplaced.served id hholds).imp_right fun hold => (hconnecting id).mpr (.inl hold) }
  · exact hplaced

theorem holds_push (hfresh : pool.writers.find? writer.id = none) :
    (∃ other ∈ pool.writers.push writer, other.id = id) ↔
      (∃ other ∈ pool.writers, other.id = id) ∨ writer.id = id := by
  constructor
  · rintro ⟨other, hother, hid⟩
    rcases (mem_push hfresh).mp hother with hold | rfl
    · exact .inl ⟨other, hold, hid⟩
    · exact .inr hid
  · rintro (⟨other, hother, hid⟩ | hid)
    · exact ⟨other, (mem_push hfresh).mpr (.inl hother), hid⟩
    · exact ⟨writer, (mem_push hfresh).mpr (.inr rfl), hid⟩

theorem find?_eq_none_of_not_holds (hnot : ¬ system.Holds writerId) :
    system.writers.find? writerId = none := by
  rw [find?_eq_none]
  intro writer hwriter hid
  exact hnot ⟨writer, hwriter, hid⟩

theorem stands_of_insert {found : ConnectStage} (hlookup : connects.lookup task = some later)
    (hsame : stage.writerId = later.writerId)
    (hstands : Stands (connects.insert task stage) other found id) :
    ∃ earlier, Stands connects other earlier id := by
  rcases stands_insert.mp hstands with ⟨-, hold⟩ | ⟨rfl, -, hid⟩
  · exact ⟨found, hold⟩
  · exact ⟨later, hlookup, hsame ▸ hid⟩

theorem publish_placed (hplaced : system.Placed)
    (hlookup : system.connects.lookup task = some (.publishing writer)) :
    Placed { system with
      writers := system.writers.push writer
      connects := system.connects.insert task (.registering writer) } := by
  obtain ⟨hnot, -⟩ := hplaced.unpublished task writer hlookup
  have hstands : Stands system.connects task (.publishing writer) writer.id := ⟨hlookup, rfl⟩
  have hsame : (ConnectStage.registering writer).writerId =
      (ConnectStage.publishing writer).writerId := rfl
  have hholds : ∀ id, (∃ other ∈ system.writers.push writer, other.id = id) ↔
      system.Holds id ∨ writer.id = id := fun id => holds_push (find?_eq_none_of_not_holds hnot)
  have hconnecting : ∀ id, Connecting (system.connects.insert task (.registering writer)) id ↔
        Connecting system.connects id := fun id => connecting_insert hlookup hsame
  obtain ⟨hids, hapart, hremovals, hlifecycles⟩ :=
    hplaced.fewer fun _ _ _ => stands_of_insert hlookup hsame
  exact
    { old := fun id hnow => by
        rcases (hholds id).mp hnow with hold | rfl
        · exact hplaced.old id hold
        · exact hplaced.connectIds task _ _ hstands
      connectIds := hids
      connectsApart := hapart
      unpublished := fun other found hlook => by
        rcases lookup_insert_some hlook with ⟨-, hnew⟩ | ⟨hother, hold⟩
        · cases hnew
        · obtain ⟨habsent, hdraining⟩ := hplaced.unpublished other found hold
          refine ⟨fun hnow => ?_, hdraining⟩
          rcases (hholds found.id).mp hnow with hpresent | hid
          · exact habsent hpresent
          · rw [hid] at hstands
            exact hother (hplaced.connectsApart other task _ _ _ ⟨hold, rfl⟩ hstands)
      published := fun other found hlook => by
        rcases lookup_insert_some hlook with ⟨-, hnew⟩ | ⟨-, hold⟩
        · cases hnew
          exact (hholds _).mpr (.inr rfl)
        · exact (hholds _).mpr (.inl (hplaced.published other found hold))
      removalIds := hremovals
      gone := fun other removal hlook hlosing hnow => by
        rcases (hholds _).mp hnow with hpresent | hid
        · exact hplaced.gone other removal hlook hlosing hpresent
        · exact (hplaced.removalIds other removal hlook).2 ⟨task, _, hid ▸ hstands⟩
      lifecycleIds := hlifecycles
      registered := fun id hid =>
        (hplaced.registered id hid).imp_left fun hold => (hholds id).mpr (.inl hold)
      known := fun id hnow => by
        rcases (hholds id).mp hnow with hold | hid
        · rcases hplaced.known id hold with hin | ⟨other, found, hlook, hfound⟩
          · exact .inl hin
          · exact .inr ⟨other, found, lookup_insert_other hlook (by rw [hlookup]; nofun), hfound⟩
        · exact .inr ⟨task, writer, lookup_insert _, hid⟩
      served := fun id hnow => by
        rw [hconnecting]
        rcases (hholds id).mp hnow with hold | rfl
        · exact hplaced.served id hold
        · exact .inr ⟨task, _, hstands⟩ }

theorem register_placed (hplaced : system.Placed) (now : ℕ)
    (hlookup : system.connects.lookup task = some (.registering writer)) :
    Placed { system with
      registry := system.registry.registerWriter now writer.id
      connects := system.connects.insert task (.markingIdle writer) } := by
  have hsame : (ConnectStage.markingIdle writer).writerId =
      (ConnectStage.registering writer).writerId := rfl
  have hconnecting : ∀ id, Connecting (system.connects.insert task (.markingIdle writer)) id ↔
        Connecting system.connects id := fun id => connecting_insert hlookup hsame
  obtain ⟨hids, hapart, hremovals, hlifecycles⟩ :=
    hplaced.fewer fun _ _ _ => stands_of_insert hlookup hsame
  exact
    { hplaced with
      connectIds := hids
      connectsApart := hapart
      unpublished := fun other found hlook => by
        rcases lookup_insert_some hlook with ⟨-, hnew⟩ | ⟨-, hold⟩
        · cases hnew
        · exact hplaced.unpublished other found hold
      published := fun other found hlook => by
        rcases lookup_insert_some hlook with ⟨-, hnew⟩ | ⟨-, hold⟩
        · cases hnew
        · exact hplaced.published other found hold
      removalIds := hremovals
      lifecycleIds := hlifecycles
      registered := fun id hid => by
        rcases Finset.mem_insert.mp hid with rfl | hold
        · exact .inl (hplaced.published task writer hlookup)
        · exact hplaced.registered id hold
      known := fun id hholds => by
        by_cases hid : id = writer.id
        · exact .inl (Finset.mem_insert.mpr (.inl hid))
        · rcases hplaced.known id hholds with hin | ⟨other, found, hlook, hfound⟩
          · exact .inl (Finset.mem_insert_of_mem hin)
          · refine .inr ⟨other, found, lookup_insert_other hlook ?_, hfound⟩
            rw [hlookup]
            rintro ⟨⟩
            exact hid hfound.symm
      served := fun id hholds => by
        rw [hconnecting]
        exact hplaced.served id hholds }

theorem writers_markWriterIdle (registry : ConnRegistry) (now writerId : ℕ) :
    (registry.markWriterIdle now writerId).writers = registry.writers :=
  congrArg (fun tables => tables.2.1) (ConnRegistry.hotTables_markWriterIdle now writerId)

theorem finish_placed (hplaced : system.Placed) (now : ℕ)
    (hlookup : system.connects.lookup task = some (.markingIdle writer)) :
    Placed { system with
      registry := system.registry.markWriterIdle now writer.id
      connCount := (system.connCount + 1) % 2 ^ 64
      lifecycles := system.lifecycles.insert writer.id .selecting
      connects := system.connects.erase task } := by
  have hstands : Stands system.connects task (.markingIdle writer) writer.id := ⟨hlookup, rfl⟩
  have hdone : ¬ Connecting (system.connects.erase task) writer.id := by
    rintro ⟨other, stage, hother⟩
    obtain ⟨hne, hother⟩ := stands_erase.mp hother
    exact hne (hplaced.connectsApart other task stage _ _ hother hstands)
  obtain ⟨hids, hapart, hremovals, hlifecycles⟩ :=
    hplaced.fewer fun _ stage _ hnow => ⟨stage, (stands_erase.mp hnow).2⟩
  exact
    { hplaced with
      connectIds := hids
      connectsApart := hapart
      unpublished := fun other found hlook =>
        hplaced.unpublished other found (lookup_erase_some hlook).2
      published := fun other found hlook =>
        hplaced.published other found (lookup_erase_some hlook).2
      removalIds := hremovals
      lifecycleIds := fun id stage hlook => by
        rcases lookup_insert_some hlook with ⟨rfl, -⟩ | ⟨-, hold⟩
        · exact ⟨hplaced.connectIds task _ _ hstands, hdone⟩
        · exact hlifecycles id stage hold
      registered := fun id hid => by
        rw [writers_markWriterIdle] at hid
        exact hplaced.registered id hid
      known := fun id hholds => by
        rw [writers_markWriterIdle]
        rcases hplaced.known id hholds with hin | ⟨other, found, hlook, hfound⟩
        · exact .inl hin
        · exact .inr ⟨other, found, lookup_erase_other hlook (by rw [hlookup]; nofun), hfound⟩
      served := fun id hholds => by
        by_cases hid : id = writer.id
        · subst hid
          rw [lookup_insert]
          exact .inl rfl
        · rw [lookup_insert_ne hid]
          rcases hplaced.served id hholds with hrunning | ⟨other, stage, hother⟩
          · exact .inl hrunning
          · refine .inr ⟨other, stage, stands_erase.mpr ⟨?_, hother⟩⟩
            rintro rfl
            have hstage := hother.1.symm.trans hlookup
            cases hstage
            exact hid (Option.some.inj hother.2).symm }

theorem connectAdvance_placed (hplaced : system.Placed) (task now : ℕ) :
    (system.connectAdvance task now).Placed := by
  unfold connectAdvance
  split
  · next writer hlookup => exact publish_placed hplaced hlookup
  · next writer hlookup => exact register_placed hplaced now hlookup
  · next writer hlookup => exact finish_placed hplaced now hlookup
  · exact hplaced

/-- A connect that is dropped before it publishes leaves nothing behind. -/
theorem connectAbandon_placed (hplaced : system.Placed) (task : ℕ)
    (hcareful : system.Careful (.connectAbandon task)) : (system.connectAbandon task).Placed := by
  have hserved : ∀ id other stage, system.Holds id → Stands system.connects other stage id →
      other ≠ task ∨ (system.lifecycles.lookup id).isSome := by
    intro id other stage hholds hstands
    by_contra hnot
    rw [not_or, not_not] at hnot
    obtain ⟨rfl, -⟩ := hnot
    have hunpublished := hcareful stage hstands.1
    cases stage with
    | opening request => cases hstands.2
    | publishing writer =>
      obtain ⟨habsent, -⟩ := hplaced.unpublished other writer hstands.1
      cases hstands.2
      exact habsent hholds
    | registering | markingIdle => cases hunpublished
  obtain ⟨hids, hapart, hremovals, hlifecycles⟩ :=
    hplaced.fewer fun _ stage _ hnow => ⟨stage, (stands_erase.mp hnow).2⟩
  exact
    { hplaced with
      connectIds := hids
      connectsApart := hapart
      unpublished := fun other found hlook =>
        hplaced.unpublished other found (lookup_erase_some hlook).2
      published := fun other found hlook =>
        hplaced.published other found (lookup_erase_some hlook).2
      removalIds := hremovals
      lifecycleIds := hlifecycles
      known := fun id hholds => by
        rcases hplaced.known id hholds with hin | ⟨other, found, hlook, hfound⟩
        · exact .inl hin
        · exact .inr
            ⟨other, found, lookup_erase_other hlook (fun hhere => nomatch hcareful _ hhere), hfound⟩
      served := fun id hholds => by
        rcases hplaced.served id hholds with hrunning | ⟨other, stage, hother⟩
        · exact .inl hrunning
        · rcases hserved id other stage hholds hother with hne | hrunning
          · exact .inr ⟨other, stage, stands_erase.mpr ⟨hne, hother⟩⟩
          · exact .inl hrunning }

/-! ## Steps of a removal -/

variable {removal : WriterRemoval}

section

variable (hplaced : system.Placed)
include hplaced

theorem Placed.add_removal (hnone : system.removals.lookup task = none)
    (hid : removal.writerId < system.nextWriterId ∧
      ¬ Connecting system.connects removal.writerId) (hlocking : removal.stage = .locking) :
    Placed { system with removals := system.removals.insert task removal } :=
  { hplaced with
    removalIds := fun other found hlook => by
      rcases lookup_insert_some hlook with ⟨-, rfl⟩ | ⟨-, hold⟩
      · exact hid
      · exact hplaced.removalIds other found hold
    gone := fun other found hlook hlosing => by
      rcases lookup_insert_some hlook with ⟨-, rfl⟩ | ⟨-, hold⟩
      · rw [hlocking] at hlosing
        cases hlosing
      · exact hplaced.gone other found hold hlosing
    registered := fun id hin => by
      rcases hplaced.registered id hin with hholds | ⟨other, found, hlook, hfound⟩
      · exact .inl hholds
      · exact .inr ⟨other, found, lookup_insert_other hlook (by rw [hnone]; nofun), hfound⟩ }

theorem remove_placed (task writerId : ℕ) (mode : WriterTeardownMode)
    (hcareful : system.Careful (.remove task writerId mode)) :
    (system.remove task writerId mode).Placed := by
  unfold remove
  split
  · exact hplaced
  · next hnone =>
    obtain ⟨hlt, hnot⟩ := hcareful
    refine hplaced.add_removal (Option.not_isSome_iff_eq_none.mp hnone) ⟨hlt, ?_⟩ rfl
    rintro ⟨other, stage, hlook, hid⟩
    exact hnot ⟨other, stage⟩ (mem_lookup_iff.mp hlook) hid

theorem lifecycleExit_placed (task writerId : ℕ) : (system.lifecycleExit task writerId).Placed := by
  unfold lifecycleExit
  split
  · exact hplaced
  · next hnone =>
    split
    · next hselecting =>
      have hid := hplaced.lifecycleIds writerId _ hselecting
      have hexit : Placed { system with
          lifecycles := system.lifecycles.insert writerId .removing } :=
        { hplaced with
          lifecycleIds := fun id stage hlook => by
            rcases lookup_insert_some hlook with ⟨rfl, -⟩ | ⟨-, hold⟩
            · exact hid
            · exact hplaced.lifecycleIds id stage hold
          served := fun id hholds => by
            refine (hplaced.served id hholds).imp_left fun hrunning => ?_
            by_cases hwriter : id = writerId
            · subst hwriter
              rw [lookup_insert]
              rfl
            · rw [lookup_insert_ne hwriter]
              exact hrunning }
      exact hexit.add_removal (Option.not_isSome_iff_eq_none.mp hnone) hid rfl
    · exact hplaced

omit hplaced in
theorem holds_removeWriter (hfound : system.refusesRemoval removal = false) :
    (∃ writer ∈ (system.removeWriterWithMode removal.mode removal.writerId).2.writers,
        writer.id = id) ↔ system.Holds id ∧ id ≠ removal.writerId := by
  unfold WriterPool.removeWriterWithMode
  cases hfind : system.writers.find? removal.writerId with
  | none =>
    have hother := find?_eq_none.mp hfind
    constructor
    · rintro ⟨writer, hwriter, rfl⟩
      exact ⟨⟨writer, hwriter, rfl⟩, hother writer hwriter⟩
    · exact And.left
  | some writer =>
    have hgo : ¬ (removal.mode = .drainingOnly ∧ writer.draining = false) := by
      intro hrefuse
      rw [refusesRemoval, hfind, Option.map_some, hrefuse.2] at hfound
      exact of_decide_eq_false hfound ⟨hrefuse.1, rfl⟩
    dsimp only
    rw [if_neg hgo]
    constructor
    · rintro ⟨other, hother, rfl⟩
      obtain ⟨hmem, hne⟩ := mem_remove.mp hother
      exact ⟨⟨other, hmem, rfl⟩, hne⟩
    · rintro ⟨⟨other, hmem, rfl⟩, hne⟩
      exact ⟨other, mem_remove.mpr ⟨hmem, hne⟩, rfl⟩

theorem unpublish_placed (hlookup : system.removals.lookup task = some removal)
    (hfound : system.refusesRemoval removal = false) :
    Placed { system with
      toWriterPool := (system.removeWriterWithMode removal.mode removal.writerId).2
      removals := system.removals.insert task { removal with stage := .losing } } := by
  obtain ⟨hlt, hnot⟩ := hplaced.removalIds task removal hlookup
  have hholds : ∀ id,
      (∃ writer ∈ (system.removeWriterWithMode removal.mode removal.writerId).2.writers,
        writer.id = id) ↔ system.Holds id ∧ id ≠ removal.writerId :=
    fun id => holds_removeWriter hfound
  exact
    { hplaced with
      old := fun id hnow => hplaced.old id ((hholds id).mp hnow).1
      unpublished := fun other writer hlook => by
        obtain ⟨habsent, hdraining⟩ := hplaced.unpublished other writer hlook
        exact ⟨fun hnow => habsent ((hholds _).mp hnow).1, hdraining⟩
      published := fun other writer hlook => by
        refine (hholds _).mpr ⟨hplaced.published other writer hlook, fun hid => ?_⟩
        exact hnot ⟨other, _, hlook, congrArg some hid⟩
      removalIds := fun other found hlook => by
        rcases lookup_insert_some hlook with ⟨-, rfl⟩ | ⟨-, hold⟩
        · exact ⟨hlt, hnot⟩
        · exact hplaced.removalIds other found hold
      gone := fun other found hlook hlosing hnow => by
        obtain ⟨hthere, hne⟩ := (hholds _).mp hnow
        rcases lookup_insert_some hlook with ⟨-, rfl⟩ | ⟨-, hold⟩
        · exact hne rfl
        · exact hplaced.gone other found hold hlosing hthere
      registered := fun id hin => by
        by_cases hid : id = removal.writerId
        · exact .inr ⟨task, _, lookup_insert _, hid.symm, rfl⟩
        · rcases hplaced.registered id hin with hthere | ⟨other, found, hlook, hother, hlosing⟩
          · exact .inl ((hholds id).mpr ⟨hthere, hid⟩)
          · refine .inr ⟨other, found, lookup_insert_other hlook ?_, hother, hlosing⟩
            rw [hlookup]
            rintro ⟨⟩
            exact hid hother.symm
      known := fun id hnow => hplaced.known id ((hholds id).mp hnow).1
      served := fun id hnow => hplaced.served id ((hholds id).mp hnow).1 }

theorem lose_placed
    (hlookup : system.removals.lookup task = some removal) (hlosing : removal.stage = .losing) :
    Placed { system with
      registry := (system.registry.writerLost removal.writerId).2
      lifecycles := system.endLifecycle removal
      removals := system.removals.erase task } := by
  have hgone := hplaced.gone task removal hlookup hlosing
  have hlifecycles : ∀ id, id ≠ removal.writerId →
      (system.endLifecycle removal).lookup id = system.lifecycles.lookup id := by
    intro id hid
    unfold endLifecycle
    split
    · exact lookup_erase_ne hid
    · rfl
  have hstill : ∀ id stage, (system.endLifecycle removal).lookup id = some stage →
      system.lifecycles.lookup id = some stage := by
    intro id stage hlook
    unfold endLifecycle at hlook
    split at hlook
    · exact (lookup_erase_some hlook).2
    · exact hlook
  exact
    { hplaced with
      removalIds := fun other found hlook =>
        hplaced.removalIds other found (lookup_erase_some hlook).2
      gone := fun other found hlook =>
        hplaced.gone other found (lookup_erase_some hlook).2
      lifecycleIds := fun id stage hlook => hplaced.lifecycleIds id stage (hstill id stage hlook)
      registered := fun id hin => by
        rw [ConnRegistry.writers_writerLost, Finset.mem_erase] at hin
        obtain ⟨hid, hin⟩ := hin
        rcases hplaced.registered id hin with hthere | ⟨other, found, hlook, hother, hstage⟩
        · exact .inl hthere
        · refine .inr ⟨other, found, lookup_erase_other hlook ?_, hother, hstage⟩
          rw [hlookup]
          rintro ⟨⟩
          exact hid hother.symm
      known := fun id hholds => by
        rw [ConnRegistry.writers_writerLost, Finset.mem_erase]
        refine (hplaced.known id hholds).imp_left fun hin => ⟨?_, hin⟩
        rintro rfl
        exact hgone hholds
      served := fun id hholds => by
        rw [hlifecycles id fun hid => hgone (hid ▸ hholds)]
        exact hplaced.served id hholds }

theorem removalAdvance_placed (task : ℕ) : (system.removalAdvance task).Placed := by
  unfold removalAdvance
  cases hlookup : system.removals.lookup task with
  | none => exact hplaced
  | some removal =>
    dsimp only
    cases hstage : removal.stage with
    | losing => exact lose_placed hplaced hlookup hstage
    | locking =>
      dsimp only
      split
      · exact
          { hplaced with
            removalIds := fun other found hlook =>
              hplaced.removalIds other found (lookup_erase_some hlook).2
            gone := fun other found hlook =>
              hplaced.gone other found (lookup_erase_some hlook).2
            registered := fun id hin => by
              rcases hplaced.registered id hin with hthere | ⟨other, found, hlook, hother, hlosing⟩
              · exact .inl hthere
              · refine .inr ⟨other, found, lookup_erase_other hlook ?_, hother, hlosing⟩
                rw [hlookup]
                rintro ⟨⟩
                rw [hstage] at hlosing
                cases hlosing }
      · next hfound =>
        exact unpublish_placed hplaced hlookup (Bool.eq_false_iff.mpr hfound)

omit hplaced in
theorem holds_markWriterDraining {pool : WriterPool} {writerId now : ℕ} {timeout : Option ℕ}
    {allow : Bool} :
    (∃ writer ∈ (pool.markWriterDrainingWithTimeout writerId now timeout allow).writers,
        writer.id = id) ↔ ∃ writer ∈ pool.writers, writer.id = id := by
  constructor
  · rintro ⟨writer, hwriter, hid⟩
    rcases mem_markWriterDraining.mp hwriter with ⟨hmem, -⟩ | ⟨old, hmem, -, rfl⟩
    · exact ⟨writer, hmem, hid⟩
    · exact ⟨old, hmem, hid⟩
  · rintro ⟨writer, hwriter, hid⟩
    by_cases hwanted : writer.id = writerId
    · exact ⟨_, mem_markWriterDraining.mpr (.inr ⟨writer, hwriter, hwanted, rfl⟩), hid⟩
    · exact ⟨writer, mem_markWriterDraining.mpr (.inl ⟨hwriter, hwanted⟩), hid⟩

theorem mark_placed (task : ℕ) (mark : DrainMark) : (system.mark task mark).Placed := by
  unfold PoolSystem.mark
  split
  · exact hplaced
  · exact { hplaced with }

theorem markAdvance_placed (task now : ℕ) : (system.markAdvance task now).Placed := by
  unfold markAdvance
  cases hlookup : system.marks.lookup task with
  | none => exact hplaced
  | some mark =>
    have hholds : ∀ id,
        (∃ writer ∈ (system.markWriterDrainingWithTimeout mark.writerId now mark.timeout
          mark.allowDrainFallback).writers, writer.id = id) ↔ system.Holds id :=
      fun id => holds_markWriterDraining
    exact
      { hplaced with
        old := fun id hnow => hplaced.old id ((hholds id).mp hnow)
        unpublished := fun other writer hlook => by
          obtain ⟨habsent, hdraining⟩ := hplaced.unpublished other writer hlook
          exact ⟨fun hnow => habsent ((hholds _).mp hnow), hdraining⟩
        published := fun other writer hlook =>
          (hholds _).mpr (hplaced.published other writer hlook)
        gone := fun other found hlook hlosing hnow =>
          hplaced.gone other found hlook hlosing ((hholds _).mp hnow)
        registered := fun id hin => (hplaced.registered id hin).imp_left (hholds id).mpr
        known := fun id hnow => hplaced.known id ((hholds id).mp hnow)
        served := fun id hnow => hplaced.served id ((hholds id).mp hnow) }

end

/-- The counters agree with the pool up to the writers that are not counted yet. -/
structure Counted (system : PoolSystem) : Prop where
  bounded : system.connCount < 2 ^ 64
  balance :
    (system.connCount + system.connects.total fun _ stage => stage.published.toNat) % 2 ^ 64 =
      system.writers.entries.length % 2 ^ 64
  draining : system.drainingActiveRuntime = system.writers.entries.countP MeWriter.draining

theorem start_counted (nextId : ℕ) : (start nextId).Counted :=
  ⟨Nat.two_pow_pos 64, rfl, rfl⟩

theorem Counted.of_same_total {connects : Table ℕ ConnectStage} {nextWriterId : ℕ}
    (hcounted : system.Counted) (htotal : (connects.total fun _ stage => stage.published.toNat) =
      system.connects.total fun _ stage => stage.published.toNat) :
    Counted { system with connects := connects, nextWriterId := nextWriterId } := by
  refine ⟨hcounted.bounded, ?_, hcounted.draining⟩
  rw [← hcounted.balance]
  rw [htotal]

theorem length_markWriterDraining :
    (pool.markWriterDrainingWithTimeout writerId now timeout allow).writers.entries.length =
      pool.writers.entries.length := by
  unfold WriterPool.markWriterDrainingWithTimeout
  split
  · rfl
  · exact List.length_map _

theorem connCount_markWriterDraining :
    (pool.markWriterDrainingWithTimeout writerId now timeout allow).connCount = pool.connCount := by
  unfold WriterPool.markWriterDrainingWithTimeout
  split
  · rfl
  · rfl

theorem removeWriter_balance {pool : WriterPool} {mode : WriterTeardownMode} {writerId : ℕ}
    (hbounded : pool.connCount < 2 ^ 64) :
    (pool.removeWriterWithMode mode writerId).2.connCount < 2 ^ 64 ∧
      ((pool.removeWriterWithMode mode writerId).2 = pool ∨
        ((pool.removeWriterWithMode mode writerId).2.writers.entries.length + 1 =
            pool.writers.entries.length ∧
          ((pool.removeWriterWithMode mode writerId).2.connCount + 1) % 2 ^ 64 =
            pool.connCount)) := by
  unfold WriterPool.removeWriterWithMode
  cases hfind : pool.writers.find? writerId with
  | none => exact ⟨hbounded, .inl rfl⟩
  | some writer =>
    dsimp only
    split
    · exact ⟨hbounded, .inl rfl⟩
    · have hremove := countP_remove hfind fun _ => true
      rw [List.countP_true, if_pos rfl] at hremove
      refine ⟨Nat.mod_lt _ (by decide), .inr ⟨hremove, ?_⟩⟩
      dsimp only
      unfold u64Max
      omega

theorem connect_counted (hcounted : system.Counted) (task : ℕ) (request : ConnectRequest) :
    (system.connect task request).Counted := by
  unfold connect
  split
  · exact hcounted
  · next hnone =>
    apply hcounted.of_same_total
    rw [total_insert_new _ (Option.not_isSome_iff_eq_none.mp hnone)]
    exact Nat.zero_add _

theorem total_erase_unpublished (hold : ∀ stage ∈ connects.lookup task, stage.published = false) :
    Table.total (connects.erase task) (fun _ stage => stage.published.toNat) =
      connects.total fun _ stage => stage.published.toNat := by
  cases hlookup : connects.lookup task with
  | none => exact total_erase_none _ hlookup
  | some stage =>
    have herase := total_erase_add (fun _ stage => stage.published.toNat) hlookup
    rw [hold stage hlookup] at herase
    exact herase

theorem connectError_counted (hcounted : system.Counted) (task : ℕ) :
    (system.connectError task).Counted := by
  unfold connectError
  split
  · next request hlookup =>
    apply hcounted.of_same_total
    apply total_erase_unpublished
    rw [hlookup]
    rintro stage ⟨⟩
    rfl
  · exact hcounted

theorem connectOpened_counted (hcounted : system.Counted) (task : ℕ) (sourceIp : IpAddr) :
    (system.connectOpened task sourceIp).Counted := by
  unfold connectOpened
  split
  · next request hlookup =>
    apply hcounted.of_same_total
    have htotal := total_insert_replace (fun _ stage => stage.published.toNat)
      (.publishing (request.writer system.nextWriterId sourceIp)) hlookup
    exact htotal.trans (Nat.zero_add _)
  · exact hcounted

theorem connectAdvance_counted (hplaced : system.Placed) (hcounted : system.Counted)
    (task now : ℕ) : (system.connectAdvance task now).Counted := by
  have hbalance := hcounted.balance
  unfold connectAdvance
  split
  · next writer hlookup =>
    obtain ⟨hnot, hdraining⟩ := hplaced.unpublished task writer hlookup
    have hfresh := find?_eq_none_of_not_holds hnot
    have htotal := total_insert_replace (fun _ stage => stage.published.toNat)
      (.registering writer) hlookup
    have hlength : (system.writers.push writer).entries.length =
        system.writers.entries.length + 1 := by
      rw [entries_push hfresh, List.length_append, List.length_singleton]
    refine ⟨hcounted.bounded, ?_, ?_⟩
    · change _ + 0 = 1 + _ at htotal
      dsimp only at htotal hlength ⊢
      omega
    · dsimp only
      rw [drainingActive_push hfresh hdraining]
      exact hcounted.draining
  · next writer hlookup =>
    have htotal := total_insert_replace (fun _ stage => stage.published.toNat)
      (.markingIdle writer) hlookup
    change _ + 1 = 1 + _ at htotal
    refine ⟨hcounted.bounded, ?_, hcounted.draining⟩
    dsimp only at htotal ⊢
    omega
  · next writer hlookup =>
    have htotal := total_erase_add (fun _ stage => stage.published.toNat) hlookup
    change _ + 1 = _ at htotal
    refine ⟨Nat.mod_lt _ (Nat.two_pow_pos 64), ?_, hcounted.draining⟩
    dsimp only at htotal ⊢
    omega
  · exact hcounted

theorem removalAdvance_counted (hcounted : system.Counted) (task : ℕ) :
    (system.removalAdvance task).Counted := by
  have hbalance := hcounted.balance
  unfold removalAdvance
  cases hlookup : system.removals.lookup task with
  | none => exact hcounted
  | some removal =>
    dsimp only
    cases hstage : removal.stage with
    | losing => exact { hcounted with }
    | locking =>
      dsimp only
      split
      · exact { hcounted with }
      · obtain ⟨hbounded, hsame | ⟨hlength, hcount⟩⟩ :=
          @removeWriter_balance system.toWriterPool removal.mode removal.writerId hcounted.bounded
        · rw [hsame]
          exact { hcounted with }
        · refine ⟨hbounded, ?_, drainingActive_remove hcounted.draining⟩
          dsimp only
          omega

theorem markAdvance_counted (hcounted : system.Counted) (task now : ℕ) :
    (system.markAdvance task now).Counted := by
  unfold markAdvance
  cases hlookup : system.marks.lookup task with
  | none => exact hcounted
  | some mark =>
    refine ⟨?_, ?_, drainingActive_mark hcounted.draining⟩
    · dsimp only
      rw [connCount_markWriterDraining]
      exact hcounted.bounded
    · dsimp only
      rw [connCount_markWriterDraining, length_markWriterDraining]
      exact hcounted.balance

/-! ## Runs -/

variable {action : PoolAction}

/-- Every careful step keeps the tables and the calls in line with the pool. -/
theorem step_placed (hplaced : system.Placed)
    (hcareful : system.Careful action) : (system.step action).Placed := by
  cases action with
  | connect task request => exact connect_placed hplaced task request
  | connectError task => exact connectError_placed hplaced task
  | connectOpened task sourceIp => exact connectOpened_placed hplaced task sourceIp
  | connectAdvance task now => exact connectAdvance_placed hplaced task now
  | connectAbandon task => exact connectAbandon_placed hplaced task hcareful
  | remove task writerId mode => exact remove_placed hplaced task writerId mode hcareful
  | lifecycleExit task writerId => exact lifecycleExit_placed hplaced task writerId
  | removalAdvance task => exact removalAdvance_placed hplaced task
  | mark task mark => exact mark_placed hplaced task mark
  | markAdvance task now => exact markAdvance_placed hplaced task now

/-- Every careful step keeps both counters in line with the pool. -/
theorem step_counted (hplaced : system.Placed)
    (hcounted : system.Counted) (hcareful : system.Careful action) :
    (system.step action).Counted := by
  cases action with
  | connect task request => exact connect_counted hcounted task request
  | connectError task => exact connectError_counted hcounted task
  | connectOpened task sourceIp => exact connectOpened_counted hcounted task sourceIp
  | connectAdvance task now => exact connectAdvance_counted hplaced hcounted task now
  | connectAbandon task => exact hcounted.of_same_total (total_erase_unpublished hcareful)
  | remove task writerId mode =>
    change (system.remove task writerId mode).Counted
    unfold remove
    split
    · exact hcounted
    · exact { hcounted with }
  | lifecycleExit task writerId =>
    change (system.lifecycleExit task writerId).Counted
    unfold lifecycleExit
    split
    · exact hcounted
    · split
      · exact { hcounted with }
      · exact hcounted
  | removalAdvance task => exact removalAdvance_counted hcounted task
  | mark task mark =>
    change (system.mark task mark).Counted
    unfold PoolSystem.mark
    split
    · exact hcounted
    · exact { hcounted with }
  | markAdvance task now => exact markAdvance_counted hcounted task now

theorem lookup_eq_none_of_nil {β : Type} {table : Table ℕ β} (hnil : table.entries = [])
    (key : ℕ) : table.lookup key = none := by
  rw [lookup, hnil]
  rfl

theorem Placed.accounted (hplaced : system.Placed) (hcounted : system.Counted)
    (hquiet : system.Quiet) : system.Accounted := by
  obtain ⟨hconnects, hremovals, -⟩ := hquiet
  have hnone := lookup_eq_none_of_nil hconnects
  refine ⟨?_, hcounted.draining, fun id => ⟨fun hin => ?_, fun hholds => ?_⟩, fun id hholds => ?_⟩
  · have htotal : (system.connects.total fun _ stage => stage.published.toNat) = 0 := by
      rw [Table.total, hconnects]
      rfl
    have hbalance := hcounted.balance
    rw [htotal, Nat.add_zero, Nat.mod_eq_of_lt hcounted.bounded] at hbalance
    exact hbalance
  · rcases hplaced.registered id hin with hholds | ⟨task, removal, hlook, -⟩
    · exact hholds
    · rw [lookup_eq_none_of_nil hremovals] at hlook
      cases hlook
  · rcases hplaced.known id hholds with hin | ⟨task, writer, hlook, -⟩
    · exact hin
    · rw [hnone] at hlook
      cases hlook
  · rcases hplaced.served id hholds with hrunning | ⟨task, stage, hlook, -⟩
    · exact hrunning
    · rw [hnone] at hlook
      cases hlook

/-- In every run in which no connect is dropped behind its publication and removals
are called for finished connects only, the accounts are right whenever nothing is in
progress. -/
theorem run_accounted (nextId : ℕ) (actions : List PoolAction)
    (hcareful : Runs.Along step Careful actions (start nextId))
    (hquiet : (Runs.run step actions (start nextId)).Quiet) :
    (Runs.run step actions (start nextId)).Accounted := by
  have hkept : (Runs.run step actions (start nextId)).Placed ∧
      (Runs.run step actions (start nextId)).Counted := by
    have hstep : ∀ system action, Placed system ∧ Counted system → system.Careful action →
        (system.step action).Placed ∧ (system.step action).Counted := by
      rintro system action ⟨hplaced, hcounted⟩ hgood
      exact ⟨step_placed hplaced hgood, step_counted hplaced hcounted hgood⟩
    exact hcareful.invariant hstep ⟨start_placed nextId, start_counted nextId⟩
  exact hkept.1.accounted hkept.2 hquiet

def plainRequest : ConnectRequest := ⟨⟨.v4 149 154 175 50, 8888⟩, 1, .active, 2⟩

def plainSource : IpAddr := .v4 192 0 2 7

def connectsFully (task : ℕ) : List PoolAction :=
  [.connect task plainRequest, .connectOpened task plainSource, .connectAdvance task 100,
    .connectAdvance task 100, .connectAdvance task 101]

/-- Two connects, a third that is dropped in its handshake, and the first writer
marked and removed, while its lifecycle task ends. -/
def rotation : List PoolAction :=
  connectsFully 0 ++ connectsFully 1 ++
    [.connect 2 plainRequest, .mark 0 ⟨1, some 300, false⟩, .connectAbandon 2,
      .markAdvance 0 200, .remove 0 1 .drainingOnly, .lifecycleExit 1 1, .removalAdvance 0,
      .removalAdvance 1, .removalAdvance 1, .removalAdvance 0]

theorem run_accounted_rotation : (Runs.run step rotation (start 5)).Accounted :=
  run_accounted 5 rotation (by decide +kernel) ⟨rfl, rfl, rfl⟩

def timedOut : List PoolAction :=
  [.connect 0 plainRequest, .connectOpened 0 plainSource, .connectAdvance 0 100,
    .connectAbandon 0]

def pruned : List PoolAction := [.remove 0 1 .any, .removalAdvance 0, .removalAdvance 0]

/-- A connect that is dropped while it waits to register leaves a writer that is not
registered, not counted and not served.  When the writer is pruned, the counter drops
below zero. -/
theorem run_timedOut :
    (Runs.run step timedOut (start 5)).Quiet ∧ (Runs.run step timedOut (start 5)).Holds 1 ∧
      1 ∉ (Runs.run step timedOut (start 5)).registry.writers ∧
      (Runs.run step timedOut (start 5)).connCount = 0 ∧
      (Runs.run step timedOut (start 5)).lifecycles.lookup 1 = none ∧
      ¬ (Runs.run step timedOut (start 5)).Accounted ∧
      (Runs.run step (timedOut ++ pruned) (start 5)).Quiet ∧
      (Runs.run step (timedOut ++ pruned) (start 5)).writers.entries = [] ∧
      (Runs.run step (timedOut ++ pruned) (start 5)).connCount = 2 ^ 64 - 1 := by
  refine ⟨⟨rfl, rfl, rfl⟩, ⟨_, List.mem_singleton_self _, rfl⟩, by decide, rfl, rfl, ?_,
    ⟨rfl, rfl, rfl⟩, rfl, by decide⟩
  intro haccounted
  have hcount := haccounted.count
  revert hcount
  decide

end PoolSystem

end TupoProxy.MiddleProxy
