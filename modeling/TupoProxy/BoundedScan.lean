import Mathlib.Data.Finset.Card
import Mathlib.Data.List.TakeWhile
import Mathlib.Tactic

/-!
# Scans with a bounded memory and a bounded budget

A scan goes through a list of candidates and stops at the first one that is
accepted.  It remembers the first `cap` distinct candidates and passes over
those when they come again.  Looking at a candidate that is present costs one
check, and the scan gives up when the checks reach the budget.

The result below says exactly when a scan with one check for each present
candidate still reaches the first acceptable one: the candidates that are
looked at twice, because they did not fit into the memory, must be fewer than
the candidates that have not come up yet.
-/

namespace TupoProxy.BoundedScan

open List

variable {α β : Type*}

theorem split_first (accepts : α → Bool) {ids : List α} (hsome : ∃ id ∈ ids, accepts id = true) :
    ∃ id rest, ids = ids.takeWhile (fun other => !accepts other) ++ id :: rest ∧
      accepts id = true := by
  induction ids with
  | nil =>
    obtain ⟨id, hmem, -⟩ := hsome
    cases hmem
  | cons head ids ih =>
    by_cases hhead : accepts head = true
    · refine ⟨head, ids, ?_, hhead⟩
      rw [takeWhile_cons_of_neg (by simp [hhead])]
      rfl
    · obtain ⟨id, hmem, hid⟩ := hsome
      have htail : id ∈ ids := by
        rcases mem_cons.mp hmem with rfl | hin
        · exact absurd hid hhead
        · exact hin
      obtain ⟨first, rest, hsplit, hfirst⟩ := ih ⟨id, htail, hid⟩
      refine ⟨first, rest, ?_, hfirst⟩
      rw [takeWhile_cons_of_pos (by simp [hhead]), cons_append, ← hsplit]

variable [DecidableEq α]

inductive Outcome (β : Type*) where
  | absent
  | refused
  | accepted (value : β)

def Outcome.accepts : Outcome β → Bool
  | .absent | .refused => false
  | .accepted _ => true

def Outcome.present : Outcome β → Bool
  | .absent => false
  | .refused | .accepted _ => true

def mark (cap : ℕ) (tried : List α) (id : α) : List α :=
  if id ∈ tried then tried
  else if tried.length < cap then tried ++ [id]
  else tried

structure State (α β : Type*) where
  tried : List α
  checks : ℕ
  exhausted : Bool
  found : Option (α × β)

def State.start : State α β := ⟨[], 0, false, none⟩

def State.stopped (state : State α β) : Bool :=
  state.found.isSome || state.exhausted

def attempt (cap budget : ℕ) (look : α → Outcome β) (state : State α β) (id : α) :
    State α β :=
  if budget ≤ state.checks then { state with exhausted := true }
  else if id ∈ state.tried then state
  else
    match look id with
    | .absent => { state with tried := mark cap state.tried id }
    | .refused =>
      { state with tried := mark cap state.tried id, checks := state.checks + 1 }
    | .accepted value =>
      { state with
        tried := mark cap state.tried id
        checks := state.checks + 1
        found := some (id, value) }

def scan (cap budget : ℕ) (look : α → Outcome β) : State α β → List α → State α β
  | state, [] => state
  | state, id :: ids =>
    if state.stopped then state
    else scan cap budget look (attempt cap budget look state id) ids

variable {cap budget : ℕ} {look : α → Outcome β} {state : State α β}

theorem scan_of_stopped
    (hstopped : state.stopped = true) (ids : List α) : scan cap budget look state ids = state := by
  cases ids with
  | nil => rfl
  | cons id ids => rw [scan, if_pos hstopped]

theorem scan_append (cap budget : ℕ) (look : α → Outcome β) (state : State α β)
    (left right : List α) :
    scan cap budget look state (left ++ right) =
      scan cap budget look (scan cap budget look state left) right := by
  induction left generalizing state with
  | nil => rfl
  | cons id left ih =>
    rw [cons_append, scan, scan]
    by_cases hstopped : state.stopped
    · rw [if_pos hstopped, if_pos hstopped, scan_of_stopped hstopped]
    · rw [if_neg hstopped, if_neg hstopped, ih]

/-- A scan is exhausted only when its budget is spent. -/
def SpentWhenExhausted (budget : ℕ) (state : State α β) : Prop :=
  state.exhausted = true → budget ≤ state.checks

theorem SpentWhenExhausted.attempt (hstate : SpentWhenExhausted budget state) (id : α) :
    SpentWhenExhausted budget (attempt cap budget look state id) := by
  unfold BoundedScan.attempt
  split
  · next hspent => exact fun _ => hspent
  · split
    · exact hstate
    · split
      · exact hstate
      · exact fun hexhausted => (hstate hexhausted).trans (Nat.le_succ _)
      · exact fun hexhausted => (hstate hexhausted).trans (Nat.le_succ _)

def attemptHint (cap budget : ℕ) (look : α → Outcome β) (state : State α β) :
    Option α → State α β
  | none => state
  | some id => if state.found.isSome then state else attempt cap budget look state id

theorem SpentWhenExhausted.hint (hstate : SpentWhenExhausted budget state) (hint : Option α) :
    attemptHint cap budget look state hint = scan cap budget look state hint.toList ∧
      SpentWhenExhausted budget (attemptHint cap budget look state hint) := by
  cases hint with
  | none => exact ⟨rfl, hstate⟩
  | some id =>
    simp only [attemptHint, Option.toList_some, scan, State.stopped]
    by_cases hfound : state.found.isSome
    · simp only [hfound, Bool.true_or, if_true, true_and]
      exact hstate
    · simp only [hfound, Bool.false_or]
      refine ⟨?_, hstate.attempt id⟩
      by_cases hexhausted : state.exhausted
      · rw [if_pos hexhausted, BoundedScan.attempt, if_pos (hstate hexhausted)]
        cases state
        simp_all
      · rw [if_neg hexhausted]
        rfl

theorem attempt_checks_le (hchecks : state.checks ≤ budget) (id : α) :
    (attempt cap budget look state id).checks ≤ budget := by
  unfold attempt
  split
  · exact hchecks
  · split
    · exact hchecks
    · split
      · exact hchecks
      · show state.checks + 1 ≤ budget
        omega
      · show state.checks + 1 ≤ budget
        omega

theorem scan_checks_le (hchecks : state.checks ≤ budget) (ids : List α) :
    (scan cap budget look state ids).checks ≤ budget := by
  induction ids generalizing state with
  | nil => exact hchecks
  | cons id ids ih =>
    rw [scan]
    split
    · exact hchecks
    · exact ih (attempt_checks_le hchecks id)

theorem scan_found {id : α} {value : β} (ids : List α)
    (hstart : state.found = some (id, value) → look id = .accepted value)
    (hfound : (scan cap budget look state ids).found = some (id, value)) :
    look id = .accepted value := by
  induction ids generalizing state with
  | nil => exact hstart hfound
  | cons head ids ih =>
    rw [scan] at hfound
    split at hfound
    · exact hstart hfound
    · refine ih ?_ hfound
      unfold attempt
      split
      · exact hstart
      · split
        · exact hstart
        · split
          · exact hstart
          · exact hstart
          · next found hlook =>
            intro hsome
            cases hsome
            exact hlook

def spent (cap : ℕ) (look : α → Outcome β) : List α → List α → ℕ
  | _, [] => 0
  | tried, id :: ids =>
    (if id ∉ tried ∧ (look id).present then 1 else 0) +
      spent cap look (mark cap tried id) ids

def passOver (cap : ℕ) (look : α → Outcome β) (state : State α β) (id : α) :
    State α β :=
  { state with
    tried := mark cap state.tried id
    checks := state.checks + if id ∉ state.tried ∧ (look id).present then 1 else 0 }

variable {id : α}

theorem attempt_refused (hbudget : state.checks < budget) (hid : (look id).accepts = false) :
    attempt cap budget look state id = passOver cap look state id := by
  rw [attempt, passOver, if_neg (not_le.mpr hbudget)]
  by_cases hmem : id ∈ state.tried
  · rw [if_pos hmem, mark, if_pos hmem, if_neg (fun h => h.1 hmem)]
    rfl
  · rw [if_neg hmem]
    cases hlook : look id with
    | absent => simp [Outcome.present]
    | refused => simp [Outcome.present, hmem]
    | accepted value =>
      rw [hlook] at hid
      cases hid

theorem passOver_spent (cap : ℕ) (look : α → Outcome β) (state : State α β) (id : α)
    (ids : List α) :
    (passOver cap look state id).checks + spent cap look (passOver cap look state id).tried ids =
      state.checks + spent cap look state.tried (id :: ids) :=
  Nat.add_assoc _ _ _

theorem scan_refused (ids : List α)
    (hstopped : state.stopped = false) (hids : ∀ id ∈ ids, (look id).accepts = false)
    (hbudget : state.checks + spent cap look state.tried ids < budget) :
    scan cap budget look state ids =
      { state with
        tried := ids.foldl (mark cap) state.tried
        checks := state.checks + spent cap look state.tried ids } := by
  induction ids generalizing state with
  | nil => rfl
  | cons id ids ih =>
    have hnow : state.checks < budget := lt_of_le_of_lt (Nat.le_add_right _ _) hbudget
    have hnext := passOver_spent cap look state id ids
    have htail : ∀ other ∈ ids, (look other).accepts = false :=
      fun other hother => hids other (mem_cons_of_mem _ hother)
    have hpassed : (passOver cap look state id).stopped = false := hstopped
    rw [scan, if_neg (by simp [hstopped]),
      attempt_refused hnow (hids id mem_cons_self), ih hpassed htail (hnext ▸ hbudget), hnext]
    rfl

theorem scan_spent (hstopped : state.stopped = false)
    (hbudget : budget ≤ state.checks) (id : α) (ids : List α) :
    (scan cap budget look state (id :: ids)).found = none ∧
      (scan cap budget look state (id :: ids)).exhausted = true := by
  have hnone : state.found = none := by
    cases hfound : state.found with
    | none => rfl
    | some value => simp [State.stopped, hfound] at hstopped
  rw [scan, if_neg (by simp [hstopped]), attempt, if_pos hbudget,
    scan_of_stopped (by simp [State.stopped])]
  exact ⟨hnone, rfl⟩

theorem scan_exhausted (ids : List α)
    (hstopped : state.stopped = false) (hids : ∀ id ∈ ids, (look id).accepts = false)
    (hbudget : budget ≤ state.checks + spent cap look state.tried ids) (id : α) (rest : List α) :
    (scan cap budget look state (ids ++ id :: rest)).found = none ∧
      (scan cap budget look state (ids ++ id :: rest)).exhausted = true := by
  induction ids generalizing state with
  | nil => exact scan_spent hstopped hbudget id rest
  | cons head ids ih =>
    by_cases hspent : budget ≤ state.checks
    · exact scan_spent hstopped hspent head (ids ++ id :: rest)
    · rw [cons_append, scan, if_neg (by simp [hstopped]),
        attempt_refused (not_le.mp hspent) (hids head mem_cons_self)]
      apply ih
      · exact hstopped
      · exact fun other hother => hids other (mem_cons_of_mem _ hother)
      · rw [passOver_spent]
        exact hbudget

theorem foldl_mark_subset (cap : ℕ) (ids tried : List α)
    (hid : id ∈ ids.foldl (mark cap) tried) : id ∈ tried ∨ id ∈ ids := by
  induction ids generalizing tried with
  | nil => exact Or.inl hid
  | cons head ids ih =>
    rcases ih _ hid with hmarked | htail
    · unfold mark at hmarked
      split at hmarked
      · exact Or.inl hmarked
      · split at hmarked
        · rcases mem_append.mp hmarked with hold | hnew
          · exact Or.inl hold
          · rw [mem_singleton.mp hnew]
            exact Or.inr mem_cons_self
        · exact Or.inl hmarked
    · exact Or.inr (mem_cons_of_mem _ htail)

variable {value : β}

theorem scan_accepted (hstopped : state.stopped = false) (hbudget : state.checks < budget)
    (hfresh : id ∉ state.tried) (hid : look id = .accepted value) (rest : List α) :
    (scan cap budget look state (id :: rest)).found = some (id, value) := by
  rw [scan, if_neg (by simp [hstopped]), attempt, if_neg (not_le.mpr hbudget), if_neg hfresh, hid]
  exact congrArg State.found (scan_of_stopped (by simp [State.stopped]) rest)

theorem scan_reaches {before : List α}
    (hbefore : ∀ other ∈ before, (look other).accepts = false) (hid : look id = .accepted value)
    (hbudget : spent cap look [] before < budget) (rest : List α) :
    (scan cap budget look .start (before ++ id :: rest)).found = some (id, value) := by
  have hstart : (State.start : State α β).checks +
      spent cap look (State.start : State α β).tried before < budget := by
    rw [State.start, Nat.zero_add]
    exact hbudget
  have hfresh : id ∉ before.foldl (mark cap) [] := by
    intro hmem
    rcases foldl_mark_subset cap before [] hmem with hnil | hin
    · cases hnil
    · have hrefused := hbefore id hin
      rw [hid] at hrefused
      cases hrefused
  rw [scan_append, scan_refused before rfl hbefore hstart]
  exact scan_accepted rfl hstart hfresh hid rest

/-! ## Counting the checks -/

/-- How often a present candidate comes again that is not tracked. -/
def repeats (present tracked : α → Bool) : List α → List α → ℕ
  | _, [] => 0
  | seen, id :: ids =>
    (if present id ∧ id ∈ seen ∧ tracked id = false then 1 else 0) +
      repeats present tracked (id :: seen) ids

/-- The memory holds only candidates that came up, and all of them as long as
it has room. -/
structure Tracks (cap : ℕ) (tried seen : List α) : Prop where
  came : ∀ id ∈ tried, id ∈ seen
  all : tried.length < cap → ∀ id ∈ seen, id ∈ tried

variable {tried : List α}

theorem mem_mark_of_mem {other : α} (hid : id ∈ tried) : id ∈ mark cap tried other := by
  unfold mark
  split
  · exact hid
  · split
    · exact mem_append_left _ hid
    · exact hid

theorem mem_foldl_mark (cap : ℕ) (ids : List α)
    (hid : id ∈ tried) : id ∈ ids.foldl (mark cap) tried := by
  induction ids generalizing tried with
  | nil => exact hid
  | cons head ids ih => exact ih (mem_mark_of_mem hid)

theorem foldl_mark_full (ids : List α) (hfull : ¬ tried.length < cap) :
    ids.foldl (mark cap) tried = tried := by
  induction ids with
  | nil => rfl
  | cons head ids ih =>
    have hmark : mark cap tried head = tried := by
      unfold mark
      rw [if_neg hfull, ite_self]
    rw [foldl_cons, hmark, ih]

theorem Tracks.mark {seen : List α} (htracks : Tracks cap tried seen) (id : α) :
    Tracks cap (mark cap tried id) (id :: seen) := by
  unfold BoundedScan.mark
  by_cases hmem : id ∈ tried
  · rw [if_pos hmem]
    refine ⟨fun other hother => mem_cons_of_mem _ (htracks.came other hother), ?_⟩
    intro hroom other hother
    rcases mem_cons.mp hother with rfl | hseen
    · exact hmem
    · exact htracks.all hroom other hseen
  · rw [if_neg hmem]
    by_cases hroom : tried.length < cap
    · rw [if_pos hroom]
      constructor
      · intro other hother
        rcases mem_append.mp hother with hold | hnew
        · exact mem_cons_of_mem _ (htracks.came other hold)
        · rw [mem_singleton.mp hnew]
          exact mem_cons_self
      · intro _ other hother
        rcases mem_cons.mp hother with rfl | hseen
        · exact mem_append_right _ (mem_singleton.mpr rfl)
        · exact mem_append_left _ (htracks.all hroom other hseen)
    · rw [if_neg hroom]
      exact ⟨fun other hother => mem_cons_of_mem _ (htracks.came other hother),
        fun h => absurd h hroom⟩

section Counting

variable {look : α → Outcome β} {users : Finset α}

/-- The present candidates that come up for the first time in `ids`. -/
def fresh (users : Finset α) (seen ids : List α) : Finset α :=
  users.filter fun user => user ∈ ids ∧ user ∉ seen

theorem card_fresh_cons (users : Finset α) (seen ids : List α) (id : α) :
    (fresh users seen (id :: ids)).card =
      (if id ∈ users ∧ id ∉ seen then 1 else 0) + (fresh users (id :: seen) ids).card := by
  by_cases hnew : id ∈ users ∧ id ∉ seen
  · have hsplit : fresh users seen (id :: ids) = insert id (fresh users (id :: seen) ids) := by
      ext user
      simp only [fresh, Finset.mem_filter, Finset.mem_insert, mem_cons]
      by_cases huser : user = id
      · simp [huser, hnew.1, hnew.2]
      · simp [huser]
    have hout : id ∉ fresh users (id :: seen) ids := by simp [fresh]
    rw [if_pos hnew, hsplit, Finset.card_insert_of_notMem hout, Nat.add_comm]
  · have hsame : fresh users seen (id :: ids) = fresh users (id :: seen) ids := by
      ext user
      simp only [fresh, Finset.mem_filter, mem_cons]
      by_cases huser : user = id
      · subst huser
        simp only [true_or, true_and, not_true_eq_false, and_false, iff_false]
        exact fun h => hnew h
      · simp [huser]
    rw [if_neg hnew, hsame, Nat.zero_add]

/-- The checks of a list are the present candidates in it, once each, and
those that come again although they are not remembered. -/
theorem spent_eq {cap : ℕ} (hpresent : ∀ id, (look id).present = true ↔ id ∈ users)
    (ids : List α) {tried seen : List α} (htracks : Tracks cap tried seen) :
    spent cap look tried ids = (fresh users seen ids).card + repeats (fun id => decide (id ∈ users))
          (fun id => decide (id ∈ ids.foldl (mark cap) tried)) seen ids := by
  induction ids generalizing tried seen with
  | nil => simp [spent, repeats, fresh]
  | cons id ids ih =>
    have hstep := ih (htracks.mark id)
    rw [spent, hstep, card_fresh_cons, repeats, foldl_cons]
    have hhead :
        (if id ∉ tried ∧ (look id).present = true then 1 else 0) =
          (if id ∈ users ∧ id ∉ seen then 1 else 0) +
            if decide (id ∈ users) = true ∧ id ∈ seen ∧
                decide (id ∈ ids.foldl (mark cap) (mark cap tried id)) = false then 1
            else 0 := by
      simp only [hpresent, decide_eq_true_eq, decide_eq_false_iff_not]
      by_cases husers : id ∈ users
      · by_cases htried : id ∈ tried
        · have hseen := htracks.came id htried
          have hmarked : id ∈ mark cap tried id := mem_mark_of_mem htried
          have hkept := mem_foldl_mark cap ids hmarked
          simp [htried, hseen, hkept]
        · by_cases hseen : id ∈ seen
          · have hfull : ¬ tried.length < cap := fun hroom =>
              htried (htracks.all hroom id hseen)
            have hlost : id ∉ ids.foldl (mark cap) (mark cap tried id) := by
              have hmark : mark cap tried id = tried := by
                unfold mark
                rw [if_neg hfull, ite_self]
              rw [hmark, foldl_mark_full ids hfull]
              exact htried
            simp [husers, htried, hseen, hlost]
          · simp [husers, htried, hseen]
      · simp [husers]
    omega

/-- With one check for each present candidate, the budget outlasts a list
exactly when its repeated checks are fewer than the candidates not in it. -/
theorem spent_lt_card_iff (cap : ℕ)
    (hpresent : ∀ id, (look id).present = true ↔ id ∈ users) (ids : List α) :
    spent cap look [] ids < users.card ↔ repeats (fun id => decide (id ∈ users))
          (fun id => decide (id ∈ ids.foldl (mark cap) [])) [] ids <
        (users.filter fun user => user ∉ ids).card := by
  have hempty : Tracks cap ([] : List α) [] := ⟨nofun, nofun⟩
  have hsplit : (users.filter fun user => user ∈ ids).card +
      (users.filter fun user => user ∉ ids).card = users.card :=
    Finset.card_filter_add_card_filter_not _
  have hfresh : fresh users [] ids = users.filter fun user => user ∈ ids := by
    simp [fresh]
  rw [spent_eq hpresent ids hempty, hfresh]
  omega

end Counting

section Short

variable {present tracked : α → Bool}

theorem repeats_append (seen left right : List α) :
    repeats present tracked seen (left ++ right) = repeats present tracked seen left +
        repeats present tracked (left.reverse ++ seen) right := by
  induction left generalizing seen with
  | nil => simp [repeats]
  | cons id left ih =>
    rw [cons_append, repeats, repeats, ih, reverse_cons, append_assoc,
      singleton_append, Nat.add_assoc]

theorem repeats_of_tracked {seen ids : List α} (htracked : ∀ id ∈ ids, tracked id = true) :
    repeats present tracked seen ids = 0 := by
  induction ids generalizing seen with
  | nil => rfl
  | cons id ids ih =>
    have hhead := htracked id mem_cons_self
    rw [repeats, ih fun other hother => htracked other (mem_cons_of_mem _ hother)]
    simp [hhead]

theorem repeats_of_nodup {seen ids : List α} (hnodup : ids.Nodup)
    (htracked : ∀ id ∈ ids, id ∈ seen → tracked id = true) :
    repeats present tracked seen ids = 0 := by
  induction ids generalizing seen with
  | nil => rfl
  | cons id ids ih =>
    obtain ⟨hfresh, htail⟩ := nodup_cons.mp hnodup
    have hrest : ∀ other ∈ ids, other ∈ id :: seen → tracked other = true := by
      intro other hother hseen
      rcases mem_cons.mp hseen with rfl | hbefore
      · exact absurd hother hfresh
      · exact htracked other (mem_cons_of_mem _ hother) hbefore
    have hhead : ¬ (present id = true ∧ id ∈ seen ∧ tracked id = false) := by
      rintro ⟨-, hseen, hlost⟩
      rw [htracked id mem_cons_self hseen] at hlost
      cases hlost
    rw [repeats, if_neg hhead, ih htail hrest]

theorem mem_foldl_mark_of_mem {cap : ℕ} {tried ids : List α} {id : α}
    (hroom : tried.length + ids.length ≤ cap) (hid : id ∈ ids) :
    id ∈ ids.foldl (mark cap) tried := by
  induction ids generalizing tried with
  | nil => cases hid
  | cons head ids ih =>
    rw [length_cons] at hroom
    have hmarked : head ∈ mark cap tried head := by
      unfold mark
      split
      · assumption
      · rw [if_pos (by omega)]
        exact mem_append_right _ (mem_singleton.mpr rfl)
    have hlength : (mark cap tried head).length ≤ tried.length + 1 := by
      unfold mark
      split
      · exact Nat.le_succ _
      · split
        · rw [length_append, length_singleton]
        · exact Nat.le_succ _
    rcases mem_cons.mp hid with rfl | htail
    · exact mem_foldl_mark cap ids hmarked
    · exact ih (by omega) htail

theorem repeats_short {cap : ℕ} {early late : List α} (hearly : early.length ≤ cap)
    (hlate : late.Nodup) :
    repeats present (fun id => decide (id ∈ (early ++ late).foldl (mark cap) [])) []
      (early ++ late) = 0 := by
  have hkept : ∀ id ∈ early,
      decide (id ∈ (early ++ late).foldl (mark cap) []) = true := by
    intro id hid
    have hroom : ([] : List α).length + early.length ≤ cap := by
      rw [length_nil, Nat.zero_add]
      exact hearly
    rw [foldl_append]
    exact decide_eq_true (mem_foldl_mark cap late (mem_foldl_mark_of_mem hroom hid))
  rw [repeats_append, repeats_of_tracked hkept, Nat.zero_add]
  apply repeats_of_nodup hlate
  intro id _ hseen
  rw [append_nil, mem_reverse] at hseen
  exact hkept id hseen

theorem scan_short {look : α → Outcome β} {users : Finset α} {cap : ℕ} {early late : List α}
    (hpresent : ∀ id, (look id).present = true ↔ id ∈ users)
    (hearly : early.length ≤ cap) (hlate : late.Nodup)
    (hsome : ∃ id ∈ early ++ late, (look id).accepts = true) :
    ∃ id value, look id = .accepted value ∧
      (scan cap users.card look .start (early ++ late)).found = some (id, value) := by
  obtain ⟨id, rest, hsplit, hid⟩ := split_first (fun other => (look other).accepts) hsome
  have hbefore : ∀ other ∈ (early ++ late).takeWhile fun other => !(look other).accepts,
      (look other).accepts = false := by
    intro other hother
    have hrefused := mem_takeWhile_imp hother
    simpa using hrefused
  have hrepeats : repeats (fun other => decide (other ∈ users))
      (fun other => decide (other ∈ ((early ++ late).takeWhile
        fun other => !(look other).accepts).foldl (mark cap) [])) []
      ((early ++ late).takeWhile fun other => !(look other).accepts) = 0 := by
    rw [takeWhile_append]
    split
    · exact repeats_short hearly (hlate.sublist (takeWhile_sublist _))
    · have hshort := (takeWhile_sublist fun other => !(look other).accepts).length_le.trans hearly
      have hnone := @repeats_short α _ (fun other => decide (other ∈ users)) cap _ [] hshort
        nodup_nil
      rw [append_nil] at hnone
      exact hnone
  cases hlook : look id with
  | absent | refused => simp [hlook, Outcome.accepts] at hid
  | accepted value =>
    have huser : id ∈ users := (hpresent id).mp (by rw [hlook]; rfl)
    have huntried : id ∉ (early ++ late).takeWhile fun other => !(look other).accepts := by
      intro hmem
      rw [hbefore id hmem] at hid
      cases hid
    have hleft : 0 < (users.filter fun user =>
        user ∉ (early ++ late).takeWhile fun other => !(look other).accepts).card :=
      Finset.card_pos.mpr ⟨id, Finset.mem_filter.mpr ⟨huser, huntried⟩⟩
    have hbudget := (spent_lt_card_iff cap hpresent _).mpr (hrepeats.trans_lt hleft)
    refine ⟨id, value, hlook, ?_⟩
    have hreached := scan_reaches hbefore hlook hbudget rest
    rw [← hsplit] at hreached
    exact hreached

end Short

end TupoProxy.BoundedScan
