import Mathlib.Data.List.Count
import Mathlib.Data.List.Nodup
import Mathlib.Tactic

/-!
# Rings that are served in turn

A ring serves its front.  The served one leaves or goes to the back, others join at
the back, and any of them may be taken out.  As long as a participant stays in the
ring, the ones served before it were ahead of it when it last went to the back.  So
no one is served twice between two of its turns, and the number of its own turns
bounds the number of all turns.
-/

namespace TupoProxy.RoundRobin

open List

variable {α : Type*} [DecidableEq α]

inductive Turn : List α → Option α → List α → Prop where
  | back (served : α) (rest : List α) : Turn (served :: rest) (some served) (rest ++ [served])
  | out (served : α) (rest : List α) : Turn (served :: rest) (some served) rest
  | join (ring : List α) (joined : α) : Turn ring none (ring ++ [joined])
  | leave (ring : List α) (left : α) : Turn ring none (ring.filter fun other => other ≠ left)

/-- A chain of turns, with all that were served.  A condition holds of the ring before
every turn. -/
inductive Turns (valid : List α → Prop) : List α → List α → List α → Prop where
  | done (ring : List α) : Turns valid ring [] ring
  | more {ring middle next served : List α} {first : Option α} (hvalid : valid ring)
      (hturn : Turn ring first middle) (hrest : Turns valid middle served next) :
      Turns valid ring (first.toList ++ served) next

variable {valid : List α → Prop} {ring middle next served : List α} {self other : α}

theorem Turns.single {first : Option α} (hvalid : valid ring) (hturn : Turn ring first next) :
    Turns valid ring first.toList next := by
  have hmore := Turns.more hvalid hturn (.done next)
  rw [append_nil] at hmore
  exact hmore

theorem Turns.append {more : List α} (hleft : Turns valid ring served middle)
    (hright : Turns valid middle more next) : Turns valid ring (served ++ more) next := by
  induction hleft with
  | done => exact hright
  | more hvalid hturn hrest ih =>
    rw [append_assoc]
    exact .more hvalid hturn (ih hright)

theorem Turns.split {left right : List α} (hturns : Turns valid ring (left ++ right) next) :
    ∃ middle, Turns valid ring left middle ∧ Turns valid middle right next := by
  generalize hserved : left ++ right = served at hturns
  induction hturns generalizing left with
  | done ring =>
    obtain ⟨rfl, rfl⟩ := append_eq_nil_iff.mp hserved
    exact ⟨ring, .done ring, .done ring⟩
  | @more ring middle next served first hvalid hturn hrest ih =>
    cases first with
    | none =>
      obtain ⟨between, hleft, hright⟩ := ih hserved
      exact ⟨between, .more hvalid hturn hleft, hright⟩
    | some front =>
      cases left with
      | nil =>
        have hright : right = front :: served := hserved
        rw [hright]
        exact ⟨ring, .done ring, .more hvalid hturn hrest⟩
      | cons head left =>
        obtain ⟨hhead, htail⟩ := cons.inj hserved
        obtain ⟨between, hleft, hright⟩ := ih htail
        rw [hhead]
        exact ⟨between, .more hvalid hturn hleft, hright⟩

def ahead (self : α) (ring : List α) : List α := ring.takeWhile fun other => other ≠ self

theorem ahead_self (rest : List α) : ahead self (self :: rest) = [] := by
  simp [ahead]

theorem ahead_cons (hother : other ≠ self) (rest : List α) :
    ahead self (other :: rest) = other :: ahead self rest := by
  simp [ahead, hother]

theorem ahead_append (hself : self ∈ ring) (behind : List α) :
    ahead self (ring ++ behind) = ahead self ring := by
  induction ring with
  | nil => cases hself
  | cons front rest ih =>
    by_cases hfront : front = self
    · rw [hfront, cons_append, ahead_self, ahead_self]
    · have hrest : self ∈ rest := (mem_cons.mp hself).resolve_left (Ne.symm hfront)
      rw [cons_append, ahead_cons hfront, ahead_cons hfront, ih hrest]

theorem ahead_filter (hother : other ≠ self) (ring : List α) :
    ahead self (ring.filter fun left => left ≠ other) =
      (ahead self ring).filter fun left => left ≠ other := by
  induction ring with
  | nil => rfl
  | cons front rest ih =>
    rw [filter_cons]
    by_cases hfront : front = self
    · subst hfront
      rw [if_pos (decide_eq_true (Ne.symm hother)), ahead_self, ahead_self]
      rfl
    · rw [ahead_cons hfront, filter_cons]
      split
      · rw [ahead_cons hfront, ih]
      · exact ih

theorem length_ahead_le (self : α) (ring : List α) : (ahead self ring).length ≤ ring.length :=
  (takeWhile_sublist _).length_le

theorem length_ahead_lt (hself : self ∈ ring) : (ahead self ring).length < ring.length := by
  induction ring with
  | nil => cases hself
  | cons front rest ih =>
    by_cases hfront : front = self
    · rw [hfront, ahead_self]
      exact Nat.succ_pos _
    · have hrest : self ∈ rest := (mem_cons.mp hself).resolve_left (Ne.symm hfront)
      rw [ahead_cons hfront, length_cons, length_cons]
      exact Nat.succ_lt_succ (ih hrest)

/-! ## Between two turns of a participant -/

section

variable (hvalid : ∀ ring, valid ring → self ∈ ring)
include hvalid

theorem Turns.served_ahead (hturns : Turns valid ring served next) (hself : self ∉ served) :
    served.Sublist (ahead self ring) := by
  induction hturns with
  | done ring => exact nil_sublist _
  | @more ring middle next served first hring hturn hrest ih =>
    have hmem := hvalid ring hring
    have hlater : self ∉ served := fun hin => hself (mem_append_right _ hin)
    have hsublist := ih hlater
    cases hturn with
    | back front rest =>
      have hfront : front ≠ self := by
        rintro rfl
        exact hself mem_cons_self
      have hrestMem : self ∈ rest := (mem_cons.mp hmem).resolve_left hfront.symm
      rw [ahead_append hrestMem] at hsublist
      rw [ahead_cons hfront]
      exact hsublist.cons_cons front
    | out front rest =>
      have hfront : front ≠ self := by
        rintro rfl
        exact hself mem_cons_self
      rw [ahead_cons hfront]
      exact hsublist.cons_cons front
    | join ring joined =>
      rw [ahead_append hmem] at hsublist
      exact hsublist
    | leave ring left =>
      by_cases hleft : left = self
      · -- The participant itself is gone, so this was the last turn of the chain.
        cases hrest with
        | done => exact nil_sublist _
        | more hgone =>
          have hin := hvalid _ hgone
          rw [hleft] at hin
          simp at hin
      · rw [ahead_filter hleft] at hsublist
        exact hsublist.trans filter_sublist

theorem Turns.stretch_nodup {left right : List α} (hnodup : ∀ ring, valid ring → ring.Nodup)
    (hturns : Turns valid ring (left ++ served ++ right) next) (hself : self ∉ served) :
    served.Nodup := by
  rw [append_assoc] at hturns
  obtain ⟨before, -, hrest⟩ := hturns.split
  obtain ⟨after, hstretch, -⟩ := hrest.split
  have hsublist := hstretch.served_ahead hvalid hself
  cases hstretch with
  | done => exact nodup_nil
  | more hbefore hturn hmore =>
    have haheadNodup : (ahead self before).Nodup :=
      (hnodup before hbefore).sublist (takeWhile_sublist _)
    exact haheadNodup.sublist hsublist

theorem Turns.length_le {size : ℕ} (hsize : ∀ ring, valid ring → ring.length ≤ size)
    (hturns : Turns valid ring served next) (hstays : self ∈ next) :
    served.length + (ahead self next).length ≤
      (ahead self ring).length + size * served.count self := by
  induction hturns with
  | done ring => simp
  | @more ring middle next served first hring hturn hrest ih =>
    have hmem := hvalid ring hring
    have hring := hsize ring hring
    have hle := ih hstays
    cases hturn with
    | back front rest =>
      rw [Option.toList_some, singleton_append, length_cons]
      by_cases hfront : front = self
      · have hbehind : self ∈ rest ++ [front] := by simp [hfront]
        have hlast := length_ahead_lt hbehind
        rw [length_append, length_singleton] at hlast
        rw [length_cons] at hring
        rw [hfront] at hlast hle ⊢
        rw [ahead_self, count_cons_self, Nat.mul_succ, length_nil]
        omega
      · have hrestMem : self ∈ rest := (mem_cons.mp hmem).resolve_left (Ne.symm hfront)
        rw [ahead_append hrestMem] at hle
        rw [ahead_cons hfront, count_cons_of_ne hfront, length_cons]
        omega
    | out front =>
      rw [Option.toList_some, singleton_append, length_cons]
      by_cases hfront : front = self
      · have hlast := length_ahead_le self middle
        rw [length_cons] at hring
        rw [hfront, ahead_self, count_cons_self, Nat.mul_succ, length_nil]
        omega
      · rw [ahead_cons hfront, count_cons_of_ne hfront, length_cons]
        omega
    | join ring joined =>
      rw [ahead_append hmem] at hle
      exact hle
    | leave ring left =>
      by_cases hleft : left = self
      · cases hrest with
        | done =>
          rw [hleft] at hstays
          simp at hstays
        | more hgone =>
          have hin := hvalid _ hgone
          rw [hleft] at hin
          simp at hin
      · rw [ahead_filter hleft] at hle
        have hfilter := length_filter_le (fun other => decide (other ≠ left)) (ahead self ring)
        dsimp only [Option.toList_none, nil_append]
        omega

end

end TupoProxy.RoundRobin
