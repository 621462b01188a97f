import Mathlib.Tactic

/-!
# Words cut out of a padded text

A text is made of words with filler after each word.  A reader that loses its
place may cut words out of the text at wrong positions.  The lemmas say that it
can never get all the words in their order once it has passed the start of a
word: a second copy of a word that overlaps the first one and the filler beside
it would make the word filler throughout.
-/

namespace TupoProxy.PaddedWords

open List

variable {α : Type*}

/-- The words are cut out of the text from left to right, without overlap. -/
inductive Factors : List α → List (List α) → Prop where
  | done (text : List α) : Factors text []
  | skip (x : α) {text : List α} {words : List (List α)} (hrest : Factors text words) :
      Factors (x :: text) words
  | take (word : List α) {text : List α} {words : List (List α)}
      (hrest : Factors text words) : Factors (word ++ text) (word :: words)

variable {text : List α} {words : List (List α)}

theorem Factors.append_left (lead : List α)
    (hfactors : Factors text words) : Factors (lead ++ text) words := by
  induction lead with
  | nil => exact hfactors
  | cons x lead ih => exact .skip x ih

theorem Factors.split {word : List α} (hfactors : Factors text (word :: words)) :
    ∃ before after, text = before ++ (word ++ after) ∧ Factors after words := by
  generalize hall : word :: words = all at hfactors
  induction hfactors with
  | done text => cases hall
  | skip x hrest ih =>
    obtain ⟨before, after, htext, hafter⟩ := ih hall
    exact ⟨x :: before, after, by rw [htext]; rfl, hafter⟩
  | take other hrest ih =>
    cases hall
    exact ⟨[], _, rfl, hrest⟩

section Filler

variable {filler : α → Prop} {word pad before after rest : List α}

theorem filler_of_copies (rank : ℕ → ℕ) (hpad : ∀ x ∈ pad, filler x)
    (hcopies : ∀ i x, word[i]? = some x → x ∈ pad ∨ ∃ j, rank j < rank i ∧ word[j]? = some x) :
    ∀ x ∈ word, filler x := by
  have hindex : ∀ k i, rank i = k → ∀ x, word[i]? = some x → filler x := by
    intro k
    induction k using Nat.strong_induction_on with
    | h k ih =>
      intro i hk x hx
      rcases hcopies i x hx with hmem | ⟨j, hless, hj⟩
      · exact hpad x hmem
      · exact ih _ (hk ▸ hless) j rfl x hj
  intro x hx
  obtain ⟨i, hi⟩ := mem_iff_getElem?.mp hx
  exact hindex _ i rfl x hi

theorem getElem?_copy {text : List α} (htext : text = before ++ (word ++ after)) {i : ℕ} {x : α}
    (hx : word[i]? = some x) : i < word.length ∧ text[before.length + i]? = some x := by
  have hi := (List.getElem?_eq_some_iff.mp hx).1
  rw [htext, getElem?_append_right (by omega), Nat.add_sub_cancel_left, getElem?_append_left hi]
  exact ⟨hi, hx⟩

theorem filler_of_late_copy (hpad : ∀ x ∈ pad, filler x)
    (htext : word ++ (pad ++ rest) = before ++ (word ++ after))
    (hlate : 0 < before.length) (hnear : before.length ≤ pad.length) : ∀ x ∈ word, filler x := by
  refine filler_of_copies (fun i => word.length - i) hpad fun i x hx => ?_
  obtain ⟨hi, hsame⟩ := getElem?_copy htext hx
  by_cases hinside : before.length + i < word.length
  · rw [getElem?_append_left hinside] at hsame
    exact .inr ⟨_, by omega, hsame⟩
  · rw [getElem?_append_right (by omega), getElem?_append_left (by omega)] at hsame
    exact .inl (mem_of_getElem? hsame)

theorem filler_of_early_copy (hpad : ∀ x ∈ pad, filler x)
    (htext : pad ++ (word ++ rest) = before ++ (word ++ after))
    (hearly : before.length < pad.length) : ∀ x ∈ word, filler x := by
  refine filler_of_copies id hpad fun i x hx => ?_
  obtain ⟨hi, hsame⟩ := getElem?_copy htext hx
  by_cases hinside : before.length + i < pad.length
  · rw [getElem?_append_left hinside] at hsame
    exact .inl (mem_of_getElem? hsame)
  · rw [getElem?_append_right (by omega), getElem?_append_left (by omega)] at hsame
    exact .inr ⟨_, show before.length + i - pad.length < i by omega, hsame⟩

end Filler

/-! ## Texts of padded words -/

def textOf (padded : List (List α × List α)) : List α :=
  padded.flatMap fun entry => entry.1 ++ entry.2

@[simp] theorem textOf_nil : textOf ([] : List (List α × List α)) = [] := rfl

theorem textOf_cons (word pad : List α) (padded : List (List α × List α)) :
    textOf ((word, pad) :: padded) = word ++ (pad ++ textOf padded) := by
  simp [textOf]

/-- Every word has a letter that is not filler, and every filler is. -/
def Marked (filler : α → Prop) (padded : List (List α × List α)) : Prop :=
  ∀ entry ∈ padded, (∃ x ∈ entry.1, ¬ filler x) ∧ ∀ x ∈ entry.2, filler x

variable {filler : α → Prop} {padded : List (List α × List α)}

theorem Marked.tail {entry : List α × List α} (hmarked : Marked filler (entry :: padded)) :
    Marked filler padded :=
  fun other hother => hmarked other (mem_cons_of_mem _ hother)

theorem not_factors_suffix
    (hmarked : Marked filler padded) (hsome : padded ≠ []) {lead suffix : List α}
    (htext : textOf padded = lead ++ suffix) (hlead : 0 < lead.length) :
    ¬ Factors suffix (padded.map Prod.fst) := by
  induction padded generalizing lead suffix with
  | nil => exact absurd rfl hsome
  | cons entry padded ih =>
    obtain ⟨word, pad⟩ := entry
    intro hfactors
    obtain ⟨⟨mark, hmark, hreal⟩, hpad⟩ := hmarked (word, pad) mem_cons_self
    obtain ⟨before, after, hsuffix, hafter⟩ := hfactors.split
    rw [textOf_cons, hsuffix, ← append_assoc lead] at htext
    by_cases hnear : (lead ++ before).length ≤ pad.length
    · have hlate : 0 < (lead ++ before).length := by
        rw [length_append]
        omega
      exact hreal (filler_of_late_copy hpad htext hlate hnear mark hmark)
    · rw [← append_assoc word, ← append_assoc (lead ++ before)] at htext
      have hcut : ∃ between, lead ++ before ++ word = word ++ pad ++ between ∧
          textOf padded = between ++ after := by
        rcases append_eq_append_iff.mp htext with ⟨between, hleft, hright⟩ |
          ⟨between, hleft, hright⟩
        · exact ⟨between, hleft, hright⟩
        · have hlength := congrArg length hleft
          simp only [length_append] at hlength hnear
          omega
      obtain ⟨between, hleft, hright⟩ := hcut
      have hpassed : 0 < between.length := by
        have hlength := congrArg length hleft
        simp only [length_append] at hlength hnear
        omega
      by_cases hempty : padded = []
      · rw [hempty, textOf_nil] at hright
        have hnil := (append_eq_nil_iff.mp hright.symm).1
        rw [hnil] at hpassed
        exact Nat.lt_irrefl 0 hpassed
      · exact ih hmarked.tail hempty hright hpassed hafter

/-- The words are cut out of the text, and the first one does not start at the
given position. -/
def FactorsAvoiding (start : ℕ) (text : List α) (words : List (List α)) : Prop :=
  ∀ word others, words = word :: others →
    ∃ before after, text = before ++ (word ++ after) ∧ before.length ≠ start ∧
      Factors after others

variable {start : ℕ}

theorem FactorsAvoiding.append_left (lead : List α) (havoid : FactorsAvoiding start text words) :
    FactorsAvoiding (lead.length + start) (lead ++ text) words := by
  intro word others hwords
  obtain ⟨before, after, htext, hstart, hafter⟩ := havoid word others hwords
  refine ⟨lead ++ before, after, ?_, ?_, hafter⟩
  · rw [htext, append_assoc]
  · rw [length_append]
    omega

theorem Factors.avoiding
    (lead : List α) (hlead : start < lead.length) (hfactors : Factors text words) :
    FactorsAvoiding start (lead ++ text) words := by
  intro word others hwords
  rw [hwords] at hfactors
  obtain ⟨before, after, htext, hafter⟩ := hfactors.split
  refine ⟨lead ++ before, after, ?_, ?_, hafter⟩
  · rw [htext, append_assoc]
  · rw [length_append]
    omega

theorem not_factorsAvoiding {pad : List α} (hmarked : Marked filler padded) (hsome : padded ≠ [])
    (hpad : ∀ x ∈ pad, filler x) :
    ¬ FactorsAvoiding pad.length (pad ++ textOf padded) (padded.map Prod.fst) := by
  intro havoid
  cases padded with
  | nil => exact hsome rfl
  | cons entry padded =>
    obtain ⟨word, filling⟩ := entry
    obtain ⟨⟨mark, hmark, hreal⟩, -⟩ := hmarked (word, filling) mem_cons_self
    obtain ⟨before, after, htext, hstart, hafter⟩ := havoid word (padded.map Prod.fst) rfl
    by_cases hearly : before.length < pad.length
    · rw [textOf_cons] at htext
      exact hreal (filler_of_early_copy hpad htext hearly mark hmark)
    · rcases append_eq_append_iff.mp htext with ⟨between, hleft, hright⟩ |
        ⟨between, hleft, hright⟩
      · have hpassed : 0 < between.length := by
          have hlength := congrArg length hleft
          rw [length_append] at hlength
          omega
        exact not_factors_suffix hmarked hsome hright hpassed (.take word hafter)
      · have hlength := congrArg length hleft
        rw [length_append] at hlength
        omega

end TupoProxy.PaddedWords
