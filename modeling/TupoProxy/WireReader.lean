import TupoProxy.ByteWords

/-!
# Readers of wire formats

A reader takes a value off the front of a byte string.  `Parses` says that a
reader recognises exactly one piece of writing, whatever follows it, and there
is one rule for each way of building readers, so that a format is checked
field by field in the order of its definition.
-/

namespace TupoProxy.WireReader

open ByteWords List

abbrev Reader := StateT (List Byte) Option

def bytes (count : ℕ) : Reader (List Byte) := fun input =>
  if count ≤ input.length then some (input.take count, input.drop count)
  else none

def byte : Reader Byte
  | [] => none
  | head :: rest => some (head, rest)

def word (width : ℕ) : Reader ℕ := do
  return beNat (← bytes width)

def leWord (width : ℕ) : Reader ℕ := do
  return leNat (← bytes width)

def vector (width : ℕ) : Reader (List Byte) := do
  bytes (← word width)

variable {α β ι : Type}

def whole (reader : Reader α) (input : List Byte) : Option α :=
  match reader input with
  | some (value, []) => some value
  | _ => none

/-- Read values until the input is used up; the first argument bounds their
number. -/
def all (reader : Reader α) : ℕ → List Byte → Option (List α)
  | _, [] => some []
  | 0, _ :: _ => none
  | count + 1, input@(_ :: _) =>
    match reader input with
    | some (value, rest) => (all reader count rest).map (value :: ·)
    | none => none

def Parses (reader : Reader α) (written : List Byte) (value : α) : Prop :=
  ∀ rest, reader (written ++ rest) = some (value, rest)

theorem Parses.pure (value : α) : Parses (Pure.pure value) [] value :=
  fun _ => rfl

variable {reader : Reader α} {next : α → Reader β} {written : List Byte} {value : α} {result : β}

theorem Parses.bind {later : List Byte} (hfirst : Parses reader written value)
    (hnext : Parses (next value) later result) :
    Parses (reader >>= next) (written ++ later) result := by
  intro rest
  have hrun : (reader >>= next) (written ++ later ++ rest) =
      (reader (written ++ later ++ rest)).bind fun pair => next pair.1 pair.2 := rfl
  rw [hrun, append_assoc, hfirst (later ++ rest)]
  exact hnext rest

theorem Parses.bind_lift {answer : Option α} (hanswer : answer = some value)
    (hnext : Parses (next value) written result) :
    Parses (StateT.lift answer >>= next) written result := by
  subst hanswer
  have hlift : Parses (StateT.lift (some value)) [] value := fun _ => rfl
  exact hlift.bind hnext

theorem Parses.map (next : α → β) (hreader : Parses reader written value)
    (hresult : next value = result) : Parses (do return next (← reader)) written result := by
  subst hresult
  intro rest
  have hrun : (do return next (← reader) : Reader β) (written ++ rest) =
      (reader (written ++ rest)).bind fun pair => some (next pair.1, pair.2) :=
    rfl
  rw [hrun, hreader rest]
  rfl

variable {count : ℕ} {field : List Byte}

theorem bytes_parses (hlength : field.length = count) : Parses (bytes count) field field := by
  intro rest
  subst hlength
  simp [bytes]

theorem byte_parses (value : Byte) : Parses byte [value] value :=
  fun _ => rfl

variable {width : ℕ}

theorem word_parses {value : ℕ} (hvalue : value < 256 ^ width) :
    Parses (word width) (beBytes width value) value :=
  (bytes_parses (length_beBytes width value)).map beNat (beNat_beBytes_of_lt hvalue)

theorem leWord_parses {value : ℕ} (hvalue : value < 256 ^ width) :
    Parses (leWord width) (leBytes width value) value :=
  (bytes_parses (length_leBytes width value)).map leNat (leNat_leBytes_of_lt hvalue)

theorem vector_parses (hlength : field.length < 256 ^ width) :
    Parses (vector width) (beBytes width field.length ++ field) field :=
  (word_parses hlength).bind (bytes_parses rfl)

theorem Parses.whole
    (hparses : Parses reader written value) : whole reader written = some value := by
  have hread := hparses []
  rw [append_nil] at hread
  simp only [WireReader.whole, hread]

variable {encode : ι → List Byte} {items : List ι}

theorem all_parses {value : ι → α}
    (hparses : ∀ item ∈ items, Parses reader (encode item) (value item))
    (hwritten : ∀ item ∈ items, encode item ≠ []) (hcount : items.length ≤ count) :
    all reader count (items.flatMap encode) = some (items.map value) := by
  induction items generalizing count with
  | nil => cases count <;> rfl
  | cons item items ih =>
    obtain ⟨count, rfl⟩ : ∃ more, count = more + 1 :=
      ⟨count - 1, by simp only [length_cons] at hcount; omega⟩
    obtain ⟨head, tail, hitem⟩ := exists_cons_of_ne_nil (hwritten item mem_cons_self)
    have hread := hparses item mem_cons_self (items.flatMap encode)
    have hrest := @ih count (fun other hmem => hparses other (mem_cons_of_mem _ hmem))
      (fun other hmem => hwritten other (mem_cons_of_mem _ hmem)) (Nat.le_of_succ_le_succ hcount)
    rw [flatMap_cons]
    rw [hitem] at hread ⊢
    simp only [cons_append] at hread ⊢
    simp only [all, hread, hrest]
    rfl

theorem length_le_flatMap (hwritten : ∀ item ∈ items, encode item ≠ []) :
    items.length ≤ (items.flatMap encode).length := by
  induction items with
  | nil => exact Nat.le_refl _
  | cons item items ih =>
    have hpos := length_pos_iff.mpr (hwritten item mem_cons_self)
    have hrest := ih fun other hmem => hwritten other (mem_cons_of_mem _ hmem)
    simp only [flatMap_cons, length_append, length_cons]
    omega

end TupoProxy.WireReader
