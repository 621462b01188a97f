import TupoProxy.Delivery

/-!
# Readers of a delivered stream

A `StreamReader` reads fields off a byte stream that is delivered in pieces.
It waits out every stall, stops at its first error and keeps what it has not
read.  `Takes` says that a reader takes exactly one piece of writing off the
stream, whatever follows and however both are delivered; there is one rule for
each way of building readers.
-/

namespace TupoProxy.StreamReader

open Delivery List

variable {σ ε η α β : Type}

def collect : ℕ → Source σ ε → Option (List Byte) × Source σ ε
  | 0, source => (some [], source)
  | _ + 1, [] => (none, [])
  | missing + 1, .stall _ :: source => collect (missing + 1) source
  | _ + 1, .fail _ :: source => (none, source)
  | missing + 1, .chunk head tail :: source =>
    if missing ≤ tail.length then
      (some (head :: tail.take missing), pushFront (tail.drop missing) source)
    else
      let answer := collect (missing - tail.length) source
      (answer.1.map (head :: tail ++ ·), answer.2)

theorem collect_prefix {field rest : List Byte} {source : Source σ ε}
    (hfail : NoFail source) (hbytes : bytesOf source = field ++ rest) :
    (collect field.length source).1 = some field ∧ bytesOf (collect field.length source).2 = rest ∧
      NoFail (collect field.length source).2 := by
  induction source generalizing field with
  | nil =>
    obtain ⟨rfl, rfl⟩ := append_eq_nil_iff.mp hbytes.symm
    exact ⟨rfl, rfl, hfail⟩
  | cons arrival source ih =>
    cases field with
    | nil => exact ⟨rfl, hbytes, hfail⟩
    | cons first field =>
      cases arrival with
      | stall why => exact ih hfail.tail hbytes
      | fail error => exact absurd mem_cons_self (hfail error)
      | chunk head tail =>
        rw [bytesOf_chunk_cons, cons_append, cons_append] at hbytes
        obtain ⟨rfl, hsame⟩ := cons.inj hbytes
        simp only [length_cons, collect]
        by_cases hfits : field.length ≤ tail.length
        · obtain ⟨more, rfl⟩ : field <+: tail := prefix_of_prefix_length_le
              ⟨rest, hsame.symm⟩ (prefix_append _ _) hfits
          rw [append_assoc] at hsame
          have hmore := append_cancel_left hsame
          rw [if_pos hfits, take_left, drop_left]
          exact ⟨rfl, by rw [bytesOf_pushFront, hmore], hfail.tail.pushFront more⟩
        · obtain ⟨more, rfl⟩ : tail <+: field := prefix_of_prefix_length_le
              ⟨bytesOf source, hsame⟩ (prefix_append _ _) (by omega)
          rw [append_assoc] at hsame
          have hmore := append_cancel_left hsame
          have hleft : (tail ++ more).length - tail.length = more.length := by
            simp
          obtain ⟨hvalue, hrest, hkeeps⟩ := ih hfail.tail hmore
          rw [if_neg hfits, hleft]
          exact ⟨by rw [hvalue]; rfl, hrest, hkeeps⟩

/-- A reader over a stream, with errors of type `η`. -/
abbrev Reader (σ ε η : Type) := ExceptT η (StateM (Source σ ε))

/-- Read exactly `count` bytes; a stream that ends or fails before gives the
error `short`. -/
def readExact (short : η) (count : ℕ) : Reader σ ε η (List Byte) :=
  fun source =>
    let answer := collect count source
    (match answer.1 with
      | some bytes => .ok bytes
      | none => .error short, answer.2)

def answer (result : Except η α) : Reader σ ε η α := fun source => (result, source)

/-- The reader takes exactly `written` off the front of every stream that does
not fail, and returns `value`. -/
def Takes (reader : Reader σ ε η α) (written : List Byte) (value : α) : Prop :=
  ∀ ⦃source : Source σ ε⦄ ⦃rest : List Byte⦄, NoFail source →
    bytesOf source = written ++ rest →
    ∃ left, reader source = (.ok value, left) ∧ bytesOf left = rest ∧ NoFail left

theorem Takes.pure (value : α) : Takes (Pure.pure value : Reader σ ε η α) [] value :=
  fun source _ hfail hbytes => ⟨source, rfl, hbytes, hfail⟩

variable {value : α}

theorem Takes.answer {result : Except η α} (hresult : result = .ok value) :
    Takes (StreamReader.answer result : Reader σ ε η α) [] value := by
  subst hresult
  exact fun source _ hfail hbytes => ⟨source, rfl, hbytes, hfail⟩

variable {reader : Reader σ ε η α} {written : List Byte} {result : β}

theorem Takes.bind {next : α → Reader σ ε η β}
    {later : List Byte} (hfirst : Takes reader written value)
    (hnext : Takes (next value) later result) :
    Takes (reader >>= next) (written ++ later) result := by
  intro source rest hfail hbytes
  rw [append_assoc] at hbytes
  obtain ⟨between, hread, hbetween, hkeeps⟩ := hfirst hfail hbytes
  obtain ⟨left, hresult, hleft, hkept⟩ := hnext hkeeps hbetween
  have hrun : (reader >>= next) source = next value between := by
    show ExceptT.bindCont next (reader source).1 (reader source).2 = _
    rw [hread]
    rfl
  exact ⟨left, hrun.trans hresult, hleft, hkept⟩

theorem Takes.bind_answer {next : α → Except η β}
    (hfirst : Takes reader written value) (hnext : next value = .ok result) :
    Takes (reader >>= fun value => StreamReader.answer (next value)) written result := by
  rw [← append_nil written]
  exact Takes.bind hfirst (Takes.answer hnext)

theorem readExact_takes {short : η} {count : ℕ} {field : List Byte}
    (hlength : field.length = count) :
    Takes (readExact short count : Reader σ ε η (List Byte)) field field := by
  subst hlength
  intro source rest hfail hbytes
  obtain ⟨hvalue, hrest, hkeeps⟩ := collect_prefix hfail hbytes
  refine ⟨_, ?_, hrest, hkeeps⟩
  simp only [readExact, hvalue]

end TupoProxy.StreamReader
