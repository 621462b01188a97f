import TupoProxy.ByteWords

/-!
# Delivery of a byte stream in pieces

A reader never sees a byte stream at once.  It sees the answers of a source:
non-empty chunks, stalls (a `Pending` poll or an expired timer) and failures,
and after the last answer the end of the stream.  A stream together with one
way of cutting it is therefore a list of arrivals, and a statement about every
list of arrivals is a statement about every stream and every schedule.

The second half is the loop shared by all readers of fixed-size fields: poll
the source until a target number of bytes has been collected.
-/

namespace TupoProxy.Delivery

open List

variable {σ ε : Type}

/-- One answer of a source.  A chunk carries its first byte separately, so a
read of zero bytes can only mean the end of the stream. -/
inductive Arrival (σ ε : Type) where
  | chunk (head : Byte) (tail : List Byte)
  | stall (why : σ)
  | fail (error : ε)
  deriving Repr, DecidableEq

def Arrival.bytes : Arrival σ ε → List Byte
  | .chunk head tail => head :: tail
  | .stall _ => []
  | .fail _ => []

abbrev Source (σ ε : Type) := List (Arrival σ ε)

def bytesOf (source : Source σ ε) : List Byte :=
  source.flatMap Arrival.bytes

def NoFail (source : Source σ ε) : Prop :=
  ∀ error, Arrival.fail error ∉ source

def NoStall (source : Source σ ε) : Prop :=
  ∀ why, Arrival.stall why ∉ source

@[simp] theorem bytesOf_nil : bytesOf ([] : Source σ ε) = [] := rfl

@[simp] theorem bytesOf_chunk_cons (head : Byte) (tail : List Byte) (source : Source σ ε) :
    bytesOf (.chunk head tail :: source) = head :: tail ++ bytesOf source := rfl

@[simp] theorem bytesOf_stall_cons (why : σ) (source : Source σ ε) :
    bytesOf (.stall why :: source) = bytesOf source := rfl

@[simp] theorem bytesOf_fail_cons (error : ε) (source : Source σ ε) :
    bytesOf (.fail error :: source) = bytesOf source := rfl

variable {arrival : Arrival σ ε} {source : Source σ ε}

theorem NoFail.tail (hfail : NoFail (arrival :: source)) : NoFail source :=
  fun error hmem => hfail error (mem_cons_of_mem _ hmem)

theorem NoStall.tail (hstall : NoStall (arrival :: source)) : NoStall source :=
  fun why hmem => hstall why (mem_cons_of_mem _ hmem)

/-- Work left in a source.  Every poll of a source that has not ended lowers
it, which bounds the number of polls any reader can make. -/
def weight (source : Source σ ε) : ℕ :=
  source.length + (bytesOf source).length

inductive Answer (σ ε : Type) where
  | filled (bytes : List Byte)
  | stalled (why : σ)
  | failed (error : ε)
  deriving Repr, DecidableEq

def pushFront : List Byte → Source σ ε → Source σ ε
  | [], source => source
  | head :: tail, source => .chunk head tail :: source

@[simp] theorem bytesOf_pushFront (bytes : List Byte) (source : Source σ ε) :
    bytesOf (pushFront bytes source) = bytes ++ bytesOf source := by
  cases bytes <;> rfl

theorem NoFail.pushFront (hfail : NoFail source)
    (bytes : List Byte) : NoFail (pushFront bytes source) := by
  intro error hmem
  cases bytes with
  | nil => exact hfail error hmem
  | cons head tail =>
    rcases mem_cons.mp hmem with heq | hrest
    · cases heq
    · exact hfail error hrest

theorem NoStall.pushFront (hstall : NoStall source)
    (bytes : List Byte) : NoStall (pushFront bytes source) := by
  intro why hmem
  cases bytes with
  | nil => exact hstall why hmem
  | cons head tail =>
    rcases mem_cons.mp hmem with heq | hrest
    · cases heq
    · exact hstall why hrest

def poll (cap : ℕ) : Source σ ε → Answer σ ε × Source σ ε
  | [] => (.filled [], [])
  | .stall why :: source => (.stalled why, source)
  | .fail error :: source => (.failed error, source)
  | .chunk head tail :: source =>
    (.filled ((head :: tail).take cap),
      pushFront ((head :: tail).drop cap) source)

theorem poll_noFail (cap : ℕ) (hfail : NoFail source) : NoFail (poll cap source).2 := by
  cases source with
  | nil => exact hfail
  | cons arrival rest =>
    cases arrival with
    | chunk head tail => exact hfail.tail.pushFront _
    | stall | fail => exact hfail.tail

theorem poll_noStall (cap : ℕ) (hstall : NoStall source) : NoStall (poll cap source).2 := by
  cases source with
  | nil => exact hstall
  | cons arrival rest =>
    cases arrival with
    | chunk head tail => exact hstall.tail.pushFront _
    | stall | fail => exact hstall.tail

theorem poll_length_le (cap : ℕ) (source : Source σ ε) :
    (poll cap source).2.length ≤ source.length := by
  cases source with
  | nil => exact Nat.le_refl _
  | cons arrival rest =>
    cases arrival with
    | stall | fail => exact Nat.le_succ _
    | chunk head tail =>
      simp only [poll]
      cases (head :: tail).drop cap <;> simp [pushFront]

variable {cap target : ℕ} {rest : Source σ ε} {got : List Byte}

theorem poll_filled (hcap : 0 < cap) (hpoll : poll cap source = (.filled got, rest)) :
    got ++ bytesOf rest = bytesOf source ∧ got.length ≤ cap ∧ (got = [] → source = [] ∧ rest = []) ∧
      (got ≠ [] → weight rest < weight source) := by
  cases source with
  | nil =>
    obtain ⟨rfl, rfl⟩ := hpoll
    simp
  | cons arrival more =>
    cases arrival with
    | stall | fail => simp [poll] at hpoll
    | chunk head tail =>
      obtain ⟨rfl, rfl⟩ := hpoll
      obtain ⟨room, rfl⟩ : ∃ room, cap = room + 1 := ⟨cap - 1, by omega⟩
      refine ⟨?_, by simp, by simp, ?_⟩
      · rw [bytesOf_pushFront, ← append_assoc, take_append_drop, bytesOf_chunk_cons]
      · intro _
        have hlen : (pushFront ((head :: tail).drop (room + 1)) more).length ≤
            more.length + 1 := by
          cases (head :: tail).drop (room + 1) <;> simp [pushFront]
        simp only [weight, bytesOf_pushFront, bytesOf_chunk_cons,
          length_append, length_drop, length_cons] at hlen ⊢
        omega

variable {why : σ}

theorem poll_stalled
    (hpoll : poll cap source = (.stalled why, rest)) : source = .stall why :: rest := by
  cases source with
  | nil => simp [poll] at hpoll
  | cons arrival more =>
    cases arrival <;> simp [poll] at hpoll
    obtain ⟨rfl, rfl⟩ := hpoll
    rfl

theorem poll_failed {error : ε}
    (hpoll : poll cap source = (.failed error, rest)) : source = .fail error :: rest := by
  cases source with
  | nil => simp [poll] at hpoll
  | cons arrival more =>
    cases arrival <;> simp [poll] at hpoll
    obtain ⟨rfl, rfl⟩ := hpoll
    rfl

/-! ## Filling a field of known size -/

inductive FillResult (σ ε : Type) where
  | complete
  | ended
  | stalled (why : σ)
  | failed (error : ε)
  deriving Repr, DecidableEq

/-- Poll until `target` bytes are there, never asking for more than `cap` at
once.  The first argument bounds the rounds; every round but the last adds a
byte, so the number of missing bytes is enough. -/
def fill (cap target : ℕ) :
    ℕ → List Byte → Source σ ε →
      FillResult σ ε × List Byte × Source σ ε
  | 0, got, source => (.complete, got, source)
  | rounds + 1, got, source =>
    if target ≤ got.length then (.complete, got, source)
    else
      match poll (min cap (target - got.length)) source with
      | (.filled [], rest) => (.ended, got, rest)
      | (.filled (head :: tail), rest) =>
        fill cap target rounds (got ++ head :: tail) rest
      | (.stalled why, rest) => (.stalled why, got, rest)
      | (.failed error, rest) => (.failed error, got, rest)

/-- Everything a caller needs to know about `fill`: no byte is lost or
duplicated, the field is never overrun, and each way of stopping says how
much of the field is there. -/
structure FillSpec (target : ℕ) (got : List Byte) (source : Source σ ε)
    (result : FillResult σ ε × List Byte × Source σ ε) : Prop where
  bytes : result.2.1 ++ bytesOf result.2.2 = got ++ bytesOf source
  grows : got.length ≤ result.2.1.length
  fits : result.2.1.length ≤ target
  complete : result.1 = .complete → result.2.1.length = target
  ended : result.1 = .ended → result.2.1.length < target ∧ result.2.2 = []
  stalled : ∀ why, result.1 = .stalled why →
    result.2.1.length < target ∧ Arrival.stall why ∈ source
  failed : ∀ error, result.1 = .failed error → Arrival.fail error ∈ source
  weight_le : weight result.2.2 ≤ weight source
  progress : got.length < target → source ≠ [] →
    weight result.2.2 < weight source
  noFail : NoFail source → NoFail result.2.2
  noStall : NoStall source → NoStall result.2.2

variable {result : FillResult σ ε × List Byte × Source σ ε}

theorem FillSpec.stalled_lt
    (hspec : FillSpec target got source result) (hshort : got.length < target)
    (hstalled : result.1 = .stalled why) : weight result.2.2 < weight source :=
  hspec.progress hshort (ne_nil_of_mem (hspec.stalled why hstalled).2)

theorem FillSpec.complete_lt
    (hspec : FillSpec target got source result) (hshort : got.length < target)
    (hcomplete : result.1 = .complete) : weight result.2.2 < weight source := by
  apply hspec.progress hshort
  rintro rfl
  have hbytes := congrArg length hspec.bytes
  have hfull := hspec.complete hcomplete
  rw [bytesOf_nil, append_nil, length_append] at hbytes
  omega

theorem mem_of_mem_poll {answer : Answer σ ε}
    (hpoll : poll cap source = (answer, rest)) (hmem : arrival ∈ rest)
    (hchunk : ∀ head tail, arrival ≠ .chunk head tail) : arrival ∈ source := by
  cases source with
  | nil =>
    obtain ⟨_, rfl⟩ := hpoll
    exact hmem
  | cons first more =>
    cases first with
    | stall | fail =>
      obtain ⟨_, rfl⟩ := hpoll
      exact mem_cons_of_mem _ hmem
    | chunk head tail =>
      obtain ⟨_, rfl⟩ := hpoll
      cases hdrop : (head :: tail).drop cap with
      | nil =>
        rw [hdrop] at hmem
        exact mem_cons_of_mem _ hmem
      | cons next others =>
        rw [hdrop] at hmem
        rcases mem_cons.mp hmem with heq | hrest
        · exact absurd heq (hchunk next others)
        · exact mem_cons_of_mem _ hrest

theorem FillSpec.afterRound {bytes : List Byte}
    (hspec : FillSpec target (got ++ bytes) rest result) (hcap : 0 < cap) (hbytes : bytes ≠ [])
    (hpoll : poll cap source = (.filled bytes, rest)) : FillSpec target got source result := by
  obtain ⟨hmoved, _, _, hless⟩ := poll_filled hcap hpoll
  have hlower := hless hbytes
  have hweight := hspec.weight_le
  have hgrows := hspec.grows
  rw [length_append] at hgrows
  exact {
    bytes := by rw [hspec.bytes, append_assoc, hmoved]
    grows := by omega
    fits := hspec.fits
    complete := hspec.complete
    ended := hspec.ended
    stalled := fun why heq =>
      ⟨(hspec.stalled why heq).1, mem_of_mem_poll hpoll (hspec.stalled why heq).2
          (by intro _ _ h; cases h)⟩
    failed := fun error heq =>
      mem_of_mem_poll hpoll (hspec.failed error heq) (by intro _ _ h; cases h)
    weight_le := by omega
    progress := fun _ _ => by omega
    noFail := fun hfail => hspec.noFail <| by
      simpa [hpoll] using poll_noFail cap hfail
    noStall := fun hstall => hspec.noStall <| by
      simpa [hpoll] using poll_noStall cap hstall }

/-- A round for every missing byte is enough for the loop. -/
theorem fill_spec {rounds : ℕ} (hcap : 0 < cap)
    (hfits : got.length ≤ target) (hrounds : target ≤ got.length + rounds) :
    FillSpec target got source (fill cap target rounds got source) := by
  induction rounds generalizing got source with
  | zero =>
    have hlen : got.length = target := by omega
    constructor <;> simp [fill, hlen]
  | succ rounds ih =>
    by_cases hdone : target ≤ got.length
    · have hlen : got.length = target := by omega
      constructor <;> simp [fill, hlen]
    · have hroom : 0 < min cap (target - got.length) := by omega
      simp only [fill, if_neg hdone]
      cases hpoll : poll (min cap (target - got.length)) source with
      | mk answer rest =>
        cases answer with
        | stalled why =>
          have hsource := poll_stalled hpoll
          subst hsource
          constructor <;> simp [weight] <;> first | omega | exact NoFail.tail | exact NoStall.tail
        | failed error =>
          have hsource := poll_failed hpoll
          subst hsource
          constructor <;> simp [weight] <;> first | omega | exact NoFail.tail | exact NoStall.tail
        | filled bytes =>
          obtain ⟨_, hcapped, hend, _⟩ := poll_filled hroom hpoll
          cases bytes with
          | nil =>
            obtain ⟨rfl, rfl⟩ := hend rfl
            constructor <;> simp <;> omega
          | cons head tail =>
            have hsize : (got ++ head :: tail).length =
                got.length + (head :: tail).length := by simp
            have hpos : 0 < (head :: tail).length := by simp
            exact (ih (by omega) (by omega)).afterRound hroom (by simp) hpoll

end TupoProxy.Delivery
