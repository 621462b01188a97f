import TupoProxy.QuotaRelay
import TupoProxy.KeyedTotal
import TupoProxy.Runs

/-!
# Quota reservations across resets

A transfer reserves quota, commits the bytes that it moves and refunds the
rest.  A reset of the quota may fall between the reservation and the refund.
The quota counter knows nothing of single reservations, so a ledger beside it
remembers for each one what was reserved, committed and refunded, and how many
resets came before it.
-/

namespace TupoProxy.QuotaRelay

/-- The counter after `QuotaStore::reset`. -/
def UserQuotaCounters.reset (_ : UserQuotaCounters) : UserQuotaCounters := ⟨0⟩

theorem UserQuotaCounters.tryReserve_cases {counters : UserQuotaCounters} {limit : ℕ} (bytes : ℕ)
    (casFails : Bool) (hused : counters.usedBytes ≤ u64Max) (hlimit : limit ≤ u64Max) :
    (∃ error, counters.tryReserve bytes limit casFails = (.error error, counters)) ∨
      counters.usedBytes + bytes ≤ u64Max ∧ counters.tryReserve bytes limit casFails =
        (.ok (counters.usedBytes + bytes), ⟨counters.usedBytes + bytes⟩) := by
  unfold UserQuotaCounters.tryReserve
  dsimp only
  split
  · exact .inl ⟨_, rfl⟩
  · cases casFails with
    | true => exact .inl ⟨_, rfl⟩
    | false =>
      have hfits : counters.usedBytes + bytes ≤ u64Max := by omega
      rw [Nat.min_eq_left hfits]
      exact .inr ⟨hfits, rfl⟩

structure Reservation where
  bytes : ℕ
  committed : ℕ
  refunded : ℕ
  resets : ℕ
  parts : committed + refunded ≤ bytes

namespace Reservation

def uncommitted (reservation : Reservation) : ℕ :=
  reservation.bytes - reservation.committed - reservation.refunded

def new (bytes resets : ℕ) : Reservation where
  bytes := bytes
  committed := 0
  refunded := 0
  resets := resets
  parts := Nat.zero_le bytes

def commit (reservation : Reservation) (bytes : ℕ) (hbytes : bytes ≤ reservation.uncommitted) :
    Reservation where
  bytes := reservation.bytes
  committed := reservation.committed + bytes
  refunded := reservation.refunded
  resets := reservation.resets
  parts := by
    have hparts := reservation.parts
    unfold uncommitted at hbytes
    omega

def refund (reservation : Reservation) (bytes : ℕ) (hbytes : bytes ≤ reservation.uncommitted) :
    Reservation where
  bytes := reservation.bytes
  committed := reservation.committed
  refunded := reservation.refunded + bytes
  resets := reservation.resets
  parts := by
    have hparts := reservation.parts
    unfold uncommitted at hbytes
    omega

/-- What the reservation still holds of the quota that is counted since the
given number of resets. -/
def heldAfter (resets : ℕ) (reservation : Reservation) : ℕ :=
  if reservation.resets = resets then reservation.bytes - reservation.refunded else 0

def committedAfter (resets : ℕ) (reservation : Reservation) : ℕ :=
  if reservation.resets = resets then reservation.committed else 0

theorem committedAfter_le_heldAfter (resets : ℕ) (reservation : Reservation) :
    reservation.committedAfter resets ≤ reservation.heldAfter resets := by
  have hparts := reservation.parts
  unfold committedAfter heldAfter
  split
  · omega
  · exact le_refl 0

theorem heldAfter_new (bytes resets : ℕ) : (new bytes resets).heldAfter resets = bytes :=
  if_pos rfl

variable {reservation : Reservation} {bytes : ℕ}

theorem heldAfter_commit (resets : ℕ) (hbytes : bytes ≤ reservation.uncommitted) :
    (reservation.commit bytes hbytes).heldAfter resets = reservation.heldAfter resets := rfl

theorem heldAfter_refund (hbytes : bytes ≤ reservation.uncommitted) :
    (reservation.refund bytes hbytes).heldAfter reservation.resets + bytes =
      reservation.heldAfter reservation.resets := by
  have hparts := (reservation.refund bytes hbytes).parts
  dsimp only [refund, heldAfter] at hparts ⊢
  rw [if_pos rfl, if_pos rfl]
  omega

end Reservation

structure QuotaLedger where
  counters : UserQuotaCounters
  reservations : Table ℕ Reservation
  resets : ℕ

namespace QuotaLedger

def start (usedBytes : UInt64) : QuotaLedger := ⟨⟨usedBytes.toNat⟩, ∅, 0⟩

/-- What can happen to the quota of a user.  Every reservation has its own
`id`; a reservation with an id that is taken is not made. -/
inductive Action where
  | reserve (id : ℕ) (bytes limit : UInt64) (casFails : Bool)
  | commit (id bytes : ℕ)
  | refund (id bytes : ℕ)
  | reset

def reserve (id bytes limit : ℕ) (casFails : Bool) (ledger : QuotaLedger) : QuotaLedger :=
  match ledger.counters.tryReserve bytes limit casFails with
  | (.ok _, counters) =>
    { ledger with
      counters := counters
      reservations := ledger.reservations.insert id (.new bytes ledger.resets) }
  | (.error _, counters) => { ledger with counters := counters }

def step : Action → QuotaLedger → QuotaLedger
  | .reserve id bytes limit casFails, ledger =>
    if (ledger.reservations.lookup id).isNone then
      ledger.reserve id bytes.toNat limit.toNat casFails
    else ledger
  | .commit id bytes, ledger =>
    match ledger.reservations.lookup id with
    | some reservation =>
      if hbytes : bytes ≤ reservation.uncommitted then
        { ledger with
          reservations := ledger.reservations.insert id (reservation.commit bytes hbytes) }
      else ledger
    | none => ledger
  | .refund id bytes, ledger =>
    match ledger.reservations.lookup id with
    | some reservation =>
      if hbytes : bytes ≤ reservation.uncommitted then
        { ledger with
          counters := ledger.counters.refund bytes
          reservations := ledger.reservations.insert id (reservation.refund bytes hbytes) }
      else ledger
    | none => ledger
  | .reset, ledger =>
    { ledger with counters := ledger.counters.reset, resets := ledger.resets + 1 }

/-- The bytes that were committed by reservations made after the last reset. -/
def committedSinceReset (ledger : QuotaLedger) : ℕ :=
  Table.total ledger.reservations fun _ reservation => reservation.committedAfter ledger.resets

def heldSinceReset (ledger : QuotaLedger) : ℕ :=
  Table.total ledger.reservations fun _ reservation => reservation.heldAfter ledger.resets

theorem committedSinceReset_le_heldSinceReset (ledger : QuotaLedger) :
    ledger.committedSinceReset ≤ ledger.heldSinceReset :=
  Table.total_le_total fun _ reservation => reservation.committedAfter_le_heldAfter ledger.resets

/-! ## The counter covers what is held -/

structure Backed (ledger : QuotaLedger) : Prop where
  held : ledger.heldSinceReset ≤ ledger.counters.usedBytes
  used : ledger.counters.usedBytes ≤ u64Max
  made : ∀ id reservation, ledger.reservations.lookup id = some reservation →
    reservation.resets ≤ ledger.resets

def RefundsCurrent (ledger : QuotaLedger) : Action → Prop
  | .refund id _ =>
    ∀ reservation ∈ ledger.reservations.lookup id, reservation.resets = ledger.resets
  | _ => True

variable {ledger : QuotaLedger}

theorem backed_start (usedBytes : UInt64) : (start usedBytes).Backed where
  held := Nat.zero_le _
  used := Nat.le_sub_one_of_lt usedBytes.toNat_lt
  made := by
    intro id reservation hlookup
    cases hlookup

section

variable (hbacked : ledger.Backed)
include hbacked

theorem made_insert {id : ℕ} {reservation : Reservation}
    (hreservation : reservation.resets ≤ ledger.resets) (other : ℕ) (found : Reservation)
    (hlookup : (ledger.reservations.insert id reservation).lookup other = some found) :
    found.resets ≤ ledger.resets := by
  obtain ⟨-, rfl⟩ | ⟨-, hlookup⟩ := Table.lookup_insert_some hlookup
  · exact hreservation
  · exact hbacked.made other found hlookup

theorem Backed.reserve {id bytes limit : ℕ} {casFails : Bool}
    (hid : ledger.reservations.lookup id = none) (hlimit : limit ≤ u64Max) :
    (ledger.reserve id bytes limit casFails).Backed := by
  obtain ⟨error, hreserve⟩ | ⟨hfits, hreserve⟩ :=
    UserQuotaCounters.tryReserve_cases bytes casFails hbacked.used hlimit
  · rw [QuotaLedger.reserve, hreserve]
    exact hbacked
  · rw [QuotaLedger.reserve, hreserve]
    refine ⟨?_, hfits, made_insert hbacked (le_refl _)⟩
    have hheld := hbacked.held
    dsimp only [heldSinceReset] at hheld ⊢
    rw [Table.total_insert_new _ hid, Reservation.heldAfter_new]
    omega

theorem Backed.commit {id bytes : ℕ} : (step (.commit id bytes) ledger).Backed := by
  dsimp only [step]
  split
  · rename_i reservation hlookup
    split
    · rename_i hbytes
      refine ⟨?_, hbacked.used, made_insert hbacked (hbacked.made id reservation hlookup)⟩
      have hheld := hbacked.held
      have hmoved := Table.total_insert_replace
        (fun _ reservation => Reservation.heldAfter ledger.resets reservation)
        (reservation.commit bytes hbytes) hlookup
      rw [Reservation.heldAfter_commit] at hmoved
      dsimp only [heldSinceReset] at hheld ⊢
      omega
    · exact hbacked
  · exact hbacked

theorem Backed.refund {id bytes : ℕ} (hcurrent : ledger.RefundsCurrent (.refund id bytes)) :
    (step (.refund id bytes) ledger).Backed := by
  dsimp only [step]
  split
  · rename_i reservation hlookup
    split
    · rename_i hbytes
      have hresets : reservation.resets = ledger.resets := hcurrent reservation hlookup
      refine ⟨?_, (Nat.sub_le _ _).trans hbacked.used,
        made_insert hbacked (hbacked.made id reservation hlookup)⟩
      have hheld := hbacked.held
      have hmoved := Table.total_insert_replace
        (fun _ reservation => Reservation.heldAfter ledger.resets reservation)
        (reservation.refund bytes hbytes) hlookup
      have hrefund := Reservation.heldAfter_refund hbytes
      rw [hresets] at hrefund
      dsimp only [heldSinceReset, UserQuotaCounters.refund] at hheld ⊢
      omega
    · exact hbacked
  · exact hbacked

theorem Backed.reset : (step .reset ledger).Backed where
  held := by
    apply le_of_eq
    apply Table.total_eq_zero
    intro id reservation hlookup
    have hmade := hbacked.made id reservation hlookup
    apply if_neg
    dsimp only [step]
    omega
  used := Nat.zero_le _
  made := fun id reservation hlookup =>
    (hbacked.made id reservation hlookup).trans (Nat.le_succ _)

/-- With current refunds the counter covers what is held since the last reset. -/
theorem Backed.step {action : Action}
    (hcurrent : ledger.RefundsCurrent action) : (step action ledger).Backed := by
  cases action with
  | reserve id bytes limit casFails =>
    dsimp only [QuotaLedger.step]
    split
    · rename_i hid
      exact hbacked.reserve (Option.isNone_iff_eq_none.mp hid) (Nat.le_sub_one_of_lt limit.toNat_lt)
    · exact hbacked
  | commit id bytes => exact hbacked.commit
  | refund id bytes => exact hbacked.refund hcurrent
  | reset => exact hbacked.reset

end

/-- If no reset falls between a reservation and a refund of it, then the
counter covers what was committed since the last reset. -/
theorem committed_le_used (usedBytes : UInt64) (actions : List Action)
    (hcurrent : Runs.Along step RefundsCurrent actions (start usedBytes)) :
    (Runs.run step actions (start usedBytes)).committedSinceReset ≤
      (Runs.run step actions (start usedBytes)).counters.usedBytes := by
  have hstep : ∀ ledger action, Backed ledger → RefundsCurrent ledger action →
      Backed (step action ledger) := fun ledger action hbacked haction => hbacked.step haction
  have hbacked := hcurrent.invariant hstep (backed_start usedBytes)
  exact (committedSinceReset_le_heldSinceReset _).trans hbacked.held

def transfersAroundReset : List Action :=
  [.reserve 1 100 1000 false, .commit 1 30, .refund 1 70, .reset,
    .reserve 2 50 1000 false, .commit 2 20, .refund 2 30]

theorem committed_le_used_around_reset :
    Runs.Along step RefundsCurrent transfersAroundReset (start 0) ∧
      (Runs.run step transfersAroundReset (start 0)).committedSinceReset = 20 ∧
      (Runs.run step transfersAroundReset (start 0)).committedSinceReset ≤
        (Runs.run step transfersAroundReset (start 0)).counters.usedBytes := by
  have hcurrent : Runs.Along step RefundsCurrent transfersAroundReset (start 0) := by
    refine ⟨trivial, trivial, ?_, trivial, trivial, trivial, ?_, trivial⟩
    · intro reservation hlookup
      cases hlookup
      rfl
    · intro reservation hlookup
      cases hlookup
      rfl
  exact ⟨hcurrent, by decide, committed_le_used 0 transfersAroundReset hcurrent⟩

/-- The refund of a transfer that began before the reset takes away what a
later transfer has used. -/
theorem late_refund_erases_usage :
    (Runs.run step [.reserve 1 100 1000 false, .reset, .reserve 2 50 1000 false,
        .commit 2 50, .refund 1 100] (start 0)).committedSinceReset = 50 ∧
      (Runs.run step [.reserve 1 100 1000 false, .reset, .reserve 2 50 1000 false,
        .commit 2 50, .refund 1 100] (start 0)).counters.usedBytes = 0 := by
  decide

end QuotaLedger
end TupoProxy.QuotaRelay
