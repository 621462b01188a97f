import TupoProxy.ReplayShard

/-!
# The replay shard as a sliding-window set

The purpose of a shard is stated as a log: a key counts as seen while it is
within the window and fewer than `capacity` keys were freshly added after it.
A shard answers exactly so as long as the clock can represent the start of the
window.  When it cannot, the shard takes the present as the start of the
window and forgets every key of an earlier instant.
-/

namespace TupoProxy.Replay

open WindowSet List

inductive Request where
  | checkAndAdd (key : List Byte) (now : ℕ)
  | checkOnly (key : List Byte) (now : ℕ)
  | addOnly (key : List Byte) (now : ℕ)
  | periodicCleanup (now : ℕ)
  deriving Repr, DecidableEq

namespace Request

def now : Request → ℕ
  | checkAndAdd _ now => now
  | checkOnly _ now => now
  | addOnly _ now => now
  | periodicCleanup now => now

def asked : Request → Option (List Byte)
  | checkAndAdd key _ => some key
  | checkOnly key _ => some key
  | addOnly _ _ => none
  | periodicCleanup _ => none

def offered : Request → Option (List Byte)
  | checkAndAdd key _ => some key
  | checkOnly _ _ => none
  | addOnly key _ => some key
  | periodicCleanup _ => none

end Request

def ReplayShard.serve (window : ℕ) (shard : ReplayShard) : Request → ReplayShard × Option Bool
  | .checkAndAdd key now =>
    let (shard, found) := shard.checkAndAdd key now window
    (shard, some found)
  | .checkOnly key now =>
    let (shard, found) := shard.check key now window
    (shard, some found)
  | .addOnly key now => (shard.addOwned (.fromSlice key) now window, none)
  | .periodicCleanup now => (shard.cleanup now window, none)

def ReplayShard.serveAll (window : ℕ) (shard : ReplayShard) (requests : List Request) :
    ReplayShard :=
  requests.foldl (fun shard request => (shard.serve window request).1) shard

/-- The fresh additions so far, and one more if the key is not seen.  A window
of zero length retains nothing. -/
def record (window capacity : ℕ) (log : List (ℕ × List Byte)) (request : Request) :
    List (ℕ × List Byte) :=
  match request.offered with
  | none => log
  | some key =>
    if window = 0 ∨ Seen window capacity request.now log key then log
    else log ++ [(request.now, key)]

def freshAdditions (window capacity : ℕ) (requests : List Request) : List (ℕ × List Byte) :=
  requests.foldl (record window capacity) []

theorem record_of_offered {window capacity : ℕ} {log : List (ℕ × List Byte)}
    {request : Request} {key : List Byte} (hpos : window ≠ 0)
    (hoffered : request.offered = some key) :
    record window capacity log request =
      if Seen window capacity request.now log key then log else log ++ [(request.now, key)] := by
  rw [record, hoffered]
  simp only [hpos, false_or]

theorem record_zero (capacity : ℕ) (log : List (ℕ × List Byte)) (request : Request) :
    record 0 capacity log request = log := by
  unfold record
  split
  · rfl
  · exact if_pos (Or.inl rfl)

namespace ReplayShard

variable {window now : ℕ} {shard : ReplayShard} {log : List (ℕ × List Byte)}

section

variable (htracks : Tracks window shard log now)
include htracks

theorem Tracks.later {later : ℕ} (hlater : now ≤ later) : Tracks window shard log later :=
  { htracks with
    keeps := htracks.keeps.expire hlater (Nat.zero_le _) (by simp)
    past := fun entry hmem => (htracks.past entry hmem).trans hlater }

section

variable {later : ℕ} (hlater : now ≤ later) (hpos : window ≠ 0) (hclock : window ≤ later)
  (key : List Byte)
include hlater hpos hclock

/-- A lookup answers by the window of the log. -/
theorem check_spec :
    Tracks window (shard.check key later window).1 log later ∧
      (shard.check key later window).1.capacity = shard.capacity ∧
      (shard.check key later window).2 = decide (Seen window shard.capacity later log key) := by
  obtain ⟨hclean, hyoung, hcapacity⟩ := htracks.cleanup hlater hpos hclock
  rw [check_eq hpos]
  refine ⟨hclean.renewed key, hcapacity, ?_⟩
  have hpeek := hclean.peek_iff hyoung key
  rw [hcapacity] at hpeek
  simp only [LruCache.get_value]
  exact Bool.eq_iff_iff.mpr (hpeek.trans decide_eq_true_iff.symm)

theorem addOwned_spec :
    Tracks window (shard.addOwned (.fromSlice key) later window)
        (if Seen window shard.capacity later log key then log else log ++ [(later, key)]) later ∧
      (shard.addOwned (.fromSlice key) later window).capacity = shard.capacity := by
  obtain ⟨hclean, hyoung, hcapacity⟩ := htracks.cleanup hlater hpos hclock
  have hpeek := hclean.peek_iff hyoung key
  rw [hcapacity] at hpeek
  by_cases hseen : Seen window shard.capacity later log key
  · rw [addOwned_of_present hpos (hpeek.mpr hseen), if_pos hseen]
    exact ⟨hclean, hcapacity⟩
  · have hnew := Bool.eq_false_iff.mpr (mt hpeek.mp hseen)
    rw [addOwned_of_absent hpos hnew, if_neg hseen]
    have hpush := hclean.push (.fromSlice key) (by rwa [ReplayKey.asSlice_fromSlice])
    rw [ReplayKey.asSlice_fromSlice] at hpush
    exact ⟨hpush.1, hpush.2.trans hcapacity⟩

/-- The shard answers and records as the window over the log of its additions does. -/
theorem checkAndAdd_spec :
    Tracks window (shard.checkAndAdd key later window).1
        (if Seen window shard.capacity later log key then log else log ++ [(later, key)]) later ∧
      (shard.checkAndAdd key later window).1.capacity = shard.capacity ∧
      (shard.checkAndAdd key later window).2 =
        decide (Seen window shard.capacity later log key) := by
  obtain ⟨hchecked, hcapacity, hfound⟩ := check_spec htracks hlater hpos hclock key
  by_cases hseen : Seen window shard.capacity later log key
  · rw [decide_eq_true hseen] at hfound
    simp only [checkAndAdd, hfound, if_true, if_pos hseen]
    exact ⟨hchecked, hcapacity, (decide_eq_true hseen).symm⟩
  · rw [decide_eq_false hseen] at hfound
    obtain ⟨hadded, hcapacity'⟩ := addOwned_spec hchecked le_rfl hpos hclock key
    rw [hcapacity] at hadded
    simp only [checkAndAdd, hfound, Bool.false_eq_true, if_false]
    exact ⟨hadded, hcapacity'.trans hcapacity, (decide_eq_false hseen).symm⟩

end

end

/-- What one operation does to the log and what it answers. -/
structure Served (window : ℕ) (shard : ReplayShard) (log : List (ℕ × List Byte))
    (request : Request) : Prop where
  tracks : Tracks window (shard.serve window request).1
    (record window shard.capacity log request) request.now
  capacity_eq : (shard.serve window request).1.capacity = shard.capacity
  report : (shard.serve window request).2 = request.asked.map fun key =>
    decide (Seen window shard.capacity request.now log key)

variable {request : Request}

theorem serve_zero (htracks : Tracks 0 shard [] now)
    (hlater : now ≤ request.now) : Served 0 shard [] request := by
  have hreport : ∀ key : List Byte,
      some false = some (decide (Seen 0 shard.capacity request.now [] key)) := by
    intro key
    have hempty : ¬ Seen 0 shard.capacity request.now [] key := by
      rintro ⟨index, time, hget, -⟩
      cases hget
    rw [decide_eq_false hempty]
  have hkeep := htracks.later hlater
  cases request with
  | checkAndAdd key later =>
    refine ⟨?_, rfl, hreport key⟩
    exact hkeep
  | checkOnly key later => exact ⟨hkeep, rfl, hreport key⟩
  | addOnly key later =>
    refine ⟨?_, rfl, rfl⟩
    exact hkeep
  | periodicCleanup later =>
    refine ⟨⟨⟨List.Perm.refl _, htracks.paired.cap_eq⟩, htracks.capacity_pos, .nil _ _ _,
      List.Pairwise.nil, ?_⟩, rfl, rfl⟩
    intro entry hmem
    cases hmem

theorem serve_nonzero (htracks : Tracks window shard log now)
    (hlater : now ≤ request.now) (hpos : window ≠ 0) (hclock : window ≤ request.now) :
    Served window shard log request := by
  cases request with
  | checkAndAdd key later =>
    obtain ⟨hadded, hcapacity, hfound⟩ := checkAndAdd_spec htracks hlater hpos hclock key
    refine ⟨?_, hcapacity, congrArg some hfound⟩
    rw [record_of_offered hpos rfl]
    exact hadded
  | checkOnly key later =>
    obtain ⟨hchecked, hcapacity, hfound⟩ := check_spec htracks hlater hpos hclock key
    exact ⟨hchecked, hcapacity, congrArg some hfound⟩
  | addOnly key later =>
    obtain ⟨hadded, hcapacity⟩ := addOwned_spec htracks hlater hpos hclock key
    refine ⟨?_, hcapacity, rfl⟩
    rw [record_of_offered hpos rfl]
    exact hadded
  | periodicCleanup later =>
    obtain ⟨hclean, -, hcapacity⟩ := htracks.cleanup hlater hpos hclock
    exact ⟨hclean, hcapacity, rfl⟩

/-! ## Every history -/

theorem freshAdditions_zero (capacity : ℕ) (history : List Request) :
    freshAdditions 0 capacity history = [] := by
  induction history using reverseRecOn with
  | nil => rfl
  | append_singleton history request ih =>
    rw [freshAdditions, foldl_append]
    change record 0 capacity (freshAdditions 0 capacity history) request = []
    rw [record_zero, ih]

theorem serve_served {capacity : ℕ} {history : List Request}
    (htracks : Tracks window shard (freshAdditions window capacity history) now)
    (hlater : now ≤ request.now) (hclock : window ≤ request.now) :
    Served window shard (freshAdditions window capacity history) request := by
  rcases eq_or_ne window 0 with rfl | hpos
  · rw [freshAdditions_zero] at htracks ⊢
    exact serve_zero htracks hlater
  · exact serve_nonzero htracks hlater hpos hclock

theorem serveAll_tracks (cap : ℕ+) (window : ℕ) (history : List Request)
    (hmono : ((history ++ [request]).map Request.now).Pairwise (· ≤ ·))
    (hclock : ∀ served ∈ history ++ [request], window ≤ served.now) :
    Tracks window ((new cap).serveAll window history) (freshAdditions window cap history)
        request.now ∧ ((new cap).serveAll window history).capacity = cap := by
  induction history using reverseRecOn generalizing request with
  | nil => exact ⟨(new_tracks window cap).later (Nat.zero_le _), rfl⟩
  | append_singleton history last ih =>
    rw [map_append, pairwise_append] at hmono
    have hlast : last.now ≤ request.now :=
      hmono.2.2 _ (mem_map_of_mem (by simp)) _ (mem_singleton_self _)
    obtain ⟨htracks, hcapacity⟩ := ih hmono.1 fun earlier hmem =>
      hclock earlier (mem_append_left _ hmem)
    have hserved := serve_served htracks le_rfl (hclock last (by simp))
    rw [serveAll, freshAdditions, foldl_append, foldl_append]
    have hrequest := hserved.tracks
    rw [hcapacity] at hrequest
    exact ⟨hrequest.later hlast, hserved.capacity_eq.trans hcapacity⟩

/-- After every history, an operation reports a key as seen exactly when the
key was freshly added within the window and fewer than `cap` keys were freshly
added after it.  The cache and the queue hold the same keys with the same
sequence numbers, no key twice and at most `cap` of them. -/
theorem serve_refines_window (cap : ℕ+) (window : ℕ) (history : List Request) (request : Request)
    (hmono : ((history ++ [request]).map Request.now).Pairwise (· ≤ ·))
    (hclock : ∀ served ∈ history ++ [request], window ≤ served.now) :
    let shard := (new cap).serveAll window history
    (shard.serve window request).2 = request.asked.map (fun key =>
        decide (Seen window cap request.now (freshAdditions window cap history) key)) ∧
      shard.cache.entries.Perm (shard.queue.map QueueEntry.pair) ∧
      (shard.queue.map fun entry => entry.key.asSlice).Nodup ∧
      shard.queue.length ≤ cap ∧ shard.cache.len ≤ cap := by
  intro shard
  obtain ⟨htracks, hcapacity⟩ := serveAll_tracks cap window history hmono hclock
  have hreport := (serve_served htracks le_rfl (hclock request (by simp))).report
  have hlength := htracks.keeps.within
  rw [hcapacity] at hreport
  rw [hcapacity, length_map] at hlength
  exact ⟨hreport, htracks.paired.perm, htracks.paired.distinct, hlength,
    htracks.paired.len_eq.trans_le hlength⟩

theorem serve_refines_window_pair :
    (((new 2).serveAll 60 [.checkAndAdd [1] 100, .addOnly [2] 110]).serve 60
      (.checkAndAdd [1] 160)).2 = some true :=
  (serve_refines_window 2 60 [.checkAndAdd [1] 100, .addOnly [2] 110] (.checkAndAdd [1] 160)
    (by decide) (by decide)).1.trans (by decide +kernel)

/-- On a clock that started five seconds ago the window of a minute does not
fit, and a key is forgotten after one second. -/
theorem serve_forgets_on_young_clock :
    (((new 16).serveAll 60 [.checkAndAdd [1] 5]).serve 60 (.checkAndAdd [1] 6)).2 = some false ∧
      Seen 60 16 6 (freshAdditions 60 16 [.checkAndAdd [1] 5]) [1] := by
  decide +kernel

end ReplayShard
end TupoProxy.Replay
