import TupoProxy.MtprotoAuth
import TupoProxy.Runs

/-!
# Accepted clients and their hints

Only a user whose secret verifies the handshake is accepted.  An accepted client leaves a
hint: it is the first to be tried when it comes again from its address, so that it costs
one check even under overload, whoever came from other addresses in between.
-/

namespace TupoProxy.MtprotoAuth

open AuthCandidates BoundedScan List

structure Handshake where
  validation : Validation
  sourceIpDenied : List Byte → IpAddr → Bool
  replayed : List Byte → Bool
  request : MtprotoRequest

def Handshake.handle (handshake : Handshake) (snapshot : UserAuthSnapshot)
    (shared : HandshakeSharedState) : MtprotoOutcome × HandshakeSharedState :=
  handleMtprotoHandshake handshake.validation snapshot handshake.sourceIpDenied
    handshake.replayed shared handshake.request

def step (snapshot : UserAuthSnapshot) (handshake : Handshake) (shared : HandshakeSharedState) :
    HandshakeSharedState :=
  (handshake.handle snapshot shared).2

variable {snapshot : UserAuthSnapshot} {shared : HandshakeSharedState} {handshake : Handshake}
  {user : List Byte} {candidate : MtprotoCandidateValidation}

variable (snapshot shared handshake) in
/-- A handshake leaves the hints by address alone, or it succeeds and leaves a new one. -/
theorem handle_cases :
    ((∀ user candidate, (handshake.handle snapshot shared).1 ≠ .success user candidate) ∧
        (step snapshot handshake shared).stickyUserByIp = shared.stickyUserByIp) ∨
      ∃ userId entry candidate,
        lookUser handshake.validation snapshot handshake.request.handshake userId =
          .accepted (entry, candidate) ∧
        handshake.sourceIpDenied entry.user handshake.request.peerIp = false ∧
        handshake.replayed (decPrekeyIv handshake.request.handshake) = false ∧
        (handshake.handle snapshot shared).1 = .success entry.user candidate ∧
        (step snapshot handshake shared).stickyUserByIp =
          stickyInsert shared.stickyUserByIp handshake.request.peerIp userId := by
  simp only [step, Handshake.handle, handleMtprotoHandshake]
  split
  · exact Or.inl ⟨by simp, rfl⟩
  · next userId entry candidate hfound =>
    split
    · exact Or.inl ⟨by simp, rfl⟩
    · next hallowed =>
      split
      · exact Or.inl ⟨by simp, rfl⟩
      · next hfresh =>
        rw [scanCandidates, scanSources_eq_scan] at hfound
        refine Or.inr ⟨userId, entry, candidate, scan_found _ (by simp [State.start]) hfound,
          Bool.eq_false_iff.mpr hallowed, Bool.eq_false_iff.mpr hfresh, rfl, ?_⟩
        simp only [recordRecentUserSuccess]
        split <;> rfl

/-- A success names a user of the snapshot whose secret verifies the handshake with the
returned keys, whose address is not denied, and whose key bytes are not replayed. -/
theorem success_verified
    (hsuccess : (handshake.handle snapshot shared).1 = .success user candidate) :
    (∃ entry ∈ snapshot.entries, entry.user = user ∧
        validateMtprotoSecretCandidate handshake.validation handshake.request.handshake
          (handshakeKeys handshake.request.handshake) entry.secret = some candidate) ∧
      handshake.sourceIpDenied user handshake.request.peerIp = false ∧
      handshake.replayed (decPrekeyIv handshake.request.handshake) = false := by
  obtain ⟨hnone, -⟩ | ⟨userId, entry, found, hlook, hallowed, hfresh, hanswer, -⟩ :=
    handle_cases snapshot shared handshake
  · exact absurd hsuccess (hnone user candidate)
  · cases hanswer.symm.trans hsuccess
    obtain ⟨hentry, hvalid⟩ := lookUser_accepted hlook
    exact ⟨⟨entry, mem_of_getElem? hentry, rfl, hvalid⟩, hallowed, hfresh⟩

/-! ## The hint of an accepted client -/

def Keeps (ip : IpAddr) (shared : HandshakeSharedState) (other : Handshake) : Prop :=
  ip ≠ other.request.peerIp ∧ shared.stickyUserByIp.keys.length ≤ stickyHintMaxEntries

/-- A handshake from another address leaves the hint of this one. -/
theorem step_keeps_hint {ip : IpAddr} (hkeeps : Keeps ip shared handshake) :
    (step snapshot handshake shared).stickyUserByIp.lookup ip =
      shared.stickyUserByIp.lookup ip := by
  obtain ⟨-, hsame⟩ | ⟨userId, entry, found, -, -, -, -, hinserted⟩ :=
    handle_cases snapshot shared handshake
  · rw [hsame]
  · rw [hinserted, stickyInsert, if_neg (not_lt.mpr hkeeps.2), AList.lookup_insert_ne hkeeps.1]

theorem scan_of_hint {validation : Validation} {request : MtprotoRequest} {userId : ℕ}
    {value : UserAuthEntry × MtprotoCandidateValidation}
    (hhint : shared.stickyUserByIp.lookup request.peerIp = some userId)
    (hlook : lookUser validation snapshot request.handshake userId = .accepted value) :
    (scanCandidates validation snapshot shared request).found = some (userId, value) ∧
      (scanCandidates validation snapshot shared request).checks = 1 := by
  have husers : 0 < snapshot.entries.length :=
    Nat.zero_lt_of_lt (List.getElem?_eq_some_iff.mp (lookUser_accepted hlook).1).1
  have hbudget (hasHint : Bool) :
      0 < budgetForValidation snapshot.entries.length request.overload hasHint := by
    rw [budgetForValidation, if_neg husers.ne']
    split
    · exact husers
    · exact lt_min husers (lt_max_of_lt_right Nat.one_pos)
  have hfirst : hinted (mtprotoSources snapshot shared request) = userId ::
      (hinted (mtprotoSources snapshot shared request)).tail := by
    simp only [hinted, mtprotoSources, hhint, Option.toList_some, cons_append, tail_cons]
  rw [scanCandidates, scanSources_eq_scan, hfirst, cons_append, scan, if_neg (by decide), attempt,
    State.start, if_neg (not_le.mpr (hbudget _)), if_neg not_mem_nil, hlook, scan_of_stopped rfl]
  exact ⟨rfl, rfl⟩

/-- After a success, and any handshakes from other addresses that do not find the map too
large, a handshake from the same address that the secret of the accepted user verifies is
matched to this user by one check, also under overload. -/
theorem accepted_client_checked_once (others : List Handshake)
    (hsuccess : (handshake.handle snapshot shared).1 = .success user candidate)
    (hothers : Runs.Along (step snapshot) (Keeps handshake.request.peerIp) others
      (step snapshot handshake shared)) :
    ∃ userId entry, snapshot.entryById userId = some entry ∧ entry.user = user ∧
      ∀ (again : MtprotoRequest) (later : Validation) (found : MtprotoCandidateValidation),
        again.peerIp = handshake.request.peerIp →
        validateMtprotoSecretCandidate later again.handshake (handshakeKeys again.handshake)
          entry.secret = some found →
        let scan := scanCandidates later snapshot
          (Runs.run (step snapshot) (handshake :: others) shared) again
        scan.found = some (userId, entry, found) ∧ scan.checks = 1 := by
  obtain ⟨hnone, -⟩ | ⟨userId, entry, first, hlook, -, -, hanswer, hinserted⟩ :=
    handle_cases snapshot shared handshake
  · exact absurd hsuccess (hnone user candidate)
  cases hanswer.symm.trans hsuccess
  have hentry := (lookUser_accepted hlook).1
  refine ⟨userId, entry, hentry, rfl, ?_⟩
  intro again later found hagain hvalid
  have hstep : ∀ (shared : HandshakeSharedState) (other : Handshake),
      shared.stickyUserByIp.lookup handshake.request.peerIp = some userId →
      Keeps handshake.request.peerIp shared other →
      (step snapshot other shared).stickyUserByIp.lookup handshake.request.peerIp = some userId :=
    fun shared other hhint hkeeps => (step_keeps_hint hkeeps).trans hhint
  apply scan_of_hint
  · rw [hagain]
    refine hothers.invariant hstep ?_
    rw [hinserted]
    exact AList.lookup_insert _
  · rw [lookUser, lookUserWith, hentry]
    simp only [hvalid]

def sampleAccepted : Handshake :=
  ⟨sampleValidation, fun _ _ => false, fun _ => false, sampleMtproto⟩

theorem sample_verifies : (validateMtprotoSecretCandidate sampleValidation sampleHandshake
    (handshakeKeys sampleHandshake) secondSecret).isSome := by
  decide +kernel

theorem sampleAccepted_success : (sampleAccepted.handle (sampleSnapshot 2) misledShared).1 =
    .success [98] (Option.get _ sample_verifies) := by
  decide +kernel

theorem success_verified_sample : ∃ entry ∈ (sampleSnapshot 2).entries, entry.user = [98] :=
  (success_verified sampleAccepted_success).1.imp fun _ hentry => ⟨hentry.1, hentry.2.1⟩

def otherAddress : Handshake :=
  { sampleAccepted with request := { sampleMtproto with peerIp := .v4 192 0 2 9 } }

/-- The client comes back under overload, after a handshake from another address. -/
theorem accepted_client_checked_once_sample :
    let scan := scanCandidates sampleValidation (sampleSnapshot 2)
      (Runs.run (step (sampleSnapshot 2)) [sampleAccepted, otherAddress] misledShared)
      { sampleMtproto with overload := true }
    (∃ userId entry, entry.user = [98] ∧
      scan.found = some (userId, entry, Option.get _ sample_verifies)) ∧ scan.checks = 1 := by
  obtain ⟨userId, entry, hentry, huser, hagain⟩ :=
    accepted_client_checked_once [otherAddress] sampleAccepted_success
      ⟨⟨by decide, by decide +kernel⟩, trivial⟩
  have hsecrets : ∀ entry ∈ (sampleSnapshot 2).entries, entry.user = [98] →
      entry.secret = secondSecret := by
    decide +kernel
  have hsecret := hsecrets entry (List.mem_of_getElem? hentry) huser
  have hscan := hagain { sampleMtproto with overload := true } sampleValidation
    (Option.get _ sample_verifies) rfl (by rw [hsecret]; exact (Option.some_get _).symm)
  exact ⟨⟨userId, entry, huser, hscan.1⟩, hscan.2⟩

end TupoProxy.MtprotoAuth
