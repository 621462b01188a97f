import TupoProxy.ReaderClose

/-!
# Frames do not depend on the cuts of the stream

What the frame loop finds at the front of the decrypted bytes does not change when more
bytes arrive, unless it waits for them.  So the frames of a stream are determined by the
stream alone, as long as the loop runs until it waits or fails.  Two exits break this: an
invalid length clears all bytes that have arrived so far, and a ping that meets a closed
writer channel leaves the loop with frames still in the buffer.
-/

namespace TupoProxy.ReaderLoop

open ByteWords RpcCodec Fairness List

section Cuts

variable (rpcCrc : Checksum)

inductive Cuts : ℕ → List Byte → List (List Byte) → ℕ → List Byte → Prop where
  | refl {seqNo : ℕ} {dec : List Byte} : Cuts seqNo dec [] seqNo dec
  | skip {seqNo lastSeq : ℕ} {dec rest : List Byte} {frames : List (List Byte)}
      (hfront : front rpcCrc seqNo dec = .skip)
      (hrest : Cuts seqNo (dec.drop 4) frames lastSeq rest) :
      Cuts seqNo dec frames lastSeq rest
  | frame {seqNo lastSeq : ℕ} {dec bytes rest : List Byte} {frames : List (List Byte)}
      (hfront : front rpcCrc seqNo dec = .frame bytes)
      (hrest : Cuts (nextSeq seqNo) (dec.drop bytes.length) frames lastSeq rest) :
      Cuts seqNo dec (bytes :: frames) lastSeq rest

/-- No length word at the front of a frame of the stream is invalid. -/
inductive Framed : ℕ → List Byte → Prop where
  | wait {seqNo : ℕ} {dec : List Byte} (hfront : front rpcCrc seqNo dec = .wait) :
      Framed seqNo dec
  | failed {seqNo : ℕ} {dec : List Byte} {error : RpcError}
      (hfront : front rpcCrc seqNo dec = .failed error) : Framed seqNo dec
  | skip {seqNo : ℕ} {dec : List Byte} (hfront : front rpcCrc seqNo dec = .skip)
      (hrest : Framed seqNo (dec.drop 4)) : Framed seqNo dec
  | frame {seqNo : ℕ} {dec bytes : List Byte} (hfront : front rpcCrc seqNo dec = .frame bytes)
      (hrest : Framed (nextSeq seqNo) (dec.drop bytes.length)) : Framed seqNo dec

variable {rpcCrc} {seqNo lastSeq : ℕ} {dec rest : List Byte} {frames : List (List Byte)}

theorem front_append (hfront : front rpcCrc seqNo dec ≠ .wait) (more : List Byte) :
    front rpcCrc seqNo (dec ++ more) = front rpcCrc seqNo dec := by
  have hlong : ¬ dec.length < 12 := fun hfew => hfront (by rw [front, if_pos hfew])
  have hword : (dec ++ more).take 4 = dec.take 4 := take_append_of_le_length (by omega)
  have hlonger : ¬ (dec ++ more).length < 12 := by
    rw [length_append]
    omega
  unfold front at hfront ⊢
  rw [if_neg hlong] at hfront ⊢
  rw [if_neg hlonger, hword]
  dsimp only at hfront ⊢
  split
  · rfl
  · next hfour =>
    rw [if_neg hfour] at hfront
    split
    · rfl
    · next hvalid =>
      rw [if_neg hvalid] at hfront
      have hall : ¬ dec.length < leNat (dec.take 4) := fun hfew => hfront (if_pos hfew)
      have hmore : ¬ (dec ++ more).length < leNat (dec.take 4) := by
        rw [length_append]
        omega
      rw [if_neg hall, if_neg hmore, take_append_of_le_length (by omega)]

theorem Cuts.append (hcuts : Cuts rpcCrc seqNo dec frames lastSeq rest) (more : List Byte) :
    Cuts rpcCrc seqNo (dec ++ more) frames lastSeq (rest ++ more) := by
  induction hcuts with
  | refl => exact .refl
  | @skip seqNo lastSeq dec rest frames hfront hrest ih =>
    have hlong := front_ready _ hfront (by simp)
    apply Cuts.skip
    · rw [front_append (by rw [hfront]; nofun), hfront]
    · rw [drop_append_of_le_length (by omega)]
      exact ih
  | @frame seqNo lastSeq dec bytes rest frames hfront hrest ih =>
    have hlength := congrArg length (front_frame _ hfront).2.2
    rw [length_append] at hlength
    apply Cuts.frame
    · rw [front_append (by rw [hfront]; nofun), hfront]
    · rw [drop_append_of_le_length (by omega)]
      exact ih

theorem Cuts.trans {middle : ℕ} {between : List Byte} {more : List (List Byte)}
    (hfirst : Cuts rpcCrc seqNo dec frames middle between)
    (hsecond : Cuts rpcCrc middle between more lastSeq rest) :
    Cuts rpcCrc seqNo dec (frames ++ more) lastSeq rest := by
  induction hfirst with
  | refl => exact hsecond
  | skip hfront hrest ih => exact .skip hfront (ih hsecond)
  | frame hfront hrest ih => exact .frame hfront (ih hsecond)

def Stops (rpcCrc : Checksum) (seqNo : ℕ) (dec : List Byte) : Prop :=
  front rpcCrc seqNo dec = .wait ∨ ∃ error, front rpcCrc seqNo dec = .failed error

theorem Stops.false {next : Front} (hstops : Stops rpcCrc seqNo dec)
    (hfront : front rpcCrc seqNo dec = next) (hwait : next ≠ .wait)
    (hfailed : ∀ error, next ≠ .failed error) : False := by
  rcases hstops with hstop | ⟨error, hstop⟩
  · exact hwait (hfront.symm.trans hstop)
  · exact hfailed error (hfront.symm.trans hstop)

theorem Cuts.unique {lastSeq' : ℕ} {rest' : List Byte} {frames' : List (List Byte)}
    (hcuts : Cuts rpcCrc seqNo dec frames lastSeq rest) (hstops : Stops rpcCrc lastSeq rest)
    (hcuts' : Cuts rpcCrc seqNo dec frames' lastSeq' rest')
    (hstops' : Stops rpcCrc lastSeq' rest') :
    frames = frames' ∧ lastSeq = lastSeq' ∧ rest = rest' := by
  induction hcuts generalizing frames' with
  | refl =>
    cases hcuts' with
    | refl => exact ⟨rfl, rfl, rfl⟩
    | skip hfront => exact (hstops.false hfront nofun nofun).elim
    | frame hfront => exact (hstops.false hfront nofun nofun).elim
  | skip hfront hrest ih =>
    cases hcuts' with
    | refl => exact (hstops'.false hfront nofun nofun).elim
    | skip _ hrest' => exact ih hstops hrest'
    | frame hfront' =>
      rw [hfront] at hfront'
      cases hfront'
  | frame hfront hrest ih =>
    cases hcuts' with
    | refl => exact (hstops'.false hfront nofun nofun).elim
    | skip hfront' =>
      rw [hfront] at hfront'
      cases hfront'
    | frame hfront' hrest' =>
      rw [hfront] at hfront'
      cases hfront'
      obtain ⟨rfl, hseq, hrests⟩ := ih hstops hrest'
      exact ⟨rfl, hseq, hrests⟩

theorem Framed.behind {next : Front} (hframed : Framed rpcCrc seqNo dec) :
    front rpcCrc seqNo dec = next →
    match next with
    | .skip => Framed rpcCrc seqNo (dec.drop 4)
    | .frame bytes => Framed rpcCrc (nextSeq seqNo) (dec.drop bytes.length)
    | .reset => False
    | _ => True := by
  rintro rfl
  cases hframed with
  | wait hfront => rw [hfront]; trivial
  | failed hfront => rw [hfront]; trivial
  | skip hfront hrest => rw [hfront]; exact hrest
  | frame hfront hrest => rw [hfront]; exact hrest

theorem Framed.of_cuts (hframed : Framed rpcCrc seqNo dec)
    (hcuts : Cuts rpcCrc seqNo dec frames lastSeq rest) : Framed rpcCrc lastSeq rest := by
  induction hcuts with
  | refl => exact hframed
  | skip hfront hrest ih => exact ih (hframed.behind hfront)
  | frame hfront hrest ih => exact ih (hframed.behind hfront)

theorem Framed.arrived {stream later : List Byte} (hframed : Framed rpcCrc seqNo stream)
    (hstream : stream = dec ++ later) : Framed rpcCrc seqNo dec := by
  induction hframed generalizing dec with
  | @wait seqNo stream hfront =>
    by_cases hwait : front rpcCrc seqNo dec = .wait
    · exact .wait hwait
    · rw [hstream, front_append hwait] at hfront
      exact absurd hfront hwait
  | @failed seqNo stream error hfront =>
    by_cases hwait : front rpcCrc seqNo dec = .wait
    · exact .wait hwait
    · rw [hstream, front_append hwait] at hfront
      exact .failed hfront
  | @skip seqNo stream hfront hrest ih =>
    by_cases hwait : front rpcCrc seqNo dec = .wait
    · exact .wait hwait
    · rw [hstream, front_append hwait] at hfront
      have hlong := front_ready _ hfront (by simp)
      apply Framed.skip hfront
      apply ih
      rw [hstream, drop_append_of_le_length (by omega)]
  | @frame seqNo stream bytes hfront hrest ih =>
    by_cases hwait : front rpcCrc seqNo dec = .wait
    · exact .wait hwait
    · rw [hstream, front_append hwait] at hfront
      have hlength := congrArg length (front_frame _ hfront).2.2
      rw [length_append] at hlength
      apply Framed.frame hfront
      apply ih
      rw [hstream, drop_append_of_le_length (by omega)]

end Cuts

/-! ## The loop on a stream -/

section Loop

variable {world : World} {state : ReaderState} {stream rest : List Byte}

/-- The loop has ended with the error at the front of the rest, or waits with the rest in
its buffer.  Before the first read the bytes of the handshake have not been looked at. -/
def Halted (rpcCrc : Checksum) (begun : Prop) (state : ReaderState) (rest : List Byte) : Prop :=
  (state.ended = none ∧ state.dec = rest ∧
      (begun → front rpcCrc state.expectedSeq rest = .wait)) ∨
    ∃ error, state.ended = some error ∧ front rpcCrc state.expectedSeq rest = .failed error

/-- The frames of the state are the frames at the front of the stream. -/
def Consumed (rpcCrc : Checksum) (begun : Prop) (stream : List Byte) (state : ReaderState) :
    Prop :=
  ∃ rest, Cuts rpcCrc 0 stream state.frames state.expectedSeq rest ∧
    Halted rpcCrc begun state rest

variable {rpcCrc : Checksum} {begun : Prop}

theorem Consumed.mono {begun' : Prop}
    (hconsumed : Consumed rpcCrc begun stream state) (hbegun : begun' → begun) :
    Consumed rpcCrc begun' stream state := by
  obtain ⟨rest, hcuts, hhalted⟩ := hconsumed
  refine ⟨rest, hcuts, hhalted.imp ?_ id⟩
  rintro ⟨hrunning, hdec, hwait⟩
  exact ⟨hrunning, hdec, fun hlater => hwait (hbegun hlater)⟩

section

variable (hpong : ∀ calls, world.pong calls ≠ .closed)
include hpong

variable (backpressureEnabled fairshareEnabled : Bool)

theorem onFrame_continues (frame : List Byte) (routing : Routing) :
    (routing.onFrame world backpressureEnabled fairshareEnabled frame).1 = true := by
  unfold Routing.onFrame
  dsimp only
  split
  · rfl
  · generalize parseMessage ((frame.take (frame.length - 4)).drop 8) = message
    split
    · rfl
    · rfl
    · next hleave =>
      cases message with
      | proxyAns flags connId data =>
        exact absurd hleave (Routing.onProxyAns_ne_leave world _ _ _ _ _ _)
      | simpleAck | closeExt | closeConn | pong | unknown => cases hleave
      | ping pingId =>
        simp only [Routing.onMessage, Routing.onPing, if_neg (hpong _)] at hleave
        cases hleave

theorem frameLoop_cuts {rounds : ℕ}
    (hrounds : state.dec.length < rounds) (hrunning : state.ended = none)
    (hframed : Framed world.rpcCrc state.expectedSeq state.dec) :
    ∃ more rest, (state.frameLoop world backpressureEnabled fairshareEnabled rounds).frames =
          state.frames ++ more ∧ Cuts world.rpcCrc state.expectedSeq state.dec more
          (state.frameLoop world backpressureEnabled fairshareEnabled rounds).expectedSeq rest ∧
        Halted world.rpcCrc True
          (state.frameLoop world backpressureEnabled fairshareEnabled rounds) rest := by
  induction rounds generalizing state with
  | zero => exact absurd hrounds (Nat.not_lt_zero _)
  | succ rounds ih =>
    simp only [ReaderState.frameLoop]
    split
    · next hfront =>
      exact ⟨[], state.dec, (append_nil _).symm, .refl, Or.inl ⟨hrunning, rfl, fun _ => hfront⟩⟩
    · next hfront =>
      have hlong := front_ready _ hfront (by simp)
      have hshorter : (state.dec.drop 4).length < rounds := by
        rw [length_drop]
        omega
      obtain ⟨more, rest, hframes, hcuts, hhalted⟩ :=
        @ih { state with dec := state.dec.drop 4 } hshorter hrunning (hframed.behind hfront)
      exact ⟨more, rest, hframes, .skip hfront hcuts, hhalted⟩
    · next hfront => exact (hframed.behind hfront).elim
    · next error hfront =>
      exact ⟨[], state.dec, (append_nil _).symm, .refl, Or.inr ⟨error, rfl, hfront⟩⟩
    · next frame hfront =>
      obtain ⟨hlong, hframe, -⟩ := front_frame _ hfront
      have hshorter : (state.dec.drop frame.length).length < rounds := by
        rw [length_drop]
        omega
      rw [if_pos (onFrame_continues hpong backpressureEnabled fairshareEnabled frame state.routing)]
      obtain ⟨more, rest, hframes, hcuts, hhalted⟩ :=
        @ih ⟨state.dec.drop frame.length, nextSeq state.expectedSeq, none,
          state.frames ++ [frame], (state.routing.onFrame world backpressureEnabled
            fairshareEnabled frame).2⟩ hshorter rfl (hframed.behind hfront)
      refine ⟨frame :: more, rest, ?_, .frame hfront hcuts, hhalted⟩
      rw [hframes, append_assoc]
      rfl

theorem frameLoop_consumed (hrunning : state.ended = none)
    (hcuts : Cuts world.rpcCrc 0 stream state.frames state.expectedSeq state.dec)
    (hframed : Framed world.rpcCrc 0 stream) :
    Consumed world.rpcCrc True stream
      (state.frameLoop world backpressureEnabled fairshareEnabled (state.dec.length + 1)) := by
  obtain ⟨more, rest, hframes, hmore, hhalted⟩ := frameLoop_cuts hpong backpressureEnabled
    fairshareEnabled (Nat.lt_succ_self state.dec.length) hrunning (hframed.of_cuts hcuts)
  refine ⟨rest, ?_, hhalted⟩
  rw [hframes]
  exact hcuts.trans hmore

end

def Round.plain (round : Round) : List Byte :=
  match round.wake with
  | .read plain => plain
  | .retry => []

def Round.isRead (round : Round) : Bool :=
  match round.wake with
  | .read _ => true
  | .retry => false

theorem consumed_read (hpong : ∀ calls, world.pong calls ≠ .closed)
    (hconsumed : Consumed world.rpcCrc begun stream state) (round : Round)
    (hframed : Framed world.rpcCrc 0 (stream ++ round.plain)) :
    Consumed world.rpcCrc (begun ∨ round.isRead = true) (stream ++ round.plain)
      (ReaderState.step world round state) := by
  obtain ⟨rest, hcuts, hhalted⟩ := hconsumed
  have hgrown := hcuts.append round.plain
  unfold ReaderState.step
  rcases hhalted with ⟨hrunning, hdec, hwait⟩ | ⟨error, hended, hfailed⟩
  · have hlive : ¬ state.ended.isSome = true := by
      rw [hrunning]
      nofun
    rw [if_neg hlive]
    cases hwake : round.wake with
    | read plain =>
      have hplain : round.plain = plain := by rw [Round.plain, hwake]
      rw [hplain] at hframed hgrown ⊢
      rw [← hdec] at hgrown
      apply Consumed.mono _ fun _ => trivial
      exact frameLoop_consumed hpong _ _ hrunning hgrown hframed
    | retry =>
      have hplain : round.plain = [] := by rw [Round.plain, hwake]
      have hquiet : round.isRead = false := by rw [Round.isRead, hwake]
      have hsame : Consumed world.rpcCrc begun stream state :=
        ⟨rest, hcuts, Or.inl ⟨hrunning, hdec, hwait⟩⟩
      rw [hplain, append_nil, hquiet]
      apply Consumed.mono _ fun hbegun => hbegun.resolve_right Bool.false_ne_true
      dsimp only
      split
      · exact hsame
      · exact hsame
  · rw [if_pos (by rw [hended]; rfl)]
    refine ⟨rest ++ round.plain, hgrown, Or.inr ⟨error, hended, ?_⟩⟩
    rw [front_append (by rw [hfailed]; nofun), hfailed]

def streamOf (dec : List Byte) (rounds : List Round) : List Byte :=
  dec ++ rounds.flatMap Round.plain

/-- However it is cut, a well-framed stream is consumed up to its first error. -/
theorem consumed_run (hpong : ∀ calls, world.pong calls ≠ .closed)
    (config : WorkerFairnessConfig) (now : ℕ) (dec : List Byte) {rounds : List Round}
    (hframed : Framed world.rpcCrc 0 (streamOf dec rounds)) :
    Consumed world.rpcCrc (dec = [] ∨ ∃ round ∈ rounds, round.isRead = true) (streamOf dec rounds)
      (Runs.run (ReaderState.step world) rounds (.start config now dec)) := by
  induction rounds using reverseRecOn with
  | nil =>
    refine ⟨dec, ?_, Or.inl ⟨rfl, rfl, ?_⟩⟩
    · rw [streamOf, flatMap_nil, append_nil]
      exact .refl
    · rintro (hnone | ⟨round, hround, -⟩)
      · rw [hnone]
        rfl
      · cases hround
  | append_singleton rounds round ih =>
    have hstream : streamOf dec (rounds ++ [round]) = streamOf dec rounds ++ round.plain := by
      rw [streamOf, streamOf, flatMap_append, flatMap_singleton, append_assoc]
    rw [hstream] at hframed ⊢
    rw [Runs.run_concat]
    apply (consumed_read hpong (ih (hframed.arrived rfl)) round hframed).mono
    intro hbegun
    rcases hbegun with hnone | ⟨earlier, hearlier, hread⟩
    · exact Or.inl (Or.inl hnone)
    · rcases mem_append.mp hearlier with hmem | hmem
      · exact Or.inl (Or.inr ⟨earlier, hmem, hread⟩)
      · rw [mem_singleton.mp hmem] at hread
        exact Or.inr hread

theorem Halted.stops (hhalted : Halted rpcCrc begun state rest)
    (hbegun : begun) : Stops rpcCrc state.expectedSeq rest :=
  hhalted.imp (fun hwaits => hwaits.2.2 hbegun) fun ⟨error, hended⟩ => ⟨error, hended.2⟩

end Loop

/-- Two runs of the loop on one stream without invalid length words, with pings that never
meet a closed writer channel: however the stream is cut into reads, and whatever else
happens, the frames are the same, and so is the error or the rest in the buffer. -/
theorem run_frames_independent (left right : World) (hcrc : left.rpcCrc = right.rpcCrc)
    (hleft : ∀ calls, left.pong calls ≠ .closed) (hright : ∀ calls, right.pong calls ≠ .closed)
    (leftConfig rightConfig : WorkerFairnessConfig) (leftNow rightNow : ℕ)
    (leftDec rightDec : List Byte) (leftRounds rightRounds : List Round)
    (hstream : streamOf leftDec leftRounds = streamOf rightDec rightRounds)
    (hleftRead : leftDec = [] ∨ ∃ round ∈ leftRounds, round.isRead = true)
    (hrightRead : rightDec = [] ∨ ∃ round ∈ rightRounds, round.isRead = true)
    (hframed : Framed left.rpcCrc 0 (streamOf leftDec leftRounds)) :
    (Runs.run (ReaderState.step left) leftRounds (.start leftConfig leftNow leftDec)).frames =
        (Runs.run (ReaderState.step right) rightRounds
          (.start rightConfig rightNow rightDec)).frames ∧
      (Runs.run (ReaderState.step left) leftRounds (.start leftConfig leftNow leftDec)).ended =
        (Runs.run (ReaderState.step right) rightRounds
          (.start rightConfig rightNow rightDec)).ended ∧
      ((Runs.run (ReaderState.step left) leftRounds
            (.start leftConfig leftNow leftDec)).ended = none →
        (Runs.run (ReaderState.step left) leftRounds (.start leftConfig leftNow leftDec)).dec =
          (Runs.run (ReaderState.step right) rightRounds
            (.start rightConfig rightNow rightDec)).dec) := by
  obtain ⟨leftRest, hleftCuts, hleftHalted⟩ := consumed_run hleft leftConfig leftNow leftDec hframed
  rw [hstream, hcrc] at hframed
  obtain ⟨rightRest, hrightCuts, hrightHalted⟩ :=
    consumed_run hright rightConfig rightNow rightDec hframed
  rw [hstream, hcrc] at hleftCuts
  rw [hcrc] at hleftHalted
  obtain ⟨hframes, hseq, hrest⟩ := hleftCuts.unique (hleftHalted.stops hleftRead) hrightCuts
    (hrightHalted.stops hrightRead)
  refine ⟨hframes, ?_⟩
  rcases hleftHalted with ⟨hleftRuns, hleftDec, hleftWait⟩ | ⟨leftError, hleftEnded, hleftFailed⟩
  · have hwait := hleftWait hleftRead
    rcases hrightHalted with ⟨hrightRuns, hrightDec, -⟩ | ⟨rightError, -, hrightFailed⟩
    · refine ⟨hleftRuns.trans hrightRuns.symm, fun _ => ?_⟩
      rw [hleftDec, hrightDec, hrest]
    · rw [hseq, hrest, hrightFailed] at hwait
      cases hwait
  · rcases hrightHalted with ⟨-, -, hrightWait⟩ | ⟨rightError, hrightEnded, hrightFailed⟩
    · rw [hseq, hrest, hrightWait hrightRead] at hleftFailed
      cases hleftFailed
    · rw [hseq, hrest, hrightFailed] at hleftFailed
      cases hleftFailed
      refine ⟨hleftEnded.trans hrightEnded.symm, fun hrunning => ?_⟩
      rw [hleftEnded] at hrunning
      cases hrunning

def readsIn (parts : List (List Byte)) : List Round :=
  parts.map fun part => ⟨false, true, .read part⟩

def framesOf (world : World) (parts : List (List Byte)) : List (List Byte) :=
  (Runs.run (ReaderState.step world) (readsIn parts)
    (.start (readerConfig 64 false) 0 [])).frames

theorem run_frames_independent_cut :
    framesOf (worldAfterFull 0) [ansFrame crc32 0 0 7 [1] ++ padPattern] =
        [ansFrame crc32 0 0 7 [1]] ∧
      framesOf (worldAfterFull 0) [ansFrame crc32 0 0 7 [1] ++ padPattern] =
        framesOf (worldAfterFull 384)
          [(ansFrame crc32 0 0 7 [1]).take 7, (ansFrame crc32 0 0 7 [1]).drop 7, padPattern] := by
  have hstream : streamOf [] (readsIn [ansFrame crc32 0 0 7 [1] ++ padPattern]) =
      streamOf [] (readsIn [(ansFrame crc32 0 0 7 [1]).take 7,
        (ansFrame crc32 0 0 7 [1]).drop 7, padPattern]) := by decide +kernel
  have hframed : Framed crc32 0
      (streamOf [] (readsIn [ansFrame crc32 0 0 7 [1] ++ padPattern])) := by
    have hfront : front crc32 0 (streamOf [] (readsIn [ansFrame crc32 0 0 7 [1] ++ padPattern])) =
        .frame (ansFrame crc32 0 0 7 [1]) := by decide +kernel
    exact .frame hfront (.wait (by decide +kernel))
  exact ⟨by decide +kernel, (run_frames_independent (worldAfterFull 0) (worldAfterFull 384) rfl
    (fun _ => nofun) (fun _ => nofun) (readerConfig 64 false) (readerConfig 64 false) 0 0 [] []
    _ _ hstream (Or.inl rfl) (Or.inl rfl) hframed).1⟩

def badLength : List Byte := ByteWords.leBytes 4 5 ++ List.replicate 8 0

def pingFrame (rpcCrc : Checksum) (seqNo pingId : ℕ) : List Byte :=
  buildRpcFrame rpcCrc seqNo (ByteWords.leBytes 4 rpcPing ++ ByteWords.leBytes 8 pingId)

def worldWithoutWriter : World := { worldAfterFull 0 with pong := fun _ => .closed }

/-- An invalid length word clears the bytes that have arrived: the frame after it is lost or
not, depending on the cut.  A ping with a closed writer channel leaves the frames after it
in the buffer, unless they arrive in a later read. -/
theorem run_frames_depend_on_cut :
    framesOf (worldAfterFull 0) [badLength ++ ansFrame crc32 0 0 7 [1]] = [] ∧
      framesOf (worldAfterFull 0) [badLength, ansFrame crc32 0 0 7 [1]] =
        [ansFrame crc32 0 0 7 [1]] ∧
      framesOf worldWithoutWriter [pingFrame crc32 0 9 ++ ansFrame crc32 1 0 7 [1]] =
        [pingFrame crc32 0 9] ∧
      framesOf worldWithoutWriter [pingFrame crc32 0 9, ansFrame crc32 1 0 7 [1]] =
        [pingFrame crc32 0 9, ansFrame crc32 1 0 7 [1]] := by
  decide +kernel

end TupoProxy.ReaderLoop
