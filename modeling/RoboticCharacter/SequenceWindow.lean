import RoboticCharacter.FirmwareDispatch
import RoboticCharacter.GatewayCore

/-! The sequence memory over whole runs: how far back it refuses a number, and how
many frames in a row a consecutively numbered sender may lose. -/
namespace RoboticCharacter.Firmware
open RobotRuntime Host

theorem sequenceIsFresh_iff (candidate previous : UInt16) :
    sequenceIsFresh candidate previous = true ↔
      0 < (candidate-previous).toNat ∧ (candidate-previous).toNat < 2^15 := by
  have hzero : candidate-previous ≠ 0 ↔ 0 < (candidate-previous).toNat := by
    rw [Nat.pos_iff_ne_zero]
    exact not_congr UInt16.toNat_inj.symm
  rw [sequenceIsFresh, Bool.and_eq_true, decide_eq_true_eq, decide_eq_true_eq, hzero,
    UInt16.lt_iff_toNat_lt]
  rfl

theorem toNat_sub_advanced (s : UInt16) (distance : ℕ) :
    (s-(s+UInt16.ofNat distance)).toNat = (2^16-distance%2^16)%2^16 := by
  have hs : s.toNat < 2^16 := s.toNat_lt
  have hd : distance%2^16 < 2^16 := Nat.mod_lt _ (by decide)
  rw [UInt16.toNat_sub, UInt16.toNat_add, UInt16.toNat_ofNat']
  obtain hsum | hsum := Nat.lt_or_ge (s.toNat+distance%2^16) (2^16)
  · rw [Nat.mod_eq_of_lt hsum]
    congr 1
    omega
  · have hwrap : (s.toNat+distance%2^16)%2^16 = s.toNat+distance%2^16-2^16 := by
      rw [Nat.mod_eq_sub_mod hsum, Nat.mod_eq_of_lt (by omega)]
    rw [hwrap]
    omega

/-- Half a period behind is the last distance at which a number is refused. -/
theorem sequenceIsFresh_advanced (s : UInt16) (distance : ℕ) :
    sequenceIsFresh s (s+UInt16.ofNat distance) = true ↔ 2^15 < distance%2^16 := by
  have hd : distance%2^16 < 2^16 := Nat.mod_lt _ (by decide)
  rw [sequenceIsFresh_iff, toNat_sub_advanced]
  omega

/-- A number less than half a period ahead is fresh. -/
theorem sequenceIsFresh_ahead (last : UInt16) (ahead : ℕ) (hpos : 0 < ahead)
    (hlt : ahead < 2^15) : sequenceIsFresh (last+UInt16.ofNat ahead) last = true := by
  have hahead : (last+UInt16.ofNat ahead-last).toNat = ahead := by
    rw [UInt16.add_comm, UInt16.add_sub_cancel, UInt16.toNat_ofNat']
    exact Nat.mod_eq_of_lt (by omega)
  rw [sequenceIsFresh_iff, hahead]
  exact ⟨hpos, hlt⟩

/-- The sequence number that passed the check in a call. -/
def acceptedSequence (e : Machine.Event RobotRuntime Operation Outcome) : Option UInt16 :=
  match e.input with
  | .handleFrame data _ =>
    (parseFrame data).bind fun frame =>
      if e.before.refusesSequence frame then none else some frame.sequence
  | _ => none

def acceptedSequences (rt : RobotRuntime) (ops : List Operation) : List UInt16 :=
  (Machine.trace step rt ops).filterMap acceptedSequence

/-- The sum of the modular steps from one number to the next. -/
def forwardDistance : UInt16 → List UInt16 → ℕ
  | _, [] => 0
  | last, next :: rest => (next-last).toNat+forwardDistance next rest

/-- What one call does to the sequence memory. -/
inductive SequenceStep (rt : RobotRuntime) (op : Operation) : Prop
  | accepted (sequence : UInt16)
      (recorded : acceptedSequence ⟨rt, op, (step rt op).2, (step rt op).1⟩ = some sequence)
      (seen : (step rt op).1.sequenceSeen = true)
      (last : (step rt op).1.lastSequence = sequence)
  | kept (recorded : acceptedSequence ⟨rt, op, (step rt op).2, (step rt op).1⟩ = none)
      (seen : (step rt op).1.sequenceSeen = rt.sequenceSeen)
      (last : (step rt op).1.lastSequence = rt.lastSequence)

/-! Only `HandleFrame` writes the sequence memory. -/

@[simp]
theorem tick_sequenceSeen (rt : RobotRuntime) (nowMs : UInt32) :
    (rt.tick nowMs).sequenceSeen = rt.sequenceSeen := by rw [tick_eq]

@[simp]
theorem tick_lastSequence (rt : RobotRuntime) (nowMs : UInt32) :
    (rt.tick nowMs).lastSequence = rt.lastSequence := by rw [tick_eq]

@[simp]
theorem acceptHeartbeat_sequenceSeen (rt : RobotRuntime) (nowMs : UInt32) :
    (rt.acceptHeartbeat nowMs).sequenceSeen = rt.sequenceSeen := by
  dsimp only [acceptHeartbeat]
  split_ifs <;> rfl

@[simp]
theorem acceptHeartbeat_lastSequence (rt : RobotRuntime) (nowMs : UInt32) :
    (rt.acceptHeartbeat nowMs).lastSequence = rt.lastSequence := by
  dsimp only [acceptHeartbeat]
  split_ifs <;> rfl

/-- A frame that passes the check is remembered, whatever its type and payload. -/
theorem handleFrame_accepts (rt : RobotRuntime) (data : Bytes) (nowMs : UInt32)
    (frame : ParsedFrame) (hp : parseFrame data = some frame)
    (hs : rt.refusesSequence frame = false) :
    (rt.handleFrame data nowMs).1.sequenceSeen = true ∧
      (rt.handleFrame data nowMs).1.lastSequence = frame.sequence := by
  have hh := rt.handled data nowMs
  generalize (rt.handleFrame data nowMs).1 = after, (rt.handleFrame data nowMs).2 = result at hh ⊢
  cases hh with
  | invalid hnone =>
    rw [hp] at hnone
    cases hnone
  | stale other hother hstale =>
    rw [hp, Option.some.injEq] at hother
    rw [← hother, hs] at hstale
    cases hstale
  | heartbeat other hother | estop other hother | motionInvalid other hother
  | motionUnsafe other hother | motionReplay other hother | ignored other hother =>
    rw [hp, Option.some.injEq] at hother
    simp [acceptSequence, hother]
  | motionDeferred other hother =>
    rw [hp, Option.some.injEq] at hother
    simp [acceptSequence, rememberMotionCommand, hother]

theorem handleFrame_sequence (rt : RobotRuntime) (data : Bytes) (nowMs : UInt32) :
    SequenceStep rt (.handleFrame data nowMs) := by
  cases hp : parseFrame data with
  | none =>
    have hkept : rt.handleFrame data nowMs = (rt, .kRejectedInvalidFrame) := by
      simp only [handleFrame, hp]
    refine .kept ?_ ?_ ?_
    · simp only [acceptedSequence, hp, Option.bind_none]
    · rw [step, hkept]
    · rw [step, hkept]
  | some frame =>
    cases hs : rt.refusesSequence frame with
    | true =>
      have hkept : rt.handleFrame data nowMs = (rt, .kRejectedReplay) := by
        simp only [handleFrame, hp, hs, ↓reduceIte]
      refine .kept ?_ ?_ ?_
      · simp only [acceptedSequence, hp, Option.bind_some, hs, ↓reduceIte]
      · rw [step, hkept]
      · rw [step, hkept]
    | false =>
      obtain ⟨hseen, hlast⟩ := handleFrame_accepts rt data nowMs frame hp hs
      refine .accepted frame.sequence ?_ hseen hlast
      simp only [acceptedSequence, hp, Option.bind_some, hs, Bool.false_eq_true, ↓reduceIte]

theorem step_sequence (rt : RobotRuntime) (op : Operation) : SequenceStep rt op := by
  cases op with
  | handleFrame data nowMs => exact handleFrame_sequence rt data nowMs
  | tick nowMs => exact .kept rfl (tick_sequenceSeen rt nowMs) (tick_lastSequence rt nowMs)
  | observePhysicalEstop active =>
    refine .kept rfl ?_ ?_
    all_goals cases active <;> rfl
  | manualReset nowMs =>
    refine .kept rfl ?_ ?_
    all_goals
      simp only [step, manualReset]
      split_ifs <;> simp

/-- Once a number is held, the run moves it on by the distance it accepts. -/
theorem run_sequence (rt : RobotRuntime) (hseen : rt.sequenceSeen = true) (ops : List Operation) :
    (Machine.run step rt ops).sequenceSeen = true ∧
      (Machine.run step rt ops).lastSequence = rt.lastSequence +
        UInt16.ofNat (forwardDistance rt.lastSequence (acceptedSequences rt ops)) := by
  induction ops generalizing rt with
  | nil => exact ⟨hseen, (UInt16.add_zero _).symm⟩
  | cons op ops ih =>
    rw [Machine.run_cons, acceptedSequences, Machine.trace_cons, List.filterMap_cons]
    cases step_sequence rt op with
    | accepted sequence recorded seen last =>
      obtain ⟨hrun, hlast⟩ := ih (step rt op).1 seen
      refine ⟨hrun, ?_⟩
      have hback : rt.lastSequence+UInt16.ofNat (sequence-rt.lastSequence).toNat = sequence := by
        rw [UInt16.ofNat_toNat, UInt16.add_comm, UInt16.sub_add_cancel]
      rw [hlast, recorded, last]
      dsimp only [forwardDistance]
      rw [UInt16.ofNat_add, ← UInt16.add_assoc, hback]
      rfl
    | kept recorded seen last =>
      rw [recorded, ← last]
      exact ih (step rt op).1 (seen.trans hseen)

/-- A number that passed the check is refused until the accepted numbers have moved on by
more than half a period. -/
theorem refused_within_window (rt : RobotRuntime) (data : Bytes) (nowMs : UInt32)
    (frame : ParsedFrame) (hp : parseFrame data = some frame)
    (hs : rt.refusesSequence frame = false) (between : List Operation)
    (hnear : forwardDistance frame.sequence
      (acceptedSequences (step rt (.handleFrame data nowMs)).1 between) ≤ 2^15)
    (data' : Bytes) (nowMs' : UInt32) (frame' : ParsedFrame) (hp' : parseFrame data' = some frame')
    (hsame : frame'.sequence = frame.sequence) :
    (Machine.run step rt (.handleFrame data nowMs :: between)).handleFrame data' nowMs' =
      (Machine.run step rt (.handleFrame data nowMs :: between), .kRejectedReplay) := by
  obtain ⟨hseen, hlast⟩ := handleFrame_accepts rt data nowMs frame hp hs
  obtain ⟨hstill, hmoved⟩ := run_sequence (step rt (.handleFrame data nowMs)).1 hseen between
  have hheld : (step rt (.handleFrame data nowMs)).1.lastSequence = frame.sequence := hlast
  rw [hheld] at hmoved
  rw [Machine.run_cons]
  generalize Machine.run step (step rt (.handleFrame data nowMs)).1 between = after at *
  generalize forwardDistance frame.sequence
    (acceptedSequences (step rt (.handleFrame data nowMs)).1 between) = distance at *
  have hstale : sequenceIsFresh frame'.sequence after.lastSequence = false := by
    rw [hsame, hmoved, ← Bool.not_eq_true, sequenceIsFresh_advanced]
    have := Nat.mod_le distance (2^16)
    omega
  have hrefuses : after.refusesSequence frame' = true := by
    rw [refusesSequence, hstill, hstale]
    rfl
  simp only [handleFrame, hp', hrefuses, ↓reduceIte]

/-! A sender on an in-order link that may lose frames. -/

/-- A call on the runtime that brings no whole frame. -/
def Operation.NoFrame (op : Operation) : Prop :=
  ∀ data nowMs, op = .handleFrame data nowMs → parseFrame data = none

/-- What happens next: the sender sends a frame, which arrives or is lost, or the runtime is
called for another reason. -/
inductive LinkAction
  | send (messageType : MessageType) (payload : Bytes) (fits : payload.length ≤ maxPayloadSize)
      (arrival : Option UInt32)
  | call (op : Operation) (noFrame : op.NoFrame)

/-- The sender's frame under the number `next`. -/
def numberedFrame (messageType : MessageType) (next : UInt16) (payload : Bytes)
    (fits : payload.length ≤ maxPayloadSize) : Frame :=
  ⟨messageType, next.toNat, payload, Nat.le_of_lt_succ next.toNat_lt, fits⟩

/-- The calls the runtime gets when the sender's next number is `next`. -/
def linkOperations : UInt16 → List LinkAction → List Operation
  | _, [] => []
  | next, .send _ _ _ none :: rest => linkOperations (next+1) rest
  | next, .send messageType payload fits (some nowMs) :: rest =>
    .handleFrame (numberedFrame messageType next payload fits).encode nowMs ::
      linkOperations (next+1) rest
  | next, .call op _ :: rest => op :: linkOperations next rest

/-- Which of the frames sent arrive, in the order sent. -/
def arrivals : List LinkAction → List Bool
  | [] => []
  | .send _ _ _ arrival :: rest => arrival.isSome :: arrivals rest
  | .call _ _ :: rest => arrivals rest

/-- No `count` frames in a row are lost. -/
def LosesFewerThan (count : ℕ) (fates : List Bool) : Prop :=
  ¬ List.replicate count false <:+: fates

theorem LosesFewerThan.lost_lt {count lost : ℕ} {fates : List Bool}
    (h : LosesFewerThan count (List.replicate lost false ++ fates)) : lost < count := by
  by_contra hge
  apply h
  obtain ⟨more, rfl⟩ := Nat.exists_eq_add_of_le (not_lt.mp hge)
  rw [List.replicate_add, List.append_assoc]
  exact (List.prefix_append _ _).isInfix

theorem LosesFewerThan.tail {count lost : ℕ} {fates : List Bool} {fate : Bool}
    (h : LosesFewerThan count (List.replicate lost false ++ fate :: fates)) :
    LosesFewerThan count fates := by
  intro hinfix
  apply h
  exact hinfix.trans ((List.suffix_cons fate fates).isInfix.trans (List.suffix_append _ _).isInfix)

theorem LosesFewerThan.lose {count lost : ℕ} {fates : List Bool}
    (h : LosesFewerThan count (List.replicate lost false ++ false :: fates)) :
    LosesFewerThan count (List.replicate (lost+1) false ++ fates) := by
  rwa [List.replicate_succ', List.append_assoc, List.singleton_append]

/-- The gateway's requests on an open transport are numbered like this. -/
theorem numbered_by_gateway (g : Gateway.RobotGateway) (messageType : MessageType) (payload : Bytes)
    (fits : payload.length ≤ maxPayloadSize) :
    g.startRequest true messageType (.ok payload) =
        (g.nextSequence, .ok (numberedFrame messageType (UInt16.ofNat g.sequence) payload fits)) ∧
      UInt16.ofNat g.nextSequence.sequence = UInt16.ofNat g.sequence+1 := by
  have hfits := g.sequence_fits
  have hnumber : (UInt16.ofNat g.sequence).toNat = g.sequence := by
    rw [UInt16.toNat_ofNat', Nat.mod_eq_of_lt (by omega)]
  constructor
  · rw [g.startRequest_fits messageType payload fits]
    simp only [numberedFrame, hnumber]
  · apply UInt16.toNat_inj.mp
    rw [UInt16.toNat_add, hnumber, Gateway.RobotGateway.nextSequence, UInt16.toNat_ofNat']
    exact Nat.mod_mod _ _

/-- The sequence check refuses no frame of a run of calls. -/
def RefusesNone (rt : RobotRuntime) (ops : List Operation) : Prop :=
  ∀ e ∈ Machine.trace step rt ops, ∀ data nowMs frame, e.input = .handleFrame data nowMs →
    parseFrame data = some frame → e.before.refusesSequence frame = false

/-- `lost` frames in a row have been lost since the last one accepted. -/
theorem link_refusesNone (rt : RobotRuntime) (lost : ℕ) (next : UInt16)
    (actions : List LinkAction)
    (hheld : rt.sequenceSeen = true → rt.lastSequence+UInt16.ofNat (lost+1) = next)
    (hfew : LosesFewerThan (2^15-1) (List.replicate lost false ++ arrivals actions)) :
    RefusesNone rt (linkOperations next actions) := by
  induction actions generalizing rt lost next with
  | nil => exact fun e he => absurd he List.not_mem_nil
  | cons action actions ih =>
    cases action with
    | call op noFrame =>
      intro e he data nowMs frame hinput hp
      rw [linkOperations, Machine.trace_cons] at he
      rcases List.mem_cons.mp he with rfl | hrest
      · have hnone := noFrame data nowMs hinput
        rw [hp] at hnone
        cases hnone
      · cases step_sequence rt op with
        | accepted sequence recorded =>
          -- only a whole frame is accepted
          cases op with
          | handleFrame other at' =>
            simp only [acceptedSequence, noFrame other at' rfl, Option.bind_none] at recorded
            cases recorded
          | _ => cases recorded
        | kept recorded seen last =>
          refine ih (step rt op).1 lost next ?_ hfew e hrest data nowMs frame hinput hp
          rwa [seen, last]
    | send messageType payload fits arrival =>
      cases arrival with
      | none =>
        refine ih rt (lost+1) (next+1) ?_ hfew.lose
        intro hseen
        rw [UInt16.ofNat_add, ← UInt16.add_assoc, hheld hseen]
        rfl
      | some nowMs =>
        have hp := parseFrame_encode (numberedFrame messageType next payload fits)
        have hsequence : (ParsedFrame.ofFrame
            (numberedFrame messageType next payload fits)).sequence = next :=
          UInt16.ofNat_toNat
        have hs : rt.refusesSequence
            (.ofFrame (numberedFrame messageType next payload fits)) = false := by
          rw [refusesSequence, hsequence]
          cases hseen : rt.sequenceSeen with
          | false => rfl
          | true =>
            have hlost := hfew.lost_lt
            rw [← hheld hseen, sequenceIsFresh_ahead _ _ (Nat.succ_pos lost) (by omega)]
            rfl
        obtain ⟨hseen, hlast⟩ := handleFrame_accepts rt _ nowMs _ hp hs
        intro e he data nowMs' frame hinput hframe
        rw [linkOperations, Machine.trace_cons] at he
        rcases List.mem_cons.mp he with rfl | hrest
        · obtain ⟨rfl, -⟩ := Operation.handleFrame.inj hinput
          rw [hp, Option.some.injEq] at hframe
          rwa [← hframe]
        · refine ih (step rt _).1 0 (next+1) ?_ ?_ e hrest data nowMs' frame hinput hframe
          · intro _
            have hheld' : (step rt (.handleFrame
                (numberedFrame messageType next payload fits).encode nowMs)).1.lastSequence =
                next := hlast.trans hsequence
            rw [hheld']
            rfl
          · rw [List.replicate_zero, List.nil_append]
            exact hfew.tail

/-- The replay window of the sequence check, over every run: a number that passed is refused
until the accepted numbers have moved on by more than half a period, and a sender that counts
up is never refused while fewer than `2^15-1` of its frames in a row are lost. -/
theorem sequence_window (timeout : UInt32) :
    (∀ (before : List Operation) (data : Bytes) (nowMs : UInt32) (frame : ParsedFrame)
        (between : List Operation),
      parseFrame data = some frame → (run timeout before).refusesSequence frame = false →
      forwardDistance frame.sequence (acceptedSequences
        (run timeout (before ++ [.handleFrame data nowMs])) between) ≤ 2^15 →
      ∀ (data' : Bytes) (nowMs' : UInt32) (frame' : ParsedFrame),
        parseFrame data' = some frame' → frame'.sequence = frame.sequence →
        (run timeout (before ++ .handleFrame data nowMs :: between)).handleFrame data' nowMs' =
          (run timeout (before ++ .handleFrame data nowMs :: between), .kRejectedReplay)) ∧
    ∀ (first : UInt16) (actions : List LinkAction), LosesFewerThan (2^15-1) (arrivals actions) →
      RefusesNone (.new timeout) (linkOperations first actions) := by
  constructor
  · intro before data nowMs frame between hp hs hnear data' nowMs' frame' hp' hsame
    have hafter : run timeout (before ++ [.handleFrame data nowMs]) =
        (step (run timeout before) (.handleFrame data nowMs)).1 := by
      rw [run, Machine.run_append]
      rfl
    rw [hafter] at hnear
    rw [run, Machine.run_append]
    exact refused_within_window (run timeout before) data nowMs frame hp hs between hnear data'
      nowMs' frame' hp' hsame
  · intro first actions hfew
    refine link_refusesNone _ 0 first actions ?_ ?_
    · intro hseen
      cases hseen
    · rwa [List.replicate_zero, List.nil_append]

/-- A heartbeat numbered 65535 is refused when it comes again, and the sender of it may lose
the next frame and go on with number 1. -/
theorem sequence_window_wraps :
    (run 500 [.handleFrame (contractFrame .heartbeat 65535 []) 1]).handleFrame
        (contractFrame .estop 65535 []) 2 =
      (run 500 [.handleFrame (contractFrame .heartbeat 65535 []) 1], .kRejectedReplay) ∧
    RefusesNone (.new 500) (linkOperations 65535
      [.send .heartbeat [] (Nat.zero_le _) (some 1), .send .heartbeat [] (Nat.zero_le _) none,
        .send .estop [] (Nat.zero_le _) (some 2)]) := by
  have hbeat : parseFrame (contractFrame .heartbeat 65535 []) =
      some ⟨.heartbeat, 65535, [], 0⟩ := by decide +kernel
  have hestop : parseFrame (contractFrame .estop 65535 []) =
      some ⟨.estop, 65535, [], 0⟩ := by decide +kernel
  constructor
  · exact (sequence_window 500).1 [] _ 1 _ [] hbeat rfl (Nat.zero_le _) _ 2 _ hestop rfl
  · apply (sequence_window 500).2
    intro hlost
    have hlength := hlost.length_le
    rw [List.length_replicate] at hlength
    exact absurd hlength (by decide)

end RoboticCharacter.Firmware
