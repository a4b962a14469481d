import RoboticCharacter.EventHistory
import RoboticCharacter.ExtendedNumber
import RoboticCharacter.PythonText
import RoboticCharacter.TransportLink

/-! The two endpoints of the in-memory link, with any number of calls on each: a call runs until
it ends or waits on the condition of a channel, and a waiting call is taken up again, times out or
is cancelled at any time. -/
namespace RoboticCharacter

inductive Side
  | first
  | second
  deriving DecidableEq, Repr

def Side.other : Side → Side
  | first => second
  | second => first

@[simp]
theorem Side.other_other (side : Side) : side.other.other = side := by cases side <;> rfl

structure TransportStats where
  bytesRead : ℕ
  bytesWritten : ℕ
  openCount : ℕ
  closeCount : ℕ

/-- The fields of one endpoint, apart from its two channels. -/
structure MemoryByteTransport where
  name : String
  opened : Bool := false
  terminallyClosed : Bool := false
  bytesRead : ℕ := 0
  bytesWritten : ℕ := 0
  openCount : ℕ := 0
  closeCount : ℕ := 0

namespace MemoryByteTransport

def isOpen (t : MemoryByteTransport) : Bool := t.opened && !t.terminallyClosed

def stats (t : MemoryByteTransport) : TransportStats :=
  ⟨t.bytesRead, t.bytesWritten, t.openCount, t.closeCount⟩

def closedMessage (t : MemoryByteTransport) : String :=
  s!"memory transport {PythonText.repr t.name} is closed"

def openEndpoint (t : MemoryByteTransport) : Except String MemoryByteTransport :=
  if t.terminallyClosed then .error "memory transport cannot be reopened after close"
  else if t.opened then .ok t
  else .ok { t with opened := true, openCount := t.openCount+1 }

end MemoryByteTransport

/-- A call of `write` or `read`. -/
inductive TransportCall
  | write (data : Bytes)
  | read (maxBytes : ℤ) (timeoutS : Option (ExtendedNumber ℚ))

/-- What `read` raises before it looks at the channel. -/
def TransportCall.invalid : TransportCall → Option String
  | .write _ => none
  | .read maxBytes timeoutS =>
    if maxBytes ≤ 0 then some "max_bytes must be positive"
    else if timeoutS.any fun seconds => seconds.le (.finite 0) then
      some "timeout_s must be positive when provided"
    else none

/-- Both endpoints; `channel side` is the direction that `side` writes to. -/
structure MemoryTransportPair where
  channel : Side → MemoryChannel
  endpoint : Side → MemoryByteTransport
  waiting : List (Side × TransportCall)

/-- How a step ends. -/
inductive TransportOutcome
  | done
  | written (side : Side) (data : Bytes)
  | received (side : Side) (data : Bytes)
  | waits
  | raised (error : String)
  | cancelled
  | ignored

namespace MemoryTransportPair

inductive Action
  | open (side : Side)
  | close (side : Side)
  | call (side : Side) (c : TransportCall)
  | resume (index : ℕ)
  | timeOut (index : ℕ)
  | cancel (index : ℕ)

def createMemoryTransportPair (capacityBytes : ℤ) (firstName secondName : String) :
    Except String MemoryTransportPair := do
  let firstToSecond ← MemoryChannel.new capacityBytes
  let secondToFirst ← MemoryChannel.new capacityBytes
  return {
    channel
      | .first => firstToSecond
      | .second => secondToFirst
    endpoint
      | .first => { name := firstName }
      | .second => { name := secondName }
    waiting := [] }

def setChannel (p : MemoryTransportPair) (side : Side) (c : MemoryChannel) : MemoryTransportPair :=
  { p with channel := Function.update p.channel side c }

def setEndpoint (p : MemoryTransportPair) (side : Side) (t : MemoryByteTransport) :
    MemoryTransportPair :=
  { p with endpoint := Function.update p.endpoint side t }

@[simp]
theorem setChannel_channel (p : MemoryTransportPair) (side : Side) (c : MemoryChannel) :
    (p.setChannel side c).channel = Function.update p.channel side c := rfl

@[simp]
theorem setEndpoint_channel (p : MemoryTransportPair) (side : Side) (t : MemoryByteTransport) :
    (p.setEndpoint side t).channel = p.channel := rfl

@[simp]
theorem setChannel_endpoint (p : MemoryTransportPair) (side : Side) (c : MemoryChannel) :
    (p.setChannel side c).endpoint = p.endpoint := rfl

@[simp]
theorem setEndpoint_endpoint (p : MemoryTransportPair) (side : Side) (t : MemoryByteTransport) :
    (p.setEndpoint side t).endpoint = Function.update p.endpoint side t := rfl

def countWritten (t : MemoryByteTransport) (data : Bytes) : MemoryByteTransport :=
  { t with bytesWritten := t.bytesWritten+data.length }

def countRead (t : MemoryByteTransport) (data : Bytes) : MemoryByteTransport :=
  { t with bytesRead := t.bytesRead+data.length }

/-- A call with its channel, from one suspension to the next: nothing else runs in between. -/
def attempt (p : MemoryTransportPair) (side : Side) :
    TransportCall → MemoryTransportPair × TransportOutcome
  | .write data =>
    match (p.channel side).write data with
    | .done c =>
      ((p.setChannel side c).setEndpoint side (countWritten (p.endpoint side) data),
        .written side data)
    | .waits => (p, .waits)
    | .raised error => (p, .raised error)
  | .read maxBytes _ =>
    match (p.channel side.other).read maxBytes.toNat with
    | .done (c, data) =>
      ((p.setChannel side.other c).setEndpoint side (countRead (p.endpoint side) data),
        .received side data)
    | .waits => (p, .waits)
    | .raised error => (p, .raised error)

def start (p : MemoryTransportPair) (side : Side) (c : TransportCall) :
    MemoryTransportPair × TransportOutcome :=
  if (p.endpoint side).isOpen = false then (p, .raised (p.endpoint side).closedMessage)
  else
    match c.invalid with
    | some error => (p, .raised error)
    | none =>
      match p.attempt side c with
      | (next, .waits) => ({ next with waiting := next.waiting ++ [(side, c)] }, .waits)
      | ended => ended

def leave (p : MemoryTransportPair) (index : ℕ) : MemoryTransportPair :=
  { p with waiting := p.waiting.eraseIdx index }

def close (p : MemoryTransportPair) (side : Side) : MemoryTransportPair :=
  let t := p.endpoint side
  if t.terminallyClosed then p
  else
    { p with
      channel := fun side => (p.channel side).close
      endpoint := Function.update p.endpoint side
        { t with opened := false, terminallyClosed := true, closeCount := t.closeCount+1 } }

/-- One step. A waiting call may look at its channel again at any time; the condition wakes it
whenever the channel has changed. -/
def step (p : MemoryTransportPair) : Action → MemoryTransportPair × TransportOutcome
  | .open side =>
    match (p.endpoint side).openEndpoint with
    | .ok t => (p.setEndpoint side t, .done)
    | .error error => (p, .raised error)
  | .close side => (p.close side, .done)
  | .call side c => p.start side c
  | .resume index =>
    match p.waiting[index]? with
    | none => (p, .ignored)
    | some (side, c) =>
      match p.attempt side c with
      | (next, .waits) => (next, .waits)
      | (next, outcome) => (next.leave index, outcome)
  | .timeOut index =>
    match p.waiting[index]? with
    | some (_, .read _ (some _)) => (p.leave index, .raised "memory transport read timed out")
    | _ => (p, .ignored)
  | .cancel index =>
    match p.waiting[index]? with
    | some _ => (p.leave index, .cancelled)
    | none => (p, .ignored)

end MemoryTransportPair

namespace TransportOutcome

/-- The bytes that a write of the side has put into the link. -/
def writtenBy (side : Side) : TransportOutcome → Bytes
  | written writer data => if writer = side then data else []
  | _ => []

/-- The bytes that a read of the side has returned. -/
def readBy (side : Side) : TransportOutcome → Bytes
  | received reader data => if reader = side then data else []
  | _ => []

@[simp]
theorem writtenBy_written (side writer : Side) (data : Bytes) :
    (written writer data).writtenBy side = if writer = side then data else [] := rfl

@[simp]
theorem readBy_written (side writer : Side) (data : Bytes) :
    (written writer data).readBy side = [] := rfl

@[simp]
theorem writtenBy_received (side reader : Side) (data : Bytes) :
    (received reader data).writtenBy side = [] := rfl

@[simp]
theorem readBy_received (side reader : Side) (data : Bytes) :
    (received reader data).readBy side = if reader = side then data else [] := rfl

/-- A write or a read ends well here. -/
def isTransfer : TransportOutcome → Bool
  | written _ _ => true
  | received _ _ => true
  | _ => false

theorem no_bytes (outcome : TransportOutcome) (h : outcome.isTransfer = false) (side : Side) :
    outcome.writtenBy side = [] ∧ outcome.readBy side = [] := by
  cases outcome with
  | written | received => cases h
  | done | waits | raised | cancelled | ignored => exact ⟨rfl, rfl⟩

end TransportOutcome

theorem MemoryChannel.write_done (c next : MemoryChannel) (data : Bytes)
    (h : c.write data = .done next) :
    next.buffer = c.buffer ++ data ∧ next.capacityBytes = c.capacityBytes ∧
      next.closed = c.closed ∧ (c.closed = true → data = []) := by
  unfold MemoryChannel.write at h
  split_ifs at h with _ hempty hclosed
  · cases h
    rw [hempty, List.append_nil]
    exact ⟨rfl, rfl, rfl, fun _ => rfl⟩
  · cases h
    exact ⟨rfl, rfl, rfl, fun h => absurd h hclosed⟩

theorem MemoryChannel.read_done (c next : MemoryChannel) (count : ℕ) (data : Bytes)
    (h : c.read count = .done (next, data)) :
    c.buffer = data ++ next.buffer ∧ data = c.buffer.take count ∧
      next.capacityBytes = c.capacityBytes ∧ next.closed = c.closed := by
  unfold MemoryChannel.read at h
  split_ifs at h with hempty hclosed
  · cases h
    rw [hempty, List.take_nil]
    exact ⟨rfl, rfl, rfl, rfl⟩
  · cases h
    exact ⟨(List.take_append_drop count c.buffer).symm, rfl, rfl, rfl⟩

namespace MemoryTransportPair

/-- What any step may do to the two directions and to the counters. -/
structure Moves (p : MemoryTransportPair) (outcome : TransportOutcome)
    (next : MemoryTransportPair) : Prop where
  bytes : ∀ side, (p.channel side).buffer ++ outcome.writtenBy side =
    outcome.readBy side.other ++ (next.channel side).buffer
  written : ∀ side, (next.endpoint side).bytesWritten =
    (p.endpoint side).bytesWritten+(outcome.writtenBy side).length
  read : ∀ side, (next.endpoint side).bytesRead =
    (p.endpoint side).bytesRead+(outcome.readBy side).length
  capacity : ∀ side, (next.channel side).capacityBytes = (p.channel side).capacityBytes
  closed : ∀ side, (p.channel side).closed = true →
    (next.channel side).closed = true ∧ outcome.writtenBy side = []

/-- A step that moves no bytes; it may close the channels. -/
theorem Moves.still (p next : MemoryTransportPair) (outcome : TransportOutcome)
    (hstill : outcome.isTransfer = false)
    (hchannel : ∀ side, (next.channel side).buffer = (p.channel side).buffer ∧
      (next.channel side).capacityBytes = (p.channel side).capacityBytes ∧
      ((p.channel side).closed = true → (next.channel side).closed = true))
    (hcounters : ∀ side, (next.endpoint side).bytesWritten = (p.endpoint side).bytesWritten ∧
      (next.endpoint side).bytesRead = (p.endpoint side).bytesRead) : Moves p outcome next := by
  have hnone := outcome.no_bytes hstill
  refine ⟨fun side => ?_, fun side => ?_, fun side => ?_, fun side => (hchannel side).2.1,
    fun side h => ⟨(hchannel side).2.2 h, (hnone side).1⟩⟩
  · rw [(hnone side).1, (hnone side.other).2, (hchannel side).1, List.append_nil, List.nil_append]
  · rw [(hnone side).1, (hcounters side).1]
    rfl
  · rw [(hnone side).2, (hcounters side).2]
    rfl

theorem Moves.same (p : MemoryTransportPair) (outcome : TransportOutcome)
    (hstill : outcome.isTransfer = false) : Moves p outcome p :=
  .still p p outcome hstill (fun _ => ⟨rfl, rfl, id⟩) (fun _ => ⟨rfl, rfl⟩)

/-- The waiting calls do not matter. -/
theorem Moves.withWaiting {p next : MemoryTransportPair} {outcome : TransportOutcome}
    (h : Moves p outcome next) (waiting : List (Side × TransportCall)) :
    Moves p outcome { next with waiting := waiting } :=
  ⟨h.bytes, h.written, h.read, h.capacity, h.closed⟩

theorem moves_write (p : MemoryTransportPair) (writer : Side) (data : Bytes) (c : MemoryChannel)
    (h : (p.channel writer).write data = .done c) :
    Moves p (.written writer data)
      ((p.setChannel writer c).setEndpoint writer (countWritten (p.endpoint writer) data)) := by
  obtain ⟨hbuffer, hcapacity, hclosed, hempty⟩ := MemoryChannel.write_done _ c data h
  -- every part on the direction that is written to, and on the other one
  constructor <;> intro side <;> rcases eq_or_ne side writer with rfl | hne
  · simp [hbuffer]
  · simp [hne, hne.symm]
  · simp [countWritten]
  · simp [hne, hne.symm]
  · simp [countWritten]
  · simp [hne]
  · simp [hcapacity]
  · simp [hne]
  · simpa [hclosed] using fun h => ⟨h, hempty h⟩
  · simp [hne, hne.symm]

theorem moves_read (p : MemoryTransportPair) (reader : Side) (count : ℕ) (data : Bytes)
    (c : MemoryChannel) (h : (p.channel reader.other).read count = .done (c, data)) :
    Moves p (.received reader data) ((p.setChannel reader.other c).setEndpoint reader
      (countRead (p.endpoint reader) data)) := by
  obtain ⟨hbuffer, _, hcapacity, hclosed⟩ := MemoryChannel.read_done _ c count data h
  have hside (side : Side) (hne : side ≠ reader.other) : reader ≠ side.other := by
    rintro rfl
    exact hne side.other_other.symm
  constructor <;> intro side
  · rcases eq_or_ne side reader.other with rfl | hne
    · simp [hbuffer]
    · simp [hne, hside side hne]
  · rcases eq_or_ne side reader with rfl | hne
    · simp [countRead]
    · simp [hne]
  · rcases eq_or_ne side reader with rfl | hne
    · simp [countRead]
    · simp [hne, hne.symm]
  · rcases eq_or_ne side reader.other with rfl | hne
    · simp [hcapacity]
    · simp [hne]
  · rcases eq_or_ne side reader.other with rfl | hne
    · simp [hclosed]
    · simp [hne]

theorem attempt_moves (p : MemoryTransportPair) (side : Side) (c : TransportCall) :
    Moves p (p.attempt side c).2 (p.attempt side c).1 := by
  cases c with
  | write data =>
    unfold attempt
    dsimp only
    cases hwrite : (p.channel side).write data with
    | done channel => exact moves_write p side data channel hwrite
    | waits => exact .same p _ rfl
    | raised error => exact .same p _ rfl
  | read maxBytes timeoutS =>
    unfold attempt
    dsimp only
    cases hread : (p.channel side.other).read maxBytes.toNat with
    | done result => exact moves_read p side _ result.2 result.1 hread
    | waits => exact .same p _ rfl
    | raised error => exact .same p _ rfl

theorem start_moves (p : MemoryTransportPair) (side : Side) (c : TransportCall) :
    Moves p (p.start side c).2 (p.start side c).1 := by
  have hattempt := attempt_moves p side c
  unfold start
  split_ifs with hopen
  · exact .same p _ rfl
  · cases c.invalid with
    | some error => exact .same p _ rfl
    | none =>
      generalize p.attempt side c = attempted at hattempt ⊢
      obtain ⟨next, outcome⟩ := attempted
      cases outcome with
      | waits => exact hattempt.withWaiting _
      | done | written | received | raised | cancelled | ignored => exact hattempt

theorem close_moves (p : MemoryTransportPair) (side : Side) : Moves p .done (p.close side) := by
  unfold close
  dsimp only
  split_ifs
  · exact .same p _ rfl
  · refine .still p _ _ rfl (fun _ => ⟨rfl, rfl, fun _ => rfl⟩) (fun other => ?_)
    rcases eq_or_ne other side with rfl | hne
    · simp
    · simp [hne]

theorem open_moves (p : MemoryTransportPair) (side : Side) (t : MemoryByteTransport)
    (h : (p.endpoint side).openEndpoint = .ok t) : Moves p .done (p.setEndpoint side t) := by
  have hcounters : t.bytesWritten = (p.endpoint side).bytesWritten ∧
      t.bytesRead = (p.endpoint side).bytesRead := by
    unfold MemoryByteTransport.openEndpoint at h
    split_ifs at h <;> cases h <;> exact ⟨rfl, rfl⟩
  refine .still p _ _ rfl (fun _ => ⟨rfl, rfl, id⟩) (fun other => ?_)
  rcases eq_or_ne other side with rfl | hne
  · simpa using hcounters
  · simp [hne]

theorem step_moves (p : MemoryTransportPair) (a : Action) : Moves p (p.step a).2 (p.step a).1 := by
  cases a with
  | «open» side =>
    unfold step
    dsimp only
    cases hopen : (p.endpoint side).openEndpoint with
    | ok t => exact open_moves p side t hopen
    | error error => exact .same p _ rfl
  | close side => exact close_moves p side
  | call side c => exact start_moves p side c
  | resume index =>
    unfold step
    dsimp only
    cases p.waiting[index]? with
    | none => exact .same p _ rfl
    | some waiting =>
      -- an attempt that ends also takes the call off the list
      have hattempt := attempt_moves p waiting.1 waiting.2
      dsimp only
      generalize p.attempt waiting.1 waiting.2 = attempted at hattempt ⊢
      obtain ⟨next, outcome⟩ := attempted
      cases outcome with
      | waits => exact hattempt
      | done | written | received | raised | cancelled | ignored => exact hattempt.withWaiting _
  | timeOut index =>
    have hleave := (Moves.same p (.raised "memory transport read timed out") rfl).withWaiting
      (p.waiting.eraseIdx index)
    unfold step
    dsimp only
    split
    · exact hleave
    · exact .same p _ rfl
  | cancel index =>
    unfold step
    dsimp only
    split
    · exact (Moves.same p .cancelled rfl).withWaiting _
    · exact .same p _ rfl

/-! Whole runs. -/

abbrev Record := List (Machine.Event MemoryTransportPair Action TransportOutcome)

/-- The bytes of the successful writes of a side, in the order in which they ended. -/
def writtenBytes (side : Side) (record : Record) : Bytes :=
  record.flatMap fun e => e.output.writtenBy side

def readBytes (side : Side) (record : Record) : Bytes :=
  record.flatMap fun e => e.output.readBy side

theorem run_bytes (p : MemoryTransportPair) (actions : List Action) (side : Side) :
    (p.channel side).buffer ++ writtenBytes side (Machine.trace step p actions) =
      readBytes side.other (Machine.trace step p actions) ++
        ((Machine.run step p actions).channel side).buffer :=
  Machine.run_conserves step (fun p => (p.channel side).buffer) (TransportOutcome.writtenBy side)
    (TransportOutcome.readBy side.other) (fun p a => (step_moves p a).bytes side) p actions

theorem run_written (p : MemoryTransportPair) (actions : List Action) (side : Side) :
    ((Machine.run step p actions).endpoint side).bytesWritten =
      (p.endpoint side).bytesWritten+
        (writtenBytes side (Machine.trace step p actions)).length :=
  Machine.run_counts step (TransportOutcome.writtenBy side)
    (fun p => (p.endpoint side).bytesWritten) (fun p a => (step_moves p a).written side) p actions

theorem run_read (p : MemoryTransportPair) (actions : List Action) (side : Side) :
    ((Machine.run step p actions).endpoint side).bytesRead =
      (p.endpoint side).bytesRead+(readBytes side (Machine.trace step p actions)).length :=
  Machine.run_counts step (TransportOutcome.readBy side)
    (fun p => (p.endpoint side).bytesRead) (fun p a => (step_moves p a).read side) p actions

theorem run_capacity (p : MemoryTransportPair) (actions : List Action) (side : Side) :
    ((Machine.run step p actions).channel side).capacityBytes = (p.channel side).capacityBytes :=
  Machine.run_invariant step
    (P := fun q => (q.channel side).capacityBytes = (p.channel side).capacityBytes)
    (fun q a h => ((step_moves q a).capacity side).trans h) p rfl actions

theorem run_closed (p : MemoryTransportPair) (actions : List Action) (side : Side)
    (h : (p.channel side).closed = true) :
    ((Machine.run step p actions).channel side).closed = true :=
  Machine.run_invariant step (P := fun q => (q.channel side).closed = true)
    (fun q a h => ((step_moves q a).closed side h).1) p h actions

/-- The number of bytes that a step asks for, if it is an attempt of a valid read, by a side that
is open or has waited. -/
def Action.asks (p : MemoryTransportPair) (reader : Side) : Action → Option ℕ
  | .call side (.read maxBytes timeoutS) =>
    if side = reader ∧ (p.endpoint side).isOpen ∧
        (TransportCall.read maxBytes timeoutS).invalid = none then some maxBytes.toNat
    else none
  | .resume index =>
    match p.waiting[index]? with
    | some (side, .read maxBytes _) => if side = reader then some maxBytes.toNat else none
    | _ => none
  | _ => none

/-- On a closed channel no read waits: it gets what there is, and nothing at the end. -/
theorem attempt_read_closed (p : MemoryTransportPair) (reader : Side) (maxBytes : ℤ)
    (timeoutS : Option (ExtendedNumber ℚ)) (h : (p.channel reader.other).closed = true) :
    ∃ next, p.attempt reader (.read maxBytes timeoutS) =
      (next, .received reader ((p.channel reader.other).buffer.take maxBytes.toNat)) := by
  unfold attempt MemoryChannel.read
  dsimp only
  split_ifs with hempty
  · rw [hempty, List.take_nil]
    exact ⟨_, rfl⟩
  · exact ⟨_, rfl⟩

theorem step_asks_closed (p : MemoryTransportPair) (reader : Side) (a : Action) (count : ℕ)
    (hasks : a.asks p reader = some count) (h : (p.channel reader.other).closed = true) :
    (p.step a).2 = .received reader ((p.channel reader.other).buffer.take count) := by
  unfold Action.asks at hasks
  split at hasks
  · -- a new call passes the checks of the endpoint and of its arguments
    case _ side maxBytes timeoutS =>
    split_ifs at hasks with hvalid
    obtain ⟨rfl, hopen, hinvalid⟩ := hvalid
    obtain ⟨next, hattempt⟩ := attempt_read_closed p side maxBytes timeoutS h
    rw [Option.some.inj hasks] at hattempt
    unfold step start
    dsimp only
    rw [if_neg (by rw [hopen]; decide), hinvalid]
    dsimp only
    rw [hattempt]
  · -- a call that waits has passed them
    case _ index =>
    split at hasks
    · case _ side maxBytes timeoutS hwaiting =>
      split_ifs at hasks with hside
      subst hside
      obtain ⟨next, hattempt⟩ := attempt_read_closed p side maxBytes timeoutS h
      rw [Option.some.inj hasks] at hattempt
      unfold step
      dsimp only
      rw [hwaiting]
      dsimp only
      rw [hattempt]
    · cases hasks
  · cases hasks

/-- What a run makes of a direction that is closed with some bytes left: nothing is added, and
every attempt of a read gets the next of these bytes at once, and nothing after the last. -/
def Drains (writer : Side) (remaining : Bytes) (later : Record) : Prop :=
  (∀ e ∈ later, e.output.writtenBy writer = []) ∧
    ∀ front e back, later = front ++ e :: back →
      ∀ count, e.input.asks e.before writer.other = some count →
        e.output = .received writer.other
          ((remaining.drop (readBytes writer.other front).length).take count)

theorem drains_of_closed (p : MemoryTransportPair) (actions : List Action) (writer : Side)
    (h : (p.channel writer).closed = true) :
    Drains writer (p.channel writer).buffer (Machine.trace step p actions) := by
  have hsilent (actions : List Action) :
      ∀ e ∈ Machine.trace step p actions, e.output.writtenBy writer = [] := by
    intro e he
    have hclosed : (e.before.channel writer).closed = true :=
      Machine.trace_invariant step (P := fun q => (q.channel writer).closed = true)
        (fun q a h => ((step_moves q a).closed writer h).1) p h actions e he
    have hmoves := (step_moves e.before e.input).closed writer hclosed
    rw [Machine.trace_step step p actions e he] at hmoves
    exact hmoves.2
  refine ⟨hsilent actions, fun front e back hsplit count hasks => ?_⟩
  have hstep := Machine.trace_step step p actions e
    (hsplit ▸ List.mem_append_right _ List.mem_cons_self)
  obtain ⟨hfront, hbefore⟩ := Machine.trace_split step p actions front back e hsplit
  -- up to the attempt, the remaining bytes are what was read and what is still there
  have hbytes := run_bytes p (front.map Machine.Event.input) writer
  have hnothing : writtenBytes writer front = [] := by
    unfold writtenBytes
    rw [List.flatMap_eq_nil_iff, hfront]
    exact hsilent _
  have hclosed := run_closed p (front.map Machine.Event.input) writer h
  rw [← hfront, ← hbefore, hnothing, List.append_nil] at hbytes
  rw [← hbefore] at hclosed
  have hreceived := step_asks_closed e.before writer.other e.input count hasks
    (by rw [Side.other_other]; exact hclosed)
  rw [hstep, Side.other_other] at hreceived
  change e.output = _ at hreceived
  rw [hreceived, hbytes, List.drop_left]

/-- The fresh pair has empty channels of the given capacity, and counters at zero. -/
theorem create_ok (capacityBytes : ℤ) (firstName secondName : String) (p : MemoryTransportPair)
    (h : createMemoryTransportPair capacityBytes firstName secondName = .ok p) (side : Side) :
    (p.channel side).buffer = [] ∧ ((p.channel side).capacityBytes : ℤ) = capacityBytes ∧
      (p.endpoint side).bytesWritten = 0 ∧ (p.endpoint side).bytesRead = 0 := by
  unfold createMemoryTransportPair MemoryChannel.new at h
  split_ifs at h with hpositive
  · cases h
  · rw [← Except.ok.inj h]
    have hcapacity := Int.toNat_of_nonneg (not_le.mp hpositive).le
    cases side <;> exact ⟨rfl, hcapacity, rfl, rfl⟩

/-- In every run of a pair, each direction is a bounded queue: it gives out the bytes of the
successful writes, in their order, and holds the rest of them within its capacity; calls that fail,
wait or are cancelled move nothing; the counters agree with the bytes; and after a close what is
left can be read to the end. -/
theorem memory_link_is_bounded_fifo (capacityBytes : ℤ) (firstName secondName : String)
    (p : MemoryTransportPair)
    (hpair : createMemoryTransportPair capacityBytes firstName secondName = .ok p)
    (actions : List Action) (side : Side) :
    writtenBytes side (Machine.trace step p actions) =
        readBytes side.other (Machine.trace step p actions) ++
          ((Machine.run step p actions).channel side).buffer ∧
      ((((Machine.run step p actions).channel side).buffer.length : ℕ) : ℤ) ≤ capacityBytes ∧
      (∀ e ∈ Machine.trace step p actions, e.output.isTransfer = false →
        (e.after.channel side).buffer = (e.before.channel side).buffer) ∧
      ((Machine.run step p actions).endpoint side).stats.bytesWritten =
        ((Machine.run step p actions).endpoint side.other).stats.bytesRead+
          ((Machine.run step p actions).channel side).buffer.length ∧
      ∀ past e later, Machine.trace step p actions = past ++ e :: later →
        (e.after.channel side).closed = true → Drains side (e.after.channel side).buffer later := by
  obtain ⟨hempty, hcapacity, hwritten, _⟩ := create_ok _ _ _ p hpair side
  have hread := (create_ok _ _ _ p hpair side.other).2.2.2
  have hbytes := run_bytes p actions side
  rw [hempty, List.nil_append] at hbytes
  refine ⟨hbytes, ?_, ?_, ?_, ?_⟩
  · have hfits := ((Machine.run step p actions).channel side).buffer_fits
    rw [run_capacity] at hfits
    rw [← hcapacity]
    exact_mod_cast hfits
  · intro e he hstill
    have hmoves := (step_moves e.before e.input).bytes side
    rw [Machine.trace_step step p actions e he, (e.output.no_bytes hstill side).1,
      (e.output.no_bytes hstill side.other).2, List.append_nil, List.nil_append] at hmoves
    exact hmoves.symm
  · change ((Machine.run step p actions).endpoint side).bytesWritten =
      ((Machine.run step p actions).endpoint side.other).bytesRead+_
    rw [run_written, run_read, hwritten, hread, hbytes, List.length_append, Nat.zero_add,
      Nat.zero_add]
  · intro past e later hsplit hclosed
    rw [Machine.trace_rest step p actions past later e hsplit]
    exact drains_of_closed e.after _ side hclosed

/-- Three bytes, a read of two, a write that waits, and a close by the writer. -/
def closingActions : List Action :=
  [.open .first, .open .second, .call .first (.write [1, 2, 3]), .call .second (.read 2 none),
    .call .first (.write [4, 5, 6, 7]), .close .first, .resume 0, .call .second (.read 8 none),
    .call .second (.read 8 none)]

theorem memory_link_closing : ∃ p, createMemoryTransportPair 4 "host" "device" = .ok p ∧
    writtenBytes .first (Machine.trace step p closingActions) = [1, 2, 3] ∧
    readBytes .second (Machine.trace step p closingActions) ++
      ((Machine.run step p closingActions).channel .first).buffer = [1, 2, 3] := by
  refine ⟨_, rfl, by decide, ?_⟩
  have hlink := (memory_link_is_bounded_fifo 4 "host" "device" _ rfl closingActions .first).1
  change _ = readBytes .second _ ++ _ at hlink
  rw [← hlink]
  decide

end MemoryTransportPair
end RoboticCharacter
