import RoboticCharacter.GatewayPeer

/-! Concurrent calls of a gateway's send methods: one lock, one transport, a peer that
answers at most once each request it receives, and every way a call can be cut short. -/
namespace RoboticCharacter.Gateway
open Safety

/-- The arguments of a call of a send method. -/
inductive SendCall
  | authorization (authorization : MotionAuthorization FloatRepr)
  | heartbeat (uptimeMs : ℤ) (state : WireSystemState)
  | estop (reason : EstopReason)

namespace SendCall

def messageType : SendCall → MessageType
  | authorization _ => .validatedMotionCommand
  | heartbeat _ _ => .heartbeat
  | estop _ => .estop

def payload (g : RobotGateway) : SendCall → Except GatewayFailure Bytes
  | authorization a => g.authorizationPayload a
  | heartbeat uptimeMs state => RobotGateway.heartbeatPayload uptimeMs state
  | estop reason => .ok (RobotGateway.estopPayload reason)

def authorizationId : SendCall → Option Uuid
  | authorization a => some a.authorizationId
  | heartbeat _ _ => none
  | estop _ => none

end SendCall

structure Outstanding where
  messageType : MessageType
  payload : Bytes
  authorizationId : Option Uuid

/-- What the holder of the request lock waits for: its write, or its answer. -/
inductive Phase
  | writing
  | awaiting
  deriving DecidableEq

/-- The holder of the request lock: its call, the number of its request among all the
requests of the gateway, and the sequence number the request took. -/
structure Holder where
  call : Outstanding
  number : ℕ
  sequence : ℕ
  phase : Phase

/-- A frame from the peer; `request` is the number of the request it answers. -/
structure Emission where
  frame : Frame
  request : Option ℕ

/-- The host, the link and the peer. `issued` has the sequence number of every request;
`outgoing` the requests written and not delivered; `delivered` those the peer may still
answer; `link` what the peer emitted and the decoder has not passed; and `decoded` is the
transport's frame queue. -/
structure Interleaving where
  gateway : RobotGateway
  transport : ProtocolTransport
  waiting : List Outstanding
  holder : Option Holder
  issued : List ℕ
  outgoing : List (ℕ × Frame)
  delivered : List (ℕ × Frame)
  link : List Emission
  decoded : List Emission

/-- What can happen next, in any order. -/
inductive Action
  /-- A send method is called. -/
  | enter (isOpen : Bool) (call : SendCall)
  /-- A call is cancelled while it waits for the lock. -/
  | abandon (index : ℕ)
  /-- A waiting call gets the lock and starts to write. -/
  | acquire (index : ℕ)
  | written
  | writeFails (error : String)
  /-- The peer receives a request; the first `lost` of those on the way never arrive. -/
  | deliver (lost : ℕ)
  /-- The peer answers a request it has received. -/
  | answer (index : ℕ) (answer : Answer)
  /-- The peer emits a frame that is no answer. -/
  | emit (frame : Frame)
  /-- A read returns `chunk`; `passed` tells which of the next frames on the link got
  through to the decoder, the others being lost or corrupted. -/
  | read (chunk : Bytes) (passed : List Bool)
  /-- What the transport has ready is handed out. -/
  | receive
  /-- The receive raises: a timeout, a closed endpoint, an error of the byte stream. -/
  | receiveFails (error : String)
  /-- The call that holds the lock is cancelled. -/
  | cancel

namespace Interleaving

abbrev Outcome := Except GatewayFailure GatewayReceipt

def start (gateway : RobotGateway) (transport : ProtocolTransport) : Interleaving :=
  ⟨gateway, transport, [], none, [], [], [], [], []⟩

def enter (s : Interleaving) (isOpen : Bool) (call : SendCall) : Interleaving × Option Outcome :=
  match call.payload s.gateway with
  | .error e => (s, some (.error e))
  | .ok payload =>
    if isOpen = false then (s, some (.error (.gateway "robot transport is not open")))
    else
      let outstanding := ⟨call.messageType, payload, call.authorizationId⟩
      ({ s with waiting := s.waiting ++ [outstanding] }, none)

/-- The sequence number is taken under the lock, also when no frame can be built. -/
def acquire (s : Interleaving) (index : ℕ) : Interleaving × Option Outcome :=
  match s.holder, s.waiting[index]? with
  | none, some call =>
    let (gateway, started) := s.gateway.startRequest true call.messageType (.ok call.payload)
    let next := { s with
      gateway
      waiting := s.waiting.eraseIdx index
      issued := s.issued ++ [s.gateway.sequence] }
    match started with
    | .error e => (next, some (.error e))
    | .ok frame =>
      ({ next with
          holder := some ⟨call, s.issued.length, frame.sequence, .writing⟩
          outgoing := s.outgoing ++ [(s.issued.length, frame)] }, none)
  | _, _ => (s, none)

def written (s : Interleaving) : Interleaving :=
  match s.holder with
  | some ⟨call, number, sequence, .writing⟩ =>
    { s with
      gateway := s.gateway.countSent
      holder := some ⟨call, number, sequence, .awaiting⟩ }
  | _ => s

def writeFails (s : Interleaving) (error : String) : Interleaving × Option Outcome :=
  match s.holder with
  | some ⟨_, _, sequence, .writing⟩ =>
    ({ s with holder := none },
      some (.error (.gateway s!"robot send failed for sequence {sequence}: {error}")))
  | _ => (s, none)

def deliver (s : Interleaving) (lost : ℕ) : Interleaving :=
  match s.outgoing.drop lost with
  | request :: rest => { s with outgoing := rest, delivered := s.delivered ++ [request] }
  | [] => s

def answer (s : Interleaving) (index : ℕ) (answer : Answer) : Interleaving :=
  match s.delivered[index]? with
  | some (number, frame) =>
    { s with
      delivered := s.delivered.eraseIdx index
      link := s.link ++ [⟨answer.frame frame.sequence, some number⟩] }
  | none => s

def emit (s : Interleaving) (frame : Frame) : Interleaving :=
  if frame.messageType = .ack ∨ frame.messageType = .nack then s
  else { s with link := s.link ++ [⟨frame, none⟩] }

def through (s : Interleaving) (passed : List Bool) : List Emission :=
  ((s.link.zip passed).filter (fun p => p.2)).map (fun p => p.1)

/-- A read is made when nothing is ready, and returns some bytes. The checksum is taken to
detect every corruption: what the decoder delivers are frames of the link, in order. -/
def read (s : Interleaving) (chunk : Bytes) (passed : List Bool) : Interleaving :=
  match s.holder with
  | some ⟨_, _, _, .awaiting⟩ =>
    if s.transport.issues = [] ∧ s.transport.frames = [] ∧ chunk ≠ [] ∧
        (s.transport.decoder.feed chunk).2.frames = (s.through passed).map Emission.frame then
      { s with
        transport := s.transport.feedChunk chunk
        link := s.link.drop passed.length
        decoded := s.decoded ++ s.through passed }
    else s
  | _ => s

def receive (s : Interleaving) : Interleaving × Option Outcome :=
  match s.holder, s.transport.takeReady with
  | some ⟨call, _, sequence, .awaiting⟩, some (transport, received) =>
    let (gateway, outcome) := s.gateway.finishReceive sequence call.messageType
      call.authorizationId received
    ({ s with
        gateway
        transport
        holder := none
        decoded := s.decoded.drop received.toList.length }, some outcome)
  | _, _ => (s, none)

def receiveFails (s : Interleaving) (error : String) : Interleaving × Option Outcome :=
  match s.holder with
  | some ⟨call, _, sequence, .awaiting⟩ =>
    let (gateway, outcome) := s.gateway.finishReceive sequence call.messageType
      call.authorizationId (.failed error)
    ({ s with gateway, holder := none }, some outcome)
  | _ => (s, none)

def step (s : Interleaving) : Action → Interleaving × Option Outcome
  | .enter isOpen call => s.enter isOpen call
  | .abandon index => ({ s with waiting := s.waiting.eraseIdx index }, none)
  | .acquire index => s.acquire index
  | .written => (s.written, none)
  | .writeFails error => s.writeFails error
  | .deliver lost => (s.deliver lost, none)
  | .answer index answer => (s.answer index answer, none)
  | .emit frame => (s.emit frame, none)
  | .read chunk passed => (s.read chunk passed, none)
  | .receive => s.receive
  | .receiveFails error => s.receiveFails error
  | .cancel => ({ s with holder := none }, none)

end Interleaving

end RoboticCharacter.Gateway
