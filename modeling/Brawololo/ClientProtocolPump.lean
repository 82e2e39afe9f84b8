import Brawololo.ClientRuntime
import Brawololo.NetworkProtocol
import Brawololo.SnapshotCodec
import Brawololo.NetworkEventCodec

/-!
The pump of a client. It polls envelopes from the transport and hands what they
carry to the runtime, to the statistics of the session and to the list of
reliable events, and it acknowledges snapshots and events. `trace` records what
was handed to the transport, applied and surfaced, oldest first; no code of the
pump reads it.
-/

namespace Brawololo.Client

open GameTypes EntityStore NetworkEvents NetworkProtocol Serialization SnapshotCodec
open NetworkEventCodec Simulation

inductive ClientConnectionState where
  | disconnected
  | connecting
  | awaitingSpawn
  | connected
  | localPreview
  deriving DecidableEq

structure ClientSessionStats where
  localClientId : ClientId := 0
  connectionState : ClientConnectionState := .disconnected
  lastSnapshotId : SnapshotId := 0
  lastBaselineId : SnapshotId := 0
  lastAckedInputSequence : CommandSequence := 0
  lastTimeSyncSequence : CommandSequence := 0
  snapshotsApplied : Nat := 0
  snapshotAcksSent : Nat := 0
  timeSyncRequestsSent : Nat := 0
  timeSyncResponsesApplied : Nat := 0
  reliableEventsReceived : Nat := 0
  reliableEventAcksSent : Nat := 0
  spawnAcceptedEventsReceived : Nat := 0
  deriving DecidableEq

/-! The envelopes that a client sends. -/

def loginEnvelope (command : LoginCommand) : NetworkEnvelope :=
  { channel := .loginSpawn, messageClass := .loginRequest, sequence := command.header.sequence,
    payload := serializeLoginCommand command }

def inputEnvelope (packet : ClientInputPacket) : NetworkEnvelope :=
  { channel := .movementInput, messageClass := .clientInput, sequence := packet.header.sequence,
    payload := serializeClientInputPacket packet }

def snapshotAckEnvelope (ack : SnapshotAckDTO) : NetworkEnvelope :=
  { channel := .snapshots, messageClass := .snapshotAck, sequence := ack.snapshotId,
    payload := serializeSnapshotAck ack }

def networkEventAckEnvelope (ack : NetworkEventAckDTO) : NetworkEnvelope :=
  { channel := .loginSpawn, messageClass := .networkEventAck, sequence := ack.eventId,
    payload := serializeNetworkEventAck ack }

def timeSyncRequestEnvelope (request : TimeSyncRequest) : NetworkEnvelope :=
  { channel := .timeSync, messageClass := .timeSyncRequest, sequence := request.sequence,
    payload := serializeTimeSyncRequest request }

/-! Incoming envelopes. -/

/-- The snapshot that the pump takes from an envelope, if any. -/
def snapshotIn (envelope : NetworkEnvelope) : Option SnapshotDTO :=
  if envelope.Ok ∧ envelope.messageClass = .snapshot then deserializeSnapshot envelope.payload
  else none

def isEventClass : MessageClass → Bool
  | .combatEvent | .spawnAccepted | .interestEvent => true
  | _ => false

/-- The network event that the pump takes from an envelope, with its domain
event. -/
def eventIn (envelope : NetworkEnvelope) : Option (NetworkEventDTO × DomainEvent) :=
  if envelope.Ok ∧ isEventClass envelope.messageClass then
    (deserializeNetworkEvent envelope.payload).bind fun networkEvent =>
      (toDomainEvent networkEvent).map fun domainEvent => (networkEvent, domainEvent)
  else none

def timeSyncResponseIn (envelope : NetworkEnvelope) : Option TimeSyncResponse :=
  if envelope.Ok ∧ envelope.messageClass = .timeSyncResponse then
    deserializeTimeSyncResponse envelope.payload
  else none

inductive PumpHappening where
  /-- A `Send` and its answer. -/
  | handed (envelope : NetworkEnvelope) (accepted : Bool)
  | applied (snapshot : SnapshotDTO)
  /-- A network event whose domain event went to the reliable events. -/
  | surfaced (networkEvent : NetworkEventDTO)
  deriving DecidableEq

structure PumpState where
  runtime : ClientRuntime
  stats : ClientSessionStats := {}
  reliableEvents : EventList := []
  trace : List PumpHappening := []

/-- A polled envelope, how the transport answers if the pump acknowledges it,
and the order of the loops while its snapshot is applied. -/
structure Polled where
  envelope : NetworkEnvelope
  ackAccepted : Bool := true
  order : LoopOrder := .stored

namespace PumpState

def new (localClientId : ClientId) (config : SimulationConfig) : PumpState :=
  { runtime := .new localClientId config, stats := { localClientId := localClientId } }

def record (state : PumpState) (happening : PumpHappening) : PumpState :=
  { state with trace := state.trace ++ [happening] }

def receiveTimeSync (localReceiveTimeMs : TimestampMs) (state : PumpState)
    (response : TimeSyncResponse) : PumpState :=
  { state with
    runtime := state.runtime.recordTimeSyncSample
      { clientSentAtMs := response.clientSentAtMs
        serverReceivedAtMs := response.serverReceivedAtMs
        clientReceivedAtMs :=
          if localReceiveTimeMs ≠ 0 then localReceiveTimeMs else response.clientSentAtMs }
    stats :=
      { state.stats with
        lastTimeSyncSequence := response.sequence
        timeSyncResponsesApplied := state.stats.timeSyncResponsesApplied + 1 } }

/-- A spawn of the local client's own player. -/
def acceptsSpawn (stats : ClientSessionStats) (networkEvent : NetworkEventDTO) : Bool :=
  match networkEvent.payload with
  | .playerSpawned spawned => spawned.clientId = stats.localClientId
  | _ => false

def receiveEvent (localReceiveTimeMs : TimestampMs) (ackAccepted : Bool) (state : PumpState)
    (networkEvent : NetworkEventDTO) (domainEvent : DomainEvent) : PumpState :=
  let ack : NetworkEventAckDTO :=
    { clientId := state.stats.localClientId, eventId := networkEvent.eventId,
      clientReceivedAtMs := localReceiveTimeMs }
  let handed := state.record (.handed (networkEventAckEnvelope ack) ackAccepted)
  let stats :=
    { handed.stats with
      reliableEventAcksSent := handed.stats.reliableEventAcksSent + if ackAccepted then 1 else 0
      reliableEventsReceived := handed.stats.reliableEventsReceived + 1 }
  { handed.record (.surfaced networkEvent) with
    reliableEvents := handed.reliableEvents ++ [domainEvent]
    stats :=
      if acceptsSpawn stats networkEvent then
        { stats with
          connectionState := .connected
          spawnAcceptedEventsReceived := stats.spawnAcceptedEventsReceived + 1 }
      else stats }

def receiveSnapshot (localReceiveTimeMs : TimestampMs) (ackAccepted : Bool) (order : LoopOrder)
    (state : PumpState) (snapshot : SnapshotDTO) : PumpState :=
  let ack : SnapshotAckDTO :=
    { clientId := state.stats.localClientId, snapshotId := snapshot.snapshotId,
      baselineId := snapshot.baselineId, ackedInputSequence := snapshot.ackedInputSequence,
      clientReceivedAtMs := localReceiveTimeMs }
  let handed := (state.record (.applied snapshot)).record
    (.handed (snapshotAckEnvelope ack) ackAccepted)
  { handed with
    runtime := handed.runtime.applyServerSnapshot order snapshot
    stats :=
      { handed.stats with
        snapshotAcksSent := handed.stats.snapshotAcksSent + if ackAccepted then 1 else 0
        lastSnapshotId := snapshot.snapshotId
        lastBaselineId := snapshot.baselineId
        lastAckedInputSequence := snapshot.ackedInputSequence
        snapshotsApplied := handed.stats.snapshotsApplied + 1 } }

/-- One turn of the loop of `PumpIncoming`. -/
def receive (localReceiveTimeMs : TimestampMs) (state : PumpState) (polled : Polled) : PumpState :=
  match timeSyncResponseIn polled.envelope with
  | some response => state.receiveTimeSync localReceiveTimeMs response
  | none =>
      match eventIn polled.envelope with
      | some (networkEvent, domainEvent) =>
          state.receiveEvent localReceiveTimeMs polled.ackAccepted networkEvent domainEvent
      | none =>
          match snapshotIn polled.envelope with
          | some snapshot =>
              state.receiveSnapshot localReceiveTimeMs polled.ackAccepted polled.order snapshot
          | none => state

/-- `polled` is what the transport returns from `Poll` until it has no more. -/
def pumpIncoming (state : PumpState) (polled : List Polled) (localReceiveTimeMs : TimestampMs) :
    PumpState × Nat :=
  (polled.foldl (receive localReceiveTimeMs) state,
   (polled.filter fun item => (snapshotIn item.envelope).isSome).length)

/-- `DrainEvents` of the session. -/
def drainEvents (state : PumpState) : PumpState × EventList :=
  ({ state with reliableEvents := [] }, state.reliableEvents)

end PumpState

/-- What a session does between polls with its runtime. -/
inductive LocalCall where
  | connectLocal (localTimeMs : TimestampMs)
  | queueInput (input : InputFrame) (localTimeMs : TimestampMs)
  | tickSimulation (order : LoopOrder)
  | drainEvents

def LocalCall.clientCall : LocalCall → ClientCall
  | .connectLocal localTimeMs => .connectLocal localTimeMs
  | .queueInput input localTimeMs => .queueInput input localTimeMs
  | .tickSimulation order => .tickSimulation order
  | .drainEvents => .drainEvents

/-- The calls of a session: one turn of `PumpIncoming`, a call on the runtime,
or draining the reliable events. -/
inductive SessionCall where
  | poll (localReceiveTimeMs : TimestampMs) (polled : Polled)
  | runtime (call : LocalCall)
  | drainEvents

def sessionStep (state : PumpState) : SessionCall → PumpState
  | .poll localReceiveTimeMs polled => state.receive localReceiveTimeMs polled
  | .runtime call => { state with runtime := clientStep state.runtime call.clientCall }
  | .drainEvents => state.drainEvents.1

def sessionRun (localClientId : ClientId) (config : SimulationConfig) (calls : List SessionCall) :
    PumpState :=
  Runs.run sessionStep (.new localClientId config) calls

/-- A call of `PumpIncoming` is a run of polls. -/
theorem pump_incoming_polls (state : PumpState) (polled : List Polled)
    (localReceiveTimeMs : TimestampMs) :
    (state.pumpIncoming polled localReceiveTimeMs).1 =
      Runs.run sessionStep state (polled.map (.poll localReceiveTimeMs)) := by
  unfold PumpState.pumpIncoming Runs.run
  rw [List.foldl_map]
  rfl

end Brawololo.Client
