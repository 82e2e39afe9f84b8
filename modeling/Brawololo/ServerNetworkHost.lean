import Brawololo.ServerRuntime
import Brawololo.NetworkProtocol
import Brawololo.SnapshotCodec
import Brawololo.NetworkEventCodec
import Brawololo.Runs

/-!
The network host of the server. A transport answers each `Send` with true or
false; it is a parameter that may look at everything that happened before, so
it can refuse in any pattern. `trace` is that record: what the host handed to
the transport and what it accepted, oldest first. No code of the host reads it.
-/

namespace Brawololo.Server

open GameTypes EntityStore NetworkEvents NetworkProtocol Serialization SnapshotCodec
open NetworkEventCodec Simulation SimulationSnapshots Replication

/-! What the host exchanges. -/

inductive HostMessage where
  /-- A planned snapshot, and the baseline found for its delta plan. -/
  | snapshot (planned : SnapshotDTO) (baseline : Option SnapshotDTO)
  | event (event : NetworkEventDTO) (isResend : Bool)
  | timeSync (response : TimeSyncResponse)
  deriving DecidableEq

/-- The channel and the class of an event envelope. -/
def eventRoute : NetworkEventKind → NetworkChannel × MessageClass
  | .playerSpawned => (.loginSpawn, .spawnAccepted)
  | .entityEnteredInterest | .entityLeftInterest => (.loginSpawn, .interestEvent)
  | .weaponWarmupStarted | .bowFired | .projectileSpawned | .hitConfirmed | .playerDamaged
  | .playerDied | .playerRespawned => (.combatEvents, .combatEvent)

def envelopeFor (clientId : ClientId) : HostMessage → NetworkEnvelope
  | .snapshot planned _ =>
      { peerId := clientId, channel := .snapshots, messageClass := .snapshot,
        sequence := planned.snapshotId, payload := serializeSnapshot planned }
  | .event event _ =>
      { peerId := clientId, channel := (eventRoute (kindForNetworkEvent event)).1,
        messageClass := (eventRoute (kindForNetworkEvent event)).2, sequence := event.eventId,
        payload := serializeNetworkEvent event }
  | .timeSync response =>
      { peerId := clientId, channel := .timeSync, messageClass := .timeSyncResponse,
        sequence := response.sequence, payload := serializeTimeSyncResponse response }

inductive Happening where
  | snapshotNumbered (snapshotId : SnapshotId)
  | eventNumbered (eventId : NetworkEventId)
  /-- A `Send` and its answer. -/
  | handed (clientId : ClientId) (message : HostMessage) (accepted : Bool)
  | snapshotAcked (clientId : ClientId) (snapshotId : SnapshotId)
  | eventAcked (clientId : ClientId) (eventId : NetworkEventId)
  deriving DecidableEq

abbrev Trace := List Happening

/-- The answer to sending an envelope after everything in the trace. -/
abbrev Transport := Trace → NetworkEnvelope → Bool

/-! The host. -/

structure ServerNetworkStats where
  connectedClients : Nat := 0
  loginRequests : Nat := 0
  inputsReceived : Nat := 0
  snapshotAcksReceived : Nat := 0
  staleSnapshotAcksRejected : Nat := 0
  timeSyncRequestsReceived : Nat := 0
  timeSyncResponsesSent : Nat := 0
  reliableEventsSent : Nat := 0
  reliableEventsResent : Nat := 0
  reliableEventAcksReceived : Nat := 0
  staleReliableEventAcksRejected : Nat := 0
  snapshotsSent : Nat := 0
  snapshotsSkippedBySchedule : Nat := 0
  fullSnapshotsSent : Nat := 0
  deltaEligibleSnapshotsSent : Nat := 0
  baselineMisses : Nat := 0
  deltaPlaceholderSnapshotsPlanned : Nat := 0
  deltaPlaceholderAddedEntities : Nat := 0
  deltaPlaceholderChangedEntities : Nat := 0
  deltaPlaceholderRemovedEntities : Nat := 0
  deltaPlaceholderUnchangedEntities : Nat := 0
  snapshotEntitiesSent : Nat := 0
  snapshotEntitiesDropped : Nat := 0
  interestEnterEvents : Nat := 0
  interestStayEvents : Nat := 0
  interestExitEvents : Nat := 0
  deriving DecidableEq

structure ServerNetworkHostConfig where
  replication : ReplicationPlannerConfig := {}
  baselines : SnapshotBaselineCacheConfig := {}
  snapshotSendIntervalMs : TimestampMs := 16
  reliableEventResendBaseIntervalMs : TimestampMs := 250
  reliableEventMaxSendCount : UInt32 := 8
  deriving DecidableEq

structure ServerNetworkHost where
  config : ServerNetworkHostConfig := {}
  runtime : ServerRuntime := .new {}
  baselineCache : SnapshotBaselineCache := {}
  clients : List ClientId := []
  clientStateById : UnorderedMap ClientId ServerClientReplicationState := {}
  drainedEvents : EventList := []
  nextNetworkEventId : NetworkEventId := 1
  stats : ServerNetworkStats := {}
  trace : Trace := []

/-- The loops of the host that visit a hash map. -/
inductive HostSite where
  | resendingClients
  | pendingEvents (clientId : ClientId)
  | exitedEntities (clientId : ClientId)
  deriving DecidableEq

abbrev HostOrder := IterationOrder HostSite

namespace ServerNetworkHost

def new (config : ServerNetworkHostConfig) : ServerNetworkHost :=
  { config := config, baselineCache := { config := config.baselines } }

def record (host : ServerNetworkHost) (happening : Happening) : ServerNetworkHost :=
  { host with trace := host.trace ++ [happening] }

def countStats (host : ServerNetworkHost) (count : ServerNetworkStats → ServerNetworkStats) :
    ServerNetworkHost :=
  { host with stats := count host.stats }

def updateClient (host : ServerNetworkHost) (clientId : ClientId)
    (change : ServerClientReplicationState → ServerClientReplicationState) : ServerNetworkHost :=
  { host with clientStateById := host.clientStateById.modify clientId change }

/-- `nextNetworkEventId_++`. -/
def numberEvent (host : ServerNetworkHost) : ServerNetworkHost × NetworkEventId :=
  ({ host with nextNetworkEventId := host.nextNetworkEventId + 1 }.record
      (.eventNumbered host.nextNetworkEventId), host.nextNetworkEventId)

def connectSimulationOnlyClient (host : ServerNetworkHost) (clientId : ClientId)
    (nowMs : TimestampMs) : ServerNetworkHost × Bool :=
  let (runtime, accepted) := host.runtime.connectClient clientId nowMs
  ({ host with runtime := runtime }, accepted)

/-- The client joins `clients_` and gets a state. -/
def registerClient (host : ServerNetworkHost) (clientId : ClientId) : ServerNetworkHost :=
  { host with
    clients := host.clients ++ [clientId]
    clientStateById := host.clientStateById.insertIfNew clientId { clientId := clientId }
    stats := { host.stats with connectedClients := (host.clients ++ [clientId]).length } }

def handleLoginEnvelope (host : ServerNetworkHost) (envelope : NetworkEnvelope) :
    ServerNetworkHost :=
  match deserializeLoginCommand envelope.payload with
  | none => host
  | some login =>
      let counted := host.countStats fun stats => { stats with loginRequests := stats.loginRequests + 1 }
      let (runtime, accepted) :=
        counted.runtime.connectClient login.header.clientId login.header.clientTimestampMs
      let connected := { counted with runtime := runtime }
      if !accepted then connected
      else if login.header.clientId ∈ connected.clients then connected
      else connected.registerClient login.header.clientId

def handleInputEnvelope (host : ServerNetworkHost) (envelope : NetworkEnvelope) :
    ServerNetworkHost :=
  match deserializeClientInputPacket envelope.payload with
  | none => host
  | some packet =>
      let (runtime, accepted) := host.runtime.submitInput packet
      let submitted := { host with runtime := runtime }
      if accepted then
        submitted.countStats fun stats => { stats with inputsReceived := stats.inputsReceived + 1 }
      else submitted

def rejectSnapshotAck (host : ServerNetworkHost) : ServerNetworkHost :=
  host.countStats fun stats =>
    { stats with staleSnapshotAcksRejected := stats.staleSnapshotAcksRejected + 1 }

def handleSnapshotAckEnvelope (host : ServerNetworkHost) (envelope : NetworkEnvelope) :
    ServerNetworkHost :=
  match deserializeSnapshotAck envelope.payload with
  | none => host
  | some ack =>
      match host.clientStateById[ack.clientId]? with
      | none => host.rejectSnapshotAck
      | some state =>
          if (host.baselineCache.find ack.clientId ack.snapshotId).isNone then
            host.rejectSnapshotAck
          else if !(state.acknowledgeSnapshot ack.snapshotId).2 then host.rejectSnapshotAck
          else
            ((host.updateClient ack.clientId fun state =>
                (state.acknowledgeSnapshot ack.snapshotId).1).record
              (.snapshotAcked ack.clientId ack.snapshotId)).countStats fun stats =>
                { stats with snapshotAcksReceived := stats.snapshotAcksReceived + 1 }

def rejectEventAck (host : ServerNetworkHost) : ServerNetworkHost :=
  host.countStats fun stats =>
    { stats with staleReliableEventAcksRejected := stats.staleReliableEventAcksRejected + 1 }

def handleNetworkEventAckEnvelope (host : ServerNetworkHost) (envelope : NetworkEnvelope) :
    ServerNetworkHost :=
  match deserializeNetworkEventAck envelope.payload with
  | none => host
  | some ack =>
      match host.clientStateById[ack.clientId]? with
      | none => host.rejectEventAck
      | some state =>
          if !(state.acknowledgeReliableEvent ack.eventId).2 then host.rejectEventAck
          else
            ((host.updateClient ack.clientId fun state =>
                (state.acknowledgeReliableEvent ack.eventId).1).record
              (.eventAcked ack.clientId ack.eventId)).countStats fun stats =>
                { stats with reliableEventAcksReceived := stats.reliableEventAcksReceived + 1 }

def shouldSendSnapshot (host : ServerNetworkHost) (clientId : ClientId) (nowMs : TimestampMs) :
    Bool :=
  (host.clientStateById[clientId]?).all fun state => state.shouldSendSnapshot nowMs

def markSnapshotSent (host : ServerNetworkHost) (clientId : ClientId) (nowMs : TimestampMs) :
    ServerNetworkHost :=
  host.updateClient clientId fun state =>
    state.markSnapshotSent nowMs host.config.snapshotSendIntervalMs

/-- The event with its network form, under the next event id. -/
def numberedEvent (host : ServerNetworkHost) (event : DomainEvent) :
    ServerNetworkHost × Option NetworkEventDTO :=
  let (numbered, eventId) := host.numberEvent
  (numbered, toNetworkEventDTO eventId host.runtime.simulation.tick host.runtime.simulation.timeMs
    event)

/-- An interest event is for its observer, any other for every client. -/
def observerOnly (event : NetworkEventDTO) : Option ClientId :=
  match event.payload with
  | .entityEnteredInterest dto => some dto.observerClientId
  | .entityLeftInterest dto => some dto.observerClientId
  | _ => none

section Sending

variable (transport : Transport)

/-- `transport_.Send`. -/
def send (host : ServerNetworkHost) (clientId : ClientId) (message : HostMessage) :
    ServerNetworkHost × Bool :=
  let accepted := transport host.trace (envelopeFor clientId message)
  (host.record (.handed clientId message accepted), accepted)

def handleTimeSyncEnvelope (host : ServerNetworkHost) (envelope : NetworkEnvelope) :
    ServerNetworkHost :=
  match deserializeTimeSyncRequest envelope.payload with
  | none => host
  | some request =>
      let counted := host.countStats fun stats =>
        { stats with timeSyncRequestsReceived := stats.timeSyncRequestsReceived + 1 }
      let serverNowMs := counted.runtime.simulation.timeMs
      let response : TimeSyncResponse :=
        { clientId := request.clientId, sequence := request.sequence,
          clientSentAtMs := request.clientSentAtMs, serverReceivedAtMs := serverNowMs,
          serverSentAtMs := serverNowMs }
      let (sent, accepted) := counted.send transport request.clientId (.timeSync response)
      if accepted then
        sent.countStats fun stats =>
          { stats with timeSyncResponsesSent := stats.timeSyncResponsesSent + 1 }
      else sent

def sendReliableEvent (host : ServerNetworkHost) (clientId : ClientId) (event : NetworkEventDTO)
    (nowMs : TimestampMs) (isResend : Bool) : ServerNetworkHost :=
  let (sent, accepted) := host.send transport clientId (.event event isResend)
  if accepted then
    (sent.updateClient clientId fun state => state.trackReliableEvent event nowMs).countStats
      fun stats =>
        { stats with
          reliableEventsSent := stats.reliableEventsSent + 1
          reliableEventsResent :=
            if isResend then stats.reliableEventsResent + 1 else stats.reliableEventsResent }
  else sent

/-- One turn of the loop over the clients in `BroadcastReliableEvents`. -/
def sendToClient (event : NetworkEventDTO) (nowMs : TimestampMs) (host : ServerNetworkHost)
    (clientId : ClientId) : ServerNetworkHost :=
  if (observerOnly event).any (· ≠ clientId) then host
  else host.sendReliableEvent transport clientId event nowMs false

/-- One turn of the loop over the events. -/
def broadcastEvent (nowMs : TimestampMs) (host : ServerNetworkHost) (event : DomainEvent) :
    ServerNetworkHost :=
  match host.numberedEvent event with
  | (numbered, none) => numbered
  | (numbered, some networkEvent) =>
      numbered.clients.foldl (sendToClient transport networkEvent nowMs) numbered

def broadcastReliableEvents (host : ServerNetworkHost) (events : EventList)
    (nowMs : TimestampMs) : ServerNetworkHost :=
  events.foldl (broadcastEvent transport nowMs) host

/-- One turn of the loop over the client states. -/
def resendToClient (hostOrder : HostOrder) (nowMs : TimestampMs) (host : ServerNetworkHost)
    (clientId : ClientId) : ServerNetworkHost :=
  match host.clientStateById[clientId]? with
  | none => host
  | some state =>
      (state.reliableEventsDueForResend hostOrder (.pendingEvents clientId) nowMs
          host.config.reliableEventResendBaseIntervalMs host.config.reliableEventMaxSendCount).foldl
        (fun host event => host.sendReliableEvent transport clientId event nowMs true) host

def resendPendingReliableEvents (hostOrder : HostOrder) (host : ServerNetworkHost)
    (nowMs : TimestampMs) : ServerNetworkHost :=
  (hostOrder.arrange .resendingClients host.clientStateById.keys).foldl
    (resendToClient transport hostOrder nowMs) host

/-- One turn of either loop of `SendInterestEvents`. -/
def sendInterestEvent (clientId : ClientId) (nowMs : TimestampMs) (host : ServerNetworkHost)
    (event : DomainEvent) : ServerNetworkHost :=
  match host.numberedEvent event with
  | (numbered, none) => numbered
  | (numbered, some networkEvent) =>
      numbered.sendReliableEvent transport clientId networkEvent nowMs false

def interestEvents (clientId : ClientId) (frame : InterestFrame) : EventList :=
  (frame.entered.map fun entityId =>
    .entityEnteredInterest { entityId := entityId, observerClientId := clientId }) ++
  (frame.exited.map fun entityId =>
    .entityLeftInterest { entityId := entityId, observerClientId := clientId })

def sendInterestEvents (host : ServerNetworkHost) (clientId : ClientId) (frame : InterestFrame)
    (nowMs : TimestampMs) : ServerNetworkHost :=
  (interestEvents clientId frame).foldl (sendInterestEvent transport clientId nowMs) host

def requestedBaselineId (host : ServerNetworkHost) (clientId : ClientId) : SnapshotId :=
  ((host.clientStateById[clientId]?).map fun state => state.ackedSnapshot).getD 0

/-- The snapshot that `SendSnapshot` serializes for a client, before the id
counter moves on. -/
def plannedSnapshot (order : LoopOrder) (host : ServerNetworkHost) (clientId : ClientId) :
    PlannedSnapshot :=
  let decision := host.baselineCache.decide clientId (host.requestedBaselineId clientId)
  let built := (host.runtime.buildSnapshotFor order clientId decision.effectiveBaselineId).2
  host.config.replication.plan { built with deliveryKind := decision.deliveryKind } clientId

/-- The baseline that the delta plan compares with. -/
def deltaBaseline (host : ServerNetworkHost) (clientId : ClientId) (planned : SnapshotDTO) :
    Option SnapshotDTO :=
  if planned.deliveryKind = .deltaEligible then
    host.baselineCache.find clientId planned.baselineId
  else none

/-- The host after `BuildSnapshotFor` has taken a snapshot id. -/
def numberSnapshot (host : ServerNetworkHost) : ServerNetworkHost :=
  { host with
    runtime :=
      { host.runtime with nextSnapshotId := host.runtime.nextSnapshotId + 1 } }.record
    (.snapshotNumbered host.runtime.nextSnapshotId)

def countDeltaPlan (planned : SnapshotDTO) (baseline : Option SnapshotDTO)
    (stats : ServerNetworkStats) : ServerNetworkStats :=
  match baseline with
  | none => stats
  | some baseline =>
      let plan := planSnapshotDelta planned baseline
      if plan.baselineMatched then
        { stats with
          deltaPlaceholderSnapshotsPlanned := stats.deltaPlaceholderSnapshotsPlanned + 1
          deltaPlaceholderAddedEntities := stats.deltaPlaceholderAddedEntities + plan.addedCount
          deltaPlaceholderChangedEntities :=
            stats.deltaPlaceholderChangedEntities + plan.changedCount
          deltaPlaceholderRemovedEntities :=
            stats.deltaPlaceholderRemovedEntities + plan.removedCount
          deltaPlaceholderUnchangedEntities :=
            stats.deltaPlaceholderUnchangedEntities + plan.unchangedCount }
      else stats

def countInterest (frame : InterestFrame) (stats : ServerNetworkStats) : ServerNetworkStats :=
  { stats with
    interestEnterEvents := stats.interestEnterEvents + frame.entered.length
    interestStayEvents := stats.interestStayEvents + frame.stayed.length
    interestExitEvents := stats.interestExitEvents + frame.exited.length }

def countSnapshot (planned : PlannedSnapshot) (missed : Bool) (stats : ServerNetworkStats) :
    ServerNetworkStats :=
  let delta : Bool := planned.snapshot.deliveryKind = .deltaEligible
  { stats with
    snapshotsSent := stats.snapshotsSent + 1
    deltaEligibleSnapshotsSent := stats.deltaEligibleSnapshotsSent + if delta then 1 else 0
    fullSnapshotsSent := stats.fullSnapshotsSent + if delta then 0 else 1
    baselineMisses := stats.baselineMisses + if missed then 1 else 0
    snapshotEntitiesSent := stats.snapshotEntitiesSent + planned.stats.outputEntityCount
    snapshotEntitiesDropped := stats.snapshotEntitiesDropped + planned.stats.droppedEntityCount }

/-- The interest of a client that was sent a snapshot moves on, and the events
about it are sent. -/
def followInterest (hostOrder : HostOrder) (nowMs : TimestampMs) (host : ServerNetworkHost)
    (clientId : ClientId) (planned : SnapshotDTO) : ServerNetworkHost :=
  match host.clientStateById[clientId]? with
  | none => host
  | some state =>
      let (tracker, frame) := state.interest.update hostOrder (.exitedEntities clientId) planned
      let tracked := host.updateClient clientId fun state => { state with interest := tracker }
      (tracked.countStats (countInterest frame)).sendInterestEvents transport clientId frame nowMs

def storeBaseline (host : ServerNetworkHost) (clientId : ClientId) (planned : SnapshotDTO) :
    ServerNetworkHost :=
  { host with baselineCache := host.baselineCache.store clientId planned }

def sendSnapshot (order : LoopOrder) (hostOrder : HostOrder) (nowMs : TimestampMs)
    (host : ServerNetworkHost) (clientId : ClientId) : ServerNetworkHost × Bool :=
  let requested := host.requestedBaselineId clientId
  let available := (host.baselineCache.decide clientId requested).baselineAvailable
  let planned := host.plannedSnapshot order clientId
  let baseline := host.deltaBaseline clientId planned.snapshot
  let counted := host.numberSnapshot.countStats (countDeltaPlan planned.snapshot baseline)
  let (sent, accepted) := counted.send transport clientId (.snapshot planned.snapshot baseline)
  if !accepted then (sent, false)
  else
    let followed := sent.followInterest transport hostOrder nowMs clientId planned.snapshot
    ((followed.storeBaseline clientId planned.snapshot).countStats
      (countSnapshot planned (requested ≠ 0 && !available)), true)

/-- One turn of the loop of `TickAndSendSnapshots` over the clients. -/
def snapshotTurn (order : LoopOrder) (hostOrder : HostOrder) (nowMs : TimestampMs)
    (host : ServerNetworkHost) (clientId : ClientId) : ServerNetworkHost :=
  if !host.shouldSendSnapshot clientId nowMs then
    host.countStats fun stats =>
      { stats with snapshotsSkippedBySchedule := stats.snapshotsSkippedBySchedule + 1 }
  else
    match host.sendSnapshot transport order hostOrder nowMs clientId with
    | (sent, true) => sent.markSnapshotSent clientId nowMs
    | (sent, false) => sent

def tickAndSendSnapshots (order : LoopOrder) (hostOrder : HostOrder) (host : ServerNetworkHost)
    (nowMs : TimestampMs) : ServerNetworkHost :=
  let (runtime, tickEvents) := (host.runtime.tick order).drainEvents
  let ticked := { host with runtime := runtime }
  let sent := ticked.clients.foldl (snapshotTurn transport order hostOrder nowMs) ticked
  let broadcast := sent.broadcastReliableEvents transport tickEvents nowMs
  let resent := broadcast.resendPendingReliableEvents transport hostOrder nowMs
  { resent with drainedEvents := resent.drainedEvents ++ tickEvents }

/-- One turn of the loop of `PumpClientMessages`. -/
def handleEnvelope (host : ServerNetworkHost) (envelope : NetworkEnvelope) : ServerNetworkHost :=
  if ¬ envelope.Ok then host
  else
    match envelope.messageClass with
    | .loginRequest => host.handleLoginEnvelope envelope
    | .clientInput => host.handleInputEnvelope envelope
    | .snapshotAck => host.handleSnapshotAckEnvelope envelope
    | .networkEventAck => host.handleNetworkEventAckEnvelope envelope
    | .timeSyncRequest => host.handleTimeSyncEnvelope transport envelope
    | _ => host

/-- `polled` is what the transport returns from `Poll` until it has no more. -/
def pumpClientMessages (host : ServerNetworkHost) (polled : List NetworkEnvelope) :
    ServerNetworkHost :=
  polled.foldl (handleEnvelope transport) host

def drainEvents (host : ServerNetworkHost) : ServerNetworkHost × EventList :=
  ({ host with drainedEvents := [] }, host.drainedEvents)

end Sending

end ServerNetworkHost

/-- The calls on a host, and what a caller may do through `Runtime()`: build a
snapshot, or change the runtime in any way that keeps its snapshot counter. -/
inductive HostCall where
  | connectSimulationOnlyClient (clientId : ClientId) (nowMs : TimestampMs)
  | pumpClientMessages (polled : List NetworkEnvelope)
  | tickAndSendSnapshots (order : LoopOrder) (hostOrder : HostOrder) (nowMs : TimestampMs)
  | drainEvents
  | buildSnapshotFor
  | changeRuntime (runtime : ServerRuntime)

def hostStep (transport : Transport) (host : ServerNetworkHost) : HostCall → ServerNetworkHost
  | .connectSimulationOnlyClient clientId nowMs => (host.connectSimulationOnlyClient clientId nowMs).1
  | .pumpClientMessages polled => host.pumpClientMessages transport polled
  | .tickAndSendSnapshots order hostOrder nowMs =>
      host.tickAndSendSnapshots transport order hostOrder nowMs
  | .drainEvents => host.drainEvents.1
  | .buildSnapshotFor => host.numberSnapshot
  | .changeRuntime runtime =>
      { host with runtime := { runtime with nextSnapshotId := host.runtime.nextSnapshotId } }

def hostRun (transport : Transport) (config : ServerNetworkHostConfig) (calls : List HostCall) :
    ServerNetworkHost :=
  Runs.run (hostStep transport) (.new config) calls

end Brawololo.Server
