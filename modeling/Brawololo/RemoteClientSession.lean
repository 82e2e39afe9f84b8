import Brawololo.ClientProtocolPump
import Brawololo.KcpRtcTransport

/-!
The session of a client with a remote server, over a transport of any
behaviour. The session sends its login once the transport is connected, and
`loginSent` guards everything else that it sends.
-/

namespace Brawololo.Client

open GameTypes EntityStore NetworkEvents NetworkProtocol Serialization Simulation PollLoops
open KcpRtc (TransportState)

universe u

/-- What a session calls of an `ITransport`. A `Link` may hold all that the
network will ever do, so that every call can answer anything. `State` is const
in the source, but what it reads changes between calls, so it answers with a
link as well. -/
structure ITransport (Link : Type u) where
  connect : Link → Bool × Link
  update : Link → Link
  state : Link → TransportState × Link
  send : NetworkEnvelope → Link → Bool × Link
  poll : Link → Option NetworkEnvelope × Link

/-- The members of a session and, in `trace`, what was handed to the transport. -/
structure RemoteClientSession (Link : Type u) where
  /-- Empty when the session was made without a transport. -/
  transport : Option Link
  stats : ClientSessionStats := {}
  localClientId : ClientId := 0
  nextTimeSyncAtMs : TimestampMs := 0
  lastTickTimeMs : TimestampMs := 0
  nextTimeSyncSequence : CommandSequence := 1
  reliableEvents : EventList := []
  sessionActive : Bool := false
  loginSent : Bool := false
  trace : List PumpHappening := []

/-! One turn of `PumpIncoming` over a transport. -/

/-- What the pump sends to acknowledge an envelope, if anything. -/
def ackFor (localReceiveTimeMs : TimestampMs) (localClientId : ClientId)
    (envelope : NetworkEnvelope) : Option NetworkEnvelope :=
  match eventIn envelope with
  | some (networkEvent, _) =>
      some (networkEventAckEnvelope
        { clientId := localClientId, eventId := networkEvent.eventId,
          clientReceivedAtMs := localReceiveTimeMs })
  | none =>
      (snapshotIn envelope).map fun snapshot =>
        snapshotAckEnvelope
          { clientId := localClientId, snapshotId := snapshot.snapshotId,
            baselineId := snapshot.baselineId,
            ackedInputSequence := snapshot.ackedInputSequence,
            clientReceivedAtMs := localReceiveTimeMs }

section Transport

variable {Link : Type u} (io : ITransport Link)

/-- The transport is asked only if there is something to acknowledge. -/
def sendAck (ack : Option NetworkEnvelope) (link : Link) : Bool × Link :=
  match ack with
  | some ack => io.send ack link
  | none => (false, link)

def pollEnvelope (state : Link × PumpState) : Option NetworkEnvelope × (Link × PumpState) :=
  ((io.poll state.1).1, ((io.poll state.1).2, state.2))

/-- `order` is that of the loops while a snapshot is applied. -/
def receiveEnvelope (order : PumpState → LoopOrder) (localReceiveTimeMs : TimestampMs)
    (state : Link × PumpState) (envelope : NetworkEnvelope) : Link × PumpState :=
  let acked := sendAck io
    (ackFor localReceiveTimeMs state.2.stats.localClientId envelope) state.1
  (acked.2, state.2.receive localReceiveTimeMs
    { envelope := envelope, ackAccepted := acked.1, order := order state.2 })

namespace RemoteClientSession

/-! The calls of the session. -/

/-- `Send` through a pump of the session. -/
def send (session : RemoteClientSession Link) (envelope : NetworkEnvelope) :
    RemoteClientSession Link × Bool :=
  match session.transport with
  | none => (session, false)
  | some link =>
      let sent := io.send envelope link
      ({ session with
         transport := some sent.2
         trace := session.trace ++ [.handed envelope sent.1] }, sent.1)

def trySendLogin (session : RemoteClientSession Link) (nowMs : TimestampMs) :
    RemoteClientSession Link × Bool :=
  match session.transport with
  | none => (session, false)
  | some link =>
      if !session.sessionActive then (session, false)
      else if session.loginSent then (session, true)
      else
        let asked := { session with transport := some (io.state link).2 }
        if (io.state link).1 ≠ .connected then
          ({ asked with stats := { asked.stats with connectionState := .connecting } }, false)
        else
          let login : LoginCommand :=
            { header := { clientId := asked.localClientId, sequence := 0,
                          clientTimestampMs := nowMs } }
          let sent := asked.send io (loginEnvelope login)
          ({ sent.1 with
             loginSent := sent.2
             stats := { sent.1.stats with
                        connectionState := if sent.2 then .awaitingSpawn else .disconnected }
             sessionActive := sent.2 }, sent.2)

def connect (session : RemoteClientSession Link) (localClientId : ClientId)
    (nowMs : TimestampMs) : RemoteClientSession Link × Bool :=
  match session.transport with
  | none => (session, false)
  | some link =>
      let begun :=
        { session with
          transport := some (io.connect link).2
          stats := { session.stats with localClientId := localClientId,
                                        connectionState := .connecting }
          localClientId := localClientId
          lastTickTimeMs := nowMs }
      if !(io.connect link).1 then
        ({ begun with stats := { begun.stats with connectionState := .disconnected } }, false)
      else
        let asked := io.state (io.connect link).2
        let active := { begun with transport := some asked.2, sessionActive := true }
        if asked.1 ≠ .connected then (active, true) else active.trySendLogin io nowMs

def sendInput (session : RemoteClientSession Link) (packet : ClientInputPacket) :
    RemoteClientSession Link :=
  if !session.sessionActive || !session.loginSent then session
  else (session.send io (inputEnvelope packet)).1

def tick (session : RemoteClientSession Link) (nowMs : TimestampMs) :
    RemoteClientSession Link :=
  let ticked := { session with lastTickTimeMs := nowMs }
  match ticked.transport with
  | none => ticked
  | some link =>
      if !ticked.sessionActive then ticked
      else
        let updated := { ticked with transport := some (io.update link) }
        if !updated.loginSent then (updated.trySendLogin io nowMs).1
        else if nowMs < updated.nextTimeSyncAtMs then updated
        else
          let request : TimeSyncRequest :=
            { clientId := updated.localClientId, sequence := updated.nextTimeSyncSequence,
              clientSentAtMs := nowMs }
          let numbered :=
            { updated with nextTimeSyncSequence := updated.nextTimeSyncSequence + 1 }
          let sent := numbered.send io (timeSyncRequestEnvelope request)
          { sent.1 with
            stats := { sent.1.stats with
                       timeSyncRequestsSent :=
                         sent.1.stats.timeSyncRequestsSent + if sent.2 then 1 else 0 }
            nextTimeSyncAtMs := nowMs + 1000 }

def pumpState (session : RemoteClientSession Link) (runtime : ClientRuntime) : PumpState :=
  { runtime := runtime, stats := session.stats, reliableEvents := session.reliableEvents,
    trace := session.trace }

/-- A transport may have envelopes without end; `polls` is how often it is
polled at most. -/
def pump (polls : Nat) (order : PumpState → LoopOrder) (session : RemoteClientSession Link)
    (runtime : ClientRuntime) : RemoteClientSession Link × ClientRuntime :=
  match session.transport with
  | none => (session, runtime)
  | some link =>
      if !session.sessionActive then (session, runtime)
      else
        let updated := { session with transport := some (io.update link) }
        if !updated.loginSent then
          ((updated.trySendLogin io updated.lastTickTimeMs).1, runtime)
        else
          let pumped := whileSome (pollEnvelope io)
            (receiveEnvelope io order updated.lastTickTimeMs) polls
            (io.update link, updated.pumpState runtime)
          ({ updated with
             transport := some pumped.1
             stats := pumped.2.stats
             reliableEvents := pumped.2.reliableEvents
             trace := pumped.2.trace }, pumped.2.runtime)

def drainEvents (session : RemoteClientSession Link) : RemoteClientSession Link × EventList :=
  ({ session with reliableEvents := [] }, session.reliableEvents)

end RemoteClientSession

/-! Runs. -/

/-- The calls on a session. Each `Pump` may bring another runtime. Between the
calls the transport may change by itself. -/
inductive RemoteCall (Link : Type u) where
  | connect (localClientId : ClientId) (nowMs : TimestampMs)
  | sendInput (packet : ClientInputPacket)
  | tick (nowMs : TimestampMs)
  | pump (polls : Nat) (order : PumpState → LoopOrder) (runtime : ClientRuntime)
  | drainEvents
  | transportChanged (change : Link → Link)

def remoteStep (session : RemoteClientSession Link) : RemoteCall Link → RemoteClientSession Link
  | .connect localClientId nowMs => (session.connect io localClientId nowMs).1
  | .sendInput packet => session.sendInput io packet
  | .tick nowMs => session.tick io nowMs
  | .pump polls order runtime => (session.pump io polls order runtime).1
  | .drainEvents => session.drainEvents.1
  | .transportChanged change => { session with transport := session.transport.map change }

def remoteRun (transport : Option Link) (calls : List (RemoteCall Link)) :
    RemoteClientSession Link :=
  Runs.run (remoteStep io) { transport := transport } calls

end Transport

end Brawololo.Client
