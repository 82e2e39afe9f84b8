import Brawololo.KcpRtcTransport
import Brawololo.Runs

/-!
A transport that pumps its signals and frames by itself, the pair of them that
`CreateInMemoryKcpRtcTransportPair` connects through one hub and one data
channel, and the calls on the two sides.
-/

namespace Brawololo.RtcPairs

open GameTypes NetworkProtocol RtcSignaling RtcChannels KcpRtc

def mapSignalingError : RtcSignalingClientError → TransportError
  | .none => .none
  | .invalidConfiguration => .invalidConfiguration
  | .notConnected | .routeUnavailable => .notConnected
  | .notImplemented => .notImplemented
  | .protocolRejected => .protocolRejected

def mapDataChannelError : RtcDataChannelError → TransportError
  | .none => .none
  | .notOpen => .notConnected
  | .notImplemented => .notImplemented
  | .bufferFull | .invalidFrame => .protocolRejected

/-- With the in-memory signaling client and data channel of the pair. -/
structure KcpRtcPumpedTransport where
  transport : KcpRtcTransport
  signalingClient : InMemoryRtcSignalingClient
  dataChannel : InMemoryRtcDataChannel
  lastError : TransportError := .none
  readyNotified : Bool := false

namespace KcpRtcPumpedTransport

def connect (pumped : KcpRtcPumpedTransport) : Bool × KcpRtcPumpedTransport :=
  let signaling :=
    if pumped.signalingClient.state ≠ .connected then pumped.signalingClient.connect
    else (true, pumped.signalingClient)
  if !signaling.1 then
    (false, { pumped with
      signalingClient := signaling.2
      lastError := mapSignalingError signaling.2.lastError })
  else
    let connected := pumped.transport.connect
    (connected.1, { pumped with
      signalingClient := signaling.2
      transport := connected.2
      lastError := if connected.1 then .none else connected.2.lastError })

def pumpSignaling (pumped : KcpRtcPumpedTransport) : KcpRtcPumpedTransport :=
  let pump := pumpKcpRtcSignaling pumped.transport pumped.signalingClient
  { pumped with transport := pump.transport, signalingClient := pump.client }

def pumpDataChannel (pumped : KcpRtcPumpedTransport) : KcpRtcPumpedTransport :=
  let pump := pumpKcpRtcDataChannel pumped.transport pumped.dataChannel
  { pumped with transport := pump.transport, dataChannel := pump.channel }

def notifyReadyIfPossible (pumped : KcpRtcPumpedTransport) : KcpRtcPumpedTransport :=
  if pumped.readyNotified = true ∨ pumped.transport.phase ≠ .dataChannelConnecting ∨
      pumped.dataChannel.stateValue ≠ .opened then pumped
  else
    { pumped with
      transport := pumped.transport.notifyDataChannelReady.2
      readyNotified := pumped.transport.notifyDataChannelReady.1 }

/-- `Update` until its data-channel pump. -/
def signal (pumped : KcpRtcPumpedTransport) : KcpRtcPumpedTransport :=
  pumped.pumpSignaling.notifyReadyIfPossible.pumpSignaling

def update (pumped : KcpRtcPumpedTransport) : KcpRtcPumpedTransport :=
  let moved := pumped.signal.pumpDataChannel
  { moved with
    lastError :=
      if moved.dataChannel.stateValue = .failed then mapDataChannelError moved.dataChannel.lastError
      else moved.transport.lastError }

def send (pumped : KcpRtcPumpedTransport) (envelope : NetworkEnvelope) :
    Bool × KcpRtcPumpedTransport :=
  let updated := pumped.update
  let sent := updated.transport.send envelope
  let handed := { updated with transport := sent.2 }
  if sent.1 then (true, { handed.pumpDataChannel with lastError := .none })
  else (false, { handed with lastError := sent.2.lastError })

def poll (pumped : KcpRtcPumpedTransport) : Option NetworkEnvelope × KcpRtcPumpedTransport :=
  let updated := pumped.update
  let polled := updated.transport.poll
  (polled.1, { updated with transport := polled.2 })

end KcpRtcPumpedTransport

/-! The pair. -/

structure InMemoryKcpRtcTransportPairConfig where
  clientPeerId : ClientId := 1
  serverPeerId : ClientId := 2
  sessionId : List UInt8 := "default".toUTF8.toList
  dataChannelLabel : List UInt8 := "game".toUTF8.toList
  maxBufferedAmountBytes : Nat := 1024 * 1024
  deriving DecidableEq

inductive Side where
  | client
  | server
  deriving DecidableEq

def Side.other : Side → Side
  | .client => .server
  | .server => .client

structure RtcPair where
  client : KcpRtcPumpedTransport
  server : KcpRtcPumpedTransport

def RtcPair.side (pair : RtcPair) : Side → KcpRtcPumpedTransport
  | .client => pair.client
  | .server => pair.server

/-- What one side left in the hub and in the data channel, the other side sees. -/
def KcpRtcPumpedTransport.shares (pumped other : KcpRtcPumpedTransport) : KcpRtcPumpedTransport :=
  { pumped with
    signalingClient := { pumped.signalingClient with hub := other.signalingClient.hub }
    dataChannel := { pumped.dataChannel with state := other.dataChannel.state } }

/-- The pair after a call left this side so. -/
def RtcPair.put (pair : RtcPair) (side : Side) (pumped : KcpRtcPumpedTransport) : RtcPair :=
  match side with
  | .client => { client := pumped, server := pair.server.shares pumped }
  | .server => { client := pair.client.shares pumped, server := pumped }

def peerIdOf (config : InMemoryKcpRtcTransportPairConfig) : Side → ClientId
  | .client => config.clientPeerId
  | .server => config.serverPeerId

def transportConfigOf (config : InMemoryKcpRtcTransportPairConfig) (side : Side) :
    KcpRtcTransportConfig where
  role := match side with
    | .client => .client
    | .server => .server
  localPeerId := peerIdOf config side
  peerName := match side with
    | .client => "client".toUTF8.toList
    | .server => "server".toUTF8.toList
  signalingUrl := "memory://signaling".toUTF8.toList
  dataChannelLabel := config.dataChannelLabel
  maxBufferedAmountBytes := config.maxBufferedAmountBytes
  sessionId := config.sessionId

def pumpedTransportOf (config : InMemoryKcpRtcTransportPairConfig) (side : Side) :
    KcpRtcPumpedTransport where
  transport := { config := transportConfigOf config side }
  signalingClient :=
    { config := { peerId := peerIdOf config side, sessionId := config.sessionId } }
  dataChannel :=
    { endpoint := match side with
        | .client => .a
        | .server => .b
      stateValue := .opened }

def createInMemoryKcpRtcTransportPair (config : InMemoryKcpRtcTransportPairConfig) : RtcPair where
  client := pumpedTransportOf config .client
  server := pumpedTransportOf config .server

/-! Calls on the pair. -/

inductive RtcCall where
  | connect (side : Side)
  | update (side : Side)
  | send (side : Side) (envelope : NetworkEnvelope)
  | poll (side : Side)
  deriving DecidableEq

/-- The pair, the envelopes for which `Send` returned true on a side, and those
that `Poll` returned on it. -/
structure RtcRecord where
  pair : RtcPair
  sent : Side → List NetworkEnvelope := fun _ => []
  polled : Side → List NetworkEnvelope := fun _ => []

def appendAt (envelopes : Side → List NetworkEnvelope) (side : Side)
    (added : List NetworkEnvelope) : Side → List NetworkEnvelope :=
  Function.update envelopes side (envelopes side ++ added)

def rtcStep (record : RtcRecord) : RtcCall → RtcRecord
  | .connect side =>
      { record with pair := record.pair.put side (record.pair.side side).connect.2 }
  | .update side =>
      { record with pair := record.pair.put side (record.pair.side side).update }
  | .send side envelope =>
      { record with
        pair := record.pair.put side ((record.pair.side side).send envelope).2
        sent := appendAt record.sent side
          (if ((record.pair.side side).send envelope).1 then [envelope] else []) }
  | .poll side =>
      { record with
        pair := record.pair.put side (record.pair.side side).poll.2
        polled := appendAt record.polled side (record.pair.side side).poll.1.toList }

def rtcRun (config : InMemoryKcpRtcTransportPairConfig) (calls : List RtcCall) : RtcRecord :=
  Runs.run rtcStep { pair := createInMemoryKcpRtcTransportPair config } calls

end Brawololo.RtcPairs
