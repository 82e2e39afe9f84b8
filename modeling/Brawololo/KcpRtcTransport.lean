import Brawololo.RtcChannels
import Brawololo.TransportPacketCodec
import Brawololo.PollLoops

/-!
The RTC transport of one peer and the pumps that connect it: its signals go
through a signaling client, its frames through a data channel.
-/

namespace Brawololo.KcpRtc

open GameTypes NetworkProtocol TransportPacketCodec RtcSignaling RtcChannels PollLoops

inductive TransportState where
  | disconnected
  | connecting
  | connected
  | closing
  | failed
  deriving DecidableEq

inductive TransportError where
  | none
  | notConnected
  | protocolRejected
  | notImplemented
  | invalidConfiguration
  | peerClosed
  deriving DecidableEq

/-- What no transport of this module counts is left out. -/
structure TransportStats where
  envelopesSent : Nat := 0
  envelopesReceived : Nat := 0
  sendFailures : Nat := 0
  receiveFailures : Nat := 0
  bytesSent : Nat := 0
  bytesReceived : Nat := 0
  deriving DecidableEq

inductive KcpRtcRole where
  | client
  | server
  deriving DecidableEq

structure KcpRtcTransportConfig where
  role : KcpRtcRole := .client
  localPeerId : ClientId := 0
  peerName : List UInt8 := []
  signalingUrl : List UInt8 := []
  dataChannelLabel : List UInt8 := "game".toUTF8.toList
  maxBufferedAmountBytes : Nat := 1024 * 1024
  sessionId : List UInt8 := "default".toUTF8.toList
  deriving DecidableEq

inductive KcpRtcConnectionPhase where
  | disconnected
  | signaling
  | dataChannelConnecting
  | connected
  | failed
  deriving DecidableEq

structure KcpRtcTransport where
  config : KcpRtcTransportConfig := {}
  state : TransportState := .disconnected
  phase : KcpRtcConnectionPhase := .disconnected
  stats : TransportStats := {}
  lastError : TransportError := .none
  nextSignalSequence : UInt32 := 1
  remotePeerId : ClientId := 0
  outgoingSignals : List RtcSignalingMessage := []
  outgoingFrames : List Frame := []
  incomingEnvelopes : List NetworkEnvelope := []
  bufferedOutgoingFrameBytes : Nat := 0
  localDataChannelReady : Bool := false

namespace KcpRtcTransport

def hasValidConfig (transport : KcpRtcTransport) : Bool :=
  transport.config.localPeerId ≠ 0 && transport.config.peerName ≠ [] &&
    transport.config.signalingUrl ≠ [] && transport.config.dataChannelLabel ≠ [] &&
    transport.config.maxBufferedAmountBytes ≠ 0 && transport.config.sessionId ≠ []

def queueSignal (transport : KcpRtcTransport) (kind : RtcSignalingMessageKind)
    (targetPeerId : ClientId) (payload : List UInt8) : KcpRtcTransport :=
  { transport with
    nextSignalSequence := transport.nextSignalSequence + 1
    outgoingSignals := transport.outgoingSignals ++
      [{ kind, senderPeerId := transport.config.localPeerId, targetPeerId,
         sequence := transport.nextSignalSequence, sessionId := transport.config.sessionId,
         payload }] }

def transitionToConnected (transport : KcpRtcTransport) : KcpRtcTransport :=
  { transport with state := .connected, phase := .connected }

def connect (transport : KcpRtcTransport) : Bool × KcpRtcTransport :=
  if !transport.hasValidConfig then
    (false, { transport with
      state := .failed, phase := .failed, lastError := .invalidConfiguration })
  else
    let started := { transport with
      state := .connecting, phase := .signaling, lastError := .none }
    let joined := started.queueSignal .join 0 transport.config.peerName
    if transport.config.role = .client then
      (true, joined.queueSignal .offer 0 transport.config.dataChannelLabel)
    else (true, joined)

/-- The counters and the sequence of the signals go on. -/
def close (transport : KcpRtcTransport) : KcpRtcTransport :=
  { transport with
    state := .disconnected, phase := .disconnected, lastError := .none
    outgoingSignals := [], outgoingFrames := [], incomingEnvelopes := []
    bufferedOutgoingFrameBytes := 0, remotePeerId := 0, localDataChannelReady := false }

def failSend (transport : KcpRtcTransport) (error : TransportError) : KcpRtcTransport :=
  { transport with
    stats := { transport.stats with sendFailures := transport.stats.sendFailures + 1 }
    lastError := error }

def send (transport : KcpRtcTransport) (envelope : NetworkEnvelope) : Bool × KcpRtcTransport :=
  if ¬envelope.Ok then (false, transport.failSend .protocolRejected)
  else if transport.state ≠ .connected then (false, transport.failSend .notConnected)
  else
    let frame := encodeTransportPacket envelope
    if transport.bufferedOutgoingFrameBytes + frame.length >
        transport.config.maxBufferedAmountBytes then
      (false, transport.failSend .protocolRejected)
    else
      (true, { transport with
        stats := { transport.stats with
          bytesSent := transport.stats.bytesSent + frame.length
          envelopesSent := transport.stats.envelopesSent + 1 }
        bufferedOutgoingFrameBytes := transport.bufferedOutgoingFrameBytes + frame.length
        outgoingFrames := transport.outgoingFrames ++ [frame]
        lastError := .none })

def poll (transport : KcpRtcTransport) : Option NetworkEnvelope × KcpRtcTransport :=
  match transport.incomingEnvelopes with
  | [] => (none, transport)
  | envelope :: rest =>
      (some envelope, { transport with
        incomingEnvelopes := rest
        stats := { transport.stats with
          envelopesReceived := transport.stats.envelopesReceived + 1
          bytesReceived := transport.stats.bytesReceived + envelope.payload.length }
        lastError := .none })

def notifyDataChannelReady (transport : KcpRtcTransport) : Bool × KcpRtcTransport :=
  if transport.state = .disconnected ∨ transport.state = .failed then
    (false, { transport with lastError := .notConnected })
  else
    let announced :=
      if transport.localDataChannelReady then transport
      else { transport.queueSignal .dataChannelReady transport.remotePeerId [] with
        localDataChannelReady := true }
    (true, { announced.transitionToConnected with lastError := .none })

def pollOutgoingSignal (transport : KcpRtcTransport) :
    Option RtcSignalingMessage × KcpRtcTransport :=
  match transport.outgoingSignals with
  | [] => (none, transport)
  | signal :: rest => (some signal, { transport with outgoingSignals := rest })

def reject (transport : KcpRtcTransport) (error : TransportError) : Bool × KcpRtcTransport :=
  (false, { transport with lastError := error })

def accept (transport : KcpRtcTransport) : Bool × KcpRtcTransport :=
  (true, { transport with lastError := .none })

/-- The switch of `ReceiveSignalingMessage`. -/
def applySignal (transport : KcpRtcTransport) (message : RtcSignalingMessage) :
    Bool × KcpRtcTransport :=
  match message.kind with
  | .offer =>
      if transport.config.role ≠ .server then transport.reject .protocolRejected
      else
        ({ transport with phase := .dataChannelConnecting, state := .connecting }.queueSignal
          .answer message.senderPeerId transport.config.dataChannelLabel).accept
  | .answer =>
      if transport.config.role ≠ .client then transport.reject .protocolRejected
      else { transport with phase := .dataChannelConnecting, state := .connecting }.accept
  | .dataChannelReady => transport.transitionToConnected.accept
  | .leave => { transport with state := .disconnected, phase := .disconnected }.accept
  | .error => { transport with state := .failed, phase := .failed }.reject .peerClosed
  | .join | .iceCandidate => transport.accept

def receiveSignalingMessage (transport : KcpRtcTransport) (message : RtcSignalingMessage) :
    Bool × KcpRtcTransport :=
  if ¬message.Ok ∨ message.sessionId ≠ transport.config.sessionId ∨
      message.targetPeerId ≠ 0 ∧ message.targetPeerId ≠ transport.config.localPeerId then
    transport.reject .protocolRejected
  else if message.senderPeerId = transport.config.localPeerId then
    transport.reject .protocolRejected
  else
    { transport with remotePeerId := message.senderPeerId }.applySignal message

def pollOutgoingFrame (transport : KcpRtcTransport) : Option Frame × KcpRtcTransport :=
  match transport.outgoingFrames with
  | [] => (none, transport)
  | frame :: rest =>
      (some frame, { transport with
        outgoingFrames := rest
        bufferedOutgoingFrameBytes := transport.bufferedOutgoingFrameBytes - frame.length })

def failReceive (transport : KcpRtcTransport) (error : TransportError) : KcpRtcTransport :=
  { transport with
    stats := { transport.stats with receiveFailures := transport.stats.receiveFailures + 1 }
    lastError := error }

def receiveFrame (transport : KcpRtcTransport) (bytes : Frame) : Bool × KcpRtcTransport :=
  if transport.state ≠ .connected then (false, transport.failReceive .notConnected)
  else
    match (decodeTransportPacket bytes).envelope with
    | none => (false, transport.failReceive .protocolRejected)
    | some envelope =>
        (true, { transport with
          incomingEnvelopes := transport.incomingEnvelopes ++ [envelope]
          lastError := .none })

end KcpRtcTransport

/-! The signaling pump. -/

structure KcpRtcSignalingPumpResult where
  outgoingSignalsSent : Nat := 0
  incomingSignalsApplied : Nat := 0
  failures : Nat := 0
  deriving DecidableEq

structure SignalingPump where
  transport : KcpRtcTransport
  client : InMemoryRtcSignalingClient
  result : KcpRtcSignalingPumpResult := {}

namespace SignalingPump

def pollOutgoing (pump : SignalingPump) : Option RtcSignalingMessage × SignalingPump :=
  (pump.transport.pollOutgoingSignal.1,
    { pump with transport := pump.transport.pollOutgoingSignal.2 })

def sendSignal (pump : SignalingPump) (signal : RtcSignalingMessage) : SignalingPump :=
  { pump with
    client := (pump.client.send signal).2
    result :=
      if (pump.client.send signal).1 then
        { pump.result with outgoingSignalsSent := pump.result.outgoingSignalsSent + 1 }
      else { pump.result with failures := pump.result.failures + 1 } }

def pollIncoming (pump : SignalingPump) : Option RtcSignalingMessage × SignalingPump :=
  (pump.client.poll.1, { pump with client := pump.client.poll.2 })

def applySignal (pump : SignalingPump) (signal : RtcSignalingMessage) : SignalingPump :=
  { pump with
    transport := (pump.transport.receiveSignalingMessage signal).2
    result :=
      if (pump.transport.receiveSignalingMessage signal).1 then
        { pump.result with incomingSignalsApplied := pump.result.incomingSignalsApplied + 1 }
      else { pump.result with failures := pump.result.failures + 1 } }

def sendAll (pump : SignalingPump) : SignalingPump :=
  whileSome pollOutgoing sendSignal (pump.transport.outgoingSignals.length + 1) pump

def receiveAll (pump : SignalingPump) : SignalingPump :=
  whileSome pollIncoming applySignal
    (pump.client.hub.queued pump.client.config.peerId + 1) pump

end SignalingPump

def pumpKcpRtcSignaling (transport : KcpRtcTransport) (signalingClient : InMemoryRtcSignalingClient) :
    SignalingPump :=
  SignalingPump.receiveAll (SignalingPump.sendAll { transport, client := signalingClient })

/-! The data-channel pump. -/

structure KcpRtcDataChannelPumpResult where
  outgoingFramesSent : Nat := 0
  incomingFramesApplied : Nat := 0
  failures : Nat := 0
  deriving DecidableEq

structure DataChannelPump where
  transport : KcpRtcTransport
  channel : InMemoryRtcDataChannel
  result : KcpRtcDataChannelPumpResult := {}

namespace DataChannelPump

def pollOutgoing (pump : DataChannelPump) : Option Frame × DataChannelPump :=
  (pump.transport.pollOutgoingFrame.1,
    { pump with transport := pump.transport.pollOutgoingFrame.2 })

def sendFrame (pump : DataChannelPump) (frame : Frame) : DataChannelPump :=
  { pump with
    channel := (pump.channel.sendFrame frame).2
    result :=
      if (pump.channel.sendFrame frame).1 then
        { pump.result with outgoingFramesSent := pump.result.outgoingFramesSent + 1 }
      else { pump.result with failures := pump.result.failures + 1 } }

def pollIncoming (pump : DataChannelPump) : Option Frame × DataChannelPump :=
  (pump.channel.pollFrame.1, { pump with channel := pump.channel.pollFrame.2 })

def applyFrame (pump : DataChannelPump) (frame : Frame) : DataChannelPump :=
  { pump with
    transport := (pump.transport.receiveFrame frame).2
    result :=
      if (pump.transport.receiveFrame frame).1 then
        { pump.result with incomingFramesApplied := pump.result.incomingFramesApplied + 1 }
      else { pump.result with failures := pump.result.failures + 1 } }

def sendAll (pump : DataChannelPump) : DataChannelPump :=
  whileSome pollOutgoing sendFrame (pump.transport.outgoingFrames.length + 1) pump

def receiveAll (pump : DataChannelPump) : DataChannelPump :=
  whileSome pollIncoming applyFrame (pump.channel.incomingQueue.length + 1) pump

end DataChannelPump

def pumpKcpRtcDataChannel (transport : KcpRtcTransport) (dataChannel : InMemoryRtcDataChannel) :
    DataChannelPump :=
  DataChannelPump.receiveAll (DataChannelPump.sendAll { transport, channel := dataChannel })

end Brawololo.KcpRtc
