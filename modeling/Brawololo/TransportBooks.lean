import Brawololo.KcpRtcTransport
import Brawololo.Runs

/-!
The books of one RTC transport under its public calls, in any order and with
any arguments: the counter of the buffered bytes against the queued frames, the
envelopes that came in, and the state against the phase.
-/

namespace Brawololo.TransportBooks

open GameTypes NetworkProtocol TransportPacketCodec RtcSignaling RtcChannels KcpRtc

/-! Calls. -/

inductive TransportCall where
  | connect
  | update
  | close
  | send (envelope : NetworkEnvelope)
  | poll
  | notifyDataChannelReady
  | pollOutgoingSignal
  | receiveSignalingMessage (message : RtcSignalingMessage)
  | pollOutgoingFrame
  | receiveFrame (bytes : Frame)
  deriving DecidableEq

/-- `Update` of this transport does nothing. -/
def transportStep (transport : KcpRtcTransport) : TransportCall → KcpRtcTransport
  | .connect => transport.connect.2
  | .update => transport
  | .close => transport.close
  | .send envelope => (transport.send envelope).2
  | .poll => transport.poll.2
  | .notifyDataChannelReady => transport.notifyDataChannelReady.2
  | .pollOutgoingSignal => transport.pollOutgoingSignal.2
  | .receiveSignalingMessage message => (transport.receiveSignalingMessage message).2
  | .pollOutgoingFrame => transport.pollOutgoingFrame.2
  | .receiveFrame bytes => (transport.receiveFrame bytes).2

def transportRun (config : KcpRtcTransportConfig) (calls : List TransportCall) : KcpRtcTransport :=
  Runs.run transportStep { config } calls

/-! What each call can do to the state and to the queues. -/

section Calls

variable (transport : KcpRtcTransport)

/-- The checks before the switch of `ReceiveSignalingMessage`. -/
def admits (message : RtcSignalingMessage) : Bool :=
  message.Ok && message.sessionId = transport.config.sessionId &&
    (message.targetPeerId = 0 || message.targetPeerId = transport.config.localPeerId) &&
    message.senderPeerId ≠ transport.config.localPeerId

theorem receive_signaling_eq (message : RtcSignalingMessage) :
    transport.receiveSignalingMessage message =
      if admits transport message then
        { transport with remotePeerId := message.senderPeerId }.applySignal message
      else transport.reject .protocolRejected := by
  unfold KcpRtcTransport.receiveSignalingMessage admits
  by_cases ok : message.Ok
  · by_cases session : message.sessionId = transport.config.sessionId
    · by_cases everyone : message.targetPeerId = 0
      · by_cases own : message.senderPeerId = transport.config.localPeerId <;>
          simp [ok, session, everyone, own]
      · by_cases addressed : message.targetPeerId = transport.config.localPeerId
        · by_cases own : message.senderPeerId = transport.config.localPeerId <;>
            simp [ok, session, addressed, own]
        · simp [ok, session, everyone, addressed]
    · simp [session]
  · simp [ok]

/-- The state and the phase that an admitted message sets, when it sets them. -/
def connectionAfter (role : KcpRtcRole) :
    RtcSignalingMessageKind → Option (TransportState × KcpRtcConnectionPhase)
  | .offer => if role = .server then some (.connecting, .dataChannelConnecting) else none
  | .answer => if role = .client then some (.connecting, .dataChannelConnecting) else none
  | .dataChannelReady => some (.connected, .connected)
  | .leave => some (.disconnected, .disconnected)
  | .error => some (.failed, .failed)
  | .join | .iceCandidate => none

theorem apply_signal_connection (message : RtcSignalingMessage) :
    ((transport.applySignal message).2.state, (transport.applySignal message).2.phase) =
      (connectionAfter transport.config.role message.kind).getD
        (transport.state, transport.phase) := by
  unfold KcpRtcTransport.applySignal connectionAfter
  cases message.kind with
  | offer => cases transport.config.role <;> rfl
  | answer => cases transport.config.role <;> rfl
  | join | iceCandidate | dataChannelReady | leave | error => rfl

/-- Signals touch neither frames nor envelopes nor the counters. -/
structure OnlySignals (before after : KcpRtcTransport) : Prop where
  config : after.config = before.config
  stats : after.stats = before.stats
  outgoingFrames : after.outgoingFrames = before.outgoingFrames
  incomingEnvelopes : after.incomingEnvelopes = before.incomingEnvelopes
  buffered : after.bufferedOutgoingFrameBytes = before.bufferedOutgoingFrameBytes

theorem apply_signal_only (message : RtcSignalingMessage) :
    OnlySignals transport (transport.applySignal message).2 := by
  unfold KcpRtcTransport.applySignal
  cases message.kind with
  | offer => dsimp only; split <;> constructor <;> rfl
  | answer => dsimp only; split <;> constructor <;> rfl
  | join | iceCandidate | dataChannelReady | leave | error => constructor <;> rfl

theorem receive_signaling_only (message : RtcSignalingMessage) :
    OnlySignals transport (transport.receiveSignalingMessage message).2 := by
  rw [receive_signaling_eq]
  split
  · have applied :=
      apply_signal_only { transport with remotePeerId := message.senderPeerId } message
    exact ⟨applied.config, applied.stats, applied.outgoingFrames, applied.incomingEnvelopes,
      applied.buffered⟩
  · constructor <;> rfl

theorem receive_signaling_connection (message : RtcSignalingMessage) :
    ((transport.receiveSignalingMessage message).2.state,
        (transport.receiveSignalingMessage message).2.phase) =
      if admits transport message then
        (connectionAfter transport.config.role message.kind).getD
          (transport.state, transport.phase)
      else (transport.state, transport.phase) := by
  rw [receive_signaling_eq]
  split
  · exact apply_signal_connection { transport with remotePeerId := message.senderPeerId } message
  · rfl

theorem notify_ready_only : OnlySignals transport transport.notifyDataChannelReady.2 := by
  unfold KcpRtcTransport.notifyDataChannelReady
  split
  · constructor <;> rfl
  · dsimp only
    split <;> constructor <;> rfl

theorem connect_only : OnlySignals transport transport.connect.2 := by
  unfold KcpRtcTransport.connect
  split
  · constructor <;> rfl
  · dsimp only
    split <;> constructor <;> rfl

end Calls

/-! The books. -/

def Agree : TransportState → KcpRtcConnectionPhase → Prop
  | .disconnected, .disconnected => True
  | .connecting, .signaling => True
  | .connecting, .dataChannelConnecting => True
  | .connected, .connected => True
  | .failed, .failed => True
  | _, _ => False

def frameBytes (frames : List Frame) : Nat := (frames.map List.length).sum

structure Balanced (transport : KcpRtcTransport) : Prop where
  buffered : transport.bufferedOutgoingFrameBytes = frameBytes transport.outgoingFrames
  bounded : transport.bufferedOutgoingFrameBytes ≤ transport.config.maxBufferedAmountBytes
  incoming : ∀ envelope ∈ transport.incomingEnvelopes, envelope.Ok
  agree : Agree transport.state transport.phase

theorem OnlySignals.balanced {before after : KcpRtcTransport} (only : OnlySignals before after)
    (balanced : Balanced before) (agree : Agree after.state after.phase) : Balanced after := by
  obtain ⟨config, _, frames, envelopes, buffered⟩ := only
  refine ⟨?_, ?_, ?_, agree⟩
  · rw [buffered, frames]
    exact balanced.buffered
  · rw [buffered, config]
    exact balanced.bounded
  · rw [envelopes]
    exact balanced.incoming

theorem connection_after_agrees (role : KcpRtcRole) (kind : RtcSignalingMessageKind)
    (connection : TransportState × KcpRtcConnectionPhase)
    (sets : connectionAfter role kind = some connection) : Agree connection.1 connection.2 := by
  cases kind <;> cases role <;> cases sets <;> trivial

theorem receive_signaling_balanced (transport : KcpRtcTransport) (message : RtcSignalingMessage)
    (balanced : Balanced transport) :
    Balanced (transport.receiveSignalingMessage message).2 := by
  apply (receive_signaling_only transport message).balanced balanced
  have connection := receive_signaling_connection transport message
  have agree : Agree transport.state transport.phase := balanced.agree
  generalize (transport.receiveSignalingMessage message).2 = after at connection ⊢
  by_cases admitted : admits transport message
  · rw [if_pos admitted] at connection
    cases sets : connectionAfter transport.config.role message.kind with
    | none =>
        rw [sets] at connection
        obtain ⟨state, phase⟩ := Prod.mk.inj connection
        rw [state, phase]
        exact agree
    | some set =>
        have agrees := connection_after_agrees _ _ _ sets
        rw [sets, Option.getD_some] at connection
        rw [← connection] at agrees
        exact agrees
  · rw [if_neg admitted] at connection
    obtain ⟨state, phase⟩ := Prod.mk.inj connection
    rw [state, phase]
    exact agree

theorem connect_balanced (transport : KcpRtcTransport) (balanced : Balanced transport) :
    Balanced transport.connect.2 := by
  apply (connect_only transport).balanced balanced
  unfold KcpRtcTransport.connect
  split
  · trivial
  · dsimp only
    split <;> trivial

theorem notify_ready_balanced (transport : KcpRtcTransport) (balanced : Balanced transport) :
    Balanced transport.notifyDataChannelReady.2 := by
  apply (notify_ready_only transport).balanced balanced
  unfold KcpRtcTransport.notifyDataChannelReady
  split
  · exact balanced.agree
  · trivial

/-- A frame is queued only where the counter has room for it. -/
theorem send_balanced (transport : KcpRtcTransport) (envelope : NetworkEnvelope)
    (balanced : Balanced transport) : Balanced (transport.send envelope).2 := by
  obtain ⟨buffered, bounded, incoming, agree⟩ := balanced
  unfold KcpRtcTransport.send
  split
  · exact ⟨buffered, bounded, incoming, agree⟩
  · split
    · exact ⟨buffered, bounded, incoming, agree⟩
    · dsimp only
      split
      · exact ⟨buffered, bounded, incoming, agree⟩
      · next room =>
          refine ⟨?_, Nat.not_lt.mp room, incoming, agree⟩
          simp [frameBytes, buffered]

/-- The subtraction stays above zero: the first frame is part of the sum. -/
theorem first_frame_counted (transport : KcpRtcTransport) (balanced : Balanced transport)
    {frame : Frame} {rest : List Frame} (queued : transport.outgoingFrames = frame :: rest) :
    transport.bufferedOutgoingFrameBytes = frame.length + frameBytes rest := by
  rw [balanced.buffered, queued]
  simp [frameBytes]

theorem poll_frame_balanced (transport : KcpRtcTransport) (balanced : Balanced transport) :
    Balanced transport.pollOutgoingFrame.2 := by
  unfold KcpRtcTransport.pollOutgoingFrame
  split
  · exact balanced
  · next frame rest queued =>
      have counted := first_frame_counted transport balanced queued
      refine ⟨?_, (Nat.sub_le _ _).trans balanced.bounded, balanced.incoming, balanced.agree⟩
      dsimp only
      omega

/-- The decoder lets only valid envelopes through. -/
theorem receive_frame_balanced (transport : KcpRtcTransport) (bytes : Frame)
    (balanced : Balanced transport) : Balanced (transport.receiveFrame bytes).2 := by
  obtain ⟨buffered, bounded, incoming, agree⟩ := balanced
  unfold KcpRtcTransport.receiveFrame
  split
  · exact ⟨buffered, bounded, incoming, agree⟩
  · split
    · exact ⟨buffered, bounded, incoming, agree⟩
    · next envelope decoded =>
        refine ⟨buffered, bounded, ?_, agree⟩
        intro queued member
        rcases List.mem_append.mp member with old | new
        · exact incoming queued old
        · rw [List.mem_singleton.mp new]
          obtain ⟨exact_, either⟩ := packet_codec_exact bytes
          have ok : (decodeTransportPacket bytes).Ok := by
            rcases either with ok | ⟨missing, _⟩
            · exact ok
            · rw [missing] at decoded
              cases decoded
          exact ((exact_ envelope).mp ⟨ok, decoded⟩).1

theorem poll_balanced (transport : KcpRtcTransport) (balanced : Balanced transport) :
    Balanced transport.poll.2 := by
  obtain ⟨buffered, bounded, incoming, agree⟩ := balanced
  unfold KcpRtcTransport.poll
  split
  · exact ⟨buffered, bounded, incoming, agree⟩
  · next envelope rest queued =>
      refine ⟨buffered, bounded, ?_, agree⟩
      intro later member
      exact incoming later (queued ▸ List.mem_cons_of_mem envelope member)

theorem transport_step_balanced (transport : KcpRtcTransport) (call : TransportCall)
    (balanced : Balanced transport) : Balanced (transportStep transport call) := by
  cases call with
  | connect => exact connect_balanced transport balanced
  | update => exact balanced
  | close => exact ⟨rfl, Nat.zero_le _, by simp [transportStep, KcpRtcTransport.close], trivial⟩
  | send envelope => exact send_balanced transport envelope balanced
  | poll => exact poll_balanced transport balanced
  | notifyDataChannelReady => exact notify_ready_balanced transport balanced
  | pollOutgoingSignal =>
      obtain ⟨buffered, bounded, incoming, agree⟩ := balanced
      unfold transportStep KcpRtcTransport.pollOutgoingSignal
      dsimp only
      split <;> exact ⟨buffered, bounded, incoming, agree⟩
  | receiveSignalingMessage message => exact receive_signaling_balanced transport message balanced
  | pollOutgoingFrame => exact poll_frame_balanced transport balanced
  | receiveFrame bytes => exact receive_frame_balanced transport bytes balanced

theorem transport_run_balanced (config : KcpRtcTransportConfig) (calls : List TransportCall) :
    Balanced (transportRun config calls) := by
  apply Runs.run_invariant transportStep Balanced transport_step_balanced
  exact ⟨rfl, Nat.zero_le _, by simp, trivial⟩

/-- In every state the calls reach the counter is the size of the queued frames
and within its limit, no poll of a frame subtracts more than it holds, every
queued envelope is valid, and the state agrees with the phase. -/
theorem transport_books_straight (config : KcpRtcTransportConfig) (calls : List TransportCall) :
    Balanced (transportRun config calls) ∧
    ∀ frame rest, (transportRun config calls).outgoingFrames = frame :: rest →
      frame.length ≤ (transportRun config calls).bufferedOutgoingFrameBytes := by
  have balanced := transport_run_balanced config calls
  refine ⟨balanced, ?_⟩
  intro frame rest queued
  rw [first_frame_counted _ balanced queued]
  exact Nat.le_add_right _ _

end Brawololo.TransportBooks
