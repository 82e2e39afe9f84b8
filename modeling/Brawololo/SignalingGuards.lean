import Brawololo.TransportBooks

/-!
What a rejected signaling message leaves of an RTC transport. A message that
fails the checks before the switch is rejected without a trace, but an offer or
an answer that does not suit the role has already replaced the remote peer.
-/

namespace Brawololo.SignalingGuards

open GameTypes NetworkProtocol RtcSignaling RtcChannels KcpRtc TransportBooks

/-! Rejections. -/

/-- An offer to a client, or an answer to a server. -/
def unsuited (role : KcpRtcRole) : RtcSignalingMessageKind → Bool
  | .offer => role ≠ .server
  | .answer => role ≠ .client
  | _ => false

/-- Two transports that a caller of their methods cannot tell apart, the last
error aside. -/
structure Untouched (before after : KcpRtcTransport) : Prop where
  state : after.state = before.state
  phase : after.phase = before.phase
  remotePeerId : after.remotePeerId = before.remotePeerId
  outgoingSignals : after.outgoingSignals = before.outgoingSignals
  outgoingFrames : after.outgoingFrames = before.outgoingFrames
  incomingEnvelopes : after.incomingEnvelopes = before.incomingEnvelopes
  stats : after.stats = before.stats
  nextSignalSequence : after.nextSignalSequence = before.nextSignalSequence
  /-- Later calls queue the same signals, the ready signal among them. -/
  laterSignals : ∀ calls, (Runs.run transportStep after calls).outgoingSignals =
    (Runs.run transportStep before calls).outgoingSignals

def RejectedUntouched (transport : KcpRtcTransport) (message : RtcSignalingMessage) : Prop :=
  (transport.receiveSignalingMessage message).1 = false →
    (transport.receiveSignalingMessage message).2.lastError = .protocolRejected →
      Untouched transport (transport.receiveSignalingMessage message).2

/-- The message passes the checks before the switch, is then rejected for its
kind, and comes from another peer than the one the transport talks to. -/
def Misled (transport : KcpRtcTransport) (message : RtcSignalingMessage) : Prop :=
  admits transport message = true ∧ unsuited transport.config.role message.kind = true ∧
    message.senderPeerId ≠ transport.remotePeerId

instance (transport : KcpRtcTransport) (message : RtcSignalingMessage) :
    Decidable (Misled transport message) :=
  inferInstanceAs (Decidable (_ ∧ _ ∧ _))

/-! No call reads the last error. -/

def putError (error : TransportError) (transport : KcpRtcTransport) : KcpRtcTransport :=
  { transport with lastError := error }

theorem step_put_error (transport : KcpRtcTransport) (error : TransportError)
    (call : TransportCall) :
    putError .none (transportStep (putError error transport) call) =
      putError .none (transportStep transport call) := by
  obtain ⟨config, state, phase, stats, lastError, sequence, remote, signals, frames, envelopes,
    buffered, ready⟩ := transport
  cases call with
  | connect => rfl
  | update => rfl
  | close => rfl
  | send envelope =>
      unfold transportStep KcpRtcTransport.send putError
      by_cases ok : envelope.Ok
      · by_cases connected : state = .connected
        · by_cases full : buffered + (TransportPacketCodec.encodeTransportPacket envelope).length >
              config.maxBufferedAmountBytes <;>
            simp [ok, connected, full, KcpRtcTransport.failSend]
        · simp [ok, connected, KcpRtcTransport.failSend]
      · simp [ok, KcpRtcTransport.failSend]
  | poll => cases envelopes <;> rfl
  | notifyDataChannelReady =>
      cases state <;> cases ready <;> rfl
  | pollOutgoingSignal => cases signals <;> rfl
  | receiveSignalingMessage message =>
      unfold transportStep
      dsimp only
      rw [receive_signaling_eq, receive_signaling_eq]
      -- The checks before the switch do not read the last error either.
      generalize isTransport : KcpRtcTransport.mk config state phase stats lastError sequence remote
        signals frames envelopes buffered ready = transport
      have same : admits (putError error transport) message = admits transport message := rfl
      rw [same]
      cases admits transport message with
      | false => rfl
      | true =>
          subst isTransport
          obtain ⟨role, localPeer, name, url, label, maxBytes, session⟩ := config
          unfold KcpRtcTransport.applySignal
          cases message.kind <;> cases role <;> rfl
  | pollOutgoingFrame => cases frames <;> rfl
  | receiveFrame bytes =>
      unfold transportStep KcpRtcTransport.receiveFrame putError
      cases (TransportPacketCodec.decodeTransportPacket bytes).envelope <;> cases state <;> rfl

theorem step_put_errors (one two : KcpRtcTransport) (call : TransportCall)
    (same : putError .none one = putError .none two) :
    putError .none (transportStep one call) = putError .none (transportStep two call) :=
  calc putError .none (transportStep one call)
      = putError .none (transportStep (putError .none one) call) :=
        (step_put_error one .none call).symm
    _ = putError .none (transportStep (putError .none two) call) := by rw [same]
    _ = putError .none (transportStep two call) := step_put_error two .none call

theorem untouched_put_error (transport : KcpRtcTransport) (error : TransportError) :
    Untouched transport (putError error transport) := by
  refine ⟨rfl, rfl, rfl, rfl, rfl, rfl, rfl, rfl, fun calls => ?_⟩
  have starts : putError .none (putError error transport) = putError .none transport := rfl
  have same := Runs.run_respects transportStep
    (fun one two => putError .none one = putError .none two) step_put_errors starts calls
  exact congrArg (fun later => later.outgoingSignals) same

/-- What a rejection leaves: the last error, and the sender as the remote peer
where the kind decided it. -/
theorem rejected_cases (transport : KcpRtcTransport) (message : RtcSignalingMessage)
    (rejected : (transport.receiveSignalingMessage message).2.lastError = .protocolRejected) :
    admits transport message = false ∧ (transport.receiveSignalingMessage message).2 =
        putError .protocolRejected transport ∨
      (admits transport message = true ∧ unsuited transport.config.role message.kind = true) ∧
        (transport.receiveSignalingMessage message).2 =
          putError .protocolRejected { transport with remotePeerId := message.senderPeerId } := by
  rw [receive_signaling_eq] at rejected ⊢
  cases admitted : admits transport message with
  | false => exact Or.inl ⟨rfl, rfl⟩
  | true =>
      rw [admitted, if_pos rfl] at rejected
      rw [if_pos rfl]
      right
      unfold KcpRtcTransport.applySignal at rejected ⊢
      cases kind : message.kind with
      | offer =>
          cases role : transport.config.role with
          | client => exact ⟨⟨rfl, rfl⟩, by simp; rfl⟩
          | server => simp [kind, role, KcpRtcTransport.accept] at rejected
      | answer =>
          cases role : transport.config.role with
          | client => simp [kind, role, KcpRtcTransport.accept] at rejected
          | server => exact ⟨⟨rfl, rfl⟩, by simp; rfl⟩
      | join | iceCandidate | dataChannelReady | leave | error =>
          rw [kind] at rejected
          cases rejected

/-- A rejection leaves no trace exactly when it does not change the peer the
transport talks to. -/
theorem rejected_untouched_iff (config : KcpRtcTransportConfig) (calls : List TransportCall)
    (message : RtcSignalingMessage) :
    RejectedUntouched (transportRun config calls) message ↔
      ¬Misled (transportRun config calls) message := by
  generalize transportRun config calls = transport
  constructor
  · rintro untouched ⟨admitted, unsuits, other⟩
    have received : transport.receiveSignalingMessage message =
        (false, putError .protocolRejected
          { transport with remotePeerId := message.senderPeerId }) := by
      rw [receive_signaling_eq, if_pos admitted]
      unfold KcpRtcTransport.applySignal
      cases kind : message.kind with
      | offer =>
          rw [kind] at unsuits
          exact if_pos (of_decide_eq_true unsuits)
      | answer =>
          rw [kind] at unsuits
          exact if_pos (of_decide_eq_true unsuits)
      | join | iceCandidate | dataChannelReady | leave | error =>
          rw [kind] at unsuits
          cases unsuits
    have kept := (untouched (by rw [received]) (by rw [received]; rfl)).remotePeerId
    rw [received] at kept
    exact other kept
  · intro notMisled _ rejected
    rcases rejected_cases transport message rejected with ⟨_, same⟩ | ⟨⟨admitted, unsuits⟩, same⟩
    · rw [same]
      exact untouched_put_error transport _
    · have known : message.senderPeerId = transport.remotePeerId := by
        by_contra other
        exact notMisled ⟨admitted, unsuits, other⟩
      rw [same, known]
      exact untouched_put_error transport _

/-- A client of a session with the peers 1, 2 and 3. -/
def guardedClient : KcpRtcTransportConfig :=
  { role := .client, localPeerId := 1, peerName := [99], signalingUrl := [109] }

def answerOfServer : RtcSignalingMessage :=
  { kind := .answer, senderPeerId := 2, targetPeerId := 1, sequence := 1,
    sessionId := guardedClient.sessionId }

def broadcastOffer : RtcSignalingMessage :=
  { kind := .offer, senderPeerId := 3, sequence := 1, sessionId := guardedClient.sessionId }

/-- After the answer of peer 2, the offer that peer 3 broadcasts to the servers
is rejected, and the ready signal goes to peer 3. -/
theorem rejected_offer_redirects :
    ¬∀ (config : KcpRtcTransportConfig) (calls : List TransportCall)
      (message : RtcSignalingMessage), RejectedUntouched (transportRun config calls) message := by
  intro all
  have untouched := all guardedClient
    [.connect, .receiveSignalingMessage answerOfServer] broadcastOffer
  have later := (untouched (by decide +kernel) (by decide +kernel)).laterSignals
    [.pollOutgoingSignal, .pollOutgoingSignal, .notifyDataChannelReady]
  exact absurd later (by decide +kernel)

end Brawololo.SignalingGuards
