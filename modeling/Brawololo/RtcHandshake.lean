import Brawololo.RtcPumps
import Brawololo.TransportBooks
import Brawololo.Histories

/-!
The handshake of the pair. A side greets once it has called `Connect`: both
join, and the client makes an offer. The server answers an offer and is ready
in the same update, and the client opens when it reads the answer and the
ready signal. An offer that the hub cannot route is lost, and with it the
handshake.
-/

namespace Brawololo.RtcHandshake

open GameTypes RtcSignaling RtcChannels KcpRtc RtcPairs RtcPumps
open InMemoryRtcSignalingClient InMemoryRtcSignalingHub Histories

/-- Valid configurations of two distinct peers. -/
structure ValidPair (config : InMemoryKcpRtcTransportPairConfig) : Prop where
  client : config.clientPeerId ≠ 0
  server : config.serverPeerId ≠ 0
  distinct : config.clientPeerId ≠ config.serverPeerId
  session : config.sessionId ≠ []
  label : config.dataChannelLabel ≠ []
  buffer : config.maxBufferedAmountBytes ≠ 0

variable (config : InMemoryKcpRtcTransportPairConfig)

/-! The signals. -/

def joinOf (side : Side) : RtcSignalingMessage where
  kind := .join
  senderPeerId := peerIdOf config side
  sequence := 1
  sessionId := config.sessionId
  payload := (transportConfigOf config side).peerName

def offerOf : RtcSignalingMessage where
  kind := .offer
  senderPeerId := config.clientPeerId
  sequence := 2
  sessionId := config.sessionId
  payload := config.dataChannelLabel

def answerOf : RtcSignalingMessage where
  kind := .answer
  senderPeerId := config.serverPeerId
  targetPeerId := config.clientPeerId
  sequence := 2
  sessionId := config.sessionId
  payload := config.dataChannelLabel

def readyOf : RtcSignalingMessage where
  kind := .dataChannelReady
  senderPeerId := config.serverPeerId
  targetPeerId := config.clientPeerId
  sequence := 3
  sessionId := config.sessionId

/-- What a side queues when it connects. -/
def greetings : Side → List RtcSignalingMessage
  | .client => [joinOf config .client, offerOf config]
  | .server => [joinOf config .server]

/-- The signals that the wire carries. -/
def posted (signals : List RtcSignalingMessage) : List RtcSignalingMessage :=
  signals.filter fun signal => decide (Carried signal)

/-- A signal of this side to the other. -/
structure Speaks (side : Side) (signal : RtcSignalingMessage) : Prop where
  sender : signal.senderPeerId = peerIdOf config side
  session : signal.sessionId = config.sessionId
  target : signal.targetPeerId = 0 ∨ signal.targetPeerId = peerIdOf config side.other

theorem join_speaks (side : Side) : Speaks config side (joinOf config side) :=
  ⟨rfl, rfl, Or.inl rfl⟩

theorem server_speaks :
    Speaks config .server (answerOf config) ∧ Speaks config .server (readyOf config) :=
  ⟨⟨rfl, rfl, Or.inr rfl⟩, ⟨rfl, rfl, Or.inr rfl⟩⟩

section Valid

variable {config} (valid : ValidPair config)

include valid

theorem peer_nonzero (side : Side) : peerIdOf config side ≠ 0 := by
  cases side with
  | client => exact valid.client
  | server => exact valid.server

theorem peer_inj (side other : Side) : peerIdOf config side = peerIdOf config other ↔ side = other := by
  cases side <;> cases other <;>
    simp [peerIdOf, valid.distinct, valid.distinct.symm]

theorem join_ok (side : Side) : (joinOf config side).Ok := by
  rw [message_ok_iff]
  refine ⟨peer_nonzero valid side, valid.session, ?_⟩
  cases side with
  | client =>
      change "client".toUTF8.toList.length ≤ kMaxRtcSignalingPayloadBytes
      decide +kernel
  | server =>
      change "server".toUTF8.toList.length ≤ kMaxRtcSignalingPayloadBytes
      decide +kernel

/-- All signals pass the wire when the offer does. -/
theorem carried_of_offer (carried : Carried (offerOf config)) :
    (∀ side, Carried (joinOf config side)) ∧ Carried (answerOf config) ∧
      Carried (readyOf config) := by
  have payload := ((message_ok_iff _).mp carried.ok).2.2
  refine ⟨fun side => ⟨join_ok valid side, carried.session⟩, ⟨?_, carried.session⟩,
    ⟨?_, carried.session⟩⟩
  · rw [message_ok_iff]
    exact ⟨valid.server, valid.session, payload⟩
  · rw [message_ok_iff]
    exact ⟨valid.server, valid.session, Nat.zero_le _⟩

theorem addresses_other {side : Side} {signal : RtcSignalingMessage}
    (speaks : Speaks config side signal) (other : Side) :
    addresses signal (peerIdOf config other) = decide (other ≠ side) := by
  unfold addresses
  by_cases untargeted : signal.targetPeerId = 0
  · rw [if_neg (not_not.mpr untargeted), speaks.sender]
    simp [peer_inj valid]
  · rw [if_pos untargeted, speaks.target.resolve_left untargeted]
    cases side <;> cases other <;> simp [peer_inj valid, Side.other]

end Valid

/-! The hub. -/

inductive Stage where
  | idle
  | called
  | announced
  | connected
  deriving DecidableEq

theorem Stage.early {stage : Stage} (begun : stage ≠ .idle) (unopened : stage ≠ .connected) :
    stage = .called ∨ stage = .announced := by
  cases stage with
  | idle => exact absurd rfl begun
  | called => exact Or.inl rfl
  | announced => exact Or.inr rfl
  | connected => exact absurd rfl unopened

/-- A side that has connected is registered, and these messages wait for it. -/
def HubAt (stages : Side → Stage) (queues : Side → List RtcSignalingMessage)
    (hub : InMemoryRtcSignalingHub) : Prop :=
  ∀ side, hub.peers[peerIdOf config side]? =
    if stages side = .idle then none
    else some { sessionId := config.sessionId,
                incoming := (queues side).map serializeRtcSignalingMessage }

/-- The queues after a side posted these messages. -/
def deliver (side : Side) (messages : List RtcSignalingMessage)
    (queues : Side → List RtcSignalingMessage) : Side → List RtcSignalingMessage :=
  fun other => if other = side then queues other else queues other ++ messages

/-- A client of the hub that speaks for its side. -/
structure ClientAt (side : Side) (client : InMemoryRtcSignalingClient) : Prop where
  identity : client.config = { peerId := peerIdOf config side, sessionId := config.sessionId }
  connected : client.state = .connected

theorem ClientAt.same {config} {side : Side} {before after : InMemoryRtcSignalingClient}
    (clientAt : ClientAt config side before) (same : SamePeer before after) :
    ClientAt config side after :=
  ⟨same.config.trans clientAt.identity, same.state.trans clientAt.connected⟩

section Posting

variable {config} (valid : ValidPair config) {side : Side} {stages : Side → Stage}
  {queues : Side → List RtcSignalingMessage} {client : InMemoryRtcSignalingClient}

include valid

theorem hub_post (clientAt : ClientAt config side client)
    (hubAt : HubAt config stages queues client.hub) (here : stages side ≠ .idle)
    {signal : RtcSignalingMessage} (speaks : Speaks config side signal) :
    HubAt config stages (deliver side (posted [signal]) queues) (post client signal).hub := by
  have sent := client.send_hub clientAt.connected
    (speaks.sender.trans (congrArg RtcSignalingClientConfig.peerId clientAt.identity).symm)
    (speaks.session.trans (congrArg RtcSignalingClientConfig.sessionId clientAt.identity).symm)
  change HubAt config stages _ (client.send signal).2.hub
  rw [sent]
  by_cases carried : Carried signal
  · have isPosted : posted [signal] = [signal] := by simp [posted, carried]
    have registered : client.hub.Registered signal.senderPeerId signal.sessionId := by
      refine ⟨{ sessionId := config.sessionId,
                incoming := (queues side).map serializeRtcSignalingMessage }, ?_,
        speaks.session.symm⟩
      rw [speaks.sender]
      exact (hubAt side).trans (if_neg here)
    rw [isPosted, if_pos carried.ok]
    intro other
    have session : ∀ peer, client.hub.peers[peerIdOf config other]? = some peer →
        peer.sessionId = signal.sessionId := by
      intro peer stored
      rw [hubAt other] at stored
      split_ifs at stored
      cases stored
      exact speaks.session.symm
    rw [route_get client.hub carried registered _ session, addresses_other valid speaks other,
      hubAt other]
    unfold deliver
    by_cases same : other = side
    · simp [same]
    · by_cases absent : stages other = .idle
      · simp [absent]
      · simp [same, absent, PeerQueue.push]
  · have isPosted : posted [signal] = [] := by simp [posted, carried]
    have unchanged : (if signal.Ok then
        (client.hub.route (serializeRtcSignalingMessage signal)).2 else client.hub) =
        client.hub := by
      split_ifs with ok
      · have long : 256 < signal.sessionId.length :=
          Nat.not_le.mp fun short => carried ⟨ok, short⟩
        rw [client.hub.route_uncarried long]
      · rfl
    rw [isPosted, unchanged]
    intro other
    rw [hubAt other]
    simp [deliver]

theorem hub_post_all (signals : List RtcSignalingMessage)
    (speaks : ∀ signal ∈ signals, Speaks config side signal) (here : stages side ≠ .idle)
    (clientAt : ClientAt config side client)
    (hubAt : HubAt config stages queues client.hub) :
    SamePeer client (signals.foldl post client) ∧
      HubAt config stages (deliver side (posted signals) queues) (signals.foldl post client).hub := by
  induction signals generalizing client queues with
  | nil =>
      refine ⟨⟨rfl, rfl⟩, ?_⟩
      intro other
      rw [List.foldl_nil, hubAt other]
      simp [deliver, posted]
  | cons signal rest ih =>
      have one := hub_post valid clientAt hubAt here (speaks signal List.mem_cons_self)
      have same : SamePeer client (post client signal) := client.send_same_peer signal
      obtain ⟨sameRest, all⟩ := ih (fun other member => speaks other (List.mem_cons_of_mem _ member))
        (clientAt.same same) one
      refine ⟨same.trans sameRest, ?_⟩
      intro other
      rw [List.foldl_cons, all other]
      have joined : posted ([signal] ++ rest) = posted [signal] ++ posted rest :=
        List.filter_append [signal] rest
      rw [List.singleton_append] at joined
      unfold deliver
      rw [joined]
      by_cases isSide : other = side
      · simp [isSide]
      · simp [isSide]

end Posting

/-! One side. -/

def stateAt : Stage → TransportState
  | .idle => .disconnected
  | .called | .announced => .connecting
  | .connected => .connected

def phaseAt : Stage → KcpRtcConnectionPhase
  | .idle => .disconnected
  | .called | .announced => .signaling
  | .connected => .connected

def sequenceAt : Side → Stage → UInt32
  | _, .idle => 1
  | .client, _ => 3
  | .server, _ => 2

structure TransportAt (side : Side) (stage : Stage) (transport : KcpRtcTransport) : Prop where
  isConfig : transport.config = transportConfigOf config side
  state : transport.state = stateAt stage
  phase : transport.phase = phaseAt stage
  outgoing : transport.outgoingSignals = if stage = .called then greetings config side else []
  sequence : stage ≠ .connected → transport.nextSignalSequence = sequenceAt side stage
  unready : stage ≠ .connected → transport.localDataChannelReady = false

structure SideAt (side : Side) (stage : Stage) (pumped : KcpRtcPumpedTransport) : Prop where
  transport : TransportAt config side stage pumped.transport
  identity : pumped.signalingClient.config =
    { peerId := peerIdOf config side, sessionId := config.sessionId }
  registered : pumped.signalingClient.state =
    if stage = .idle then .disconnected else .connected
  opened : pumped.dataChannel.stateValue = .opened
  endpoint : pumped.dataChannel.endpoint = (pumpedTransportOf config side).dataChannel.endpoint
  unnotified : stage ≠ .connected → pumped.readyNotified = false

/-- Signals touch neither frames nor envelopes. -/
structure SameData (before after : KcpRtcTransport) : Prop where
  frames : after.outgoingFrames = before.outgoingFrames
  envelopes : after.incomingEnvelopes = before.incomingEnvelopes
  receiveFailures : after.stats.receiveFailures = before.stats.receiveFailures

theorem SameData.refl (transport : KcpRtcTransport) : SameData transport transport :=
  ⟨rfl, rfl, rfl⟩

theorem SameData.trans {first second third : KcpRtcTransport} (left : SameData first second)
    (right : SameData second third) : SameData first third :=
  ⟨right.frames.trans left.frames, right.envelopes.trans left.envelopes,
    right.receiveFailures.trans left.receiveFailures⟩

theorem SameData.of_signals {before after : KcpRtcTransport}
    (only : TransportBooks.OnlySignals before after) : SameData before after where
  frames := only.outgoingFrames
  envelopes := only.incomingEnvelopes
  receiveFailures := by rw [only.stats]

theorem receive_same_data (transport : KcpRtcTransport) (message : RtcSignalingMessage) :
    SameData transport (receive transport message) :=
  .of_signals (TransportBooks.receive_signaling_only transport message)

theorem pump_same_data (pumped : KcpRtcPumpedTransport) :
    SameData pumped.transport pumped.pumpSignaling.transport := by
  obtain ⟨isTransport, _⟩ :=
    send_all_signals { transport := pumped.transport, client := pumped.signalingClient }
  have sent : SameData pumped.transport (SignalingPump.sendAll
      { transport := pumped.transport, client := pumped.signalingClient }).transport := by
    rw [isTransport]
    exact ⟨rfl, rfl, rfl⟩
  exact PollLoops.while_kept (fun (state : SignalingPump) => SameData pumped.transport state.transport)
    (fun _ same => same)
    (fun (state : SignalingPump) signal same =>
      same.trans (receive_same_data state.transport signal)) _ _ sent

theorem notify_same_data (pumped : KcpRtcPumpedTransport) :
    SameData pumped.transport pumped.notifyReadyIfPossible.transport := by
  unfold KcpRtcPumpedTransport.notifyReadyIfPossible
  split_ifs
  · exact SameData.refl _
  · exact .of_signals (TransportBooks.notify_ready_only pumped.transport)

theorem signal_same_data (pumped : KcpRtcPumpedTransport) :
    SameData pumped.transport pumped.signal.transport :=
  ((pump_same_data pumped).trans (notify_same_data pumped.pumpSignaling)).trans
    (pump_same_data pumped.pumpSignaling.notifyReadyIfPossible)

section Receiving

variable {config} (valid : ValidPair config) {side : Side} {transport : KcpRtcTransport}

include valid

/-- A transport applies what the other side says. -/
theorem receive_spoken (isConfig : transport.config = transportConfigOf config side)
    {message : RtcSignalingMessage} (ok : message.Ok)
    (speaks : Speaks config side.other message) :
    receive transport message =
      ({ transport with remotePeerId := message.senderPeerId }.applySignal message).2 := by
  have target : ¬(message.targetPeerId ≠ 0 ∧ message.targetPeerId ≠ peerIdOf config side) := by
    have addressed := speaks.target
    cases side <;> simpa [Side.other, or_iff_not_imp_left] using addressed
  have sender : ¬message.senderPeerId = peerIdOf config side := by
    rw [speaks.sender, peer_inj valid]
    cases side <;> decide
  unfold receive KcpRtcTransport.receiveSignalingMessage
  rw [isConfig]
  simp only [ok, speaks.session, transportConfigOf, target, sender, not_true_eq_false, false_or,
    ne_eq, if_false]

theorem receive_join (placed : TransportAt config side .announced transport) :
    TransportAt config side .announced (receive transport (joinOf config side.other)) := by
  rw [receive_spoken valid placed.isConfig (join_ok valid side.other) (join_speaks config side.other)]
  exact ⟨placed.isConfig, placed.state, placed.phase, placed.outgoing, placed.sequence, placed.unready⟩

/-- Whatever of the join arrives. -/
theorem receive_heard (placed : TransportAt config side .announced transport)
    {heard : List RtcSignalingMessage}
    (isHeard : heard.Sublist (posted [joinOf config side.other])) :
    TransportAt config side .announced (heard.foldl receive transport) := by
  have short := isHeard.trans List.filter_sublist
  rcases List.sublist_singleton.mp short with rfl | rfl
  · exact placed
  · exact receive_join valid placed

/-- The answer and the ready signal, read in one loop, open the client. -/
theorem receive_answered (placed : TransportAt config .client .announced transport)
    (carried : Carried (offerOf config)) :
    TransportAt config .client .connected
      ([answerOf config, readyOf config].foldl receive transport) := by
  obtain ⟨_, answer, ready⟩ := carried_of_offer valid carried
  have answered := receive_spoken valid placed.isConfig answer.ok (server_speaks config).1
  have isClient : transport.config.role = .client := by
    rw [placed.isConfig]
    rfl
  unfold KcpRtcTransport.applySignal at answered
  simp only [answerOf, isClient, ne_eq, not_true_eq_false, if_false] at answered
  have isConfig : (receive transport (answerOf config)).config = transportConfigOf config .client := by
    unfold answerOf
    rw [answered]
    exact placed.isConfig
  have opened := receive_spoken valid isConfig ready.ok (server_speaks config).2
  rw [List.foldl_cons, List.foldl_cons, List.foldl_nil, opened]
  refine ⟨isConfig, rfl, rfl, ?_, fun open_ => absurd rfl open_, fun open_ => absurd rfl open_⟩
  change (receive transport (answerOf config)).outgoingSignals = _
  unfold answerOf
  rw [answered]
  exact placed.outgoing

/-- The offer makes the server answer. -/
theorem receive_offered (placed : TransportAt config .server .announced transport)
    (carried : Carried (offerOf config)) :
    receive transport (offerOf config) = { transport with
      remotePeerId := config.clientPeerId
      phase := .dataChannelConnecting
      state := .connecting
      nextSignalSequence := 3
      outgoingSignals := [answerOf config]
      lastError := .none } := by
  have speaks : Speaks config .client (offerOf config) := ⟨rfl, rfl, Or.inl rfl⟩
  have isServer : transport.config.role = .server := by
    rw [placed.isConfig]
    rfl
  have outgoing : transport.outgoingSignals = [] := placed.outgoing
  have sequence : transport.nextSignalSequence = 2 := placed.sequence (by decide)
  rw [receive_spoken valid placed.isConfig carried.ok speaks]
  unfold KcpRtcTransport.applySignal
  simp only [offerOf, isServer, ne_eq, not_true_eq_false, if_false]
  unfold KcpRtcTransport.queueSignal KcpRtcTransport.accept
  simp only [outgoing, sequence, placed.isConfig, List.nil_append]
  rfl

end Receiving

/-! `Update` until its data-channel pump. -/

section Pumping

variable {config} (valid : ValidPair config) {side : Side} {stages : Side → Stage}
  {queues : Side → List RtcSignalingMessage} {pumped : KcpRtcPumpedTransport}

include valid

theorem pump_signaling (clientAt : ClientAt config side pumped.signalingClient)
    (hubAt : HubAt config stages queues pumped.signalingClient.hub) (here : stages side ≠ .idle)
    (speaks : ∀ signal ∈ pumped.transport.outgoingSignals, Speaks config side signal)
    (carried : ∀ message ∈ queues side, Carried message) :
    pumped.pumpSignaling.transport =
        (queues side).foldl receive { pumped.transport with outgoingSignals := [] } ∧
      SamePeer pumped.signalingClient pumped.pumpSignaling.signalingClient ∧
      HubAt config stages
        (Function.update (deliver side (posted pumped.transport.outgoingSignals) queues) side [])
        pumped.pumpSignaling.signalingClient.hub := by
  obtain ⟨samePosted, hubPosted⟩ :=
    hub_post_all valid pumped.transport.outgoingSignals speaks here clientAt hubAt
  obtain ⟨isTransport, isClient⟩ :=
    send_all_signals { transport := pumped.transport, client := pumped.signalingClient }
  have isPumped : pumped.pumpSignaling.transport = (SignalingPump.receiveAll
      (SignalingPump.sendAll
        { transport := pumped.transport, client := pumped.signalingClient })).transport ∧
      pumped.pumpSignaling.signalingClient = (SignalingPump.receiveAll (SignalingPump.sendAll
        { transport := pumped.transport, client := pumped.signalingClient })).client := ⟨rfl, rfl⟩
  rw [← isClient] at samePosted hubPosted
  rw [isPumped.1, isPumped.2]
  generalize SignalingPump.sendAll
    { transport := pumped.transport, client := pumped.signalingClient } = sent at *
  have sentAt := clientAt.same samePosted
  have own : sent.client.config.peerId = peerIdOf config side :=
    congrArg RtcSignalingClientConfig.peerId sentAt.identity
  have waiting : Waiting sent.client config.sessionId
      (fun other => sent.client.hub.peers[other]?) (queues side) := by
    refine ⟨sentAt.connected, carried, ?_⟩
    intro other
    split_ifs with isOwn
    · rw [← isOwn, own, hubPosted side, if_neg here]
      simp [deliver]
    · rfl
  obtain ⟨received, sameClient, emptied⟩ := receive_all_signals sent waiting
  refine ⟨received.trans (by rw [isTransport]), samePosted.trans sameClient, ?_⟩
  intro other
  rw [emptied.stored, sameClient.config, own]
  simp only [peer_inj valid]
  by_cases isSide : side = other
  · subst isSide
    simp [here]
  · rw [if_neg isSide, hubPosted other, Function.update_of_ne (Ne.symm isSide)]

omit valid in
/-- Before `Connect` the pump does nothing. -/
theorem pump_signaling_idle (idle : pumped.signalingClient.state ≠ .connected)
    (silent : pumped.transport.outgoingSignals = []) : pumped.pumpSignaling = pumped := by
  obtain ⟨isTransport, isClient⟩ :=
    send_all_signals { transport := pumped.transport, client := pumped.signalingClient }
  dsimp only at isTransport isClient
  rw [silent] at isClient
  have same : ({ pumped.transport with outgoingSignals := [] } : KcpRtcTransport) =
      pumped.transport := by rw [← silent]
  have unreceived := receive_all_unconnected (SignalingPump.sendAll
    { transport := pumped.transport, client := pumped.signalingClient }) (by rwa [isClient])
  unfold KcpRtcPumpedTransport.pumpSignaling pumpKcpRtcSignaling
  rw [unreceived]
  dsimp only
  rw [isTransport, isClient, same]
  rfl

/-- What a side has left to send and to read after a pump. -/
def pumpedQueues (side : Side) (signals : List RtcSignalingMessage)
    (queues : Side → List RtcSignalingMessage) : Side → List RtcSignalingMessage :=
  Function.update (deliver side (posted signals) queues) side []

/-- An update that has no data channel to announce. -/
structure Signaled (before after : KcpRtcPumpedTransport) : Prop where
  peer : SamePeer before.signalingClient after.signalingClient
  channel : after.dataChannel = before.dataChannel

theorem signal_unready (clientAt : ClientAt config side pumped.signalingClient)
    (hubAt : HubAt config stages queues pumped.signalingClient.hub) (here : stages side ≠ .idle)
    (speaks : ∀ signal ∈ pumped.transport.outgoingSignals, Speaks config side signal)
    (carried : ∀ message ∈ queues side, Carried message) {first : KcpRtcTransport}
    (isFirst : (queues side).foldl receive { pumped.transport with outgoingSignals := [] } = first)
    (silent : first.outgoingSignals = []) (unready : first.phase ≠ .dataChannelConnecting) :
    pumped.signal.transport = first ∧ Signaled pumped pumped.signal ∧
      pumped.signal.readyNotified = pumped.readyNotified ∧
      HubAt config stages (pumpedQueues side pumped.transport.outgoingSignals queues)
        pumped.signal.signalingClient.hub := by
  obtain ⟨isTransport, same, hub⟩ := pump_signaling valid clientAt hubAt here speaks carried
  rw [isFirst] at isTransport
  have unnotified : pumped.pumpSignaling.notifyReadyIfPossible = pumped.pumpSignaling := by
    unfold KcpRtcPumpedTransport.notifyReadyIfPossible
    rw [if_pos (Or.inr (Or.inl (isTransport ▸ unready)))]
  have isSignal : pumped.signal = pumped.pumpSignaling.pumpSignaling :=
    congrArg KcpRtcPumpedTransport.pumpSignaling unnotified
  obtain ⟨isSecond, sameSecond, hubSecond⟩ := pump_signaling valid (clientAt.same same) hub here
    (by rw [isTransport, silent]; intro signal member; cases member)
    (by rw [Function.update_self]; intro message member; cases member)
  rw [isSignal]
  refine ⟨?_, ⟨same.trans sameSecond, rfl⟩, rfl, ?_⟩
  · rw [isSecond, Function.update_self, List.foldl_nil, isTransport, ← silent]
  · intro other
    rw [hubSecond other, isTransport, silent]
    unfold pumpedQueues
    by_cases isSide : other = side
    · simp [isSide]
    · simp [isSide, deliver, posted]

end Pumping

/-! The handshake. -/

/-- The calls that pump a side. -/
def pumps (side : Side) : RtcCall → Prop
  | .connect _ => False
  | .update other | .send other _ | .poll other => other = side

/-- No call pumps the client after its `Connect` and before the server's. -/
def Listened (calls : List RtcCall) : Prop :=
  EveryEvent (fun earlier call =>
    pumps .client call → .connect .client ∈ earlier → .connect .server ∈ earlier) calls

/-- What may wait for the client of the join of a server in this stage. -/
def joins : Stage → List RtcSignalingMessage
  | .idle | .called => []
  | .announced | .connected => posted [joinOf config .server]

/-- How far the handshake is: the stages of the client and the server, and the
messages that wait for each. `heard` says that no update of the client
announced it before the server was there. -/
inductive Talk (heard : Prop) :
    Stage → Stage → List RtcSignalingMessage → List RtcSignalingMessage → Prop where
  | unannounced {client server : Stage} {toClient : List RtcSignalingMessage} (listened : heard)
      (isClient : client = .idle ∨ client = .called) (isServer : server ≠ .connected)
      (joined : toClient.Sublist (joins config server)) :
      Talk heard client server toClient []
  | lost {server : Stage} {toClient toServer : List RtcSignalingMessage}
      (missed : ¬(heard ∧ Carried (offerOf config))) (isServer : server ≠ .connected)
      (joined : toClient.Sublist (joins config server))
      (announced : toServer.Sublist (posted [joinOf config .client])) :
      Talk heard .announced server toClient toServer
  | offered {server : Stage} {toClient : List RtcSignalingMessage} (listened : heard)
      (carried : Carried (offerOf config)) (isServer : server = .called ∨ server = .announced)
      (joined : toClient.Sublist (joins config server)) :
      Talk heard .announced server toClient [joinOf config .client, offerOf config]
  | answered {toClient : List RtcSignalingMessage} (listened : heard)
      (carried : Carried (offerOf config)) (joined : toClient.Sublist (joins config .connected)) :
      Talk heard .announced .connected (toClient ++ [answerOf config, readyOf config]) []
  | opened (listened : heard) (carried : Carried (offerOf config)) :
      Talk heard .connected .connected [] []

section Posted

variable {config}

theorem posted_carried {signals : List RtcSignalingMessage} {signal : RtcSignalingMessage}
    (member : signal ∈ posted signals) : Carried signal := by
  have kept := (List.mem_filter.mp member).2
  exact of_decide_eq_true kept

theorem sublist_carried {signals heard : List RtcSignalingMessage}
    (isHeard : heard.Sublist (posted signals)) : ∀ message ∈ heard, Carried message :=
  fun _ member => posted_carried (isHeard.subset member)

theorem joins_posted (server : Stage) :
    (joins config server).Sublist (posted [joinOf config .server]) := by
  cases server with
  | idle => exact List.nil_sublist _
  | called => exact List.nil_sublist _
  | announced => exact List.Sublist.refl _
  | connected => exact List.Sublist.refl _

theorem greetings_speak (side : Side) : ∀ signal ∈ greetings config side, Speaks config side signal := by
  intro signal member
  cases side with
  | client =>
      rcases List.mem_cons.mp member with rfl | rest
      · exact join_speaks config .client
      · rw [List.mem_singleton] at rest
        subst rest
        exact ⟨rfl, rfl, Or.inl rfl⟩
  | server =>
      rw [show greetings config .server = [joinOf config .server] from rfl,
        List.mem_singleton] at member
      subst member
      exact join_speaks config .server

theorem outgoing_speak {side : Side} {stage : Stage} {transport : KcpRtcTransport}
    (placed : TransportAt config side stage transport) :
    ∀ signal ∈ transport.outgoingSignals, Speaks config side signal := by
  rw [placed.outgoing]
  split_ifs
  · exact greetings_speak side
  · intro signal member
    cases member

/-- A side that has sent its greetings. -/
theorem TransportAt.silent {side : Side} {stage : Stage} {transport : KcpRtcTransport}
    (placed : TransportAt config side stage transport)
    (early : stage = .called ∨ stage = .announced) :
    TransportAt config side .announced { transport with outgoingSignals := [] } := by
  obtain ⟨isConfig, state, phase, _, sequence, unready⟩ := placed
  rcases early with rfl | rfl
  · refine ⟨isConfig, state, phase, rfl, ?_, fun _ => unready (by decide)⟩
    intro _
    rw [sequence (by decide)]
    cases side <;> rfl
  · exact ⟨isConfig, state, phase, rfl, sequence, unready⟩

/-- A connected side that has sent what was outgoing. -/
theorem TransportAt.unsent {side : Side} {transport : KcpRtcTransport}
    (placed : TransportAt config side .connected transport) :
    TransportAt config side .connected { transport with outgoingSignals := [] } :=
  ⟨placed.isConfig, placed.state, placed.phase, rfl, placed.sequence, placed.unready⟩

theorem SideAt.signaled {side : Side} {stage later : Stage} {before after : KcpRtcPumpedTransport}
    (placed : SideAt config side stage before) (here : stage ≠ .idle) (there : later ≠ .idle)
    (signaled : Signaled before after) (transport : TransportAt config side later after.transport)
    (unnotified : later ≠ .connected → after.readyNotified = false) :
    SideAt config side later after := by
  have registered := placed.registered
  rw [if_neg here] at registered
  refine ⟨transport, signaled.peer.config.trans placed.identity, ?_, ?_, ?_, unnotified⟩
  · rw [if_neg there]
    exact signaled.peer.state.trans registered
  · rw [signaled.channel]
    exact placed.opened
  · rw [signaled.channel]
    exact placed.endpoint

theorem SideAt.clientAt {side : Side} {stage : Stage} {pumped : KcpRtcPumpedTransport}
    (placed : SideAt config side stage pumped) (here : stage ≠ .idle) :
    ClientAt config side pumped.signalingClient :=
  ⟨placed.identity, placed.registered.trans (if_neg here)⟩

theorem HubAt.restage {stages later : Side → Stage} {queues now : Side → List RtcSignalingMessage}
    {hub : InMemoryRtcSignalingHub} (hubAt : HubAt config stages queues hub)
    (idle : ∀ side, later side = .idle ↔ stages side = .idle)
    (waiting : ∀ side, stages side ≠ .idle → now side = queues side) :
    HubAt config later now hub := by
  intro side
  rw [hubAt side]
  by_cases here : stages side = .idle
  · rw [if_pos here, if_pos ((idle side).mpr here)]
  · rw [if_neg here, if_neg (mt (idle side).mp here), waiting side here]

end Posted

/-- What signaling on one side makes of the handshake. -/
structure Talked (heard : Prop) (side : Side) (stages later : Side → Stage)
    (queues : Side → List RtcSignalingMessage) (before after : KcpRtcPumpedTransport) : Prop where
  other : later side.other = stages side.other
  placed : SideAt config side (later side) after
  hubAt : HubAt config later queues after.signalingClient.hub
  talk : Talk config heard (later .client) (later .server) (queues .client) (queues .server)
  signaled : Signaled before after
  stays : stages side = .connected → later side = .connected
  opens : later side.other = .connected → later side = .connected

section Signaling

variable {config} (valid : ValidPair config) {stages : Side → Stage}
  {queues : Side → List RtcSignalingMessage} {pumped : KcpRtcPumpedTransport}

include valid

/-- An update that ends in a stage without a data channel to announce. -/
theorem settles {side : Side} (placed : SideAt config side (stages side) pumped)
    (here : stages side ≠ .idle) (hubAt : HubAt config stages queues pumped.signalingClient.hub)
    (carried : ∀ message ∈ queues side, Carried message) (later : Stage)
    (late : later = .announced ∨ later = .connected)
    (sticky : later ≠ .connected → stages side ≠ .connected)
    (first : TransportAt config side later
      ((queues side).foldl receive { pumped.transport with outgoingSignals := [] }))
    (theirs : List RtcSignalingMessage)
    (isTheirs : stages side.other ≠ .idle →
      theirs = queues side.other ++ posted pumped.transport.outgoingSignals) :
    SideAt config side later pumped.signal ∧ Signaled pumped pumped.signal ∧
      HubAt config (Function.update stages side later)
        (Function.update (Function.update queues side []) side.other theirs)
        pumped.signal.signalingClient.hub := by
  have there : later ≠ .idle := by
    rcases late with rfl | rfl
    · decide
    · decide
  have silent : ((queues side).foldl receive
      { pumped.transport with outgoingSignals := [] }).outgoingSignals = [] := by
    rw [first.outgoing]
    rcases late with rfl | rfl
    · rfl
    · rfl
  have unready : ((queues side).foldl receive
      { pumped.transport with outgoingSignals := [] }).phase ≠ .dataChannelConnecting := by
    rw [first.phase]
    rcases late with rfl | rfl
    · decide
    · decide
  obtain ⟨isTransport, signaled, notified, hub⟩ := signal_unready valid (placed.clientAt here) hubAt
    here (outgoing_speak placed.transport) carried rfl silent unready
  refine ⟨?_, signaled, hub.restage ?_ ?_⟩
  · apply placed.signaled here there signaled
    · rw [isTransport]
      exact first
    · intro unopened
      rw [notified]
      exact placed.unnotified (sticky unopened)
  · intro other
    by_cases same : other = side
    · subst same
      simp [here, there]
    · rw [Function.update_of_ne same]
  · intro other present
    have different : side ≠ side.other := by cases side <;> decide
    unfold pumpedQueues deliver
    by_cases same : other = side
    · subst same
      rw [Function.update_of_ne different, Function.update_self, Function.update_self]
    · have isOther : other = side.other := by
        cases other <;> cases side <;> first | rfl | exact absurd rfl same
      subst isOther
      rw [Function.update_self, Function.update_of_ne same, if_neg same]
      exact isTheirs present

omit valid in
theorem settled_talks {side : Side} {still : Prop} {later : Stage}
    {theirs : List RtcSignalingMessage}
    (settled : SideAt config side later pumped.signal ∧ Signaled pumped pumped.signal ∧
      HubAt config (Function.update stages side later)
        (Function.update (Function.update queues side []) side.other theirs)
        pumped.signal.signalingClient.hub)
    (talk : Talk config still (Function.update stages side later .client)
      (Function.update stages side later .server)
      (Function.update (Function.update queues side []) side.other theirs .client)
      (Function.update (Function.update queues side []) side.other theirs .server))
    (stays : stages side = .connected → later = .connected)
    (opens : stages side.other = .connected → later = .connected) :
    ∃ later now, Talked config still side stages later now pumped pumped.signal := by
  obtain ⟨placed, signaled, hubAt⟩ := settled
  have different : side.other ≠ side := by cases side <;> decide
  refine ⟨Function.update stages side later, _, Function.update_of_ne different _ _, ?_, hubAt,
    talk, signaled, ?_, ?_⟩
  · rw [Function.update_self]
    exact placed
  · rw [Function.update_self]
    exact stays
  · rw [Function.update_self, Function.update_of_ne different]
    exact opens

omit valid in
theorem posted_greeting : posted (greetings config .client) =
    posted [joinOf config .client] ++ posted [offerOf config] :=
  List.filter_append [joinOf config .client] [offerOf config]

theorem posted_offer (carried : Carried (offerOf config)) :
    posted (greetings config .client) = [joinOf config .client, offerOf config] := by
  have join := (carried_of_offer valid carried).1 .client
  simp [posted, greetings, join, carried]

/-- The first update of a client that has connected, which posts its greetings. -/
theorem client_announces {heard still : Prop}
    (placed : SideAt config .client (stages .client) pumped) (called : stages .client = .called)
    (hubAt : HubAt config stages queues pumped.signalingClient.hub) (listened : heard)
    (unopened : stages .server ≠ .connected)
    (joined : (queues .client).Sublist (joins config (stages .server)))
    (unposted : queues .server = []) (isStill : still ↔ heard ∧ stages .server ≠ .idle) :
    ∃ later now, Talked config still .client stages later now pumped pumped.signal := by
  have here : stages .client ≠ .idle := by
    rw [called]
    decide
  have heardJoin := joined.trans (joins_posted (stages .server))
  have transport := placed.transport
  rw [called] at transport
  have outgoing : pumped.transport.outgoingSignals = greetings config .client :=
    transport.outgoing
  have first := receive_heard valid (transport.silent (Or.inl rfl)) heardJoin
  have announce (sent : List RtcSignalingMessage)
      (isSent : stages .server ≠ .idle → sent = posted (greetings config .client)) :=
    settles valid placed here hubAt (sublist_carried heardJoin) .announced (Or.inl rfl)
      (fun _ => by rw [called]; decide) first sent
      (by
        intro present
        change sent = queues .server ++ posted pumped.transport.outgoingSignals
        rw [outgoing, unposted]
        exact isSent present)
  have stays : stages .client = .connected → Stage.announced = .connected := by
    rw [called]
    intro connected
    cases connected
  have opens : stages Side.client.other = .connected → Stage.announced = .connected :=
    fun connected => absurd connected unopened
  by_cases absent : stages .server = .idle
  · -- Nobody is there to hear it.
    have missed : ¬(still ∧ Carried (offerOf config)) :=
      fun both => (isStill.mp both.1).2 absent
    refine settled_talks (announce [] fun present => absurd absent present) ?_ stays opens
    change Talk config still .announced (stages .server) [] []
    exact Talk.lost missed unopened (List.nil_sublist _) (List.nil_sublist _)
  · by_cases carried : Carried (offerOf config)
    · refine settled_talks (announce _ fun _ => (posted_offer valid carried).symm) ?_ stays opens
      change Talk config still .announced (stages .server) []
        [joinOf config .client, offerOf config]
      exact Talk.offered (isStill.mpr ⟨listened, absent⟩) carried (Stage.early absent unopened)
        (List.nil_sublist _)
    · -- The wire does not carry the offer.
      have cut : posted (greetings config .client) = posted [joinOf config .client] := by
        rw [posted_greeting]
        simp [posted, carried]
      refine settled_talks (announce _ fun _ => cut.symm) ?_ stays opens
      change Talk config still .announced (stages .server) [] (posted [joinOf config .client])
      exact Talk.lost (fun both => carried both.2) unopened (List.nil_sublist _)
        (List.Sublist.refl _)

/-- Signaling on a client that has connected. -/
theorem client_signal {heard still : Prop}
    (placed : SideAt config .client (stages .client) pumped) (here : stages .client ≠ .idle)
    (hubAt : HubAt config stages queues pumped.signalingClient.hub)
    (talk : Talk config heard (stages .client) (stages .server) (queues .client) (queues .server))
    (isStill : still ↔ heard ∧ stages .server ≠ .idle) :
    ∃ later now, Talked config still .client stages later now pumped pumped.signal := by
  have settled := settles valid placed here hubAt
  have transport := placed.transport
  have outgoing := placed.transport.outgoing
  generalize isClient : stages .client = client at talk here transport outgoing settled
  generalize isServer : stages .server = server at talk isStill
  generalize isMine : queues .client = mine at talk settled
  generalize isTheirs : queues .server = theirs at talk
  -- The signals that a silent client adds to those of the server.
  have silently (silent : pumped.transport.outgoingSignals = []) :
      stages Side.client.other ≠ .idle →
        theirs = queues Side.client.other ++ posted pumped.transport.outgoingSignals := by
    intro _
    rw [silent, ← isTheirs]
    exact (List.append_nil _).symm
  have unopenedHere {later : Stage} (shut : client ≠ .connected) :
      stages .client = .connected → later = .connected :=
    fun connected => absurd (isClient.symm.trans connected) shut
  have unconnected {later : Stage} (unopened : server ≠ .connected) :
      stages Side.client.other = .connected → later = .connected :=
    fun connected => absurd (isServer.symm.trans connected) unopened
  cases talk with
  | unannounced listened early unopened joined =>
      have called := early.resolve_left here
      subst called
      exact client_announces valid placed isClient hubAt listened (isServer ▸ unopened)
        (isMine ▸ isServer ▸ joined) isTheirs (isServer ▸ isStill)
  | lost missed unopened joined announced =>
      have heardJoin := joined.trans (joins_posted server)
      have first := receive_heard valid (transport.silent (Or.inr rfl)) heardJoin
      refine settled_talks (settled (sublist_carried heardJoin) .announced (Or.inl rfl)
        (fun _ => by decide) first theirs (silently outgoing)) ?_
        (unopenedHere (by decide)) (unconnected unopened)
      change Talk config still .announced (stages .server) [] theirs
      rw [isServer]
      exact Talk.lost (fun both => missed ⟨(isStill.mp both.1).1, both.2⟩) unopened
        (List.nil_sublist _) announced
  | offered listened carried early joined =>
      have heardJoin := joined.trans (joins_posted server)
      have first := receive_heard valid (transport.silent (Or.inr rfl)) heardJoin
      have unopened : server ≠ .connected := by rcases early with rfl | rfl <;> decide
      have present : server ≠ .idle := by rcases early with rfl | rfl <;> decide
      refine settled_talks (settled (sublist_carried heardJoin) .announced (Or.inl rfl)
        (fun _ => by decide) first _ (silently outgoing)) ?_
        (unopenedHere (by decide)) (unconnected unopened)
      change Talk config still .announced (stages .server) []
        [joinOf config .client, offerOf config]
      rw [isServer]
      exact Talk.offered (isStill.mpr ⟨listened, present⟩) carried early (List.nil_sublist _)
  | answered listened carried joined =>
      rename_i toClient
      obtain ⟨_, answer, ready⟩ := carried_of_offer valid carried
      have heard := receive_heard valid (transport.silent (Or.inr rfl)) joined
      have first := receive_answered valid heard carried
      rw [← List.foldl_append] at first
      have allCarried : ∀ message ∈ toClient ++ [answerOf config, readyOf config],
          Carried message := by
        intro message member
        rcases List.mem_append.mp member with isJoin | isAnswer
        · exact sublist_carried joined message isJoin
        · rcases List.mem_cons.mp isAnswer with rfl | rest
          · exact answer
          · exact List.mem_singleton.mp rest ▸ ready
      refine settled_talks (settled allCarried .connected (Or.inr rfl)
        (fun _ => by decide) first _ (silently outgoing)) ?_ (fun _ => rfl) (fun _ => rfl)
      change Talk config still .connected (stages .server) [] []
      rw [isServer]
      exact Talk.opened (isStill.mpr ⟨listened, by decide⟩) carried
  | opened listened carried =>
      refine settled_talks (settled (by intro message member; cases member) .connected (Or.inr rfl)
        (fun unopened => absurd rfl unopened) transport.unsent _ (silently outgoing)) ?_ (fun _ => rfl)
        (fun _ => rfl)
      change Talk config still .connected (stages .server) [] []
      rw [isServer]
      exact Talk.opened (isStill.mpr ⟨listened, by decide⟩) carried

omit valid in
/-- A server that has read the offer becomes ready in the same update. -/
theorem notify_ready {reader : KcpRtcTransport} (heard : TransportAt config .server .announced reader)
    (isTransport : pumped.transport = { reader with
      remotePeerId := config.clientPeerId
      phase := .dataChannelConnecting
      state := .connecting
      nextSignalSequence := 3
      outgoingSignals := [answerOf config]
      lastError := .none })
    (opened : pumped.dataChannel.stateValue = .opened) (unnotified : pumped.readyNotified = false) :
    pumped.notifyReadyIfPossible.transport.outgoingSignals = [answerOf config, readyOf config] ∧
      TransportAt config .server .connected
        { pumped.notifyReadyIfPossible.transport with outgoingSignals := [] } ∧
      pumped.notifyReadyIfPossible.signalingClient = pumped.signalingClient ∧
      pumped.notifyReadyIfPossible.dataChannel = pumped.dataChannel := by
  have unready := heard.unready (by decide)
  have possible : ¬(pumped.readyNotified = true ∨
      pumped.transport.phase ≠ .dataChannelConnecting ∨
      pumped.dataChannel.stateValue ≠ .opened) := by
    rw [unnotified, isTransport, opened]
    simp
  have isConfig := heard.isConfig
  obtain ⟨readerConfig, state, phase, stats, lastError, sequence, remote, signals, frames, envelopes,
    buffered, ready⟩ := reader
  cases isConfig
  cases unready
  unfold KcpRtcPumpedTransport.notifyReadyIfPossible
  rw [if_neg possible]
  dsimp only
  rw [isTransport]
  exact ⟨rfl, ⟨rfl, rfl, rfl, rfl, fun open_ => absurd rfl open_, fun open_ => absurd rfl open_⟩,
    rfl, rfl⟩

/-- Signaling on a server that reads the offer. -/
theorem offer_answered {stage : Stage} (placed : SideAt config .server stage pumped)
    (early : stage = .called ∨ stage = .announced) (here : stages .server ≠ .idle)
    (hubAt : HubAt config stages queues pumped.signalingClient.hub)
    (carried : Carried (offerOf config))
    (isMine : queues .server = [joinOf config .client, offerOf config]) :
    SideAt config .server .connected pumped.signal ∧ Signaled pumped pumped.signal ∧
      HubAt config (Function.update stages .server .connected)
        (Function.update (Function.update queues .server []) Side.server.other
          (queues .client ++ posted pumped.transport.outgoingSignals ++
            [answerOf config, readyOf config]))
        pumped.signal.signalingClient.hub := by
  obtain ⟨joins, answer, ready⟩ := carried_of_offer valid carried
  have staged : stage ≠ .idle ∧ stage ≠ .connected := by
    rcases early with rfl | rfl
    · decide
    · decide
  have clientAt := placed.clientAt staged.1
  obtain ⟨isTransport, same, hub⟩ := pump_signaling valid clientAt hubAt here
    (outgoing_speak placed.transport) (by
      rw [isMine]
      intro message member
      rcases List.mem_cons.mp member with rfl | rest
      · exact joins .client
      · exact List.mem_singleton.mp rest ▸ carried)
  have heard := receive_join valid (placed.transport.silent early)
  have offered := receive_offered valid heard carried
  rw [isMine] at isTransport
  obtain ⟨outgoing, transport, sameClient, sameChannel⟩ := notify_ready heard
    (isTransport.trans offered) placed.opened (placed.unnotified staged.2)
  -- The second pump posts the answer and the ready signal and reads nothing.
  obtain ⟨isSecond, sameSecond, hubSecond⟩ := pump_signaling valid
    (sameClient ▸ clientAt.same same) (sameClient ▸ hub) here
    (by
      rw [outgoing]
      intro signal member
      rcases List.mem_cons.mp member with rfl | rest
      · exact (server_speaks config).1
      · exact List.mem_singleton.mp rest ▸ (server_speaks config).2)
    (by rw [Function.update_self]; intro message member; cases member)
  have signaled : Signaled pumped pumped.signal :=
    ⟨same.trans (sameClient ▸ sameSecond), sameChannel⟩
  refine ⟨?_, signaled, ?_⟩
  · apply placed.signaled staged.1 (by decide) signaled
    · rw [Function.update_self, List.foldl_nil] at isSecond
      change TransportAt config .server .connected pumped.pumpSignaling.notifyReadyIfPossible.pumpSignaling.transport
      rw [isSecond]
      exact transport
    · exact fun unopened => absurd rfl unopened
  · refine HubAt.restage hubSecond ?_ ?_
    · intro other
      cases other with
      | client => exact Iff.rfl
      | server => simp [here]
    · intro other present
      rw [outgoing]
      have both : posted [answerOf config, readyOf config] =
          [answerOf config, readyOf config] := by simp [posted, answer, ready]
      rw [both]
      cases other with
      | client => rfl
      | server => rfl

omit valid in
theorem joins_grow {server : Stage} {toClient outgoing : List RtcSignalingMessage}
    (early : server = .called ∨ server = .announced)
    (joined : toClient.Sublist (joins config server))
    (isOutgoing : outgoing = if server = .called then greetings config .server else []) :
    (toClient ++ posted outgoing).Sublist (joins config .announced) := by
  rcases early with rfl | rfl
  · rw [List.sublist_nil.mp joined, isOutgoing]
    exact List.Sublist.refl _
  · rw [isOutgoing]
    change (toClient ++ []).Sublist _
    rw [List.append_nil]
    exact joined

/-- Signaling on a server that has connected. -/
theorem server_signal {heard : Prop}
    (placed : SideAt config .server (stages .server) pumped) (here : stages .server ≠ .idle)
    (hubAt : HubAt config stages queues pumped.signalingClient.hub)
    (talk : Talk config heard (stages .client) (stages .server) (queues .client) (queues .server)) :
    ∃ later now, Talked config heard .server stages later now pumped pumped.signal := by
  have settled := settles valid placed here hubAt
  have answers (early : stages .server = .called ∨ stages .server = .announced) :=
    offer_answered valid placed early here hubAt
  have transport := placed.transport
  have outgoing := placed.transport.outgoing
  generalize isClient : stages .client = client at talk
  generalize isServer : stages .server = server at talk here transport outgoing settled answers
  generalize isTheirs : queues .client = theirs at talk answers
  generalize isMine : queues .server = mine at talk settled answers
  have pushed : stages Side.server.other ≠ .idle →
      theirs ++ posted pumped.transport.outgoingSignals =
        queues Side.server.other ++ posted pumped.transport.outgoingSignals := by
    intro _
    rw [← isTheirs]
    rfl
  have unopenedHere {later : Stage} (unopened : server ≠ .connected) :
      stages .server = .connected → later = .connected :=
    fun connected => absurd (isServer.symm.trans connected) unopened
  have unconnected {later : Stage} (shut : client ≠ .connected) :
      stages Side.server.other = .connected → later = .connected :=
    fun connected => absurd (isClient.symm.trans connected) shut
  cases talk with
  | unannounced listened isEarly unopened joined =>
      have shut : client ≠ .connected := by rcases isEarly with rfl | rfl <;> decide
      have early := Stage.early here unopened
      refine settled_talks (settled (by intro message member; cases member) .announced (Or.inl rfl)
        (fun _ => unopened) (transport.silent early) _ pushed) ?_ (unopenedHere unopened) (unconnected shut)
      change Talk config heard (stages .client) .announced _ []
      rw [isClient]
      exact Talk.unannounced listened isEarly (by decide) (joins_grow early joined outgoing)
  | lost missed unopened joined announced =>
      have early := Stage.early here unopened
      have first := receive_heard valid (transport.silent early) announced
      refine settled_talks (settled (sublist_carried announced) .announced (Or.inl rfl)
        (fun _ => unopened) first _ pushed) ?_ (unopenedHere unopened) (unconnected (by decide))
      change Talk config heard (stages .client) .announced _ []
      rw [isClient]
      exact Talk.lost missed (by decide) (joins_grow early joined outgoing) (List.nil_sublist _)
  | offered listened carried early joined =>
      refine settled_talks (answers early carried rfl) ?_ (fun _ => rfl) (fun _ => rfl)
      change Talk config heard (stages .client) .connected (_ ++ _) []
      rw [isClient]
      exact Talk.answered listened carried (joins_grow early joined outgoing)
  | answered listened carried joined =>
      refine settled_talks (settled (by intro message member; cases member) .connected (Or.inr rfl)
        (fun unopened => absurd rfl unopened) transport.unsent _ pushed) ?_ (fun _ => rfl) (fun _ => rfl)
      change Talk config heard (stages .client) .connected (_ ++ posted _) []
      have silent : pumped.transport.outgoingSignals = [] := outgoing
      rw [isClient, silent]
      change Talk config heard .announced .connected (_ ++ []) []
      rw [List.append_nil]
      exact Talk.answered listened carried joined
  | opened listened carried =>
      refine settled_talks (settled (by intro message member; cases member) .connected (Or.inr rfl)
        (fun unopened => absurd rfl unopened) transport.unsent _ pushed) ?_ (fun _ => rfl) (fun _ => rfl)
      have silent : pumped.transport.outgoingSignals = [] := outgoing
      change Talk config heard (stages .client) .connected (_ ++ posted _) []
      rw [isClient, silent]
      exact Talk.opened listened carried

omit valid in
/-- Signaling before `Connect` does nothing. -/
theorem idle_signal {side : Side} (placed : SideAt config side .idle pumped) :
    pumped.signal = pumped := by
  have silent : pumped.transport.outgoingSignals = [] := placed.transport.outgoing
  have unconnected : pumped.signalingClient.state ≠ .connected := by
    rw [placed.registered]
    decide
  have unnotified : pumped.notifyReadyIfPossible = pumped := by
    unfold KcpRtcPumpedTransport.notifyReadyIfPossible
    rw [if_pos (Or.inr (Or.inl _))]
    rw [placed.transport.phase]
    decide
  unfold KcpRtcPumpedTransport.signal
  rw [pump_signaling_idle unconnected silent, unnotified, pump_signaling_idle unconnected silent]

/-- Signaling on either side, connected or not. -/
theorem side_signal {heard still : Prop} (side : Side)
    (placed : SideAt config side (stages side) pumped)
    (hubAt : HubAt config stages queues pumped.signalingClient.hub)
    (talk : Talk config heard (stages .client) (stages .server) (queues .client) (queues .server))
    (isStill : still ↔ heard ∧
      (side = .client → stages .client ≠ .idle → stages .server ≠ .idle)) :
    ∃ later now, Talked config still side stages later now pumped pumped.signal := by
  by_cases here : stages side = .idle
  · have same : still = heard := by
      refine propext (isStill.trans (and_iff_left ?_))
      rintro rfl present
      exact absurd here present
    subst same
    refine ⟨stages, queues, ?_⟩
    rw [idle_signal (here ▸ placed)]
    refine ⟨rfl, placed, hubAt, talk, ⟨⟨rfl, rfl⟩, rfl⟩, id, ?_⟩
    intro connected
    generalize queues .client = toClient at talk
    generalize queues .server = toServer at talk
    cases side with
    | client =>
        change stages .server = .connected at connected
        rw [here, connected] at talk
        cases talk with
        | unannounced listened isClient isServer => exact absurd rfl isServer
    | server =>
        change stages .client = .connected at connected
        rw [here, connected] at talk
        cases talk with
        | unannounced listened isClient =>
            rcases isClient with isIdle | isCalled
            · cases isIdle
            · cases isCalled
  · cases side with
    | client =>
        refine client_signal valid placed here hubAt talk (isStill.trans (and_congr_right ?_))
        intro _
        exact ⟨fun present => present rfl here, fun present _ _ => present⟩
    | server =>
        have same : still = heard := by
          refine propext (isStill.trans (and_iff_left ?_))
          intro impossible
          cases impossible
        subst same
        exact server_signal valid placed here hubAt talk

end Signaling

/-! `Connect`. -/

section Connecting

variable {config} (valid : ValidPair config) {stages : Side → Stage}
  {queues : Side → List RtcSignalingMessage} {pumped : KcpRtcPumpedTransport}

include valid

theorem config_valid (side : Side) {transport : KcpRtcTransport}
    (isConfig : transport.config = transportConfigOf config side) :
    transport.hasValidConfig = true := by
  have named : "client".toUTF8.toList ≠ [] ∧ "server".toUTF8.toList ≠ [] ∧
      "memory://signaling".toUTF8.toList ≠ [] := by decide +kernel
  have peer := peer_nonzero valid side
  unfold KcpRtcTransport.hasValidConfig
  rw [isConfig]
  cases side <;>
    simp only [transportConfigOf, valid.label, valid.buffer, valid.session, named.1, named.2.1,
      named.2.2, peer, ne_eq, not_false_eq_true, decide_true, Bool.and_true]

theorem transport_connects {side : Side} {transport : KcpRtcTransport}
    (placed : TransportAt config side .idle transport) :
    transport.connect.1 = true ∧ TransportAt config side .called transport.connect.2 ∧
      SameData transport transport.connect.2 := by
  have isValid := config_valid valid side placed.isConfig
  obtain ⟨isConfig, _, _, outgoing, sequence, unready⟩ := placed
  have first := sequence (by decide)
  have silent : transport.outgoingSignals = [] := outgoing
  have fresh := unready (by decide)
  unfold KcpRtcTransport.connect
  rw [isValid]
  obtain ⟨transportConfig, state, phase, stats, lastError, next, remote, signals, frames, envelopes,
    buffered, ready⟩ := transport
  cases isConfig
  cases first
  cases silent
  cases fresh
  cases side with
  | client => exact ⟨rfl, ⟨rfl, rfl, rfl, rfl, fun _ => rfl, fun _ => rfl⟩, ⟨rfl, rfl, rfl⟩⟩
  | server => exact ⟨rfl, ⟨rfl, rfl, rfl, rfl, fun _ => rfl, fun _ => rfl⟩, ⟨rfl, rfl, rfl⟩⟩

theorem side_connects {side : Side} (placed : SideAt config side .idle pumped)
    (hubAt : HubAt config stages queues pumped.signalingClient.hub) :
    SideAt config side .called pumped.connect.2 ∧
      HubAt config (Function.update stages side .called) (Function.update queues side [])
        pumped.connect.2.signalingClient.hub ∧
      pumped.connect.2.dataChannel = pumped.dataChannel ∧
      SameData pumped.transport pumped.connect.2.transport := by
  obtain ⟨connected, transport, same⟩ := transport_connects valid placed.transport
  have isIdle : pumped.signalingClient.state = .disconnected := placed.registered
  have peer := peer_nonzero valid side
  have isValid : pumped.signalingClient.hasValidConfig = true := by
    unfold InMemoryRtcSignalingClient.hasValidConfig
    rw [placed.identity]
    simp [peer, valid.session]
  have registers : (pumped.signalingClient.hub.registerPeer pumped.signalingClient.config.peerId
      pumped.signalingClient.config.sessionId).1 = true := by
    rw [placed.identity]
    unfold registerPeer
    rw [if_neg (not_or.mpr ⟨peer, valid.session⟩)]
  have signaling : pumped.signalingClient.connect = (true, { pumped.signalingClient with
      hub := (pumped.signalingClient.hub.registerPeer pumped.signalingClient.config.peerId
        pumped.signalingClient.config.sessionId).2
      state := .connected
      lastError := .none }) := by
    unfold InMemoryRtcSignalingClient.connect
    rw [isValid]
    dsimp only
    rw [registers]
    rfl
  have started : (if pumped.signalingClient.state ≠ .connected then
      pumped.signalingClient.connect else (true, pumped.signalingClient)) =
      pumped.signalingClient.connect := if_pos (by rw [isIdle]; decide)
  have whole : pumped.connect = (true, { pumped with
      signalingClient := pumped.signalingClient.connect.2
      transport := pumped.transport.connect.2
      lastError := .none }) := by
    unfold KcpRtcPumpedTransport.connect
    rw [started]
    dsimp only
    rw [congrArg Prod.fst signaling, connected]
    rfl
  rw [whole, signaling]
  refine ⟨⟨transport, placed.identity, rfl, placed.opened, placed.endpoint, fun _ =>
    placed.unnotified (by decide)⟩, ?_, rfl, same⟩
  intro other
  dsimp only
  rw [placed.identity]
  dsimp only
  rw [register_get _ peer valid.session, hubAt other]
  simp only [peer_inj valid]
  by_cases isSide : side = other
  · subst isSide
    simp
  · rw [if_neg isSide, Function.update_of_ne (Ne.symm isSide),
      Function.update_of_ne (Ne.symm isSide)]

omit valid in
theorem connect_talks {heard : Prop} {side : Side} (idle : stages side = .idle)
    (talk : Talk config heard (stages .client) (stages .server) (queues .client) (queues .server)) :
    Talk config heard (Function.update stages side .called .client)
      (Function.update stages side .called .server) (Function.update queues side [] .client)
      (Function.update queues side [] .server) := by
  generalize isClient : queues .client = toClient at talk
  generalize isServer : queues .server = toServer at talk
  cases side with
  | client =>
      change Talk config heard .called (stages .server) [] (queues .server)
      rw [idle] at talk
      cases talk with
      | unannounced listened _ unopened joined =>
          rw [isServer]
          exact Talk.unannounced listened (Or.inr rfl) unopened (List.nil_sublist _)
  | server =>
      change Talk config heard (stages .client) .called (queues .client) []
      rw [idle] at talk
      rw [isClient]
      generalize stages .client = client at talk
      cases talk with
      | unannounced listened early _ joined =>
          exact Talk.unannounced listened early (by decide) joined
      | lost missed _ joined announced =>
          exact Talk.lost missed (by decide) joined (List.nil_sublist _)
      | offered listened carried early joined =>
          rcases early with isIdle | isIdle
          · cases isIdle
          · cases isIdle

end Connecting

end Brawololo.RtcHandshake
