import Brawololo.KcpRtcPumpedTransport

/-!
What the two pumps do, in terms of queues. The signaling pump posts every
queued signal that the wire carries and applies every message that waits; the
data-channel pump moves every queued frame and receives every frame that waits.
-/

namespace Brawololo.RtcPumps

open GameTypes NetworkProtocol TransportPacketCodec RtcSignaling RtcChannels KcpRtc PollLoops
open InMemoryRtcSignalingClient

/-! Signals. -/

def receive (transport : KcpRtcTransport) (message : RtcSignalingMessage) : KcpRtcTransport :=
  (transport.receiveSignalingMessage message).2

def post (client : InMemoryRtcSignalingClient) (message : RtcSignalingMessage) :
    InMemoryRtcSignalingClient :=
  (client.send message).2

theorem send_all_signals (pump : SignalingPump) :
    pump.sendAll.transport = { pump.transport with outgoingSignals := [] } ∧
      pump.sendAll.client = pump.transport.outgoingSignals.foldl post pump.client := by
  unfold SignalingPump.sendAll
  refine while_items (fun items (state : SignalingPump) =>
    state.transport = { pump.transport with outgoingSignals := items } ∧
      items.foldl post state.client = pump.transport.outgoingSignals.foldl post pump.client)
    ?_ ?_ pump.transport.outgoingSignals _ pump (Nat.lt_succ_self _) ⟨rfl, rfl⟩
  · rintro signal rest state ⟨isTransport, posted⟩
    refine ⟨{ state with transport := { pump.transport with outgoingSignals := rest } }, ?_,
      rfl, posted⟩
    unfold SignalingPump.pollOutgoing
    rw [isTransport]
    rfl
  · rintro state ⟨isTransport, posted⟩
    refine ⟨state, ?_, isTransport, posted⟩
    unfold SignalingPump.pollOutgoing
    obtain ⟨transport, client, result⟩ := state
    cases isTransport
    rfl

/-- The messages wait for the peer in the hub, which is as given for the others. -/
structure Waiting (client : InMemoryRtcSignalingClient) (sessionId : List UInt8)
    (others : ClientId → Option PeerQueue) (messages : List RtcSignalingMessage) : Prop where
  connected : client.state = .connected
  carried : ∀ message ∈ messages, Carried message
  stored : ∀ other, client.hub.peers[other]? =
    if client.config.peerId = other then
      some { sessionId, incoming := messages.map serializeRtcSignalingMessage }
    else others other

theorem waiting_poll {client : InMemoryRtcSignalingClient} {sessionId : List UInt8}
    {others : ClientId → Option PeerQueue} {message : RtcSignalingMessage}
    {rest : List RtcSignalingMessage}
    (waiting : Waiting client sessionId others (message :: rest)) :
    client.poll.1 = some message ∧ Waiting client.poll.2 sessionId others rest := by
  have stored := (waiting.stored client.config.peerId).trans (if_pos rfl)
  obtain ⟨found, hub⟩ := client.poll_carried (waiting.carried message List.mem_cons_self)
    waiting.connected stored List.map_cons
  have same := client.poll_same_peer
  refine ⟨found, same.state.trans waiting.connected, ?_, ?_⟩
  · exact fun other member => waiting.carried other (List.mem_cons_of_mem _ member)
  · intro other
    rw [hub, same.config, EntityStore.get_insert, waiting.stored other]
    split_ifs
    · rfl
    · rfl

theorem waiting_queued {client : InMemoryRtcSignalingClient} {sessionId : List UInt8}
    {others : ClientId → Option PeerQueue} {messages : List RtcSignalingMessage}
    (waiting : Waiting client sessionId others messages) :
    client.hub.queued client.config.peerId = messages.length := by
  unfold InMemoryRtcSignalingHub.queued
  rw [waiting.stored, if_pos rfl]
  simp

theorem receive_all_signals (pump : SignalingPump) {sessionId : List UInt8}
    {others : ClientId → Option PeerQueue} {messages : List RtcSignalingMessage}
    (waiting : Waiting pump.client sessionId others messages) :
    pump.receiveAll.transport = messages.foldl receive pump.transport ∧
      SamePeer pump.client pump.receiveAll.client ∧
      Waiting pump.receiveAll.client sessionId others [] := by
  unfold SignalingPump.receiveAll
  rw [waiting_queued waiting]
  refine while_items (fun items (state : SignalingPump) =>
    items.foldl receive state.transport = messages.foldl receive pump.transport ∧
      SamePeer pump.client state.client ∧ Waiting state.client sessionId others items)
    ?_ ?_ messages _ pump (Nat.lt_succ_self _) ⟨rfl, ⟨rfl, rfl⟩, waiting⟩
  · rintro signal rest state ⟨received, same, still⟩
    obtain ⟨found, later⟩ := waiting_poll still
    refine ⟨{ state with client := state.client.poll.2 }, ?_, received,
      same.trans state.client.poll_same_peer, later⟩
    unfold SignalingPump.pollIncoming
    rw [found]
  · rintro state ⟨received, same, still⟩
    refine ⟨state, ?_, received, same, still⟩
    have idle := state.client.poll_idle (Or.inr (waiting_queued still))
    unfold SignalingPump.pollIncoming
    rw [idle]

/-- A client that is not connected receives nothing. -/
theorem receive_all_unconnected (pump : SignalingPump)
    (unconnected : pump.client.state ≠ .connected) : pump.receiveAll = pump := by
  have idle := pump.client.poll_idle (Or.inl unconnected)
  have polled : pump.pollIncoming = (none, pump) := by
    unfold SignalingPump.pollIncoming
    rw [idle]
  unfold SignalingPump.receiveAll
  exact while_none polled

/-- Whatever waits, the receiving loop ends by a poll that finds nothing. -/
theorem receive_all_ended (pump : SignalingPump) :
    ∃ last : SignalingPump, last.pollIncoming = (none, pump.receiveAll) := by
  refine while_ended (fun state => state.client.hub.queued state.client.config.peerId)
    ?_ _ pump (Nat.lt_succ_self _)
  intro state message after polled
  have found : state.client.poll.1 = some message := congrArg Prod.fst polled
  have isAfter : after.client = state.client.poll.2 :=
    (congrArg (fun result => result.2.client) polled).symm
  have config : after.client.config = state.client.config :=
    (congrArg InMemoryRtcSignalingClient.config isAfter).trans state.client.poll_same_peer.config
  change after.client.hub.queued after.client.config.peerId < _
  rw [config, isAfter]
  exact state.client.poll_shrinks found

/-! Frames. -/

/-- The endpoint after frames moved: it is the same end of the same channel. -/
structure SameEnd (before after : InMemoryRtcDataChannel) : Prop where
  endpoint : after.endpoint = before.endpoint
  stateValue : after.stateValue = before.stateValue
  sendFailures : after.stats.sendFailures = before.stats.sendFailures

theorem SameEnd.refl (channel : InMemoryRtcDataChannel) : SameEnd channel channel :=
  ⟨rfl, rfl, rfl⟩

theorem SameEnd.trans {first second third : InMemoryRtcDataChannel}
    (left : SameEnd first second) (right : SameEnd second third) : SameEnd first third :=
  ⟨right.endpoint.trans left.endpoint, right.stateValue.trans left.stateValue,
    right.sendFailures.trans left.sendFailures⟩

theorem send_frame_opened (channel : InMemoryRtcDataChannel) {frame : Frame}
    (opened : channel.stateValue = .opened) (nonempty : frame ≠ []) :
    SameEnd channel (channel.sendFrame frame).2 ∧
      (channel.sendFrame frame).2.outgoingQueue = channel.outgoingQueue ++ [frame] ∧
      (channel.sendFrame frame).2.incomingQueue = channel.incomingQueue := by
  unfold InMemoryRtcDataChannel.sendFrame
  rw [if_neg (not_not.mpr opened), if_neg nonempty]
  obtain ⟨state, endpoint, stateValue, stats, lastError⟩ := channel
  cases endpoint with
  | a => exact ⟨⟨rfl, rfl, rfl⟩, rfl, rfl⟩
  | b => exact ⟨⟨rfl, rfl, rfl⟩, rfl, rfl⟩

theorem poll_frame_empty (channel : InMemoryRtcDataChannel) (empty : channel.incomingQueue = []) :
    channel.pollFrame = (none, channel) := by
  unfold InMemoryRtcDataChannel.pollFrame
  rw [empty]
  split_ifs
  · rfl
  · rfl

theorem poll_frame_opened (channel : InMemoryRtcDataChannel) {frame : Frame} {rest : List Frame}
    (opened : channel.stateValue = .opened) (first : channel.incomingQueue = frame :: rest) :
    channel.pollFrame.1 = some frame ∧ SameEnd channel channel.pollFrame.2 ∧
      channel.pollFrame.2.outgoingQueue = channel.outgoingQueue ∧
      channel.pollFrame.2.incomingQueue = rest := by
  unfold InMemoryRtcDataChannel.pollFrame
  rw [if_neg (not_not.mpr opened), first]
  obtain ⟨state, endpoint, stateValue, stats, lastError⟩ := channel
  cases endpoint with
  | a => exact ⟨rfl, ⟨rfl, rfl, rfl⟩, rfl, rfl⟩
  | b => exact ⟨rfl, ⟨rfl, rfl, rfl⟩, rfl, rfl⟩

/-- What a transport is besides its frames, its envelopes and what it counts. -/
structure SameSignals (before after : KcpRtcTransport) : Prop where
  config : after.config = before.config
  state : after.state = before.state
  phase : after.phase = before.phase
  nextSignalSequence : after.nextSignalSequence = before.nextSignalSequence
  outgoingSignals : after.outgoingSignals = before.outgoingSignals
  localDataChannelReady : after.localDataChannelReady = before.localDataChannelReady

theorem SameSignals.refl (transport : KcpRtcTransport) : SameSignals transport transport :=
  ⟨rfl, rfl, rfl, rfl, rfl, rfl⟩

theorem SameSignals.trans {first second third : KcpRtcTransport}
    (left : SameSignals first second) (right : SameSignals second third) :
    SameSignals first third :=
  ⟨right.config.trans left.config, right.state.trans left.state, right.phase.trans left.phase,
    right.nextSignalSequence.trans left.nextSignalSequence,
    right.outgoingSignals.trans left.outgoingSignals,
    right.localDataChannelReady.trans left.localDataChannelReady⟩

/-- The sending loop moves every queued frame into the channel. -/
structure FramesSent (before after : DataChannelPump) : Prop where
  signals : SameSignals before.transport after.transport
  sameEnd : SameEnd before.channel after.channel
  frames : after.transport.outgoingFrames = []
  moved : after.channel.outgoingQueue =
    before.channel.outgoingQueue ++ before.transport.outgoingFrames
  incoming : after.channel.incomingQueue = before.channel.incomingQueue
  envelopes : after.transport.incomingEnvelopes = before.transport.incomingEnvelopes
  receiveFailures : after.transport.stats.receiveFailures = before.transport.stats.receiveFailures

/-- While these frames are still to be sent. -/
structure Sending (pump : DataChannelPump) (items : List Frame) (state : DataChannelPump) :
    Prop where
  signals : SameSignals pump.transport state.transport
  sameEnd : SameEnd pump.channel state.channel
  frames : state.transport.outgoingFrames = items
  nonempty : ∀ frame ∈ items, frame ≠ []
  moved : state.channel.outgoingQueue ++ items =
    pump.channel.outgoingQueue ++ pump.transport.outgoingFrames
  incoming : state.channel.incomingQueue = pump.channel.incomingQueue
  envelopes : state.transport.incomingEnvelopes = pump.transport.incomingEnvelopes
  receiveFailures : state.transport.stats.receiveFailures = pump.transport.stats.receiveFailures

theorem send_all_frames (pump : DataChannelPump) (opened : pump.channel.stateValue = .opened)
    (nonempty : ∀ frame ∈ pump.transport.outgoingFrames, frame ≠ []) :
    FramesSent pump pump.sendAll := by
  have sent : Sending pump [] pump.sendAll := by
    refine while_items (Sending pump) ?_ ?_ pump.transport.outgoingFrames _ pump
      (Nat.lt_succ_self _) ⟨SameSignals.refl _, SameEnd.refl _, rfl, nonempty, rfl, rfl, rfl, rfl⟩
    · intro frame rest state sending
      have polled : state.pollOutgoing = (some frame, { state with
          transport := { state.transport with
            outgoingFrames := rest
            bufferedOutgoingFrameBytes :=
              state.transport.bufferedOutgoingFrameBytes - frame.length } }) := by
        unfold DataChannelPump.pollOutgoing KcpRtcTransport.pollOutgoingFrame
        rw [sending.frames]
      obtain ⟨stillEnd, pushed, kept⟩ := send_frame_opened state.channel
        (sending.sameEnd.stateValue.trans opened) (sending.nonempty frame List.mem_cons_self)
      refine ⟨_, polled, sending.signals.trans ⟨rfl, rfl, rfl, rfl, rfl, rfl⟩,
        sending.sameEnd.trans stillEnd, rfl,
        fun other member => sending.nonempty other (List.mem_cons_of_mem _ member), ?_,
        kept.trans sending.incoming, sending.envelopes, sending.receiveFailures⟩
      change (state.channel.sendFrame frame).2.outgoingQueue ++ rest = _
      rw [pushed, List.append_assoc, ← sending.moved]
      rfl
    · intro state sending
      refine ⟨state, ?_, sending⟩
      unfold DataChannelPump.pollOutgoing KcpRtcTransport.pollOutgoingFrame
      rw [sending.frames]
  exact ⟨sent.signals, sent.sameEnd, sent.frames, (List.append_nil _).symm.trans sent.moved,
    sent.incoming, sent.envelopes, sent.receiveFailures⟩

/-- The receiving loop decodes every frame of the channel. -/
structure FramesReceived (envelopes : List NetworkEnvelope) (before after : DataChannelPump) :
    Prop where
  signals : SameSignals before.transport after.transport
  sameEnd : SameEnd before.channel after.channel
  frames : after.transport.outgoingFrames = before.transport.outgoingFrames
  emptied : after.channel.incomingQueue = []
  outgoing : after.channel.outgoingQueue = before.channel.outgoingQueue
  received : after.transport.incomingEnvelopes = before.transport.incomingEnvelopes ++ envelopes
  receiveFailures : after.transport.stats.receiveFailures = before.transport.stats.receiveFailures

theorem receive_frame_connected (transport : KcpRtcTransport) {envelope : NetworkEnvelope}
    (connected : transport.state = .connected) (ok : envelope.Ok) :
    (transport.receiveFrame (encodeTransportPacket envelope)).2 = { transport with
      incomingEnvelopes := transport.incomingEnvelopes ++ [envelope]
      lastError := .none } := by
  unfold KcpRtcTransport.receiveFrame
  rw [if_neg (not_not.mpr connected), decode_complete envelope ok]

/-- While the frames of these envelopes are still to be received. -/
structure Receiving (pump : DataChannelPump) (envelopes rest : List NetworkEnvelope)
    (state : DataChannelPump) : Prop where
  valid : ∀ envelope ∈ rest, envelope.Ok
  connected : rest ≠ [] → state.transport.state = .connected
  signals : SameSignals pump.transport state.transport
  sameEnd : SameEnd pump.channel state.channel
  frames : state.transport.outgoingFrames = pump.transport.outgoingFrames
  incoming : state.channel.incomingQueue = rest.map encodeTransportPacket
  outgoing : state.channel.outgoingQueue = pump.channel.outgoingQueue
  received : state.transport.incomingEnvelopes ++ rest =
    pump.transport.incomingEnvelopes ++ envelopes
  receiveFailures : state.transport.stats.receiveFailures = pump.transport.stats.receiveFailures

/-- A connected transport receives every frame; one that is not connected must
have none to receive. -/
theorem receive_all_frames (pump : DataChannelPump) (opened : pump.channel.stateValue = .opened)
    (envelopes : List NetworkEnvelope) (valid : ∀ envelope ∈ envelopes, envelope.Ok)
    (waiting : pump.channel.incomingQueue = envelopes.map encodeTransportPacket)
    (connected : envelopes ≠ [] → pump.transport.state = .connected) :
    FramesReceived envelopes pump pump.receiveAll := by
  have enough : (envelopes.map encodeTransportPacket).length <
      pump.channel.incomingQueue.length + 1 := by
    rw [waiting]
    exact Nat.lt_succ_self _
  have ended : ∃ rest, [] = rest.map encodeTransportPacket ∧
      Receiving pump envelopes rest pump.receiveAll := by
    -- Every frame received moves one envelope from the queue to the transport's own.
    refine while_items (fun items state => ∃ rest, items = rest.map encodeTransportPacket ∧
      Receiving pump envelopes rest state) ?_ ?_ (envelopes.map encodeTransportPacket) _ pump enough
      ⟨envelopes, rfl, valid, connected, SameSignals.refl _, SameEnd.refl _, rfl, waiting, rfl,
        rfl, rfl⟩
    · rintro frame others state ⟨rest, isRest, receiving⟩
      cases rest with
      | nil => cases isRest
      | cons envelope later =>
          cases isRest
          obtain ⟨polled, stillEnd, kept, remaining⟩ := poll_frame_opened state.channel
            (receiving.sameEnd.stateValue.trans opened) receiving.incoming
          have found := receiving.connected (List.cons_ne_nil _ _)
          have taken := receive_frame_connected state.transport found
            (receiving.valid envelope List.mem_cons_self)
          refine ⟨{ state with channel := state.channel.pollFrame.2 }, ?_, later, rfl,
            fun other member => receiving.valid other (List.mem_cons_of_mem _ member), ?_, ?_,
            receiving.sameEnd.trans stillEnd, ?_, remaining, kept.trans receiving.outgoing, ?_, ?_⟩
          · unfold DataChannelPump.pollIncoming
            rw [polled]
          · intro _
            change (state.transport.receiveFrame _).2.state = _
            rw [taken]
            exact found
          · change SameSignals _ (state.transport.receiveFrame _).2
            rw [taken]
            exact receiving.signals.trans ⟨rfl, rfl, rfl, rfl, rfl, rfl⟩
          · change (state.transport.receiveFrame _).2.outgoingFrames = _
            rw [taken]
            exact receiving.frames
          · change (state.transport.receiveFrame _).2.incomingEnvelopes ++ later = _
            rw [taken, List.append_assoc]
            exact receiving.received
          · change (state.transport.receiveFrame _).2.stats.receiveFailures = _
            rw [taken]
            exact receiving.receiveFailures
    · rintro state ⟨rest, isRest, receiving⟩
      refine ⟨state, ?_, rest, isRest, receiving⟩
      unfold DataChannelPump.pollIncoming
      rw [poll_frame_empty state.channel (receiving.incoming.trans isRest.symm)]
  obtain ⟨rest, none, received⟩ := ended
  cases List.map_eq_nil_iff.mp none.symm
  exact ⟨received.signals, received.sameEnd, received.frames, received.incoming,
    received.outgoing, (List.append_nil _).symm.trans received.received, received.receiveFailures⟩

end Brawololo.RtcPumps
