import Brawololo.RtcHandshake

/-!
Delivery between the two sides. What one side sent is what the other polled,
followed by the envelopes it has queued and the frames still in the channel:
after the signals of an update a side is open whenever the other is, so that it
never meets a frame it has to refuse.
-/

namespace Brawololo.RtcDelivery

open GameTypes NetworkProtocol TransportPacketCodec RtcSignaling RtcChannels KcpRtc RtcPairs
open RtcPumps RtcHandshake

/-! The statement. -/

/-- `Connect` is called at most once on each side. -/
def ConnectsOnce (calls : List RtcCall) : Prop := ∀ side, calls.count (.connect side) ≤ 1

/-- What the other side sent arrives on this one: polled, then queued, then
still on the way, with nothing lost, changed, reordered or refused. -/
structure Delivers (record : RtcRecord) (side : Side) : Prop where
  ordered : record.polled side <+: record.sent side.other
  complete : ∃ travelling,
    record.sent side.other = record.polled side ++
      (record.pair.side side).transport.incomingEnvelopes ++ travelling ∧
    (record.pair.side side).dataChannel.incomingQueue ++
      (record.pair.side side.other).transport.outgoingFrames =
        travelling.map encodeTransportPacket
  unrefused : (record.pair.side side).transport.stats.receiveFailures = 0 ∧
    (record.pair.side side).dataChannel.stats.sendFailures = 0

/-! What a call moves. -/

/-- A side after its signals were pumped (`before`) and the rest of the call
(`after`): these envelopes arrived, these were sent and these polled. -/
structure Moved (arrived sentNow polledNow : List NetworkEnvelope)
    (before after : KcpRtcPumpedTransport) : Prop where
  signals : SameSignals before.transport after.transport
  client : after.signalingClient = before.signalingClient
  notified : after.readyNotified = before.readyNotified
  sameEnd : SameEnd before.dataChannel after.dataChannel
  frames : after.transport.outgoingFrames = []
  emptied : after.dataChannel.incomingQueue = []
  pushed : after.dataChannel.outgoingQueue =
    before.dataChannel.outgoingQueue ++ sentNow.map encodeTransportPacket
  received : polledNow ++ after.transport.incomingEnvelopes =
    before.transport.incomingEnvelopes ++ arrived
  receiveFailures : after.transport.stats.receiveFailures =
    before.transport.stats.receiveFailures
  open_ : sentNow ≠ [] → before.transport.state = .connected
  valid : ∀ envelope ∈ sentNow, envelope.Ok

theorem Moved.trans {first second third : KcpRtcPumpedTransport}
    {arrived arrived' sentNow sentNow' polledNow polledNow' : List NetworkEnvelope}
    (left : Moved arrived sentNow polledNow first second)
    (right : Moved arrived' sentNow' polledNow' second third) :
    Moved (arrived ++ arrived') (sentNow ++ sentNow') (polledNow ++ polledNow') first third where
  signals := left.signals.trans right.signals
  client := right.client.trans left.client
  notified := right.notified.trans left.notified
  sameEnd := left.sameEnd.trans right.sameEnd
  frames := right.frames
  emptied := right.emptied
  pushed := by
    rw [right.pushed, left.pushed, List.map_append, List.append_assoc]
  received := by
    rw [List.append_assoc, right.received, ← List.append_assoc, left.received, List.append_assoc]
  receiveFailures := right.receiveFailures.trans left.receiveFailures
  open_ := by
    intro some
    by_cases earlier : sentNow = []
    · rw [earlier, List.nil_append] at some
      exact left.signals.state.symm.trans (right.open_ some)
    · exact left.open_ earlier
  valid := by
    intro envelope member
    rcases List.mem_append.mp member with one | two
    · exact left.valid envelope one
    · exact right.valid envelope two

theorem encode_nonempty (envelope : NetworkEnvelope) : encodeTransportPacket envelope ≠ [] := by
  apply List.ne_nil_of_length_pos
  simp [encodeTransportPacket, writeHeader, ByteReader.podBytes_length, ByteReader.Pod.size_pos]

section Moving

variable {pumped : KcpRtcPumpedTransport} {arrived : List NetworkEnvelope}

/-- The data-channel pump of a side that has these envelopes to send. -/
theorem pump_moves {sentNow : List NetworkEnvelope}
    (opened : pumped.dataChannel.stateValue = .opened)
    (isFrames : pumped.transport.outgoingFrames = sentNow.map encodeTransportPacket)
    (open_ : sentNow ≠ [] → pumped.transport.state = .connected)
    (sendable : ∀ envelope ∈ sentNow, envelope.Ok)
    (waiting : pumped.dataChannel.incomingQueue = arrived.map encodeTransportPacket)
    (valid : ∀ envelope ∈ arrived, envelope.Ok)
    (connected : arrived ≠ [] → pumped.transport.state = .connected) :
    Moved arrived sentNow [] pumped pumped.pumpDataChannel := by
  have nonempty : ∀ frame ∈ pumped.transport.outgoingFrames, frame ≠ [] := by
    rw [isFrames]
    intro frame member
    obtain ⟨envelope, _, rfl⟩ := List.mem_map.mp member
    exact encode_nonempty envelope
  have sent := send_all_frames { transport := pumped.transport, channel := pumped.dataChannel }
    opened nonempty
  have received := receive_all_frames _ (sent.sameEnd.stateValue.trans opened) arrived valid
    (sent.incoming.trans waiting) fun some => sent.signals.state.trans (connected some)
  refine ⟨sent.signals.trans received.signals, rfl, rfl, sent.sameEnd.trans received.sameEnd,
    received.frames.trans sent.frames, received.emptied,
    received.outgoing.trans (sent.moved.trans (by rw [← isFrames])),
    received.received.trans (by rw [sent.envelopes]),
    received.receiveFailures.trans sent.receiveFailures, open_, sendable⟩

/-- What a call finds before its data-channel pump. -/
structure Arrives (arrived : List NetworkEnvelope) (signaled : KcpRtcPumpedTransport) : Prop where
  opened : signaled.dataChannel.stateValue = .opened
  silent : signaled.transport.outgoingFrames = []
  waiting : signaled.dataChannel.incomingQueue = arrived.map encodeTransportPacket
  valid : ∀ envelope ∈ arrived, envelope.Ok
  connected : arrived ≠ [] → signaled.transport.state = .connected

theorem update_moves (arrives : Arrives arrived pumped.signal) :
    Moved arrived [] [] pumped.signal pumped.update := by
  have moved : Moved arrived [] [] pumped.signal pumped.signal.pumpDataChannel :=
    pump_moves arrives.opened arrives.silent (fun some => absurd rfl some)
      (by intro envelope member; cases member) arrives.waiting arrives.valid arrives.connected
  exact ⟨moved.signals, moved.client, moved.notified, moved.sameEnd, moved.frames, moved.emptied,
    moved.pushed, moved.received, moved.receiveFailures, moved.open_, moved.valid⟩

/-- Handing an envelope to the transport: it is refused, or it is valid, the
transport is connected and its frame is queued. -/
inductive Handed (transport : KcpRtcTransport) (envelope : NetworkEnvelope) :
    Bool × KcpRtcTransport → Prop where
  | refused (error : TransportError) : Handed transport envelope (false, transport.failSend error)
  | queued (ok : envelope.Ok) (connected : transport.state = .connected) (stats : TransportStats)
      (same : stats.receiveFailures = transport.stats.receiveFailures) (buffered : Nat) :
      Handed transport envelope (true, { transport with
        stats
        bufferedOutgoingFrameBytes := buffered
        outgoingFrames := transport.outgoingFrames ++ [encodeTransportPacket envelope]
        lastError := .none })

theorem transport_send (transport : KcpRtcTransport) (envelope : NetworkEnvelope) :
    Handed transport envelope (transport.send envelope) := by
  unfold KcpRtcTransport.send
  by_cases ok : envelope.Ok
  · rw [if_neg (not_not.mpr ok)]
    by_cases connected : transport.state = .connected
    · rw [if_neg (not_not.mpr connected)]
      dsimp only
      split
      · exact Handed.refused .protocolRejected
      · refine Handed.queued ok connected _ ?_ _
        rfl
    · rw [if_pos connected]
      exact Handed.refused .notConnected
  · rw [if_pos ok]
    exact Handed.refused .protocolRejected

theorem send_moves (arrives : Arrives arrived pumped.signal) (envelope : NetworkEnvelope) :
    Moved arrived (if (pumped.send envelope).1 then [envelope] else []) [] pumped.signal
      (pumped.send envelope).2 := by
  have updated := update_moves arrives
  have opened := arrives.opened
  have refuses (sent : (pumped.update.transport.send envelope).1 = false) :
      pumped.send envelope = (false, { pumped.update with
        transport := (pumped.update.transport.send envelope).2
        lastError := (pumped.update.transport.send envelope).2.lastError }) := by
    unfold KcpRtcPumpedTransport.send
    dsimp only
    rw [sent]
    rfl
  have sends (sent : (pumped.update.transport.send envelope).1 = true) :
      pumped.send envelope = (true, { ({ pumped.update with
        transport := (pumped.update.transport.send envelope).2 } :
          KcpRtcPumpedTransport).pumpDataChannel with lastError := .none }) := by
    unfold KcpRtcPumpedTransport.send
    dsimp only
    rw [sent]
    rfl
  generalize pumped.update = now at updated refuses sends
  have handed := transport_send now.transport envelope
  generalize now.transport.send envelope = result at handed refuses sends
  cases handed with
  | refused error =>
      rw [refuses rfl]
      exact ⟨updated.signals.trans ⟨rfl, rfl, rfl, rfl, rfl, rfl⟩, updated.client,
        updated.notified, updated.sameEnd, updated.frames, updated.emptied, updated.pushed,
        updated.received, updated.receiveFailures, updated.open_, updated.valid⟩
  | queued ok connected stats same buffered =>
      rw [sends rfl]
      generalize isQueued : ({ now with transport := { now.transport with
        stats
        bufferedOutgoingFrameBytes := buffered
        outgoingFrames := now.transport.outgoingFrames ++ [encodeTransportPacket envelope]
        lastError := .none } } : KcpRtcPumpedTransport) = queued
      have frames : queued.transport.outgoingFrames = [envelope].map encodeTransportPacket := by
        rw [← isQueued]
        dsimp only
        rw [updated.frames]
        rfl
      have signals : SameSignals now.transport queued.transport := by
        rw [← isQueued]
        exact ⟨rfl, rfl, rfl, rfl, rfl, rfl⟩
      have others : queued.signalingClient = now.signalingClient ∧
          queued.readyNotified = now.readyNotified ∧
          queued.dataChannel = now.dataChannel ∧
          queued.transport.incomingEnvelopes = now.transport.incomingEnvelopes ∧
          queued.transport.stats.receiveFailures = now.transport.stats.receiveFailures := by
        rw [← isQueued]
        exact ⟨rfl, rfl, rfl, rfl, same⟩
      obtain ⟨client, notified, channel, envelopes, failures⟩ := others
      have pump : Moved [] [envelope] [] queued queued.pumpDataChannel :=
        pump_moves (by rw [channel]; exact updated.sameEnd.stateValue.trans opened) frames
          (fun _ => signals.state.trans connected)
          (fun other member => List.mem_singleton.mp member ▸ ok)
          (by rw [channel]; exact updated.emptied)
          (by intro other member; cases member) (fun some => absurd rfl some)
      have sameEnd := pump.sameEnd
      have pushed := pump.pushed
      have received := pump.received
      rw [channel] at sameEnd pushed
      rw [envelopes] at received
      have later : Moved [] [envelope] [] now { queued.pumpDataChannel with lastError := .none } :=
        ⟨signals.trans pump.signals, pump.client.trans client, pump.notified.trans notified,
          sameEnd, pump.frames, pump.emptied, pushed, received,
          pump.receiveFailures.trans failures, fun _ => connected, pump.valid⟩
      have both := updated.trans later
      rw [List.append_nil] at both
      exact both

theorem poll_moves (arrives : Arrives arrived pumped.signal) :
    Moved arrived [] pumped.poll.1.toList pumped.signal pumped.poll.2 := by
  have updated := update_moves arrives
  unfold KcpRtcPumpedTransport.poll KcpRtcTransport.poll
  dsimp only
  cases waiting : pumped.update.transport.incomingEnvelopes with
  | nil =>
      exact ⟨updated.signals, updated.client, updated.notified, updated.sameEnd, updated.frames,
        updated.emptied, updated.pushed, updated.received, updated.receiveFailures, updated.open_,
        updated.valid⟩
  | cons envelope rest =>
      have received := updated.received
      rw [waiting] at received
      exact ⟨updated.signals.trans ⟨rfl, rfl, rfl, rfl, rfl, rfl⟩, updated.client,
        updated.notified, updated.sameEnd, updated.frames, updated.emptied, updated.pushed, received,
        updated.receiveFailures, updated.open_, updated.valid⟩

end Moving

/-! The pair. -/

/-- Both sides of the pair stand in the same handshake and see the same hub and
the same channel. -/
structure PairAt (config : InMemoryKcpRtcTransportPairConfig) (heard : Prop)
    (stages : Side → Stage) (queues : Side → List RtcSignalingMessage) (pair : RtcPair) :
    Prop where
  placed : ∀ side, SideAt config side (stages side) (pair.side side)
  hubAt : ∀ side, HubAt config stages queues (pair.side side).signalingClient.hub
  channel : ∀ side, (pair.side side).dataChannel.incomingQueue =
    (pair.side side.other).dataChannel.outgoingQueue
  talk : Talk config heard (stages .client) (stages .server) (queues .client) (queues .server)

/-- What arrives at a side, between two calls. -/
structure Flow (record : RtcRecord) (side : Side) : Prop where
  travelling : ∃ travelling,
    (record.pair.side side).dataChannel.incomingQueue = travelling.map encodeTransportPacket ∧
    (∀ envelope ∈ travelling, envelope.Ok) ∧
    record.sent side.other = record.polled side ++
      (record.pair.side side).transport.incomingEnvelopes ++ travelling
  silent : (record.pair.side side).transport.outgoingFrames = []
  receiveFailures : (record.pair.side side).transport.stats.receiveFailures = 0
  sendFailures : (record.pair.side side).dataChannel.stats.sendFailures = 0
  started : record.sent side ≠ [] → (record.pair.side side).transport.state = .connected

theorem Flow.delivers {record : RtcRecord} {side : Side} (flow : Flow record side)
    (theirs : Flow record side.other) : Delivers record side := by
  obtain ⟨travelling, isTravelling, _, all⟩ := flow.travelling
  refine ⟨⟨_, (List.append_assoc _ _ _).symm.trans all.symm⟩, ⟨travelling, all, ?_⟩,
    flow.receiveFailures, flow.sendFailures⟩
  rw [theirs.silent, List.append_nil]
  exact isTravelling

theorem put_same (pair : RtcPair) (side : Side) (pumped : KcpRtcPumpedTransport) :
    (pair.put side pumped).side side = pumped := by
  cases side with
  | client => rfl
  | server => rfl

theorem put_other (pair : RtcPair) (side : Side) (pumped : KcpRtcPumpedTransport) :
    (pair.put side pumped).side side.other = (pair.side side.other).shares pumped := by
  cases side with
  | client => rfl
  | server => rfl

theorem other_other (side : Side) : side.other.other = side := by
  cases side with
  | client => rfl
  | server => rfl

theorem other_ne (side : Side) : side.other ≠ side := by
  cases side with
  | client => decide
  | server => decide

theorem either_side {holds : Side → Prop} (side : Side) (here : holds side)
    (there : holds side.other) (which : Side) : holds which := by
  cases side with
  | client =>
      cases which with
      | client => exact here
      | server => exact there
  | server =>
      cases which with
      | client => exact there
      | server => exact here

section Putting

variable {config : InMemoryKcpRtcTransportPairConfig} {side : Side} {stage : Stage}

theorem shares_placed {pumped other : KcpRtcPumpedTransport}
    (placed : SideAt config side stage pumped) : SideAt config side stage (pumped.shares other) :=
  ⟨placed.transport, placed.identity, placed.registered, placed.opened, placed.endpoint,
    placed.unnotified⟩

/-- One end's incoming queue is the other end's outgoing one. -/
theorem shares_queues {theirs : Stage} {pumped other : KcpRtcPumpedTransport}
    (placed : SideAt config side stage pumped) (across : SideAt config side.other theirs other) :
    (other.shares pumped).dataChannel.incomingQueue = pumped.dataChannel.outgoingQueue ∧
      (other.shares pumped).dataChannel.outgoingQueue = pumped.dataChannel.incomingQueue := by
  have mine := placed.endpoint
  have yours := across.endpoint
  unfold KcpRtcPumpedTransport.shares InMemoryRtcDataChannel.incomingQueue
    InMemoryRtcDataChannel.outgoingQueue
  dsimp only
  rw [mine, yours]
  cases side with
  | client => exact ⟨rfl, rfl⟩
  | server => exact ⟨rfl, rfl⟩

theorem put_pair {heard : Prop} {stages later : Side → Stage}
    {queues now : Side → List RtcSignalingMessage} {pair : RtcPair}
    (pairAt : PairAt config heard stages queues pair) {still : Prop}
    {after : KcpRtcPumpedTransport} (placed : SideAt config side (later side) after)
    (other : later side.other = stages side.other)
    (hubAt : HubAt config later now after.signalingClient.hub)
    (talk : Talk config still (later .client) (later .server) (now .client) (now .server)) :
    PairAt config still later now (pair.put side after) := by
  have across := pairAt.placed side.other
  rw [← other] at across
  obtain ⟨incoming, outgoing⟩ := shares_queues placed across
  refine ⟨either_side side ?_ ?_, either_side side ?_ ?_, either_side side ?_ ?_, talk⟩
  · rw [put_same]
    exact placed
  · rw [put_other]
    exact shares_placed across
  · rw [put_same]
    exact hubAt
  · rw [put_other]
    exact hubAt
  · rw [put_same, put_other]
    exact outgoing.symm
  · rw [other_other, put_same, put_other]
    exact incoming

end Putting

theorem append_at_same (envelopes : Side → List NetworkEnvelope) (side : Side)
    (added : List NetworkEnvelope) : appendAt envelopes side added side = envelopes side ++ added :=
  Function.update_self _ _ _

theorem append_at_other (envelopes : Side → List NetworkEnvelope) (side : Side)
    (added : List NetworkEnvelope) : appendAt envelopes side added side.other = envelopes side.other :=
  Function.update_of_ne (other_ne side) _ _

theorem append_at_nil (envelopes : Side → List NetworkEnvelope) (side : Side) :
    appendAt envelopes side [] = envelopes := by
  unfold appendAt
  rw [List.append_nil, Function.update_eq_self]

theorem connected_stage {stage : Stage} (connected : stateAt stage = .connected) :
    stage = .connected := by
  cases stage with
  | idle => cases connected
  | called => cases connected
  | announced => cases connected
  | connected => rfl

theorem Moved.placed {config : InMemoryKcpRtcTransportPairConfig} {side : Side} {stage : Stage}
    {arrived sentNow polledNow : List NetworkEnvelope} {before after : KcpRtcPumpedTransport}
    (moved : Moved arrived sentNow polledNow before after) (placed : SideAt config side stage before) :
    SideAt config side stage after := by
  obtain ⟨isConfig, state, phase, outgoing, sequence, unready⟩ := placed.transport
  refine ⟨⟨moved.signals.config.trans isConfig, moved.signals.state.trans state,
    moved.signals.phase.trans phase, moved.signals.outgoingSignals.trans outgoing,
    fun unopened => moved.signals.nextSignalSequence.trans (sequence unopened),
    fun unopened => moved.signals.localDataChannelReady.trans (unready unopened)⟩, ?_, ?_,
    moved.sameEnd.stateValue.trans placed.opened, moved.sameEnd.endpoint.trans placed.endpoint,
    fun unopened => moved.notified.trans (placed.unnotified unopened)⟩
  · rw [moved.client]
    exact placed.identity
  · rw [moved.client]
    exact placed.registered

section Calling

variable {config : InMemoryKcpRtcTransportPairConfig} {heard still : Prop}
  {stages later : Side → Stage} {queues now : Side → List RtcSignalingMessage}
  {record : RtcRecord} {side : Side}

/-- Whoever sent something is connected, and then this side is, after its signals. -/
theorem arrived_connected (pairAt : PairAt config heard stages queues record.pair)
    (theirs : Flow record side.other)
    (talked : Talked config still side stages later now (record.pair.side side)
      (record.pair.side side).signal)
    (sent : record.sent side.other ≠ []) :
    (record.pair.side side).signal.transport.state = .connected := by
  have theirState := theirs.started sent
  rw [(pairAt.placed side.other).transport.state] at theirState
  have open_ := connected_stage theirState
  rw [talked.placed.transport.state, talked.opens (talked.other.trans open_)]
  rfl

variable {arrived sentNow polledNow : List NetworkEnvelope} {call : KcpRtcPumpedTransport}

/-- What arrived is polled or queued now. -/
theorem arrivals_follow (pairAt : PairAt config heard stages queues record.pair)
    (flow : Flow record side)
    (talked : Talked config still side stages later now (record.pair.side side)
      (record.pair.side side).signal)
    (moved : Moved arrived sentNow polledNow (record.pair.side side).signal call)
    (all : record.sent side.other = record.polled side ++
      (record.pair.side side).transport.incomingEnvelopes ++ arrived) :
    Flow
      { pair := record.pair.put side call
        sent := appendAt record.sent side sentNow
        polled := appendAt record.polled side polledNow } side := by
  have signaled := signal_same_data (record.pair.side side)
  constructor
  case travelling =>
    refine ⟨[], ?_, (by intro envelope member; cases member), ?_⟩
    · dsimp only
      rw [put_same, moved.emptied]
      rfl
    · dsimp only
      rw [append_at_other, append_at_same, put_same, all, List.append_nil, List.append_assoc,
        List.append_assoc, moved.received, signaled.envelopes]
  case silent =>
    rw [put_same]
    exact moved.frames
  case receiveFailures =>
    rw [put_same]
    exact moved.receiveFailures.trans (signaled.receiveFailures.trans flow.receiveFailures)
  case sendFailures =>
    rw [put_same]
    exact moved.sameEnd.sendFailures.trans
      ((congrArg (·.stats.sendFailures) talked.signaled.channel).trans flow.sendFailures)
  case started =>
    dsimp only
    rw [append_at_same, put_same]
    intro some
    -- The side sends now, or it sent before and its signals keep it connected.
    by_cases earlier : record.sent side = []
    · rw [earlier, List.nil_append] at some
      exact moved.signals.state.trans (moved.open_ some)
    · have state := flow.started earlier
      rw [(pairAt.placed side).transport.state] at state
      rw [(moved.placed talked.placed).transport.state, talked.stays (connected_stage state)]
      rfl

/-- What was sent now follows what travels to the other side. -/
theorem departures_follow (pairAt : PairAt config heard stages queues record.pair)
    (theirs : Flow record side.other)
    (talked : Talked config still side stages later now (record.pair.side side)
      (record.pair.side side).signal)
    (moved : Moved arrived sentNow polledNow (record.pair.side side).signal call)
    (pairNow : PairAt config still later now (record.pair.put side call)) :
    Flow
      { pair := record.pair.put side call
        sent := appendAt record.sent side sentNow
        polled := appendAt record.polled side polledNow } side.other := by
  obtain ⟨travelling, isTravelling, sendable, sent⟩ := theirs.travelling
  rw [other_other] at sent
  constructor
  case travelling =>
    refine ⟨travelling ++ sentNow, ?_, ?_, ?_⟩
    · have crossed := pairNow.channel side.other
      rw [other_other, put_same] at crossed
      have before := pairAt.channel side.other
      rw [other_other, isTravelling] at before
      dsimp only
      rw [crossed, moved.pushed, talked.signaled.channel, ← before, List.map_append]
    · intro envelope member
      rcases List.mem_append.mp member with old | new
      · exact sendable envelope old
      · exact moved.valid envelope new
    · dsimp only
      rw [other_other, append_at_same, append_at_other, put_other, sent]
      exact List.append_assoc _ _ _
  case silent =>
    rw [put_other]
    exact theirs.silent
  case receiveFailures =>
    rw [put_other]
    exact theirs.receiveFailures
  case sendFailures =>
    rw [put_other]
    exact theirs.sendFailures
  case started =>
    dsimp only
    rw [append_at_other, put_other]
    exact theirs.started

/-- A call that pumps a side: the handshake goes on and what it moved is
accounted for. -/
theorem pumped_keeps (pairAt : PairAt config heard stages queues record.pair)
    (flows : ∀ side, Flow record side)
    (talked : Talked config still side stages later now (record.pair.side side)
      (record.pair.side side).signal)
    (call : KcpRtcPumpedTransport) (sentNow polledNow : List NetworkEnvelope)
    (moves : ∀ arrived, Arrives arrived (record.pair.side side).signal →
      Moved arrived sentNow polledNow (record.pair.side side).signal call) :
    PairAt config still later now (record.pair.put side call) ∧
      ∀ which, Flow
        { pair := record.pair.put side call
          sent := appendAt record.sent side sentNow
          polled := appendAt record.polled side polledNow } which := by
  have signaled := signal_same_data (record.pair.side side)
  have flow := flows side
  have theirs := flows side.other
  obtain ⟨arrived, waiting, valid, all⟩ := flow.travelling
  have connected : arrived ≠ [] → (record.pair.side side).signal.transport.state = .connected := by
    intro some
    apply arrived_connected pairAt theirs talked
    rw [all]
    intro none
    exact some (List.append_eq_nil_iff.mp none).2
  have moved := moves arrived ⟨talked.placed.opened, signaled.frames.trans flow.silent,
    (congrArg InMemoryRtcDataChannel.incomingQueue talked.signaled.channel).trans waiting, valid,
    connected⟩
  have pairNow := put_pair pairAt (moved.placed talked.placed) talked.other
    (by rw [moved.client]; exact talked.hubAt) talked.talk
  refine ⟨pairNow, either_side side ?_ ?_⟩
  · exact arrivals_follow pairAt flow talked moved all
  · exact departures_follow pairAt theirs talked moved pairNow

end Calling

/-- `Connect` moves no envelope. -/
theorem connect_keeps {config : InMemoryKcpRtcTransportPairConfig} (valid : ValidPair config)
    {heard : Prop} {stages : Side → Stage} {queues : Side → List RtcSignalingMessage}
    {record : RtcRecord} {side : Side} (pairAt : PairAt config heard stages queues record.pair)
    (flows : ∀ side, Flow record side) (idle : stages side = .idle) :
    PairAt config heard (Function.update stages side .called) (Function.update queues side [])
        (record.pair.put side (record.pair.side side).connect.2) ∧
      ∀ which, Flow
        { record with pair := record.pair.put side (record.pair.side side).connect.2 } which := by
  obtain ⟨placed, hubAt, channel, same⟩ :=
    side_connects valid (idle ▸ pairAt.placed side) (pairAt.hubAt side)
  have placedNow : SideAt config side (Function.update stages side .called side)
      (record.pair.side side).connect.2 := by
    rw [Function.update_self]
    exact placed
  have pairNow := put_pair pairAt placedNow (Function.update_of_ne (other_ne side) _ _) hubAt
    (connect_talks idle pairAt.talk)
  have flow := flows side
  have theirs := flows side.other
  -- Only a connected side sends, so this one has sent nothing.
  have unsent : record.sent side = [] := by
    by_contra some
    have state := flow.started some
    rw [(pairAt.placed side).transport.state, idle] at state
    cases state
  refine ⟨pairNow, either_side side ?_ ?_⟩
  · obtain ⟨travelling, isTravelling, sendable, sent⟩ := flow.travelling
    refine ⟨⟨travelling, ?_, sendable, ?_⟩, ?_, ?_, ?_, fun some => absurd unsent some⟩
    · dsimp only
      rw [put_same, channel]
      exact isTravelling
    · dsimp only
      rw [put_same, same.envelopes]
      exact sent
    · rw [put_same]
      exact same.frames.trans flow.silent
    · rw [put_same]
      exact same.receiveFailures.trans flow.receiveFailures
    · rw [put_same, channel]
      exact flow.sendFailures
  · obtain ⟨travelling, isTravelling, sendable, sent⟩ := theirs.travelling
    refine ⟨⟨travelling, ?_, sendable, ?_⟩, ?_, ?_, ?_, ?_⟩
    · have crossed := pairNow.channel side.other
      rw [other_other, put_same, channel] at crossed
      have before := pairAt.channel side.other
      rw [other_other] at before
      exact crossed.trans (before.symm.trans isTravelling)
    · dsimp only
      rw [put_other]
      exact sent
    · rw [put_other]
      exact theirs.silent
    · rw [put_other]
      exact theirs.receiveFailures
    · rw [put_other]
      exact theirs.sendFailures
    · dsimp only
      rw [put_other]
      exact theirs.started

/-! Runs. -/

/-- The record after these calls, with the stages and queues of the handshake. -/
structure Held (config : InMemoryKcpRtcTransportPairConfig) (calls : List RtcCall)
    (stages : Side → Stage) (queues : Side → List RtcSignalingMessage) (record : RtcRecord) :
    Prop where
  pairAt : PairAt config (Listened calls) stages queues record.pair
  flows : ∀ side, Flow record side
  called : ∀ side, stages side ≠ .idle ↔ RtcCall.connect side ∈ calls

theorem held_start (config : InMemoryKcpRtcTransportPairConfig) :
    Held config [] (fun _ => .idle) (fun _ => [])
      { pair := createInMemoryKcpRtcTransportPair config } := by
  have placed (side : Side) : SideAt config side .idle
      ((createInMemoryKcpRtcTransportPair config).side side) := by
    cases side with
    | client => exact ⟨⟨rfl, rfl, rfl, rfl, fun _ => rfl, fun _ => rfl⟩, rfl, rfl, rfl, rfl, fun _ => rfl⟩
    | server => exact ⟨⟨rfl, rfl, rfl, rfl, fun _ => rfl, fun _ => rfl⟩, rfl, rfl, rfl, rfl, fun _ => rfl⟩
  refine ⟨⟨placed, ?_, ?_, ?_⟩, ?_, ?_⟩
  · intro side other
    cases side with
    | client => simp [createInMemoryKcpRtcTransportPair, RtcPair.side, pumpedTransportOf]
    | server => simp [createInMemoryKcpRtcTransportPair, RtcPair.side, pumpedTransportOf]
  · intro side
    cases side with
    | client => rfl
    | server => rfl
  · exact Talk.unannounced (Histories.every_event_nil _) (Or.inl rfl) (by decide)
      (List.nil_sublist _)
  · intro side
    cases side with
    | client => exact ⟨⟨[], rfl, (by intro envelope member; cases member), rfl⟩, rfl, rfl, rfl,
        fun some => absurd rfl some⟩
    | server => exact ⟨⟨[], rfl, (by intro envelope member; cases member), rfl⟩, rfl, rfl, rfl,
        fun some => absurd rfl some⟩
  · intro side
    simp

/-- A call on a side after others. -/
theorem listened_concat (calls : List RtcCall) (call : RtcCall) :
    Listened (calls ++ [call]) ↔ Listened calls ∧ (pumps .client call →
      RtcCall.connect .client ∈ calls → RtcCall.connect .server ∈ calls) :=
  Histories.every_event_concat _ calls call

/-- Pumping connects nobody to the hub. -/
theorem signaled_idle {config : InMemoryKcpRtcTransportPairConfig} {side : Side}
    {stage later : Stage} {before after : KcpRtcPumpedTransport}
    (placed : SideAt config side stage before) (placedLater : SideAt config side later after)
    (signaled : Signaled before after) : later = .idle ↔ stage = .idle := by
  have same := signaled.peer.state
  rw [placed.registered, placedLater.registered] at same
  by_cases isIdle : later = .idle
  · by_cases wasIdle : stage = .idle
    · exact iff_of_true isIdle wasIdle
    · rw [if_pos isIdle, if_neg wasIdle] at same
      cases same
  · by_cases wasIdle : stage = .idle
    · rw [if_neg isIdle, if_pos wasIdle] at same
      cases same
    · exact iff_of_false isIdle wasIdle

theorem step_held {config : InMemoryKcpRtcTransportPairConfig} (valid : ValidPair config)
    {calls : List RtcCall} {stages : Side → Stage} {queues : Side → List RtcSignalingMessage}
    {record : RtcRecord} (held : Held config calls stages queues record) (call : RtcCall)
    (once : ∀ side, call = .connect side → RtcCall.connect side ∉ calls) :
    ∃ later now, Held config (calls ++ [call]) later now (rtcStep record call) := by
  have pumped (side : Side) (after : KcpRtcPumpedTransport) (sentNow polledNow : List NetworkEnvelope)
      (isPump : pumps .client call ↔ side = .client) (unconnects : ∀ other, call ≠ .connect other)
      (moves : ∀ arrived, Arrives arrived (record.pair.side side).signal →
        Moved arrived sentNow polledNow (record.pair.side side).signal after) :
      ∃ later now, Held config (calls ++ [call]) later now
        { pair := record.pair.put side after
          sent := appendAt record.sent side sentNow
          polled := appendAt record.polled side polledNow } := by
    have isStill : Listened (calls ++ [call]) ↔ Listened calls ∧
        (side = .client → stages .client ≠ .idle → stages .server ≠ .idle) := by
      rw [listened_concat, isPump, held.called, held.called]
    obtain ⟨later, now, talked⟩ := side_signal valid side (held.pairAt.placed side)
      (held.pairAt.hubAt side) held.pairAt.talk isStill
    obtain ⟨pairNow, flows⟩ :=
      pumped_keeps held.pairAt held.flows talked after sentNow polledNow moves
    refine ⟨later, now, pairNow, flows, ?_⟩
    intro which
    have same : RtcCall.connect which ∈ calls ++ [call] ↔ RtcCall.connect which ∈ calls := by
      simp [(unconnects which).symm]
    rw [same, ← held.called]
    -- Signaling takes no side out of the idle stage and none back to it.
    have idles : ∀ which, later which = .idle ↔ stages which = .idle := by
      refine either_side side ?_ ?_
      · exact signaled_idle (held.pairAt.placed side) talked.placed talked.signaled
      · rw [talked.other]
    exact not_congr (idles which)
  cases call with
  | connect side =>
      have fresh := once side rfl
      have idle : stages side = .idle := by
        by_contra present
        exact fresh ((held.called side).mp present)
      obtain ⟨pairNow, flows⟩ := connect_keeps valid held.pairAt held.flows idle
      have same : Listened (calls ++ [.connect side]) = Listened calls :=
        propext ((listened_concat calls _).trans (and_iff_left fun pump => pump.elim))
      refine ⟨_, _, same ▸ pairNow, flows, either_side side ?_ ?_⟩
      · simp
      · have different : RtcCall.connect side.other ≠ .connect side :=
          fun equal => other_ne side (RtcCall.connect.inj equal)
        rw [Function.update_of_ne (other_ne side), held.called]
        simp [different]
  | update side =>
      have kept := pumped side (record.pair.side side).update [] [] Iff.rfl (by simp)
        fun _ arrives => update_moves arrives
      rw [append_at_nil, append_at_nil] at kept
      exact kept
  | send side envelope =>
      have kept := pumped side ((record.pair.side side).send envelope).2 _ [] Iff.rfl (by simp)
        fun _ arrives => send_moves arrives envelope
      rw [append_at_nil] at kept
      exact kept
  | poll side =>
      have kept := pumped side (record.pair.side side).poll.2 [] _ Iff.rfl (by simp)
        fun _ arrives => poll_moves arrives
      rw [append_at_nil] at kept
      exact kept

theorem run_held {config : InMemoryKcpRtcTransportPairConfig} (valid : ValidPair config)
    (calls : List RtcCall) (once : ConnectsOnce calls) :
    ∃ stages queues, Held config calls stages queues (rtcRun config calls) := by
  induction calls using List.reverseRecOn with
  | nil => exact ⟨_, _, held_start config⟩
  | append_singleton calls call ih =>
      have earlier : ConnectsOnce calls := by
        intro side
        have count := once side
        rw [List.count_append] at count
        exact (Nat.le_add_right _ _).trans count
      obtain ⟨stages, queues, held⟩ := ih earlier
      unfold rtcRun at held ⊢
      rw [Runs.run_append, Runs.run_cons, Runs.run_nil]
      apply step_held valid held call
      rintro side rfl member
      have count := once side
      have present := List.count_pos_iff.mpr member
      rw [List.count_append, List.count_singleton_self] at count
      omega

/-- A pair whose sides connect at most once each is a reliable first-in
first-out channel in both directions, for every interleaving of calls. -/
theorem rtc_pair_delivers (config : InMemoryKcpRtcTransportPairConfig) (valid : ValidPair config)
    (calls : List RtcCall) (once : ConnectsOnce calls) (side : Side) :
    Delivers (rtcRun config calls) side := by
  obtain ⟨stages, queues, held⟩ := run_held valid calls once
  exact (held.flows side).delivers (held.flows side.other)

/-- The client connects first, the server sends two envelopes before the client
is open, and the client polls both. -/
def twoSends : List RtcCall :=
  [.connect .client, .connect .server, .update .client, .send .server { sequence := 5 },
   .send .server { sequence := 6 }, .poll .client, .poll .client]

theorem rtc_pair_delivers_two :
    (rtcRun {} twoSends).sent .server = [{ sequence := 5 }, { sequence := 6 }] ∧
      (rtcRun {} twoSends).polled .client = [{ sequence := 5 }, { sequence := 6 }] ∧
      Delivers (rtcRun {} twoSends) .client :=
  ⟨by decide +kernel, by decide +kernel,
    rtc_pair_delivers {} ⟨by decide, by decide, by decide, by decide +kernel, by decide +kernel,
      by decide⟩ twoSends (by intro side; cases side <;> decide) .client⟩

end Brawololo.RtcDelivery
