import Brawololo.KcpRtcPumpedTransport
import Brawololo.TransportBooks

/-!
The data-channel pump over a channel of any behaviour. The pump takes a frame
from the transport before it hands it to the channel, so a frame that the channel
refuses is in neither: nothing is lost exactly when nothing is refused.
-/

namespace Brawololo.FramePumps

open GameTypes NetworkProtocol TransportPacketCodec RtcSignaling RtcChannels KcpRtc PollLoops
open RtcPairs (KcpRtcPumpedTransport)

universe u

/-! The pump. -/

/-- What the pump calls of an `IRtcDataChannel`. -/
structure DataChannel (Channel : Type u) where
  sendFrame : Channel → Frame → Bool × Channel
  pollFrame : Channel → Option Frame × Channel

/-- The pump of `KcpRtc` with any channel, and with the frames that the channel
accepted and refused beside the counters. -/
structure FramePump (Channel : Type u) where
  transport : KcpRtcTransport
  channel : Channel
  result : KcpRtcDataChannelPumpResult := {}
  accepted : List Frame := []
  refused : List Frame := []

section Pump

variable {Channel : Type u} (io : DataChannel Channel)

namespace FramePump

def pollOutgoing (pump : FramePump Channel) : Option Frame × FramePump Channel :=
  (pump.transport.pollOutgoingFrame.1,
    { pump with transport := pump.transport.pollOutgoingFrame.2 })

def sendFrame (pump : FramePump Channel) (frame : Frame) : FramePump Channel :=
  let sent := io.sendFrame pump.channel frame
  if sent.1 then
    { pump with
      channel := sent.2
      result := { pump.result with outgoingFramesSent := pump.result.outgoingFramesSent + 1 }
      accepted := pump.accepted ++ [frame] }
  else
    -- the frame has left the transport already, and nothing puts it back
    { pump with
      channel := sent.2
      result := { pump.result with failures := pump.result.failures + 1 }
      refused := pump.refused ++ [frame] }

def pollIncoming (pump : FramePump Channel) : Option Frame × FramePump Channel :=
  ((io.pollFrame pump.channel).1, { pump with channel := (io.pollFrame pump.channel).2 })

def applyFrame (pump : FramePump Channel) (frame : Frame) : FramePump Channel :=
  { pump with
    transport := (pump.transport.receiveFrame frame).2
    result :=
      if (pump.transport.receiveFrame frame).1 then
        { pump.result with incomingFramesApplied := pump.result.incomingFramesApplied + 1 }
      else { pump.result with failures := pump.result.failures + 1 } }

def sendAll (pump : FramePump Channel) : FramePump Channel :=
  whileSome pollOutgoing (sendFrame io) (pump.transport.outgoingFrames.length + 1) pump

/-- A channel may have frames without end; `polls` is how often it is polled. -/
def receiveAll (polls : Nat) (pump : FramePump Channel) : FramePump Channel :=
  whileSome (pollIncoming io) applyFrame polls pump

end FramePump

def pumpKcpRtcDataChannel (polls : Nat) (transport : KcpRtcTransport) (channel : Channel) :
    FramePump Channel :=
  ((FramePump.mk transport channel {} [] []).sendAll io).receiveAll io polls

end Pump

/-! Calls. -/

/-- The calls that the signaling side makes on a transport. -/
inductive SignalCall where
  | connect
  | notifyDataChannelReady
  | pollOutgoingSignal
  | receiveSignalingMessage (message : RtcSignalingMessage)
  deriving DecidableEq

def signalStep (transport : KcpRtcTransport) : SignalCall → KcpRtcTransport
  | .connect => transport.connect.2
  | .notifyDataChannelReady => transport.notifyDataChannelReady.2
  | .pollOutgoingSignal => transport.pollOutgoingSignal.2
  | .receiveSignalingMessage message => (transport.receiveSignalingMessage message).2

/-- Between the calls its other side or a `Close` may change the channel. -/
inductive FrameCall (Channel : Type u) where
  | signal (call : SignalCall)
  | channelChanged (channel : Channel)
  | send (envelope : NetworkEnvelope)
  | pump (polls : Nat)

/-- A transport and its channel, the frames that successful calls of `Send` made
and those that the channel accepted and refused. -/
structure FrameRecord (Channel : Type u) where
  transport : KcpRtcTransport
  channel : Channel
  produced : List Frame := []
  accepted : List Frame := []
  refused : List Frame := []

section Runs

variable {Channel : Type u} (io : DataChannel Channel)

def frameStep (record : FrameRecord Channel) : FrameCall Channel → FrameRecord Channel
  | .signal call => { record with transport := signalStep record.transport call }
  | .channelChanged channel => { record with channel }
  | .send envelope =>
      { record with
        transport := (record.transport.send envelope).2
        produced := record.produced ++
          (if (record.transport.send envelope).1 then [encodeTransportPacket envelope] else []) }
  | .pump polls =>
      let pump := pumpKcpRtcDataChannel io polls record.transport record.channel
      { record with
        transport := pump.transport
        channel := pump.channel
        accepted := record.accepted ++ pump.accepted
        refused := record.refused ++ pump.refused }

def frameRun (transport : KcpRtcTransport) (channel : Channel) (calls : List (FrameCall Channel)) :
    FrameRecord Channel :=
  Runs.run (frameStep io) { transport, channel } calls

/-- The frames of the transport at the start and those that were made since are
those that the channel accepted and those that are still queued. -/
def Lossless (start : KcpRtcTransport) (record : FrameRecord Channel) : Prop :=
  start.outgoingFrames ++ record.produced = record.accepted ++ record.transport.outgoingFrames

instance (start : KcpRtcTransport) (record : FrameRecord Channel) :
    Decidable (Lossless start record) :=
  inferInstanceAs (Decidable (_ = _))

/-- Handed these frames in order, the channel accepts each. -/
def AcceptsAll : Channel → List Frame → Prop
  | _, [] => True
  | channel, frame :: rest =>
      (io.sendFrame channel frame).1 = true ∧ AcceptsAll (io.sendFrame channel frame).2 rest

/-- A pump finds a channel that accepts every queued frame. -/
def AcceptsQueued (record : FrameRecord Channel) : FrameCall Channel → Prop
  | .pump _ => AcceptsAll io record.channel record.transport.outgoingFrames
  | .signal _ | .channelChanged _ | .send _ => True

/-! What the pump does to frames. -/

section Pump

variable (pump : FramePump Channel)

theorem send_frame_accepted {frame : Frame} (accepts : (io.sendFrame pump.channel frame).1 = true) :
    (pump.sendFrame io frame).accepted = pump.accepted ++ [frame] ∧
      (pump.sendFrame io frame).refused = pump.refused := by
  unfold FramePump.sendFrame
  simp [accepts]

theorem send_frame_refused {frame : Frame}
    (refuses : ¬(io.sendFrame pump.channel frame).1 = true) :
    (pump.sendFrame io frame).accepted = pump.accepted ∧
      (pump.sendFrame io frame).refused = pump.refused ++ [frame] := by
  unfold FramePump.sendFrame
  simp [refuses]

theorem send_frame_rest (frame : Frame) :
    (pump.sendFrame io frame).transport = pump.transport ∧
      (pump.sendFrame io frame).channel = (io.sendFrame pump.channel frame).2 := by
  unfold FramePump.sendFrame
  dsimp only
  split <;> exact ⟨rfl, rfl⟩

/-- The pump is about to hand over the frames `rest`. -/
structure Handing (rest : List Frame) (state : FramePump Channel) : Prop where
  queued : state.transport.outgoingFrames = rest
  counted : state.accepted.length + state.refused.length + rest.length =
    pump.accepted.length + pump.refused.length + pump.transport.outgoingFrames.length
  kept : state.refused = [] → state.accepted ++ rest = pump.accepted ++ pump.transport.outgoingFrames
  refuses : (state.refused = [] ∧ AcceptsAll io state.channel rest) ↔
    (pump.refused = [] ∧ AcceptsAll io pump.channel pump.transport.outgoingFrames)

theorem handing_next {frame : Frame} {rest : List Frame} {state : FramePump Channel}
    (handing : Handing io pump (frame :: rest) state) :
    ∃ after, state.pollOutgoing = (some frame, after) ∧
      Handing io pump rest (after.sendFrame io frame) := by
  obtain ⟨queued, counted, kept, refuses⟩ := handing
  have polled : state.pollOutgoing.1 = some frame ∧
      state.pollOutgoing.2.transport.outgoingFrames = rest := by
    unfold FramePump.pollOutgoing KcpRtcTransport.pollOutgoingFrame
    simp [queued]
  refine ⟨state.pollOutgoing.2, Prod.ext polled.1 rfl, ?_⟩
  obtain ⟨isTransport, isChannel⟩ := send_frame_rest io state.pollOutgoing.2 frame
  rw [List.length_cons] at counted
  -- an accepted frame moves to the accepted ones; a refused one only to the count
  by_cases accepts : (io.sendFrame state.pollOutgoing.2.channel frame).1 = true
  · obtain ⟨accepted, refused⟩ := send_frame_accepted io state.pollOutgoing.2 accepts
    refine ⟨?_, ?_, ?_, ?_⟩
    · rw [isTransport]
      exact polled.2
    · rw [accepted, refused, List.length_append, List.length_singleton, ← counted]
      change state.accepted.length + 1 + state.refused.length + rest.length = _
      omega
    · intro nothing
      rw [accepted, List.append_assoc]
      exact kept (refused.symm.trans nothing)
    · rw [refused, isChannel, ← refuses]
      exact and_congr_right' ⟨fun others => ⟨accepts, others⟩, And.right⟩
  · obtain ⟨accepted, refused⟩ := send_frame_refused io state.pollOutgoing.2 accepts
    have some : (state.pollOutgoing.2.sendFrame io frame).refused ≠ [] := by
      rw [refused]
      exact List.append_ne_nil_of_right_ne_nil _ (List.cons_ne_nil _ _)
    refine ⟨?_, ?_, fun nothing => absurd nothing some, ?_⟩
    · rw [isTransport]
      exact polled.2
    · rw [accepted, refused, List.length_append, List.length_singleton, ← counted]
      change state.accepted.length + (state.refused.length + 1) + rest.length = _
      omega
    · rw [← refuses]
      exact iff_of_false (fun both => some both.1) fun both => accepts both.2.1

theorem handed_all : Handing io pump [] (pump.sendAll io) := by
  unfold FramePump.sendAll
  apply while_items (Handing io pump) ?_ ?_ pump.transport.outgoingFrames _ pump
    (Nat.lt_succ_self _)
  · exact ⟨rfl, rfl, fun _ => rfl, Iff.rfl⟩
  · exact fun _ _ _ handing => handing_next io pump handing
  · intro state handing
    refine ⟨state, ?_, handing⟩
    unfold FramePump.pollOutgoing KcpRtcTransport.pollOutgoingFrame
    rw [handing.queued]

/-- What comes in touches no outgoing frame. -/
structure SameOutgoing (before after : FramePump Channel) : Prop where
  queued : after.transport.outgoingFrames = before.transport.outgoingFrames
  accepted : after.accepted = before.accepted
  refused : after.refused = before.refused

theorem receive_frame_outgoing (transport : KcpRtcTransport) (frame : Frame) :
    (transport.receiveFrame frame).2.outgoingFrames = transport.outgoingFrames := by
  unfold KcpRtcTransport.receiveFrame
  split
  · rfl
  · split <;> rfl

theorem received_outgoing (polls : Nat) : SameOutgoing pump (pump.receiveAll io polls) := by
  apply while_kept (SameOutgoing pump)
  · exact fun _ same => ⟨same.queued, same.accepted, same.refused⟩
  · intro state frame same
    exact ⟨(receive_frame_outgoing _ frame).trans same.queued, same.accepted, same.refused⟩
  · exact ⟨rfl, rfl, rfl⟩

end Pump

/-- The pump empties the queue of the transport; the channel gets every frame, and
unless it refuses one these are the frames that it accepts. -/
structure Pumped (transport : KcpRtcTransport) (channel : Channel) (pump : FramePump Channel) :
    Prop where
  emptied : pump.transport.outgoingFrames = []
  counted : pump.accepted.length + pump.refused.length = transport.outgoingFrames.length
  kept : pump.refused = [] → pump.accepted = transport.outgoingFrames
  refuses : pump.refused = [] ↔ AcceptsAll io channel transport.outgoingFrames

theorem pump_hands_over (polls : Nat) (transport : KcpRtcTransport) (channel : Channel) :
    Pumped io transport channel (pumpKcpRtcDataChannel io polls transport channel) := by
  have handed := handed_all io (FramePump.mk transport channel {} [] [])
  have same := received_outgoing io ((FramePump.mk transport channel {} [] []).sendAll io) polls
  refine ⟨same.queued.trans handed.queued, ?_, ?_, ?_⟩
  · have counted := handed.counted
    rw [← same.accepted, ← same.refused] at counted
    simpa [pumpKcpRtcDataChannel] using counted
  · intro nothing
    have kept := handed.kept (same.refused.symm.trans nothing)
    rw [← same.accepted] at kept
    simpa [pumpKcpRtcDataChannel] using kept
  · have refuses := handed.refuses
    rw [← same.refused] at refuses
    simpa [pumpKcpRtcDataChannel, AcceptsAll] using refuses

/-! What one call does to the books. -/

theorem send_frames (transport : KcpRtcTransport) (envelope : NetworkEnvelope) :
    (transport.send envelope).2.outgoingFrames = transport.outgoingFrames ++
      (if (transport.send envelope).1 then [encodeTransportPacket envelope] else []) := by
  unfold KcpRtcTransport.send
  split
  · simp [KcpRtcTransport.failSend]
  · split
    · simp [KcpRtcTransport.failSend]
    · dsimp only
      split <;> simp [KcpRtcTransport.failSend]

theorem signal_frames (transport : KcpRtcTransport) (call : SignalCall) :
    (signalStep transport call).outgoingFrames = transport.outgoingFrames := by
  cases call with
  | connect => exact (TransportBooks.connect_only transport).outgoingFrames
  | notifyDataChannelReady => exact (TransportBooks.notify_ready_only transport).outgoingFrames
  | pollOutgoingSignal =>
      unfold signalStep KcpRtcTransport.pollOutgoingSignal
      dsimp only
      split <;> rfl
  | receiveSignalingMessage message =>
      exact (TransportBooks.receive_signaling_only transport message).outgoingFrames

section Books

variable (start : KcpRtcTransport)

/-- No frame is counted twice, and unless one was refused none is missing. -/
structure Books (record : FrameRecord Channel) : Prop where
  counted : start.outgoingFrames.length + record.produced.length =
    record.accepted.length + record.refused.length + record.transport.outgoingFrames.length
  kept : record.refused = [] → Lossless start record

theorem books_start (transport : KcpRtcTransport) (channel : Channel) :
    Books transport { transport, channel } where
  counted := by simp
  kept := fun _ => by simp [Lossless]

theorem frame_step_books (record : FrameRecord Channel) (call : FrameCall Channel)
    (books : Books start record) : Books start (frameStep io record call) := by
  obtain ⟨counted, kept⟩ := books
  unfold Lossless at kept
  cases call with
  | signal call =>
      have frames := signal_frames record.transport call
      constructor
      · exact counted.trans (by rw [← frames]; rfl)
      · exact fun nothing => (kept nothing).trans (by rw [← frames]; rfl)
  | channelChanged channel => exact ⟨counted, kept⟩
  | send envelope =>
      have frames := send_frames record.transport envelope
      constructor
      · unfold frameStep
        dsimp only
        rw [frames, List.length_append, List.length_append]
        omega
      · intro nothing
        unfold Lossless frameStep
        dsimp only
        rw [frames, ← List.append_assoc, ← List.append_assoc, kept nothing]
  | pump polls =>
      obtain ⟨emptied, moved, same, _⟩ :=
        pump_hands_over io polls record.transport record.channel
      constructor
      · unfold frameStep
        dsimp only
        rw [emptied, List.length_append, List.length_append, List.length_nil]
        omega
      · intro nothing
        obtain ⟨before, now⟩ := List.append_eq_nil_iff.mp nothing
        unfold Lossless frameStep
        dsimp only
        rw [emptied, same now, List.append_nil]
        exact kept before

theorem frame_step_refuses (record : FrameRecord Channel) (call : FrameCall Channel) :
    (frameStep io record call).refused = [] ↔ record.refused = [] ∧ AcceptsQueued io record call := by
  cases call with
  | signal call => exact (and_iff_left trivial).symm
  | channelChanged channel => exact (and_iff_left trivial).symm
  | send envelope => exact (and_iff_left trivial).symm
  | pump polls =>
      rw [AcceptsQueued, ← (pump_hands_over io polls record.transport record.channel).refuses]
      exact List.append_eq_nil_iff

/-! Runs. -/

theorem run_refuses (record : FrameRecord Channel) (calls : List (FrameCall Channel)) :
    (Runs.run (frameStep io) record calls).refused = [] ↔
      record.refused = [] ∧ Runs.EveryStep (frameStep io) (AcceptsQueued io) record calls := by
  induction calls generalizing record with
  | nil => exact (and_iff_left trivial).symm
  | cons call rest ih =>
      rw [Runs.run_cons, ih, frame_step_refuses, Runs.EveryStep, and_assoc]

theorem lossless_iff_nothing_refused {record : FrameRecord Channel} (books : Books start record) :
    Lossless start record ↔ record.refused = [] := by
  refine ⟨fun lossless => ?_, books.kept⟩
  -- equal lists have equal lengths, and the count leaves no room for a refused frame
  have lengths := congrArg List.length lossless
  rw [List.length_append, List.length_append] at lengths
  apply List.eq_nil_of_length_eq_zero
  have counted := books.counted
  omega

theorem run_books (transport : KcpRtcTransport) (channel : Channel) (calls : List (FrameCall Channel)) :
    Books transport (frameRun io transport channel calls) :=
  Runs.run_invariant (frameStep io) (Books transport) (frame_step_books io transport) _
    (books_start transport channel) calls

end Books

end Runs

/-! The in-memory channel, and the transport that pumps by itself. -/

def inMemory : DataChannel InMemoryRtcDataChannel where
  sendFrame := InMemoryRtcDataChannel.sendFrame
  pollFrame := InMemoryRtcDataChannel.pollFrame

def FramePump.moved (pump : FramePump InMemoryRtcDataChannel) : DataChannelPump where
  transport := pump.transport
  channel := pump.channel
  result := pump.result

theorem sent_moved (pump : FramePump InMemoryRtcDataChannel) (frame : Frame) :
    pump.moved.sendFrame frame = (pump.sendFrame inMemory frame).moved := by
  unfold DataChannelPump.sendFrame FramePump.sendFrame FramePump.moved inMemory
  dsimp only
  split <;> rfl

/-- The in-memory channel runs out of frames, so its pump returns. -/
theorem pump_in_memory (transport : KcpRtcTransport) (channel : InMemoryRtcDataChannel) :
    ∃ polls, KcpRtc.pumpKcpRtcDataChannel transport channel =
      (pumpKcpRtcDataChannel inMemory polls transport channel).moved := by
  let start : FramePump InMemoryRtcDataChannel := { transport, channel }
  have sent : start.moved.sendAll = (start.sendAll inMemory).moved :=
    while_viewed FramePump.moved (fun _ => rfl) sent_moved _ start
  refine ⟨(start.sendAll inMemory).moved.channel.incomingQueue.length + 1, ?_⟩
  calc KcpRtc.pumpKcpRtcDataChannel transport channel
      = (start.sendAll inMemory).moved.receiveAll := congrArg DataChannelPump.receiveAll sent
    _ = _ := while_viewed FramePump.moved (fun _ => rfl) (fun _ _ => rfl) _ _

/-- Only calls of the signaling side lie between the two transports. -/
def Signalled (before after : KcpRtcTransport) : Prop :=
  ∃ signals, after = Runs.run signalStep before signals

theorem Signalled.then {before after : KcpRtcTransport} (signalled : Signalled before after)
    (call : SignalCall) : Signalled before (signalStep after call) := by
  obtain ⟨signals, rfl⟩ := signalled
  exact ⟨signals ++ [call], (Runs.run_append signalStep before signals [call]).symm⟩

theorem pump_signalled {before : KcpRtcTransport} {pumped : KcpRtcPumpedTransport}
    (signalled : Signalled before pumped.transport) :
    Signalled before pumped.pumpSignaling.transport := by
  refine while_kept (fun (state : SignalingPump) => Signalled before state.transport) ?_ ?_ _ _ ?_
  · exact fun _ same => same
  · exact fun _ message same => same.then (.receiveSignalingMessage message)
  · refine while_kept (fun (state : SignalingPump) => Signalled before state.transport) ?_ ?_ _ _
      signalled
    · exact fun _ same => same.then .pollOutgoingSignal
    · exact fun _ _ same => same

theorem signal_signalled (pumped : KcpRtcPumpedTransport) :
    Signalled pumped.transport pumped.signal.transport := by
  apply pump_signalled
  have before : Signalled pumped.transport pumped.pumpSignaling.transport :=
    pump_signalled ⟨[], rfl⟩
  unfold KcpRtcPumpedTransport.notifyReadyIfPossible
  split
  · exact before
  · exact before.then .notifyDataChannelReady

/-- Some calls on the transport and its channel lead from the one pumped transport
to the other and make these frames. -/
def Takes (before after : KcpRtcPumpedTransport) (frames : List Frame) : Prop :=
  ∃ calls, ∀ record : FrameRecord InMemoryRtcDataChannel,
    record.transport = before.transport → record.channel = before.dataChannel →
      let final := Runs.run (frameStep inMemory) record calls
      final.transport = after.transport ∧ final.channel = after.dataChannel ∧
        final.produced = record.produced ++ frames

theorem Takes.trans {first second third : KcpRtcPumpedTransport} {early late : List Frame}
    (one : Takes first second early) (two : Takes second third late) :
    Takes first third (early ++ late) := by
  obtain ⟨calls, takes⟩ := one
  obtain ⟨more, takesMore⟩ := two
  refine ⟨calls ++ more, fun record isTransport isChannel => ?_⟩
  obtain ⟨transport, channel, produced⟩ := takes record isTransport isChannel
  obtain ⟨transport', channel', produced'⟩ := takesMore _ transport channel
  rw [Runs.run_append]
  exact ⟨transport', channel', by rw [produced', produced, List.append_assoc]⟩

theorem run_signals (signals : List SignalCall) (record : FrameRecord InMemoryRtcDataChannel) :
    Runs.run (frameStep inMemory) record (signals.map .signal) =
      { record with transport := Runs.run signalStep record.transport signals } := by
  induction signals generalizing record with
  | nil => rfl
  | cons call rest ih => exact ih _

theorem signal_takes (pumped : KcpRtcPumpedTransport) : Takes pumped pumped.signal [] := by
  obtain ⟨signals, signalled⟩ := signal_signalled pumped
  have sameChannel : pumped.signal.dataChannel = pumped.dataChannel := by
    unfold KcpRtcPumpedTransport.signal KcpRtcPumpedTransport.pumpSignaling
      KcpRtcPumpedTransport.notifyReadyIfPossible
    dsimp only
    split <;> rfl
  refine ⟨signals.map .signal, fun record isTransport isChannel => ?_⟩
  rw [run_signals]
  exact ⟨by rw [isTransport, signalled], isChannel.trans sameChannel.symm,
    (List.append_nil _).symm⟩

theorem pump_takes (pumped : KcpRtcPumpedTransport) : Takes pumped pumped.pumpDataChannel [] := by
  obtain ⟨polls, isPump⟩ := pump_in_memory pumped.transport pumped.dataChannel
  refine ⟨[.pump polls], fun record isTransport isChannel => ?_⟩
  unfold KcpRtcPumpedTransport.pumpDataChannel
  rw [isPump, ← isTransport, ← isChannel]
  exact ⟨rfl, rfl, (List.append_nil _).symm⟩

theorem transport_send_takes (pumped : KcpRtcPumpedTransport) (envelope : NetworkEnvelope) :
    Takes pumped { pumped with transport := (pumped.transport.send envelope).2 }
      (if (pumped.transport.send envelope).1 then [encodeTransportPacket envelope] else []) := by
  refine ⟨[.send envelope], fun record isTransport isChannel => ?_⟩
  rw [← isTransport]
  exact ⟨rfl, isChannel, rfl⟩

/-- `Update` ends by a pump, and sets no more than the last error after it. -/
theorem update_takes (pumped : KcpRtcPumpedTransport) : Takes pumped pumped.update [] :=
  (signal_takes pumped).trans (pump_takes pumped.signal)

/-- `Send` of the pumped transport is a run of calls on its transport and channel. -/
theorem pumped_send_takes (pumped : KcpRtcPumpedTransport) (envelope : NetworkEnvelope) :
    Takes pumped (pumped.send envelope).2
      (if (pumped.send envelope).1 then [encodeTransportPacket envelope] else []) := by
  have handed := (update_takes pumped).trans (transport_send_takes pumped.update envelope)
  rw [List.nil_append] at handed
  by_cases sent : (pumped.update.transport.send envelope).1 = true
  · rw [if_pos sent] at handed
    have pumpedAgain := handed.trans (pump_takes _)
    rw [List.append_nil] at pumpedAgain
    unfold KcpRtcPumpedTransport.send
    dsimp only
    rw [if_pos sent]
    exact pumpedAgain
  · rw [if_neg sent] at handed
    unfold KcpRtcPumpedTransport.send
    dsimp only
    rw [if_neg sent]
    exact handed

/-! Every run over every channel. -/

/-- A run loses no frame exactly when the channel accepts, in every call of the
pump, every frame that was queued. `Send` of the pumped transport, which pumps on
both sides of it, is such a run over the channel it has. -/
theorem pump_lossless_iff {Channel : Type u} (io : DataChannel Channel)
    (transport : KcpRtcTransport) (channel : Channel) (calls : List (FrameCall Channel)) :
    (Lossless transport (frameRun io transport channel calls) ↔
      Runs.EveryStep (frameStep io) (AcceptsQueued io) { transport, channel } calls) ∧
    ∀ (pumped : KcpRtcPumpedTransport) (envelope : NetworkEnvelope),
      Takes pumped (pumped.send envelope).2
        (if (pumped.send envelope).1 then [encodeTransportPacket envelope] else []) := by
  refine ⟨?_, pumped_send_takes⟩
  rw [lossless_iff_nothing_refused transport (run_books io transport channel calls)]
  exact (run_refuses io { transport, channel } calls).trans (and_iff_right rfl)

/-- A channel that closes after the first frame: the second is in neither. -/
theorem pump_loses_frame :
    ¬∀ (transport : KcpRtcTransport) (channel : InMemoryRtcDataChannel)
      (calls : List (FrameCall InMemoryRtcDataChannel)),
      Lossless transport (frameRun inMemory transport channel calls) := by
  intro all
  have lossless := all
    { config := { localPeerId := 1, peerName := [99], signalingUrl := [109] } }
    { stateValue := .opened }
    [.signal .connect, .signal .notifyDataChannelReady, .send { payload := [1] }, .pump 1,
      .channelChanged {}, .send { payload := [2] }, .pump 1]
  exact absurd lossless (by decide +kernel)

end Brawololo.FramePumps
