import Brawololo.RtcSignaling
import Brawololo.EntityStore

/-!
The in-memory ends of an RTC pair: the hub that routes signaling messages
between the peers registered with it, a peer's client of the hub, and a peer's
endpoint of the data channel. A client and an endpoint hold what they share as
it is when they are called.
-/

namespace Brawololo.RtcChannels

open GameTypes EntityStore RtcSignaling

/-! The hub. -/

structure PeerQueue where
  sessionId : List UInt8
  incoming : List (List UInt8) := []
  deriving DecidableEq

def PeerQueue.push (peer : PeerQueue) (bytes : List UInt8) : PeerQueue :=
  { peer with incoming := peer.incoming ++ [bytes] }

structure InMemoryRtcSignalingHub where
  peers : UnorderedMap ClientId PeerQueue := {}

namespace InMemoryRtcSignalingHub

def registerPeer (hub : InMemoryRtcSignalingHub) (peerId : ClientId) (sessionId : List UInt8) :
    Bool × InMemoryRtcSignalingHub :=
  if peerId = 0 ∨ sessionId = [] then (false, hub)
  else (true, { peers := hub.peers.insert peerId { sessionId } })

def unregisterPeer (hub : InMemoryRtcSignalingHub) (peerId : ClientId) :
    InMemoryRtcSignalingHub :=
  { peers := hub.peers.erase peerId }

/-- Who of the peers a message without a target goes to. -/
def heardBy (message : RtcSignalingMessage) (peerId : ClientId) (peer : PeerQueue) : Bool :=
  !(peerId = message.senderPeerId || peer.sessionId ≠ message.sessionId)

def route (hub : InMemoryRtcSignalingHub) (bytes : List UInt8) : Bool × InMemoryRtcSignalingHub :=
  match (deserializeRtcSignalingMessage bytes).message with
  | none => (false, hub)
  | some message =>
      match hub.peers[message.senderPeerId]? with
      | none => (false, hub)
      | some sender =>
          if sender.sessionId ≠ message.sessionId then (false, hub)
          else if message.targetPeerId ≠ 0 then
            match hub.peers[message.targetPeerId]? with
            | none => (false, hub)
            | some target =>
                if target.sessionId ≠ message.sessionId then (false, hub)
                else (true, { peers := hub.peers.modify message.targetPeerId (·.push bytes) })
          else
            (hub.peers.any (heardBy message),
              { peers := hub.peers.map fun peerId peer =>
                  if heardBy message peerId peer then peer.push bytes else peer })

def poll (hub : InMemoryRtcSignalingHub) (peerId : ClientId) :
    Option (List UInt8) × InMemoryRtcSignalingHub :=
  match hub.peers[peerId]? with
  | none => (none, hub)
  | some peer =>
      match peer.incoming with
      | [] => (none, hub)
      | bytes :: rest =>
          (some bytes, { peers := hub.peers.insert peerId { peer with incoming := rest } })

/-- How many messages wait for the peer. -/
def queued (hub : InMemoryRtcSignalingHub) (peerId : ClientId) : Nat :=
  ((hub.peers[peerId]?).map fun peer => peer.incoming.length).getD 0

/-- The peer is registered with the session of the message. -/
def Registered (hub : InMemoryRtcSignalingHub) (peerId : ClientId) (sessionId : List UInt8) :
    Prop :=
  ∃ peer, hub.peers[peerId]? = some peer ∧ peer.sessionId = sessionId

/-- A message is for one peer of the session or for all but its sender. -/
def addresses (message : RtcSignalingMessage) (peerId : ClientId) : Bool :=
  if message.targetPeerId ≠ 0 then peerId = message.targetPeerId
  else peerId ≠ message.senderPeerId

theorem register_get (hub : InMemoryRtcSignalingHub) {peerId : ClientId}
    {sessionId : List UInt8} (nonzero : peerId ≠ 0) (named : sessionId ≠ []) (other : ClientId) :
    (hub.registerPeer peerId sessionId).2.peers[other]? =
      if peerId = other then some { sessionId } else hub.peers[other]? := by
  unfold registerPeer
  rw [if_neg (not_or.mpr ⟨nonzero, named⟩)]
  exact get_insert hub.peers peerId other _

/-- What a message that the wire carries puts into the queue of a peer of its
session. -/
theorem route_get (hub : InMemoryRtcSignalingHub) {message : RtcSignalingMessage}
    (carried : Carried message)
    (registered : hub.Registered message.senderPeerId message.sessionId) (other : ClientId)
    (session : ∀ peer, hub.peers[other]? = some peer → peer.sessionId = message.sessionId) :
    (hub.route (serializeRtcSignalingMessage message)).2.peers[other]? =
      if addresses message other then
        (hub.peers[other]?).map (·.push (serializeRtcSignalingMessage message))
      else hub.peers[other]? := by
  obtain ⟨sender, isSender, same⟩ := registered
  unfold route
  rw [decode_complete message carried]
  dsimp only
  rw [isSender]
  dsimp only
  rw [if_neg (not_not.mpr same)]
  unfold addresses
  by_cases targeted : message.targetPeerId ≠ 0
  · rw [if_pos targeted, if_pos targeted]
    simp only [decide_eq_true_eq]
    -- With a target it goes there only, if the target is of the session.
    cases stored : hub.peers[message.targetPeerId]? with
    | none =>
        dsimp only
        split_ifs with isTarget
        · rw [isTarget, stored]
          rfl
        · rfl
    | some target =>
        dsimp only
        by_cases isTarget : other = message.targetPeerId
        · subst isTarget
          rw [if_neg (not_not.mpr (session target stored)), if_pos rfl]
          dsimp only
          rw [get_modify, if_pos rfl]
        · rw [if_neg isTarget]
          split_ifs
          · rfl
          · dsimp only
            rw [get_modify, if_neg (Ne.symm isTarget)]
  · -- Without one it goes to every peer of the session but the sender.
    rw [if_neg targeted, if_neg targeted]
    dsimp only
    rw [Std.ExtTreeMap.getElem?_map]
    cases stored : hub.peers[other]? with
    | none => simp
    | some peer =>
        have hears : heardBy message other peer = decide (other ≠ message.senderPeerId) := by
          unfold heardBy
          simp [session peer stored]
        rw [Option.map_some, hears]
        split_ifs with isOther
        · simp
        · simp

/-- A queue after a call of `Route` is as it was, or the call has delivered the
message to a peer of its session. -/
theorem route_cases (hub : InMemoryRtcSignalingHub) (bytes : List UInt8) {peerId : ClientId}
    {after : PeerQueue} (stored : (hub.route bytes).2.peers[peerId]? = some after) :
    hub.peers[peerId]? = some after ∨
      (hub.route bytes).1 = true ∧ ∃ before message, hub.peers[peerId]? = some before ∧
        after = before.push bytes ∧
        (deserializeRtcSignalingMessage bytes).message = some message ∧
        message.sessionId = before.sessionId ∧
        (message.targetPeerId = 0 ∨ message.targetPeerId = peerId) := by
  unfold route at stored ⊢
  cases decoded : (deserializeRtcSignalingMessage bytes).message with
  | none =>
      rw [decoded] at stored
      exact Or.inl stored
  | some message =>
      rw [decoded] at stored
      dsimp only at stored ⊢
      cases isSender : hub.peers[message.senderPeerId]? with
      | none =>
          rw [isSender] at stored
          exact Or.inl stored
      | some sender =>
          rw [isSender] at stored
          dsimp only at stored ⊢
          split_ifs at stored ⊢ with otherSession targeted
          · exact Or.inl stored
          · cases isTarget : hub.peers[message.targetPeerId]? with
            | none =>
                rw [isTarget] at stored
                exact Or.inl stored
            | some target =>
                rw [isTarget] at stored
                dsimp only at stored ⊢
                split_ifs at stored ⊢ with otherTarget
                · exact Or.inl stored
                · dsimp only at stored ⊢
                  rw [get_modify] at stored
                  split_ifs at stored with isPeer
                  · rw [isPeer] at isTarget
                    rw [isTarget] at stored
                    cases stored
                    exact Or.inr ⟨rfl, target, message, isTarget, rfl, rfl,
                      (not_not.mp otherTarget).symm, Or.inr isPeer⟩
                  · exact Or.inl stored
          · -- without a target: every peer of the session but the sender
            dsimp only at stored ⊢
            rw [Std.ExtTreeMap.getElem?_map] at stored
            cases isPeer : hub.peers[peerId]? with
            | none =>
                rw [isPeer] at stored
                cases stored
            | some before =>
                rw [isPeer] at stored
                cases stored
                dsimp only
                split_ifs with heard
                · right
                  have same : before.sessionId = message.sessionId := by
                    unfold heardBy at heard
                    simp only [Bool.not_eq_true', Bool.or_eq_false_iff, decide_eq_false_iff_not,
                      not_not] at heard
                    exact heard.2
                  exact ⟨any_of_get hub.peers _ isPeer heard, before, message, rfl, rfl, rfl,
                    same.symm, Or.inl (not_not.mp targeted)⟩
                · exact Or.inl rfl

/-- What the wire does not carry goes nowhere. -/
theorem route_uncarried (hub : InMemoryRtcSignalingHub) {message : RtcSignalingMessage}
    (long : 256 < message.sessionId.length) :
    hub.route (serializeRtcSignalingMessage message) = (false, hub) := by
  unfold route
  rw [decode_uncarried message long]

theorem poll_empty (hub : InMemoryRtcSignalingHub) (peerId : ClientId)
    (empty : hub.queued peerId = 0) : hub.poll peerId = (none, hub) := by
  unfold queued at empty
  unfold poll
  cases stored : hub.peers[peerId]? with
  | none => rfl
  | some peer =>
      rw [stored] at empty
      have noMessage : peer.incoming = [] := List.length_eq_zero_iff.mp empty
      dsimp only
      rw [noMessage]

theorem poll_message (hub : InMemoryRtcSignalingHub) {peerId : ClientId} {peer : PeerQueue}
    {bytes : List UInt8} {rest : List (List UInt8)} (stored : hub.peers[peerId]? = some peer)
    (first : peer.incoming = bytes :: rest) :
    hub.poll peerId =
      (some bytes, { peers := hub.peers.insert peerId { peer with incoming := rest } }) := by
  unfold poll
  rw [stored]
  dsimp only
  rw [first]

/-- A queue after a poll is as it was, or has lost its first message to it. -/
theorem poll_cases (hub : InMemoryRtcSignalingHub) (peerId : ClientId) :
    hub.poll peerId = (none, hub) ∨
      ∃ peer bytes rest, hub.peers[peerId]? = some peer ∧ peer.incoming = bytes :: rest ∧
        hub.poll peerId =
          (some bytes, { peers := hub.peers.insert peerId { peer with incoming := rest } }) := by
  cases stored : hub.peers[peerId]? with
  | none =>
      left
      unfold poll
      rw [stored]
  | some peer =>
      cases waiting : peer.incoming with
      | nil =>
          left
          unfold poll
          rw [stored]
          dsimp only
          rw [waiting]
      | cons bytes rest =>
          exact Or.inr ⟨peer, bytes, rest, rfl, waiting, hub.poll_message stored waiting⟩

theorem poll_queued (hub : InMemoryRtcSignalingHub) (peerId : ClientId) {bytes : List UInt8}
    (polled : (hub.poll peerId).1 = some bytes) :
    (hub.poll peerId).2.queued peerId < hub.queued peerId := by
  unfold queued
  cases stored : hub.peers[peerId]? with
  | none =>
      unfold poll at polled
      rw [stored] at polled
      cases polled
  | some peer =>
      cases waiting : peer.incoming with
      | nil =>
          unfold poll at polled
          rw [stored] at polled
          dsimp only at polled
          rw [waiting] at polled
          cases polled
      | cons first rest =>
          rw [poll_message hub stored waiting]
          dsimp only
          rw [get_insert, if_pos rfl]
          simp [waiting]

end InMemoryRtcSignalingHub

/-! A peer's client of the hub. -/

inductive RtcSignalingConnectionState where
  | disconnected
  | connected
  | failed
  deriving DecidableEq

inductive RtcSignalingClientError where
  | none
  | invalidConfiguration
  | notConnected
  | notImplemented
  | protocolRejected
  | routeUnavailable
  deriving DecidableEq

structure RtcSignalingClientConfig where
  peerId : ClientId := 0
  sessionId : List UInt8 := "default".toUTF8.toList
  deriving DecidableEq

structure RtcSignalingClientStats where
  messagesSent : Nat := 0
  messagesReceived : Nat := 0
  sendFailures : Nat := 0
  receiveFailures : Nat := 0
  bytesSent : Nat := 0
  bytesReceived : Nat := 0
  deriving DecidableEq

structure InMemoryRtcSignalingClient where
  hub : InMemoryRtcSignalingHub := {}
  config : RtcSignalingClientConfig := {}
  state : RtcSignalingConnectionState := .disconnected
  stats : RtcSignalingClientStats := {}
  lastError : RtcSignalingClientError := .none

namespace InMemoryRtcSignalingClient

def hasValidConfig (client : InMemoryRtcSignalingClient) : Bool :=
  client.config.peerId ≠ 0 && client.config.sessionId ≠ []

def refuse (client : InMemoryRtcSignalingClient) : InMemoryRtcSignalingClient :=
  { client with state := .failed, lastError := .invalidConfiguration }

def connect (client : InMemoryRtcSignalingClient) : Bool × InMemoryRtcSignalingClient :=
  if !client.hasValidConfig then (false, client.refuse)
  else
    let registered := client.hub.registerPeer client.config.peerId client.config.sessionId
    if !registered.1 then (false, client.refuse)
    else (true, { client with hub := registered.2, state := .connected, lastError := .none })

def close (client : InMemoryRtcSignalingClient) : InMemoryRtcSignalingClient :=
  { client with
    hub := client.hub.unregisterPeer client.config.peerId
    state := .disconnected
    lastError := .none }

def failSend (client : InMemoryRtcSignalingClient) (error : RtcSignalingClientError) :
    InMemoryRtcSignalingClient :=
  { client with
    stats := { client.stats with sendFailures := client.stats.sendFailures + 1 }
    lastError := error }

/-- `Send` after the hub was asked to route the message. -/
def countSend (client : InMemoryRtcSignalingClient) (size : Nat) :
    Bool × InMemoryRtcSignalingHub → Bool × InMemoryRtcSignalingClient
  | (false, hub) => (false, { client with hub }.failSend .routeUnavailable)
  | (true, hub) =>
      (true, { client with
        hub
        stats := { client.stats with
          messagesSent := client.stats.messagesSent + 1
          bytesSent := client.stats.bytesSent + size }
        lastError := .none })

def send (client : InMemoryRtcSignalingClient) (message : RtcSignalingMessage) :
    Bool × InMemoryRtcSignalingClient :=
  if client.state ≠ .connected then (false, client.failSend .notConnected)
  else if ¬message.Ok ∨ message.senderPeerId ≠ client.config.peerId ∨
      message.sessionId ≠ client.config.sessionId then
    (false, client.failSend .protocolRejected)
  else
    client.countSend (serializeRtcSignalingMessage message).length
      (client.hub.route (serializeRtcSignalingMessage message))

/-- `Poll` after the hub was asked for a message. -/
def countPoll (client : InMemoryRtcSignalingClient) :
    Option (List UInt8) × InMemoryRtcSignalingHub →
      Option RtcSignalingMessage × InMemoryRtcSignalingClient
  | (none, hub) => (none, { client with hub })
  | (some bytes, hub) =>
      match (deserializeRtcSignalingMessage bytes).message with
      | none =>
          (none, { client with
            hub
            stats := { client.stats with receiveFailures := client.stats.receiveFailures + 1 }
            lastError := .protocolRejected })
      | some message =>
          (some message, { client with
            hub
            stats := { client.stats with
              messagesReceived := client.stats.messagesReceived + 1
              bytesReceived := client.stats.bytesReceived + bytes.length }
            lastError := .none })

def poll (client : InMemoryRtcSignalingClient) :
    Option RtcSignalingMessage × InMemoryRtcSignalingClient :=
  if client.state ≠ .connected then (none, client)
  else client.countPoll (client.hub.poll client.config.peerId)

/-- The client after a call: it is the same peer in the same state. -/
structure SamePeer (before after : InMemoryRtcSignalingClient) : Prop where
  config : after.config = before.config
  state : after.state = before.state

theorem SamePeer.trans {first second third : InMemoryRtcSignalingClient}
    (left : SamePeer first second) (right : SamePeer second third) : SamePeer first third :=
  ⟨right.config.trans left.config, right.state.trans left.state⟩

theorem count_send_keeps (client : InMemoryRtcSignalingClient) (size : Nat)
    (routed : Bool × InMemoryRtcSignalingHub) :
    SamePeer client (client.countSend size routed).2 ∧
      (client.countSend size routed).2.hub = routed.2 := by
  obtain ⟨delivered, hub⟩ := routed
  cases delivered with
  | false => exact ⟨⟨rfl, rfl⟩, rfl⟩
  | true => exact ⟨⟨rfl, rfl⟩, rfl⟩

theorem send_same_peer (client : InMemoryRtcSignalingClient) (message : RtcSignalingMessage) :
    SamePeer client (client.send message).2 := by
  unfold send
  split_ifs
  · exact ⟨rfl, rfl⟩
  · exact ⟨rfl, rfl⟩
  · exact (client.count_send_keeps _ _).1

/-- A connected client routes its own messages, and loses those that are not
valid. -/
theorem send_hub (client : InMemoryRtcSignalingClient) {message : RtcSignalingMessage}
    (connected : client.state = .connected)
    (sender : message.senderPeerId = client.config.peerId)
    (session : message.sessionId = client.config.sessionId) :
    (client.send message).2.hub =
      if message.Ok then (client.hub.route (serializeRtcSignalingMessage message)).2
      else client.hub := by
  unfold send
  rw [if_neg (not_not.mpr connected)]
  by_cases ok : message.Ok
  · rw [if_neg (by simp [ok, sender, session]), if_pos ok]
    exact (client.count_send_keeps _ _).2
  · rw [if_pos (Or.inl ok), if_neg ok]
    rfl

/-- A send leaves the hub alone or has it route a message of the client. -/
theorem send_cases (client : InMemoryRtcSignalingClient) (message : RtcSignalingMessage) :
    (client.send message).2.hub = client.hub ∨
      (message.Ok ∧ message.sessionId = client.config.sessionId) ∧
        (client.send message).1 =
          (client.hub.route (serializeRtcSignalingMessage message)).1 ∧
        (client.send message).2.hub =
          (client.hub.route (serializeRtcSignalingMessage message)).2 := by
  unfold send
  split_ifs with notConnected refused
  · exact Or.inl rfl
  · exact Or.inl rfl
  · right
    simp only [not_or, not_not] at refused
    refine ⟨⟨refused.1, refused.2.2⟩, ?_, (client.count_send_keeps _ _).2⟩
    generalize client.hub.route (serializeRtcSignalingMessage message) = routed
    obtain ⟨delivered, hub⟩ := routed
    cases delivered <;> rfl

theorem connect_config (client : InMemoryRtcSignalingClient) :
    client.connect.2.config = client.config := by
  unfold connect
  dsimp only
  split_ifs <;> rfl

theorem count_poll_keeps (client : InMemoryRtcSignalingClient)
    (polled : Option (List UInt8) × InMemoryRtcSignalingHub) :
    SamePeer client (client.countPoll polled).2 ∧ (client.countPoll polled).2.hub = polled.2 := by
  obtain ⟨found, hub⟩ := polled
  cases found with
  | none => exact ⟨⟨rfl, rfl⟩, rfl⟩
  | some bytes =>
      unfold countPoll
      dsimp only
      cases (deserializeRtcSignalingMessage bytes).message with
      | none => exact ⟨⟨rfl, rfl⟩, rfl⟩
      | some message => exact ⟨⟨rfl, rfl⟩, rfl⟩

theorem poll_same_peer (client : InMemoryRtcSignalingClient) : SamePeer client client.poll.2 := by
  unfold poll
  split_ifs
  · exact ⟨rfl, rfl⟩
  · exact (client.count_poll_keeps _).1

theorem poll_idle (client : InMemoryRtcSignalingClient)
    (idle : client.state ≠ .connected ∨ client.hub.queued client.config.peerId = 0) :
    client.poll = (none, client) := by
  unfold poll
  split_ifs with notConnected
  · rfl
  · rw [client.hub.poll_empty _ (idle.resolve_left notConnected)]
    rfl

theorem poll_carried (client : InMemoryRtcSignalingClient) {message : RtcSignalingMessage}
    {peer : PeerQueue} {rest : List (List UInt8)} (carried : Carried message)
    (connected : client.state = .connected)
    (stored : client.hub.peers[client.config.peerId]? = some peer)
    (first : peer.incoming = serializeRtcSignalingMessage message :: rest) :
    client.poll.1 = some message ∧ client.poll.2.hub.peers =
      client.hub.peers.insert client.config.peerId { peer with incoming := rest } := by
  unfold poll
  rw [if_neg (not_not.mpr connected), client.hub.poll_message stored first]
  unfold countPoll
  dsimp only
  rw [decode_complete message carried]
  exact ⟨rfl, rfl⟩

/-- A poll that finds a message leaves one message less. -/
theorem poll_shrinks (client : InMemoryRtcSignalingClient) {message : RtcSignalingMessage}
    (found : client.poll.1 = some message) :
    client.poll.2.hub.queued client.config.peerId < client.hub.queued client.config.peerId := by
  unfold poll at found ⊢
  split_ifs at found ⊢ with notConnected
  rw [(client.count_poll_keeps _).2]
  cases polled : (client.hub.poll client.config.peerId).1 with
  | none =>
      unfold countPoll at found
      split at found
      · cases found
      · next bytes hub isPolled =>
          rw [isPolled] at polled
          cases polled
  | some bytes => exact client.hub.poll_queued client.config.peerId polled

end InMemoryRtcSignalingClient

/-! A peer's endpoint of the data channel. -/

abbrev Frame := List UInt8

/-- `InMemoryRtcDataChannel::SharedState`. -/
structure SharedState where
  aToB : List Frame := []
  bToA : List Frame := []
  deriving DecidableEq

inductive Endpoint where
  | a
  | b
  deriving DecidableEq

inductive RtcDataChannelState where
  | closed
  | opened
  | failed
  deriving DecidableEq

inductive RtcDataChannelError where
  | none
  | notOpen
  | notImplemented
  | bufferFull
  | invalidFrame
  deriving DecidableEq

structure RtcDataChannelStats where
  framesSent : Nat := 0
  framesReceived : Nat := 0
  sendFailures : Nat := 0
  receiveFailures : Nat := 0
  bytesSent : Nat := 0
  bytesReceived : Nat := 0
  deriving DecidableEq

structure InMemoryRtcDataChannel where
  state : SharedState := {}
  endpoint : Endpoint := .a
  stateValue : RtcDataChannelState := .closed
  stats : RtcDataChannelStats := {}
  lastError : RtcDataChannelError := .none
  deriving DecidableEq

namespace InMemoryRtcDataChannel

def incomingQueue (channel : InMemoryRtcDataChannel) : List Frame :=
  match channel.endpoint with
  | .a => channel.state.bToA
  | .b => channel.state.aToB

def outgoingQueue (channel : InMemoryRtcDataChannel) : List Frame :=
  match channel.endpoint with
  | .a => channel.state.aToB
  | .b => channel.state.bToA

def setIncoming (channel : InMemoryRtcDataChannel) (frames : List Frame) :
    InMemoryRtcDataChannel :=
  match channel.endpoint with
  | .a => { channel with state := { channel.state with bToA := frames } }
  | .b => { channel with state := { channel.state with aToB := frames } }

def setOutgoing (channel : InMemoryRtcDataChannel) (frames : List Frame) :
    InMemoryRtcDataChannel :=
  match channel.endpoint with
  | .a => { channel with state := { channel.state with aToB := frames } }
  | .b => { channel with state := { channel.state with bToA := frames } }

def failSend (channel : InMemoryRtcDataChannel) (error : RtcDataChannelError) :
    InMemoryRtcDataChannel :=
  { channel with
    stats := { channel.stats with sendFailures := channel.stats.sendFailures + 1 }
    lastError := error }

def sendFrame (channel : InMemoryRtcDataChannel) (bytes : Frame) :
    Bool × InMemoryRtcDataChannel :=
  if channel.stateValue ≠ .opened then (false, channel.failSend .notOpen)
  else if bytes = [] then (false, channel.failSend .invalidFrame)
  else
    let sent := channel.setOutgoing (channel.outgoingQueue ++ [bytes])
    (true, { sent with
      stats := { sent.stats with
        framesSent := sent.stats.framesSent + 1
        bytesSent := sent.stats.bytesSent + bytes.length }
      lastError := .none })

def pollFrame (channel : InMemoryRtcDataChannel) : Option Frame × InMemoryRtcDataChannel :=
  if channel.stateValue ≠ .opened then (none, channel)
  else
    match channel.incomingQueue with
    | [] => (none, channel)
    | bytes :: rest =>
        let polled := channel.setIncoming rest
        (some bytes, { polled with
          stats := { polled.stats with
            framesReceived := polled.stats.framesReceived + 1
            bytesReceived := polled.stats.bytesReceived + bytes.length }
          lastError := .none })

end InMemoryRtcDataChannel

end Brawololo.RtcChannels
