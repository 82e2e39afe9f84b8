import Brawololo.RtcChannels
import Brawololo.Runs

/-!
Any number of signaling clients on one hub, with the calls made on them in any
order and a record of what they have sent. The hub routes by session but keeps
one queue for each peer id, so a client that connects under the peer id of
another takes over its queue: the other then polls the messages of a session
that is not its own.
-/

namespace Brawololo.RtcSessions

open GameTypes EntityStore RtcSignaling RtcChannels Runs

variable {ι : Type} [DecidableEq ι]

/-- The hub, its clients and the messages that a client's `Send` has accepted. -/
structure Sessions (ι : Type) where
  hub : InMemoryRtcSignalingHub := {}
  clients : ι → InMemoryRtcSignalingClient
  sent : List (ι × RtcSignalingMessage) := []

inductive Call (ι : Type) where
  | connect (caller : ι)
  | send (caller : ι) (message : RtcSignalingMessage)
  | poll (caller : ι)
  | close (caller : ι)

namespace Sessions

/-- New clients with the configurations they are made with. -/
def opening (configs : ι → RtcSignalingClientConfig) : Sessions ι :=
  { clients := fun client => { config := configs client } }

/-- A client with the hub as it is when the client is called. -/
def called (sessions : Sessions ι) (caller : ι) : InMemoryRtcSignalingClient :=
  { sessions.clients caller with hub := sessions.hub }

def returned (sessions : Sessions ι) (caller : ι) (client : InMemoryRtcSignalingClient) :
    Sessions ι :=
  { sessions with
    hub := client.hub
    clients := Function.update sessions.clients caller client }

def record (sessions : Sessions ι) (caller : ι) (message : RtcSignalingMessage)
    (accepted : Bool) : Sessions ι :=
  { sessions with
    sent := if accepted then sessions.sent ++ [(caller, message)] else sessions.sent }

def step (sessions : Sessions ι) : Call ι → Sessions ι
  | .connect caller => sessions.returned caller (sessions.called caller).connect.2
  | .send caller message =>
      let sending := (sessions.called caller).send message
      (sessions.returned caller sending.2).record caller message sending.1
  | .poll caller => sessions.returned caller (sessions.called caller).poll.2
  | .close caller => sessions.returned caller (sessions.called caller).close

def config (sessions : Sessions ι) (client : ι) : RtcSignalingClientConfig :=
  (sessions.clients client).config

end Sessions

/-- A message of the session that one of its clients has sent, to all of them or
to the peer. -/
structure Posted (sessions : Sessions ι) (sessionId : List UInt8) (peerId : ClientId)
    (message : RtcSignalingMessage) : Prop where
  session : message.sessionId = sessionId
  sender : ∃ sender, (sender, message) ∈ sessions.sent ∧
    (sessions.config sender).sessionId = sessionId
  target : message.targetPeerId = 0 ∨ message.targetPeerId = peerId

/-- What a poll returns was posted to its client in the client's session. -/
def Isolated (sessions : Sessions ι) : Call ι → Prop
  | .poll caller => ∀ message, (sessions.called caller).poll.1 = some message →
      Posted sessions (sessions.config caller).sessionId (sessions.config caller).peerId message
  | _ => True

/-- A connected client polls a queue of its own session, or an empty one. -/
def OwnQueue (sessions : Sessions ι) : Call ι → Prop
  | .poll caller => (sessions.clients caller).state = .connected →
      ∀ peer, sessions.hub.peers[(sessions.config caller).peerId]? = some peer →
        peer.incoming = [] ∨ peer.sessionId = (sessions.config caller).sessionId
  | _ => True

/-- A queue holds what was posted to its peer in the queue's session. -/
def Sorted (sessions : Sessions ι) : Prop :=
  ∀ (peerId : ClientId) (peer : PeerQueue), sessions.hub.peers[peerId]? = some peer → ∀ bytes ∈ peer.incoming,
    ∃ message, Carried message ∧ bytes = serializeRtcSignalingMessage message ∧
      Posted sessions peer.sessionId peerId message

/-! What a call keeps. -/

/-- The clients keep their configurations and what was sent stays sent. -/
structure Kept (before after : Sessions ι) : Prop where
  config : ∀ client, after.config client = before.config client
  sent : ∀ entry ∈ before.sent, entry ∈ after.sent

omit [DecidableEq ι] in
theorem Posted.kept {before after : Sessions ι} (kept : Kept before after)
    {sessionId : List UInt8} {peerId : ClientId} {message : RtcSignalingMessage}
    (posted : Posted before sessionId peerId message) :
    Posted after sessionId peerId message := by
  obtain ⟨sender, isSent, same⟩ := posted.sender
  refine ⟨posted.session, ⟨sender, kept.sent _ isSent, ?_⟩, posted.target⟩
  rw [kept.config sender]
  exact same

theorem returned_config (sessions : Sessions ι) (caller : ι) (client : InMemoryRtcSignalingClient)
    (same : client.config = sessions.config caller) (other : ι) :
    (sessions.returned caller client).config other = sessions.config other := by
  unfold Sessions.config Sessions.returned
  dsimp only
  rw [Function.update_apply]
  split_ifs with isCaller
  · rw [isCaller]
    exact same
  · rfl

theorem returned_kept (sessions : Sessions ι) (caller : ι) (client : InMemoryRtcSignalingClient)
    (same : client.config = sessions.config caller) :
    Kept sessions (sessions.returned caller client) :=
  ⟨returned_config sessions caller client same, fun _ isSent => isSent⟩

omit [DecidableEq ι] in
theorem record_kept (sessions : Sessions ι) (caller : ι) (message : RtcSignalingMessage)
    (accepted : Bool) : Kept sessions (sessions.record caller message accepted) := by
  refine ⟨fun _ => rfl, ?_⟩
  intro entry isSent
  unfold Sessions.record
  dsimp only
  split_ifs
  · exact List.mem_append_left _ isSent
  · exact isSent

omit [DecidableEq ι] in
/-- Queues that a call has at most shortened stay sorted. -/
theorem sorted_of_shorter {before after : Sessions ι} (sorted : Sorted before)
    (kept : Kept before after)
    (shorter : ∀ (peerId : ClientId) (peer : PeerQueue), after.hub.peers[peerId]? = some peer →
      peer.incoming = [] ∨ ∃ old, before.hub.peers[peerId]? = some old ∧
        peer.sessionId = old.sessionId ∧ ∀ bytes ∈ peer.incoming, bytes ∈ old.incoming) :
    Sorted after := by
  intro peerId peer stored bytes waits
  rcases shorter peerId peer stored with empty | ⟨old, wasStored, same, fewer⟩
  · rw [empty] at waits
    cases waits
  · obtain ⟨message, carried, isBytes, posted⟩ := sorted peerId old wasStored bytes (fewer bytes waits)
    rw [same]
    exact ⟨message, carried, isBytes, posted.kept kept⟩

/-! The calls, one by one. -/

theorem connect_sorted (sessions : Sessions ι) (caller : ι) (sorted : Sorted sessions) :
    Sorted (sessions.step (.connect caller)) := by
  refine sorted_of_shorter sorted
    (returned_kept sessions caller _ (sessions.called caller).connect_config) ?_
  intro peerId peer stored
  have sameQueue : sessions.hub.peers[peerId]? = some peer →
      ∃ old, sessions.hub.peers[peerId]? = some old ∧ peer.sessionId = old.sessionId ∧
        ∀ bytes ∈ peer.incoming, bytes ∈ old.incoming :=
    fun found => ⟨peer, found, rfl, fun _ waits => waits⟩
  change (sessions.called caller).connect.2.hub.peers[peerId]? = some peer at stored
  unfold InMemoryRtcSignalingClient.connect at stored
  dsimp only at stored
  split_ifs at stored with invalid refused
  · exact Or.inr (sameQueue stored)
  · exact Or.inr (sameQueue stored)
  · have valid : (sessions.called caller).config.peerId ≠ 0 ∧
        (sessions.called caller).config.sessionId ≠ [] := by
      simpa [InMemoryRtcSignalingClient.hasValidConfig] using invalid
    dsimp only at stored
    rw [InMemoryRtcSignalingHub.register_get _ valid.1 valid.2] at stored
    split_ifs at stored with isCaller
    · cases stored
      exact Or.inl rfl
    · exact Or.inr (sameQueue stored)

theorem close_sorted (sessions : Sessions ι) (caller : ι) (sorted : Sorted sessions) :
    Sorted (sessions.step (.close caller)) := by
  refine sorted_of_shorter sorted (returned_kept sessions caller _ rfl) ?_
  intro peerId peer stored
  change (sessions.hub.peers.erase (sessions.config caller).peerId)[peerId]? = some peer at stored
  rw [get_erase] at stored
  split_ifs at stored
  exact Or.inr ⟨peer, stored, rfl, fun _ waits => waits⟩

theorem poll_sorted (sessions : Sessions ι) (caller : ι) (sorted : Sorted sessions) :
    Sorted (sessions.step (.poll caller)) := by
  refine sorted_of_shorter sorted
    (returned_kept sessions caller _ (sessions.called caller).poll_same_peer.config) ?_
  intro peerId peer stored
  change (sessions.called caller).poll.2.hub.peers[peerId]? = some peer at stored
  unfold InMemoryRtcSignalingClient.poll at stored
  split_ifs at stored
  · exact Or.inr ⟨peer, stored, rfl, fun _ waits => waits⟩
  · rw [((sessions.called caller).count_poll_keeps _).2] at stored
    rcases (sessions.called caller).hub.poll_cases (sessions.called caller).config.peerId with
      idle | ⟨own, bytes, rest, isOwn, waiting, polled⟩
    · rw [idle] at stored
      exact Or.inr ⟨peer, stored, rfl, fun _ waits => waits⟩
    · rw [polled] at stored
      dsimp only at stored
      rw [get_insert] at stored
      split_ifs at stored with isCaller
      · cases stored
        rw [isCaller] at isOwn
        refine Or.inr ⟨own, isOwn, rfl, ?_⟩
        intro other waits
        rw [waiting]
        exact List.mem_cons_of_mem bytes waits
      · exact Or.inr ⟨peer, stored, rfl, fun _ waits => waits⟩

theorem send_sorted (sessions : Sessions ι) (caller : ι) (message : RtcSignalingMessage)
    (sorted : Sorted sessions) : Sorted (sessions.step (.send caller message)) := by
  have kept : Kept sessions (sessions.step (.send caller message)) := by
    have first := returned_kept sessions caller _
      ((sessions.called caller).send_same_peer message).config
    have second := record_kept (sessions.returned caller ((sessions.called caller).send message).2)
      caller message ((sessions.called caller).send message).1
    exact ⟨fun other => (second.config other).trans (first.config other),
      fun entry isSent => second.sent entry (first.sent entry isSent)⟩
  have sameHub (peerId : ClientId) (peer : PeerQueue)
      (found : sessions.hub.peers[peerId]? = some peer) : ∀ bytes ∈ peer.incoming,
      ∃ message', Carried message' ∧ bytes = serializeRtcSignalingMessage message' ∧
        Posted (sessions.step (.send caller message)) peer.sessionId peerId message' := by
    intro bytes waits
    obtain ⟨other, carried, isBytes, posted⟩ := sorted peerId peer found bytes waits
    exact ⟨other, carried, isBytes, posted.kept kept⟩
  rcases (sessions.called caller).send_cases message with idle | ⟨⟨ok, session⟩, accepted, routed⟩
  · intro peerId peer stored
    change ((sessions.called caller).send message).2.hub.peers[peerId]? = some peer at stored
    rw [idle] at stored
    exact sameHub peerId peer stored
  · intro peerId peer stored
    change ((sessions.called caller).send message).2.hub.peers[peerId]? = some peer at stored
    rw [routed] at stored
    rcases InMemoryRtcSignalingHub.route_cases _ _ stored with
      old | ⟨delivered, before, decoded, wasStored, isPushed, isDecoded, same, target⟩
    · exact sameHub peerId peer old
    · subst isPushed
      intro bytes waits
      rcases List.mem_append.mp waits with old | new
      · exact sameHub peerId before wasStored bytes old
      · -- A longer session does not come through the wire.
        have short : message.sessionId.length ≤ 256 := by
          by_contra long
          rw [decode_uncarried message (Nat.lt_of_not_le long)] at isDecoded
          cases isDecoded
        rw [decode_complete message ⟨ok, short⟩] at isDecoded
        cases isDecoded
        have recorded : (caller, message) ∈ (sessions.step (.send caller message)).sent := by
          change (caller, message) ∈ if ((sessions.called caller).send message).1 then
            sessions.sent ++ [(caller, message)] else sessions.sent
          rw [accepted, if_pos delivered]
          exact List.mem_append_right _ List.mem_cons_self
        refine ⟨message, ⟨ok, short⟩, List.mem_singleton.mp new, same, ⟨caller, recorded, ?_⟩, target⟩
        rw [kept.config caller]
        exact session.symm.trans same

theorem step_sorted (sessions : Sessions ι) (call : Call ι) (sorted : Sorted sessions) :
    Sorted (sessions.step call) := by
  cases call with
  | connect caller => exact connect_sorted sessions caller sorted
  | send caller message => exact send_sorted sessions caller message sorted
  | poll caller => exact poll_sorted sessions caller sorted
  | close caller => exact close_sorted sessions caller sorted

omit [DecidableEq ι] in
/-- With the queues sorted a poll is isolated exactly if its queue is the
client's own. -/
theorem isolated_iff (sessions : Sessions ι) (call : Call ι) (sorted : Sorted sessions) :
    Isolated sessions call ↔ OwnQueue sessions call := by
  cases call with
  | connect caller => exact Iff.rfl
  | send caller message => exact Iff.rfl
  | close caller => exact Iff.rfl
  | poll caller =>
      constructor
      · intro isolated connected peer stored
        cases waiting : peer.incoming with
        | nil => exact Or.inl rfl
        | cons bytes rest =>
            obtain ⟨message, carried, isBytes, posted⟩ :=
              sorted _ peer stored bytes (by rw [waiting]; exact List.mem_cons_self)
            rw [isBytes] at waiting
            have polled :=
              (sessions.called caller).poll_carried carried connected stored waiting
            exact Or.inr (posted.session.symm.trans (isolated message polled.1).session)
      · intro own message polled
        by_cases connected : (sessions.called caller).state = .connected
        · rcases (sessions.called caller).hub.poll_cases (sessions.called caller).config.peerId with
            -- A client that polls something is connected and has a queue.
            idle | ⟨peer, bytes, rest, stored, waiting, found⟩
          · unfold InMemoryRtcSignalingClient.poll at polled
            rw [if_neg (not_not.mpr connected), idle] at polled
            cases polled
          · obtain ⟨first, carried, isBytes, posted⟩ :=
              sorted _ peer stored bytes (by rw [waiting]; exact List.mem_cons_self)
            rw [isBytes] at waiting
            have isFirst :=
              ((sessions.called caller).poll_carried carried connected stored waiting).1
            rw [polled] at isFirst
            cases isFirst
            rcases own connected peer stored with empty | same
            · rw [waiting] at empty
              cases empty
            · rw [← same]
              exact posted
        · have idle := (sessions.called caller).poll_idle (Or.inl connected)
          rw [idle] at polled
          cases polled

omit [DecidableEq ι] in
theorem opening_sorted (configs : ι → RtcSignalingClientConfig) :
    Sorted (Sessions.opening configs) := by
  intro peerId peer stored
  exact absurd stored (by simp [Sessions.opening])

/-- In every order of calls on any clients of one hub, the polls return nothing
but messages posted to their clients in their sessions exactly if every connected
client that polls finds the queue of its peer id empty or of its session. -/
theorem sessions_isolated_iff (configs : ι → RtcSignalingClientConfig) (calls : List (Call ι)) :
    EveryStep Sessions.step Isolated (Sessions.opening configs) calls ↔
      EveryStep Sessions.step OwnQueue (Sessions.opening configs) calls :=
  every_step_iff Sessions.step Sorted Isolated OwnQueue
    (fun sessions call sorted => step_sorted sessions call sorted) isolated_iff
    (Sessions.opening configs) (opening_sorted configs) calls

/-! A client of one session takes over the peer id of a client of another. -/

def twoSessions : Fin 3 → RtcSignalingClientConfig
  | 0 => { peerId := 1, sessionId := [97] }
  | 1 => { peerId := 1, sessionId := [98] }
  | 2 => { peerId := 2, sessionId := [98] }

/-- The third client sends to the second, and the first polls. -/
def takeover : List (Call (Fin 3)) :=
  [.connect 0, .connect 1, .connect 2,
    .send 2 { kind := .offer, senderPeerId := 2, targetPeerId := 1, sessionId := [98] },
    .poll 0]

theorem sessions_not_isolated :
    ¬ ∀ (ι : Type) [DecidableEq ι] (configs : ι → RtcSignalingClientConfig)
      (calls : List (Call ι)),
      EveryStep Sessions.step Isolated (Sessions.opening configs) calls := by
  intro all
  have last := (every_step_iff_split Sessions.step Isolated _ _).mp
    (all (Fin 3) twoSessions takeover) (takeover.take 4) (.poll 0) [] rfl
  let sessions := run Sessions.step (Sessions.opening twoSessions) (takeover.take 4)
  have polled : (sessions.called 0).poll.1 = some
      { kind := .offer, senderPeerId := 2, targetPeerId := 1, sessionId := [98] } := by
    decide +kernel
  have session := (last _ polled).session
  have own : (sessions.config 0).sessionId = [97] := by decide +kernel
  rw [own] at session
  exact absurd session (by decide)

end Brawololo.RtcSessions
