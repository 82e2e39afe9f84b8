import Brawololo.EntityStore
import Brawololo.KcpRtcTransport
import Brawololo.Runs

/-!
The loopback transport of one server and many clients: a hub with a queue to the
server and one to each client, and endpoints that connect and close on their
own. Over any calls of the endpoints the envelopes that one has polled and those
that are queued for it are the ones that were sent to it, in order.
-/

namespace Brawololo.LoopbackHub

open GameTypes EntityStore NetworkProtocol
open KcpRtc (TransportState TransportError TransportStats)

/-! The hub. -/

structure Hub where
  toServer : List NetworkEnvelope := []
  toClients : UnorderedMap ClientId (List NetworkEnvelope) := {}

namespace Hub

/-- An entry that is looked up is made when there is none. -/
def toClient (hub : Hub) (clientId : ClientId) : List NetworkEnvelope :=
  (hub.toClients[clientId]?).getD []

def setToClient (hub : Hub) (clientId : ClientId) (queue : List NetworkEnvelope) : Hub :=
  { hub with toClients := hub.toClients.insert clientId queue }

theorem to_client_set (hub : Hub) (clientId other : ClientId) (queue : List NetworkEnvelope) :
    (hub.setToClient clientId queue).toClient other =
      if clientId = other then queue else hub.toClient other := by
  unfold toClient setToClient
  rw [get_insert]
  split <;> rfl

end Hub

/-! The endpoints. -/

inductive Endpoint where
  | server
  | client
  deriving DecidableEq

/-- Only a transport that was made without a hub has none. -/
structure MultiClientLoopbackTransport where
  hasHub : Bool := false
  endpoint : Endpoint := .server
  clientId : ClientId := 0
  state : TransportState := .disconnected
  stats : TransportStats := {}
  lastError : TransportError := .none
  deriving DecidableEq

namespace MultiClientLoopbackTransport

def createServer : MultiClientLoopbackTransport where
  hasHub := true
  endpoint := .server
  state := .connected

def createClient (clientId : ClientId) : MultiClientLoopbackTransport where
  hasHub := true
  endpoint := .client
  clientId := clientId
  state := .connected

def connect (transport : MultiClientLoopbackTransport) : Bool × MultiClientLoopbackTransport :=
  if !transport.hasHub then
    (false, { transport with state := .failed, lastError := .notConnected })
  else (true, { transport with state := .connected, lastError := .none })

def close (transport : MultiClientLoopbackTransport) : MultiClientLoopbackTransport :=
  { transport with state := .disconnected }

def failSend (transport : MultiClientLoopbackTransport) (error : TransportError) :
    MultiClientLoopbackTransport :=
  { transport with
    stats := { transport.stats with sendFailures := transport.stats.sendFailures + 1 }
    lastError := error }

def countSent (transport : MultiClientLoopbackTransport) (envelope : NetworkEnvelope) :
    MultiClientLoopbackTransport :=
  { transport with
    stats := { transport.stats with
      envelopesSent := transport.stats.envelopesSent + 1
      bytesSent := transport.stats.bytesSent + envelope.payload.length }
    lastError := .none }

def send (transport : MultiClientLoopbackTransport) (hub : Hub) (envelope : NetworkEnvelope) :
    Bool × Hub × MultiClientLoopbackTransport :=
  if !transport.hasHub || transport.state ≠ .connected then
    (false, hub, transport.failSend .notConnected)
  else if ¬envelope.Ok then (false, hub, transport.failSend .protocolRejected)
  else
    match transport.endpoint with
    | .client =>
        -- whatever the client wrote into it, the envelope names its sender
        let routed := { envelope with peerId := transport.clientId }
        (true, { hub with toServer := hub.toServer ++ [routed] }, transport.countSent envelope)
    | .server =>
        if envelope.peerId = 0 then (false, hub, transport.failSend .protocolRejected)
        else
          (true, hub.setToClient envelope.peerId (hub.toClient envelope.peerId ++ [envelope]),
            transport.countSent envelope)

/-- The queue that the endpoint polls. -/
def incoming (transport : MultiClientLoopbackTransport) (hub : Hub) : List NetworkEnvelope :=
  match transport.endpoint with
  | .server => hub.toServer
  | .client => hub.toClient transport.clientId

def setIncoming (transport : MultiClientLoopbackTransport) (hub : Hub)
    (queue : List NetworkEnvelope) : Hub :=
  match transport.endpoint with
  | .server => { hub with toServer := queue }
  | .client => hub.setToClient transport.clientId queue

def poll (transport : MultiClientLoopbackTransport) (hub : Hub) :
    Option NetworkEnvelope × Hub × MultiClientLoopbackTransport :=
  if !transport.hasHub || transport.state ≠ .connected then (none, hub, transport)
  else
    match transport.incoming hub with
    | [] => (none, transport.setIncoming hub [], transport)
    | envelope :: rest =>
        if ¬envelope.Ok then
          -- never taken: only valid envelopes are sent, see `poll_queues`
          (none, transport.setIncoming hub rest, { transport with
            stats := { transport.stats with
              receiveFailures := transport.stats.receiveFailures + 1 }
            lastError := .protocolRejected })
        else
          (some envelope, transport.setIncoming hub rest, { transport with
            stats := { transport.stats with
              envelopesReceived := transport.stats.envelopesReceived + 1
              bytesReceived := transport.stats.bytesReceived + envelope.payload.length }
            lastError := .none })

end MultiClientLoopbackTransport

/-! Calls. -/

inductive Party where
  | server
  | client (clientId : ClientId)
  deriving DecidableEq

def createEndpoint : Party → MultiClientLoopbackTransport
  | .server => .createServer
  | .client clientId => .createClient clientId

inductive HubCall where
  | connect (party : Party)
  | close (party : Party)
  | send (party : Party) (envelope : NetworkEnvelope)
  | poll (party : Party)
  deriving DecidableEq

/-- The server and a client of every id; a run calls those of them it has. Beside
them the envelopes that the server sent, those that the clients sent, each with
its sender, and what each endpoint polled. -/
structure HubRecord where
  hub : Hub := {}
  endpoints : Party → MultiClientLoopbackTransport := createEndpoint
  serverSends : List NetworkEnvelope := []
  clientSends : List (ClientId × NetworkEnvelope) := []
  polled : Party → List NetworkEnvelope := fun _ => []

namespace HubRecord

/-- The envelope as sent by the party, if `Send` returned true. -/
def logSend (record : HubRecord) (party : Party) (envelope : NetworkEnvelope) (sent : Bool) :
    HubRecord :=
  if sent then
    match party with
    | .server => { record with serverSends := record.serverSends ++ [envelope] }
    | .client clientId =>
        { record with clientSends := record.clientSends ++ [(clientId, envelope)] }
  else record

def put (record : HubRecord) (party : Party) (hub : Hub)
    (transport : MultiClientLoopbackTransport) : HubRecord :=
  { record with hub, endpoints := Function.update record.endpoints party transport }

end HubRecord

def hubStep (record : HubRecord) : HubCall → HubRecord
  | .connect party => record.put party record.hub (record.endpoints party).connect.2
  | .close party => record.put party record.hub (record.endpoints party).close
  | .send party envelope =>
      let sent := (record.endpoints party).send record.hub envelope
      (record.put party sent.2.1 sent.2.2).logSend party envelope sent.1
  | .poll party =>
      let polled := (record.endpoints party).poll record.hub
      { record.put party polled.2.1 polled.2.2 with
        polled := Function.update record.polled party
          (record.polled party ++ polled.1.toList) }

def hubRun (calls : List HubCall) : HubRecord :=
  Runs.run hubStep {} calls

/-- The envelopes sent to a party: by the server those with the client's id, by
the clients all, each with the id of its sender. -/
def sentTo (record : HubRecord) : Party → List NetworkEnvelope
  | .server => record.clientSends.map fun send => { send.2 with peerId := send.1 }
  | .client clientId => record.serverSends.filter fun envelope => envelope.peerId = clientId

def queuedFor (hub : Hub) : Party → List NetworkEnvelope
  | .server => hub.toServer
  | .client clientId => hub.toClient clientId

/-! What a call does to the queues. -/

/-- The endpoint is the one that was made for the party. -/
structure IsFor (party : Party) (transport : MultiClientLoopbackTransport) : Prop where
  endpoint : transport.endpoint = (createEndpoint party).endpoint
  clientId : transport.clientId = (createEndpoint party).clientId

/-- Validity does not look at the peer. -/
theorem ok_of_peer (envelope : NetworkEnvelope) (peerId : ClientId) :
    { envelope with peerId }.Ok ↔ envelope.Ok :=
  Iff.rfl

def recipient (sender : Party) (envelope : NetworkEnvelope) : Party :=
  match sender with
  | .server => .client envelope.peerId
  | .client _ => .server

def routed (sender : Party) (envelope : NetworkEnvelope) : NetworkEnvelope :=
  match sender with
  | .server => envelope
  | .client clientId => { envelope with peerId := clientId }

section Queues

variable {party : Party} {transport : MultiClientLoopbackTransport} {hub : Hub}

theorem queued_set_client (hub : Hub) (clientId : ClientId) (queue : List NetworkEnvelope)
    (other : Party) :
    queuedFor (hub.setToClient clientId queue) other =
      if other = .client clientId then queue else queuedFor hub other := by
  cases other with
  | server => rfl
  | client otherId =>
      refine (hub.to_client_set clientId otherId queue).trans ?_
      by_cases same : clientId = otherId
      · rw [if_pos same, if_pos (congrArg Party.client same.symm)]
      · rw [if_neg same, if_neg fun isClient => same (Party.client.inj isClient).symm]
        rfl

theorem queued_set_server (hub : Hub) (queue : List NetworkEnvelope) (other : Party) :
    queuedFor { hub with toServer := queue } other =
      if other = .server then queue else queuedFor hub other := by
  cases other with
  | server => rfl
  | client otherId => exact (if_neg (by simp)).symm

theorem incoming_eq (isFor : IsFor party transport) :
    transport.incoming hub = queuedFor hub party := by
  unfold MultiClientLoopbackTransport.incoming
  rw [isFor.endpoint, isFor.clientId]
  cases party <;> rfl

theorem queued_set_incoming (isFor : IsFor party transport) (queue : List NetworkEnvelope)
    (other : Party) :
    queuedFor (transport.setIncoming hub queue) other =
      if other = party then queue else queuedFor hub other := by
  unfold MultiClientLoopbackTransport.setIncoming
  rw [isFor.endpoint, isFor.clientId]
  cases party with
  | server => exact queued_set_server hub queue other
  | client clientId => exact queued_set_client hub clientId queue other

/-- A successful `Send` puts the envelope behind the queue of its recipient. -/
theorem send_queues (isFor : IsFor party transport) (envelope : NetworkEnvelope)
    (sent : (transport.send hub envelope).1 = true) :
    envelope.Ok ∧ ∀ other, queuedFor (transport.send hub envelope).2.1 other =
      if other = recipient party envelope then queuedFor hub other ++ [routed party envelope]
      else queuedFor hub other := by
  unfold MultiClientLoopbackTransport.send at sent ⊢
  rw [isFor.endpoint, isFor.clientId] at sent ⊢
  split at sent
  · cases sent
  · next isOpen =>
      rw [if_neg isOpen]
      split at sent
      · cases sent
      · next valid =>
          rw [if_neg valid]
          refine ⟨not_not.mp valid, ?_⟩
          intro other
          cases party with
          | server =>
              dsimp only [createEndpoint, MultiClientLoopbackTransport.createServer] at sent ⊢
              split at sent
              · cases sent
              · next addressed =>
                  rw [if_neg addressed, queued_set_client]
                  unfold recipient routed
                  split
                  · next isClient => rw [isClient]; rfl
                  · rfl
          | client clientId =>
              refine (queued_set_server hub _ other).trans ?_
              unfold recipient routed
              split
              · next isServer => rw [isServer]; rfl
              · rfl

theorem failed_send_queues (envelope : NetworkEnvelope)
    (failed : (transport.send hub envelope).1 = false) :
    (transport.send hub envelope).2.1 = hub := by
  unfold MultiClientLoopbackTransport.send at failed ⊢
  split
  · rfl
  · next isOpen =>
      rw [if_neg isOpen] at failed
      split
      · rfl
      · next valid =>
          rw [if_neg valid] at failed
          cases kind : transport.endpoint with
          | client => simp [kind] at failed
          | server =>
              by_cases addressed : envelope.peerId = 0
              · simp [addressed]
              · simp [kind, addressed] at failed

/-- `Poll` takes the first envelope of the own queue; when all of them are valid,
it returns what it takes. -/
theorem poll_queues (isFor : IsFor party transport)
    (valid : ∀ envelope ∈ queuedFor hub party, envelope.Ok) :
    queuedFor hub party =
        (transport.poll hub).1.toList ++ queuedFor (transport.poll hub).2.1 party ∧
      ∀ other, other ≠ party → queuedFor (transport.poll hub).2.1 other = queuedFor hub other := by
  unfold MultiClientLoopbackTransport.poll
  split
  · exact ⟨rfl, fun _ _ => rfl⟩
  · rw [incoming_eq isFor]
    cases queued : queuedFor hub party with
    | nil =>
        refine ⟨?_, fun other apart => ?_⟩
        · rw [queued_set_incoming isFor, if_pos rfl]
          rfl
        · rw [queued_set_incoming isFor, if_neg apart]
    | cons envelope rest =>
        have ok : envelope.Ok := valid envelope (by rw [queued]; exact List.mem_cons_self)
        dsimp only
        rw [if_neg (not_not.mpr ok)]
        refine ⟨?_, fun other apart => ?_⟩
        · rw [queued_set_incoming isFor, if_pos rfl]
          rfl
        · rw [queued_set_incoming isFor, if_neg apart]

end Queues

section Identity

variable {party : Party} {transport : MultiClientLoopbackTransport}

theorem connect_is_for (isFor : IsFor party transport) : IsFor party transport.connect.2 := by
  unfold MultiClientLoopbackTransport.connect
  split <;> exact ⟨isFor.endpoint, isFor.clientId⟩

theorem send_is_for (isFor : IsFor party transport) (hub : Hub) (envelope : NetworkEnvelope) :
    IsFor party (transport.send hub envelope).2.2 := by
  unfold MultiClientLoopbackTransport.send
  repeat' split
  all_goals exact ⟨isFor.endpoint, isFor.clientId⟩

theorem poll_is_for (isFor : IsFor party transport) (hub : Hub) :
    IsFor party (transport.poll hub).2.2 := by
  unfold MultiClientLoopbackTransport.poll
  repeat' split
  all_goals exact ⟨isFor.endpoint, isFor.clientId⟩

end Identity

/-! Runs. -/

structure Routed (record : HubRecord) : Prop where
  endpoints : ∀ party, IsFor party (record.endpoints party)
  valid : ∀ party, ∀ envelope ∈ queuedFor record.hub party, envelope.Ok
  inOrder : ∀ party, sentTo record party = record.polled party ++ queuedFor record.hub party

section Steps

variable {record : HubRecord} {party : Party}

theorem put_endpoints (endpoints : ∀ party, IsFor party (record.endpoints party)) (hub : Hub)
    {transport : MultiClientLoopbackTransport} (isFor : IsFor party transport) (other : Party) :
    IsFor other ((record.put party hub transport).endpoints other) := by
  by_cases same : other = party
  · subst same
    simpa [HubRecord.put] using isFor
  · simpa [HubRecord.put, same] using endpoints other

theorem put_routed (before : Routed record) {transport : MultiClientLoopbackTransport}
    (isFor : IsFor party transport) : Routed (record.put party record.hub transport) where
  endpoints := put_endpoints before.endpoints record.hub isFor
  valid := before.valid
  inOrder := before.inOrder

/-- The log of a send is all that it changes. -/
structure OnlyLogged (before after : HubRecord) : Prop where
  hub : after.hub = before.hub
  endpoints : after.endpoints = before.endpoints
  polled : after.polled = before.polled

theorem log_send_only (record : HubRecord) (party : Party) (envelope : NetworkEnvelope)
    (sent : Bool) : OnlyLogged record (record.logSend party envelope sent) := by
  unfold HubRecord.logSend
  split
  · cases party <;> exact ⟨rfl, rfl, rfl⟩
  · exact ⟨rfl, rfl, rfl⟩

/-- A send is logged for its recipient and for nobody else. -/
theorem log_send_sent (record : HubRecord) (party : Party) (envelope : NetworkEnvelope)
    (other : Party) :
    sentTo (record.logSend party envelope true) other =
      if other = recipient party envelope then sentTo record other ++ [routed party envelope]
      else sentTo record other := by
  cases party with
  | server =>
      cases other with
      | server => rfl
      | client clientId =>
          change (record.serverSends ++ [envelope]).filter _ = _
          rw [List.filter_append]
          by_cases addressed : envelope.peerId = clientId
          · simp [recipient, routed, sentTo, addressed]
          · have apart : ¬clientId = envelope.peerId := fun same => addressed same.symm
            simp [recipient, sentTo, addressed, apart]
  | client senderId =>
      cases other with
      | server => simp [HubRecord.logSend, sentTo, recipient, routed]
      | client clientId => rfl

theorem send_step_routed (record : HubRecord) (party : Party) (envelope : NetworkEnvelope)
    (before : Routed record) : Routed (hubStep record (.send party envelope)) := by
  have isFor := send_is_for (before.endpoints party) record.hub envelope
  unfold hubStep
  cases sent : ((record.endpoints party).send record.hub envelope).1 with
  | false =>
      have same := failed_send_queues envelope sent
      dsimp only
      rw [sent, same]
      exact put_routed before isFor
  | true =>
      obtain ⟨ok, queues⟩ := send_queues (before.endpoints party) envelope sent
      dsimp only
      rw [sent]
      generalize ((record.endpoints party).send record.hub envelope).2 = after at isFor queues ⊢
      obtain ⟨hub, transport⟩ := after
      have logged := log_send_only (record.put party hub transport) party envelope true
      constructor
      · rw [logged.endpoints]
        exact put_endpoints before.endpoints hub isFor
      · intro other
        rw [logged.hub]
        change ∀ queued ∈ queuedFor hub other, queued.Ok
        rw [queues other]
        split
        · intro queued member
          rcases List.mem_append.mp member with old | new
          · exact before.valid other queued old
          · -- the routed envelope is as valid as the one that was sent
            rw [List.mem_singleton.mp new]
            cases party with
            | server => exact ok
            | client clientId => exact (ok_of_peer envelope clientId).mpr ok
        · exact before.valid other
      · intro other
        rw [logged.hub, logged.polled, log_send_sent]
        change _ = record.polled other ++ queuedFor hub other
        rw [queues other]
        split
        · rw [← List.append_assoc, ← before.inOrder other]
          rfl
        · exact before.inOrder other

theorem poll_step_routed (record : HubRecord) (party : Party) (before : Routed record) :
    Routed (hubStep record (.poll party)) := by
  obtain ⟨own, others⟩ := poll_queues (before.endpoints party) (before.valid party)
  have isFor := poll_is_for (before.endpoints party) record.hub
  unfold hubStep
  dsimp only
  generalize (record.endpoints party).poll record.hub = polled at own others isFor ⊢
  obtain ⟨envelope, hub, transport⟩ := polled
  constructor
  · exact put_endpoints before.endpoints hub isFor
  · intro other queued member
    by_cases same : other = party
    · subst same
      exact before.valid other queued (own ▸ List.mem_append_right _ member)
    · exact before.valid other queued (others other same ▸ member)
  · intro other
    change sentTo record other = Function.update record.polled party
      (record.polled party ++ envelope.toList) other ++ queuedFor hub other
    by_cases same : other = party
    · subst same
      rw [Function.update_self, List.append_assoc, ← own]
      exact before.inOrder other
    · rw [Function.update_of_ne same, others other same]
      exact before.inOrder other

theorem hub_step_routed (record : HubRecord) (call : HubCall) (before : Routed record) :
    Routed (hubStep record call) := by
  cases call with
  | connect party => exact put_routed before (connect_is_for (before.endpoints party))
  | close party =>
      exact put_routed before
        ⟨(before.endpoints party).endpoint, (before.endpoints party).clientId⟩
  | send party envelope => exact send_step_routed record party envelope before
  | poll party => exact poll_step_routed record party before

end Steps

theorem hub_run_routed (calls : List HubCall) : Routed (hubRun calls) := by
  apply Runs.run_invariant hubStep Routed hub_step_routed
  constructor
  · exact fun party => ⟨rfl, rfl⟩
  · intro party envelope queued
    cases party with
    | server => exact absurd queued List.not_mem_nil
    | client clientId => simp [queuedFor, Hub.toClient] at queued
  · intro party
    cases party with
    | server => rfl
    | client clientId => simp [sentTo, queuedFor, Hub.toClient]

/-- After any calls what a client polled is the beginning of what the server sent
it, what the server polled the beginning of what all clients sent, each under its
own id, and whatever follows is still queued for its recipient. -/
theorem loopback_isolates (calls : List HubCall) (party : Party) :
    (hubRun calls).polled party <+: sentTo (hubRun calls) party ∧
      sentTo (hubRun calls) party =
        (hubRun calls).polled party ++ queuedFor (hubRun calls).hub party := by
  have inOrder := (hub_run_routed calls).inOrder party
  refine ⟨?_, inOrder⟩
  rw [inOrder]
  exact List.prefix_append _ _

end Brawololo.LoopbackHub
