import Brawololo.HostTransports
import Brawololo.LoopbackHub
import Brawololo.SessionExchanges

/-!
The hub as the transport of its parties. A session speaks over the endpoint of
its client and the host over that of the server; the endpoints share the record
of the hub, which tells what each of them sent and polled.
-/

namespace Brawololo.HubTransports

open GameTypes NetworkProtocol Server Client LoopbackHub HostTransports

def hubTransport (party : Party) : ITransport HubRecord where
  connect record := ((record.endpoints party).connect.1, hubStep record (.connect party))
  update record := record
  state record := ((record.endpoints party).state, record)
  send envelope record :=
    (((record.endpoints party).send record.hub envelope).1, hubStep record (.send party envelope))
  poll record := (((record.endpoints party).poll record.hub).1, hubStep record (.poll party))

/-! One party at a time. -/

def caller : HubCall → Party
  | .connect party | .close party | .send party _ | .poll party => party

/-- What the client handed to the hub, oldest first. -/
def sendsOf (record : HubRecord) (clientId : ClientId) : List NetworkEnvelope :=
  (record.clientSends.filter fun send => send.1 = clientId).map Prod.snd

/-- What one party does leaves the books of the others alone. -/
structure LeavesOthers (party : Party) (before after : HubRecord) : Prop where
  endpoints : ∀ other, other ≠ party → after.endpoints other = before.endpoints other
  polled : ∀ other, other ≠ party → after.polled other = before.polled other
  serverSends : party ≠ .server → after.serverSends = before.serverSends
  clientSends : ∀ clientId, party ≠ .client clientId →
    sendsOf after clientId = sendsOf before clientId

theorem LeavesOthers.refl (party : Party) (record : HubRecord) : LeavesOthers party record record :=
  ⟨fun _ _ => rfl, fun _ _ => rfl, fun _ => rfl, fun _ _ => rfl⟩

theorem LeavesOthers.trans {party : Party} {first second third : HubRecord}
    (left : LeavesOthers party first second) (right : LeavesOthers party second third) :
    LeavesOthers party first third :=
  ⟨fun other apart => (right.endpoints other apart).trans (left.endpoints other apart),
    fun other apart => (right.polled other apart).trans (left.polled other apart),
    fun apart => (right.serverSends apart).trans (left.serverSends apart),
    fun clientId apart =>
      (right.clientSends clientId apart).trans (left.clientSends clientId apart)⟩

theorem put_leaves (record : HubRecord) (party : Party) (hub : Hub)
    (transport : MultiClientLoopbackTransport) :
    LeavesOthers party record (record.put party hub transport) :=
  ⟨fun _ apart => Function.update_of_ne apart _ _, fun _ _ => rfl, fun _ => rfl, fun _ _ => rfl⟩

theorem log_leaves (record : HubRecord) (party : Party) (envelope : NetworkEnvelope)
    (sent : Bool) : LeavesOthers party record (record.logSend party envelope sent) := by
  have only := log_send_only record party envelope sent
  refine ⟨fun _ _ => by rw [only.endpoints], fun _ _ => by rw [only.polled], ?_, ?_⟩
  · intro apart
    unfold HubRecord.logSend
    split
    · cases party with
      | server => exact absurd rfl apart
      | client clientId => rfl
    · rfl
  · intro clientId apart
    unfold HubRecord.logSend
    split
    · cases party with
      | server => rfl
      | client sender =>
          have other : sender ≠ clientId := fun same => apart (congrArg Party.client same)
          simp [sendsOf, List.filter_append, other]
    · rfl

theorem hub_step_leaves (record : HubRecord) (call : HubCall) :
    LeavesOthers (caller call) record (hubStep record call) := by
  cases call with
  | connect party => exact put_leaves record party _ _
  | close party => exact put_leaves record party _ _
  | send party envelope =>
      exact (put_leaves record party _ _).trans (log_leaves _ party envelope _)
  | poll party =>
      have put := put_leaves record party ((record.endpoints party).poll record.hub).2.1
        ((record.endpoints party).poll record.hub).2.2
      exact ⟨put.endpoints, fun _ apart => Function.update_of_ne apart _ _, put.serverSends,
        put.clientSends⟩

/-- A send adds to the books of its sender what the hub took. -/
theorem client_send_sends (record : HubRecord) (clientId : ClientId)
    (envelope : NetworkEnvelope) :
    sendsOf (hubStep record (.send (.client clientId) envelope)) clientId =
      sendsOf record clientId ++
        if ((hubTransport (.client clientId)).send envelope record).1 then [envelope] else [] := by
  change sendsOf (HubRecord.logSend _ _ _ ((record.endpoints (.client clientId)).send record.hub
    envelope).1) clientId = sendsOf record clientId ++
      if ((record.endpoints (.client clientId)).send record.hub envelope).1 then [envelope] else []
  cases ((record.endpoints (.client clientId)).send record.hub envelope).1 with
  | true => simp [sendsOf, HubRecord.logSend, HubRecord.put, List.filter_append]
  | false => exact (List.append_nil _).symm

theorem server_send_sends (record : HubRecord) (envelope : NetworkEnvelope) :
    (hubStep record (.send .server envelope)).serverSends = record.serverSends ++
      if ((hubTransport .server).send envelope record).1 then [envelope] else [] := by
  change (HubRecord.logSend _ _ _ ((record.endpoints .server).send record.hub
    envelope).1).serverSends = record.serverSends ++
      if ((record.endpoints .server).send record.hub envelope).1 then [envelope] else []
  cases ((record.endpoints .server).send record.hub envelope).1 with
  | true => rfl
  | false => exact (List.append_nil _).symm

theorem send_step_polled (record : HubRecord) (party : Party) (envelope : NetworkEnvelope) :
    (hubStep record (.send party envelope)).polled = record.polled :=
  (log_send_only _ party envelope _).polled

theorem poll_step_polled (record : HubRecord) (party : Party) :
    (hubStep record (.poll party)).polled party =
      record.polled party ++ ((hubTransport party).poll record).1.toList :=
  Function.update_self _ _ _

/-! Open endpoints. -/

/-- The endpoint can send and poll. -/
def IsOpen (party : Party) (record : HubRecord) : Prop :=
  (record.endpoints party).hasHub = true ∧ (record.endpoints party).state = .connected

theorem send_keeps_state (transport : MultiClientLoopbackTransport) (hub : Hub)
    (envelope : NetworkEnvelope) :
    (transport.send hub envelope).2.2.hasHub = transport.hasHub ∧
      (transport.send hub envelope).2.2.state = transport.state := by
  unfold MultiClientLoopbackTransport.send
  repeat' split
  all_goals exact ⟨rfl, rfl⟩

theorem poll_keeps_state (transport : MultiClientLoopbackTransport) (hub : Hub) :
    (transport.poll hub).2.2.hasHub = transport.hasHub ∧
      (transport.poll hub).2.2.state = transport.state := by
  unfold MultiClientLoopbackTransport.poll
  repeat' split
  all_goals exact ⟨rfl, rfl⟩

theorem open_of_leaves {party other : Party} {before after : HubRecord}
    (leaves : LeavesOthers party before after) (apart : other ≠ party)
    (isOpen : IsOpen other before) : IsOpen other after := by
  unfold IsOpen at isOpen ⊢
  rw [leaves.endpoints other apart]
  exact isOpen

theorem connect_step_open {party : Party} {record : HubRecord} (isOpen : IsOpen party record) :
    IsOpen party (hubStep record (.connect party)) := by
  unfold IsOpen hubStep at *
  dsimp only [HubRecord.put]
  rw [Function.update_self]
  unfold MultiClientLoopbackTransport.connect
  rw [isOpen.1]
  exact ⟨rfl, rfl⟩

theorem send_step_open {party : Party} {record : HubRecord} (isOpen : IsOpen party record)
    (envelope : NetworkEnvelope) : IsOpen party (hubStep record (.send party envelope)) := by
  have kept := send_keeps_state (record.endpoints party) record.hub envelope
  unfold IsOpen hubStep at *
  dsimp only
  rw [(log_send_only _ party envelope _).endpoints]
  dsimp only [HubRecord.put]
  rw [Function.update_self, kept.1, kept.2]
  exact isOpen

theorem poll_step_open {party : Party} {record : HubRecord} (isOpen : IsOpen party record) :
    IsOpen party (hubStep record (.poll party)) := by
  have kept := poll_keeps_state (record.endpoints party) record.hub
  unfold IsOpen hubStep at *
  dsimp only [HubRecord.put]
  rw [Function.update_self, kept.1, kept.2]
  exact isOpen

/-- How the hub answers its server. -/
def hubAnswers : Transport := fun _ envelope => decide (envelope.Ok ∧ envelope.peerId ≠ 0)

theorem open_server_answer {record : HubRecord} (isOpen : IsOpen .server record)
    (isFor : IsFor .server (record.endpoints .server)) (trace : Trace)
    (envelope : NetworkEnvelope) :
    ((hubTransport .server).send envelope record).1 = hubAnswers trace envelope := by
  dsimp only [hubTransport]
  unfold MultiClientLoopbackTransport.send hubAnswers
  rw [isOpen.1, isOpen.2, isFor.endpoint]
  dsimp only [createEndpoint, MultiClientLoopbackTransport.createServer]
  by_cases valid : envelope.Ok
  · by_cases addressed : envelope.peerId = 0
    · simp [valid, addressed]
    · simp [valid, addressed]
  · simp [valid]

/-- The hub takes every valid envelope of a client. -/
theorem open_client_answer {record : HubRecord} {clientId : ClientId}
    (isOpen : IsOpen (.client clientId) record)
    (isFor : IsFor (.client clientId) (record.endpoints (.client clientId)))
    {envelope : NetworkEnvelope} (valid : envelope.Ok) :
    ((hubTransport (.client clientId)).send envelope record).1 = true := by
  dsimp only [hubTransport]
  unfold MultiClientLoopbackTransport.send
  rw [isOpen.1, isOpen.2, isFor.endpoint, if_neg (by simp), if_neg (not_not.mpr valid)]
  rfl

/-! The host on the hub. -/

/-- The server's endpoint while the host runs. -/
structure Serving (record : HubRecord) : Prop where
  routed : Routed record
  isOpen : IsOpen .server record

theorem serving_send {record : HubRecord} (serving : Serving record)
    (envelope : NetworkEnvelope) : Serving (hubStep record (.send .server envelope)) :=
  ⟨hub_step_routed record _ serving.routed, send_step_open serving.isOpen envelope⟩

/-- The hub answers the host the same at all times. -/
theorem hub_steady : Steady (hubTransport .server) Serving (hubAnswers []) where
  answers _ envelope serving :=
    open_server_answer serving.isOpen (serving.routed.endpoints .server) [] envelope
  keeps _ envelope serving := serving_send serving envelope

/-- What the host sends of these envelopes. -/
theorem send_all_sends {record : HubRecord} (serving : Serving record)
    (envelopes : List NetworkEnvelope) :
    (sendAll (hubTransport .server) record envelopes).serverSends =
        record.serverSends ++ envelopes.filter (hubAnswers []) ∧
      (sendAll (hubTransport .server) record envelopes).polled = record.polled ∧
      LeavesOthers .server record (sendAll (hubTransport .server) record envelopes) := by
  induction envelopes generalizing record with
  | nil => exact ⟨(List.append_nil _).symm, rfl, LeavesOthers.refl _ _⟩
  | cons envelope rest ih =>
      obtain ⟨sends, polled, leaves⟩ := ih (serving_send serving envelope)
      have answer :=
        open_server_answer serving.isOpen (serving.routed.endpoints .server) [] envelope
      have first := server_send_sends record envelope
      rw [answer] at first
      refine ⟨?_, polled.trans (send_step_polled record .server envelope),
        (hub_step_leaves record (.send .server envelope)).trans leaves⟩
      refine sends.trans ?_
      rw [first, List.append_assoc, List.filter_cons]
      split
      · rfl
      · rfl

/-- A call of the host on the hub. -/
structure HostedCall (hosted : Hosted HubRecord) (call : HostCall) (after : Hosted HubRecord) :
    Prop where
  host : after.host = hostStep hubAnswers hosted.host call
  serving : Serving after.link
  sends : ∃ added, after.host.trace = hosted.host.trace ++ added ∧
    after.link.serverSends = hosted.link.serverSends ++ added.filterMap takenEnvelope
  polled : after.link.polled = hosted.link.polled
  leaves : LeavesOthers .server hosted.link after.link

theorem hosted_call {hosted : Hosted HubRecord} (serving : Serving hosted.link)
    (call : HostCall) : HostedCall hosted call (hosted.call (hubTransport .server) call) := by
  obtain ⟨isHost, added, answered, isLink⟩ := hub_steady.hosted_call serving call
  obtain ⟨sends, polled, leaves⟩ := send_all_sends serving (added.filterMap handedEnvelope)
  rw [← isLink] at sends polled leaves
  have still := hub_steady.send_all (added.filterMap handedEnvelope) serving
  rw [← isLink] at still
  refine ⟨isHost, still, ⟨added, answered.trace, ?_⟩, polled, leaves⟩
  rw [← taken_of_answered answered]
  exact sends

end Brawololo.HubTransports
