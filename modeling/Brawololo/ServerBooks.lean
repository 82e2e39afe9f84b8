import Brawololo.ApplicationBooks
import Brawololo.HostSimulation
import Brawololo.HubDeliveries
import Brawololo.InputAccounting

/-!
The books of the server in a game. The host is in a run of its own, pumped with
what the hub brought from the clients; since a client says nothing before its
login, what the server has pumped of a client with a player is all it polled of
that client.
-/

namespace Brawololo.ServerBooks

open GameTypes EntityStore NetworkEvents NetworkProtocol Serialization Simulation
open SimulationStages Client
open Server ServerNetworkHost LoopbackHub HostTransports HubTransports HostTurns HostSimulation
open LoginOrder SessionExchanges ClientBooks ApplicationBooks HubDeliveries InputAccounting
open FixedLayouts

/-! What the server polls of one client. -/

def polledFrom (record : HubRecord) (clientId : ClientId) : List NetworkEnvelope :=
  (record.polled .server).filter fun envelope => envelope.peerId = clientId

/-- What the server has still to poll of a client. -/
def queuedFrom (record : HubRecord) (clientId : ClientId) : List NetworkEnvelope :=
  record.hub.toServer.filter fun envelope => envelope.peerId = clientId

/-- The inputs among what the server polled of a client. -/
def heardFrom (record : HubRecord) (clientId : ClientId) : List ClientInputPacket :=
  (polledFrom record clientId).filterMap inputIn

theorem sent_from {record : HubRecord} (routed : Routed record) (clientId : ClientId) :
    (sendsOf record clientId).map (LoopbackHub.routed (.client clientId)) =
      polledFrom record clientId ++ queuedFrom record clientId := by
  have inOrder := congrArg
    (List.filter fun envelope : NetworkEnvelope => envelope.peerId = clientId)
    (routed.inOrder .server)
  rw [List.filter_append] at inOrder
  refine Eq.trans ?_ inOrder
  unfold sendsOf sentTo LoopbackHub.routed
  rw [List.filter_map, List.map_map]
  apply List.map_congr_left
  intro send member
  have isClient : send.1 = clientId := by simpa using (List.mem_filter.mp member).2
  rw [← isClient]
  rfl

/-- The inputs that the hub has taken from a client are those that the server has
heard and those that wait for it. -/
theorem inputs_sent_split {record : HubRecord} (routed : Routed record) {clientId : ClientId}
    {trace : List PumpHappening} (sends : sendsOf record clientId = taken trace) :
    inputsSent trace = heardFrom record clientId ++
      (queuedFrom record clientId).filterMap inputIn := by
  unfold inputsSent heardFrom
  rw [← sends, ← List.filterMap_append, ← sent_from routed, List.filterMap_map]
  rfl

/-- What an envelope of a client means to the server. -/
inductive Meaning (clientId : ClientId) (trace : List PumpHappening) (envelope : NetworkEnvelope) :
    Prop
  | login (login : LoginCommand) (isClass : envelope.messageClass = .loginRequest)
      (decoded : deserializeLoginCommand envelope.payload = some login)
      (own : login.header.clientId = clientId) : Meaning clientId trace envelope
  | timeSync (isClass : envelope.messageClass = .timeSyncRequest) : Meaning clientId trace envelope
  | input (packet : ClientInputPacket) (isClass : envelope.messageClass = .clientInput)
      (decoded : deserializeClientInputPacket envelope.payload = some packet)
      (own : packet.header.clientId = clientId) : Meaning clientId trace envelope
  | snapshotAck (ack : SnapshotAckDTO) (isClass : envelope.messageClass = .snapshotAck)
      (decoded : deserializeSnapshotAck envelope.payload = some ack)
      (own : ack.clientId = clientId) (snapshot : SnapshotDTO)
      (applied : .applied snapshot ∈ trace) (named : ack.snapshotId = snapshot.snapshotId) :
      Meaning clientId trace envelope
  | eventAck (ack : NetworkEventAckDTO) (isClass : envelope.messageClass = .networkEventAck)
      (decoded : deserializeNetworkEventAck envelope.payload = some ack)
      (own : ack.clientId = clientId) (networkEvent : NetworkEventDTO)
      (surfaced : .surfaced networkEvent ∈ trace) (named : ack.eventId = networkEvent.eventId) :
      Meaning clientId trace envelope

/-- The peer that the hub writes into an envelope is no part of what it means. -/
theorem spoken_meaning {clientId : ClientId} {trace : List PumpHappening} {said : NetworkEnvelope}
    (spoken : Spoken clientId trace said) :
    Meaning clientId trace (LoopbackHub.routed (.client clientId) said) := by
  cases spoken with
  | login login own =>
      exact .login login rfl ((decode_iff readLoginCommand_exact _ login).mpr rfl) own
  | timeSync request own => exact .timeSync rfl
  | input packet own =>
      exact .input packet rfl ((decode_iff readClientInputPacket_exact _ packet).mpr rfl) own
  | snapshotAck ack own snapshot applied named =>
      exact .snapshotAck ack rfl ((decode_iff readSnapshotAck_exact _ ack).mpr rfl) own snapshot
        applied named
  | eventAck ack own networkEvent surfaced named =>
      exact .eventAck ack rfl ((decode_iff readNetworkEventAck_exact _ ack).mpr rfl) own
        networkEvent surfaced named

/-- A polled envelope, which is the login of its sender exactly if it is the
first of it. -/
structure Utterance (clientId : ClientId) (trace : List PumpHappening)
    (earlier : List NetworkEnvelope) (envelope : NetworkEnvelope) : Prop where
  valid : envelope.Ok
  meaning : Meaning clientId trace envelope
  first : isLogin envelope = true ↔ earlier = []

/-- What comes next in what the hub took from a client. -/
theorem next_utterance {record : HubRecord} {clientId : ClientId}
    {session : RemoteClientSession HubRecord} {earlier later : List NetworkEnvelope}
    {envelope : NetworkEnvelope} (valid : envelope.Ok)
    (sends : sendsOf record clientId = taken session.trace) (inOrder : InOrder session)
    (spoken : ∀ said ∈ taken session.trace, Spoken clientId session.trace said)
    (split : (sendsOf record clientId).map (LoopbackHub.routed (.client clientId)) =
      earlier ++ envelope :: later) :
    Utterance clientId session.trace earlier envelope := by
  rw [sends] at split
  have member : envelope ∈ (taken session.trace).map (LoopbackHub.routed (.client clientId)) := by
    rw [split]
    simp
  obtain ⟨said, isSaid, isEnvelope⟩ := List.mem_map.mp member
  have sent : session.loginSent = true := by
    by_contra unsent
    rw [inOrder.unsent (Bool.eq_false_iff.mpr unsent)] at isSaid
    cases isSaid
  obtain ⟨login, rest, isTaken, opens, others⟩ := inOrder.sent sent
  refine ⟨valid, isEnvelope ▸ spoken_meaning (spoken said isSaid), ?_⟩
  rw [isTaken, List.map_cons] at split
  cases earlier with
  | nil =>
      cases split
      exact ⟨fun _ => rfl, fun _ => opens⟩
  | cons head tail =>
      obtain ⟨_, restSplit⟩ := List.cons.inj split
      have inRest : envelope ∈ rest.map (LoopbackHub.routed (.client clientId)) := by
        rw [restSplit]
        simp
      obtain ⟨other, isOther, isEnvelope'⟩ := List.mem_map.mp inRest
      have plain : isLogin envelope = false := by
        rw [← isEnvelope']
        exact others other isOther
      rw [plain]
      simp

def players (host : ServerNetworkHost) : UnorderedMap ClientId NetworkEntityId :=
  host.runtime.simulation.playerByClient

section Utterances

variable {clientId sender : ClientId} {trace : List PumpHappening}
variable {earlier : List NetworkEnvelope} {envelope : NetworkEnvelope}

/-- A login connects its sender and nobody else. -/
theorem login_players (host : ServerNetworkHost) (login : LoginCommand)
    (decoded : deserializeLoginCommand envelope.payload = some login)
    (other : login.header.clientId ≠ clientId) :
    clientId ∈ (host.handleLoginEnvelope envelope).runtime.simulation.playerByClient ↔
      clientId ∈ host.runtime.simulation.playerByClient := by
  have connected : (host.handleLoginEnvelope envelope).runtime.simulation =
      (host.runtime.connectClient login.header.clientId
        login.header.clientTimestampMs).1.simulation := by
    unfold handleLoginEnvelope
    rw [decoded]
    dsimp only
    split
    · rfl
    · split <;> rfl
  rw [connected]
  change clientId ∈ (submitLogin host.runtime.simulation _).1.playerByClient ↔ _
  rcases submit_login_cases host.runtime.simulation _ with same | ⟨_, _, joined⟩
  · rw [same]
  · rw [joined]
    dsimp only [createPlayer, GameSimulation.allocateNetworkId]
    rw [Std.ExtTreeMap.mem_insert]
    refine or_iff_right ?_
    intro same
    exact other (Std.LawfulEqCmp.compare_eq_iff_eq.mp same)

theorem input_players (host : ServerNetworkHost) :
    clientId ∈ (host.handleInputEnvelope envelope).runtime.simulation.playerByClient ↔
      clientId ∈ host.runtime.simulation.playerByClient := by
  rw [input_simulation]
  cases deserializeClientInputPacket envelope.payload with
  | none => rfl
  | some packet =>
      rw [Option.map_some, Option.getD_some]
      rcases submit_input_cases host.runtime.simulation packet with ⟨same, _⟩ | ⟨_, _, accepted⟩
      · rw [same]
      · rw [accepted]

/-- Only its login gives a client a player. -/
theorem utterance_players (transport : Transport) (host : ServerNetworkHost)
    (utterance : Utterance sender trace earlier envelope)
    (noLogin : sender = clientId → earlier ≠ []) :
    clientId ∈ players (host.handleEnvelope transport envelope) ↔ clientId ∈ players host := by
  unfold players handleEnvelope
  rw [if_neg (not_not.mpr utterance.valid)]
  cases utterance.meaning with
  | login login isClass decoded own =>
      rw [isClass]
      apply login_players host login decoded
      intro same
      refine noLogin (own.symm.trans same) (utterance.first.mp ?_)
      unfold LoginOrder.isLogin
      rw [isClass]
      rfl
  | timeSync isClass =>
      rw [isClass]
      dsimp only
      rw [time_sync_runtime]
  | input packet isClass decoded own =>
      rw [isClass]
      exact input_players host
  | snapshotAck ack isClass decoded own snapshot applied named =>
      rw [isClass]
      dsimp only
      rw [snapshot_ack_runtime]
  | eventAck ack isClass decoded own networkEvent surfaced named =>
      rw [isClass]
      dsimp only
      rw [event_ack_runtime]

/-- The server takes an input of a client that has a player. -/
theorem utterance_pumped (host : ServerNetworkHost)
    (utterance : Utterance sender trace earlier envelope) :
    pumpedInput clientId host envelope =
      if sender = clientId ∧ clientId ∈ players host then (inputIn envelope).toList else [] := by
  unfold pumpedInput inputIn players
  cases utterance.meaning with
  | input packet isClass decoded own =>
      rw [if_pos ⟨utterance.valid, isClass⟩, if_pos isClass, decoded, Option.toList_some,
        List.filter_singleton, own]
      simp
  | login login isClass decoded own => rw [isClass]; simp
  | timeSync isClass => rw [isClass]; simp
  | snapshotAck ack isClass decoded own snapshot applied named => rw [isClass]; simp
  | eventAck ack isClass decoded own networkEvent surfaced named => rw [isClass]; simp

end Utterances

/-! The books of the host. -/

/-- The host after these calls of it. A client without a player has pumped
nothing, one with a player all that the server polled of it. -/
structure HostBook (config : ServerNetworkHostConfig) (record : HubRecord)
    (host : ServerNetworkHost) (consumed : List ClientInputPacket) (calls : List HostCall) :
    Prop where
  serving : Serving record
  sends : record.serverSends = host.trace.filterMap takenEnvelope
  own : ∀ call ∈ calls, OwnCall call
  ran : host = hostRun hubAnswers config calls
  consumed : ∀ clientId, (accountRun hubAnswers config clientId calls).consumed =
    consumed.filter fun packet => packet.header.clientId = clientId
  waiting : ∀ clientId, polledFrom record clientId = [] → clientId ∉ players host
  pumped : ∀ clientId, (accountRun hubAnswers config clientId calls).pumped =
    if clientId ∈ players host then heardFrom record clientId else []

section Host

variable {config : ServerNetworkHostConfig} {record : HubRecord} {host : ServerNetworkHost}
variable {consumed : List ClientInputPacket} {calls : List HostCall}

theorem account_run_host (transport : Transport) (config : ServerNetworkHostConfig)
    (clientId : ClientId) (calls : List HostCall) :
    (accountRun transport config clientId calls).host = hostRun transport config calls := by
  refine Runs.run_viewed (accountStep transport clientId) InputAccount.host ?_ _ calls
  intro account call
  cases call <;> rfl

theorem account_run_concat (transport : Transport) (config : ServerNetworkHostConfig)
    (clientId : ClientId) (calls : List HostCall) (call : HostCall) :
    accountRun transport config clientId (calls ++ [call]) =
      accountStep transport clientId (accountRun transport config clientId calls) call :=
  Runs.run_append (accountStep transport clientId) _ calls [call]

theorem host_run_concat (transport : Transport) (config : ServerNetworkHostConfig)
    (calls : List HostCall) (call : HostCall) :
    hostRun transport config (calls ++ [call]) =
      hostStep transport (hostRun transport config calls) call :=
  Runs.run_append (hostStep transport) _ calls [call]

theorem own_concat {call : HostCall} (own : ∀ call ∈ calls, OwnCall call) (last : OwnCall call) :
    ∀ other ∈ calls ++ [call], OwnCall other := by
  intro other member
  rcases List.mem_append.mp member with old | new
  · exact own other old
  · rw [List.mem_singleton.mp new]
    exact last

/-- No call of a game changes the runtime of the server. -/
theorem own_calls_leave (transport : Transport) (clientId : ClientId)
    (own : ∀ call ∈ calls, OwnCall call) (account : InputAccount) :
    Runs.EveryStep (accountStep transport clientId) (LeavesInputs clientId) account calls := by
  induction calls generalizing account with
  | nil => trivial
  | cons call rest ih =>
      refine ⟨?_, ih (fun other member => own other (List.mem_cons_of_mem _ member)) _⟩
      have isOwn := own call List.mem_cons_self
      cases call with
      | changeRuntime runtime => exact absurd isOwn not_false
      | _ => trivial

theorem HostBook.account (book : HostBook config record host consumed calls)
    (clientId : ClientId) : Account clientId (accountRun hubAnswers config clientId calls) :=
  run_account hubAnswers config calls (own_calls_leave hubAnswers clientId book.own _)

theorem HostBook.truthful (book : HostBook config record host consumed calls) :
    HubTruthful host.trace := by
  intro clientId message accepted member
  rw [book.ran] at member
  exact answered_always (host_run_answered hubAnswers config calls) member

/-- What the hub took for a client is what the client polled and what waits. -/
theorem HostBook.taken (book : HostBook config record host consumed calls)
    (clientId : ClientId) :
    ((host.trace.filterMap takenEnvelope).filter fun envelope => envelope.peerId = clientId) =
      record.polled (.client clientId) ++ queuedFor record.hub (.client clientId) := by
  rw [← book.sends]
  exact book.serving.routed.inOrder (.client clientId)

/-- The acknowledgements of the snapshots that a client is sent. -/
theorem accepted_acks (clientId : ClientId) (trace : Trace) :
    ((trace.filterMap (acceptedFor clientId)).map fun snapshot =>
      snapshot.ackedInputSequence).Sublist (acksFor clientId trace) := by
  unfold acksFor
  rw [List.map_filterMap]
  apply filter_map_sublist
  intro happening sequence found
  obtain ⟨snapshot, accepted, named⟩ := Option.map_eq_some_iff.mp found
  obtain ⟨baseline, rfl⟩ := accepted_for accepted
  simp [snapshotFor, named]

/-- What the snapshots for a client acknowledge the server has consumed. -/
theorem HostBook.acked (book : HostBook config record host consumed calls) {clientId : ClientId}
    {snapshot : SnapshotDTO} (sent : snapshot ∈ host.trace.filterMap (acceptedFor clientId)) :
    snapshot.ackedInputSequence ≤
      lastSequence (consumed.filter fun packet => packet.header.clientId = clientId) := by
  have reached := (book.account clientId).reached
  rw [account_run_host, ← book.ran, book.consumed] at reached
  exact reached _ ((accepted_acks clientId host.trace).subset (List.mem_map_of_mem sent))

theorem fresh_sublist (pumped : List ClientInputPacket) : (fresh pumped).Sublist pumped := by
  induction pumped using List.reverseRecOn with
  | nil => exact List.Sublist.refl _
  | append_singleton pumped last ih =>
      rw [fresh_concat]
      apply ih.append
      split
      · exact List.Sublist.refl _
      · exact List.nil_sublist _

/-- The server consumes what it heard. -/
theorem HostBook.consumed_heard (book : HostBook config record host consumed calls)
    (clientId : ClientId) :
    (consumed.filter fun packet => packet.header.clientId = clientId).Sublist
      (heardFrom record clientId) := by
  have queued := (book.account clientId).queue.queued
  rw [book.consumed, book.pumped] at queued
  have within := fresh_sublist
    (if clientId ∈ players host then heardFrom record clientId else [])
  rw [queued] at within
  refine (List.sublist_append_left _ _).trans (within.trans ?_)
  split
  · exact List.Sublist.refl _
  · exact List.nil_sublist _

/-- What a client does at the hub leaves the books of the host alone. -/
theorem host_book_of_leaves {clientId : ClientId} {after : HubRecord}
    (book : HostBook config record host consumed calls)
    (leaves : LeavesOthers (.client clientId) record after) (routed : Routed after) :
    HostBook config after host consumed calls := by
  have apart : Party.server ≠ .client clientId := by simp
  have polled := leaves.polled .server apart
  constructor
  case serving => exact ⟨routed, open_of_leaves leaves apart book.serving.isOpen⟩
  case sends => rw [leaves.serverSends apart.symm, book.sends]
  case own => exact book.own
  case ran => exact book.ran
  case consumed => exact book.consumed
  case waiting =>
    unfold polledFrom
    rw [polled]
    exact book.waiting
  case pumped =>
    unfold heardFrom polledFrom
    rw [polled]
    exact book.pumped

section Calls

variable {after : Hosted HubRecord} {call : HostCall}

/-- What the hub has of a call of the host. -/
theorem hosted_sends {hosted : Hosted HubRecord} (called : HostedCall hosted call after)
    (sends : hosted.link.serverSends = hosted.host.trace.filterMap takenEnvelope) :
    after.link.serverSends = after.host.trace.filterMap takenEnvelope := by
  obtain ⟨added, trace, sent⟩ := called.sends
  rw [sent, trace, List.filterMap_append, sends]

/-- A call that polls nothing and gives no client a player. -/
theorem silent_call_book (book : HostBook config record host consumed calls)
    (called : HostedCall { link := record, host := host } call after) (own : OwnCall call)
    (same : ∀ clientId, clientId ∈ players after.host ↔ clientId ∈ players host)
    (pumps : ∀ clientId account,
      (accountStep hubAnswers clientId account call).pumped = account.pumped)
    (taken : List ClientInputPacket)
    (consumes : ∀ clientId account, account.host = host →
      (accountStep hubAnswers clientId account call).consumed =
        account.consumed ++ taken.filter fun packet => packet.header.clientId = clientId) :
    HostBook config after.link after.host (consumed ++ taken) (calls ++ [call]) := by
  have polled := called.polled
  dsimp only at polled
  constructor
  case serving => exact called.serving
  case sends => exact hosted_sends called book.sends
  case own => exact own_concat book.own own
  case ran => rw [called.host, host_run_concat, ← book.ran]
  case consumed =>
    intro clientId
    have isHost := account_run_host hubAnswers config clientId calls
    rw [account_run_concat, consumes clientId _ (isHost.trans book.ran.symm), book.consumed,
      List.filter_append]
  case waiting =>
    intro clientId
    unfold polledFrom
    rw [polled, same]
    exact book.waiting clientId
  case pumped =>
    intro clientId
    unfold heardFrom polledFrom
    rw [account_run_concat, pumps, polled, book.pumped]
    simp only [same]
    rfl

theorem tick_call_book (book : HostBook config record host consumed calls) (order : LoopOrder)
    (hostOrder : HostOrder) (nowMs : TimestampMs)
    (called : HostedCall { link := record, host := host }
      (.tickAndSendSnapshots order hostOrder nowMs) after) :
    HostBook config after.link after.host
      (consumed ++ host.runtime.simulation.pendingInputs)
      (calls ++ [.tickAndSendSnapshots order hostOrder nowMs]) := by
  refine silent_call_book book called trivial ?_ (fun _ _ => rfl) _ ?_
  · intro clientId
    unfold players
    rw [called.host]
    change clientId ∈ (host.tickAndSendSnapshots hubAnswers order hostOrder
      nowMs).runtime.simulation.playerByClient ↔ _
    rw [tick_simulation]
    change clientId ∈ (tickFixed order host.runtime.simulation).playerByClient ↔ _
    rw [(tick_setup order host.runtime.simulation).2.1]
  · intro clientId account isHost
    change account.consumed ++ account.host.runtime.simulation.pendingInputs.filter _ = _
    rw [isHost]

theorem drain_call_book (book : HostBook config record host consumed calls)
    (called : HostedCall { link := record, host := host } .drainEvents after) :
    HostBook config after.link after.host consumed (calls ++ [.drainEvents]) := by
  have drained := silent_call_book book called trivial
    (fun clientId => by rw [called.host]; rfl) (fun _ _ => rfl) []
    (fun _ _ _ => (List.append_nil _).symm)
  rw [List.append_nil] at drained
  exact drained

/-- The server polls the next envelope and handles it. -/
theorem polled_call_book {envelope : NetworkEnvelope} {trace : List PumpHappening}
    (book : HostBook config record host consumed calls)
    (found : ((hubTransport .server).poll record).1 = some envelope)
    (utterance : Utterance envelope.peerId trace (polledFrom record envelope.peerId) envelope)
    (called : HostedCall { link := ((hubTransport .server).poll record).2, host := host }
      (.pumpClientMessages [envelope]) after) :
    HostBook config after.link after.host consumed (calls ++ [.pumpClientMessages [envelope]]) := by
  have polled : after.link.polled .server = record.polled .server ++ [envelope] := by
    rw [called.polled]
    refine (poll_step_polled record .server).trans ?_
    rw [found]
    rfl
  have polledBy (clientId : ClientId) : polledFrom after.link clientId =
      polledFrom record clientId ++ if envelope.peerId = clientId then [envelope] else [] := by
    unfold polledFrom
    rw [polled, List.filter_append, List.filter_singleton]
    simp
  have isHost : after.host = host.handleEnvelope hubAnswers envelope := called.host
  constructor
  case serving => exact called.serving
  case sends => exact hosted_sends called book.sends
  case own => exact own_concat book.own trivial
  case ran => rw [called.host, host_run_concat, ← book.ran]
  case consumed =>
    intro clientId
    rw [account_run_concat]
    exact book.consumed clientId
  case waiting =>
    intro clientId nothing
    rw [polledBy] at nothing
    obtain ⟨before, other⟩ := List.append_eq_nil_iff.mp nothing
    have apart : envelope.peerId ≠ clientId := by
      intro same
      rw [if_pos same] at other
      cases other
    rw [isHost, utterance_players hubAnswers host utterance fun same => absurd same apart]
    exact book.waiting clientId before
  case pumped =>
    intro clientId
    rw [account_run_concat]
    change (accountRun hubAnswers config clientId calls).pumped ++ (pumpedInput clientId
      (accountRun hubAnswers config clientId calls).host envelope ++ []) = _
    rw [List.append_nil, account_run_host, ← book.ran, book.pumped, utterance_pumped host utterance]
    unfold heardFrom
    rw [polledBy]
    by_cases mine : envelope.peerId = clientId
    · rw [mine] at utterance
      by_cases opening : polledFrom record clientId = []
      · -- its login, which brings no input
        have isLogin := utterance.first.mpr opening
        have noInput : inputIn envelope = none := by
          unfold inputIn
          rw [if_neg]
          intro isInput
          unfold LoginOrder.isLogin at isLogin
          rw [isInput] at isLogin
          exact absurd isLogin (by decide)
        rw [opening, if_pos mine, noInput]
        simp [noInput]
      · have same : clientId ∈ players after.host ↔ clientId ∈ players host := by
          rw [isHost]
          exact utterance_players hubAnswers host utterance fun _ => opening
        rw [if_pos mine]
        by_cases present : clientId ∈ players host
        · rw [if_pos present, if_pos ⟨mine, present⟩, if_pos (same.mpr present),
            List.filterMap_append]
          cases carried : inputIn envelope <;> simp [carried]
        · have absent : ¬(envelope.peerId = clientId ∧ clientId ∈ players host) :=
            fun both => present both.2
          rw [if_neg present, if_neg absent, if_neg (mt same.mp present)]
          rfl
    · have same : clientId ∈ players after.host ↔ clientId ∈ players host := by
        rw [isHost]
        exact utterance_players hubAnswers host utterance fun isSender => absurd isSender mine
      have others : ¬(envelope.peerId = clientId ∧ clientId ∈ players host) :=
        fun both => mine both.1
      rw [if_neg mine, if_neg others, List.append_nil, List.append_nil]
      simp only [same]

/-- The server finds nothing to poll. -/
theorem idle_poll_book (book : HostBook config record host consumed calls)
    (nothing : ((hubTransport .server).poll record).1 = none) :
    HostBook config ((hubTransport .server).poll record).2 host consumed calls := by
  have polled : ((hubTransport .server).poll record).2.polled .server = record.polled .server := by
    refine (poll_step_polled record .server).trans ?_
    rw [nothing]
    exact List.append_nil _
  refine ⟨⟨hub_step_routed record (.poll .server) book.serving.routed,
    poll_step_open book.serving.isOpen⟩, book.sends, book.own, book.ran, book.consumed, ?_, ?_⟩
  · unfold polledFrom
    rw [polled]
    exact book.waiting
  · unfold heardFrom polledFrom
    rw [polled]
    exact book.pumped

end Calls

end Host

end Brawololo.ServerBooks
