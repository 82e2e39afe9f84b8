import Brawololo.GameInputs

/-!
A round of a game: the server pumps and ticks, and then a client ticks. When the
pumps poll often enough, the round brings what was on its way where it belongs:
the inputs into the simulation, the snapshots and the events to the client, and
with them the word that its inputs were consumed.
-/

namespace Brawololo.SettledRounds

open GameTypes EntityStore NetworkProtocol Serialization Simulation SimulationStages Client Server
open LoopbackHub HostTransports HubTransports HostTurns PollLoops LoginOrder NetworkedGames
open ClientBooks ApplicationBooks DeltaBaselines InputAccounting SessionExchanges ServerBooks
open GameBooks GameDelivery GameInputs HubDeliveries

/-! Queues that are polled until they are empty. -/

section Queue

variable {record : HubRecord} {party : Party}

/-- An open endpoint has what is queued for it still to poll. -/
structure Waiting (party : Party) (items : List NetworkEnvelope) (record : HubRecord) : Prop where
  routed : Routed record
  isOpen : IsOpen party record
  queued : queuedFor record.hub party = items

/-- What a party sends is not for itself. -/
theorem send_waiting {items : List NetworkEnvelope} (waiting : Waiting party items record)
    (envelope : NetworkEnvelope) :
    Waiting party items (hubStep record (.send party envelope)) := by
  refine ⟨hub_step_routed record _ waiting.routed, send_step_open waiting.isOpen envelope, ?_⟩
  unfold hubStep
  dsimp only
  rw [(log_send_only _ party envelope _).hub]
  change queuedFor ((record.endpoints party).send record.hub envelope).2.1 party = items
  cases sent : ((record.endpoints party).send record.hub envelope).1 with
  | false =>
      rw [failed_send_queues envelope sent]
      exact waiting.queued
  | true =>
      have apart : party ≠ recipient party envelope := by
        cases party <;> simp [recipient]
      obtain ⟨_, queues⟩ := send_queues (waiting.routed.endpoints party) envelope sent
      rw [queues, if_neg apart]
      exact waiting.queued

theorem poll_found {first : NetworkEnvelope} {rest : List NetworkEnvelope}
    (waiting : Waiting party (first :: rest) record) :
    ((hubTransport party).poll record).1 = some first ∧
      Waiting party rest ((hubTransport party).poll record).2 := by
  have isRouted : Routed ((hubTransport party).poll record).2 :=
    hub_step_routed record (.poll party) waiting.routed
  have isFor := waiting.routed.endpoints party
  have valid : first.Ok := by
    apply waiting.routed.valid party
    rw [waiting.queued]
    exact List.mem_cons_self
  have found : ((record.endpoints party).poll record.hub).1 = some first := by
    unfold MultiClientLoopbackTransport.poll
    rw [waiting.isOpen.1, waiting.isOpen.2, incoming_eq isFor, waiting.queued]
    dsimp only
    rw [if_neg (by simp), if_neg (not_not.mpr valid)]
  have split := (poll_queues isFor (waiting.routed.valid party)).1
  rw [found, waiting.queued] at split
  exact ⟨found, isRouted, poll_step_open waiting.isOpen, (List.cons.inj split).2.symm⟩

theorem poll_nothing (waiting : Waiting party [] record) :
    ((hubTransport party).poll record).1 = none ∧
      Waiting party [] ((hubTransport party).poll record).2 := by
  have isRouted : Routed ((hubTransport party).poll record).2 :=
    hub_step_routed record (.poll party) waiting.routed
  have split := (poll_queues (waiting.routed.endpoints party) (waiting.routed.valid party)).1
  rw [waiting.queued] at split
  obtain ⟨none, left⟩ := List.append_eq_nil_iff.mp split.symm
  exact ⟨Option.toList_eq_nil_iff.mp none, isRouted, poll_step_open waiting.isOpen, left⟩

end Queue

/-! The server. -/

theorem send_all_waiting {record : HubRecord} {items : List NetworkEnvelope}
    (waiting : Waiting .server items record) (envelopes : List NetworkEnvelope) :
    Waiting .server items (sendAll (hubTransport .server) record envelopes) := by
  induction envelopes generalizing record with
  | nil => exact waiting
  | cons envelope rest ih => exact ih (send_waiting waiting envelope)

/-- With enough polls the pump of the server takes all that is queued for it. -/
theorem server_pump_drains {hosted : Hosted HubRecord} {items : List NetworkEnvelope}
    (waiting : Waiting .server items hosted.link) {polls : Nat} (enough : items.length < polls) :
    Waiting .server [] (hosted.pumpClientMessages (hubTransport .server) polls).link := by
  unfold Hosted.pumpClientMessages
  refine while_items (fun items hosted => Waiting .server items hosted.link) ?_ ?_ items polls
    hosted enough waiting
  · intro envelope rest hosted waiting
    obtain ⟨found, left⟩ := poll_found waiting
    refine ⟨{ hosted with link := ((hubTransport .server).poll hosted.link).2 }, ?_, ?_⟩
    · unfold Hosted.poll
      rw [found]
    · exact send_all_waiting left _
  · intro hosted waiting
    obtain ⟨nothing, left⟩ := poll_nothing waiting
    refine ⟨{ hosted with link := ((hubTransport .server).poll hosted.link).2 }, ?_, left⟩
    unfold Hosted.poll
    rw [nothing]

/-! A client. -/

section Client

variable {clientId : ClientId} {record : HubRecord} {items : List NetworkEnvelope}

theorem ack_waiting (waiting : Waiting (.client clientId) items record)
    (ack : Option NetworkEnvelope) :
    Waiting (.client clientId) items (sendAck (hubTransport (.client clientId)) ack record).2 := by
  cases ack with
  | none => exact waiting
  | some envelope => exact send_waiting waiting envelope

theorem client_pump_drains {order : PumpState → LoopOrder} {localReceiveTimeMs : TimestampMs}
    {state : HubRecord × PumpState} (waiting : Waiting (.client clientId) items state.1)
    {polls : Nat} (enough : items.length < polls) :
    Waiting (.client clientId) []
      (whileSome (pollEnvelope (hubTransport (.client clientId)))
        (receiveEnvelope (hubTransport (.client clientId)) order localReceiveTimeMs) polls
        state).1 := by
  refine while_items (fun items state => Waiting (.client clientId) items state.1) ?_ ?_ items
    polls state enough waiting
  · intro envelope rest state waiting
    obtain ⟨found, left⟩ := poll_found waiting
    refine ⟨(((hubTransport (.client clientId)).poll state.1).2, state.2), ?_, ?_⟩
    · unfold pollEnvelope
      rw [found]
    · exact ack_waiting left _
  · intro state waiting
    obtain ⟨nothing, left⟩ := poll_nothing waiting
    refine ⟨(((hubTransport (.client clientId)).poll state.1).2, state.2), ?_, left⟩
    unfold pollEnvelope
    rw [nothing]

/-- A session that is past its login, with the hub in its hands. -/
structure LoggedIn (clientId : ClientId) (items : List NetworkEnvelope)
    (session : RemoteClientSession HubRecord) : Prop where
  active : session.sessionActive = true
  sent : session.loginSent = true
  waiting : ∃ record, session.transport = some record ∧ Waiting (.client clientId) items record

theorem tick_logged_in {session : RemoteClientSession HubRecord}
    (loggedIn : LoggedIn clientId items session) (nowMs : TimestampMs) :
    LoggedIn clientId items (session.tick (hubTransport (.client clientId)) nowMs) := by
  obtain ⟨active, sent, record, transport, waiting⟩ := loggedIn
  unfold RemoteClientSession.tick
  dsimp only
  rw [transport, active, sent]
  dsimp only
  rw [if_neg (by simp), if_neg (by simp)]
  split
  · exact ⟨rfl, rfl, record, rfl, waiting⟩
  · exact ⟨rfl, rfl, _, rfl, send_waiting waiting _⟩

theorem pump_drains {session : RemoteClientSession HubRecord}
    (loggedIn : LoggedIn clientId items session) {polls : Nat} (enough : items.length < polls)
    (order : PumpState → LoopOrder) (runtime : ClientRuntime) :
    LoggedIn clientId []
      (session.pump (hubTransport (.client clientId)) polls order runtime).1 := by
  obtain ⟨active, sent, record, transport, waiting⟩ := loggedIn
  unfold RemoteClientSession.pump
  dsimp only
  rw [transport, active, sent]
  dsimp only
  rw [if_neg (by simp), if_neg (by simp)]
  refine ⟨rfl, rfl, _, rfl, client_pump_drains ?_ enough⟩
  exact waiting

end Client

/-! A round. -/

structure Round where
  serverPolls : Nat
  order : LoopOrder
  hostOrder : HostOrder
  nowMs : TimestampMs
  clientOrder : LoopOrder
  choice : PumpChoice
  clientNowMs : TimestampMs

namespace Round

def pumped (round : Round) (game : NetworkedGame) : NetworkedGame :=
  gameStep game (.pumpClientMessages round.serverPolls)

def ticked (round : Round) (game : NetworkedGame) : NetworkedGame :=
  gameStep (round.pumped game) (.tickAndSendSnapshots round.order round.hostOrder round.nowMs)

def settled (round : Round) (clientId : ClientId) (game : NetworkedGame) : NetworkedGame :=
  gameStep (round.ticked game)
    (.client clientId (.tickFixed round.clientOrder round.choice round.clientNowMs))

/-- The pumps poll more often than there is to poll, and the client has a player
and is sent a snapshot. -/
structure Serves (round : Round) (clientId : ClientId) (game : NetworkedGame) : Prop where
  heard : game.record.hub.toServer.length < round.serverPolls
  isPlayer : clientId ∈ players (round.pumped game).serverHost
  shown : (snapshotsSent (round.pumped game) clientId).length <
    (snapshotsSent (round.ticked game) clientId).length
  polled : (queuedFor (round.ticked game).record.hub (.client clientId)).length <
    round.choice.polls

end Round

section Game

variable {config : ServerNetworkHostConfig} {game : NetworkedGame} {clientId : ClientId}

/-- A client with a player has sent its login. -/
theorem player_logged_in (book : GameBook config game)
    (isPlayer : clientId ∈ players game.serverHost) :
    LoggedIn clientId (queuedFor game.record.hub (.client clientId))
      (lent game.record (game.clients clientId)) := by
  obtain ⟨calls, host⟩ := book.host
  have client := book.clients clientId
  have sent : (sessionOf (game.clients clientId)).loginSent = true := by
    by_contra unsent
    have silent : taken (sessionOf (game.clients clientId)).trace = [] :=
      client.seated.inOrder.unsent (Bool.eq_false_iff.mpr unsent)
    have sends : sendsOf game.record clientId = [] := client.booked.sends.trans silent
    have split := sent_from book.routed clientId
    rw [sends] at split
    have nothing := (List.append_eq_nil_iff.mp split.symm).1
    exact host.waiting clientId nothing isPlayer
  exact ⟨client.seated.active sent, sent, game.record, rfl,
    ⟨book.routed, client.booked.isOpen, rfl⟩⟩

/-- With enough polls a tick of a client with a player takes all that is queued
for it. -/
theorem client_tick_drains (book : GameBook config game)
    (isPlayer : clientId ∈ players game.serverHost) (order : LoopOrder) {choice : PumpChoice}
    (enough : (queuedFor game.record.hub (.client clientId)).length < choice.polls)
    (nowMs : TimestampMs) :
    queuedFor (game.callClient clientId (.tickFixed order choice nowMs)).record.hub
      (.client clientId) = [] := by
  have client := book.clients clientId
  have ticked := tick_logged_in (player_logged_in book isPlayer) nowMs
  obtain ⟨_, _, record, transport, waiting⟩ := pump_drains ticked enough choice.order
    ((game.clients clientId).runtime.tickSimulation order)
  have isRecord : (game.callClient clientId (.tickFixed order choice nowMs)).record = record := by
    unfold NetworkedGame.callClient
    dsimp only
    rw [at_hub client]
    change (RemoteClientSession.transport _).getD _ = _
    dsimp only [remoteSession]
    rw [transport]
    rfl
  rw [isRecord]
  exact waiting.queued

/-! The tick of the server. -/

theorem ticked_players (book : GameBook config game) (order : LoopOrder) (hostOrder : HostOrder)
    (nowMs : TimestampMs) :
    clientId ∈ players (gameStep game (.tickAndSendSnapshots order hostOrder nowMs)).serverHost ↔
      clientId ∈ players game.serverHost := by
  unfold players
  rw [ticked_simulation book]
  change clientId ∈ (tickFixed order game.serverHost.runtime.simulation).playerByClient ↔ _
  rw [(tick_setup order game.serverHost.runtime.simulation).2.1]

theorem ticked_accepted (book : GameBook config game) (order : LoopOrder)
    (hostOrder : HostOrder) (nowMs : TimestampMs) :
    inputsAccepted (gameStep game (.tickAndSendSnapshots order hostOrder nowMs)) clientId = [] := by
  unfold inputsAccepted InputAccounting.pendingOf
  rw [ticked_simulation book]
  change (tickFixed order game.serverHost.runtime.simulation).pendingInputs.filter _ = []
  rw [tick_pending]
  rfl

theorem ticked_waiting {items : List NetworkEnvelope}
    (waiting : Waiting .server items game.record) (order : LoopOrder) (hostOrder : HostOrder)
    (nowMs : TimestampMs) :
    Waiting .server items
      (gameStep game (.tickAndSendSnapshots order hostOrder nowMs)).record :=
  send_all_waiting waiting _

/-- The snapshots of a tick acknowledge the last input that was consumed. -/
theorem ticked_acks (book : GameBook config game) (clientId : ClientId) (order : LoopOrder)
    (hostOrder : HostOrder) (nowMs : TimestampMs) :
    ∃ shown, snapshotsSent (gameStep game (.tickAndSendSnapshots order hostOrder nowMs)) clientId =
        snapshotsSent game clientId ++ shown ∧
      ∀ snapshot ∈ shown, snapshot.ackedInputSequence = lastSequence
        (inputsConsumed (gameStep game (.tickAndSendSnapshots order hostOrder nowMs)) clientId) := by
  obtain ⟨calls, host⟩ := book.host
  obtain ⟨added, answered, _⟩ :=
    tick_answers hubAnswers order hostOrder game.serverHost nowMs
  have isHost : (accountRun hubAnswers config clientId calls).host = game.serverHost :=
    (account_run_host hubAnswers config clientId calls).trans host.ran.symm
  have truthful := (tick_account hubAnswers order hostOrder nowMs
    (accountRun hubAnswers config clientId calls) (host.account clientId)).2
  have consumed : (accountStep hubAnswers clientId (accountRun hubAnswers config clientId calls)
      (.tickAndSendSnapshots order hostOrder nowMs)).consumed =
      inputsConsumed (gameStep game (.tickAndSendSnapshots order hostOrder nowMs)) clientId := by
    change (accountRun hubAnswers config clientId calls).consumed ++
      (accountRun hubAnswers config clientId calls).host.runtime.simulation.pendingInputs.filter _ =
      (game.consumed ++ game.serverHost.runtime.simulation.pendingInputs).filter _
    rw [isHost, host.consumed, List.filter_append]
  have isNew : newAcks hubAnswers clientId (accountRun hubAnswers config clientId calls)
      (.tickAndSendSnapshots order hostOrder nowMs) = acksFor clientId added := by
    change acksFor clientId (((accountRun hubAnswers config clientId calls).host.tickAndSendSnapshots
      hubAnswers order hostOrder nowMs).trace.drop _) = _
    rw [isHost, answered.trace, List.drop_left]
  refine ⟨added.filterMap (acceptedFor clientId), ?_, ?_⟩
  · unfold snapshotsSent
    rw [ticked_host book, answered.trace, List.filterMap_append]
  · intro snapshot member
    rw [isNew] at truthful
    rw [← consumed]
    refine (truthful _ ?_).last
    exact (accepted_acks clientId added).subset (List.mem_map_of_mem member)

/-- A tick after which nothing waits for the server has consumed all inputs. -/
theorem ticked_consumed (book : GameBook config game)
    (few : (submittedBy game clientId).length < 2 ^ 32)
    (waiting : Waiting .server [] game.record) (isPlayer : clientId ∈ players game.serverHost)
    (order : LoopOrder) (hostOrder : HostOrder) (nowMs : TimestampMs) :
    inputsConsumed (gameStep game (.tickAndSendSnapshots order hostOrder nowMs)) clientId =
      submittedAfterLogin game clientId := by
  have ticked := game_step_book game (.tickAndSendSnapshots order hostOrder nowMs) book
  have still := (ticked_players book order hostOrder nowMs).mpr isPlayer
  have split := player_inputs ticked few still
  have queued : inputsQueued (gameStep game (.tickAndSendSnapshots order hostOrder nowMs))
      clientId = [] := by
    have nothing := (ticked_waiting waiting order hostOrder nowMs).queued
    change Hub.toServer _ = [] at nothing
    unfold inputsQueued queuedFrom
    rw [nothing]
    rfl
  rw [ticked_accepted book, queued, List.append_nil, List.append_nil] at split
  exact split.symm

/-! The tick of the client. -/

theorem tick_submits_nothing (game : NetworkedGame) (clientId : ClientId) (order : LoopOrder)
    (choice : PumpChoice) (nowMs : TimestampMs) :
    submittedBy (game.callClient clientId (.tickFixed order choice nowMs)) clientId =
        submittedBy game clientId ∧
      submittedAfterLogin (game.callClient clientId (.tickFixed order choice nowMs)) clientId =
        submittedAfterLogin game clientId := by
  unfold submittedBy submittedAfterLogin NetworkedGame.callClient returnedAfterLogin returned
  constructor
  · simp
  · simp

/-- No input is greater than the last. -/
theorem numbered_last {inputs : List ClientInputPacket} (numbered : Numbered inputs)
    {packet : ClientInputPacket} (member : packet ∈ inputs) :
    packet.header.sequence ≤ lastSequence inputs := by
  rw [← fresh_numbered numbered] at member ⊢
  exact (greatest inputs).reached packet member

/-! The round. -/

/-- The books after a round. -/
theorem settled_book (book : GameBook config game) (round : Round) (clientId : ClientId) :
    GameBook config (round.pumped game) ∧ GameBook config (round.ticked game) ∧
      GameBook config (round.settled clientId game) := by
  have pumped : GameBook config (round.pumped game) := game_step_book game _ book
  have ticked : GameBook config (round.ticked game) := game_step_book _ _ pumped
  exact ⟨pumped, ticked, game_step_book _ _ ticked⟩

theorem settled_consumed (book : GameBook config game) {round : Round}
    (few : (submittedBy game clientId).length < 2 ^ 32) (serves : round.Serves clientId game) :
    inputsConsumed (round.settled clientId game) clientId =
      submittedAfterLogin (round.settled clientId game) clientId := by
  obtain ⟨pumped, _, _⟩ := settled_book book round clientId
  have waiting : Waiting .server [] (round.pumped game).record := by
    obtain ⟨_, host⟩ := book.host
    have before : Waiting .server game.record.hub.toServer game.hosted.link :=
      ⟨host.serving.routed, host.serving.isOpen, rfl⟩
    exact server_pump_drains before serves.heard
  have same := (tick_submits_nothing (round.ticked game) clientId round.clientOrder round.choice
    round.clientNowMs).2
  exact (ticked_consumed pumped few waiting serves.isPlayer round.order round.hostOrder
    round.nowMs).trans same.symm

theorem settled_drained (book : GameBook config game) {round : Round}
    (serves : round.Serves clientId game) :
    queuedFor (round.settled clientId game).record.hub (.client clientId) = [] := by
  obtain ⟨pumped, ticked, _⟩ := settled_book book round clientId
  have still := (ticked_players pumped round.order round.hostOrder round.nowMs).mpr serves.isPlayer
  exact client_tick_drains ticked still round.clientOrder serves.polled round.clientNowMs

theorem settled_applied (book : GameBook config game) {round : Round}
    (serves : round.Serves clientId game) :
    snapshotsApplied (round.settled clientId game) clientId =
        snapshotsSent (round.settled clientId game) clientId ∧
      eventsSurfaced (round.settled clientId game) clientId =
        eventsSent (round.settled clientId game) clientId := by
  obtain ⟨_, _, settled⟩ := settled_book book round clientId
  have drained := settled_drained book serves
  have applied := snapshots_split settled clientId
  have surfaced := events_split settled clientId
  unfold snapshotsQueued at applied
  unfold eventsQueued at surfaced
  rw [drained, List.filterMap_nil, List.append_nil] at applied surfaced
  exact ⟨applied.symm, surfaced.symm⟩

/-- No input that was sent is pending after the round. -/
theorem settled_unacked (book : GameBook config game) {round : Round}
    (few : (submittedBy game clientId).length < 2 ^ 32) (serves : round.Serves clientId game)
    {packet : ClientInputPacket}
    (submitted : packet ∈ submittedAfterLogin (round.settled clientId game) clientId) :
    packet ∉ inputsUnacked (round.settled clientId game) clientId := by
  obtain ⟨pumped, _, settled⟩ := settled_book book round clientId
  have fewSettled : (submittedBy (round.settled clientId game) clientId).length < 2 ^ 32 := by
    have same := (tick_submits_nothing (round.ticked game) clientId round.clientOrder
      round.choice round.clientNowMs).1
    exact (congrArg List.length same).trans_lt few
  obtain ⟨new, isSent, acks⟩ :=
    ticked_acks pumped clientId round.order round.hostOrder round.nowMs
  have isSent' : snapshotsSent (round.ticked game) clientId =
      snapshotsSent (round.pumped game) clientId ++ new := isSent
  obtain ⟨snapshot, isNew⟩ : ∃ snapshot, snapshot ∈ new := by
    have shown := serves.shown
    apply List.exists_mem_of_length_pos
    rw [isSent', List.length_append] at shown
    omega
  have isApplied : snapshot ∈ snapshotsApplied (round.settled clientId game) clientId := by
    rw [(settled_applied book serves).1]
    change snapshot ∈ snapshotsSent (round.ticked game) clientId
    rw [isSent']
    exact List.mem_append_right _ isNew
  have covered : packet.header.sequence ≤ snapshot.ackedInputSequence := by
    have last := numbered_last (sent_inputs_numbered settled fewSettled) submitted
    rw [← settled_consumed book few serves] at last
    rw [acks snapshot isNew]
    exact last
  have pending : inputsUnacked (round.settled clientId game) clientId =
      (submittedBy (round.settled clientId game) clientId).filter
        (unacknowledged (snapshotsApplied (round.settled clientId game) clientId)) :=
    (settled.clients clientId).runtime.pending fewSettled
  rw [pending, List.mem_filter]
  rintro ⟨_, unacked⟩
  have newer := of_decide_eq_true (List.all_eq_true.mp unacked snapshot isApplied)
  exact absurd (UInt32.lt_of_lt_of_le newer covered) (UInt32.lt_irrefl _)

end Game

/-! Results. -/

/-- A round after any run of a game, with enough polls for what is queued, in
which the client is sent a snapshot. Then the server has consumed every input
that the client submitted since its login, the client has applied every snapshot
and surfaced every event sent to it, and no input that was sent is still pending
at the client. -/
theorem round_settles (config : ServerNetworkHostConfig) (calls : List GameCall)
    (clientId : ClientId) (round : Round)
    (few : (submittedBy (gameRun config calls) clientId).length < 2 ^ 32)
    (serves : round.Serves clientId (gameRun config calls)) :
    inputsConsumed (round.settled clientId (gameRun config calls)) clientId =
        submittedAfterLogin (round.settled clientId (gameRun config calls)) clientId ∧
      snapshotsApplied (round.settled clientId (gameRun config calls)) clientId =
        snapshotsSent (round.settled clientId (gameRun config calls)) clientId ∧
      eventsSurfaced (round.settled clientId (gameRun config calls)) clientId =
        eventsSent (round.settled clientId (gameRun config calls)) clientId ∧
      ∀ packet ∈ submittedAfterLogin (round.settled clientId (gameRun config calls)) clientId,
        packet ∉ inputsUnacked (round.settled clientId (gameRun config calls)) clientId := by
  have book := game_run_book config calls
  obtain ⟨applied, surfaced⟩ := settled_applied book serves
  exact ⟨settled_consumed book few serves, applied, surfaced,
    fun _ => settled_unacked book few serves⟩

/-- A client has asked to join and has fired. -/
def openingCalls : List GameCall :=
  [.client 1 (.connect 0), .client 1 (.submitInput { fire := true } 0)]

def openingRound : Round where
  serverPolls := 8
  order := .stored
  hostOrder := .stored
  nowMs := 16
  clientOrder := .stored
  choice := { polls := 8 }
  clientNowMs := 16

theorem opening_round_serves : openingRound.Serves 1 (gameRun {} openingCalls) where
  heard := by decide
  isPlayer := by decide +kernel
  shown := by decide +kernel
  polled := by decide +kernel

theorem round_settles_opening :
    (submittedAfterLogin (openingRound.settled 1 (gameRun {} openingCalls)) 1).length = 1 ∧
      inputsConsumed (openingRound.settled 1 (gameRun {} openingCalls)) 1 =
        submittedAfterLogin (openingRound.settled 1 (gameRun {} openingCalls)) 1 ∧
      ∀ packet ∈ submittedAfterLogin (openingRound.settled 1 (gameRun {} openingCalls)) 1,
        packet ∉ inputsUnacked (openingRound.settled 1 (gameRun {} openingCalls)) 1 := by
  have settles := round_settles {} openingCalls 1 openingRound (by decide) opening_round_serves
  exact ⟨by decide, settles.1, settles.2.2.2⟩

end Brawololo.SettledRounds
