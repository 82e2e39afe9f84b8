import Brawololo.ServerBooks

/-!
The books of a whole game. Every call of a party keeps them: it adds to its own
books and leaves those of the others alone, so they hold after any interleaving
of the calls.
-/

namespace Brawololo.GameBooks

open GameTypes EntityStore NetworkEvents NetworkProtocol Serialization Simulation Client Server
open LoopbackHub HostTransports HubTransports PollLoops LoginOrder NetworkedGames ClientBooks
open ApplicationBooks ServerBooks HubDeliveries SessionExchanges HostTurns InputAccounting
open DeltaBaselines

/-- The inputs that a client submitted. -/
def submittedBy (game : NetworkedGame) (clientId : ClientId) : List ClientInputPacket :=
  game.submitted.filter fun packet => packet.header.clientId = clientId

/-- The inputs that it submitted once its login was sent. -/
def submittedAfterLogin (game : NetworkedGame) (clientId : ClientId) : List ClientInputPacket :=
  game.afterLogin.filter fun packet => packet.header.clientId = clientId

/-- What happened to a client, as its session has it. -/
def traceOf (game : NetworkedGame) (clientId : ClientId) : List PumpHappening :=
  (sessionOf (game.clients clientId)).trace

/-- What the server has as acknowledged the client has received. -/
structure AcksTruthful (recorded : Trace) (received : ClientId → List PumpHappening) : Prop where
  snapshots : ∀ clientId snapshotId, Happening.snapshotAcked clientId snapshotId ∈ recorded →
    ∃ snapshot, .applied snapshot ∈ received clientId ∧ snapshot.snapshotId = snapshotId
  events : ∀ clientId eventId, Happening.eventAcked clientId eventId ∈ recorded →
    ∃ networkEvent, .surfaced networkEvent ∈ received clientId ∧ networkEvent.eventId = eventId

section Acks

variable {recorded added : Trace} {received received' : ClientId → List PumpHappening}

theorem acks_grown (truthful : AcksTruthful recorded received)
    (grown : ∀ clientId, received clientId <+: received' clientId) :
    AcksTruthful recorded received' := by
  constructor
  · intro clientId snapshotId acked
    obtain ⟨snapshot, applied, named⟩ := truthful.snapshots clientId snapshotId acked
    exact ⟨snapshot, (grown clientId).subset applied, named⟩
  · intro clientId eventId acked
    obtain ⟨networkEvent, surfaced, named⟩ := truthful.events clientId eventId acked
    exact ⟨networkEvent, (grown clientId).subset surfaced, named⟩

theorem acks_unacked (truthful : AcksTruthful recorded received)
    (unacked : ∀ happening ∈ added, Unacked happening) :
    AcksTruthful (recorded ++ added) received := by
  constructor
  · intro clientId snapshotId acked
    rcases List.mem_append.mp acked with old | new
    · exact truthful.snapshots clientId snapshotId old
    · exact absurd (unacked _ new) not_false
  · intro clientId eventId acked
    rcases List.mem_append.mp acked with old | new
    · exact truthful.events clientId eventId old
    · exact absurd (unacked _ new) not_false

theorem acks_snapshot (truthful : AcksTruthful recorded received) {clientId : ClientId}
    {snapshot : SnapshotDTO} (applied : .applied snapshot ∈ received clientId) :
    AcksTruthful (recorded ++ [.snapshotAcked clientId snapshot.snapshotId]) received := by
  constructor
  · intro other snapshotId acked
    rcases List.mem_append.mp acked with old | new
    · exact truthful.snapshots other snapshotId old
    · cases List.mem_singleton.mp new
      exact ⟨snapshot, applied, rfl⟩
  · intro other eventId acked
    rcases List.mem_append.mp acked with old | new
    · exact truthful.events other eventId old
    · cases List.mem_singleton.mp new

theorem acks_event (truthful : AcksTruthful recorded received) {clientId : ClientId}
    {networkEvent : NetworkEventDTO} (surfaced : .surfaced networkEvent ∈ received clientId) :
    AcksTruthful (recorded ++ [.eventAcked clientId networkEvent.eventId]) received := by
  constructor
  · intro other snapshotId acked
    rcases List.mem_append.mp acked with old | new
    · exact truthful.snapshots other snapshotId old
    · cases List.mem_singleton.mp new
  · intro other eventId acked
    rcases List.mem_append.mp acked with old | new
    · exact truthful.events other eventId old
    · cases List.mem_singleton.mp new
      exact ⟨networkEvent, surfaced, rfl⟩

/-- An envelope of a client acknowledges what the client has received. -/
theorem acks_envelope {host : ServerNetworkHost} {envelope : NetworkEnvelope}
    {earlier : List NetworkEnvelope} {sender : ClientId}
    (truthful : AcksTruthful host.trace received)
    (utterance : Utterance sender (received sender) earlier envelope) :
    AcksTruthful (host.handleEnvelope hubAnswers envelope).trace received := by
  cases envelope_answers hubAnswers host envelope with
  | unacked answers =>
      obtain ⟨added, answered, unacked⟩ := answers
      rw [answered.trace]
      exact acks_unacked truthful unacked
  | snapshotAcked ack isClass decoded trace =>
      rw [trace]
      cases utterance.meaning with
      | snapshotAck said _ saidDecoded own snapshot applied named =>
          rw [decoded] at saidDecoded
          cases saidDecoded
          rw [own, named]
          exact acks_snapshot truthful applied
      | login _ other => rw [isClass] at other; cases other
      | timeSync other => rw [isClass] at other; cases other
      | input _ other => rw [isClass] at other; cases other
      | eventAck _ other => rw [isClass] at other; cases other
  | eventAcked ack isClass decoded trace =>
      rw [trace]
      cases utterance.meaning with
      | eventAck said _ saidDecoded own networkEvent surfaced named =>
          rw [decoded] at saidDecoded
          cases saidDecoded
          rw [own, named]
          exact acks_event truthful surfaced
      | login _ other => rw [isClass] at other; cases other
      | timeSync other => rw [isClass] at other; cases other
      | input _ other => rw [isClass] at other; cases other
      | snapshotAck _ other => rw [isClass] at other; cases other

end Acks

structure GameBook (config : ServerNetworkHostConfig) (game : NetworkedGame) : Prop where
  host : ∃ calls, HostBook config game.record game.serverHost game.consumed calls
  clients : ∀ clientId, ClientBook clientId game.record (game.clients clientId)
    (submittedBy game clientId) (submittedAfterLogin game clientId)
  acks : AcksTruthful game.serverHost.trace (traceOf game)

section Game

variable {config : ServerNetworkHostConfig} {game : NetworkedGame}

theorem GameBook.routed (book : GameBook config game) : Routed game.record := by
  obtain ⟨_, host⟩ := book.host
  exact host.serving.routed

theorem client_book_of_leaves {clientId : ClientId} {party : Party} {record after : HubRecord}
    {app : RemoteApplication} {submitted afterLogin : List ClientInputPacket}
    (leaves : LeavesOthers party record after) (apart : party ≠ .client clientId)
    (book : ClientBook clientId record app submitted afterLogin) :
    ClientBook clientId after app submitted afterLogin where
  config := book.config
  session := book.session
  seated := book.seated
  booked := booked_of_leaves leaves apart book.booked
  runtime := book.runtime
  sent := book.sent
  among := book.among

/-! The clients. -/

theorem returned_own {clientId : ClientId} {record : HubRecord} {app : RemoteApplication}
    {submitted afterLogin : List ClientInputPacket}
    (book : ClientBook clientId record app submitted afterLogin)
    (call : ApplicationCall PumpChoice) :
    ∀ packet ∈ returned app call, packet.header.clientId = clientId := by
  intro packet member
  cases call with
  | submitInput input nowMs =>
      rw [List.mem_singleton.mp member]
      exact book.runtime.client
  | connect nowMs => cases member
  | tickFixed order choice nowMs => cases member
  | drainEvents => cases member

/-- What a client returns is filed under it and under nobody else. -/
theorem filed_under {clientId other : ClientId} {filed added : List ClientInputPacket}
    (own : ∀ packet ∈ added, packet.header.clientId = clientId) :
    ((filed ++ added).filter fun packet => packet.header.clientId = other) =
      (filed.filter fun packet => packet.header.clientId = other) ++
        if other = clientId then added else [] := by
  rw [List.filter_append]
  congr 1
  split
  · next same =>
      apply List.filter_eq_self.mpr
      exact fun packet member => decide_eq_true ((own packet member).trans same.symm)
  · next apart =>
      apply List.filter_eq_nil_iff.mpr
      intro packet member isOther
      exact apart ((of_decide_eq_true isOther).symm.trans (own packet member))

/-- The snapshots that a client has applied were sent to it. -/
theorem applied_sent {record : HubRecord} {host : ServerNetworkHost} {app : RemoteApplication}
    {consumed submitted afterLogin : List ClientInputPacket} {calls : List HostCall}
    {clientId : ClientId} (hostBook : HostBook config record host consumed calls)
    (client : ClientBook clientId record app submitted afterLogin) :
    host.trace.filterMap (acceptedFor clientId) = (sessionOf app).trace.filterMap appliedIn ++
      (queuedFor record.hub (.client clientId)).filterMap snapshotIn := by
  rw [← taken_snapshots hostBook.truthful, hostBook.taken clientId, List.filterMap_append]
  exact congrArg (· ++ _) client.booked.applied.symm

/-- No snapshot acknowledges more than the client has submitted. -/
theorem applied_acks_fit (book : GameBook config game) (clientId : ClientId) :
    AcksFit ((sessionOf (game.clients clientId)).trace.filterMap appliedIn)
      (submittedBy game clientId) := by
  obtain ⟨calls, host⟩ := book.host
  have client := book.clients clientId
  intro snapshot applied
  have sent : snapshot ∈ game.serverHost.trace.filterMap (acceptedFor clientId) := by
    rw [applied_sent host client]
    exact List.mem_append_left _ applied
  have acked := UInt32.le_iff_toNat_le.mp (host.acked sent)
  refine acked.trans ?_
  have heard : (heardFrom game.record clientId).Sublist (submittedBy game clientId) := by
    refine List.Sublist.trans ?_ client.among
    have sends : sendsOf game.record clientId =
        taken (sessionOf (game.clients clientId)).trace := client.booked.sends
    rw [← client.sent, inputs_sent_split book.routed sends]
    exact List.sublist_append_left _ _
  have within := (host.consumed_heard clientId).trans heard
  unfold lastSequence
  cases isLast : (game.consumed.filter fun packet =>
      packet.header.clientId = clientId).getLast? with
  | none => exact Nat.zero_le _
  | some last =>
      have member := within.subset (List.mem_of_getLast? isLast)
      have isId : last.header.sequence ∈ idsUpTo (submittedBy game clientId).length := by
        rw [← client.runtime.numbered]
        exact List.mem_map_of_mem member
      obtain ⟨index, isIndex, isSequence⟩ := List.mem_map.mp isId
      have below := List.mem_range.mp isIndex
      change last.header.sequence.toNat ≤ _
      rw [← isSequence, UInt32.toNat_ofNat']
      exact (Nat.mod_le _ _).trans below

theorem client_call_book (book : GameBook config game) (clientId : ClientId)
    (call : ApplicationCall PumpChoice) : GameBook config (game.callClient clientId call) := by
  have before := book.clients clientId
  have called := call_book before (applied_acks_fit book clientId) book.routed call
  have own := returned_own before call
  have ownAfterLogin : ∀ packet ∈ returnedAfterLogin (game.clients clientId) call,
      packet.header.clientId = clientId := by
    unfold returnedAfterLogin
    intro packet member
    split at member
    · exact own packet member
    · cases member
  constructor
  · obtain ⟨calls, host⟩ := book.host
    exact ⟨calls, host_book_of_leaves host called.leaves (called.routed book.routed)⟩
  · intro other
    have splits : submittedBy (game.callClient clientId call) other = submittedBy game other ++
        if other = clientId then returned (game.clients clientId) call else [] := filed_under own
    have splitsAfterLogin : submittedAfterLogin (game.callClient clientId call) other =
        submittedAfterLogin game other ++
          if other = clientId then returnedAfterLogin (game.clients clientId) call else [] :=
      filed_under ownAfterLogin
    rw [splits, splitsAfterLogin]
    unfold NetworkedGame.callClient
    dsimp only
    by_cases same : other = clientId
    · subst same
      rw [if_pos rfl, if_pos rfl, Function.update_self]
      exact called.book
    · rw [if_neg same, if_neg same, List.append_nil, List.append_nil, Function.update_of_ne same]
      refine client_book_of_leaves called.leaves ?_ (book.clients other)
      exact fun isOther => same (Party.client.inj isOther).symm
  · refine acks_grown book.acks fun other => ?_
    unfold traceOf NetworkedGame.callClient
    dsimp only
    by_cases same : other = clientId
    · subst same
      rw [Function.update_self]
      exact called.grown
    · rw [Function.update_of_ne same]

/-! The server. -/

theorem clients_at_server (game : NetworkedGame) {link : HubRecord} {host : ServerNetworkHost}
    {consumed : List ClientInputPacket} (book : GameBook config game)
    (leaves : LeavesOthers .server game.record link)
    (hostBook : ∃ calls, HostBook config link host consumed calls)
    (acks : AcksTruthful host.trace (traceOf game)) :
    GameBook config { game with record := link, serverHost := host, consumed := consumed } :=
  ⟨hostBook, fun clientId => client_book_of_leaves leaves (by simp) (book.clients clientId), acks⟩

/-- One turn of the pump of the server. -/
theorem pump_turn_book {envelope : NetworkEnvelope}
    (book : GameBook config game)
    (found : ((hubTransport .server).poll game.record).1 = some envelope) :
    GameBook config (game.withHosted
      (Hosted.call (hubTransport .server)
        { link := ((hubTransport .server).poll game.record).2, host := game.serverHost }
        (.pumpClientMessages [envelope]))) := by
  obtain ⟨calls, host⟩ := book.host
  let record := ((hubTransport .server).poll game.record).2
  have isRouted : Routed record := hub_step_routed game.record (.poll .server) book.routed
  have serving : Serving record := ⟨isRouted, poll_step_open host.serving.isOpen⟩
  have polls : LeavesOthers .server game.record record :=
    hub_step_leaves game.record (.poll .server)
  let hosted : Hosted HubRecord := { link := record, host := game.serverHost }
  have called : HostedCall hosted (.pumpClientMessages [envelope])
      (hosted.call (hubTransport .server) (.pumpClientMessages [envelope])) :=
    hosted_call serving _
  have client := client_book_of_leaves polls (by simp) (book.clients envelope.peerId)
  have queued := (poll_queues (host.serving.routed.endpoints .server)
    (host.serving.routed.valid .server)).1
  have valid : envelope.Ok := by
    apply host.serving.routed.valid .server
    rw [queued, show ((game.record.endpoints .server).poll game.record.hub).1 = some envelope
      from found]
    exact List.mem_append_left _ (by simp)
  have polled : record.polled .server = game.record.polled .server ++ [envelope] := by
    refine (poll_step_polled game.record .server).trans ?_
    rw [found]
    rfl
  have split : (sendsOf record envelope.peerId).map (routed (.client envelope.peerId)) =
      polledFrom game.record envelope.peerId ++ envelope :: queuedFrom record envelope.peerId := by
    rw [sent_from isRouted]
    unfold polledFrom
    rw [polled, List.filter_append, List.append_assoc]
    simp
  have utterance : Utterance envelope.peerId (sessionOf (game.clients envelope.peerId)).trace
      (polledFrom game.record envelope.peerId) envelope :=
    next_utterance valid client.booked.sends client.seated.inOrder client.booked.spoken split
  exact clients_at_server game book (polls.trans called.leaves)
    ⟨_, polled_call_book host found utterance called⟩
    (called.host ▸ acks_envelope book.acks utterance)

theorem pump_book (book : GameBook config game) (polls : Nat) :
    GameBook config
      (game.withHosted (game.hosted.pumpClientMessages (hubTransport .server) polls)) := by
  unfold Hosted.pumpClientMessages
  refine while_invariant (fun hosted => GameBook config (game.withHosted hosted)) ?_ ?_ polls
    game.hosted book
  · intro hosted after polled book
    have nothing : ((hubTransport .server).poll hosted.link).1 = none := congrArg Prod.fst polled
    have isAfter := congrArg Prod.snd polled
    subst isAfter
    obtain ⟨calls, host⟩ := book.host
    exact clients_at_server (game.withHosted hosted) book
      (hub_step_leaves hosted.link (.poll .server)) ⟨calls, idle_poll_book host nothing⟩ book.acks
  · intro hosted envelope after polled book
    have found : ((hubTransport .server).poll hosted.link).1 = some envelope :=
      congrArg Prod.fst polled
    have isAfter := congrArg Prod.snd polled
    subst isAfter
    exact pump_turn_book book found

/-- A call of the host that polls nothing. -/
theorem hosted_call_book (book : GameBook config game) (call : HostCall)
    (consumed : List ClientInputPacket)
    (hostBook : ∀ calls, HostBook config game.record game.serverHost game.consumed calls →
      HostedCall game.hosted call (game.hosted.call (hubTransport .server) call) →
      ∃ calls', HostBook config (game.hosted.call (hubTransport .server) call).link
        (game.hosted.call (hubTransport .server) call).host consumed calls')
    (answers : Answers hubAnswers game.serverHost (hostStep hubAnswers game.serverHost call)) :
    GameBook config { game.withHosted (game.hosted.call (hubTransport .server) call) with
      consumed := consumed } := by
  obtain ⟨calls, host⟩ := book.host
  have called : HostedCall game.hosted call (game.hosted.call (hubTransport .server) call) :=
    hosted_call host.serving call
  obtain ⟨added, answered, unacked⟩ := answers
  refine clients_at_server game book called.leaves (hostBook calls host called) ?_
  have isHost : (game.hosted.call (hubTransport .server) call).host =
      hostStep hubAnswers game.serverHost call := called.host
  change AcksTruthful (game.hosted.call (hubTransport .server) call).host.trace (traceOf game)
  rw [isHost, answered.trace]
  exact acks_unacked book.acks unacked

theorem game_step_book (game : NetworkedGame) (call : GameCall) (book : GameBook config game) :
    GameBook config (gameStep game call) := by
  cases call with
  | pumpClientMessages polls => exact pump_book book polls
  | tickAndSendSnapshots order hostOrder nowMs =>
      refine hosted_call_book book _ _ (fun calls host called => ?_)
        (tick_answers hubAnswers order hostOrder game.serverHost nowMs)
      exact ⟨_, tick_call_book host order hostOrder nowMs called⟩
  | drainEvents =>
      refine hosted_call_book book _ _ (fun calls host called => ?_) (answers_silent rfl)
      exact ⟨_, drain_call_book host called⟩
  | client clientId call => exact client_call_book book clientId call

theorem start_book (config : ServerNetworkHostConfig) : GameBook config (.start config) where
  host := by
    refine ⟨[], ⟨⟨?_, ⟨rfl, rfl⟩⟩, rfl, by simp, rfl, fun _ => rfl, ?_, ?_⟩⟩
    · exact hub_run_routed []
    · intro clientId _
      exact Std.ExtTreeMap.not_mem_empty
    · intro clientId
      exact (if_neg Std.ExtTreeMap.not_mem_empty).symm
  clients := start_client_book
  acks := ⟨fun _ _ member => (by cases member), fun _ _ member => (by cases member)⟩

/-- The books hold after any interleaving of the calls. -/
theorem game_run_book (config : ServerNetworkHostConfig) (calls : List GameCall) :
    GameBook config (gameRun config calls) :=
  Runs.run_invariant gameStep (GameBook config) game_step_book _ (start_book config) calls

end Game

end Brawololo.GameBooks
