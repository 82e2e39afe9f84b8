import Brawololo.HostTransports
import Brawololo.Oracles

/-!
The host asks its transport as a stage asks an oracle, so a host over any
transport that changes, between its calls too, is one that `hostRun` reaches
with a transport that only answers.
-/

namespace Brawololo.HostOracles

open GameTypes EntityStore NetworkEvents NetworkProtocol Serialization Simulation Replication
open Server ServerNetworkHost Client PollLoops HostTransports Oracles

universe u

/-! Every stage of the host hears only the answers at the records it passes
through. -/

def sentTrace (sent : ServerNetworkHost × Bool) : Trace := sent.1.trace

/-- A stage of the host that leaves the record alone. -/
theorem silent_local {stage : ServerNetworkHost → ServerNetworkHost}
    (same : ∀ host, (stage host).trace = host.trace) :
    Local trace trace fun (_ : Transport) host => stage host :=
  local_silent fun host => by rw [same host]

def answered (clientId : ClientId) (message : HostMessage) (accepted : Bool)
    (host : ServerNetworkHost) : ServerNetworkHost × Bool :=
  (host.record (.handed clientId message accepted), accepted)

theorem send_local (clientId : ClientId) (message : HostMessage) :
    Local trace sentTrace fun (transport : Transport) host =>
      host.send transport clientId message := by
  refine local_ask (fun _ => envelopeFor clientId message) (answered clientId message) ?_
  intro accepted host
  simp [sentTrace, answered, record]

/-- What is done with the answer to a `Send`. -/
theorem after_send_local (clientId : ClientId) (message : HostMessage)
    (accepted : ServerNetworkHost → ServerNetworkHost)
    (same : ∀ host, (accepted host).trace = host.trace) :
    Local trace trace fun (transport : Transport) host =>
      let sent := host.send transport clientId message
      if sent.2 then accepted sent.1 else sent.1 := by
  have handled : Local sentTrace trace fun (_ : Transport) sent =>
      if sent.2 then accepted sent.1 else sent.1 := by
    refine local_ite (local_silent ?_) (local_silent fun _ => Nat.le_refl _)
    intro sent
    rw [same sent.1]
    exact Nat.le_refl _
  exact (send_local clientId message).comp handled

theorem event_local (clientId : ClientId) (event : NetworkEventDTO) (nowMs : TimestampMs)
    (isResend : Bool) :
    Local trace trace fun (transport : Transport) host =>
      host.sendReliableEvent transport clientId event nowMs isResend :=
  after_send_local clientId (.event event isResend)
    (fun sent =>
      (sent.updateClient clientId fun state => state.trackReliableEvent event nowMs).countStats
        fun stats =>
          { stats with
            reliableEventsSent := stats.reliableEventsSent + 1
            reliableEventsResent :=
              if isResend then stats.reliableEventsResent + 1 else stats.reliableEventsResent })
    fun _ => rfl

/-- A domain event is numbered, and `sent` says what is done with its network
form. -/
def numberedThen (event : DomainEvent)
    (sent : NetworkEventDTO → Transport → ServerNetworkHost → ServerNetworkHost)
    (transport : Transport) (host : ServerNetworkHost) : ServerNetworkHost :=
  match (host.numberedEvent event).2 with
  | none => (host.numberedEvent event).1
  | some networkEvent => sent networkEvent transport (host.numberedEvent event).1

theorem numbered_local (event : DomainEvent)
    (sent : NetworkEventDTO → Transport → ServerNetworkHost → ServerNetworkHost)
    (sends : ∀ networkEvent, Local trace trace (sent networkEvent)) :
    Local trace trace (numberedThen event sent) := by
  have numbered : Local trace trace fun (_ : Transport) host =>
      (host.numberedEvent event).1 := by
    apply local_silent
    intro host
    simp [numberedEvent, numberEvent, record]
  refine local_key (fun (host : ServerNetworkHost) => (host.numberedEvent event).2)
    (fun found (transport : Transport) (host : ServerNetworkHost) =>
      match found with
      | none => (host.numberedEvent event).1
      | some networkEvent => sent networkEvent transport (host.numberedEvent event).1) ?_
  intro found
  cases found with
  | none => exact numbered
  | some networkEvent => exact numbered.comp (sends networkEvent)

theorem send_to_client_local (event : NetworkEventDTO) (nowMs : TimestampMs)
    (clientId : ClientId) :
    Local trace trace fun (transport : Transport) host =>
      sendToClient transport event nowMs host clientId := by
  unfold sendToClient
  exact local_ite (silent_local fun _ => rfl) (event_local clientId event nowMs false)

theorem broadcast_local (events : EventList) (nowMs : TimestampMs) :
    Local trace trace fun (transport : Transport) host =>
      host.broadcastReliableEvents transport events nowMs := by
  apply local_loop
  intro event
  have toAll : ∀ networkEvent, Local trace trace fun (transport : Transport) host =>
      host.clients.foldl (sendToClient transport networkEvent nowMs) host := by
    intro networkEvent
    exact local_key (fun (host : ServerNetworkHost) => host.clients)
      (fun clients (transport : Transport) (host : ServerNetworkHost) =>
        clients.foldl (sendToClient transport networkEvent nowMs) host)
      (local_loop (send_to_client_local networkEvent nowMs))
  refine (numbered_local event _ toAll).congr ?_
  intro transport host
  unfold broadcastEvent numberedThen
  cases host.numberedEvent event with
  | mk numbered found => cases found <;> rfl

theorem interest_local (clientId : ClientId) (frame : InterestFrame) (nowMs : TimestampMs) :
    Local trace trace fun (transport : Transport) host =>
      host.sendInterestEvents transport clientId frame nowMs := by
  apply local_loop
  intro event
  refine (numbered_local event _ fun networkEvent =>
    event_local clientId networkEvent nowMs false).congr ?_
  intro transport host
  unfold sendInterestEvent numberedThen
  cases host.numberedEvent event with
  | mk numbered found => cases found <;> rfl

/-- Following the interest of a client whose state was looked up. -/
def followFound (hostOrder : HostOrder) (nowMs : TimestampMs) (clientId : ClientId)
    (planned : SnapshotDTO) (found : Option ServerClientReplicationState) (transport : Transport)
    (host : ServerNetworkHost) : ServerNetworkHost :=
  found.elim host fun state =>
    let updated := state.interest.update hostOrder (.exitedEntities clientId) planned
    let tracked := host.updateClient clientId fun state => { state with interest := updated.1 }
    (tracked.countStats (countInterest updated.2)).sendInterestEvents transport clientId updated.2
      nowMs

theorem follow_found_local (hostOrder : HostOrder) (nowMs : TimestampMs) (clientId : ClientId)
    (planned : SnapshotDTO) (found : Option ServerClientReplicationState) :
    Local trace trace (followFound hostOrder nowMs clientId planned found) := by
  cases found with
  | none => exact silent_local fun _ => rfl
  | some state =>
      let updated := state.interest.update hostOrder (.exitedEntities clientId) planned
      have tracked : Local trace trace fun (_ : Transport) (host : ServerNetworkHost) =>
          (host.updateClient clientId fun state =>
            { state with interest := updated.1 }).countStats (countInterest updated.2) :=
        silent_local fun _ => rfl
      exact tracked.comp (interest_local clientId updated.2 nowMs)

theorem follow_local (hostOrder : HostOrder) (nowMs : TimestampMs) (clientId : ClientId)
    (planned : SnapshotDTO) :
    Local trace trace fun (transport : Transport) host =>
      host.followInterest transport hostOrder nowMs clientId planned := by
  refine (local_key (fun (host : ServerNetworkHost) => host.clientStateById[clientId]?)
    (followFound hostOrder nowMs clientId planned)
    (follow_found_local hostOrder nowMs clientId planned)).congr ?_
  intro transport host
  unfold followInterest followFound
  cases host.clientStateById[clientId]? <;> rfl

/-- The events of a client that `ResendPendingReliableEvents` sends again. -/
def dueFor (hostOrder : HostOrder) (nowMs : TimestampMs) (clientId : ClientId)
    (host : ServerNetworkHost) : List NetworkEventDTO :=
  match host.clientStateById[clientId]? with
  | none => []
  | some state =>
      state.reliableEventsDueForResend hostOrder (.pendingEvents clientId) nowMs
        host.config.reliableEventResendBaseIntervalMs host.config.reliableEventMaxSendCount

theorem resend_local (hostOrder : HostOrder) (nowMs : TimestampMs) :
    Local trace trace fun (transport : Transport) host =>
      host.resendPendingReliableEvents transport hostOrder nowMs := by
  refine local_key
    (fun (host : ServerNetworkHost) =>
      hostOrder.arrange .resendingClients host.clientStateById.keys)
    (fun clients (transport : Transport) (host : ServerNetworkHost) =>
      clients.foldl (resendToClient transport hostOrder nowMs) host) ?_
  refine local_loop ?_
  intro clientId
  have resent : Local trace trace fun (transport : Transport) host =>
      (dueFor hostOrder nowMs clientId host).foldl
        (fun host event => host.sendReliableEvent transport clientId event nowMs true) host :=
    local_key (dueFor hostOrder nowMs clientId)
      (fun due (transport : Transport) (host : ServerNetworkHost) =>
        due.foldl (fun host event => host.sendReliableEvent transport clientId event nowMs true)
          host)
      (local_loop fun event => event_local clientId event nowMs true)
  refine resent.congr ?_
  intro transport host
  unfold resendToClient dueFor
  cases host.clientStateById[clientId]? <;> rfl

/-- What `SendSnapshot` settles before it sends. -/
structure Plan where
  planned : PlannedSnapshot
  baseline : Option SnapshotDTO
  missed : Bool

def planOf (order : LoopOrder) (clientId : ClientId) (host : ServerNetworkHost) : Plan :=
  let requested := host.requestedBaselineId clientId
  let planned := host.plannedSnapshot order clientId
  { planned := planned
    baseline := host.deltaBaseline clientId planned.snapshot
    missed := requested ≠ 0 && !(host.baselineCache.decide clientId requested).baselineAvailable }

theorem snapshot_local (order : LoopOrder) (hostOrder : HostOrder) (nowMs : TimestampMs)
    (clientId : ClientId) :
    Local trace sentTrace fun (transport : Transport) host =>
      host.sendSnapshot transport order hostOrder nowMs clientId := by
  refine local_key (planOf order clientId)
    (fun plan (transport : Transport) (host : ServerNetworkHost) =>
      let sent := (host.numberSnapshot.countStats (countDeltaPlan plan.planned.snapshot
        plan.baseline)).send transport clientId (.snapshot plan.planned.snapshot plan.baseline)
      if !sent.2 then (sent.1, false)
      else
        let followed := sent.1.followInterest transport hostOrder nowMs clientId
          plan.planned.snapshot
        ((followed.storeBaseline clientId plan.planned.snapshot).countStats
          (countSnapshot plan.planned plan.missed), true)) ?_
  intro plan
  have counted : Local trace trace fun (_ : Transport) (host : ServerNetworkHost) =>
      host.numberSnapshot.countStats (countDeltaPlan plan.planned.snapshot plan.baseline) := by
    apply local_silent
    intro host
    simp [numberSnapshot, countStats, record]
  have refused : Local sentTrace sentTrace
      fun (_ : Transport) (sent : ServerNetworkHost × Bool) => (sent.1, false) :=
    local_silent fun _ => Nat.le_refl _
  have reached : Local sentTrace trace
      fun (_ : Transport) (sent : ServerNetworkHost × Bool) => sent.1 :=
    local_silent fun _ => Nat.le_refl _
  have stored : Local trace sentTrace fun (_ : Transport) (host : ServerNetworkHost) =>
      ((host.storeBaseline clientId plan.planned.snapshot).countStats
        (countSnapshot plan.planned plan.missed), true) :=
    local_silent fun _ => Nat.le_refl _
  have taken := (reached.comp (follow_local hostOrder nowMs clientId plan.planned.snapshot)).comp
    stored
  have sent := counted.comp (send_local clientId (.snapshot plan.planned.snapshot plan.baseline))
  have handled : Local sentTrace sentTrace
      fun (transport : Transport) (sent : ServerNetworkHost × Bool) =>
        if !sent.2 then (sent.1, false)
        else
          let followed := sent.1.followInterest transport hostOrder nowMs clientId
            plan.planned.snapshot
          ((followed.storeBaseline clientId plan.planned.snapshot).countStats
            (countSnapshot plan.planned plan.missed), true) :=
    local_ite refused taken
  exact sent.comp handled

theorem snapshot_turn_local (order : LoopOrder) (hostOrder : HostOrder) (nowMs : TimestampMs)
    (clientId : ClientId) :
    Local trace trace fun (transport : Transport) host =>
      host.snapshotTurn transport order hostOrder nowMs clientId := by
  have skipped : Local trace trace fun (_ : Transport) (host : ServerNetworkHost) =>
      host.countStats fun stats =>
        { stats with snapshotsSkippedBySchedule := stats.snapshotsSkippedBySchedule + 1 } :=
    silent_local fun _ => rfl
  have marked : Local sentTrace trace fun (_ : Transport) (sent : ServerNetworkHost × Bool) =>
      if sent.2 then sent.1.markSnapshotSent clientId nowMs else sent.1 :=
    local_ite (local_silent fun _ => Nat.le_refl _) (local_silent fun _ => Nat.le_refl _)
  have turned : Local trace trace fun (transport : Transport) (host : ServerNetworkHost) =>
      if !host.shouldSendSnapshot clientId nowMs then
        host.countStats fun stats =>
          { stats with snapshotsSkippedBySchedule := stats.snapshotsSkippedBySchedule + 1 }
      else
        let sent := host.sendSnapshot transport order hostOrder nowMs clientId
        if sent.2 then sent.1.markSnapshotSent clientId nowMs else sent.1 :=
    local_ite skipped ((snapshot_local order hostOrder nowMs clientId).comp marked)
  refine turned.congr ?_
  intro transport host
  unfold snapshotTurn
  cases host.sendSnapshot transport order hostOrder nowMs clientId with
  | mk sent accepted => cases accepted <;> rfl

theorem tick_local (order : LoopOrder) (hostOrder : HostOrder) (nowMs : TimestampMs) :
    Local trace trace fun (transport : Transport) host =>
      host.tickAndSendSnapshots transport order hostOrder nowMs := by
  refine local_key
    (fun (host : ServerNetworkHost) => (host.runtime.tick order).drainEvents.2)
    (fun tickEvents (transport : Transport) (host : ServerNetworkHost) =>
      let ticked := { host with runtime := (host.runtime.tick order).drainEvents.1 }
      let sent := ticked.clients.foldl (snapshotTurn transport order hostOrder nowMs) ticked
      let broadcast := sent.broadcastReliableEvents transport tickEvents nowMs
      let resent := broadcast.resendPendingReliableEvents transport hostOrder nowMs
      { resent with drainedEvents := resent.drainedEvents ++ tickEvents }) ?_
  intro tickEvents
  have ticked : Local trace trace fun (_ : Transport) (host : ServerNetworkHost) =>
      { host with runtime := (host.runtime.tick order).drainEvents.1 } :=
    silent_local fun _ => rfl
  have sent : Local trace trace fun (transport : Transport) (host : ServerNetworkHost) =>
      host.clients.foldl (snapshotTurn transport order hostOrder nowMs) host :=
    local_key (fun (host : ServerNetworkHost) => host.clients)
      (fun clients (transport : Transport) (host : ServerNetworkHost) =>
        clients.foldl (snapshotTurn transport order hostOrder nowMs) host)
      (local_loop (snapshot_turn_local order hostOrder nowMs))
  have drained : Local trace trace fun (_ : Transport) (host : ServerNetworkHost) =>
      { host with drainedEvents := host.drainedEvents ++ tickEvents } :=
    silent_local fun _ => rfl
  exact (((ticked.comp sent).comp (broadcast_local tickEvents nowMs)).comp
    (resend_local hostOrder nowMs)).comp drained

/-- The answer to a request for the time of the server. -/
def timeSyncAnswer (request : TimeSyncRequest) (serverNowMs : TimestampMs) : TimeSyncResponse :=
  { clientId := request.clientId, sequence := request.sequence,
    clientSentAtMs := request.clientSentAtMs, serverReceivedAtMs := serverNowMs,
    serverSentAtMs := serverNowMs }

theorem time_sync_local (envelope : NetworkEnvelope) :
    Local trace trace fun (transport : Transport) host =>
      host.handleTimeSyncEnvelope transport envelope := by
  cases decoded : deserializeTimeSyncRequest envelope.payload with
  | none =>
      refine (silent_local (fun _ => rfl)).congr (fun transport host => ?_)
      rw [handleTimeSyncEnvelope, decoded]
  | some request =>
      have counted : Local trace trace fun (_ : Transport) (host : ServerNetworkHost) =>
          host.countStats fun stats =>
            { stats with timeSyncRequestsReceived := stats.timeSyncRequestsReceived + 1 } :=
        silent_local fun _ => rfl
      have answers := local_key
        (fun (host : ServerNetworkHost) => host.runtime.simulation.timeMs) _
        fun serverNowMs => after_send_local request.clientId
          (.timeSync (timeSyncAnswer request serverNowMs))
          (fun sent => sent.countStats fun stats =>
            { stats with timeSyncResponsesSent := stats.timeSyncResponsesSent + 1 })
          fun _ => rfl
      refine (counted.comp answers).congr (fun transport host => ?_)
      rw [handleTimeSyncEnvelope, decoded]
      rfl

theorem envelope_local (envelope : NetworkEnvelope) :
    Local trace trace fun (transport : Transport) host =>
      host.handleEnvelope transport envelope := by
  by_cases isSync : envelope.Ok ∧ envelope.messageClass = .timeSyncRequest
  · refine (time_sync_local envelope).congr (fun transport host => ?_)
    rw [handleEnvelope, if_neg (not_not_intro isSync.1), isSync.2]
  · constructor
    · intro transport host
      obtain ⟨added, answered⟩ := envelope_answered transport host envelope
      rw [answered.trace, List.length_append]
      exact Nat.le_add_right _ _
    · intro one two host _
      -- no other envelope has the host send anything
      unfold handleEnvelope
      split
      · rfl
      · next ok =>
          split
          · rfl
          · rfl
          · rfl
          · rfl
          · next isClass => exact absurd ⟨not_not.mp ok, isClass⟩ isSync
          · rfl

theorem host_step_local (call : HostCall) :
    Local trace trace fun (transport : Transport) host => hostStep transport host call := by
  cases call with
  | connectSimulationOnlyClient clientId nowMs => exact silent_local fun _ => rfl
  | pumpClientMessages polled => exact local_loop envelope_local polled
  | tickAndSendSnapshots order hostOrder nowMs => exact tick_local order hostOrder nowMs
  | drainEvents => exact silent_local fun _ => rfl
  | buildSnapshotFor =>
      apply local_silent
      intro host
      simp
  | changeRuntime runtime => exact silent_local fun _ => rfl

/-! The host over a transport that changes. -/

section Transport

variable {Link : Type u} (io : ITransport Link)

/-- What a program does with a host over a transport, and what happens to the
transport between the calls of the host. -/
inductive HostedTurn (Link : Type u) where
  | connectSimulationOnlyClient (clientId : ClientId) (nowMs : TimestampMs)
  | pumpClientMessages (polls : Nat)
  | tickAndSendSnapshots (order : LoopOrder) (hostOrder : HostOrder) (nowMs : TimestampMs)
  | drainEvents
  | buildSnapshotFor
  | changeRuntime (runtime : ServerRuntime)
  | transport (change : Link → Link)

def hostedStep (hosted : Hosted Link) : HostedTurn Link → Hosted Link
  | .connectSimulationOnlyClient clientId nowMs =>
      hosted.call io (.connectSimulationOnlyClient clientId nowMs)
  | .pumpClientMessages polls => hosted.pumpClientMessages io polls
  | .tickAndSendSnapshots order hostOrder nowMs =>
      hosted.tickAndSendSnapshots io order hostOrder nowMs
  | .drainEvents => hosted.call io .drainEvents
  | .buildSnapshotFor => hosted.call io .buildSnapshotFor
  | .changeRuntime runtime => hosted.call io (.changeRuntime runtime)
  | .transport change => { hosted with link := change hosted.link }

/-- The calls on the host that a turn is. -/
def callsOf (hosted : Hosted Link) : HostedTurn Link → List HostCall
  | .connectSimulationOnlyClient clientId nowMs => [.connectSimulationOnlyClient clientId nowMs]
  | .pumpClientMessages polls =>
      [.pumpClientMessages (polledItems (Hosted.poll io)
        (fun hosted envelope => hosted.call io (.pumpClientMessages [envelope])) polls hosted)]
  | .tickAndSendSnapshots order hostOrder nowMs => [.tickAndSendSnapshots order hostOrder nowMs]
  | .drainEvents => [.drainEvents]
  | .buildSnapshotFor => [.buildSnapshotFor]
  | .changeRuntime runtime => [.changeRuntime runtime]
  | .transport _ => []

/-- The calls on the host that the turns of a run are. -/
def hostedCalls : Hosted Link → List (HostedTurn Link) → List HostCall
  | _, [] => []
  | hosted, turn :: rest => callsOf io hosted turn ++ hostedCalls (hostedStep io hosted turn) rest

variable {io}

theorem call_realised (hosted : Hosted Link) (call : HostCall) :
    Realised hostStep hosted.host [call] (hosted.call io call).host :=
  realised_step _ (hosted.answers io) hosted.host call

/-- Envelopes handled one by one are handled by one pump. -/
theorem pump_singly (transport : Transport) (host : ServerNetworkHost)
    (polled : List NetworkEnvelope) :
    Runs.run (hostStep transport) host
        (polled.map fun envelope => .pumpClientMessages [envelope]) =
      hostStep transport host (.pumpClientMessages polled) := by
  rw [Runs.run, List.foldl_map]
  rfl

variable (io) in
theorem pump_realised (polls : Nat) (hosted : Hosted Link) :
    Realised hostStep hosted.host
      ((polledItems (Hosted.poll io)
        (fun hosted envelope => hosted.call io (.pumpClientMessages [envelope])) polls hosted).map
          fun envelope => .pumpClientMessages [envelope])
      (hosted.pumpClientMessages io polls).host := by
  unfold Hosted.pumpClientMessages
  induction polls generalizing hosted with
  | zero => exact realised_nothing _ hosted.host
  | succ polls ih =>
      have sameHost : (hosted.poll io).2.host = hosted.host := rfl
      cases found : hosted.poll io with
      | mk item after =>
          rw [found] at sameHost
          cases item with
          | none =>
              rw [while_none found, polledItems, found, sameHost]
              exact realised_nothing _ hosted.host
          | some envelope =>
              rw [while_some found, polledItems, found, List.map_cons, ← sameHost]
              exact realised_trans host_step_local
                (call_realised after (.pumpClientMessages [envelope])) (ih _)

theorem turn_realised (hosted : Hosted Link) (turn : HostedTurn Link) :
    Realised hostStep hosted.host (callsOf io hosted turn) (hostedStep io hosted turn).host := by
  cases turn with
  | pumpClientMessages polls =>
      obtain ⟨transport, reached⟩ := pump_realised io polls hosted
      exact ⟨transport, reached.trans (pump_singly transport hosted.host _)⟩
  | transport change => exact realised_nothing _ hosted.host
  | connectSimulationOnlyClient clientId nowMs => exact call_realised hosted _
  | tickAndSendSnapshots order hostOrder nowMs => exact call_realised hosted _
  | drainEvents => exact call_realised hosted _
  | buildSnapshotFor => exact call_realised hosted _
  | changeRuntime runtime => exact call_realised hosted _

theorem turns_realised (turns : List (HostedTurn Link)) (hosted : Hosted Link) :
    Realised hostStep hosted.host (hostedCalls io hosted turns)
      (Runs.run (hostedStep io) hosted turns).host := by
  induction turns generalizing hosted with
  | nil => exact realised_nothing _ hosted.host
  | cons turn rest ih =>
      exact realised_trans host_step_local (turn_realised hosted turn) (ih _)

variable (io)

/-- Over any transport, whatever happens to it between the calls, the host is one
that `hostRun` reaches by these calls. -/
theorem hosted_run_answers (config : ServerNetworkHostConfig) (link : Link)
    (turns : List (HostedTurn Link)) :
    ∃ transport,
      (Runs.run (hostedStep io) { link := link, host := .new config } turns).host =
        hostRun transport config (hostedCalls io { link := link, host := .new config } turns) :=
  turns_realised turns { link := link, host := .new config }

end Transport

end Brawololo.HostOracles
