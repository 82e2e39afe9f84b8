import Brawololo.ClientApplication

/-!
What a remote session does to its transport, one call of the transport at a
time. Every call of the session is a chain of such exchanges, so that what an
exchange keeps, the session keeps.
-/

namespace Brawololo.SessionExchanges

open GameTypes EntityStore NetworkEvents NetworkProtocol Serialization Simulation Client PollLoops
open ByteReader

universe u

/-! One turn of the pump. -/

def appliedIn : PumpHappening → Option SnapshotDTO
  | .applied snapshot => some snapshot
  | _ => none

def surfacedIn : PumpHappening → Option NetworkEventDTO
  | .surfaced networkEvent => some networkEvent
  | _ => none

/-- The acknowledgement of a snapshot. -/
def snapshotAck (localClientId : ClientId) (localReceiveTimeMs : TimestampMs)
    (snapshot : SnapshotDTO) : SnapshotAckDTO :=
  { clientId := localClientId, snapshotId := snapshot.snapshotId,
    baselineId := snapshot.baselineId, ackedInputSequence := snapshot.ackedInputSequence,
    clientReceivedAtMs := localReceiveTimeMs }

def eventAck (localClientId : ClientId) (localReceiveTimeMs : TimestampMs)
    (networkEvent : NetworkEventDTO) : NetworkEventAckDTO :=
  { clientId := localClientId, eventId := networkEvent.eventId,
    clientReceivedAtMs := localReceiveTimeMs }

/-- What a turn of the pump does with an envelope. -/
inductive Received (localReceiveTimeMs : TimestampMs) (state : PumpState) (polled : Polled) :
    PumpState → Prop
  /-- No snapshot and no event; the clock may be set. -/
  | nothing {after : PumpState} (noEvent : eventIn polled.envelope = none)
      (noSnapshot : snapshotIn polled.envelope = none) (trace : after.trace = state.trace)
      (localClientId : after.stats.localClientId = state.stats.localClientId)
      (runtime : after.runtime = state.runtime ∨
        ∃ sample, after.runtime = state.runtime.recordTimeSyncSample sample) :
      Received localReceiveTimeMs state polled after
  | event {after : PumpState} (networkEvent : NetworkEventDTO) (domainEvent : DomainEvent)
      (isEvent : eventIn polled.envelope = some (networkEvent, domainEvent))
      (noSnapshot : snapshotIn polled.envelope = none)
      (trace : after.trace = state.trace ++
        [.handed (networkEventAckEnvelope
          (eventAck state.stats.localClientId localReceiveTimeMs networkEvent)) polled.ackAccepted,
         .surfaced networkEvent])
      (localClientId : after.stats.localClientId = state.stats.localClientId)
      (runtime : after.runtime = state.runtime) : Received localReceiveTimeMs state polled after
  | snapshot {after : PumpState} (snapshot : SnapshotDTO)
      (noEvent : eventIn polled.envelope = none)
      (isSnapshot : snapshotIn polled.envelope = some snapshot)
      (trace : after.trace = state.trace ++
        [.applied snapshot,
         .handed (snapshotAckEnvelope
          (snapshotAck state.stats.localClientId localReceiveTimeMs snapshot)) polled.ackAccepted])
      (localClientId : after.stats.localClientId = state.stats.localClientId)
      (runtime : after.runtime = state.runtime.applyServerSnapshot polled.order snapshot) :
      Received localReceiveTimeMs state polled after

/-- An envelope is of one class. -/
theorem event_no_snapshot {envelope : NetworkEnvelope} {found : NetworkEventDTO × DomainEvent}
    (isEvent : eventIn envelope = some found) : snapshotIn envelope = none := by
  unfold eventIn at isEvent
  unfold snapshotIn
  split at isEvent
  · next holds =>
      rw [if_neg]
      rintro ⟨_, isSnapshot⟩
      rw [isSnapshot] at holds
      exact Bool.false_ne_true holds.2
  · cases isEvent

theorem response_alone {envelope : NetworkEnvelope} {response : TimeSyncResponse}
    (isResponse : timeSyncResponseIn envelope = some response) :
    eventIn envelope = none ∧ snapshotIn envelope = none := by
  unfold timeSyncResponseIn at isResponse
  split at isResponse
  · next holds =>
      unfold eventIn snapshotIn
      rw [holds.2]
      exact ⟨if_neg (by simp [isEventClass]), if_neg (by simp)⟩
  · cases isResponse

theorem receive_received (localReceiveTimeMs : TimestampMs) (state : PumpState)
    (polled : Polled) :
    Received localReceiveTimeMs state polled (state.receive localReceiveTimeMs polled) := by
  unfold PumpState.receive
  split
  · next response isResponse =>
      obtain ⟨noEvent, noSnapshot⟩ := response_alone isResponse
      exact .nothing noEvent noSnapshot rfl rfl (Or.inr ⟨_, rfl⟩)
  · split
    · next networkEvent domainEvent isEvent =>
        refine .event networkEvent domainEvent isEvent (event_no_snapshot isEvent) ?_ ?_ rfl
        · unfold PumpState.receiveEvent PumpState.record
          dsimp only
          rw [List.append_assoc]
          rfl
        · exact (apply_ite ClientSessionStats.localClientId _ _ _).trans (ite_self _)
    · next noEvent =>
        split
        · next snapshot isSnapshot =>
            refine .snapshot snapshot noEvent isSnapshot ?_ rfl rfl
            unfold PumpState.receiveSnapshot PumpState.record
            dsimp only
            rw [List.append_assoc]
            rfl
        · next noSnapshot => exact .nothing noEvent noSnapshot rfl rfl (Or.inl rfl)

/-! An input that a client sends is valid. -/

theorem input_valid (packet : ClientInputPacket) : (inputEnvelope packet).Ok := by
  rw [envelope_ok_iff]
  refine ⟨rfl, ?_, rfl⟩
  simp [inputEnvelope, serializeClientInputPacket, kMaxNetworkPayloadBytes, podBytes_length,
    Pod.size, boolByte]

/-! Exchanges. -/

/-- What an exchange may change: the transport, what was said over it, and the
runtime. -/
structure Talk (Link : Type u) where
  link : Link
  trace : List PumpHappening
  runtime : ClientRuntime

section Transport

variable {Link : Type u} (io : ITransport Link)

/-- One call of the transport, in a pump of this client, which sends beside its
acknowledgements only what is allowed. -/
inductive Exchange (localClientId : ClientId) (allowed : NetworkEnvelope → Prop)
    (talk : Talk Link) : Talk Link → Prop
  | connected : Exchange localClientId allowed talk { talk with link := (io.connect talk.link).2 }
  | updated : Exchange localClientId allowed talk { talk with link := io.update talk.link }
  | asked : Exchange localClientId allowed talk { talk with link := (io.state talk.link).2 }
  | sent (envelope : NetworkEnvelope) (isAllowed : allowed envelope) :
      Exchange localClientId allowed talk
        { talk with
          link := (io.send envelope talk.link).2
          trace := talk.trace ++ [.handed envelope (io.send envelope talk.link).1] }
  | foundNothing (noneLeft : (io.poll talk.link).1 = none) :
      Exchange localClientId allowed talk { talk with link := (io.poll talk.link).2 }
  | received (envelope : NetworkEnvelope) (found : (io.poll talk.link).1 = some envelope)
      (localReceiveTimeMs : TimestampMs) (order : LoopOrder) (before after : PumpState)
      (client : before.stats.localClientId = localClientId) (trace : before.trace = talk.trace)
      (runtime : before.runtime = talk.runtime) (accepted : Bool) (link : Link)
      (acked : sendAck io (ackFor localReceiveTimeMs localClientId envelope) (io.poll talk.link).2 =
        (accepted, link))
      (turn : Received localReceiveTimeMs before
        { envelope := envelope, ackAccepted := accepted, order := order } after) :
      Exchange localClientId allowed talk
        { link := link, trace := after.trace, runtime := after.runtime }

def Exchanges (localClientId : ClientId) (allowed : NetworkEnvelope → Prop) :
    Talk Link → Talk Link → Prop :=
  Relation.ReflTransGen (Exchange io localClientId allowed)

/-- What every exchange keeps, exchanges keep. -/
theorem exchanges_kept {localClientId : ClientId} {allowed : NetworkEnvelope → Prop}
    (holds : Talk Link → Prop)
    (kept : ∀ before after, Exchange io localClientId allowed before after → holds before →
      holds after)
    {before after : Talk Link} (exchanges : Exchanges io localClientId allowed before after)
    (initially : holds before) : holds after := by
  induction exchanges with
  | refl => exact initially
  | tail _ exchange ih => exact kept _ _ exchange ih

variable {io} {localClientId : ClientId} {allowed : NetworkEnvelope → Prop}

/-! Calls of the session. -/

/-- The session of the client, with the transport in its hands. -/
structure Speaks (localClientId : ClientId) (session : RemoteClientSession Link) (link : Link) :
    Prop where
  transport : session.transport = some link
  client : session.sessionActive = true → session.stats.localClientId = localClientId ∧
    session.localClientId = localClientId

/-- A call of the session as exchanges over its transport. -/
def Conversed (io : ITransport Link) (localClientId : ClientId)
    (allowed : NetworkEnvelope → Prop) (before : RemoteClientSession Link)
    (runtime : ClientRuntime) (link : Link) (after : RemoteClientSession Link)
    (runtime' : ClientRuntime) : Prop :=
  ∃ link', Speaks localClientId after link' ∧
    Exchanges io localClientId allowed { link := link, trace := before.trace, runtime := runtime }
      { link := link', trace := after.trace, runtime := runtime' }

variable {session : RemoteClientSession Link} {runtime : ClientRuntime} {link : Link}

theorem conversed_silent (speaks : Speaks localClientId session link) :
    Conversed io localClientId allowed session runtime link session runtime :=
  ⟨link, speaks, Relation.ReflTransGen.refl⟩

/-- The login of the client is allowed. -/
def LoginAllowed (localClientId : ClientId) (allowed : NetworkEnvelope → Prop) : Prop :=
  ∀ clientTimestampMs, allowed (loginEnvelope
    { header := { clientId := localClientId, sequence := 0,
                  clientTimestampMs := clientTimestampMs } })

theorem try_send_login_conversed (speaks : Speaks localClientId session link)
    (logins : LoginAllowed localClientId allowed) (nowMs : TimestampMs) :
    Conversed io localClientId allowed session runtime link (session.trySendLogin io nowMs).1
      runtime := by
  unfold RemoteClientSession.trySendLogin
  rw [speaks.transport]
  dsimp only
  split
  · exact conversed_silent speaks
  · next active =>
      have isActive : session.sessionActive = true := by simpa using active
      obtain ⟨statsClient, isClient⟩ := speaks.client isActive
      split
      · exact conversed_silent speaks
      · have asked : Exchanges io localClientId allowed
            { link := link, trace := session.trace, runtime := runtime }
            { link := (io.state link).2, trace := session.trace, runtime := runtime } :=
          Relation.ReflTransGen.single .asked
        split
        · exact ⟨_, ⟨rfl, fun _ => ⟨statsClient, isClient⟩⟩, asked⟩
        · have isAllowed := logins nowMs
          rw [← isClient] at isAllowed
          refine ⟨_, ⟨rfl, fun _ => ⟨statsClient, isClient⟩⟩, asked.tail ?_⟩
          exact Exchange.sent _ isAllowed

/-- Of the session before a call only the trace matters. -/
theorem conversed_of_before {middle after : RemoteClientSession Link} {runtime' : ClientRuntime}
    {link' : Link} (trace : middle.trace = session.trace)
    (moved : Exchange io localClientId allowed
      { link := link, trace := session.trace, runtime := runtime }
      { link := link', trace := session.trace, runtime := runtime })
    (conversed : Conversed io localClientId allowed middle runtime link' after runtime') :
    Conversed io localClientId allowed session runtime link after runtime' := by
  obtain ⟨last, speaks, exchanges⟩ := conversed
  rw [trace] at exchanges
  exact ⟨last, speaks, Relation.ReflTransGen.head moved exchanges⟩

theorem connect_conversed (transport : session.transport = some link)
    (logins : LoginAllowed localClientId allowed) (nowMs : TimestampMs) :
    Conversed io localClientId allowed session runtime link
      (session.connect io localClientId nowMs).1 runtime := by
  unfold RemoteClientSession.connect
  rw [transport]
  dsimp only
  split
  · refine conversed_of_before rfl .connected (conversed_silent ?_)
    exact ⟨rfl, fun _ => ⟨rfl, rfl⟩⟩
  · refine conversed_of_before rfl .connected (conversed_of_before rfl .asked ?_)
    split
    · exact conversed_silent ⟨rfl, fun _ => ⟨rfl, rfl⟩⟩
    · refine try_send_login_conversed ?_ logins nowMs
      exact ⟨rfl, fun _ => ⟨rfl, rfl⟩⟩

/-- The clock of the client may be asked for. -/
def SyncAllowed (localClientId : ClientId) (allowed : NetworkEnvelope → Prop) : Prop :=
  ∀ sequence clientSentAtMs, allowed (timeSyncRequestEnvelope
    { clientId := localClientId, sequence := sequence, clientSentAtMs := clientSentAtMs })

theorem tick_conversed (speaks : Speaks localClientId session link)
    (logins : LoginAllowed localClientId allowed) (syncs : SyncAllowed localClientId allowed)
    (nowMs : TimestampMs) :
    Conversed io localClientId allowed session runtime link (session.tick io nowMs) runtime := by
  unfold RemoteClientSession.tick
  dsimp only
  rw [speaks.transport]
  dsimp only
  split
  · exact ⟨link, ⟨rfl, speaks.client⟩, Relation.ReflTransGen.refl⟩
  · next active =>
      have isActive : session.sessionActive = true := by simpa using active
      obtain ⟨_, isClient⟩ := speaks.client isActive
      refine conversed_of_before rfl .updated ?_
      split
      · refine try_send_login_conversed ?_ logins nowMs
        exact ⟨rfl, speaks.client⟩
      · split
        · exact conversed_silent ⟨rfl, speaks.client⟩
        · have isAllowed := syncs session.nextTimeSyncSequence nowMs
          rw [← isClient] at isAllowed
          refine ⟨_, ⟨rfl, speaks.client⟩, Relation.ReflTransGen.single ?_⟩
          exact Exchange.sent _ isAllowed

/-- The loop of the pump. -/
theorem loop_exchanges (io : ITransport Link) (order : PumpState → LoopOrder)
    (localReceiveTimeMs : TimestampMs) (polls : Nat) (state : Link × PumpState)
    (client : state.2.stats.localClientId = localClientId) :
    (whileSome (pollEnvelope io) (receiveEnvelope io order localReceiveTimeMs) polls
        state).2.stats.localClientId = localClientId ∧
      Exchanges io localClientId allowed
        { link := state.1, trace := state.2.trace, runtime := state.2.runtime }
        { link := (whileSome (pollEnvelope io) (receiveEnvelope io order localReceiveTimeMs) polls
            state).1
          trace := (whileSome (pollEnvelope io) (receiveEnvelope io order localReceiveTimeMs)
            polls state).2.trace
          runtime := (whileSome (pollEnvelope io) (receiveEnvelope io order localReceiveTimeMs)
            polls state).2.runtime } := by
  induction polls generalizing state with
  | zero => exact ⟨client, Relation.ReflTransGen.refl⟩
  | succ polls ih =>
      cases found : (io.poll state.1).1 with
      | none =>
          have polled : pollEnvelope io state = (none, ((io.poll state.1).2, state.2)) := by
            unfold pollEnvelope
            rw [found]
          rw [while_none polled]
          exact ⟨client, Relation.ReflTransGen.single (.foundNothing found)⟩
      | some envelope =>
          have polled : pollEnvelope io state =
              (some envelope, ((io.poll state.1).2, state.2)) := by
            unfold pollEnvelope
            rw [found]
          rw [while_some polled]
          let acked := sendAck io (ackFor localReceiveTimeMs localClientId envelope)
            (io.poll state.1).2
          let item : Polled :=
            { envelope := envelope, ackAccepted := acked.1, order := order state.2 }
          have turn := receive_received localReceiveTimeMs state.2 item
          have body : receiveEnvelope io order localReceiveTimeMs
              ((io.poll state.1).2, state.2) envelope =
              (acked.2, state.2.receive localReceiveTimeMs item) := by
            unfold receiveEnvelope
            dsimp only
            rw [client]
          have still : (state.2.receive localReceiveTimeMs item).stats.localClientId =
              localClientId := by
            rw [← client]
            cases turn with
            | nothing _ _ _ same => exact same
            | event _ _ _ _ _ same => exact same
            | snapshot _ _ _ _ same => exact same
          rw [body]
          obtain ⟨last, exchanges⟩ :=
            ih (acked.2, state.2.receive localReceiveTimeMs item) still
          refine ⟨last, Relation.ReflTransGen.head ?_ exchanges⟩
          exact Exchange.received envelope found localReceiveTimeMs (order state.2) state.2 _
            client rfl rfl acked.1 acked.2 rfl turn

theorem pump_conversed (speaks : Speaks localClientId session link)
    (logins : LoginAllowed localClientId allowed) (polls : Nat) (order : PumpState → LoopOrder) :
    Conversed io localClientId allowed session runtime link
      (session.pump io polls order runtime).1 (session.pump io polls order runtime).2 := by
  unfold RemoteClientSession.pump
  rw [speaks.transport]
  dsimp only
  split
  · exact conversed_silent speaks
  · next active =>
      have isActive : session.sessionActive = true := by simpa using active
      obtain ⟨statsClient, isClient⟩ := speaks.client isActive
      split
      · refine conversed_of_before rfl .updated ?_
        refine try_send_login_conversed ?_ logins session.lastTickTimeMs
        exact ⟨rfl, speaks.client⟩
      · obtain ⟨still, exchanges⟩ := loop_exchanges io order session.lastTickTimeMs polls
          (io.update link, session.pumpState runtime) statsClient
        refine ⟨_, ⟨rfl, fun _ => ⟨still, isClient⟩⟩, Relation.ReflTransGen.head .updated ?_⟩
        exact exchanges

end Transport

end Brawololo.SessionExchanges
