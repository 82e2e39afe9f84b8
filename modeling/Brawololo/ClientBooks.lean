import Brawololo.FixedLayouts
import Brawololo.LoginOrder
import Brawololo.NetworkedGames

/-!
The books of a client on the hub: the trace of its session against what the hub
took from it and gave to it. What the session applied is what its endpoint
polled, and what it acknowledges it has received.
-/

namespace Brawololo.ClientBooks

open GameTypes EntityStore NetworkEvents NetworkProtocol Serialization Simulation Client
open LoopbackHub HubTransports SessionExchanges LoginOrder

/-! What a client sends. -/

/-- What a client says is about itself and about what it has received. -/
inductive Spoken (clientId : ClientId) (trace : List PumpHappening) : NetworkEnvelope → Prop
  | login (login : LoginCommand) (own : login.header.clientId = clientId) :
      Spoken clientId trace (loginEnvelope login)
  | timeSync (request : TimeSyncRequest) (own : request.clientId = clientId) :
      Spoken clientId trace (timeSyncRequestEnvelope request)
  | input (packet : ClientInputPacket) (own : packet.header.clientId = clientId) :
      Spoken clientId trace (inputEnvelope packet)
  | snapshotAck (ack : SnapshotAckDTO) (own : ack.clientId = clientId) (snapshot : SnapshotDTO)
      (applied : .applied snapshot ∈ trace) (named : ack.snapshotId = snapshot.snapshotId) :
      Spoken clientId trace (snapshotAckEnvelope ack)
  | eventAck (ack : NetworkEventAckDTO) (own : ack.clientId = clientId)
      (networkEvent : NetworkEventDTO) (surfaced : .surfaced networkEvent ∈ trace)
      (named : ack.eventId = networkEvent.eventId) :
      Spoken clientId trace (networkEventAckEnvelope ack)

theorem Spoken.mono {clientId : ClientId} {trace : List PumpHappening} {envelope : NetworkEnvelope}
    (spoken : Spoken clientId trace envelope) (added : List PumpHappening) :
    Spoken clientId (trace ++ added) envelope := by
  cases spoken with
  | login login own => exact .login login own
  | timeSync request own => exact .timeSync request own
  | input packet own => exact .input packet own
  | snapshotAck ack own snapshot applied named =>
      exact .snapshotAck ack own snapshot (List.mem_append_left _ applied) named
  | eventAck ack own networkEvent surfaced named =>
      exact .eventAck ack own networkEvent (List.mem_append_left _ surfaced) named

theorem Spoken.later {clientId : ClientId} {added : List PumpHappening}
    {envelope : NetworkEnvelope} (spoken : Spoken clientId added envelope)
    (trace : List PumpHappening) : Spoken clientId (trace ++ added) envelope := by
  cases spoken with
  | login login own => exact .login login own
  | timeSync request own => exact .timeSync request own
  | input packet own => exact .input packet own
  | snapshotAck ack own snapshot applied named =>
      exact .snapshotAck ack own snapshot (List.mem_append_right _ applied) named
  | eventAck ack own networkEvent surfaced named =>
      exact .eventAck ack own networkEvent (List.mem_append_right _ surfaced) named

/-- The input that an envelope carries. -/
def inputIn (envelope : NetworkEnvelope) : Option ClientInputPacket :=
  if envelope.messageClass = .clientInput then deserializeClientInputPacket envelope.payload
  else none

theorem input_in_envelope (packet : ClientInputPacket) :
    inputIn (inputEnvelope packet) = some packet :=
  (if_pos rfl).trans ((decode_iff FixedLayouts.readClientInputPacket_exact _ packet).mpr rfl)

/-- What a session sends of its own besides inputs. -/
inductive Housekeeping (clientId : ClientId) : NetworkEnvelope → Prop
  | login (clientTimestampMs : TimestampMs) :
      Housekeeping clientId (loginEnvelope
        { header := { clientId := clientId, sequence := 0,
                      clientTimestampMs := clientTimestampMs } })
  | timeSync (sequence : CommandSequence) (clientSentAtMs : TimestampMs) :
      Housekeeping clientId (timeSyncRequestEnvelope
        { clientId := clientId, sequence := sequence, clientSentAtMs := clientSentAtMs })

section Housekeeping

variable {clientId : ClientId} {envelope : NetworkEnvelope}

theorem Housekeeping.spoken (housekeeping : Housekeeping clientId envelope)
    (trace : List PumpHappening) : Spoken clientId trace envelope := by
  cases housekeeping with
  | login clientTimestampMs => exact .login _ rfl
  | timeSync sequence clientSentAtMs => exact .timeSync _ rfl

theorem Housekeeping.no_input (housekeeping : Housekeeping clientId envelope) :
    inputIn envelope = none := by
  cases housekeeping <;> rfl

theorem housekeeping_logins : LoginAllowed clientId (Housekeeping clientId) :=
  fun clientTimestampMs => .login clientTimestampMs

theorem housekeeping_syncs : SyncAllowed clientId (Housekeeping clientId) :=
  fun sequence clientSentAtMs => .timeSync sequence clientSentAtMs

end Housekeeping

/-! The calls of the transport. -/

/-- What a call of the endpoint adds to the books of the hub. -/
structure Logged (clientId : ClientId) (before after : HubRecord)
    (sends polled : List NetworkEnvelope) : Prop where
  leaves : LeavesOthers (.client clientId) before after
  routed : Routed before → Routed after
  isOpen : IsOpen (.client clientId) before → IsOpen (.client clientId) after
  sends : sendsOf after clientId = sendsOf before clientId ++ sends
  polled : after.polled (.client clientId) = before.polled (.client clientId) ++ polled

section Calls

variable (clientId : ClientId) {first second third : HubRecord}

theorem Logged.refl (record : HubRecord) :
    Logged clientId record record [] [] :=
  ⟨LeavesOthers.refl _ _, fun routed => routed, fun isOpen => isOpen,
    (List.append_nil _).symm, (List.append_nil _).symm⟩

variable {clientId} in
theorem Logged.trans {sends sends' polled polled' : List NetworkEnvelope}
    (left : Logged clientId first second sends polled)
    (right : Logged clientId second third sends' polled') :
    Logged clientId first third (sends ++ sends') (polled ++ polled') where
  leaves := left.leaves.trans right.leaves
  routed := fun routed => right.routed (left.routed routed)
  isOpen := fun isOpen => right.isOpen (left.isOpen isOpen)
  sends := by rw [right.sends, left.sends, List.append_assoc]
  polled := by rw [right.polled, left.polled, List.append_assoc]

theorem connect_logged (record : HubRecord) :
    Logged clientId record ((hubTransport (.client clientId)).connect record).2 [] [] where
  leaves := hub_step_leaves record (.connect (.client clientId))
  routed := hub_step_routed record (.connect (.client clientId))
  isOpen := fun isOpen => connect_step_open isOpen
  sends := (List.append_nil _).symm
  polled := (List.append_nil _).symm

theorem send_logged (record : HubRecord) (envelope : NetworkEnvelope) :
    Logged clientId record ((hubTransport (.client clientId)).send envelope record).2
      (if ((hubTransport (.client clientId)).send envelope record).1 then [envelope] else [])
      [] where
  leaves := hub_step_leaves record (.send (.client clientId) envelope)
  routed := hub_step_routed record (.send (.client clientId) envelope)
  isOpen := fun isOpen => send_step_open isOpen envelope
  sends := client_send_sends record clientId envelope
  polled := by
    rw [List.append_nil]
    exact congrFun (send_step_polled record (.client clientId) envelope) _

theorem poll_logged (record : HubRecord) :
    Logged clientId record ((hubTransport (.client clientId)).poll record).2 []
      ((hubTransport (.client clientId)).poll record).1.toList where
  leaves := hub_step_leaves record (.poll (.client clientId))
  routed := hub_step_routed record (.poll (.client clientId))
  isOpen := fun isOpen => poll_step_open isOpen
  sends := (List.append_nil _).symm
  polled := poll_step_polled record (.client clientId)

end Calls

/-! One exchange. -/

/-- The calls that a pump makes on the runtime, one for each snapshot. -/
inductive PumpCalls : List ClientCall → List SnapshotDTO → Prop
  | nil : PumpCalls [] []
  | applied {calls : List ClientCall} {snapshots : List SnapshotDTO} (order : LoopOrder)
      (snapshot : SnapshotDTO) (rest : PumpCalls calls snapshots) :
      PumpCalls (.applyServerSnapshot order snapshot :: calls) (snapshot :: snapshots)
  | sampled {calls : List ClientCall} {snapshots : List SnapshotDTO} (sample : TimeSyncSample)
      (rest : PumpCalls calls snapshots) :
      PumpCalls (.recordTimeSyncSample sample :: calls) snapshots

theorem PumpCalls.append {first second : List ClientCall} {one two : List SnapshotDTO}
    (left : PumpCalls first one) (right : PumpCalls second two) :
    PumpCalls (first ++ second) (one ++ two) := by
  induction left with
  | nil => exact right
  | applied order snapshot _ ih => exact .applied order snapshot ih
  | sampled sample _ ih => exact .sampled sample ih

/-- What an exchange adds: to the books of the hub, to the trace, and to the
calls on the runtime. -/
structure Noted (clientId : ClientId) (before after : Talk HubRecord)
    (polled : List NetworkEnvelope) (added : List PumpHappening) : Prop where
  logged : Logged clientId before.link after.link (taken added) polled
  trace : after.trace = before.trace ++ added
  applied : added.filterMap appliedIn = polled.filterMap snapshotIn
  surfaced : added.filterMap surfacedIn =
    polled.filterMap fun envelope => (eventIn envelope).map Prod.fst
  spoken : ∀ envelope ∈ taken added, Spoken clientId added envelope
  inputs : (taken added).filterMap inputIn = []
  runtime : ∃ calls, PumpCalls calls (added.filterMap appliedIn) ∧
    after.runtime = Runs.run clientStep before.runtime calls

section Exchanges

variable {clientId : ClientId} {first second third : Talk HubRecord}

theorem Noted.refl (clientId : ClientId) (talk : Talk HubRecord) :
    Noted clientId talk talk [] [] where
  logged := Logged.refl clientId talk.link
  trace := (List.append_nil _).symm
  applied := rfl
  surfaced := rfl
  spoken := by simp [taken]
  inputs := rfl
  runtime := ⟨[], .nil, rfl⟩

theorem Noted.trans {polled polled' : List NetworkEnvelope} {added added' : List PumpHappening}
    (left : Noted clientId first second polled added)
    (right : Noted clientId second third polled' added') :
    Noted clientId first third (polled ++ polled') (added ++ added') where
  logged := by
    rw [taken_append]
    exact left.logged.trans right.logged
  trace := by rw [right.trace, left.trace, List.append_assoc]
  applied := by rw [List.filterMap_append, left.applied, right.applied, List.filterMap_append]
  surfaced := by rw [List.filterMap_append, left.surfaced, right.surfaced, List.filterMap_append]
  spoken := by
    intro envelope member
    rw [taken_append] at member
    rcases List.mem_append.mp member with early | late
    · exact (left.spoken envelope early).mono added'
    · exact (right.spoken envelope late).later added
  inputs := by rw [taken_append, List.filterMap_append, left.inputs, right.inputs]; rfl
  runtime := by
    obtain ⟨calls, pumped, ran⟩ := left.runtime
    obtain ⟨calls', pumped', ran'⟩ := right.runtime
    refine ⟨calls ++ calls', ?_, ?_⟩
    · rw [List.filterMap_append]
      exact pumped.append pumped'
    · rw [ran', ran, Runs.run_append]

/-- A call that neither sends nor polls. -/
theorem noted_quiet {before after : Talk HubRecord}
    (logged : Logged clientId before.link after.link [] [])
    (trace : after.trace = before.trace) (runtime : after.runtime = before.runtime) :
    Noted clientId before after [] [] where
  logged := logged
  trace := trace.trans (List.append_nil _).symm
  applied := rfl
  surfaced := rfl
  spoken := by simp [taken]
  inputs := rfl
  runtime := ⟨[], .nil, runtime⟩

theorem taken_member {envelope other : NetworkEnvelope} {accepted : Bool}
    (member : other ∈ taken [.handed envelope accepted]) : other = envelope := by
  rw [taken_handed] at member
  split at member
  · exact List.mem_singleton.mp member
  · cases member

theorem noted_sent (talk : Talk HubRecord) (envelope : NetworkEnvelope)
    (housekeeping : Housekeeping clientId envelope) :
    Noted clientId talk
      { talk with
        link := ((hubTransport (.client clientId)).send envelope talk.link).2
        trace := talk.trace ++
          [.handed envelope ((hubTransport (.client clientId)).send envelope talk.link).1] }
      [] [.handed envelope ((hubTransport (.client clientId)).send envelope talk.link).1] where
  logged := by
    rw [taken_handed]
    exact send_logged clientId talk.link envelope
  trace := rfl
  applied := rfl
  surfaced := rfl
  spoken := by
    intro other member
    rw [taken_member member]
    exact housekeeping.spoken _
  inputs := by
    rw [taken_handed]
    split
    · rw [List.filterMap_cons_none housekeeping.no_input]
      rfl
    · rfl
  runtime := ⟨[], .nil, rfl⟩

/-- A turn of the pump, from the poll that found the envelope to the
acknowledgement. -/
theorem noted_received (talk : Talk HubRecord) (envelope : NetworkEnvelope)
    (found : ((hubTransport (.client clientId)).poll talk.link).1 = some envelope)
    (localReceiveTimeMs : TimestampMs) (order : LoopOrder) (before after : PumpState)
    (client : before.stats.localClientId = clientId) (trace : before.trace = talk.trace)
    (runtime : before.runtime = talk.runtime) (accepted : Bool) (link : HubRecord)
    (acked : sendAck (hubTransport (.client clientId))
        (ackFor localReceiveTimeMs clientId envelope)
        ((hubTransport (.client clientId)).poll talk.link).2 = (accepted, link))
    (turn : Received localReceiveTimeMs before
      { envelope := envelope, ackAccepted := accepted, order := order } after) :
    ∃ added, Noted clientId talk { link := link, trace := after.trace, runtime := after.runtime }
      [envelope] added := by
  have polled := poll_logged clientId talk.link
  rw [found] at polled
  cases turn with
  | nothing noEvent noSnapshot same _ runtime' =>
      dsimp only at noEvent noSnapshot
      unfold ackFor at acked
      rw [noEvent, noSnapshot] at acked
      cases acked
      refine ⟨[], polled, ?_, ?_, ?_, by simp [taken], rfl, ?_⟩
      · rw [same, trace, List.append_nil]
      · simp [noSnapshot]
      · simp [noEvent]
      · rcases runtime' with still | ⟨sample, sampled⟩
        · exact ⟨[], .nil, still.trans runtime⟩
        · refine ⟨[.recordTimeSyncSample sample], .sampled sample .nil, ?_⟩
          rw [sampled, runtime]
          rfl
  | event networkEvent domainEvent isEvent noSnapshot traced _ runtime' =>
      dsimp only at isEvent noSnapshot traced
      let ack := networkEventAckEnvelope (eventAck clientId localReceiveTimeMs networkEvent)
      have isAck : ackFor localReceiveTimeMs clientId envelope = some ack := by
        unfold ackFor
        rw [isEvent]
        rfl
      rw [isAck] at acked
      rw [client, trace] at traced
      have sent := send_logged clientId
        ((hubTransport (.client clientId)).poll talk.link).2 ack
      rw [show (hubTransport (.client clientId)).send ack _ = (accepted, link) from acked,
        ← taken_handed] at sent
      refine ⟨[.handed ack accepted, .surfaced networkEvent], ?_, traced, ?_, ?_, ?_, ?_,
        [], .nil, runtime'.trans runtime⟩
      · cases accepted <;> exact polled.trans sent
      · simp [appliedIn, noSnapshot]
      · simp only [List.filterMap_cons, List.filterMap_nil, isEvent, Option.map_some]
        rfl
      · intro other member
        have isHanded : other ∈ taken [.handed ack accepted] := by cases accepted <;> exact member
        rw [taken_member isHanded]
        exact .eventAck _ rfl networkEvent (by simp) rfl
      · cases accepted <;> rfl
  | snapshot snapshot noEvent isSnapshot traced _ runtime' =>
      dsimp only at noEvent isSnapshot traced runtime'
      let ack := snapshotAckEnvelope (snapshotAck clientId localReceiveTimeMs snapshot)
      have isAck : ackFor localReceiveTimeMs clientId envelope = some ack := by
        unfold ackFor
        rw [noEvent, isSnapshot]
        rfl
      rw [isAck] at acked
      rw [client, trace] at traced
      have sent := send_logged clientId
        ((hubTransport (.client clientId)).poll talk.link).2 ack
      rw [show (hubTransport (.client clientId)).send ack _ = (accepted, link) from acked,
        ← taken_handed] at sent
      refine ⟨[.applied snapshot, .handed ack accepted], polled.trans sent, traced, ?_, ?_, ?_, ?_,
        [.applyServerSnapshot order snapshot], .applied order snapshot .nil, ?_⟩
      · simp [appliedIn, isSnapshot]
      · simp [surfacedIn, noEvent]
      · intro other member
        have isHanded : other ∈ taken [.handed ack accepted] := member
        rw [taken_member isHanded]
        exact .snapshotAck _ rfl snapshot (by simp) rfl
      · cases accepted <;> rfl
      · rw [runtime', runtime]
        rfl

theorem exchange_noted {before after : Talk HubRecord}
    (exchange : Exchange (hubTransport (.client clientId)) clientId (Housekeeping clientId)
      before after) : ∃ polled added, Noted clientId before after polled added := by
  cases exchange with
  | connected => exact ⟨[], [], noted_quiet (connect_logged clientId before.link) rfl rfl⟩
  | updated => exact ⟨[], [], noted_quiet (Logged.refl clientId before.link) rfl rfl⟩
  | asked => exact ⟨[], [], noted_quiet (Logged.refl clientId before.link) rfl rfl⟩
  | sent envelope isAllowed => exact ⟨[], _, noted_sent before envelope isAllowed⟩
  | foundNothing noneLeft =>
      have polled := poll_logged clientId before.link
      rw [noneLeft] at polled
      exact ⟨[], [], noted_quiet polled rfl rfl⟩
  | received envelope found localReceiveTimeMs order first last client trace runtime accepted link
      acked turn =>
      obtain ⟨added, noted⟩ := noted_received before envelope found localReceiveTimeMs order first
        last client trace runtime accepted link acked turn
      exact ⟨[envelope], added, noted⟩

theorem exchanges_noted {before after : Talk HubRecord}
    (exchanges : Exchanges (hubTransport (.client clientId)) clientId (Housekeeping clientId)
      before after) : ∃ polled added, Noted clientId before after polled added := by
  refine exchanges_kept _ (fun talk => ∃ polled added, Noted clientId before talk polled added)
    ?_ exchanges ⟨[], [], Noted.refl clientId before⟩
  rintro middle talk exchange ⟨polled, added, noted⟩
  obtain ⟨polled', added', noted'⟩ := exchange_noted exchange
  exact ⟨_, _, noted.trans noted'⟩

end Exchanges

/-! The books. -/

/-- What the hub knows of a client is what the trace of its session tells. -/
structure Booked (clientId : ClientId) (talk : Talk HubRecord) : Prop where
  isOpen : IsOpen (.client clientId) talk.link
  sends : sendsOf talk.link clientId = taken talk.trace
  applied : talk.trace.filterMap appliedIn =
    (talk.link.polled (.client clientId)).filterMap snapshotIn
  surfaced : talk.trace.filterMap surfacedIn =
    (talk.link.polled (.client clientId)).filterMap fun envelope =>
      (eventIn envelope).map Prod.fst
  spoken : ∀ envelope ∈ taken talk.trace, Spoken clientId talk.trace envelope

section Books

variable {clientId : ClientId} {before after : Talk HubRecord} {added : List PumpHappening}
variable {polled : List NetworkEnvelope}

/-- The books grow as the trace does. -/
theorem booked_grown (booked : Booked clientId before)
    (logged : Logged clientId before.link after.link (taken added) polled)
    (trace : after.trace = before.trace ++ added)
    (applied : added.filterMap appliedIn = polled.filterMap snapshotIn)
    (surfaced : added.filterMap surfacedIn =
      polled.filterMap fun envelope => (eventIn envelope).map Prod.fst)
    (spoken : ∀ envelope ∈ taken added, Spoken clientId added envelope) :
    Booked clientId after where
  isOpen := logged.isOpen booked.isOpen
  sends := by rw [logged.sends, booked.sends, trace, taken_append]
  applied := by
    rw [trace, List.filterMap_append, booked.applied, applied, logged.polled,
      List.filterMap_append]
  surfaced := by
    rw [trace, List.filterMap_append, booked.surfaced, surfaced, logged.polled,
      List.filterMap_append]
  spoken := by
    intro envelope member
    rw [trace, taken_append] at member
    rw [trace]
    rcases List.mem_append.mp member with old | new
    · exact (booked.spoken envelope old).mono added
    · exact (spoken envelope new).later before.trace

theorem Noted.booked (noted : Noted clientId before after polled added)
    (booked : Booked clientId before) : Booked clientId after :=
  booked_grown booked noted.logged noted.trace noted.applied noted.surfaced noted.spoken

/-- What the others do leaves the books of the client alone. -/
theorem booked_of_leaves {party : Party} {link link' : HubRecord} {trace : List PumpHappening}
    {runtime runtime' : ClientRuntime} (leaves : LeavesOthers party link link')
    (apart : party ≠ .client clientId)
    (booked : Booked clientId { link := link, trace := trace, runtime := runtime }) :
    Booked clientId { link := link', trace := trace, runtime := runtime' } where
  isOpen := open_of_leaves leaves apart.symm booked.isOpen
  sends := (leaves.clientSends clientId apart).trans booked.sends
  applied := by
    rw [leaves.polled _ apart.symm]
    exact booked.applied
  surfaced := by
    rw [leaves.polled _ apart.symm]
    exact booked.surfaced
  spoken := booked.spoken

end Books

end Brawololo.ClientBooks
