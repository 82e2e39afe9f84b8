import Brawololo.HostBookkeeping

/-!
What a turn of each loop of the network host changes, and what it leaves alone.
Sending events touches the events a client still has to acknowledge, two
statistics and the record, and nothing else; a snapshot for a client moves on
that client's interest, its baselines and its schedule.
-/

namespace Brawololo.HostTurns

open GameTypes EntityStore NetworkEvents Simulation Replication Server ServerNetworkHost

/-! Interest events. -/

/-- Whether an event tells of an entity that entered interest or left it. -/
def interestChange (event : NetworkEventDTO) : Option (NetworkEntityId × Bool) :=
  match event.payload with
  | .entityEnteredInterest entered => some (entered.entityId, true)
  | .entityLeftInterest left => some (left.entityId, false)
  | _ => none

/-- The interest event that the host generated for the client, if this is one. -/
def generatedFor (clientId : ClientId) : Happening → Option (NetworkEntityId × Bool)
  | .handed receiver (.event event false) _ =>
      if receiver = clientId then interestChange event else none
  | _ => none

/-- The interest events that the host generated for the client, oldest first. -/
def interestOf (clientId : ClientId) (trace : Trace) : List (NetworkEntityId × Bool) :=
  trace.filterMap (generatedFor clientId)

theorem interest_of_append (clientId : ClientId) (first second : Trace) :
    interestOf clientId (first ++ second) = interestOf clientId first ++ interestOf clientId second :=
  List.filterMap_append

/-- A snapshot that was handed over for the client. -/
def snapshotFor (clientId : ClientId) : Happening → Option (SnapshotDTO × Bool)
  | .handed receiver (.snapshot planned _) accepted =>
      if receiver = clientId then some (planned, accepted) else none
  | _ => none

/-- A snapshot that the transport took for the client. -/
def acceptedFor (clientId : ClientId) (happening : Happening) : Option SnapshotDTO :=
  (snapshotFor clientId happening).bind fun sent => if sent.2 then some sent.1 else none

/-- No snapshot is handed over in this stretch. -/
def NoSnapshot (trace : Trace) : Prop :=
  ∀ clientId, ∀ happening ∈ trace, snapshotFor clientId happening = none

theorem no_snapshot_append {first second : Trace} (one : NoSnapshot first)
    (two : NoSnapshot second) : NoSnapshot (first ++ second) := by
  intro clientId happening member
  rcases List.mem_append.mp member with inFirst | inSecond
  · exact one clientId happening inFirst
  · exact two clientId happening inSecond

theorem quiet_accepted {trace : Trace} (quiet : NoSnapshot trace) (clientId : ClientId) :
    trace.filterMap (acceptedFor clientId) = [] := by
  apply List.filterMap_eq_nil_iff.mpr
  intro happening member
  unfold acceptedFor
  rw [quiet clientId happening member]
  rfl

/-! Sending events. -/

/-- The state of a client without its pending events. -/
def coreOf (state : ServerClientReplicationState) : ServerClientReplicationState :=
  { state with pendingReliableEvents := {} }

/-- The core of what the host keeps for a client. -/
def coreFor (host : ServerNetworkHost) (clientId : ClientId) :
    Option ServerClientReplicationState :=
  (host.clientStateById[clientId]?).map coreOf

/-- Only events were sent, and `sent` is what the record has of it. -/
structure EventsOnly (sent : Trace) (before after : ServerNetworkHost) : Prop where
  config : after.config = before.config
  clients : after.clients = before.clients
  runtime : after.runtime = before.runtime
  baselines : after.baselineCache = before.baselineCache
  trace : after.trace = before.trace ++ sent
  unacked : ∀ clientId snapshotId, Happening.snapshotAcked clientId snapshotId ∉ sent
  states : ∀ clientId, coreFor after clientId = coreFor before clientId
  stats : ∃ sentCount resentCount, after.stats =
    { before.stats with reliableEventsSent := sentCount, reliableEventsResent := resentCount }

namespace EventsOnly

theorem refl (host : ServerNetworkHost) : EventsOnly [] host host :=
  ⟨rfl, rfl, rfl, rfl, (List.append_nil _).symm, by simp, fun _ => rfl, _, _, rfl⟩

theorem trans {one two : Trace} {first second third : ServerNetworkHost}
    (left : EventsOnly one first second) (right : EventsOnly two second third) :
    EventsOnly (one ++ two) first third := by
  obtain ⟨_, _, leftStats⟩ := left.stats
  obtain ⟨sentCount, resentCount, rightStats⟩ := right.stats
  refine ⟨right.config.trans left.config, right.clients.trans left.clients,
    right.runtime.trans left.runtime, right.baselines.trans left.baselines, ?_, ?_,
    fun clientId => (right.states clientId).trans (left.states clientId),
    sentCount, resentCount, ?_⟩
  · rw [right.trace, left.trace, List.append_assoc]
  · intro clientId snapshotId member
    rcases List.mem_append.mp member with inOne | inTwo
    · exact left.unacked clientId snapshotId inOne
    · exact right.unacked clientId snapshotId inTwo
  · rw [rightStats, leftStats]

end EventsOnly

theorem number_event_only (host : ServerNetworkHost) :
    EventsOnly [.eventNumbered host.nextNetworkEventId] host host.numberEvent.1 :=
  ⟨rfl, rfl, rfl, rfl, rfl, by simp, fun _ => rfl, _, _, rfl⟩

theorem core_update (host : ServerNetworkHost) (clientId other : ClientId)
    (change : ServerClientReplicationState → ServerClientReplicationState)
    (same : ∀ state, coreOf (change state) = coreOf state) :
    coreFor (host.updateClient clientId change) other = coreFor host other :=
  part_modify coreOf host.clientStateById clientId other change same

section Sending

variable (transport : Transport)

theorem send_event_only (host : ServerNetworkHost) (clientId : ClientId)
    (event : NetworkEventDTO) (nowMs : TimestampMs) (isResend : Bool) :
    ∃ accepted, EventsOnly [.handed clientId (.event event isResend) accepted] host
      (host.sendReliableEvent transport clientId event nowMs isResend) := by
  refine ⟨transport host.trace (envelopeFor clientId (.event event isResend)), ?_⟩
  unfold sendReliableEvent send
  dsimp only
  split
  · refine ⟨rfl, rfl, rfl, rfl, rfl, by simp, ?_, _, _, rfl⟩
    intro other
    exact core_update _ clientId other _ fun _ => rfl
  · exact ⟨rfl, rfl, rfl, rfl, rfl, by simp, fun _ => rfl, _, _, rfl⟩

/-- A loop whose turns send only events of a kind sends only events of the kind. -/
theorem loop_events_only {Item : Type} (allowed : Happening → Prop)
    (turn : ServerNetworkHost → Item → ServerNetworkHost) (items : List Item)
    (sends : ∀ item ∈ items, ∀ host, ∃ sent, EventsOnly sent host (turn host item) ∧
      ∀ happening ∈ sent, allowed happening)
    (host : ServerNetworkHost) :
    ∃ sent, EventsOnly sent host (items.foldl turn host) ∧
      ∀ happening ∈ sent, allowed happening := by
  induction items generalizing host with
  | nil => exact ⟨[], EventsOnly.refl host, by simp⟩
  | cons item rest ih =>
      obtain ⟨first, sentFirst, allFirst⟩ := sends item List.mem_cons_self host
      obtain ⟨later, sentLater, allLater⟩ := ih
        (fun other member => sends other (List.mem_cons_of_mem item member)) (turn host item)
      refine ⟨first ++ later, sentFirst.trans sentLater, ?_⟩
      intro happening member
      rcases List.mem_append.mp member with inFirst | inLater
      · exact allFirst happening inFirst
      · exact allLater happening inLater

/-- Numbering an event, or handing over one that is no new interest event. -/
def Uninteresting (happening : Happening) : Prop :=
  (∀ clientId, generatedFor clientId happening = none) ∧
    ∀ clientId, snapshotFor clientId happening = none

/-- Whether an event of the simulation is one of interest, and of which entity. -/
def interestChangeOf : DomainEvent → Option (NetworkEntityId × Bool)
  | .entityEnteredInterest entered => some (entered.entityId, true)
  | .entityLeftInterest left => some (left.entityId, false)
  | _ => none

theorem interest_converted (eventId : NetworkEventId) (serverTick : Tick)
    (serverTimeMs : TimestampMs) {event : DomainEvent} {change : NetworkEntityId × Bool}
    (isChange : interestChangeOf event = some change) :
    ∃ dto, toNetworkEventDTO eventId serverTick serverTimeMs event = some dto ∧
      interestChange dto = some change := by
  cases event with
  | entityEnteredInterest entered => exact ⟨_, rfl, isChange⟩
  | entityLeftInterest left => exact ⟨_, rfl, isChange⟩
  | _ => cases isChange

def isInterestEvent (event : DomainEvent) : Prop :=
  (∃ entered, event = .entityEnteredInterest entered) ∨ ∃ left, event = .entityLeftInterest left

theorem no_interest_change {eventId : NetworkEventId} {serverTick : Tick}
    {serverTimeMs : TimestampMs} {event : DomainEvent} {dto : NetworkEventDTO}
    (converted : toNetworkEventDTO eventId serverTick serverTimeMs event = some dto)
    (notInterest : ¬ isInterestEvent event) : interestChange dto = none := by
  cases event with
  | entityEnteredInterest entered => exact absurd (Or.inl ⟨entered, rfl⟩) notInterest
  | entityLeftInterest left => exact absurd (Or.inr ⟨left, rfl⟩) notInterest
  | playerMoved => cases converted
  | snapshotApplied => cases converted
  | localPredictionCorrected => cases converted
  | _ =>
      cases converted
      rfl

/-- What a broadcast leaves in the record is allowed if the numbering of an event
is, and if handing over what an event turns into is. -/
theorem broadcast_event_only (allowed : Happening → Prop)
    (numbered : ∀ eventId, allowed (.eventNumbered eventId)) (event : DomainEvent)
    (handed : ∀ dto, (∃ eventId serverTick serverTimeMs,
        toNetworkEventDTO eventId serverTick serverTimeMs event = some dto) →
      ∀ clientId accepted, allowed (.handed clientId (.event dto false) accepted))
    (nowMs : TimestampMs) (host : ServerNetworkHost) :
    ∃ sent, EventsOnly sent host (host.broadcastEvent transport nowMs event) ∧
      ∀ happening ∈ sent, allowed happening := by
  have numbering := number_event_only host
  unfold broadcastEvent numberedEvent
  dsimp only
  cases converted : toNetworkEventDTO host.numberEvent.2 host.runtime.simulation.tick
      host.runtime.simulation.timeMs event with
  | none =>
      refine ⟨_, numbering, ?_⟩
      intro happening member
      rw [List.mem_singleton.mp member]
      exact numbered _
  | some networkEvent =>
      obtain ⟨sent, sends, all⟩ := loop_events_only allowed
        (sendToClient transport networkEvent nowMs) host.numberEvent.1.clients (by
          intro clientId _ host
          unfold sendToClient
          split
          · exact ⟨[], EventsOnly.refl host, by simp⟩
          · obtain ⟨accepted, only⟩ :=
              send_event_only transport host clientId networkEvent nowMs false
            refine ⟨_, only, ?_⟩
            intro happening member
            rw [List.mem_singleton.mp member]
            exact handed networkEvent ⟨_, _, _, converted⟩ clientId accepted) host.numberEvent.1
      refine ⟨_, numbering.trans sends, ?_⟩
      intro happening member
      rcases List.mem_cons.mp member with rfl | later
      · exact numbered _
      · exact all happening later

/-- Without interest events to broadcast, none is sent. -/
theorem broadcast_only (host : ServerNetworkHost) (events : EventList)
    (noInterest : ∀ event ∈ events, ¬ isInterestEvent event) (nowMs : TimestampMs) :
    ∃ sent, EventsOnly sent host (host.broadcastReliableEvents transport events nowMs) ∧
      ∀ happening ∈ sent, Uninteresting happening := by
  apply loop_events_only
  intro event member
  apply broadcast_event_only
  · exact fun _ => ⟨fun _ => rfl, fun _ => rfl⟩
  · rintro dto ⟨_, _, _, converted⟩ clientId accepted
    refine ⟨?_, fun _ => rfl⟩
    intro receiver
    unfold generatedFor
    dsimp only
    rw [no_interest_change converted (noInterest event member)]
    exact ite_self none

/-- Whatever is broadcast, it is no snapshot. -/
theorem broadcast_no_snapshot (host : ServerNetworkHost) (events : EventList)
    (nowMs : TimestampMs) :
    ∃ sent, EventsOnly sent host (host.broadcastReliableEvents transport events nowMs) ∧
      NoSnapshot sent := by
  obtain ⟨sent, only, none⟩ := loop_events_only
    (fun happening => ∀ clientId, snapshotFor clientId happening = none)
    (broadcastEvent transport nowMs) events (fun event _ host =>
      broadcast_event_only transport _ (fun _ _ => rfl) event (fun _ _ _ _ _ => rfl) nowMs host)
    host
  exact ⟨sent, only, fun clientId happening member => none happening member clientId⟩

theorem resend_only (hostOrder : HostOrder) (host : ServerNetworkHost) (nowMs : TimestampMs) :
    ∃ sent, EventsOnly sent host
        (host.resendPendingReliableEvents transport hostOrder nowMs) ∧
      ∀ happening ∈ sent, Uninteresting happening := by
  apply loop_events_only
  intro clientId _ host
  unfold resendToClient
  split
  · exact ⟨[], EventsOnly.refl host, by simp⟩
  · apply loop_events_only
    intro event _ host
    obtain ⟨accepted, only⟩ := send_event_only transport host clientId event nowMs true
    refine ⟨_, only, ?_⟩
    intro happening member
    rw [List.mem_singleton.mp member]
    exact ⟨fun _ => rfl, fun _ => rfl⟩

/-- An interest event is numbered and handed to its client. -/
theorem interest_event_only (clientId : ClientId) (nowMs : TimestampMs)
    (host : ServerNetworkHost) (event : DomainEvent) (change : NetworkEntityId × Bool)
    (isChange : interestChangeOf event = some change) :
    ∃ sent, EventsOnly sent host (host.sendInterestEvent transport clientId nowMs event) ∧
      NoSnapshot sent ∧ ∀ other, interestOf other sent =
        if clientId = other then [change] else [] := by
  obtain ⟨dto, converted, told⟩ := interest_converted host.numberEvent.2
    host.runtime.simulation.tick host.runtime.simulation.timeMs isChange
  have numbered : host.numberedEvent event = (host.numberEvent.1, some dto) := by
    unfold numberedEvent
    dsimp only
    rw [converted]
  obtain ⟨accepted, only⟩ :=
    send_event_only transport host.numberEvent.1 clientId dto nowMs false
  unfold sendInterestEvent
  rw [numbered]
  refine ⟨_, (number_event_only host).trans only, ?_, ?_⟩
  · intro other happening member
    rcases List.mem_pair.mp member with rfl | rfl
    · rfl
    · rfl
  · intro other
    have generated : generatedFor other (.handed clientId (.event dto false) accepted) =
        if clientId = other then some change else none := by
      unfold generatedFor
      dsimp only
      rw [told]
    unfold interestOf
    rw [List.singleton_append, List.filterMap_cons_none rfl]
    by_cases same : clientId = other
    · rw [if_pos same] at generated ⊢
      rw [List.filterMap_cons_some generated, List.filterMap_nil]
    · rw [if_neg same] at generated ⊢
      rw [List.filterMap_cons_none generated, List.filterMap_nil]

/-- What a frame tells the client of. -/
def frameChanges (frame : InterestFrame) : List (NetworkEntityId × Bool) :=
  (frame.entered.map fun entityId => (entityId, true)) ++
    frame.exited.map fun entityId => (entityId, false)

theorem interest_events_only (clientId : ClientId) (nowMs : TimestampMs)
    (events : EventList) (changes : List (NetworkEntityId × Bool))
    (told : events.map interestChangeOf = changes.map some) (host : ServerNetworkHost) :
    ∃ sent, EventsOnly sent host
        (events.foldl (sendInterestEvent transport clientId nowMs) host) ∧
      NoSnapshot sent ∧ ∀ other, interestOf other sent =
        if clientId = other then changes else [] := by
  induction events generalizing host changes with
  | nil =>
      have none : changes = [] := by simpa using told
      subst none
      exact ⟨[], EventsOnly.refl host, fun _ _ member => (by cases member),
        fun other => by simp [interestOf]⟩
  | cons event rest ih =>
      cases changes with
      | nil => cases told
      | cons change later =>
          obtain ⟨isChange, restTold⟩ := List.cons.inj told
          obtain ⟨first, onlyFirst, quietFirst, interestFirst⟩ :=
            interest_event_only transport clientId nowMs host event change isChange
          obtain ⟨second, onlySecond, quietSecond, interestSecond⟩ := ih later restTold
            (host.sendInterestEvent transport clientId nowMs event)
          refine ⟨first ++ second, onlyFirst.trans onlySecond,
            no_snapshot_append quietFirst quietSecond, ?_⟩
          intro other
          rw [interest_of_append, interestFirst, interestSecond]
          by_cases same : clientId = other
          · simp [same]
          · simp [same]

theorem send_interest_only (clientId : ClientId) (nowMs : TimestampMs) (frame : InterestFrame)
    (host : ServerNetworkHost) :
    ∃ sent, EventsOnly sent host (host.sendInterestEvents transport clientId frame nowMs) ∧
      NoSnapshot sent ∧ ∀ other, interestOf other sent =
        if clientId = other then frameChanges frame else [] := by
  apply interest_events_only
  simp [interestEvents, frameChanges, interestChangeOf, Function.comp_def]

/-! A snapshot for a client. -/

/-- A snapshot was numbered and handed over. -/
def handedOver (host : ServerNetworkHost) (clientId : ClientId) (planned : SnapshotDTO)
    (baseline : Option SnapshotDTO) (accepted : Bool) : ServerNetworkHost :=
  (host.numberSnapshot.countStats (countDeltaPlan planned baseline)).record
    (.handed clientId (.snapshot planned baseline) accepted)

/-- What that leaves in the record. -/
def handedTrace (host : ServerNetworkHost) (clientId : ClientId) (planned : SnapshotDTO)
    (baseline : Option SnapshotDTO) (accepted : Bool) : Trace :=
  [.snapshotNumbered host.runtime.nextSnapshotId,
   .handed clientId (.snapshot planned baseline) accepted]

@[simp] theorem handed_over_trace (host : ServerNetworkHost) (clientId : ClientId)
    (planned : SnapshotDTO) (baseline : Option SnapshotDTO) (accepted : Bool) :
    (handedOver host clientId planned baseline accepted).trace =
      host.trace ++ handedTrace host clientId planned baseline accepted :=
  List.append_assoc host.trace [_] [_]

/-- The one snapshot in it is for the client. -/
theorem handed_trace_snapshots {host : ServerNetworkHost} {clientId other : ClientId}
    {planned : SnapshotDTO} {baseline : Option SnapshotDTO} {accepted : Bool}
    {happening : Happening} {handed : SnapshotDTO × Bool}
    (member : happening ∈ handedTrace host clientId planned baseline accepted)
    (isHanded : snapshotFor other happening = some handed) :
    other = clientId ∧ handed = (planned, accepted) := by
  rcases List.mem_pair.mp member with rfl | rfl
  · cases isHanded
  · unfold snapshotFor at isHanded
    dsimp only at isHanded
    split at isHanded
    · next same =>
        cases isHanded
        exact ⟨same.symm, rfl⟩
    · cases isHanded

theorem handed_accepted (host : ServerNetworkHost) (clientId other : ClientId)
    (planned : SnapshotDTO) (baseline : Option SnapshotDTO) :
    (handedTrace host clientId planned baseline true).filterMap (acceptedFor other) =
      if clientId = other then [planned] else [] := by
  have taken : acceptedFor other (.handed clientId (.snapshot planned baseline) true) =
      if clientId = other then some planned else none := by
    unfold acceptedFor snapshotFor
    dsimp only
    split
    · rfl
    · rfl
  unfold handedTrace
  rw [List.filterMap_cons_none rfl]
  by_cases same : clientId = other
  · rw [if_pos same] at taken ⊢
    rw [List.filterMap_cons_some taken, List.filterMap_nil]
  · rw [if_neg same] at taken ⊢
    rw [List.filterMap_cons_none taken, List.filterMap_nil]

theorem handed_refused (host : ServerNetworkHost) (clientId other : ClientId)
    (planned : SnapshotDTO) (baseline : Option SnapshotDTO) :
    (handedTrace host clientId planned baseline false).filterMap (acceptedFor other) = [] := by
  apply List.filterMap_eq_nil_iff.mpr
  intro happening member
  rcases List.mem_pair.mp member with rfl | rfl
  · rfl
  · unfold acceptedFor snapshotFor
    dsimp only
    split
    · rfl
    · rfl

/-- What the host does with the interest of a client that was sent a snapshot. -/
inductive Follows (hostOrder : HostOrder) (clientId : ClientId) (planned : SnapshotDTO)
    (before : ServerNetworkHost) : ServerNetworkHost → Prop
  | unknown (absent : before.clientStateById[clientId]? = none) :
      Follows hostOrder clientId planned before before
  | followed (state : ServerClientReplicationState) (tracker : InterestTracker)
      (frame : InterestFrame) (sent : Trace) (after : ServerNetworkHost)
      (has : before.clientStateById[clientId]? = some state)
      (updated : state.interest.update hostOrder (.exitedEntities clientId) planned =
        (tracker, frame))
      (only : EventsOnly sent ((before.updateClient clientId fun state =>
        { state with interest := tracker }).countStats (countInterest frame)) after)
      (quiet : NoSnapshot sent)
      (told : ∀ other, interestOf other sent =
        if clientId = other then frameChanges frame else []) :
      Follows hostOrder clientId planned before after

theorem follow_interest_follows (hostOrder : HostOrder) (nowMs : TimestampMs)
    (host : ServerNetworkHost) (clientId : ClientId) (planned : SnapshotDTO) :
    Follows hostOrder clientId planned host
      (host.followInterest transport hostOrder nowMs clientId planned) := by
  unfold followInterest
  cases has : host.clientStateById[clientId]? with
  | none => exact .unknown has
  | some state =>
      dsimp only
      cases updated : state.interest.update hostOrder (.exitedEntities clientId) planned with
      | mk tracker frame =>
          obtain ⟨sent, only, quiet, told⟩ := send_interest_only transport clientId nowMs frame
            ((host.updateClient clientId fun state => { state with interest := tracker }).countStats
              (countInterest frame))
          exact .followed state tracker frame sent _ has updated only quiet told

/-- What the transport says to a planned snapshot. -/
def answerTo (host : ServerNetworkHost) (clientId : ClientId) (planned : SnapshotDTO)
    (baseline : Option SnapshotDTO) : Bool :=
  transport (host.numberSnapshot.countStats (countDeltaPlan planned baseline)).trace
    (envelopeFor clientId (.snapshot planned baseline))

/-- What a turn of the loop over the clients can do. -/
inductive SnapshotTurn (order : LoopOrder) (hostOrder : HostOrder) (nowMs : TimestampMs)
    (host : ServerNetworkHost) (clientId : ClientId) : ServerNetworkHost → Prop
  | skipped (notDue : host.shouldSendSnapshot clientId nowMs = false) :
      SnapshotTurn order hostOrder nowMs host clientId (host.countStats fun stats =>
        { stats with snapshotsSkippedBySchedule := stats.snapshotsSkippedBySchedule + 1 })
  | refused (due : host.shouldSendSnapshot clientId nowMs = true)
      (answer : answerTo transport host clientId (host.plannedSnapshot order clientId).snapshot
        (host.deltaBaseline clientId (host.plannedSnapshot order clientId).snapshot) = false) :
      SnapshotTurn order hostOrder nowMs host clientId (handedOver host clientId
        (host.plannedSnapshot order clientId).snapshot
        (host.deltaBaseline clientId (host.plannedSnapshot order clientId).snapshot) false)
  | sent (due : host.shouldSendSnapshot clientId nowMs = true)
      (answer : answerTo transport host clientId (host.plannedSnapshot order clientId).snapshot
        (host.deltaBaseline clientId (host.plannedSnapshot order clientId).snapshot) = true)
      (missed : Bool) (followed : ServerNetworkHost)
      (follows : Follows hostOrder clientId (host.plannedSnapshot order clientId).snapshot
        (handedOver host clientId (host.plannedSnapshot order clientId).snapshot
          (host.deltaBaseline clientId (host.plannedSnapshot order clientId).snapshot) true)
        followed) :
      SnapshotTurn order hostOrder nowMs host clientId
        (((followed.storeBaseline clientId (host.plannedSnapshot order clientId).snapshot).countStats
          (countSnapshot (host.plannedSnapshot order clientId) missed)).markSnapshotSent clientId
            nowMs)

theorem snapshot_turn (order : LoopOrder) (hostOrder : HostOrder) (nowMs : TimestampMs)
    (host : ServerNetworkHost) (clientId : ClientId) :
    SnapshotTurn transport order hostOrder nowMs host clientId
      (host.snapshotTurn transport order hostOrder nowMs clientId) := by
  unfold snapshotTurn sendSnapshot send
  dsimp only
  cases due : host.shouldSendSnapshot clientId nowMs with
  | false => exact .skipped due
  | true =>
      cases answer : answerTo transport host clientId
          (host.plannedSnapshot order clientId).snapshot
          (host.deltaBaseline clientId (host.plannedSnapshot order clientId).snapshot) with
      | false =>
          have refused := answer
          unfold answerTo at refused
          rw [refused]
          exact .refused due answer
      | true =>
          have accepted := answer
          unfold answerTo at accepted
          rw [accepted]
          exact .sent due answer _ _
            (follow_interest_follows transport hostOrder nowMs _ clientId _)

/-- A turn hands over no snapshot but the planned one of its client, and leaves
the configuration and the simulation alone. -/
theorem turn_hands (order : LoopOrder) (hostOrder : HostOrder) (nowMs : TimestampMs)
    (host : ServerNetworkHost) (clientId : ClientId) :
    ∃ added,
      (host.snapshotTurn transport order hostOrder nowMs clientId).trace = host.trace ++ added ∧
      (host.snapshotTurn transport order hostOrder nowMs clientId).config = host.config ∧
      (host.snapshotTurn transport order hostOrder nowMs clientId).runtime.simulation =
        host.runtime.simulation ∧
      ∀ other, ∀ happening ∈ added, ∀ handed, snapshotFor other happening = some handed →
        other = clientId ∧ handed.1 = (host.plannedSnapshot order clientId).snapshot := by
  have turned := snapshot_turn transport order hostOrder nowMs host clientId
  generalize host.snapshotTurn transport order hostOrder nowMs clientId = after at turned ⊢
  have ofPlanned {baseline : Option SnapshotDTO} {accepted : Bool} {other : ClientId}
      {happening : Happening} {handed : SnapshotDTO × Bool}
      (member : happening ∈ handedTrace host clientId
        (host.plannedSnapshot order clientId).snapshot baseline accepted)
      (isHanded : snapshotFor other happening = some handed) :
      other = clientId ∧ handed.1 = (host.plannedSnapshot order clientId).snapshot := by
    obtain ⟨same, rfl⟩ := handed_trace_snapshots member isHanded
    exact ⟨same, rfl⟩
  cases turned with
  | skipped notDue => exact ⟨[], (List.append_nil _).symm, rfl, rfl, by simp⟩
  | refused due =>
      exact ⟨_, handed_over_trace _ _ _ _ _, rfl, rfl, fun _ _ member _ => ofPlanned member⟩
  | sent due answer missed followed follows =>
      cases follows with
      | unknown absent =>
          exact ⟨_, handed_over_trace _ _ _ _ _, rfl, rfl, fun _ _ member _ => ofPlanned member⟩
      | followed state tracker frame sent followed has updated only quiet told =>
          have recorded := only.trace.trans
            (congrArg (· ++ sent) (handed_over_trace host clientId _ _ true))
          have simulated := congrArg ServerRuntime.simulation only.runtime
          refine ⟨_, recorded.trans (List.append_assoc _ _ _), only.config, simulated, ?_⟩
          intro other happening member handed isHanded
          rcases List.mem_append.mp member with first | later
          · exact ofPlanned first isHanded
          · rw [quiet other happening later] at isHanded
            cases isHanded

/-- What holds of every snapshot that may be planned as long as the configuration
and the simulation stay as they are holds of every snapshot that the loop hands
over. -/
theorem turns_hand (order : LoopOrder) (hostOrder : HostOrder) (nowMs : TimestampMs)
    (holds : ClientId → SnapshotDTO → Prop) (clients : List ClientId) (host : ServerNetworkHost)
    (planned : ∀ clientId, ∀ same : ServerNetworkHost, same.config = host.config →
      same.runtime.simulation = host.runtime.simulation →
        holds clientId (same.plannedSnapshot order clientId).snapshot) :
    ∃ added,
      (clients.foldl (snapshotTurn transport order hostOrder nowMs) host).trace =
        host.trace ++ added ∧
      (clients.foldl (snapshotTurn transport order hostOrder nowMs) host).runtime.simulation =
        host.runtime.simulation ∧
      ∀ other, ∀ happening ∈ added, ∀ handed, snapshotFor other happening = some handed →
        holds other handed.1 := by
  induction clients generalizing host with
  | nil => exact ⟨[], (List.append_nil _).symm, rfl, by simp⟩
  | cons clientId rest ih =>
      obtain ⟨first, recorded, configured, simulated, ofPlanned⟩ :=
        turn_hands transport order hostOrder nowMs host clientId
      obtain ⟨later, laterRecorded, laterSimulated, ofLater⟩ :=
        ih (host.snapshotTurn transport order hostOrder nowMs clientId)
          (fun other same config isSame =>
            planned other same (config.trans configured) (isSame.trans simulated))
      refine ⟨first ++ later, ?_, laterSimulated.trans simulated, ?_⟩
      · rw [List.foldl_cons, laterRecorded, recorded, List.append_assoc]
      · intro other happening member handed isHanded
        rcases List.mem_append.mp member with inFirst | inLater
        · obtain ⟨rfl, isPlanned⟩ := ofPlanned other happening inFirst handed isHanded
          rw [isPlanned]
          exact planned other host rfl rfl
        · exact ofLater other happening inLater handed isHanded

/-- The simulation that the snapshots of a tick are built from. -/
def tickedSimulation (order : LoopOrder) (host : ServerNetworkHost) : GameSimulation :=
  ((host.runtime.tick order).drainEvents).1.simulation

/-- A tick of the host hands over snapshots of the ticked simulation. -/
theorem tick_hands (order : LoopOrder) (hostOrder : HostOrder) (nowMs : TimestampMs)
    (holds : ClientId → SnapshotDTO → Prop) (host : ServerNetworkHost)
    (planned : ∀ clientId, ∀ ticked : ServerNetworkHost, ticked.config = host.config →
      ticked.runtime.simulation = tickedSimulation order host →
        holds clientId (ticked.plannedSnapshot order clientId).snapshot) :
    ∃ added,
      (host.tickAndSendSnapshots transport order hostOrder nowMs).trace = host.trace ++ added ∧
      (host.tickAndSendSnapshots transport order hostOrder nowMs).runtime.simulation =
        tickedSimulation order host ∧
      ∀ other, ∀ happening ∈ added, ∀ handed, snapshotFor other happening = some handed →
        holds other handed.1 := by
  obtain ⟨first, recorded, simulated, handed⟩ := turns_hand transport order hostOrder nowMs holds
    host.clients { host with runtime := (host.runtime.tick order).drainEvents.1 } planned
  obtain ⟨second, broadcast, quiet⟩ := broadcast_no_snapshot transport
    (host.clients.foldl (snapshotTurn transport order hostOrder nowMs)
      { host with runtime := (host.runtime.tick order).drainEvents.1 })
    (host.runtime.tick order).drainEvents.2 nowMs
  obtain ⟨third, resent, uninteresting⟩ := resend_only transport hostOrder _ nowMs
  have events := broadcast.trans resent
  have record := events.trace.trans ((congrArg (· ++ (second ++ third)) recorded).trans
    (List.append_assoc _ _ _))
  have simulation := (congrArg ServerRuntime.simulation events.runtime).trans simulated
  refine ⟨_, record, simulation, ?_⟩
  intro other happening member sent isHanded
  rcases List.mem_append.mp member with inFirst | inEvents
  · exact handed other happening inFirst sent isHanded
  · rcases List.mem_append.mp inEvents with inSecond | inThird
    · rw [quiet other happening inSecond] at isHanded
      cases isHanded
    · rw [(uninteresting happening inThird).2 other] at isHanded
      cases isHanded

theorem tick_simulation (order : LoopOrder) (hostOrder : HostOrder) (host : ServerNetworkHost)
    (nowMs : TimestampMs) :
    (host.tickAndSendSnapshots transport order hostOrder nowMs).runtime.simulation =
      tickedSimulation order host := by
  obtain ⟨_, _, simulated, _⟩ := tick_hands transport order hostOrder nowMs (fun _ _ => True) host
    (fun _ _ _ _ => trivial)
  exact simulated

end Sending

/-! Messages. -/

/-- Only a login of the client is polled. -/
def joinCall (clientId : ClientId) : HostCall :=
  .pumpClientMessages
    [{ peerId := clientId, channel := .loginSpawn, messageClass := .loginRequest,
       payload := Serialization.serializeLoginCommand { header := { clientId := clientId } } }]

/-- A login connects the client to the runtime, whatever comes of it. -/
theorem login_simulation (host : ServerNetworkHost) (envelope : NetworkProtocol.NetworkEnvelope) :
    (host.handleLoginEnvelope envelope).runtime.simulation = host.runtime.simulation ∨
    ∃ clientId nowMs, (host.handleLoginEnvelope envelope).runtime.simulation =
      (host.runtime.connectClient clientId nowMs).1.simulation := by
  unfold handleLoginEnvelope
  split
  · exact Or.inl rfl
  · next login _ =>
      refine Or.inr ⟨login.header.clientId, login.header.clientTimestampMs, ?_⟩
      dsimp only
      split
      · rfl
      · split
        · rfl
        · rfl

theorem input_simulation (host : ServerNetworkHost) (envelope : NetworkProtocol.NetworkEnvelope) :
    (host.handleInputEnvelope envelope).runtime.simulation =
      ((Serialization.deserializeClientInputPacket envelope.payload).map fun packet =>
        (submitInput host.runtime.simulation packet).1).getD host.runtime.simulation := by
  unfold handleInputEnvelope
  cases Serialization.deserializeClientInputPacket envelope.payload with
  | none => rfl
  | some packet =>
      dsimp only
      split
      · rfl
      · rfl

theorem snapshot_ack_runtime (host : ServerNetworkHost)
    (envelope : NetworkProtocol.NetworkEnvelope) :
    (host.handleSnapshotAckEnvelope envelope).runtime = host.runtime := by
  unfold handleSnapshotAckEnvelope
  split
  · rfl
  · split
    · rfl
    · split
      · rfl
      · split
        · rfl
        · rfl

theorem event_ack_runtime (host : ServerNetworkHost)
    (envelope : NetworkProtocol.NetworkEnvelope) :
    (host.handleNetworkEventAckEnvelope envelope).runtime = host.runtime := by
  unfold handleNetworkEventAckEnvelope
  split
  · rfl
  · split
    · rfl
    · split
      · rfl
      · rfl

theorem time_sync_runtime (transport : Transport) (host : ServerNetworkHost)
    (envelope : NetworkProtocol.NetworkEnvelope) :
    (host.handleTimeSyncEnvelope transport envelope).runtime = host.runtime := by
  unfold handleTimeSyncEnvelope send
  split
  · rfl
  · dsimp only
    split
    · rfl
    · rfl

/-- What a message leaves that neither enrolls a client nor acknowledges. -/
structure Settled (before after : ServerNetworkHost) : Prop where
  config : after.config = before.config
  clients : after.clients = before.clients
  states : after.clientStateById = before.clientStateById
  baselines : after.baselineCache = before.baselineCache
  nextNetworkEventId : after.nextNetworkEventId = before.nextNetworkEventId
  nextSnapshotId : after.runtime.nextSnapshotId = before.runtime.nextSnapshotId
  entered : after.stats.interestEnterEvents = before.stats.interestEnterEvents
  stayed : after.stats.interestStayEvents = before.stats.interestStayEvents
  exited : after.stats.interestExitEvents = before.stats.interestExitEvents
  sent : after.stats.snapshotEntitiesSent = before.stats.snapshotEntitiesSent

/-- What a message can do. -/
inductive EnvelopeTurn (before : ServerNetworkHost) : ServerNetworkHost → Prop
  | kept {after : ServerNetworkHost} (same : Settled before after)
      (trace : after.trace = before.trace) : EnvelopeTurn before after
  | enrolled {connected : ServerNetworkHost} (clientId : ClientId)
      (same : Settled before connected) (trace : connected.trace = before.trace)
      (new : clientId ∉ before.clients) : EnvelopeTurn before (connected.registerClient clientId)
  | snapshotAcked (clientId : ClientId) (snapshotId : SnapshotId)
      (state : ServerClientReplicationState) (has : before.clientStateById[clientId]? = some state)
      (newer : (state.acknowledgeSnapshot snapshotId).2 = true) :
      EnvelopeTurn before (((before.updateClient clientId fun state =>
          (state.acknowledgeSnapshot snapshotId).1).record
        (.snapshotAcked clientId snapshotId)).countStats fun stats =>
          { stats with snapshotAcksReceived := stats.snapshotAcksReceived + 1 })
  | eventAcked (clientId : ClientId) (eventId : NetworkEventId)
      (state : ServerClientReplicationState) (has : before.clientStateById[clientId]? = some state)
      (pending : (state.acknowledgeReliableEvent eventId).2 = true) :
      EnvelopeTurn before (((before.updateClient clientId fun state =>
          (state.acknowledgeReliableEvent eventId).1).record
        (.eventAcked clientId eventId)).countStats fun stats =>
          { stats with reliableEventAcksReceived := stats.reliableEventAcksReceived + 1 })
  | answered {after : ServerNetworkHost} (clientId : ClientId) (response : TimeSyncResponse)
      (accepted : Bool) (same : Settled before after)
      (trace : after.trace = before.trace ++ [.handed clientId (.timeSync response) accepted]) :
      EnvelopeTurn before after

theorem Settled.refl (host : ServerNetworkHost) : Settled host host :=
  ⟨rfl, rfl, rfl, rfl, rfl, rfl, rfl, rfl, rfl, rfl⟩

theorem login_turn (host : ServerNetworkHost) (envelope : NetworkProtocol.NetworkEnvelope) :
    EnvelopeTurn host (host.handleLoginEnvelope envelope) := by
  unfold handleLoginEnvelope
  split
  · exact .kept (Settled.refl host) rfl
  · dsimp only
    split
    · exact .kept ⟨rfl, rfl, rfl, rfl, rfl, rfl, rfl, rfl, rfl, rfl⟩ rfl
    · split
      · exact .kept ⟨rfl, rfl, rfl, rfl, rfl, rfl, rfl, rfl, rfl, rfl⟩ rfl
      · next new => exact .enrolled _ ⟨rfl, rfl, rfl, rfl, rfl, rfl, rfl, rfl, rfl, rfl⟩ rfl new

theorem input_turn (host : ServerNetworkHost) (envelope : NetworkProtocol.NetworkEnvelope) :
    EnvelopeTurn host (host.handleInputEnvelope envelope) := by
  unfold handleInputEnvelope
  split
  · exact .kept (Settled.refl host) rfl
  · dsimp only
    split
    · exact .kept ⟨rfl, rfl, rfl, rfl, rfl, rfl, rfl, rfl, rfl, rfl⟩ rfl
    · exact .kept ⟨rfl, rfl, rfl, rfl, rfl, rfl, rfl, rfl, rfl, rfl⟩ rfl

theorem snapshot_ack_turn (host : ServerNetworkHost)
    (envelope : NetworkProtocol.NetworkEnvelope) :
    EnvelopeTurn host (host.handleSnapshotAckEnvelope envelope) := by
  have rejected : EnvelopeTurn host host.rejectSnapshotAck :=
    .kept ⟨rfl, rfl, rfl, rfl, rfl, rfl, rfl, rfl, rfl, rfl⟩ rfl
  unfold handleSnapshotAckEnvelope
  split
  · exact .kept (Settled.refl host) rfl
  · next ack _ =>
      split
      · exact rejected
      · next state has =>
          split
          · exact rejected
          · split
            · exact rejected
            · next newer =>
                exact .snapshotAcked ack.clientId ack.snapshotId state has (by simpa using newer)

theorem event_ack_turn (host : ServerNetworkHost) (envelope : NetworkProtocol.NetworkEnvelope) :
    EnvelopeTurn host (host.handleNetworkEventAckEnvelope envelope) := by
  have rejected : EnvelopeTurn host host.rejectEventAck :=
    .kept ⟨rfl, rfl, rfl, rfl, rfl, rfl, rfl, rfl, rfl, rfl⟩ rfl
  unfold handleNetworkEventAckEnvelope
  split
  · exact .kept (Settled.refl host) rfl
  · next ack _ =>
      split
      · exact rejected
      · next state has =>
          split
          · exact rejected
          · next pending =>
              exact .eventAcked ack.clientId ack.eventId state has (by simpa using pending)

theorem time_sync_turn (transport : Transport) (host : ServerNetworkHost)
    (envelope : NetworkProtocol.NetworkEnvelope) :
    EnvelopeTurn host (host.handleTimeSyncEnvelope transport envelope) := by
  unfold handleTimeSyncEnvelope send
  split
  · exact .kept (Settled.refl host) rfl
  · dsimp only
    split
    · exact .answered _ _ _ ⟨rfl, rfl, rfl, rfl, rfl, rfl, rfl, rfl, rfl, rfl⟩ rfl
    · exact .answered _ _ _ ⟨rfl, rfl, rfl, rfl, rfl, rfl, rfl, rfl, rfl, rfl⟩ rfl

theorem envelope_turn (transport : Transport) (host : ServerNetworkHost)
    (envelope : NetworkProtocol.NetworkEnvelope) :
    EnvelopeTurn host (host.handleEnvelope transport envelope) := by
  unfold handleEnvelope
  split
  · exact .kept (Settled.refl host) rfl
  · split
    · exact login_turn host envelope
    · exact input_turn host envelope
    · exact snapshot_ack_turn host envelope
    · exact event_ack_turn host envelope
    · exact time_sync_turn transport host envelope
    · exact .kept (Settled.refl host) rfl

/-- No message makes the host hand over a snapshot. -/
theorem envelope_no_snapshot (transport : Transport) (host : ServerNetworkHost)
    (envelope : NetworkProtocol.NetworkEnvelope) :
    ∃ added, (host.handleEnvelope transport envelope).trace = host.trace ++ added ∧
      NoSnapshot added := by
  have turned := envelope_turn transport host envelope
  generalize host.handleEnvelope transport envelope = after at turned ⊢
  have nothing : NoSnapshot [] := fun _ _ member => by cases member
  have one (happening : Happening) (quiet : ∀ clientId, snapshotFor clientId happening = none) :
      NoSnapshot [happening] := by
    intro clientId other member
    rw [List.mem_singleton.mp member]
    exact quiet clientId
  cases turned with
  | kept same trace => exact ⟨[], trace.trans (List.append_nil _).symm, nothing⟩
  | enrolled clientId same trace new => exact ⟨[], trace.trans (List.append_nil _).symm, nothing⟩
  | snapshotAcked clientId snapshotId state has newer =>
      exact ⟨[.snapshotAcked clientId snapshotId], rfl, one _ fun _ => rfl⟩
  | eventAcked clientId eventId state has pending =>
      exact ⟨[.eventAcked clientId eventId], rfl, one _ fun _ => rfl⟩
  | answered clientId response accepted same trace => exact ⟨_, trace, one _ fun _ => rfl⟩

theorem pump_no_snapshot (transport : Transport) (polled : List NetworkProtocol.NetworkEnvelope)
    (host : ServerNetworkHost) :
    ∃ added, (host.pumpClientMessages transport polled).trace = host.trace ++ added ∧
      NoSnapshot added := by
  induction polled generalizing host with
  | nil => exact ⟨[], (List.append_nil _).symm, fun _ _ member => (by cases member)⟩
  | cons envelope rest ih =>
      obtain ⟨first, recorded, quiet⟩ := envelope_no_snapshot transport host envelope
      obtain ⟨later, laterRecorded, laterQuiet⟩ := ih (host.handleEnvelope transport envelope)
      refine ⟨first ++ later, ?_, no_snapshot_append quiet laterQuiet⟩
      rw [← List.append_assoc, ← recorded]
      exact laterRecorded

end Brawololo.HostTurns
