import Brawololo.HostSimulation

/-!
The answer to a login. A login that creates a player queues one event for it,
and the next tick of the host sends that event to every client it knows by then.
A login of a client that already has a player is accepted too, but queues
nothing: it is answered only by an event that is still queued or still waits for
its acknowledgement.
-/

namespace Brawololo.LoginAnswers

open GameTypes EntityStore NetworkEvents NetworkProtocol Serialization Simulation SimulationStages
open Replication Server ServerNetworkHost ServerClientReplicationState HostTurns HostSimulation

/-- The client whose player an event says has spawned. -/
def spawnedClient (event : NetworkEventDTO) : Option ClientId :=
  match event.payload with
  | .playerSpawned spawned => some spawned.clientId
  | _ => none

/-- The transport took a `SpawnAccepted` envelope that tells the client of its
own player. -/
def Answers (clientId : ClientId) : Happening → Prop
  | .handed receiver (.event event isResend) accepted =>
      receiver = clientId ∧ accepted = true ∧
        (envelopeFor receiver (.event event isResend)).messageClass = .spawnAccepted ∧
        spawnedClient event = some clientId
  | _ => False

/-- Such an envelope was sent between two states. -/
def Answered (clientId : ClientId) (before after : ServerNetworkHost) : Prop :=
  ∃ added, after.trace = before.trace ++ added ∧ ∃ happening ∈ added, Answers clientId happening

/-- The event waits in the simulation. -/
def SpawnQueued (sim : GameSimulation) (clientId : ClientId) : Prop :=
  ∃ spawned, .playerSpawned spawned ∈ sim.events ∧ spawned.clientId = clientId

/-- The event waits to be acknowledged by the client. -/
def SpawnPending (host : ServerNetworkHost) (clientId : ClientId) : Prop :=
  ∃ (state : ServerClientReplicationState) (eventId : NetworkEventId)
    (pending : PendingReliableEvent), host.clientStateById[clientId]? = some state ∧
    state.pendingReliableEvents[eventId]? = some pending ∧
    spawnedClient pending.event = some clientId

/-- A transport that takes everything. -/
def accepting : Transport := fun _ _ => true

/-! Sending adds to the record and keeps the clients. -/

structure Grows (before after : ServerNetworkHost) : Prop where
  clients : after.clients = before.clients
  trace : ∃ added, after.trace = before.trace ++ added

namespace Grows

theorem refl (host : ServerNetworkHost) : Grows host host :=
  ⟨rfl, [], (List.append_nil _).symm⟩

theorem trans {first second third : ServerNetworkHost} (left : Grows first second)
    (right : Grows second third) : Grows first third := by
  obtain ⟨one, toSecond⟩ := left.trace
  obtain ⟨two, toThird⟩ := right.trace
  exact ⟨right.clients.trans left.clients, one ++ two, by
    rw [toThird, toSecond, List.append_assoc]⟩

theorem answered {first second third : ServerNetworkHost} {clientId : ClientId}
    (left : Grows first second) (right : Answered clientId second third) :
    Answered clientId first third := by
  obtain ⟨one, toSecond⟩ := left.trace
  obtain ⟨two, toThird, happening, member, answers⟩ := right
  exact ⟨one ++ two, by rw [toThird, toSecond, List.append_assoc], happening,
    List.mem_append_right one member, answers⟩

end Grows

theorem Answered.grows {first second third : ServerNetworkHost} {clientId : ClientId}
    (left : Answered clientId first second) (right : Grows second third) :
    Answered clientId first third := by
  obtain ⟨one, toSecond, happening, member, answers⟩ := left
  obtain ⟨two, toThird⟩ := right.trace
  exact ⟨one ++ two, by rw [toThird, toSecond, List.append_assoc], happening,
    List.mem_append_left two member, answers⟩

section Growing

variable (transport : Transport)

theorem turn_grows (order : LoopOrder) (hostOrder : HostOrder) (nowMs : TimestampMs)
    (host : ServerNetworkHost) (clientId : ClientId) :
    Grows host (host.snapshotTurn transport order hostOrder nowMs clientId) := by
  have turned := snapshot_turn transport order hostOrder nowMs host clientId
  generalize host.snapshotTurn transport order hostOrder nowMs clientId = after at turned ⊢
  cases turned with
  | skipped => exact ⟨rfl, [], (List.append_nil _).symm⟩
  | refused => exact ⟨rfl, _, handed_over_trace _ _ _ _ _⟩
  | sent due answer missed followed follows =>
      cases follows with
      | unknown => exact ⟨rfl, _, handed_over_trace _ _ _ _ _⟩
      | followed state tracker frame sent followed has updated only =>
          have recorded := only.trace.trans
            (congrArg (· ++ sent) (handed_over_trace host clientId _ _ true))
          exact ⟨only.clients, _, recorded.trans (List.append_assoc _ _ _)⟩

theorem send_grows (host : ServerNetworkHost) (clientId : ClientId) (event : NetworkEventDTO)
    (nowMs : TimestampMs) (isResend : Bool) :
    Grows host (host.sendReliableEvent transport clientId event nowMs isResend) := by
  obtain ⟨accepted, only⟩ := send_event_only transport host clientId event nowMs isResend
  exact ⟨only.clients, _, only.trace⟩

theorem send_to_client_grows (event : NetworkEventDTO) (nowMs : TimestampMs)
    (host : ServerNetworkHost) (clientId : ClientId) :
    Grows host (sendToClient transport event nowMs host clientId) := by
  unfold sendToClient
  split
  · exact Grows.refl host
  · exact send_grows transport host clientId event nowMs false

theorem broadcast_event_grows (nowMs : TimestampMs) (host : ServerNetworkHost)
    (event : DomainEvent) : Grows host (host.broadcastEvent transport nowMs event) := by
  obtain ⟨sent, only, _⟩ := broadcast_event_only transport (fun _ => True) (fun _ => trivial) event
    (fun _ _ _ _ => trivial) nowMs host
  exact ⟨only.clients, sent, only.trace⟩

end Growing

/-! A queued spawn reaches the client in the next tick. -/

theorem accepted_send_answers (host : ServerNetworkHost) (clientId : ClientId)
    (event : NetworkEventDTO) (nowMs : TimestampMs)
    (spawns : spawnedClient event = some clientId) :
    Answered clientId host (host.sendReliableEvent accepting clientId event nowMs false) := by
  refine ⟨[.handed clientId (.event event false) true], rfl, _, List.mem_singleton_self _, ?_⟩
  refine ⟨rfl, rfl, ?_, spawns⟩
  unfold spawnedClient at spawns
  dsimp only [envelopeFor, kindForNetworkEvent]
  split at spawns
  · next spawned isSpawned =>
      rw [isSpawned]
      rfl
  · cases spawns

/-- A loop answers if one of its turns does, whatever the turns before it sent. -/
theorem loop_answers {Item : Type} (turn : ServerNetworkHost → Item → ServerNetworkHost)
    (grows : ∀ host item, Grows host (turn host item)) {clientId : ClientId} (items : List Item)
    {item : Item} (member : item ∈ items) (start : ServerNetworkHost)
    (answers : ∀ between, between.clients = start.clients →
      Answered clientId between (turn between item)) :
    Answered clientId start (items.foldl turn start) := by
  induction items generalizing start with
  | nil => cases member
  | cons head rest ih =>
      have rests (middle : ServerNetworkHost) : Grows middle (rest.foldl turn middle) :=
        Runs.run_relates turn Grows Grows.refl Grows.trans grows middle rest
      rcases List.mem_cons.mp member with rfl | inRest
      · exact (answers start rfl).grows (rests _)
      · refine (grows start head).answered (ih inRest (turn start head) ?_)
        exact fun between same => answers between (same.trans (grows start head).clients)

theorem broadcast_spawn_answers (nowMs : TimestampMs) (host : ServerNetworkHost)
    (spawned : PlayerSpawned) (known : spawned.clientId ∈ host.clients) :
    Answered spawned.clientId host
      (host.broadcastEvent accepting nowMs (.playerSpawned spawned)) := by
  have numbered : Grows host host.numberEvent.1 := ⟨rfl, _, rfl⟩
  refine numbered.answered ?_
  refine loop_answers _ (send_to_client_grows accepting _ nowMs) _ known _ fun between _ => ?_
  exact accepted_send_answers between spawned.clientId _ nowMs rfl

theorem broadcast_answers (nowMs : TimestampMs) (events : EventList) (host : ServerNetworkHost)
    (spawned : PlayerSpawned) (queued : .playerSpawned spawned ∈ events)
    (known : spawned.clientId ∈ host.clients) :
    Answered spawned.clientId host (host.broadcastReliableEvents accepting events nowMs) := by
  refine loop_answers _ (broadcast_event_grows accepting nowMs) events queued host ?_
  intro between same
  exact broadcast_spawn_answers nowMs between spawned (by rw [same]; exact known)

theorem tick_answers (order : LoopOrder) (hostOrder : HostOrder) (host : ServerNetworkHost)
    (nowMs : TimestampMs) (clientId : ClientId) (known : clientId ∈ host.clients)
    (queued : SpawnQueued host.runtime.simulation clientId) :
    Answered clientId host (host.tickAndSendSnapshots accepting order hostOrder nowMs) := by
  obtain ⟨spawned, member, rfl⟩ := queued
  obtain ⟨added, grown, _⟩ := tick_queues order host.runtime.simulation
  have drained : .playerSpawned spawned ∈ (host.runtime.tick order).drainEvents.2 := by
    have told : (host.runtime.tick order).drainEvents.2 =
      host.runtime.simulation.events ++ added := grown
    rw [told]
    exact List.mem_append_left added member
  have turns := Runs.run_relates (snapshotTurn accepting order hostOrder nowMs) Grows Grows.refl
    Grows.trans (turn_grows accepting order hostOrder nowMs)
    { host with runtime := (host.runtime.tick order).drainEvents.1 } host.clients
  have started : Grows host { host with runtime := (host.runtime.tick order).drainEvents.1 } :=
    ⟨rfl, [], (List.append_nil _).symm⟩
  have clients : (host.clients.foldl (snapshotTurn accepting order hostOrder nowMs)
      { host with runtime := (host.runtime.tick order).drainEvents.1 }).clients = host.clients :=
    turns.clients
  rw [← clients] at known
  have broadcast := broadcast_answers nowMs (host.runtime.tick order).drainEvents.2 _ spawned
    drained known
  obtain ⟨_, resent, _⟩ := resend_only accepting hostOrder
    ((host.clients.foldl (snapshotTurn accepting order hostOrder nowMs)
      { host with runtime := (host.runtime.tick order).drainEvents.1 }).broadcastReliableEvents
        accepting (host.runtime.tick order).drainEvents.2 nowMs) nowMs
  have sent := ((started.trans turns).answered broadcast).grows ⟨resent.clients, _, resent.trace⟩
  exact sent.grows ⟨rfl, [], (List.append_nil _).symm⟩

/-! Without a queued or a pending spawn nothing in a tick answers. -/

/-- If no spawn of the client was pending, none is afterwards and none was sent. -/
def Unanswered (clientId : ClientId) (before after : ServerNetworkHost) : Prop :=
  ¬ SpawnPending before clientId → ¬ SpawnPending after clientId ∧
    ∃ added, after.trace = before.trace ++ added ∧
      ∀ happening ∈ added, ¬ Answers clientId happening

namespace Unanswered

variable {clientId : ClientId}

theorem refl (host : ServerNetworkHost) : Unanswered clientId host host :=
  fun none => ⟨none, [], (List.append_nil _).symm, by simp⟩

theorem trans {first second third : ServerNetworkHost} (left : Unanswered clientId first second)
    (right : Unanswered clientId second third) : Unanswered clientId first third := by
  intro none
  obtain ⟨noneLeft, one, toSecond, quietOne⟩ := left none
  obtain ⟨noneRight, two, toThird, quietTwo⟩ := right noneLeft
  refine ⟨noneRight, one ++ two, by rw [toThird, toSecond, List.append_assoc], ?_⟩
  intro happening member
  rcases List.mem_append.mp member with inOne | inTwo
  · exact quietOne happening inOne
  · exact quietTwo happening inTwo

/-- A change that leaves the clients' states alone and sends nothing. -/
theorem of_quiet {before after : ServerNetworkHost} (added : Trace)
    (states : after.clientStateById = before.clientStateById)
    (trace : after.trace = before.trace ++ added)
    (quiet : ∀ happening ∈ added, ¬ Answers clientId happening) :
    Unanswered clientId before after := by
  intro none
  refine ⟨?_, added, trace, quiet⟩
  unfold SpawnPending
  rw [states]
  exact none

end Unanswered

/-- A change of one client's state that adds no pending spawn of the client. -/
theorem spawn_pending_update {host : ServerNetworkHost} {clientId other : ClientId}
    {change : ServerClientReplicationState → ServerClientReplicationState}
    (adds : other = clientId → ∀ state (eventId : NetworkEventId) (pending : PendingReliableEvent),
      (change state).pendingReliableEvents[eventId]? = some pending →
      state.pendingReliableEvents[eventId]? = some pending ∨
        spawnedClient pending.event ≠ some clientId ∨
        ∃ earlier : PendingReliableEvent, state.pendingReliableEvents[eventId]? = some earlier ∧
          earlier.event = pending.event)
    (waits : SpawnPending (host.updateClient other change) clientId) :
    SpawnPending host clientId := by
  obtain ⟨state, eventId, pending, isState, isPending, spawns⟩ := waits
  unfold updateClient at isState
  dsimp only at isState
  rw [get_modify] at isState
  by_cases same : other = clientId
  · rw [if_pos same] at isState
    obtain ⟨old, isOld, rfl⟩ := Option.map_eq_some_iff.mp isState
    rcases adds same old eventId pending isPending with kept | fresh | ⟨earlier, isEarlier, kept⟩
    · exact ⟨old, eventId, pending, isOld, kept, spawns⟩
    · exact absurd spawns fresh
    · exact ⟨old, eventId, earlier, isOld, isEarlier, by rw [kept]; exact spawns⟩
  · rw [if_neg same] at isState
    exact ⟨state, eventId, pending, isState, isPending, spawns⟩

/-- Tracking files an event or keeps the one that is filed. -/
theorem tracked_event (state : ServerClientReplicationState) (event : NetworkEventDTO)
    (nowMs : TimestampMs) (eventId : NetworkEventId) (pending : PendingReliableEvent)
    (isPending : (state.trackReliableEvent event nowMs).pendingReliableEvents[eventId]? =
      some pending) :
    state.pendingReliableEvents[eventId]? = some pending ∨ pending.event = event ∨
      ∃ earlier : PendingReliableEvent, state.pendingReliableEvents[eventId]? = some earlier ∧
        earlier.event = pending.event := by
  unfold trackReliableEvent at isPending
  dsimp only at isPending
  rw [get_insert] at isPending
  by_cases same : event.eventId = eventId
  · rw [if_pos same] at isPending
    subst same
    cases isPending
    unfold trackedEntry
    dsimp only
    cases found : state.pendingReliableEvents[event.eventId]? with
    | none => exact Or.inr (Or.inl rfl)
    | some earlier =>
        rw [Option.getD_some]
        by_cases unsent : earlier.sendCount = 0
        · rw [if_pos unsent]
          exact Or.inr (Or.inl rfl)
        · rw [if_neg unsent]
          exact Or.inr (Or.inr ⟨earlier, rfl, rfl⟩)
  · rw [if_neg same] at isPending
    exact Or.inl isPending

section Quiet

variable (transport : Transport) {clientId : ClientId}

theorem send_unanswered (host : ServerNetworkHost) (receiver : ClientId) (event : NetworkEventDTO)
    (nowMs : TimestampMs) (isResend : Bool)
    (other : receiver = clientId → spawnedClient event ≠ some clientId) :
    Unanswered clientId host (host.sendReliableEvent transport receiver event nowMs isResend) := by
  intro none
  obtain ⟨accepted, only⟩ := send_event_only transport host receiver event nowMs isResend
  refine ⟨?_, _, only.trace, ?_⟩
  · unfold sendReliableEvent send
    dsimp only
    split
    · refine fun waits => none (spawn_pending_update ?_ waits)
      intro same state eventId pending isPending
      rcases tracked_event state event nowMs eventId pending isPending with kept | isEvent | earlier
      · exact Or.inl kept
      · rw [isEvent]
        exact Or.inr (Or.inl (other same))
      · exact Or.inr (Or.inr earlier)
    · exact none
  · intro happening member
    rw [List.mem_singleton.mp member]
    rintro ⟨same, _, _, spawns⟩
    exact other same spawns

/-- An event that does not spawn the client's player turns into none that does. -/
theorem converted_other {eventId : NetworkEventId} {serverTick : Tick}
    {serverTimeMs : TimestampMs} {event : DomainEvent} {dto : NetworkEventDTO}
    (converted : toNetworkEventDTO eventId serverTick serverTimeMs event = some dto)
    (other : ∀ spawned, event = .playerSpawned spawned → spawned.clientId ≠ clientId) :
    spawnedClient dto ≠ some clientId := by
  cases event with
  | playerSpawned spawned =>
      cases converted
      exact fun same => other spawned rfl (Option.some.inj same)
  | playerMoved => cases converted
  | snapshotApplied => cases converted
  | localPredictionCorrected => cases converted
  | _ =>
      cases converted
      exact fun same => by cases same

theorem number_unanswered (host : ServerNetworkHost) :
    Unanswered clientId host host.numberEvent.1 :=
  .of_quiet [.eventNumbered host.nextNetworkEventId] rfl rfl (by simp [Answers])

theorem broadcast_event_unanswered (nowMs : TimestampMs) (host : ServerNetworkHost)
    (event : DomainEvent)
    (other : ∀ spawned, event = .playerSpawned spawned → spawned.clientId ≠ clientId) :
    Unanswered clientId host (host.broadcastEvent transport nowMs event) := by
  unfold broadcastEvent numberedEvent
  dsimp only
  cases converted : toNetworkEventDTO host.numberEvent.2 host.runtime.simulation.tick
      host.runtime.simulation.timeMs event with
  | none => exact number_unanswered host
  | some networkEvent =>
      have silent := converted_other converted other
      refine (number_unanswered host).trans (Runs.run_relates _ (Unanswered clientId)
        Unanswered.refl Unanswered.trans ?_ _ _)
      intro between receiver
      unfold sendToClient
      split
      · exact Unanswered.refl between
      · exact send_unanswered transport between receiver networkEvent nowMs false fun _ => silent

theorem interest_unanswered (receiver : ClientId) (frame : InterestFrame) (nowMs : TimestampMs)
    (host : ServerNetworkHost) :
    Unanswered clientId host (host.sendInterestEvents transport receiver frame nowMs) := by
  unfold sendInterestEvents
  apply Runs.run_invariant_of_mem _ (fun after => Unanswered clientId host after)
  · intro event member between unanswered
    refine unanswered.trans ?_
    have other : ∀ spawned, event = .playerSpawned spawned → spawned.clientId ≠ clientId := by
      rintro spawned rfl
      simp [interestEvents] at member
    unfold sendInterestEvent numberedEvent
    dsimp only
    cases converted : toNetworkEventDTO between.numberEvent.2 between.runtime.simulation.tick
        between.runtime.simulation.timeMs event with
    | none => exact number_unanswered between
    | some networkEvent =>
        exact (number_unanswered between).trans (send_unanswered transport _ receiver networkEvent
          nowMs false fun _ => converted_other converted other)
  · exact Unanswered.refl host

theorem follow_unanswered (hostOrder : HostOrder) (nowMs : TimestampMs)
    (host : ServerNetworkHost) (receiver : ClientId) (planned : SnapshotDTO) :
    Unanswered clientId host
      (host.followInterest transport hostOrder nowMs receiver planned) := by
  unfold followInterest
  cases host.clientStateById[receiver]? with
  | none => exact Unanswered.refl host
  | some state =>
      have tracked (tracker : InterestTracker) : Unanswered clientId host
          (host.updateClient receiver fun state => { state with interest := tracker }) := by
        refine fun none => ⟨fun waits => none (spawn_pending_update ?_ waits), [],
          (List.append_nil _).symm, by simp⟩
        exact fun _ state eventId pending isPending => Or.inl isPending
      dsimp only
      cases state.interest.update hostOrder (.exitedEntities receiver) planned with
      | mk tracker frame =>
          have counted (start : ServerNetworkHost) :
              Unanswered clientId start (start.countStats (countInterest frame)) :=
            .of_quiet [] rfl (List.append_nil _).symm (by simp)
          exact ((tracked tracker).trans (counted _)).trans
            (interest_unanswered transport receiver frame nowMs _)

theorem mark_unanswered (host : ServerNetworkHost) (receiver : ClientId) (nowMs : TimestampMs) :
    Unanswered clientId host (host.markSnapshotSent receiver nowMs) := by
  refine fun none => ⟨fun waits => none (spawn_pending_update ?_ waits), [],
    (List.append_nil _).symm, by simp⟩
  exact fun _ state eventId pending isPending => Or.inl isPending

theorem turn_unanswered (order : LoopOrder) (hostOrder : HostOrder) (nowMs : TimestampMs)
    (host : ServerNetworkHost) (receiver : ClientId) :
    Unanswered clientId host (host.snapshotTurn transport order hostOrder nowMs receiver) := by
  have silent {before after : ServerNetworkHost}
      (states : after.clientStateById = before.clientStateById)
      (trace : after.trace = before.trace) : Unanswered clientId before after :=
    .of_quiet [] states (trace.trans (List.append_nil _).symm) (by simp)
  have handed (planned : SnapshotDTO) (baseline : Option SnapshotDTO) (accepted : Bool) :
      Unanswered clientId host (handedOver host receiver planned baseline accepted) := by
    refine .of_quiet _ rfl (handed_over_trace host receiver planned baseline accepted) ?_
    intro happening member
    rcases List.mem_pair.mp member with rfl | rfl
    · exact id
    · exact id
  unfold snapshotTurn sendSnapshot send
  dsimp only
  cases due : host.shouldSendSnapshot receiver nowMs with
  | false => exact silent rfl rfl
  | true =>
      cases answer : transport (host.numberSnapshot.countStats
          (countDeltaPlan (host.plannedSnapshot order receiver).snapshot
            (host.deltaBaseline receiver (host.plannedSnapshot order receiver).snapshot))).trace
          (envelopeFor receiver (.snapshot (host.plannedSnapshot order receiver).snapshot
            (host.deltaBaseline receiver (host.plannedSnapshot order receiver).snapshot))) with
      | false => exact handed _ _ false
      | true =>
          have followed := (handed (host.plannedSnapshot order receiver).snapshot
            (host.deltaBaseline receiver (host.plannedSnapshot order receiver).snapshot) true).trans
            (follow_unanswered transport hostOrder nowMs _ receiver
              (host.plannedSnapshot order receiver).snapshot)
          exact followed.trans ((silent rfl rfl).trans (mark_unanswered _ receiver nowMs))

/-- What is due for a client was pending for it. -/
theorem resend_unanswered (hostOrder : HostOrder) (nowMs : TimestampMs)
    (host : ServerNetworkHost) (receiver : ClientId) :
    Unanswered clientId host (resendToClient transport hostOrder nowMs host receiver) := by
  intro none
  unfold resendToClient
  cases isState : host.clientStateById[receiver]? with
  | none => exact Unanswered.refl host none
  | some state =>
      refine (Runs.run_invariant_of_mem _ (fun after => Unanswered clientId host after) _ ?_ host
        (Unanswered.refl host)) none
      intro event member between unanswered
      refine unanswered.trans (send_unanswered transport between receiver event nowMs true ?_)
      rintro rfl spawns
      unfold reliableEventsDueForResend at member
      obtain ⟨entry, isDue, rfl⟩ := List.mem_map.mp member
      have isEntry := (List.mem_filter.mp isDue).1
      rw [IterationOrder.mem_arrange, Std.ExtTreeMap.mem_toList_iff_getElem?_eq_some] at isEntry
      exact none ⟨state, entry.1, entry.2, isState, isEntry, spawns⟩

theorem tick_event_no_spawn {event : DomainEvent} (ofTick : TickEvent event)
    (spawned : PlayerSpawned) : event ≠ .playerSpawned spawned := by
  cases ofTick with
  | input told => rcases told with ⟨_, rfl⟩ | ⟨_, rfl⟩ <;> exact DomainEvent.noConfusion
  | shot told => rcases told with ⟨_, rfl⟩ | ⟨_, rfl⟩ <;> exact DomainEvent.noConfusion
  | hit told => rcases told with ⟨_, rfl⟩ | ⟨_, rfl⟩ | ⟨_, rfl⟩ <;> exact DomainEvent.noConfusion
  | respawn told =>
      obtain ⟨_, rfl⟩ := told
      exact DomainEvent.noConfusion

theorem tick_unanswered (order : LoopOrder) (hostOrder : HostOrder) (host : ServerNetworkHost)
    (nowMs : TimestampMs) (unqueued : ¬ SpawnQueued host.runtime.simulation clientId) :
    Unanswered clientId host (host.tickAndSendSnapshots transport order hostOrder nowMs) := by
  obtain ⟨added, grown, ofTick⟩ := tick_queues order host.runtime.simulation
  have drained : (host.runtime.tick order).drainEvents.2 =
    host.runtime.simulation.events ++ added := grown
  have others : ∀ event ∈ (host.runtime.tick order).drainEvents.2, ∀ spawned,
      event = .playerSpawned spawned → spawned.clientId ≠ clientId := by
    rintro event member spawned rfl isClient
    rw [drained] at member
    rcases List.mem_append.mp member with old | new
    · exact unqueued ⟨spawned, old, isClient⟩
    · exact tick_event_no_spawn (ofTick _ new) spawned rfl
  have started : Unanswered clientId host
      { host with runtime := (host.runtime.tick order).drainEvents.1 } :=
    .of_quiet [] rfl (List.append_nil _).symm (by simp)
  have turns := Runs.run_relates (snapshotTurn transport order hostOrder nowMs)
    (Unanswered clientId) Unanswered.refl Unanswered.trans
    (turn_unanswered transport order hostOrder nowMs)
    { host with runtime := (host.runtime.tick order).drainEvents.1 } host.clients
  have broadcast (sent : ServerNetworkHost) : Unanswered clientId sent
      (sent.broadcastReliableEvents transport (host.runtime.tick order).drainEvents.2 nowMs) := by
    apply Runs.run_invariant_of_mem _ (fun after => Unanswered clientId sent after)
    · intro event member between unanswered
      exact unanswered.trans
        (broadcast_event_unanswered transport nowMs between event (others event member))
    · exact Unanswered.refl sent
  have resent (sent : ServerNetworkHost) : Unanswered clientId sent
      (sent.resendPendingReliableEvents transport hostOrder nowMs) :=
    Runs.run_relates (resendToClient transport hostOrder nowMs) (Unanswered clientId)
      Unanswered.refl Unanswered.trans (resend_unanswered transport hostOrder nowMs) sent _
  have sent := ((started.trans turns).trans (broadcast _)).trans (resent _)
  exact sent.trans (.of_quiet [] rfl (List.append_nil _).symm (by simp))

end Quiet

/-! The login, and the calls until the next tick. -/

/-- What a login of the client does: it finds the player, is refused, or creates it. -/
theorem login_outcome (sim : GameSimulation) (command : LoginCommand) :
    (command.header.clientId ∈ sim.playerByClient ∧ submitLogin sim command = (sim, true)) ∨
    submitLogin sim command = (sim, false) ∨
    ∃ networkId spawned, command.header.clientId ∉ sim.playerByClient ∧
      (submitLogin sim command).1.playerByClient =
        sim.playerByClient.insert command.header.clientId networkId ∧
      (submitLogin sim command).1.events = sim.events ++ [.playerSpawned spawned] ∧
      spawned.clientId = command.header.clientId := by
  unfold submitLogin
  dsimp only
  by_cases known : command.header.clientId ∈ sim.playerByClient
  · rw [if_pos known]
    exact Or.inl ⟨known, rfl⟩
  · rw [if_neg known]
    split
    · exact Or.inr (Or.inl rfl)
    · exact Or.inr (Or.inr ⟨_, _, known, rfl, rfl, rfl⟩)

/-- A client with a player keeps it, and no spawn of it is queued or drained. -/
structure Settled (clientId : ClientId) (before after : GameSimulation) : Prop where
  player : clientId ∈ before.playerByClient → clientId ∈ after.playerByClient
  queued : clientId ∈ before.playerByClient →
    (SpawnQueued after clientId ↔ SpawnQueued before clientId)

theorem Settled.refl {clientId : ClientId} (sim : GameSimulation) : Settled clientId sim sim :=
  ⟨id, fun _ => Iff.rfl⟩

theorem login_settles (clientId : ClientId) (sim : GameSimulation) (command : LoginCommand) :
    Settled clientId sim (submitLogin sim command).1 := by
  rcases login_outcome sim command with ⟨_, same⟩ | same | ⟨id, spawned, fresh, players, events, own⟩
  · rw [same]
    exact Settled.refl sim
  · rw [same]
    exact Settled.refl sim
  · have other (known : clientId ∈ sim.playerByClient) : spawned.clientId ≠ clientId := by
      rintro rfl
      exact fresh (own ▸ known)
    refine ⟨fun known => ?_, fun known => ?_⟩
    · rw [players, Std.ExtTreeMap.mem_insert]
      exact Or.inr known
    · unfold SpawnQueued
      rw [events]
      constructor
      · rintro ⟨found, member, isClient⟩
        rcases List.mem_append.mp member with old | new
        · exact ⟨found, old, isClient⟩
        · cases List.mem_singleton.mp new
          exact absurd isClient (other known)
      · rintro ⟨found, member, isClient⟩
        exact ⟨found, List.mem_append_left _ member, isClient⟩

theorem input_settles (clientId : ClientId) (sim : GameSimulation) (packet : ClientInputPacket) :
    Settled clientId sim (submitInput sim packet).1 := by
  rcases submit_input_cases sim packet with ⟨same, _⟩ | ⟨_, _, accepted⟩
  · rw [same]
    exact Settled.refl sim
  · rw [accepted]
    exact ⟨id, fun _ => Iff.rfl⟩

/-- What the calls before the next tick leave of an answer that is due. -/
structure Waits (clientId : ClientId) (before after : ServerNetworkHost) : Prop where
  clients : ∀ other ∈ before.clients, other ∈ after.clients
  settled : Settled clientId before.runtime.simulation after.runtime.simulation
  pending : SpawnPending after clientId → SpawnPending before clientId

namespace Waits

variable {clientId : ClientId}

theorem refl (host : ServerNetworkHost) : Waits clientId host host :=
  ⟨fun _ => id, Settled.refl _, id⟩

theorem trans {first second third : ServerNetworkHost} (left : Waits clientId first second)
    (right : Waits clientId second third) : Waits clientId first third := by
  refine ⟨fun other member => right.clients other (left.clients other member), ⟨?_, ?_⟩,
    fun waits => left.pending (right.pending waits)⟩
  · exact fun known => right.settled.player (left.settled.player known)
  · exact fun known => (right.settled.queued (left.settled.player known)).trans
      (left.settled.queued known)

end Waits

theorem register_waits (clientId joining : ClientId) (host : ServerNetworkHost) :
    Waits clientId host (host.registerClient joining) := by
  refine ⟨fun other member => List.mem_append_left _ member, Settled.refl _, ?_⟩
  rintro ⟨state, eventId, pending, isState, isPending, spawns⟩
  unfold registerClient at isState
  dsimp only at isState
  rw [Std.ExtTreeMap.getElem?_insertIfNew] at isState
  split at isState
  · cases isState
    cases isPending
  · exact ⟨state, eventId, pending, isState, isPending, spawns⟩

theorem login_waits (clientId : ClientId) (host : ServerNetworkHost) (envelope : NetworkEnvelope) :
    Waits clientId host (host.handleLoginEnvelope envelope) := by
  unfold handleLoginEnvelope
  split
  · exact Waits.refl host
  · next login _ =>
      have connected : Waits clientId host
          { host.countStats fun stats => { stats with loginRequests := stats.loginRequests + 1 } with
            runtime := (host.runtime.connectClient login.header.clientId
              login.header.clientTimestampMs).1 } :=
        ⟨fun _ => id, login_settles clientId _ _, id⟩
      dsimp only
      split
      · exact connected
      · split
        · exact connected
        · exact connected.trans (register_waits clientId _ _)

theorem input_waits (clientId : ClientId) (host : ServerNetworkHost) (envelope : NetworkEnvelope) :
    Waits clientId host (host.handleInputEnvelope envelope) := by
  unfold handleInputEnvelope
  split
  · exact Waits.refl host
  · next packet _ =>
      have settled := input_settles clientId host.runtime.simulation packet
      dsimp only
      split
      · exact ⟨fun _ => id, settled, id⟩
      · exact ⟨fun _ => id, settled, id⟩

theorem update_waits {clientId other : ClientId} (host after : ServerNetworkHost)
    (change : ServerClientReplicationState → ServerClientReplicationState)
    (clients : after.clients = host.clients) (runtime : after.runtime = host.runtime)
    (states : after.clientStateById = (host.updateClient other change).clientStateById)
    (keeps : ∀ state (eventId : NetworkEventId) (pending : PendingReliableEvent),
      (change state).pendingReliableEvents[eventId]? = some pending →
      state.pendingReliableEvents[eventId]? = some pending) :
    Waits clientId host after := by
  refine ⟨fun joined member => clients ▸ member, runtime ▸ Settled.refl _, ?_⟩
  intro waits
  apply spawn_pending_update (fun _ state eventId pending isPending =>
    Or.inl (keeps state eventId pending isPending))
  unfold SpawnPending at waits ⊢
  rw [states] at waits
  exact waits

theorem snapshot_ack_waits (clientId : ClientId) (host : ServerNetworkHost)
    (envelope : NetworkEnvelope) :
    Waits clientId host (host.handleSnapshotAckEnvelope envelope) := by
  have rejected : Waits clientId host host.rejectSnapshotAck := ⟨fun _ => id, Settled.refl _, id⟩
  unfold handleSnapshotAckEnvelope
  split
  · exact Waits.refl host
  · next ack _ =>
      split
      · exact rejected
      · split
        · exact rejected
        · split
          · exact rejected
          · refine update_waits host _ (fun state => (state.acknowledgeSnapshot ack.snapshotId).1)
              rfl rfl rfl ?_
            intro state eventId pending isPending
            unfold acknowledgeSnapshot at isPending
            split at isPending
            · exact isPending
            · exact isPending

theorem event_ack_waits (clientId : ClientId) (host : ServerNetworkHost)
    (envelope : NetworkEnvelope) :
    Waits clientId host (host.handleNetworkEventAckEnvelope envelope) := by
  have rejected : Waits clientId host host.rejectEventAck := ⟨fun _ => id, Settled.refl _, id⟩
  unfold handleNetworkEventAckEnvelope
  split
  · exact Waits.refl host
  · next ack _ =>
      split
      · exact rejected
      · split
        · exact rejected
        · refine update_waits host _ (fun state => (state.acknowledgeReliableEvent ack.eventId).1)
            rfl rfl rfl ?_
          intro state eventId pending isPending
          have erased : (state.pendingReliableEvents.erase ack.eventId)[eventId]? =
            some pending := isPending
          rw [get_erase] at erased
          split at erased
          · cases erased
          · exact erased

theorem time_sync_waits (clientId : ClientId) (transport : Transport) (host : ServerNetworkHost)
    (envelope : NetworkEnvelope) :
    Waits clientId host (host.handleTimeSyncEnvelope transport envelope) := by
  unfold handleTimeSyncEnvelope send
  split
  · exact Waits.refl host
  · dsimp only
    split
    · exact ⟨fun _ => id, Settled.refl _, id⟩
    · exact ⟨fun _ => id, Settled.refl _, id⟩

theorem envelope_waits (clientId : ClientId) (transport : Transport) (host : ServerNetworkHost)
    (envelope : NetworkEnvelope) :
    Waits clientId host (host.handleEnvelope transport envelope) := by
  unfold handleEnvelope
  split
  · exact Waits.refl host
  · split
    · exact login_waits clientId host envelope
    · exact input_waits clientId host envelope
    · exact snapshot_ack_waits clientId host envelope
    · exact event_ack_waits clientId host envelope
    · exact time_sync_waits clientId transport host envelope
    · exact Waits.refl host

/-- A call on the host itself that is no tick. -/
def BeforeTick : HostCall → Prop
  | .tickAndSendSnapshots _ _ _ => False
  | .changeRuntime _ => False
  | _ => True

theorem step_waits (clientId : ClientId) (transport : Transport) (host : ServerNetworkHost)
    (call : HostCall) (early : BeforeTick call) : Waits clientId host (hostStep transport host call) := by
  cases call with
  | connectSimulationOnlyClient joining nowMs =>
      exact ⟨fun _ => id, login_settles clientId _ _, id⟩
  | pumpClientMessages polled =>
      exact Runs.run_relates (handleEnvelope transport) (Waits clientId) Waits.refl Waits.trans
        (envelope_waits clientId transport) host polled
  | tickAndSendSnapshots => cases early
  | drainEvents => exact ⟨fun _ => id, Settled.refl _, id⟩
  | buildSnapshotFor => exact ⟨fun _ => id, Settled.refl _, id⟩
  | changeRuntime => cases early

/-- The calls `between` come after the login, then the next tick. Either a spawn
of the client waits for its acknowledgement when the login is done, or the tick
sends one. -/
def LoginAnswered (transport : Transport) (host : ServerNetworkHost) (envelope : NetworkEnvelope)
    (clientId : ClientId) (between : List HostCall) (order : LoopOrder) (hostOrder : HostOrder)
    (nowMs : TimestampMs) : Prop :=
  let loggedIn := host.handleLoginEnvelope envelope
  let waiting := Runs.run (hostStep transport) loggedIn between
  SpawnPending loggedIn clientId ∨
    Answered clientId waiting (waiting.tickAndSendSnapshots accepting order hostOrder nowMs)

/-- A login that is taken finds the player or creates it with its event. -/
theorem accepted_login_queues (sim : GameSimulation) (command : LoginCommand)
    (accepted : (submitLogin sim command).2 = true) :
    command.header.clientId ∈ (submitLogin sim command).1.playerByClient ∧
    (SpawnQueued (submitLogin sim command).1 command.header.clientId ↔
      command.header.clientId ∉ sim.playerByClient ∨ SpawnQueued sim command.header.clientId) := by
  rcases login_outcome sim command with
    ⟨known, same⟩ | same | ⟨id, spawned, fresh, players, events, own⟩
  · rw [same]
    refine ⟨known, ?_⟩
    simp [known]
  · rw [same] at accepted
    cases accepted
  · have queued : SpawnQueued (submitLogin sim command).1 command.header.clientId := by
      refine ⟨spawned, ?_, own⟩
      rw [events]
      exact List.mem_append_right _ (List.mem_singleton_self _)
    refine ⟨?_, fun _ => Or.inl fresh, fun _ => queued⟩
    rw [players]
    exact Std.ExtTreeMap.mem_insert_self

theorem register_pending (host : ServerNetworkHost) (clientId joining : ClientId)
    (waits : SpawnPending host clientId) : SpawnPending (host.registerClient joining) clientId := by
  obtain ⟨state, eventId, pending, isState, isPending, spawns⟩ := waits
  refine ⟨state, eventId, pending, ?_, isPending, spawns⟩
  unfold registerClient
  dsimp only
  rw [Std.ExtTreeMap.getElem?_insertIfNew, if_neg]
  · exact isState
  · rintro ⟨same, fresh⟩
    rw [Std.compare_eq_iff_eq.mp same] at fresh
    rw [Std.ExtTreeMap.getElem?_eq_none fresh] at isState
    cases isState

/-- After an accepted login the client is known and has a player; a spawn of it
is queued if one was or if the login created the player. -/
theorem login_accepted (host : ServerNetworkHost) (envelope : NetworkEnvelope) (login : LoginCommand)
    (decoded : deserializeLoginCommand envelope.payload = some login)
    (accepted : (host.runtime.connectClient login.header.clientId
      login.header.clientTimestampMs).2 = true) :
    login.header.clientId ∈ (host.handleLoginEnvelope envelope).clients ∧
    (host.handleLoginEnvelope envelope).runtime =
      (host.runtime.connectClient login.header.clientId login.header.clientTimestampMs).1 ∧
    (SpawnPending host login.header.clientId →
      SpawnPending (host.handleLoginEnvelope envelope) login.header.clientId) := by
  have taken : ((host.countStats fun stats => { stats with
      loginRequests := stats.loginRequests + 1 }).runtime.connectClient login.header.clientId
        login.header.clientTimestampMs).2 = true := accepted
  unfold handleLoginEnvelope
  rw [decoded]
  dsimp only
  rw [taken]
  split
  · next refused => cases refused
  · split
    · next known => exact ⟨known, rfl, id⟩
    · exact ⟨List.mem_append_right _ (List.mem_singleton_self _), rfl, register_pending _ _ _⟩

/-- A tick of a host that has no spawn of the client at hand sends it none. -/
theorem tick_sends_none (order : LoopOrder) (hostOrder : HostOrder) (host : ServerNetworkHost)
    (nowMs : TimestampMs) {clientId : ClientId}
    (unqueued : ¬ SpawnQueued host.runtime.simulation clientId)
    (unpending : ¬ SpawnPending host clientId) :
    ¬ Answered clientId host (host.tickAndSendSnapshots accepting order hostOrder nowMs) := by
  rintro ⟨added, grown, happening, member, answers⟩
  obtain ⟨_, same, recorded, quiet⟩ :=
    tick_unanswered accepting order hostOrder host nowMs unqueued unpending
  have equal := List.append_cancel_left (grown.symm.trans recorded)
  exact quiet happening (equal ▸ member) answers

/-- An accepted login is answered exactly if it creates the player, or if a spawn
of the player is still queued or still unacknowledged. -/
theorem login_answered_iff (transport : Transport) (host : ServerNetworkHost)
    (envelope : NetworkEnvelope) (login : LoginCommand)
    (decoded : deserializeLoginCommand envelope.payload = some login)
    (accepted : (host.runtime.connectClient login.header.clientId
      login.header.clientTimestampMs).2 = true)
    (between : List HostCall) (early : ∀ call ∈ between, BeforeTick call) (order : LoopOrder)
    (hostOrder : HostOrder) (nowMs : TimestampMs) :
    LoginAnswered transport host envelope login.header.clientId between order hostOrder nowMs ↔
      login.header.clientId ∉ host.runtime.simulation.playerByClient ∨
        SpawnQueued host.runtime.simulation login.header.clientId ∨
        SpawnPending host login.header.clientId := by
  obtain ⟨known, runtime, pending⟩ := login_accepted host envelope login decoded accepted
  obtain ⟨player, queued⟩ := accepted_login_queues host.runtime.simulation _ accepted
  have simulation := congrArg ServerRuntime.simulation runtime
  unfold ServerRuntime.connectClient at simulation
  dsimp only at simulation player queued
  rw [← simulation] at player queued
  have loggedIn := login_waits login.header.clientId host envelope
  have waits := Runs.run_invariant_of_mem (hostStep transport)
    (fun after => Waits login.header.clientId (host.handleLoginEnvelope envelope) after) between
    (fun call member state kept => kept.trans (step_waits _ transport state call (early call member)))
    (host.handleLoginEnvelope envelope) (Waits.refl _)
  unfold LoginAnswered
  dsimp only
  generalize Runs.run (hostStep transport) (host.handleLoginEnvelope envelope) between =
    waiting at waits ⊢
  -- What the login queued stays queued until a tick drains it.
  have stillQueued := (waits.settled.queued player).trans queued
  constructor
  · intro answered
    by_contra neither
    obtain ⟨hadPlayer, unqueued, unpending⟩ :
        ¬ login.header.clientId ∉ host.runtime.simulation.playerByClient ∧
        ¬ SpawnQueued host.runtime.simulation login.header.clientId ∧
        ¬ SpawnPending host login.header.clientId := by
      simpa only [not_or] using neither
    rcases answered with waited | sent
    · exact unpending (loggedIn.pending waited)
    · refine tick_sends_none order hostOrder waiting nowMs ?_ ?_ sent
      · exact fun isQueued => (stillQueued.mp isQueued).elim hadPlayer unqueued
      · exact fun isPending => unpending (loggedIn.pending (waits.pending isPending))
  · rintro (fresh | isQueued | isPending)
    · exact Or.inr (tick_answers order hostOrder waiting nowMs _ (waits.clients _ known)
        (stillQueued.mpr (Or.inl fresh)))
    · exact Or.inr (tick_answers order hostOrder waiting nowMs _ (waits.clients _ known)
        (stillQueued.mpr (Or.inr isQueued)))
    · exact Or.inl (pending isPending)

def loginEnvelope (clientId : ClientId) : NetworkEnvelope :=
  { peerId := clientId, channel := .loginSpawn, messageClass := .loginRequest,
    payload := serializeLoginCommand { header := { clientId := clientId } } }

theorem first_login_answered :
    LoginAnswered accepting (.new {}) (loginEnvelope 7) 7
      [.pumpClientMessages [], .drainEvents] .stored .stored 0 :=
  (login_answered_iff accepting (.new {}) (loginEnvelope 7) { header := { clientId := 7 } }
    (by decide +kernel) (by decide +kernel) [.pumpClientMessages [], .drainEvents]
    (by simp [BeforeTick]) .stored .stored 0).mpr (Or.inl (by decide +kernel))

/-- Client 7 is connected to the simulation only, and a tick drains the event of
its player before its login. -/
def simulationOnlyCalls : List HostCall :=
  [.connectSimulationOnlyClient 7 0, .tickAndSendSnapshots .stored .stored 0]

theorem login_unanswered :
    ¬ ∀ (transport : Transport) (config : ServerNetworkHostConfig) (calls : List HostCall)
        (envelope : NetworkEnvelope) (login : LoginCommand),
        deserializeLoginCommand envelope.payload = some login →
        ((hostRun transport config calls).runtime.connectClient login.header.clientId
          login.header.clientTimestampMs).2 = true →
        ∀ (order : LoopOrder) (hostOrder : HostOrder) (nowMs : TimestampMs),
          LoginAnswered transport (hostRun transport config calls) envelope login.header.clientId []
            order hostOrder nowMs := by
  intro all
  have answered := all accepting {} simulationOnlyCalls (loginEnvelope 7)
    { header := { clientId := 7 } } (by decide +kernel) (by decide +kernel) .stored .stored 16
  have events : ((hostRun accepting {} simulationOnlyCalls).handleLoginEnvelope
      (loginEnvelope 7)).runtime.simulation.events = [] := by decide +kernel
  have pending : (((hostRun accepting {} simulationOnlyCalls).handleLoginEnvelope
      (loginEnvelope 7)).clientStateById[(7 : ClientId)]?).map
        (fun state => state.pendingReliableEvents.isEmpty) = some true := by decide +kernel
  have unqueued : ¬ SpawnQueued ((hostRun accepting {} simulationOnlyCalls).handleLoginEnvelope
      (loginEnvelope 7)).runtime.simulation 7 := by
    rintro ⟨spawned, member, _⟩
    rw [events] at member
    cases member
  have unpending : ¬ SpawnPending ((hostRun accepting {} simulationOnlyCalls).handleLoginEnvelope
      (loginEnvelope 7)) 7 := by
    rintro ⟨state, eventId, entry, isState, isPending, _⟩
    rw [isState] at pending
    have empty := Std.ExtTreeMap.isEmpty_iff.mp (Option.some.inj pending)
    rw [empty] at isPending
    cases isPending
  exact answered.elim unpending (tick_sends_none .stored .stored _ 16 unqueued unpending)

end Brawololo.LoginAnswers
