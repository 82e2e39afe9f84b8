import Brawololo.InterestAccounting

/-!
A snapshot that the transport refuses. The host has taken a snapshot id and
planned a delta by then and touched nothing else, so the client is due in the
next tick again, and its interest is compared with what it saw last.
-/

namespace Brawololo.RefusedSnapshots

open GameTypes EntityStore Simulation Replication Server ServerNetworkHost
open HostBookkeeping HostTurns HostSimulation InterestAccounting

/-! A turn of the loop over the clients. -/

/-- The host when the simulation has ticked and the loop over the clients begins. -/
def ticked (order : LoopOrder) (host : ServerNetworkHost) : ServerNetworkHost :=
  { host with runtime := ((host.runtime.tick order).drainEvents).1 }

/-- The host at the client's turn of a tick. -/
def atTurn (transport : Transport) (order : LoopOrder) (hostOrder : HostOrder)
    (nowMs : TimestampMs) (host : ServerNetworkHost) (clientId : ClientId) : ServerNetworkHost :=
  (host.clients.takeWhile (· ≠ clientId)).foldl (snapshotTurn transport order hostOrder nowMs)
    (ticked order host)

/-- The client is due, and the transport refuses its snapshot. -/
def Refused (transport : Transport) (order : LoopOrder) (hostOrder : HostOrder)
    (nowMs : TimestampMs) (host : ServerNetworkHost) (clientId : ClientId) : Prop :=
  clientId ∈ host.clients ∧
    (atTurn transport order hostOrder nowMs host clientId).shouldSendSnapshot clientId nowMs = true ∧
    ((atTurn transport order hostOrder nowMs host clientId).sendSnapshot transport order hostOrder
      nowMs clientId).2 = false

/-- Nothing that replication goes by has changed: only a snapshot id is taken, the
delta plan is counted, and the record has the refusal. -/
structure Traceless (clientId : ClientId) (before after : ServerNetworkHost) : Prop where
  config : after.config = before.config
  clients : after.clients = before.clients
  simulation : after.runtime.simulation = before.runtime.simulation
  states : after.clientStateById = before.clientStateById
  baselines : after.baselineCache = before.baselineCache
  nextNetworkEventId : after.nextNetworkEventId = before.nextNetworkEventId
  drainedEvents : after.drainedEvents = before.drainedEvents
  stats : ∃ planned added changed removed unchanged, after.stats =
    { before.stats with
      deltaPlaceholderSnapshotsPlanned := planned
      deltaPlaceholderAddedEntities := added
      deltaPlaceholderChangedEntities := changed
      deltaPlaceholderRemovedEntities := removed
      deltaPlaceholderUnchangedEntities := unchanged }
  trace : ∃ planned baseline, after.trace = before.trace ++
    handedTrace before clientId planned baseline false

theorem count_delta_plan_only (planned : SnapshotDTO) (baseline : Option SnapshotDTO)
    (stats : ServerNetworkStats) :
    ∃ snapshots added changed removed unchanged, countDeltaPlan planned baseline stats =
      { stats with
        deltaPlaceholderSnapshotsPlanned := snapshots
        deltaPlaceholderAddedEntities := added
        deltaPlaceholderChangedEntities := changed
        deltaPlaceholderRemovedEntities := removed
        deltaPlaceholderUnchangedEntities := unchanged } := by
  unfold countDeltaPlan
  cases baseline with
  | none => exact ⟨_, _, _, _, _, rfl⟩
  | some baseline =>
      dsimp only
      split
      · exact ⟨_, _, _, _, _, rfl⟩
      · exact ⟨_, _, _, _, _, rfl⟩

section Turns

variable (transport : Transport) (order : LoopOrder) (hostOrder : HostOrder) (nowMs : TimestampMs)

/-- `SendSnapshot` returns what the transport answers. -/
theorem send_snapshot_answer (host : ServerNetworkHost) (clientId : ClientId) :
    (host.sendSnapshot transport order hostOrder nowMs clientId).2 =
      answerTo transport host clientId (host.plannedSnapshot order clientId).snapshot
        (host.deltaBaseline clientId (host.plannedSnapshot order clientId).snapshot) := by
  unfold sendSnapshot send
  dsimp only
  cases answer : answerTo transport host clientId (host.plannedSnapshot order clientId).snapshot
      (host.deltaBaseline clientId (host.plannedSnapshot order clientId).snapshot) with
  | false =>
      unfold answerTo at answer
      rw [answer]
      rfl
  | true =>
      unfold answerTo at answer
      rw [answer]
      rfl

/-- What a refusal leaves of a turn. -/
theorem refused_turn (host : ServerNetworkHost) (clientId : ClientId)
    (due : host.shouldSendSnapshot clientId nowMs = true)
    (refused : (host.sendSnapshot transport order hostOrder nowMs clientId).2 = false) :
    Traceless clientId host (host.snapshotTurn transport order hostOrder nowMs clientId) := by
  rw [send_snapshot_answer] at refused
  have turned := snapshot_turn transport order hostOrder nowMs host clientId
  generalize host.snapshotTurn transport order hostOrder nowMs clientId = after at turned ⊢
  cases turned with
  | skipped notDue => exact absurd (due.symm.trans notDue) (by decide)
  | refused _ answer =>
      exact
        { config := rfl
          clients := rfl
          simulation := rfl
          states := rfl
          baselines := rfl
          nextNetworkEventId := rfl
          drainedEvents := rfl
          stats := count_delta_plan_only _ _ host.stats
          trace := ⟨_, _, handed_over_trace host clientId _ _ false⟩ }
  | sent _ answer => exact absurd (refused.symm.trans answer) (by decide)

/-! What the host goes by until the client is sent a snapshot. -/

/-- The snapshots that the transport took for the client. -/
def taken (host : ServerNetworkHost) (clientId : ClientId) : List SnapshotDTO :=
  host.trace.filterMap (acceptedFor clientId)

/-- When the client is due, and what it saw last. -/
def plansFor (host : ServerNetworkHost) (clientId : ClientId) :
    Option (TimestampMs × InterestTracker) :=
  (coreFor host clientId).map fun state => (state.nextSnapshotSendAtMs, state.interest)

/-- Unless a snapshot is sent to the client, what the host goes by stays. -/
structure Waits (clientId : ClientId) (before after : ServerNetworkHost) : Prop where
  enrolled : clientId ∈ before.clients → clientId ∈ after.clients
  grows : taken before clientId <+: taken after clientId
  waits : taken after clientId = taken before clientId →
    ∀ plans, plansFor before clientId = some plans → plansFor after clientId = some plans

namespace Waits

variable {clientId : ClientId}

theorem refl (host : ServerNetworkHost) : Waits clientId host host :=
  ⟨id, List.prefix_refl _, fun _ _ has => has⟩

theorem trans {first second third : ServerNetworkHost} (one : Waits clientId first second)
    (two : Waits clientId second third) : Waits clientId first third := by
  refine ⟨fun member => two.enrolled (one.enrolled member), one.grows.trans two.grows, ?_⟩
  intro same plans has
  -- Nothing is taken over both stretches, so nothing is over either.
  have later : taken second clientId = taken first clientId := by
    have back := two.grows
    rw [same] at back
    exact back.eq_of_length_le one.grows.length_le
  exact two.waits (same.trans later.symm) plans (one.waits later plans has)

/-- The client's state and its snapshots are the same. -/
theorem of_same {before after : ServerNetworkHost} (clients : after.clients = before.clients)
    (same : taken after clientId = taken before clientId)
    (plans : plansFor after clientId = plansFor before clientId) :
    Waits clientId before after :=
  ⟨fun member => clients ▸ member, same ▸ List.prefix_refl _, fun _ _ has => plans.trans has⟩

end Waits

theorem taken_append {before after : ServerNetworkHost} {added : Trace} (clientId : ClientId)
    (trace : after.trace = before.trace ++ added) :
    taken after clientId = taken before clientId ++ added.filterMap (acceptedFor clientId) := by
  unfold taken
  rw [trace, List.filterMap_append]

theorem plans_of_states {before after : ServerNetworkHost}
    (states : after.clientStateById = before.clientStateById) (clientId : ClientId) :
    plansFor after clientId = plansFor before clientId := by
  unfold plansFor coreFor
  rw [states]

/-- Sending events leaves what the host goes by alone. -/
theorem events_wait {sent : Trace} {before after : ServerNetworkHost} (clientId : ClientId)
    (only : EventsOnly sent before after) (quiet : NoSnapshot sent) :
    Waits clientId before after := by
  refine .of_same only.clients ?_ ?_
  · rw [taken_append clientId only.trace, quiet_accepted quiet, List.append_nil]
  · unfold plansFor
    rw [only.states]

theorem core_other (host : ServerNetworkHost) {clientId other : ClientId} (apart : clientId ≠ other)
    (change : ServerClientReplicationState → ServerClientReplicationState) :
    coreFor (host.updateClient clientId change) other = coreFor host other := by
  unfold coreFor updateClient
  dsimp only
  rw [get_modify, if_neg apart]

/-- Following the interest of a client leaves the other clients alone. -/
theorem follows_only {clientId : ClientId} {planned : SnapshotDTO} {before after : ServerNetworkHost}
    (follows : Follows hostOrder clientId planned before after) :
    after.clients = before.clients ∧
      (∃ sent, after.trace = before.trace ++ sent ∧ NoSnapshot sent) ∧
      ∀ other, clientId ≠ other → coreFor after other = coreFor before other := by
  cases follows with
  | unknown absent =>
      exact ⟨rfl, ⟨[], (List.append_nil _).symm, fun _ _ member => (by cases member)⟩,
        fun _ _ => rfl⟩
  | followed state tracker frame sent _ has updated only quiet told =>
      exact ⟨only.clients, ⟨sent, only.trace, quiet⟩,
        fun other apart => (only.states other).trans (core_other _ apart _)⟩

/-- What a turn does for one of the clients. -/
theorem turn_takes (host : ServerNetworkHost) (clientId other : ClientId) :
    let after := host.snapshotTurn transport order hostOrder nowMs clientId
    after.clients = host.clients ∧
      ∃ own, taken after other = taken host other ++ own ∧ (clientId ≠ other → own = []) ∧
        (own = [] → plansFor after other = plansFor host other) := by
  intro after
  have turned : SnapshotTurn transport order hostOrder nowMs host clientId after :=
    snapshot_turn transport order hostOrder nowMs host clientId
  generalize after = after at turned ⊢
  cases turned with
  | skipped notDue => exact ⟨rfl, [], (List.append_nil _).symm, fun _ => rfl, fun _ => rfl⟩
  | refused due answer =>
      refine ⟨rfl, [], ?_, fun _ => rfl, fun _ => rfl⟩
      rw [taken_append other (handed_over_trace host clientId _ _ false), handed_refused]
  | sent due answer missed followed follows =>
      obtain ⟨clients, ⟨sent, recorded, quiet⟩, others⟩ := follows_only hostOrder follows
      rw [handed_over_trace, List.append_assoc] at recorded
      have grown := taken_append other recorded
      rw [List.filterMap_append, handed_accepted, quiet_accepted quiet, List.append_nil] at grown
      refine ⟨clients, _, grown, fun apart => if_neg apart, ?_⟩
      by_cases mine : clientId = other
      · rw [if_pos mine]
        exact fun none => absurd none (by simp)
      · intro _
        unfold plansFor
        rw [ServerNetworkHost.markSnapshotSent, core_other _ mine]
        exact congrArg _ (others other mine)

theorem turn_waits (host : ServerNetworkHost) (clientId other : ClientId) :
    Waits other host (host.snapshotTurn transport order hostOrder nowMs clientId) := by
  obtain ⟨clients, own, grown, _, plans⟩ :=
    turn_takes transport order hostOrder nowMs host clientId other
  refine ⟨fun member => clients ▸ member, ⟨own, grown.symm⟩, fun same earlier has => ?_⟩
  have none : own = [] := List.append_right_eq_self.mp (grown.symm.trans same)
  exact (plans none).trans has

theorem turns_wait (clients : List ClientId) (host : ServerNetworkHost) (other : ClientId) :
    Waits other host (clients.foldl (snapshotTurn transport order hostOrder nowMs) host) :=
  Runs.run_relates (snapshotTurn transport order hostOrder nowMs) (Waits other) Waits.refl
    Waits.trans (fun host clientId => turn_waits transport order hostOrder nowMs host clientId other)
    host clients

/-- Unless it is the client's turn, nothing is taken for the client. -/
theorem turns_of_others (clients : List ClientId) (host : ServerNetworkHost) (other : ClientId)
    (absent : other ∉ clients) :
    taken (clients.foldl (snapshotTurn transport order hostOrder nowMs) host) other =
      taken host other := by
  induction clients generalizing host with
  | nil => rfl
  | cons clientId rest ih =>
      have apart : other ≠ clientId := fun same => absent (same ▸ List.mem_cons_self)
      have later : other ∉ rest := fun member => absent (List.mem_cons_of_mem clientId member)
      obtain ⟨_, own, grown, none, _⟩ :=
        turn_takes transport order hostOrder nowMs host clientId other
      rw [none (Ne.symm apart), List.append_nil] at grown
      exact (ih _ later).trans grown

/-- The rest of a tick, behind the loop over the clients. -/
theorem tick_ends_waiting (host : ServerNetworkHost) (other : ClientId) :
    let looped := host.clients.foldl (snapshotTurn transport order hostOrder nowMs)
      (ticked order host)
    let after := host.tickAndSendSnapshots transport order hostOrder nowMs
    Waits other looped after ∧ taken after other = taken looped other ∧
      ∃ added, after.trace = looped.trace ++ added := by
  intro looped after
  obtain ⟨second, broadcast, quiet⟩ := broadcast_no_snapshot transport looped
    (host.runtime.tick order).drainEvents.2 nowMs
  obtain ⟨third, resent, uninteresting⟩ := resend_only transport hostOrder
    (looped.broadcastReliableEvents transport (host.runtime.tick order).drainEvents.2 nowMs) nowMs
  have only := broadcast.trans resent
  have silent : NoSnapshot (second ++ third) :=
    no_snapshot_append quiet fun clientId happening member =>
      (uninteresting happening member).2 clientId
  have waits := events_wait other only silent
  have same := taken_append other only.trace
  rw [quiet_accepted silent, List.append_nil] at same
  exact ⟨waits.trans (.of_same rfl rfl rfl), same, _, only.trace⟩

theorem tick_waits (host : ServerNetworkHost) (other : ClientId) :
    Waits other host (host.tickAndSendSnapshots transport order hostOrder nowMs) := by
  have started : Waits other host (ticked order host) := .of_same rfl rfl rfl
  exact (started.trans (turns_wait transport order hostOrder nowMs host.clients _ other)).trans
    (tick_ends_waiting transport order hostOrder nowMs host other).1

end Turns

/-! The calls of the host. -/

/-- What the host goes by for a client is left alone by a change of its state that
keeps the schedule and the interest. -/
theorem plans_updated (host : ServerNetworkHost) (clientId other : ClientId)
    (change : ServerClientReplicationState → ServerClientReplicationState)
    (due : ∀ state, (change state).nextSnapshotSendAtMs = state.nextSnapshotSendAtMs)
    (interest : ∀ state, (change state).interest = state.interest) :
    plansFor (host.updateClient clientId change) other = plansFor host other := by
  unfold plansFor coreFor updateClient
  simp only [Option.map_map]
  apply part_modify
  intro state
  exact congrArg₂ Prod.mk (due state) (interest state)

theorem register_waits (host : ServerNetworkHost) (clientId other : ClientId) :
    Waits other host (host.registerClient clientId) := by
  refine ⟨fun member => List.mem_append_left _ member, List.prefix_refl _, ?_⟩
  intro _ plans has
  unfold plansFor coreFor at has ⊢
  rw [Option.map_map] at has ⊢
  obtain ⟨state, isState, isPlans⟩ := Option.map_eq_some_iff.mp has
  rw [← isPlans]
  unfold registerClient
  dsimp only
  have present : other ∈ host.clientStateById := by
    rw [Std.ExtTreeMap.mem_iff_isSome_getElem?, isState]
    rfl
  rw [Std.ExtTreeMap.getElem?_insertIfNew, if_neg, isState, Option.map_some]
  rintro ⟨same, new⟩
  rw [Std.LawfulEqCmp.compare_eq_iff_eq.mp same] at new
  exact new present

theorem envelope_waits (transport : Transport) (host : ServerNetworkHost)
    (envelope : NetworkProtocol.NetworkEnvelope) (other : ClientId) :
    Waits other host (host.handleEnvelope transport envelope) := by
  obtain ⟨added, recorded, quiet⟩ := envelope_no_snapshot transport host envelope
  have sameTaken := taken_append other recorded
  rw [quiet_accepted quiet, List.append_nil] at sameTaken
  have turned := envelope_turn transport host envelope
  generalize host.handleEnvelope transport envelope = after at turned sameTaken
  cases turned with
  | kept same trace => exact .of_same same.clients sameTaken (plans_of_states same.states other)
  | @enrolled connected clientId same trace new =>
      have connects : Waits other host connected :=
        .of_same same.clients (congrArg _ trace) (plans_of_states same.states other)
      exact connects.trans (register_waits connected clientId other)
  | snapshotAcked clientId snapshotId state has newer =>
      refine .of_same rfl sameTaken (plans_updated host clientId other _ ?_ ?_)
      · intro state
        unfold ServerClientReplicationState.acknowledgeSnapshot
        split
        · rfl
        · rfl
      · exact fun state => acknowledge_interest state snapshotId
  | eventAcked clientId eventId state has pending =>
      exact .of_same rfl sameTaken (plans_updated host clientId other _ (fun _ => rfl) fun _ => rfl)
  | answered clientId response accepted same trace =>
      exact .of_same same.clients sameTaken (plans_of_states same.states other)

theorem step_waits (transport : Transport) (host : ServerNetworkHost) (call : HostCall)
    (other : ClientId) : Waits other host (hostStep transport host call) := by
  cases call with
  | connectSimulationOnlyClient clientId nowMs => exact .of_same rfl rfl rfl
  | pumpClientMessages polled =>
      exact Runs.run_relates (handleEnvelope transport) (Waits other) Waits.refl Waits.trans
        (fun host envelope => envelope_waits transport host envelope other) host polled
  | tickAndSendSnapshots order hostOrder nowMs =>
      exact tick_waits transport order hostOrder nowMs host other
  | drainEvents => exact .of_same rfl rfl rfl
  | buildSnapshotFor =>
      refine .of_same rfl ?_ rfl
      exact (taken_append other rfl).trans (List.append_nil _)
  | changeRuntime runtime => exact .of_same rfl rfl rfl

theorem run_waits (transport : Transport) (host : ServerNetworkHost) (calls : List HostCall)
    (other : ClientId) : Waits other host (Runs.run (hostStep transport) host calls) :=
  Runs.run_relates (hostStep transport) (Waits other) Waits.refl Waits.trans
    (fun host call => step_waits transport host call other) host calls

/-! The turn within its tick. -/

/-- The clients before the first place of a client, and those behind it. -/
theorem split_clients {clients : List ClientId} {clientId : ClientId} (member : clientId ∈ clients) :
    ∃ behind, clients = clients.takeWhile (· ≠ clientId) ++ clientId :: behind := by
  induction clients with
  | nil => cases member
  | cons head rest ih =>
      by_cases same : head = clientId
      · exact ⟨rest, by simp [same]⟩
      · obtain ⟨behind, split⟩ := ih ((List.mem_cons.mp member).resolve_left (Ne.symm same))
        refine ⟨behind, ?_⟩
        rw [List.takeWhile_cons_of_pos (by simpa using same), List.cons_append, ← split]

/-- The loop of a tick passes through the client's turn. -/
theorem loop_through_turn (transport : Transport) (order : LoopOrder) (hostOrder : HostOrder)
    (nowMs : TimestampMs) {host : ServerNetworkHost} {clientId : ClientId}
    (member : clientId ∈ host.clients) :
    ∃ behind, host.clients = host.clients.takeWhile (· ≠ clientId) ++ clientId :: behind ∧
      host.clients.foldl (snapshotTurn transport order hostOrder nowMs) (ticked order host) =
        behind.foldl (snapshotTurn transport order hostOrder nowMs)
          ((atTurn transport order hostOrder nowMs host clientId).snapshotTurn transport order
            hostOrder nowMs clientId) := by
  obtain ⟨behind, split⟩ := split_clients member
  refine ⟨behind, split, ?_⟩
  conv_lhs => rw [split]
  rw [List.foldl_append, List.foldl_cons]
  rfl

theorem at_turn_waits (transport : Transport) (order : LoopOrder) (hostOrder : HostOrder)
    (nowMs : TimestampMs) (host : ServerNetworkHost) (clientId : ClientId) :
    Waits clientId host (atTurn transport order hostOrder nowMs host clientId) :=
  Waits.trans (.of_same rfl rfl rfl : Waits clientId host (ticked order host))
    (turns_wait transport order hostOrder nowMs _ _ clientId)

theorem at_turn_takes (transport : Transport) (order : LoopOrder) (hostOrder : HostOrder)
    (nowMs : TimestampMs) (host : ServerNetworkHost) (clientId : ClientId) :
    taken (atTurn transport order hostOrder nowMs host clientId) clientId =
      taken host clientId := by
  have absent : clientId ∉ host.clients.takeWhile (· ≠ clientId) := by
    intro member
    have apart := List.all_eq_true.mp List.all_takeWhile clientId member
    simp at apart
  exact turns_of_others transport order hostOrder nowMs _ (ticked order host) clientId absent

def Ticks : HostCall → Bool
  | .tickAndSendSnapshots _ _ _ => true
  | _ => false

/-- Only a tick sends snapshots. -/
theorem call_takes (transport : Transport) (host : ServerNetworkHost) (call : HostCall)
    (noTick : Ticks call = false) (clientId : ClientId) :
    taken (hostStep transport host call) clientId = taken host clientId := by
  cases call with
  | connectSimulationOnlyClient joining nowMs => rfl
  | pumpClientMessages polled =>
      obtain ⟨added, recorded, quiet⟩ := pump_no_snapshot transport polled host
      have grown := taken_append clientId recorded
      rwa [quiet_accepted quiet, List.append_nil] at grown
  | tickAndSendSnapshots order hostOrder nowMs => cases noTick
  | drainEvents => rfl
  | buildSnapshotFor => exact (taken_append clientId rfl).trans (List.append_nil _)
  | changeRuntime runtime => rfl

/-! A refused snapshot and what follows it. -/

/-- The tick comes to the client's turn, and a snapshot is handed to the transport. -/
structure Attempts (transport : Transport) (order : LoopOrder) (hostOrder : HostOrder)
    (nowMs : TimestampMs) (host : ServerNetworkHost) (clientId : ClientId) : Prop where
  enrolled : clientId ∈ host.clients
  due : (atTurn transport order hostOrder nowMs host clientId).shouldSendSnapshot clientId nowMs =
    true
  handed : ∃ baseline accepted rest,
    (host.tickAndSendSnapshots transport order hostOrder nowMs).trace =
      (atTurn transport order hostOrder nowMs host clientId).trace ++
        (handedTrace (atTurn transport order hostOrder nowMs host clientId) clientId
          ((atTurn transport order hostOrder nowMs host clientId).plannedSnapshot order
            clientId).snapshot baseline accepted ++ rest)

/-- The interest frame that the planned snapshot of the client brings with it. -/
def plannedFrame (order : LoopOrder) (hostOrder : HostOrder) (host : ServerNetworkHost)
    (clientId : ClientId) : InterestFrame :=
  ((interestFor host clientId).update hostOrder (.exitedEntities clientId)
    (host.plannedSnapshot order clientId).snapshot).2

/-- What the missed frame has of changes that the snapshot does not undo is told to
the client. -/
def Reports (clientId : ClientId) (missed : InterestFrame) (snapshot : SnapshotDTO)
    (before after : ServerNetworkHost) : Prop :=
  ∃ told, interestOf clientId after.trace = interestOf clientId before.trace ++ told ∧
    (∀ entityId ∈ missed.entered, entityId ∈ snapshotIds snapshot → (entityId, true) ∈ told) ∧
    ∀ entityId ∈ missed.exited, entityId ∉ snapshotIds snapshot → (entityId, false) ∈ told

/-- No snapshot was sent to the client in between. -/
def Unsent (clientId : ClientId) (earlier later : ServerNetworkHost) : Prop :=
  taken later clientId = taken earlier clientId

theorem should_send_plans (host : ServerNetworkHost) (clientId : ClientId) (nowMs : TimestampMs) :
    host.shouldSendSnapshot clientId nowMs =
      (plansFor host clientId).all fun plans => decide (plans.1 ≤ nowMs) := by
  unfold shouldSendSnapshot plansFor coreFor
  rw [Option.map_map, Option.all_map]
  rfl

theorem interest_plans (host : ServerNetworkHost) (clientId : ClientId) :
    interestFor host clientId = ((plansFor host clientId).map Prod.snd).getD {} := by
  unfold interestFor plansFor coreFor
  rw [Option.map_map, Option.map_map]
  rfl

section Refusals

variable (transport : Transport) (order : LoopOrder) (hostOrder : HostOrder) (nowMs : TimestampMs)
variable {host : ServerNetworkHost} {clientId : ClientId}

/-- What a due client's turn leaves in the record of its tick. -/
theorem due_attempts (enrolled : clientId ∈ host.clients)
    (due : (atTurn transport order hostOrder nowMs host clientId).shouldSendSnapshot clientId nowMs =
      true) : Attempts transport order hostOrder nowMs host clientId := by
  refine ⟨enrolled, due, ?_⟩
  obtain ⟨behind, _, loop⟩ := loop_through_turn transport order hostOrder nowMs enrolled
  obtain ⟨_, _, ending, ended⟩ := tick_ends_waiting transport order hostOrder nowMs host clientId
  rw [loop] at ended
  have turned := snapshot_turn transport order hostOrder nowMs
    (atTurn transport order hostOrder nowMs host clientId) clientId
  generalize (atTurn transport order hostOrder nowMs host clientId).snapshotTurn transport order
    hostOrder nowMs clientId = after at turned ended
  obtain ⟨others, followed, _⟩ := turns_hand transport order hostOrder nowMs
    (fun _ _ => True) behind after fun _ _ _ _ => trivial
  rw [followed] at ended
  cases turned with
  | skipped notDue => exact absurd (due.symm.trans notDue) (by decide)
  | refused _ answer =>
      rw [handed_over_trace] at ended
      simp only [List.append_assoc] at ended
      exact ⟨_, false, others ++ ending, ended⟩
  | sent _ answer missed followed follows =>
      obtain ⟨_, ⟨sent, recorded, _⟩, _⟩ := follows_only hostOrder follows
      rw [handed_over_trace] at recorded
      have trace := ended.trans (congrArg (fun trace => trace ++ others ++ ending) recorded)
      simp only [List.append_assoc] at trace
      exact ⟨_, true, sent ++ (others ++ ending), trace⟩

/-- A snapshot that is taken tells of what a refused one would have told. -/
theorem sent_reports (start next : ServerNetworkHost)
    (due : next.shouldSendSnapshot clientId nowMs = true)
    (sent : (next.sendSnapshot transport order hostOrder nowMs clientId).2 = true)
    (plans : TimestampMs × InterestTracker) (has : plansFor start clientId = some plans)
    (later : plansFor next clientId = some plans)
    (startOrder : LoopOrder) (startHostOrder : HostOrder) :
    Reports clientId (plannedFrame startOrder startHostOrder start clientId)
      (next.plannedSnapshot order clientId).snapshot next
      (next.snapshotTurn transport order hostOrder nowMs clientId) := by
  rw [send_snapshot_answer] at sent
  have turned := snapshot_turn transport order hostOrder nowMs next clientId
  generalize next.snapshotTurn transport order hostOrder nowMs clientId = after at turned ⊢
  cases turned with
  | skipped notDue => exact absurd (due.symm.trans notDue) (by decide)
  | refused _ answer => exact absurd (sent.symm.trans answer) (by decide)
  | sent _ answer missed followed follows =>
      cases follows with
      | unknown absent =>
          have noState : next.clientStateById[clientId]? = none := absent
          unfold plansFor coreFor at later
          rw [noState] at later
          cases later
      | followed state tracker frame told _ isState updated only quiet tells =>
          -- The tracker is the one that the refused snapshot was planned with.
          have same : interestFor start clientId = state.interest := by
            have isNext : interestFor next clientId = state.interest := by
              unfold interestFor
              rw [show next.clientStateById[clientId]? = some state from isState]
              rfl
            rw [← isNext, interest_plans, interest_plans, has, later]
          have isFrame : (state.interest.update hostOrder (.exitedEntities clientId)
              (next.plannedSnapshot order clientId).snapshot).2 = frame := by rw [updated]
          have recorded := only.trace.trans
            (congrArg (· ++ told) (handed_over_trace next clientId _ _ true))
          refine ⟨frameChanges frame, ?_, ?_, ?_⟩
          · refine (congrArg (interestOf clientId) recorded).trans ?_
            rw [interest_of_append, interest_of_append, handed_interest, tells, if_pos rfl,
              List.append_nil]
          · intro entityId entered listed
            have unknown := ((mem_entered _ _ _ _ entityId).mp entered).2
            rw [same] at unknown
            have isEntered : entityId ∈ frame.entered := by
              rw [← isFrame]
              exact (mem_entered _ _ _ _ entityId).mpr ⟨listed, unknown⟩
            exact List.mem_append_left _ (List.mem_map_of_mem isEntered)
          · intro entityId exited unlisted
            have known := ((mem_exited _ _ _ _ entityId).mp exited).1
            rw [same] at known
            have isExited : entityId ∈ frame.exited := by
              rw [← isFrame, mem_exited]
              refine ⟨known, Bool.eq_false_iff.mpr ?_⟩
              rw [ne_eq, update_knows]
              exact unlisted
            exact List.mem_append_right _ (List.mem_map_of_mem isExited)

/-- Nothing is taken for the client between a refusal and its turn in the next tick. -/
theorem refused_unsent (tidy : Tidy host)
    (refused : Refused transport order hostOrder nowMs host clientId) (between : List HostCall)
    (noTicks : ∀ call ∈ between, Ticks call = false) (later : LoopOrder) (laterHost : HostOrder)
    (laterMs : TimestampMs) :
    Unsent clientId (atTurn transport order hostOrder nowMs host clientId)
      (atTurn transport later laterHost laterMs
        (Runs.run (hostStep transport)
          (host.tickAndSendSnapshots transport order hostOrder nowMs) between) clientId) := by
  obtain ⟨enrolled, due, isRefused⟩ := refused
  obtain ⟨behind, split, loop⟩ := loop_through_turn transport order hostOrder nowMs enrolled
  obtain ⟨planned, baseline, recorded⟩ :=
    (refused_turn transport order hostOrder nowMs _ clientId due isRefused).trace
  obtain ⟨_, ended, _⟩ := tick_ends_waiting transport order hostOrder nowMs host clientId
  -- The client has one turn, so the others' turns take nothing for it.
  have distinct := tidy.distinct
  rw [split] at distinct
  have absent : clientId ∉ behind :=
    (List.nodup_cons.mp (List.nodup_append.mp distinct).2.1).1
  have others := turns_of_others transport order hostOrder nowMs behind
    ((atTurn transport order hostOrder nowMs host clientId).snapshotTurn transport order hostOrder
      nowMs clientId) clientId absent
  have turn := taken_append clientId recorded
  rw [handed_refused, List.append_nil] at turn
  rw [loop, others, turn] at ended
  have kept := Runs.run_invariant_of_mem (hostStep transport)
    (fun later => taken later clientId =
      taken (atTurn transport order hostOrder nowMs host clientId) clientId) between
    (fun call member later same =>
      (call_takes transport later call (noTicks call member) clientId).trans same)
    (host.tickAndSendSnapshots transport order hostOrder nowMs) ended
  exact (at_turn_takes transport later laterHost laterMs _ clientId).trans kept

/-- From the client's turn to its turn in a later tick, only a snapshot that is sent
to it moves its schedule and its interest. -/
theorem turn_to_turn (enrolled : clientId ∈ host.clients) (between : List HostCall)
    (later : LoopOrder) (laterHost : HostOrder) (laterMs : TimestampMs) :
    Waits clientId (atTurn transport order hostOrder nowMs host clientId)
      (atTurn transport later laterHost laterMs
        (Runs.run (hostStep transport)
          (host.tickAndSendSnapshots transport order hostOrder nowMs) between) clientId) := by
  obtain ⟨behind, _, loop⟩ := loop_through_turn transport order hostOrder nowMs enrolled
  obtain ⟨ends, _⟩ := tick_ends_waiting transport order hostOrder nowMs host clientId
  rw [loop] at ends
  have turn := turn_waits transport order hostOrder nowMs
    (atTurn transport order hostOrder nowMs host clientId) clientId clientId
  have others := turns_wait transport order hostOrder nowMs behind
    ((atTurn transport order hostOrder nowMs host clientId).snapshotTurn transport order hostOrder
      nowMs clientId) clientId
  have calls := run_waits transport (host.tickAndSendSnapshots transport order hostOrder nowMs)
    between clientId
  exact (((turn.trans others).trans ends).trans calls).trans
    (at_turn_waits transport later laterHost laterMs _ clientId)

/-- A client that is listed has a schedule and an interest at its turn. -/
theorem enrolled_plans (tidy : Tidy host) (enrolled : clientId ∈ host.clients) :
    ∃ plans, plansFor (atTurn transport order hostOrder nowMs host clientId) clientId =
      some plans := by
  have account := (tidy.enrolled clientId).mp enrolled
  obtain ⟨state, isState⟩ := Option.isSome_iff_exists.mp account
  obtain ⟨state, has, _⟩ := Option.map_eq_some_iff.mp isState
  have plans : plansFor host clientId =
      some (state.nextSnapshotSendAtMs, state.interest) := by
    unfold plansFor coreFor
    rw [has]
    rfl
  have waits := at_turn_waits transport order hostOrder nowMs host clientId
  exact ⟨_, waits.waits (at_turn_takes transport order hostOrder nowMs host clientId) _ plans⟩

end Refusals

/-- A refused snapshot leaves what replication goes by as it was. The client's turn
in the next tick, if its time is no smaller, attempts a snapshot again, and the
first that is taken tells of every change that the refused one would have told of
and that it does not undo. -/
theorem refused_snapshot_traceless (transport : Transport) (config : ServerNetworkHostConfig)
    (calls : List HostCall) (order : LoopOrder) (hostOrder : HostOrder) (nowMs : TimestampMs)
    (clientId : ClientId)
    (refused : Refused transport order hostOrder nowMs (hostRun transport config calls) clientId) :
    let host := hostRun transport config calls
    let start := atTurn transport order hostOrder nowMs host clientId
    Traceless clientId start (start.snapshotTurn transport order hostOrder nowMs clientId) ∧
    ∀ between laterOrder laterHostOrder laterMs,
      let later := Runs.run (hostStep transport)
        (host.tickAndSendSnapshots transport order hostOrder nowMs) between
      let next := atTurn transport laterOrder laterHostOrder laterMs later clientId
      ((∀ call ∈ between, Ticks call = false) → Unsent clientId start next) ∧
      (Unsent clientId start next → nowMs ≤ laterMs →
        Attempts transport laterOrder laterHostOrder laterMs later clientId) ∧
      (Unsent clientId start next → next.shouldSendSnapshot clientId laterMs = true →
        (next.sendSnapshot transport laterOrder laterHostOrder laterMs clientId).2 = true →
        Reports clientId (plannedFrame order hostOrder start clientId)
          (next.plannedSnapshot laterOrder clientId).snapshot next
          (next.snapshotTurn transport laterOrder laterHostOrder laterMs clientId)) := by
  intro host start
  have tidy := (host_run_progress transport config calls).tidy
  obtain ⟨enrolled, due, isRefused⟩ := refused
  obtain ⟨plans, has⟩ := enrolled_plans transport order hostOrder nowMs tidy enrolled
  refine ⟨refused_turn transport order hostOrder nowMs start clientId due isRefused, ?_⟩
  intro between laterOrder laterHostOrder laterMs later next
  have waits : Waits clientId start next :=
    turn_to_turn transport order hostOrder nowMs enrolled between laterOrder laterHostOrder laterMs
  refine ⟨?_, ?_, ?_⟩
  · intro noTicks
    exact refused_unsent transport order hostOrder nowMs tidy ⟨enrolled, due, isRefused⟩ between
      noTicks laterOrder laterHostOrder laterMs
  · intro unsent noSmaller
    have stays := (tick_waits transport order hostOrder nowMs host clientId).trans
      (run_waits transport _ between clientId)
    apply due_attempts transport laterOrder laterHostOrder laterMs (stays.enrolled enrolled)
    rw [should_send_plans, has, Option.all_some, decide_eq_true_iff] at due
    rw [should_send_plans, waits.waits unsent plans has, Option.all_some, decide_eq_true_iff]
    exact UInt64.le_trans due noSmaller
  · intro unsent laterDue sent
    exact sent_reports transport laterOrder laterHostOrder laterMs start next laterDue sent plans
      has (waits.waits unsent plans has) order hostOrder

/-- A transport that refuses what it is handed first. -/
def refusesFirst : Transport := fun trace _ =>
  trace.any fun happening => match happening with
    | .handed _ _ _ => true
    | _ => false

/-- A client whose first snapshot is refused gets the next attempt a tick later. -/
theorem first_snapshot_attempted_again :
    Attempts refusesFirst .stored .stored 32
      ((hostRun refusesFirst {} [joinCall 1]).tickAndSendSnapshots refusesFirst .stored .stored 16)
      1 := by
  have refused : Refused refusesFirst .stored .stored 16 (hostRun refusesFirst {} [joinCall 1]) 1 := by
    unfold Refused
    decide +kernel
  obtain ⟨unsent, attempted, _⟩ := (refused_snapshot_traceless refusesFirst {} [joinCall 1] .stored
    .stored 16 1 refused).2 [] .stored .stored 32
  exact attempted (unsent (by simp)) (by decide)

end Brawololo.RefusedSnapshots
