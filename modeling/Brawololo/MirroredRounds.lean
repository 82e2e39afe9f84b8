import Brawololo.RankedPlans
import Brawololo.SettledRounds
import Brawololo.SnapshotOverwrite

/-!
What a round leaves in the simulation of the client: the entities of the last
snapshot, as the simulation of the server has them. The snapshot shows the rows
of the server, the hub brings it as it was planned, and when nothing is pending
no replay follows its application.
-/

namespace Brawololo.MirroredRounds

open GameTypes EntityStore NetworkProtocol Simulation SimulationStages SimulationSnapshots
open EntityIdentity AreaOfInterest LocalIdentity SnapshotOverwrite RankedPlans Client Server
open HostSimulation HostTurns LoopbackHub HubTransports NetworkedGames ClientBooks ApplicationBooks
open SessionExchanges ServerBooks GameBooks GameDelivery GameInputs SettledRounds

/-! A row of the client beside that of the server. -/

def ownerOf (row : Components) : ClientId :=
  (row.ownedBy.map fun owner => owner.clientId).getD 0

/-- The client has the row as the server has it. The times of a warmup's start and
of a projectile's life are no part of a snapshot. -/
structure Mirrors (server client : Components) : Prop where
  identity : client.identity = server.identity
  movement : movementState client = movementState server
  owner : ownerOf client = ownerOf server
  player : ∀ player, server.player = some player → client.player = some player
  weapon : server.player.isSome → ∀ weapon, server.weapon = some weapon →
    ∃ held, client.weapon = some held ∧ held.type = weapon.type ∧
      held.warming = weapon.warming ∧ held.warmupCompletesAtMs = weapon.warmupCompletesAtMs
  projectile : server.player = none → ∀ projectile, server.projectile = some projectile →
    ∃ held, client.projectile = some held ∧ held.ownerId = projectile.ownerId ∧
      held.sourceWeapon = projectile.sourceWeapon

/-- A state that shows a row, written over any row, mirrors it. -/
theorem written_mirrors (config : SimulationConfig) (serverTimeMs : TimestampMs)
    (clientId : ClientId) {state : EntityStateDTO} {server row : Components}
    (shows : Shows server state) (named : row.identity = some { id := state.movement.entityId })
    (owned : ∀ player, server.player = some player →
      server.ownedBy = some { clientId := player.clientId }) :
    Mirrors server (writeState config serverTimeMs clientId state row) := by
  obtain ⟨identity, transform, velocity, aim, owner⟩ :=
    write_state_placed config serverTimeMs clientId state row
  have isOwner : state.replication.ownerClientId = ownerOf server := shows.owner
  constructor
  case identity => rw [identity, named, shows.identity]
  case movement =>
    unfold movementState
    rw [identity, named, transform, velocity, aim, shows.identity, shows.transform, shows.velocity,
      shows.aim]
    rfl
  case owner =>
    unfold ownerOf at isOwner ⊢
    rw [owner, ← isOwner]
    rfl
  case player =>
    intro player isPlayer
    obtain ⟨isKind, combat, isCombat, showsCombat⟩ := shows.player player isPlayer
    have isClient : state.replication.ownerClientId = player.clientId := by
      rw [isOwner]
      unfold ownerOf
      rw [owned player isPlayer]
      rfl
    unfold writeState applyPlayerState
    rw [isKind, isCombat]
    dsimp only
    rw [isClient, showsCombat.health, showsCombat.maxHealth, showsCombat.defeated,
      showsCombat.respawnAtMs]
  case weapon =>
    intro hasPlayer weapon isWeapon
    obtain ⟨player, isPlayer⟩ := Option.isSome_iff_exists.mp hasPlayer
    obtain ⟨isKind, combat, isCombat, showsCombat⟩ := shows.player player isPlayer
    obtain ⟨isType, isWarming, completes⟩ := showsCombat.weapon weapon isWeapon
    unfold writeState applyPlayerState
    rw [isKind, isCombat]
    exact ⟨_, rfl, isType, isWarming, completes⟩
  case projectile =>
    intro noPlayer projectile isProjectile
    obtain ⟨isKind, isCombat⟩ := shows.projectile projectile noPlayer isProjectile
    unfold writeState applyProjectileState
    rw [isKind, isCombat]
    exact ⟨_, rfl, rfl, rfl⟩

/-! The server. -/

/-- A planned snapshot shows rows of the simulation. -/
theorem planned_shows (order : LoopOrder) {host : ServerNetworkHost}
    (bodied : Bodied host.runtime.simulation) {clientId : ClientId} {state : EntityStateDTO}
    (member : state ∈ (host.plannedSnapshot order clientId).snapshot.entities) :
    ∃ entity row, host.runtime.simulation.registry.get? entity = some row ∧ Shows row state := by
  have built := (plan_subperm _ _ _).subset member
  obtain ⟨listed, _, _, shows⟩ := build_snapshot_lists order host.runtime.simulation bodied clientId
    host.runtime.nextSnapshotId
    (host.baselineCache.decide clientId (host.requestedBaselineId clientId)).effectiveBaselineId
  obtain ⟨entity, _, row, present, shown⟩ := forall_right shows built
  exact ⟨entity, row, present, shown⟩

theorem planned_movement_distinct (order : LoopOrder) {host : ServerNetworkHost}
    (unwrapped : allocations host.runtime.simulation < 2 ^ 32 - 1)
    (identified : Identified host.runtime.simulation) (clientId : ClientId) :
    ((host.plannedSnapshot order clientId).snapshot.entities.map fun state =>
      state.movement.entityId).Nodup := by
  have distinct := planned_distinct order host clientId unwrapped identified
  unfold snapshotIds at distinct
  rw [List.map_congr_left fun state member => ?_] at distinct
  · exact distinct
  · obtain ⟨_, _, _, shown⟩ := planned_shows order (identified_bodied identified) member
    exact shown.replicated

/-- The player of a row is that of its owner. -/
theorem player_owned {sim : GameSimulation} (identified : Identified sim)
    (room : sim.registry.created < 2 ^ 32 - 1) {entity : Entity} {row : Components}
    (present : sim.registry.get? entity = some row) {player : PlayerComponent}
    (isPlayer : row.player = some player) :
    row.ownedBy = some { clientId := player.clientId } := by
  have entered := identified.entered entity row player present isPlayer
  obtain ⟨other, otherRow, _, sameId, found, _, _, owned⟩ :=
    identified.placed player.clientId (idOf entity) entered
  have same : entity = other :=
    id_of_injective (Nat.lt_trans (Registry.get?_lt _ present) room)
      (Nat.lt_trans (Registry.get?_lt _ found) room) sameId
  rw [← same, present] at found
  cases found
  exact owned

/-- The player of the observer is among what its planned snapshot shows. -/
theorem own_player_shown (order : LoopOrder) {host : ServerNetworkHost}
    (identified : Identified host.runtime.simulation)
    (unwrapped : allocations host.runtime.simulation < 2 ^ 32 - 1)
    (lists : ListsOwn host.config.replication) {clientId : ClientId} (addressed : clientId ≠ 0)
    {id : NetworkEntityId} (entry : host.runtime.simulation.playerByClient[clientId]? = some id) :
    ∃ state ∈ (host.plannedSnapshot order clientId).snapshot.entities,
      state.movement.entityId = id := by
  generalize isPlanned : host.plannedSnapshot order clientId = planned
  unfold ServerNetworkHost.plannedSnapshot at isPlanned
  dsimp only at isPlanned
  generalize (host.baselineCache.decide clientId (host.requestedBaselineId clientId)) = decision
    at isPlanned
  obtain ⟨earlier, own, later, isId, once⟩ := server_sends_once order identified unwrapped
    addressed entry host.runtime.nextSnapshotId decision.effectiveBaselineId
  have distinct := build_snapshot_distinct order unwrapped identified clientId
    host.runtime.nextSnapshotId decision.effectiveBaselineId
  obtain ⟨listed, _, _, shows⟩ := build_snapshot_lists order host.runtime.simulation
    (identified_bodied identified) clientId host.runtime.nextSnapshotId
    decision.effectiveBaselineId
  have member : own ∈ earlier ++ own :: later := by simp
  rw [← once.split] at member
  refine ⟨own, ?_, isId⟩
  rw [← isPlanned]
  refine own_kept lists distinct member ((own_iff _ _).mp once.isOwn).1 ?_
  intro other isOther isOwner
  obtain ⟨_, _, row, present, shown⟩ := forall_right shows isOther
  have isOwn := (shown_own_iff identified addressed present shown).mpr
    (shown_owner addressed shown isOwner)
  rw [once.split] at isOther
  rcases List.mem_append.mp isOther with before | here
  · rw [once.before other before] at isOwn
    cases isOwn
  · rcases List.mem_cons.mp here with same | after
    · exact same
    · rw [once.after other after] at isOwn
      cases isOwn

theorem host_run_identified (transport : Transport) (config : ServerNetworkHostConfig)
    {calls : List HostCall} (own : ∀ call ∈ calls, OwnCall call) :
    WhileUnwrapped (hostRun transport config calls).runtime.simulation := by
  refine Runs.run_invariant_of_mem (hostStep transport)
    (fun host => WhileUnwrapped host.runtime.simulation) calls ?_ _ ?_
  · exact fun call member host kept =>
      host_step_identified transport host call (own call member) kept
  · exact fun _ => identified_start _ rfl

/-! The client. -/

/-- The runtime of a client is in a run of its own. -/
def InRun (clientId : ClientId) (runtime : ClientRuntime) : Prop :=
  ∃ calls, runtime = clientRun clientId {} calls

theorem in_run_calls {clientId : ClientId} {runtime : ClientRuntime}
    (inRun : InRun clientId runtime) (calls : List ClientCall) :
    InRun clientId (Runs.run clientStep runtime calls) := by
  obtain ⟨earlier, rfl⟩ := inRun
  exact ⟨earlier ++ calls, (Runs.run_append clientStep _ earlier calls).symm⟩

/-- The calls of a pump after its last snapshot are samples of the clock. -/
theorem pump_calls_samples {calls : List ClientCall} (pumped : PumpCalls calls []) :
    ∃ samples : List TimeSyncSample, calls = samples.map .recordTimeSyncSample := by
  generalize isNone : ([] : List SnapshotDTO) = snapshots at pumped
  induction pumped with
  | nil => exact ⟨[], rfl⟩
  | applied order snapshot rest ih => cases isNone
  | sampled sample rest ih =>
      obtain ⟨samples, isSamples⟩ := ih isNone
      exact ⟨sample :: samples, congrArg _ isSamples⟩

theorem pump_calls_last {calls : List ClientCall} {snapshots : List SnapshotDTO}
    (pumped : PumpCalls calls snapshots) {earlier : List SnapshotDTO} {last : SnapshotDTO}
    (split : snapshots = earlier ++ [last]) :
    ∃ (before : List ClientCall) (order : LoopOrder) (samples : List TimeSyncSample),
      calls = before ++ .applyServerSnapshot order last :: samples.map .recordTimeSyncSample := by
  induction pumped generalizing earlier with
  | nil => cases earlier <;> cases split
  | @applied calls snapshots order snapshot rest ih =>
      cases earlier with
      | nil =>
          obtain ⟨isLast, none⟩ := List.cons.inj split
          subst isLast none
          obtain ⟨samples, isSamples⟩ := pump_calls_samples rest
          exact ⟨[], order, samples, congrArg _ isSamples⟩
      | cons first between =>
          obtain ⟨_, others⟩ := List.cons.inj split
          obtain ⟨before, lastOrder, samples, isCalls⟩ := ih others
          exact ⟨.applyServerSnapshot order snapshot :: before, lastOrder, samples,
            congrArg _ isCalls⟩
  | sampled sample rest ih =>
      obtain ⟨before, order, samples, isCalls⟩ := ih split
      exact ⟨.recordTimeSyncSample sample :: before, order, samples, congrArg _ isCalls⟩

theorem samples_keep (runtime : ClientRuntime) (samples : List TimeSyncSample) :
    (Runs.run clientStep runtime (samples.map .recordTimeSyncSample)).simulation =
        runtime.simulation ∧
      (Runs.run clientStep runtime (samples.map .recordTimeSyncSample)).pendingInputs =
        runtime.pendingInputs := by
  induction samples generalizing runtime with
  | nil => exact ⟨rfl, rfl⟩
  | cons sample rest ih => exact ih (runtime.recordTimeSyncSample sample)

/-- When nothing is pending, the states of a snapshot stand as they are written. -/
theorem snapshot_held {clientId : ClientId} {runtime : ClientRuntime}
    (inRun : InRun clientId runtime) (order : LoopOrder) {snapshot : SnapshotDTO}
    (distinct : (snapshot.entities.map fun state => state.movement.entityId).Nodup)
    (nothingPending :
      (runtime.applyServerSnapshot order snapshot).pendingInputs.unackedInputs = [])
    {state : EntityStateDTO} (member : state ∈ snapshot.entities) :
    ∃ row : Components, row.identity = some { id := state.movement.entityId } ∧
      heldRow (runtime.applyServerSnapshot order snapshot).simulation state.movement.entityId =
        some (writeState runtime.simulation.config snapshot.serverTimeMs clientId state row) := by
  obtain ⟨calls, isRun⟩ := inRun
  have tabled := client_run_tabled clientId {} calls
  have sameClient := (ClientTables.client_run_keeps clientId {} calls).1
  rw [← isRun] at tabled sameClient
  obtain ⟨written, final, ids, applied, isFinal⟩ :=
    apply_snapshot_applied order clientId tabled.named snapshot distinct
  obtain ⟨row, _, named, held⟩ := sent_written applied member
  refine ⟨row, named, ?_⟩
  have isSimulation : (runtime.applyServerSnapshot order snapshot).simulation =
      final.queueEvent (appliedEvent snapshot) := by
    change replayLocalInputsForPrediction (applySnapshot order runtime.simulation snapshot
      runtime.localClientId) (runtime.applyServerSnapshot order
        snapshot).pendingInputs.unackedInputs = _
    rw [nothingPending, sameClient, isFinal]
    rfl
  rw [isSimulation]
  exact held

/-! The calls of a game. -/

section Game

variable {config : ServerNetworkHostConfig} {game : NetworkedGame} {clientId : ClientId}

/-- A tick of a client: what its runtime is called with, and what it applies. -/
theorem client_tick_applied (book : GameBook config game) (clientId : ClientId)
    (order : LoopOrder) (choice : PumpChoice) (nowMs : TimestampMs) :
    ∃ calls applied, PumpCalls calls applied ∧
      ((game.callClient clientId (.tickFixed order choice nowMs)).clients clientId).runtime =
        Runs.run clientStep ((game.clients clientId).runtime.tickSimulation order) calls ∧
      snapshotsApplied (game.callClient clientId (.tickFixed order choice nowMs)) clientId =
        snapshotsApplied game clientId ++ applied := by
  obtain ⟨session, runtime, isTicked, _, link, _, exchanges⟩ :=
    tick_call_conversed (book.clients clientId) order choice nowMs
  obtain ⟨_, added, noted⟩ := exchanges_noted exchanges
  obtain ⟨calls, pumped, ran⟩ := noted.runtime
  have isClient : (game.callClient clientId (.tickFixed order choice nowMs)).clients clientId =
      { game.clients clientId with
        runtime := runtime
        session := some session
        fixedTick := (game.clients clientId).fixedTick + 1 } :=
    (Function.update_self _ _ _).trans isTicked
  refine ⟨calls, added.filterMap appliedIn, pumped, ?_, ?_⟩
  · rw [isClient]
    exact ran
  · unfold snapshotsApplied traceOf
    rw [isClient]
    have trace : session.trace = (lent game.record (game.clients clientId)).trace ++ added :=
      noted.trace
    change session.trace.filterMap appliedIn = _
    rw [trace, List.filterMap_append]
    rfl

/-- The calls apply no other snapshots than these. -/
def AppliesOnly (calls : List ClientCall) (applied : List SnapshotDTO) : Prop :=
  ∀ order snapshot, .applyServerSnapshot order snapshot ∈ calls → snapshot ∈ applied

theorem pump_calls_apply {calls : List ClientCall} {snapshots : List SnapshotDTO}
    (pumped : PumpCalls calls snapshots) : AppliesOnly calls snapshots := by
  induction pumped with
  | nil =>
      intro order snapshot member
      cases member
  | applied order snapshot rest ih =>
      intro other found member
      rcases List.mem_cons.mp member with same | later
      · cases same
        exact List.mem_cons_self
      · exact List.mem_cons_of_mem _ (ih other found later)
  | sampled sample rest ih =>
      intro other found member
      rcases List.mem_cons.mp member with same | later
      · cases same
      · exact ih other found later

/-- What a call of a client calls its runtime with, and what it applies. -/
theorem client_call_runs (book : GameBook config game) (clientId : ClientId)
    (call : ApplicationCall PumpChoice) :
    ∃ calls applied, ((game.callClient clientId call).clients clientId).runtime =
        Runs.run clientStep (game.clients clientId).runtime calls ∧
      snapshotsApplied (game.callClient clientId call) clientId =
        snapshotsApplied game clientId ++ applied ∧
      AppliesOnly calls applied := by
  have client := book.clients clientId
  obtain ⟨added, grown⟩ :=
    (call_book client (applied_acks_fit book clientId) book.routed call).grown
  have grows : snapshotsApplied (game.callClient clientId call) clientId =
      snapshotsApplied game clientId ++ added.filterMap appliedIn := by
    unfold snapshotsApplied traceOf NetworkedGame.callClient
    dsimp only
    rw [Function.update_self, ← grown, List.filterMap_append]
  cases call with
  | tickFixed order choice nowMs =>
      obtain ⟨calls, applied, pumped, ran, isApplied⟩ :=
        client_tick_applied book clientId order choice nowMs
      refine ⟨.tickSimulation order :: calls, applied, ran, isApplied, ?_⟩
      intro other snapshot member
      rcases List.mem_cons.mp member with same | later
      · cases same
      · exact pump_calls_apply pumped other snapshot later
  | connect nowMs =>
      refine ⟨[.connectLocal nowMs], _, ?_, grows, by simp [AppliesOnly]⟩
      unfold NetworkedGame.callClient
      dsimp only
      rw [Function.update_self, at_hub client]
      rfl
  | submitInput input nowMs =>
      refine ⟨[.queueInput input nowMs], _, ?_, grows, by simp [AppliesOnly]⟩
      unfold NetworkedGame.callClient
      dsimp only
      rw [Function.update_self]
      rfl
  | drainEvents =>
      refine ⟨[.drainEvents], _, ?_, grows, by simp [AppliesOnly]⟩
      unfold NetworkedGame.callClient
      dsimp only
      rw [Function.update_self, at_hub client]
      rfl

theorem call_client_in_run (book : GameBook config game) (inRun :
    InRun clientId (game.clients clientId).runtime) (call : ApplicationCall PumpChoice) :
    InRun clientId ((game.callClient clientId call).clients clientId).runtime := by
  obtain ⟨calls, _, ran, _⟩ := client_call_runs book clientId call
  rw [ran]
  exact in_run_calls inRun calls

/-- In a game the runtime of every client is in a run of its own. -/
theorem game_in_run (config : ServerNetworkHostConfig) (calls : List GameCall)
    (clientId : ClientId) : InRun clientId ((gameRun config calls).clients clientId).runtime := by
  have kept : GameBook config (gameRun config calls) ∧
      InRun clientId ((gameRun config calls).clients clientId).runtime := by
    refine Runs.run_invariant gameStep (fun game => GameBook config game ∧
      InRun clientId (game.clients clientId).runtime) ?_ _ ?_ calls
    · rintro game call ⟨book, inRun⟩
      refine ⟨game_step_book game call book, ?_⟩
      cases call with
      | client other call =>
          by_cases same : other = clientId
          · subst same
            exact call_client_in_run book inRun call
          · have untouched : (gameStep game (.client other call)).clients clientId =
                game.clients clientId := Function.update_of_ne (Ne.symm same) _ _
            rw [untouched]
            exact inRun
      | pumpClientMessages polls => exact inRun
      | tickAndSendSnapshots order hostOrder nowMs => exact inRun
      | drainEvents => exact inRun
    · exact ⟨start_book config, [], rfl⟩
  exact kept.2

/-- A host with this configuration and simulation plans the snapshot. -/
def PlannedBy (config : ServerNetworkHostConfig) (order : LoopOrder) (clientId : ClientId)
    (snapshot : SnapshotDTO) (sim : GameSimulation) : Prop :=
  ∃ host : ServerNetworkHost, host.config = config ∧ host.runtime.simulation = sim ∧
    snapshot = (host.plannedSnapshot order clientId).snapshot

theorem game_config (book : GameBook config game) : game.serverHost.config = config := by
  obtain ⟨calls, host⟩ := book.host
  rw [host.ran]
  exact (HostBookkeeping.host_run_progress hubAnswers config calls).config

/-- The snapshots of a tick show the simulation that the tick leaves. -/
theorem ticked_planned (book : GameBook config game) (clientId : ClientId) (order : LoopOrder)
    (hostOrder : HostOrder) (nowMs : TimestampMs) :
    ∃ shown, snapshotsSent (gameStep game (.tickAndSendSnapshots order hostOrder nowMs)) clientId =
        snapshotsSent game clientId ++ shown ∧
      ∀ snapshot ∈ shown, PlannedBy config order clientId snapshot (gameStep game
        (.tickAndSendSnapshots order hostOrder nowMs)).serverHost.runtime.simulation := by
  obtain ⟨added, recorded, simulated, handed⟩ := tick_hands hubAnswers order hostOrder nowMs
    (fun other planned =>
      PlannedBy config order other planned (tickedSimulation order game.serverHost))
    game.serverHost (fun _ ticked sameConfig same =>
      ⟨ticked, sameConfig.trans (game_config book), same, rfl⟩)
  refine ⟨added.filterMap (acceptedFor clientId), ?_, ?_⟩
  · unfold snapshotsSent
    rw [ticked_host book, recorded, List.filterMap_append]
  · intro snapshot member
    obtain ⟨happening, isIn, accepted⟩ := List.mem_filterMap.mp member
    obtain ⟨baseline, rfl⟩ := HubDeliveries.accepted_for accepted
    rw [ticked_simulation book]
    exact handed clientId _ isIn (snapshot, true) (if_pos rfl)

/-- What the client applies in a round ends with a snapshot of the tick. -/
theorem settled_last (book : GameBook config game) {round : Round}
    (serves : round.Serves clientId game) :
    ∃ earlier calls, ∃ last : SnapshotDTO, PumpCalls calls (earlier ++ [last]) ∧
      (snapshotsApplied (round.settled clientId game) clientId).getLast? = some last ∧
      ((round.settled clientId game).clients clientId).runtime = Runs.run clientStep
        ((game.clients clientId).runtime.tickSimulation round.clientOrder) calls ∧
      PlannedBy config round.order clientId last
        (round.settled clientId game).serverHost.runtime.simulation := by
  obtain ⟨pumped, ticked, _⟩ := settled_book book round clientId
  obtain ⟨new, isSent, planned⟩ :=
    ticked_planned pumped clientId round.order round.hostOrder round.nowMs
  have isSent' : snapshotsSent (round.ticked game) clientId =
      snapshotsSent (round.pumped game) clientId ++ new := isSent
  have shownSome : new ≠ [] := by
    have shown := serves.shown
    rw [isSent', List.length_append] at shown
    rintro rfl
    simp at shown
  obtain ⟨before, last, isNew⟩ : ∃ before last, new = before ++ [last] :=
    ⟨_, _, (List.dropLast_append_getLast shownSome).symm⟩
  obtain ⟨calls, applied, pumpedCalls, ran, grown⟩ :=
    client_tick_applied ticked clientId round.clientOrder round.choice round.clientNowMs
  have isApplied : applied = snapshotsQueued (round.pumped game) clientId ++ before ++ [last] := by
    have all : snapshotsApplied (round.settled clientId game) clientId =
        snapshotsSent (round.ticked game) clientId := (settled_applied book serves).1
    rw [isSent', snapshots_split pumped clientId, isNew] at all
    have split := grown.symm.trans all
    rw [List.append_assoc] at split
    rw [List.append_assoc]
    exact List.append_cancel_left split
  rw [isApplied] at pumpedCalls grown
  refine ⟨_, calls, last, pumpedCalls, ?_, ran, planned last (by rw [isNew]; simp)⟩
  change (snapshotsApplied ((round.ticked game).callClient clientId _) clientId).getLast? = _
  rw [grown, ← List.append_assoc, List.getLast?_concat]

/-- The hub takes no snapshot for client 0. -/
theorem sent_addressed (book : GameBook config game) {snapshot : SnapshotDTO}
    (sent : snapshot ∈ snapshotsSent game clientId) : clientId ≠ 0 := by
  obtain ⟨_, host⟩ := book.host
  obtain ⟨happening, member, accepted⟩ := List.mem_filterMap.mp sent
  obtain ⟨baseline, rfl⟩ := HubDeliveries.accepted_for accepted
  exact (of_decide_eq_true (host.truthful _ _ _ member).symm).2

/-- The player of the client is in what the client applies last. -/
theorem settled_own_shown (book : GameBook config game) {round : Round}
    (serves : round.Serves clientId game) (lists : ListsOwn config.replication)
    (identified : Identified (round.settled clientId game).serverHost.runtime.simulation)
    (unwrapped : allocations (round.settled clientId game).serverHost.runtime.simulation <
      2 ^ 32 - 1)
    {snapshot : SnapshotDTO} (planned : PlannedBy config round.order clientId snapshot
      (round.settled clientId game).serverHost.runtime.simulation) :
    ∃ id, (players (round.settled clientId game).serverHost)[clientId]? = some id ∧
      ∃ state ∈ snapshot.entities, state.movement.entityId = id := by
  obtain ⟨pumped, ticked, _⟩ := settled_book book round clientId
  have still : clientId ∈ players (round.settled clientId game).serverHost :=
    (ticked_players pumped round.order round.hostOrder round.nowMs).mpr serves.isPlayer
  obtain ⟨id, entry⟩ : ∃ id, (players (round.settled clientId game).serverHost)[clientId]? =
      some id := ⟨_, Std.ExtTreeMap.getElem?_eq_some_getElem still⟩
  have sent : ∃ shown, shown ∈ snapshotsSent (round.ticked game) clientId :=
    List.exists_mem_of_length_pos (Nat.lt_of_le_of_lt (Nat.zero_le _) serves.shown)
  -- The client was sent a snapshot, so it is not client 0.
  have addressed := sent_addressed ticked sent.choose_spec
  obtain ⟨host, isConfig, isSimulation, rfl⟩ := planned
  unfold players at entry
  rw [← isSimulation] at identified unwrapped entry
  rw [← isConfig] at lists
  refine ⟨id, ?_, own_player_shown round.order identified unwrapped lists addressed entry⟩
  unfold players
  rw [← isSimulation]
  exact entry

/-- Nothing is pending after the round when all inputs were sent. -/
theorem settled_nothing_pending (book : GameBook config game) {round : Round}
    (few : (submittedBy game clientId).length < 2 ^ 32) (serves : round.Serves clientId game)
    (allSent : submittedAfterLogin game clientId = submittedBy game clientId) :
    inputsUnacked (round.settled clientId game) clientId = [] := by
  obtain ⟨_, _, settled⟩ := settled_book book round clientId
  obtain ⟨sameSubmitted, sameAfterLogin⟩ := tick_submits_nothing (round.ticked game) clientId
    round.clientOrder round.choice round.clientNowMs
  have same : submittedAfterLogin (round.settled clientId game) clientId =
      submittedBy (round.settled clientId game) clientId :=
    sameAfterLogin.trans (allSent.trans sameSubmitted.symm)
  have fewSettled : (submittedBy (round.settled clientId game) clientId).length < 2 ^ 32 :=
    (congrArg List.length sameSubmitted).trans_lt few
  apply List.eq_nil_iff_forall_not_mem.mpr
  intro packet pending
  have submitted : packet ∈ submittedBy (round.settled clientId game) clientId := by
    unfold inputsUnacked at pending
    rw [(settled.clients clientId).runtime.pending fewSettled] at pending
    exact List.mem_of_mem_filter pending
  rw [← same] at submitted
  exact settled_unacked book few serves submitted pending

theorem settled_identified (book : GameBook config game)
    (unwrapped : allocations game.serverHost.runtime.simulation < 2 ^ 32 - 1) :
    Identified game.serverHost.runtime.simulation := by
  obtain ⟨calls, host⟩ := book.host
  have kept := host_run_identified hubAnswers config host.own
  rw [← host.ran] at kept
  exact kept unwrapped

end Game

/-! Results. -/

/-- A round after any run of a game, for a client that has submitted its inputs
after its login. When it is over, the client has applied a snapshot that the host
plans of the simulation as the server now has it, its own player among the listed
unless a budget may cut it, and holds every entity of this snapshot as the server
does. -/
theorem round_mirrors (config : ServerNetworkHostConfig) (calls : List GameCall)
    (clientId : ClientId) (round : Round)
    (few : (submittedBy (gameRun config calls) clientId).length < 2 ^ 32)
    (serves : round.Serves clientId (gameRun config calls))
    (allSent : submittedAfterLogin (gameRun config calls) clientId =
      submittedBy (gameRun config calls) clientId)
    (unwrapped : allocations
      (round.settled clientId (gameRun config calls)).serverHost.runtime.simulation < 2 ^ 32 - 1) :
    ∃ snapshot,
      (snapshotsApplied (round.settled clientId (gameRun config calls)) clientId).getLast? =
        some snapshot ∧
      PlannedBy config round.order clientId snapshot
        (round.settled clientId (gameRun config calls)).serverHost.runtime.simulation ∧
      (ListsOwn config.replication → ∃ id,
        (players (round.settled clientId (gameRun config calls)).serverHost)[clientId]? = some id ∧
        ∃ state ∈ snapshot.entities, state.movement.entityId = id) ∧
      ∀ state ∈ snapshot.entities, ∃ entity server client,
        (round.settled clientId (gameRun config
          calls)).serverHost.runtime.simulation.registry.get? entity = some server ∧
        server.identity = some { id := state.movement.entityId } ∧
        heldRow ((round.settled clientId (gameRun config calls)).clients
          clientId).runtime.simulation state.movement.entityId = some client ∧
        Mirrors server client := by
  have book := game_run_book config calls
  have inRun := game_in_run config calls clientId
  generalize gameRun config calls = game at book inRun few serves allSent unwrapped ⊢
  obtain ⟨_, _, settled⟩ := settled_book book round clientId
  obtain ⟨earlier, pumpCalls, snapshot, pumped, isLast, ran, planned⟩ := settled_last book serves
  have identified := settled_identified settled unwrapped
  refine ⟨snapshot, isLast, planned,
    fun lists => settled_own_shown book serves lists identified unwrapped planned, ?_⟩
  obtain ⟨host, _, isHost, isPlanned⟩ := planned
  obtain ⟨before, order, samples, isCalls⟩ := pump_calls_last pumped rfl
  have nothingPending := settled_nothing_pending book few serves allSent
  unfold inputsUnacked at nothingPending
  rw [ran, isCalls, Runs.run_append] at nothingPending ⊢
  have beforeInRun : InRun clientId (Runs.run clientStep
      ((game.clients clientId).runtime.tickSimulation round.clientOrder) before) :=
    in_run_calls inRun (.tickSimulation round.clientOrder :: before)
  generalize Runs.run clientStep
    ((game.clients clientId).runtime.tickSimulation round.clientOrder) before = runtime
    at beforeInRun nothingPending ⊢
  obtain ⟨sameSimulation, samePending⟩ :=
    samples_keep (runtime.applyServerSnapshot order snapshot) samples
  change (Runs.run clientStep (runtime.applyServerSnapshot order snapshot)
    (samples.map .recordTimeSyncSample)).pendingInputs.unackedInputs = [] at nothingPending
  rw [samePending] at nothingPending
  intro state member
  rw [← isHost] at identified unwrapped ⊢
  rw [isPlanned] at member
  obtain ⟨entity, server, present, shows⟩ :=
    planned_shows round.order (identified_bodied identified) member
  have distinct := planned_movement_distinct round.order unwrapped identified clientId
  rw [← isPlanned] at distinct member
  obtain ⟨row, named, held⟩ := snapshot_held beforeInRun order distinct nothingPending member
  refine ⟨entity, server, writeState runtime.simulation.config snapshot.serverTimeMs clientId state
    row, present, shows.identity, ?_, ?_⟩
  · exact (congrArg (fun sim => heldRow sim state.movement.entityId) sameSimulation).trans held
  · exact written_mirrors _ _ _ shows named fun player isPlayer =>
      player_owned identified unwrapped present isPlayer

theorem round_mirrors_opening :
    ∃ snapshot, (snapshotsApplied (openingRound.settled 1 (gameRun {} openingCalls)) 1).getLast? =
        some snapshot ∧
      (∃ id, (players (openingRound.settled 1 (gameRun {} openingCalls)).serverHost)[(1 :
          ClientId)]? = some id ∧
        ∃ state ∈ snapshot.entities, state.movement.entityId = id) ∧
      ∀ state ∈ snapshot.entities, ∃ entity server client,
        (openingRound.settled 1 (gameRun {}
          openingCalls)).serverHost.runtime.simulation.registry.get? entity = some server ∧
        server.identity = some { id := state.movement.entityId } ∧
        heldRow ((openingRound.settled 1 (gameRun {} openingCalls)).clients
          1).runtime.simulation state.movement.entityId = some client ∧
        Mirrors server client := by
  obtain ⟨snapshot, isLast, _, shown, mirrored⟩ := round_mirrors {} openingCalls 1 openingRound
    (by decide) opening_round_serves (by decide) (by decide +kernel)
  exact ⟨snapshot, isLast, shown (Or.inl rfl), mirrored⟩

end Brawololo.MirroredRounds
