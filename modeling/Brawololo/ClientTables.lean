import Brawololo.ClientRuntime
import Brawololo.EntityIdentity

/-!
The tables of a client's simulation. Every entry of the id table names a live
entity that carries the id, and every player entity is owned by its client, in
every state the calls of a runtime reach, provided that no applied snapshot
resends an entity the client holds as a player as a projectile.
-/

namespace Brawololo.ClientTables

open GameTypes EntityStore Simulation Simulation.GameSimulation SimulationStages
open SimulationSnapshots EntityIdentity Client

def Named (sim : GameSimulation) : Prop :=
  ∀ (id : NetworkEntityId) (entity : Entity), sim.entityByNetworkId[id]? = some entity →
    ∃ row, sim.registry.get? entity = some row ∧ row.identity = some { id := id }

/-- A row whose player belongs to the client that owns the row. -/
def OwnedRow (row : Components) : Prop :=
  ∀ player, row.player = some player → row.ownedBy = some { clientId := player.clientId }

def Owned (sim : GameSimulation) : Prop :=
  ∀ entity row, sim.registry.get? entity = some row → OwnedRow row

structure Coherent (sim : GameSimulation) : Prop where
  client : sim.config.mode = .clientPrediction
  named : Named sim
  owned : Owned sim

/-- Two ids of the table never name one entity. -/
theorem named_injective {sim : GameSimulation} (named : Named sim) {first second : NetworkEntityId}
    {entity : Entity} (one : sim.entityByNetworkId[first]? = some entity)
    (two : sim.entityByNetworkId[second]? = some entity) : first = second := by
  obtain ⟨row, present, isFirst⟩ := named first entity one
  obtain ⟨other, found, isSecond⟩ := named second entity two
  rw [present] at found
  cases found
  rw [isFirst] at isSecond
  cases isSecond
  rfl

/-! The id table through the steps of a client. -/

theorem named_congr {before after : GameSimulation} (named : Named before)
    (registry : after.registry = before.registry)
    (entityByNetworkId : after.entityByNetworkId = before.entityByNetworkId) : Named after := by
  unfold Named
  rw [entityByNetworkId, registry]
  exact named

theorem named_of_same {before after : GameSimulation} (tables : SameTables before after)
    (rows : RowsRelated SameStanding before after) (named : Named before) : Named after := by
  intro id entity entry
  rw [tables.entityByNetworkId] at entry
  obtain ⟨row, present, isIdentity⟩ := named id entity entry
  obtain ⟨later, found, standing⟩ := rows.forward present
  exact ⟨later, found, standing.identity.trans isIdentity⟩

theorem destroy_projectile_named (sim : GameSimulation) (entity : Entity) (named : Named sim) :
    Named (destroyProjectile sim entity) := by
  unfold destroyProjectile
  split
  · exact named
  · next identity destroyed =>
      obtain ⟨row, present, isIdentity⟩ := Option.bind_eq_some_iff.mp destroyed
      intro id other entry
      dsimp only at entry ⊢
      rw [get_erase] at entry
      by_cases same : identity.id = id
      · rw [if_pos same] at entry
        cases entry
      · rw [if_neg same] at entry
        obtain ⟨found, isRow, isId⟩ := named id other entry
        refine ⟨found, ?_, isId⟩
        rw [Registry.get?_destroy, if_neg, isRow]
        -- The destroyed entity carries another id.
        rintro rfl
        rw [present] at isRow
        cases isRow
        rw [isIdentity] at isId
        cases isId
        exact same rfl

theorem create_player_named (sim : GameSimulation) (clientId : ClientId) (x y : Fixed)
    (named : Named sim) : Named (createPlayer sim clientId x y) := by
  intro id entity entry
  dsimp only [createPlayer, allocateNetworkId] at entry ⊢
  rw [get_insert] at entry
  rw [Registry.get?_create]
  by_cases same : sim.nextNetworkId = id
  · rw [if_pos same] at entry
    cases entry
    rw [if_pos rfl]
    exact ⟨_, rfl, by rw [playerRow, same]⟩
  · rw [if_neg same] at entry
    obtain ⟨row, present, isIdentity⟩ := named id entity entry
    have below := sim.registry.get?_lt present
    rw [if_neg (Nat.ne_of_lt below)]
    exact ⟨row, present, isIdentity⟩

theorem leave_interest_named (localClientId : ClientId) (sim : GameSimulation)
    (entityId : NetworkEntityId) (named : Named sim) :
    Named (leaveInterest localClientId sim entityId) := by
  unfold leaveInterest entityFor
  split
  · exact named
  · next entity left =>
      intro id other entry
      dsimp only at entry ⊢
      rw [get_erase] at entry
      by_cases same : entityId = id
      · rw [if_pos same] at entry
        cases entry
      · rw [if_neg same] at entry
        obtain ⟨row, present, isIdentity⟩ := named id other entry
        refine ⟨row, ?_, isIdentity⟩
        rw [Registry.get?_destroy, if_neg, present]
        rintro rfl
        exact same (named_injective named left entry)

/-! Who owns a row. -/

theorem owned_row_same_standing {row later : Components} (standing : SameStanding row later)
    (owned : OwnedRow row) : OwnedRow later := by
  intro latest isLatest
  have clients := standing.client
  rw [isLatest] at clients
  obtain ⟨player, isPlayer, sameClient⟩ := Option.map_eq_some_iff.mp clients.symm
  have same : player.clientId = latest.clientId := sameClient
  rw [standing.ownedBy, owned player isPlayer, same]

/-! Updates that keep the standing of every row. -/

theorem coherent_of_same {before after : GameSimulation} (tables : SameTables before after)
    (rows : RowsRelated SameStanding before after) (coherent : Coherent before) :
    Coherent after where
  client := by rw [tables.config]; exact coherent.client
  named := named_of_same tables rows coherent.named
  owned := by
    intro entity later found
    obtain ⟨row, present, standing⟩ := rows.backward found
    exact owned_row_same_standing standing (coherent.owned entity row present)

theorem coherent_congr {before after : GameSimulation} (coherent : Coherent before)
    (config : after.config = before.config) (registry : after.registry = before.registry)
    (entityByNetworkId : after.entityByNetworkId = before.entityByNetworkId) :
    Coherent after := by
  obtain ⟨client, named, owned⟩ := coherent
  constructor
  · rw [config]
    exact client
  · exact named_congr named registry entityByNetworkId
  · unfold Owned
    rw [registry]
    exact owned

theorem destroy_projectile_coherent (sim : GameSimulation) (entity : Entity)
    (coherent : Coherent sim) : Coherent (destroyProjectile sim entity) where
  client := by
    rw [(destroy_projectile_setup sim entity).config]
    exact coherent.client
  named := destroy_projectile_named sim entity coherent.named
  owned := by
    intro other found isRow
    rw [destroy_projectile_row] at isRow
    split at isRow
    · cases isRow
    · exact coherent.owned other found isRow

theorem replay_input_tables (sim : GameSimulation) (packet : ClientInputPacket) :
    SameTables sim (replayLocalInput sim packet) := by
  unfold replayLocalInput
  split
  · exact SameTables.refl sim
  · exact update_entity_tables _ sim _

/-- A replay moves and aims a row and changes nothing else of it but the weapon. -/
theorem replay_row_changes (config : SimulationConfig) (timeMs : TimestampMs)
    (packet : ClientInputPacket) (row : Components) :
    ∃ transform velocity aim weapon, (replayInput config timeMs packet row).1 =
        { row with transform := transform, velocity := velocity, aim := aim, weapon := weapon,
                   inputIntent := none } ∧
      transform.isSome = row.transform.isSome ∧ velocity.isSome = row.velocity.isSome := by
  obtain ⟨intent, aim, weapon, applied⟩ := apply_input_changes config timeMs packet row
  obtain ⟨transform, velocity, moved, placed, moving⟩ := integrate_changes config
    (applyInputToEntity config timeMs packet row).1
  refine ⟨transform, velocity, aim, weapon, ?_, ?_, ?_⟩
  · simp only [replayInput]
    rw [moved, applied]
    rfl
  · rw [placed, applied]
  · rw [moving, applied]

theorem replay_input_standing (sim : GameSimulation) (packet : ClientInputPacket) :
    RowsRelated SameStanding sim (replayLocalInput sim packet) := by
  unfold replayLocalInput
  split
  · exact RowsRelated.refl SameStanding.refl sim
  · apply update_entity_rows SameStanding.refl
    intro row _
    obtain ⟨transform, velocity, _, _, replayed, placed, moving⟩ :=
      replay_row_changes sim.config sim.timeMs packet row
    rw [replayed]
    exact ⟨rfl, rfl, rfl, rfl, fun had => placed ▸ had, fun had => moving ▸ had⟩

theorem replay_input_coherent (sim : GameSimulation) (packet : ClientInputPacket)
    (coherent : Coherent sim) : Coherent (replayLocalInput sim packet) :=
  coherent_of_same (replay_input_tables sim packet) (replay_input_standing sim packet) coherent

theorem tick_coherent (order : LoopOrder) (sim : GameSimulation) (coherent : Coherent sim) :
    Coherent (tickFixed order sim) := by
  have inputs := coherent_of_same (process_inputs_tables order (advanceClock sim))
    (process_inputs_standing order _) (coherent_congr coherent rfl rfl rfl)
  have warmups (sim : GameSimulation) (coherent : Coherent sim) :
      Coherent (processWeaponWarmups order sim) := by
    rw [client_warmups_eq order sim coherent.client]
    exact coherent_of_same (for_each_tables _ _ _ _ sim) (finish_warmups_standing order sim) coherent
  have projectiles (sim : GameSimulation) (coherent : Coherent sim) :
      Coherent (processProjectiles order sim) := by
    apply Runs.run_invariant destroyProjectile Coherent destroy_projectile_coherent
    exact coherent_of_same (projectile_loop_tables _ _ (sim, []))
      (projectile_loop_standing (sim.registry.view order .projectileTargets inTargetView)
        (sim.registry.view order .projectiles inProjectileView) sim) coherent
  exact coherent_of_same (process_respawns_tables order _) (process_respawns_standing order _)
    (projectiles _ (warmups _ inputs))

/-! Logging in and submitting. -/

theorem submit_login_coherent (sim : GameSimulation) (command : LoginCommand)
    (coherent : Coherent sim) : Coherent (submitLogin sim command).1 := by
  rcases submit_login_cases sim command with same | ⟨_, _, joined⟩
  · rw [same]
    exact coherent
  · rw [joined]
    refine ⟨coherent.client, create_player_named _ _ _ _ coherent.named, ?_⟩
    intro entity row present
    dsimp only [createPlayer, allocateNetworkId] at present
    rw [Registry.get?_create] at present
    split at present
    · cases present
      intro player isPlayer
      cases isPlayer
      rfl
    · exact coherent.owned entity row present

theorem submit_input_coherent (sim : GameSimulation) (packet : ClientInputPacket)
    (coherent : Coherent sim) : Coherent (submitInput sim packet).1 := by
  rcases submit_input_cases sim packet with ⟨same, _⟩ | ⟨_, _, accepted⟩
  · rw [same]
    exact coherent
  · rw [accepted]
    exact coherent_congr coherent rfl rfl rfl

/-! Applying a snapshot. -/

/-- The row in which a state is written: the one its id names, or a new one. -/
def TargetRow (sim : GameSimulation) (id : NetworkEntityId) (entity : Entity)
    (row : Components) : Prop :=
  sim.entityByNetworkId[id]? = some entity ∧ sim.registry.get? entity = some row ∨
    sim.entityByNetworkId[id]? = none ∧ entity = sim.registry.created ∧
      row = { identity := some { id := id } }

/-- What one turn of the loop over the entities of a snapshot does. -/
structure Writes (serverTimeMs : TimestampMs) (localClientId : ClientId)
    (before : GameSimulation) (state : EntityStateDTO) (after : GameSimulation)
    (entity : Entity) (row : Components) : Prop where
  config : after.config = before.config
  target : TargetRow before state.movement.entityId entity row
  named : row.identity = some { id := state.movement.entityId }
  table : ∀ id : NetworkEntityId, after.entityByNetworkId[id]? =
    if state.movement.entityId = id then some entity else before.entityByNetworkId[id]?
  rows : ∀ other, after.registry.get? other =
    if other = entity then
      some (writeState before.config serverTimeMs localClientId state row)
    else before.registry.get? other
  players : after.playerByClient =
    if state.replication.kind = .player ∧ state.replication.ownerClientId ≠ 0 then
      before.playerByClient.insert state.replication.ownerClientId state.movement.entityId
    else before.playerByClient

theorem enter_player_players (sim : GameSimulation) (state : EntityStateDTO) :
    (enterPlayer sim state).playerByClient =
      if state.replication.kind = .player ∧ state.replication.ownerClientId ≠ 0 then
        sim.playerByClient.insert state.replication.ownerClientId state.movement.entityId
      else sim.playerByClient := by
  unfold enterPlayer
  split
  · rfl
  · rfl

theorem enter_player_rest (sim : GameSimulation) (state : EntityStateDTO) :
    (enterPlayer sim state).config = sim.config ∧
    (enterPlayer sim state).registry = sim.registry ∧
    (enterPlayer sim state).entityByNetworkId = sim.entityByNetworkId := by
  unfold enterPlayer
  split
  · exact ⟨rfl, rfl, rfl⟩
  · exact ⟨rfl, rfl, rfl⟩

theorem apply_state_writes (serverTimeMs : TimestampMs) (localClientId : ClientId)
    (sim : GameSimulation) (state : EntityStateDTO) (named : Named sim) :
    ∃ entity row, Writes serverTimeMs localClientId sim state
      (applyEntityState serverTimeMs localClientId sim state) entity row := by
  unfold applyEntityState entityFor
  dsimp only
  split
  · next entity known =>
      -- The state is written over the row of an entity that the client knows.
      obtain ⟨row, present, isIdentity⟩ := named _ entity known
      refine ⟨entity, row, ?_⟩
      obtain ⟨config, registry, table⟩ := enter_player_rest (sim.updateEntity (fun row =>
        (writeState sim.config serverTimeMs localClientId state row,
          writeStateEvents localClientId state row
            (writeState sim.config serverTimeMs localClientId state row))) entity) state
      have tables := update_entity_tables (fun row =>
        (writeState sim.config serverTimeMs localClientId state row,
          writeStateEvents localClientId state row
            (writeState sim.config serverTimeMs localClientId state row))) sim entity
      refine ⟨config.trans tables.config, Or.inl ⟨known, present⟩, isIdentity, ?_, ?_, ?_⟩
      · intro id
        rw [table, tables.entityByNetworkId]
        by_cases same : state.movement.entityId = id
        · rw [if_pos same, ← same, known]
        · rw [if_neg same]
      · intro other
        rw [registry, update_entity_row]
        by_cases same : other = entity
        · rw [if_pos same, if_pos same, same, present, Option.map_some]
        · rw [if_neg same, if_neg same]
      · rw [enter_player_players, tables.playerByClient]
  · next unknown =>
      -- An unknown entity enters first, with a row that has nothing but its id.
      refine ⟨sim.registry.created, { identity := some { id := state.movement.entityId } }, ?_⟩
      obtain ⟨config, registry, table⟩ := enter_player_rest
        ((enterInterest localClientId sim state.movement.entityId).updateEntity (fun row =>
          (writeState sim.config serverTimeMs localClientId state row, [])) sim.registry.created)
        state
      have tables := update_entity_tables (fun row =>
        (writeState sim.config serverTimeMs localClientId state row, []))
        (enterInterest localClientId sim state.movement.entityId) sim.registry.created
      refine ⟨config.trans tables.config, Or.inr ⟨unknown, rfl, rfl⟩, rfl, ?_, ?_, ?_⟩
      · intro id
        rw [table, tables.entityByNetworkId]
        exact get_insert _ _ _ _
      · intro other
        rw [registry, update_entity_row, enterInterest, Registry.get?_create]
        by_cases same : other = sim.registry.created
        · rw [if_pos same, if_pos same, if_pos same, Option.map_some]
        · rw [if_neg same, if_neg same, if_neg same]
      · rw [enter_player_players, tables.playerByClient]
        rfl

section Writing

variable {serverTimeMs : TimestampMs} {localClientId : ClientId} {before after : GameSimulation}
variable {state : EntityStateDTO} {entity : Entity} {row : Components}

theorem write_state_identity (config : SimulationConfig) (serverTimeMs : TimestampMs)
    (localClientId : ClientId) (state : EntityStateDTO) (row : Components) :
    (writeState config serverTimeMs localClientId state row).identity = row.identity := by
  unfold writeState applyPlayerState applyProjectileState
  dsimp only
  split
  · split
    · rfl
    · rfl
  · rfl

/-- Another entity than the written one keeps its row, and it was not written
under this id before. -/
theorem writes_other (writes : Writes serverTimeMs localClientId before state after entity row)
    (named : Named before) {id : NetworkEntityId} {other : Entity}
    (different : state.movement.entityId ≠ id)
    (entry : before.entityByNetworkId[id]? = some other) :
    other ≠ entity ∧ after.entityByNetworkId[id]? = some other ∧
      after.registry.get? other = before.registry.get? other := by
  have apart : other ≠ entity := by
    rintro rfl
    rcases writes.target with ⟨known, _⟩ | ⟨_, created, _⟩
    · exact different (named_injective named known entry)
    · obtain ⟨found, present, _⟩ := named id other entry
      exact absurd created (Nat.ne_of_lt (before.registry.get?_lt present))
  refine ⟨apart, ?_, ?_⟩
  · rw [writes.table, if_neg different]
    exact entry
  · rw [writes.rows, if_neg apart]

theorem writes_named (writes : Writes serverTimeMs localClientId before state after entity row)
    (named : Named before) : Named after := by
  intro id other entry
  rw [writes.table] at entry
  by_cases same : state.movement.entityId = id
  · rw [if_pos same] at entry
    cases entry
    refine ⟨_, by rw [writes.rows, if_pos rfl], ?_⟩
    rw [write_state_identity, writes.named, same]
  · rw [if_neg same] at entry
    obtain ⟨found, present, isIdentity⟩ := named id other entry
    obtain ⟨_, _, kept⟩ := writes_other writes named same entry
    exact ⟨found, kept.trans present, isIdentity⟩

/-- A written row is owned unless it turns a player into a projectile. -/
theorem write_state_owned (config : SimulationConfig) (serverTimeMs : TimestampMs)
    (localClientId : ClientId) (state : EntityStateDTO) (row : Components)
    (keeps : state.replication.kind = .projectile → row.player = none) :
    OwnedRow (writeState config serverTimeMs localClientId state row) := by
  intro player isPlayer
  unfold writeState applyPlayerState applyProjectileState at isPlayer ⊢
  dsimp only at isPlayer ⊢
  cases kind : state.replication.kind with
  | player =>
      rw [kind] at isPlayer
      dsimp only at isPlayer ⊢
      cases combat : state.combat with
      | none =>
          rw [combat] at isPlayer
          cases isPlayer
          rfl
      | some combat' =>
          rw [combat] at isPlayer
          cases isPlayer
          rfl
  | projectile =>
      rw [kind] at isPlayer
      dsimp only at isPlayer
      rw [keeps kind] at isPlayer
      cases isPlayer

theorem write_state_player (config : SimulationConfig) (serverTimeMs : TimestampMs)
    (localClientId : ClientId) (state : EntityStateDTO) (row : Components)
    (kind : state.replication.kind = .projectile) :
    (writeState config serverTimeMs localClientId state row).player = row.player := by
  unfold writeState
  rw [kind]
  rfl

end Writing

/-- No entity that the client holds as a player is resent as a projectile, and
the snapshot sends no id as both. -/
def KeepsKinds (sim : GameSimulation) (snapshot : SnapshotDTO) : Prop :=
  ∀ state ∈ snapshot.entities, state.replication.kind = .projectile →
    (∀ (entity : Entity) (row : Components),
      sim.entityByNetworkId[state.movement.entityId]? = some entity →
      sim.registry.get? entity = some row → row.player = none) ∧
    ∀ other ∈ snapshot.entities, other.movement.entityId = state.movement.entityId →
      other.replication.kind = .projectile

/-- The part of the condition that the loop over the entities carries along. -/
def Unplayed (snapshot : SnapshotDTO) (sim : GameSimulation) : Prop :=
  ∀ state ∈ snapshot.entities, state.replication.kind = .projectile →
    ∀ (entity : Entity) (row : Components),
      sim.entityByNetworkId[state.movement.entityId]? = some entity →
      sim.registry.get? entity = some row → row.player = none

theorem writing_coherent (snapshot : SnapshotDTO) (localClientId : ClientId)
    (sim : GameSimulation) (coherent : Coherent sim) (keeps : KeepsKinds sim snapshot) :
    Coherent (snapshot.entities.foldl (applyEntityState snapshot.serverTimeMs localClientId) sim) := by
  have invariant : Coherent (snapshot.entities.foldl
        (applyEntityState snapshot.serverTimeMs localClientId) sim) ∧
      Unplayed snapshot (snapshot.entities.foldl
        (applyEntityState snapshot.serverTimeMs localClientId) sim) := by
    apply Runs.run_invariant_of_mem (applyEntityState snapshot.serverTimeMs localClientId)
      fun sim => Coherent sim ∧ Unplayed snapshot sim
    · rintro state member sim ⟨coherent, unplayed⟩
      obtain ⟨entity, row, writes⟩ :=
        apply_state_writes snapshot.serverTimeMs localClientId sim state coherent.named
      have noPlayer : state.replication.kind = .projectile → row.player = none := by
        intro kind
        rcases writes.target with ⟨known, present⟩ | ⟨_, _, rfl⟩
        · exact unplayed state member kind entity row known present
        · rfl
      refine ⟨⟨by rw [writes.config]; exact coherent.client,
        writes_named writes coherent.named, ?_⟩, ?_⟩
      · intro other found present
        rw [writes.rows] at present
        split at present
        · cases present
          exact write_state_owned _ _ _ state row noPlayer
        · exact coherent.owned other found present
      · intro other isOther kind held found entry present
        rw [writes.table] at entry
        by_cases same : state.movement.entityId = other.movement.entityId
        · -- The written id is a projectile of the snapshot, so this state is one too.
          rw [if_pos same] at entry
          cases entry
          rw [writes.rows, if_pos rfl] at present
          cases present
          have isProjectile := (keeps other isOther kind).2 state member same
          rw [write_state_player _ _ _ state row isProjectile]
          exact noPlayer isProjectile
        · rw [if_neg same] at entry
          obtain ⟨_, _, kept⟩ := writes_other writes coherent.named same entry
          exact unplayed other isOther kind held found entry (kept.symm.trans present)
    · exact ⟨coherent, fun state member kind => (keeps state member kind).1⟩
  exact invariant.1

theorem leave_interest_coherent (localClientId : ClientId) (sim : GameSimulation)
    (entityId : NetworkEntityId) (coherent : Coherent sim) :
    Coherent (leaveInterest localClientId sim entityId) := by
  have named := leave_interest_named localClientId sim entityId coherent.named
  unfold leaveInterest at named ⊢
  split
  · exact coherent
  · next entity left =>
      rw [left] at named
      refine ⟨coherent.client, named, ?_⟩
      intro other row present
      dsimp only at present
      rw [Registry.get?_destroy] at present
      split at present
      · cases present
      · exact coherent.owned other row present

theorem apply_snapshot_coherent (order : LoopOrder) (sim : GameSimulation)
    (snapshot : SnapshotDTO) (localClientId : ClientId) (coherent : Coherent sim)
    (keeps : KeepsKinds sim snapshot) :
    Coherent (applySnapshot order sim snapshot localClientId) := by
  have written := writing_coherent snapshot localClientId sim coherent keeps
  have left := Runs.run_invariant (leaveInterest localClientId) Coherent
    (leave_interest_coherent localClientId) _ written
  exact coherent_congr (left _) rfl rfl rfl

/-! The calls of a runtime. -/

def CallKeepsKinds (runtime : ClientRuntime) (call : ClientCall) : Prop :=
  match call with
  | .applyServerSnapshot _ snapshot => KeepsKinds runtime.simulation snapshot
  | _ => True

theorem client_step_coherent (runtime : ClientRuntime) (call : ClientCall)
    (coherent : Coherent runtime.simulation) (keeps : CallKeepsKinds runtime call) :
    Coherent (clientStep runtime call).simulation := by
  cases call with
  | connectLocal localTimeMs => exact submit_login_coherent _ _ coherent
  | queueInput input localTimeMs => exact submit_input_coherent _ _ coherent
  | tickSimulation order => exact tick_coherent order _ coherent
  | applyServerSnapshot order snapshot =>
      apply Runs.run_invariant replayLocalInput Coherent replay_input_coherent
      exact apply_snapshot_coherent order _ snapshot _ coherent keeps
  | recordTimeSyncSample sample => exact coherent
  | drainEvents => exact coherent_congr coherent rfl rfl rfl

/-- A runtime keeps its client and its configuration. -/
theorem client_run_keeps (localClientId : ClientId) (config : SimulationConfig)
    (calls : List ClientCall) :
    (clientRun localClientId config calls).localClientId = localClientId ∧
    (clientRun localClientId config calls).simulation.config =
      { config with mode := .clientPrediction } := by
  apply Runs.run_invariant clientStep fun runtime => runtime.localClientId = localClientId ∧
    runtime.simulation.config = { config with mode := .clientPrediction }
  · rintro runtime call ⟨sameClient, sameConfig⟩
    cases call with
    | connectLocal localTimeMs =>
        exact ⟨sameClient, (submit_login_config _ _).trans sameConfig⟩
    | queueInput input localTimeMs =>
        exact ⟨sameClient, (submit_input_config _ _).trans sameConfig⟩
    | tickSimulation order => exact ⟨sameClient, (tick_setup order _).1.trans sameConfig⟩
    | applyServerSnapshot order snapshot =>
        refine ⟨sameClient, ?_⟩
        exact ((replay_config _ _).trans (apply_snapshot_config order _ snapshot _)).trans sameConfig
    | recordTimeSyncSample sample => exact ⟨sameClient, sameConfig⟩
    | drainEvents => exact ⟨sameClient, sameConfig⟩
  · exact ⟨rfl, rfl⟩

/-- Every state that the calls of a runtime reach is coherent. -/
theorem client_run_coherent (localClientId : ClientId) (config : SimulationConfig)
    (calls : List ClientCall)
    (keeps : Runs.EveryStep clientStep CallKeepsKinds (.new localClientId config) calls) :
    Coherent (clientRun localClientId config calls).simulation := by
  apply Runs.run_invariant_when clientStep (fun runtime => Coherent runtime.simulation)
    CallKeepsKinds client_step_coherent _ _ calls keeps
  refine ⟨rfl, ?_, ?_⟩
  · intro id entity entry
    simp [ClientRuntime.new] at entry
  · intro entity row present
    simp [ClientRuntime.new] at present

end Brawololo.ClientTables
