import Brawololo.Simulation

/-!
Building a snapshot of a simulation for one observer, and applying a snapshot
to the simulation of a client.
-/

namespace Brawololo.SimulationSnapshots

open GameTypes EntityStore Simulation Simulation.GameSimulation

def priorityRank : SnapshotPriority → Nat
  | .low => 0
  | .medium => 1
  | .high => 2

def betterPriority (left right : SnapshotPriority) : SnapshotPriority :=
  if priorityRank right ≤ priorityRank left then left else right

def rowOwnedByClient (row : Components) (clientId : ClientId) : Bool :=
  row.ownedBy.any fun owner => owner.clientId = clientId

def priorityForEntity (observerClientId : ClientId) (row : Components) : SnapshotPriority :=
  if row.projectile.isSome then .high
  else if rowOwnedByClient row observerClientId then .high
  else if row.weapon.any fun weapon => weapon.warming then .high
  else .medium

def movementState (row : Components) : Option MovementStateDTO :=
  match row.identity, row.transform, row.velocity with
  | some identity, some transform, some velocity =>
      let aim := row.aim.getD {}
      some { entityId := identity.id, x := transform.x, y := transform.y, vx := velocity.vx,
             vy := velocity.vy, aimX := aim.x, aimY := aim.y }
  | _, _, _ => none

def movementForEntity (sim : GameSimulation) (entityId : NetworkEntityId) :
    Option MovementStateDTO :=
  (sim.entityFor entityId).bind fun entity => (sim.registry.get? entity).bind movementState

def playerCombat (entityId : NetworkEntityId) (player : PlayerComponent)
    (weapon : Option WeaponStateComponent) : CombatStateDTO :=
  let combat : CombatStateDTO :=
    { entityId := entityId, health := player.health, maxHealth := player.maxHealth,
      defeated := player.defeated, respawnAtMs := player.respawnAtMs }
  match weapon with
  | some weapon =>
      { combat with
        weaponType := weapon.type
        weaponWarming := weapon.warming
        weaponWarmupCompletesAtMs := weapon.warmupCompletesAtMs }
  | none => combat

def projectileCombat (entityId : NetworkEntityId) (projectile : ProjectileComponent) :
    CombatStateDTO :=
  { entityId := entityId, weaponType := projectile.sourceWeapon, serverOwnedProjectile := true,
    projectileOwnerId := projectile.ownerId }

/-- The DTO of a row in the view of `BuildSnapshot`. -/
def entityState (observerClientId : ClientId) (row : Components) : Option EntityStateDTO :=
  (movementState row).map fun movement =>
    let replication : ReplicationStateDTO :=
      { entityId := movement.entityId
        ownerClientId := (row.ownedBy.map fun owner => owner.clientId).getD 0
        priority := priorityForEntity observerClientId row }
    match row.player, row.projectile with
    | some player, _ =>
        { movement := movement
          combat := some (playerCombat movement.entityId player row.weapon)
          replication := { replication with kind := .player } }
    | none, some projectile =>
        { movement := movement
          combat := some (projectileCombat movement.entityId projectile)
          replication := { replication with
                           kind := .projectile
                           priority := betterPriority replication.priority .high } }
    | none, none => { movement := movement, replication := replication }

def inSnapshotView (row : Components) : Bool :=
  row.identity.isSome && row.transform.isSome && row.velocity.isSome

/-- The chunk around which the observer sees, when it has a player. -/
def observerChunk (sim : GameSimulation) (observerClientId : ClientId) : Option ChunkCoord :=
  ((sim.playerEntityForClient observerClientId).bind (movementForEntity sim)).map fun movement =>
    chunkForPosition sim.config.map movement.x movement.y

/-- A row the observer owns, or one in its area of interest. -/
def isVisible (config : SimulationConfig) (observer : Option ChunkCoord)
    (observerClientId : ClientId) (row : Components) : Bool :=
  match observer, row.transform with
  | some observer, some transform =>
      rowOwnedByClient row observerClientId ||
        isChunkInAreaOfInterest config.map observer
          (chunkForPosition config.map transform.x transform.y)
  | _, _ => true

def buildSnapshot (order : LoopOrder) (sim : GameSimulation) (observerClientId : ClientId)
    (snapshotId baselineId : SnapshotId) : SnapshotDTO where
  snapshotId := snapshotId
  baselineId := baselineId
  serverTick := sim.tick
  serverTimeMs := sim.timeMs
  ackedInputSequence := sim.lastAcceptedSequence[observerClientId]?.getD 0
  entities :=
    (sim.registry.view order .snapshotEntities inSnapshotView).filterMap fun entity =>
      (sim.registry.get? entity).bind fun row =>
        if isVisible sim.config (observerChunk sim observerClientId) observerClientId row then
          entityState observerClientId row
        else none

/-! Applying a snapshot. -/

def applyPlayerState (state : EntityStateDTO) (row : Components) : Components :=
  let player := { row.player.getD {} with clientId := state.replication.ownerClientId }
  let weapon := row.weapon.getD {}
  match state.combat with
  | some combat =>
      { row with
        player := some { player with health := combat.health, maxHealth := combat.maxHealth,
                                     defeated := combat.defeated,
                                     respawnAtMs := combat.respawnAtMs }
        weapon := some { weapon with type := combat.weaponType, warming := combat.weaponWarming,
                                     warmupCompletesAtMs := combat.weaponWarmupCompletesAtMs } }
  | none => { row with player := some player, weapon := some weapon }

def applyProjectileState (config : SimulationConfig) (serverTimeMs : TimestampMs)
    (state : EntityStateDTO) (row : Components) : Components :=
  let sourceWeapon := (state.combat.map fun combat => combat.weaponType).getD .none
  let lifetimeMs :=
    match findWeaponDefinition config.weapons sourceWeapon with
    | some weapon => weapon.projectileLifetimeMs
    | none => 0
  { row with
    projectile := some { ownerId := (state.combat.map fun combat => combat.projectileOwnerId).getD
                           kInvalidNetworkEntity
                         spawnedAtMs := serverTimeMs
                         expiresAtMs := serverTimeMs + lifetimeMs
                         sourceWeapon := sourceWeapon } }

def ownedByLocalPlayer (localClientId : ClientId) (state : EntityStateDTO) : Bool :=
  state.replication.ownerClientId = localClientId && state.replication.kind = .player

/-- The row of an entity after its state in the snapshot is written to it. -/
def writeState (config : SimulationConfig) (serverTimeMs : TimestampMs)
    (localClientId : ClientId) (state : EntityStateDTO) (row : Components) : Components :=
  let movement := state.movement
  let placed : Components :=
    { row with
      transform := some { x := movement.x, y := movement.y }
      velocity := some { vx := movement.vx, vy := movement.vy }
      aim := some { x := movement.aimX, y := movement.aimY }
      ownedBy := some { clientId := state.replication.ownerClientId }
      replication := some { mode := .areaOfInterest } }
  let written :=
    match state.replication.kind with
    | .player => applyPlayerState state placed
    | .projectile => applyProjectileState config serverTimeMs state placed
  { written with
    interpolated := !ownedByLocalPlayer localClientId state
    predicted := ownedByLocalPlayer localClientId state
    authoritative := written.authoritative || decide (config.mode = .serverAuthoritative) }

/-- The events of writing a state over the row of a known entity. -/
def writeStateEvents (localClientId : ClientId) (state : EntityStateDTO)
    (row written : Components) : EventList :=
  let old := row.transform.getD {}
  let movement := state.movement
  let moved := old.x ≠ movement.x ∨ old.y ≠ movement.y
  (if ownedByLocalPlayer localClientId state ∧ row.predicted ∧ moved then
     [.localPredictionCorrected { entityId := movement.entityId, predictedX := old.x,
                                  predictedY := old.y, authoritativeX := movement.x,
                                  authoritativeY := movement.y }]
   else []) ++
  (if moved ∧ written.player.isSome then
     [.playerMoved { entityId := movement.entityId, fromX := old.x, fromY := old.y,
                     toX := movement.x, toY := movement.y }]
   else [])

/-- The new entity of a state whose id is not in the table. -/
def enterInterest (localClientId : ClientId) (sim : GameSimulation) (entityId : NetworkEntityId) :
    GameSimulation :=
  { sim with
    registry := sim.registry.create { identity := some { id := entityId } }
    entityByNetworkId := sim.entityByNetworkId.insert entityId sim.registry.created
    events := sim.events ++
      [.entityEnteredInterest { entityId := entityId, observerClientId := localClientId }] }

/-- The entry of `playerByClient` that a player state sets. -/
def enterPlayer (sim : GameSimulation) (state : EntityStateDTO) : GameSimulation :=
  if state.replication.kind = .player ∧ state.replication.ownerClientId ≠ 0 then
    { sim with
      playerByClient :=
        sim.playerByClient.insert state.replication.ownerClientId state.movement.entityId }
  else sim

/-- One turn of the loop over the entities of a snapshot. -/
def applyEntityState (serverTimeMs : TimestampMs) (localClientId : ClientId)
    (sim : GameSimulation) (state : EntityStateDTO) : GameSimulation :=
  let write := writeState sim.config serverTimeMs localClientId state
  match sim.entityFor state.movement.entityId with
  | some entity =>
      enterPlayer
        (sim.updateEntity
          (fun row => (write row, writeStateEvents localClientId state row (write row))) entity)
        state
  | none =>
      let entered := enterInterest localClientId sim state.movement.entityId
      enterPlayer (entered.updateEntity (fun row => (write row, [])) sim.registry.created) state

/-- An entity that was not in the snapshot and is not the local client's. -/
def leavesInterest (sim : GameSimulation) (localClientId : ClientId) (snapshot : SnapshotDTO)
    (entry : NetworkEntityId × Entity) : Bool :=
  !(snapshot.entities.any fun state => state.movement.entityId = entry.1) &&
    !((sim.registry.get? entry.2).any fun row => rowOwnedByClient row localClientId)

def leaveInterest (localClientId : ClientId) (sim : GameSimulation) (entityId : NetworkEntityId) :
    GameSimulation :=
  match sim.entityFor entityId with
  | none => sim
  | some entity =>
      { sim with
        playerByClient :=
          match (sim.registry.get? entity).bind fun row => row.player with
          | some player => sim.playerByClient.erase player.clientId
          | none => sim.playerByClient
        events := sim.events ++
          [.entityLeftInterest { entityId := entityId, observerClientId := localClientId }]
        registry := sim.registry.destroy entity
        entityByNetworkId := sim.entityByNetworkId.erase entityId }

def applySnapshot (order : LoopOrder) (sim : GameSimulation) (snapshot : SnapshotDTO)
    (localClientId : ClientId) : GameSimulation :=
  let written :=
    snapshot.entities.foldl (applyEntityState snapshot.serverTimeMs localClientId) sim
  let entitiesLeavingInterest :=
    ((order.arrange .leavingInterest written.entityByNetworkId.toList).filter
      (leavesInterest written localClientId snapshot)).map fun entry => entry.1
  let left := entitiesLeavingInterest.foldl (leaveInterest localClientId) written
  left.queueEvent (.snapshotApplied { snapshotId := snapshot.snapshotId
                                      baselineId := snapshot.baselineId
                                      ackedInputSequence := snapshot.ackedInputSequence })

end Brawololo.SimulationSnapshots
