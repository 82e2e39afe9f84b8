import Brawololo.GameTypes
import Brawololo.EntityStore

/-!
The game simulation that server and client share. A row holds the components
of one entity. What a loop of the source does to one entity is a function on
its row that also returns the events it queues; `forEachEntity` runs it over a
view. The order of every loop over a view or a hash map is a parameter.
-/

namespace Brawololo.Simulation

open GameTypes EntityStore

inductive SimulationMode where
  | serverAuthoritative
  | clientPrediction
  deriving DecidableEq

structure SimulationConfig where
  mode : SimulationMode := .serverAuthoritative
  map : MapConfig := {}
  tickDurationMs : TimestampMs := 16
  maxPlayers : UInt16 := 256
  movementAccelerationPerSecond : Fixed := pixelsToFixed 2600
  maxMoveSpeedPerSecond : Fixed := pixelsToFixed 360
  maxPlayerHealth : Int32 := 100
  respawnDelayMs : TimestampMs := 1500
  defaultWeapon : WeaponType := .bow
  weapons : WeaponDefinitionTable := defaultWeaponDefinitions
  deriving DecidableEq

/-! Components. -/

inductive NetworkReplicationMode where
  | notReplicated
  | ownerOnly
  | areaOfInterest
  | globalReliable
  deriving DecidableEq

structure NetworkIdentityComponent where
  id : NetworkEntityId := {}
  deriving DecidableEq

structure TransformComponent where
  x : Fixed := 0
  y : Fixed := 0
  deriving DecidableEq

structure VelocityComponent where
  vx : Fixed := 0
  vy : Fixed := 0
  deriving DecidableEq

structure AimComponent where
  x : Int16 := 1000
  y : Int16 := 0
  deriving DecidableEq

structure InputIntentComponent where
  moveX : Int8 := 0
  moveY : Int8 := 0
  aimX : Int16 := 1000
  aimY : Int16 := 0
  fire : Bool := false
  deriving DecidableEq

structure PlayerComponent where
  clientId : ClientId := 0
  health : Int32 := 100
  maxHealth : Int32 := 100
  defeated : Bool := false
  respawnAtMs : TimestampMs := 0
  deriving DecidableEq

structure WeaponStateComponent where
  type : WeaponType := .bow
  warming : Bool := false
  warmupStartedAtMs : TimestampMs := 0
  warmupCompletesAtMs : TimestampMs := 0
  deriving DecidableEq

structure ProjectileComponent where
  ownerId : NetworkEntityId := {}
  spawnedAtMs : TimestampMs := 0
  expiresAtMs : TimestampMs := 0
  sourceWeapon : WeaponType := .none
  deriving DecidableEq

structure OwnedByPlayerComponent where
  clientId : ClientId := 0
  deriving DecidableEq

structure NetworkReplicationComponent where
  mode : NetworkReplicationMode := .areaOfInterest
  deriving DecidableEq

structure Components where
  identity : Option NetworkIdentityComponent := none
  transform : Option TransformComponent := none
  velocity : Option VelocityComponent := none
  aim : Option AimComponent := none
  inputIntent : Option InputIntentComponent := none
  player : Option PlayerComponent := none
  weapon : Option WeaponStateComponent := none
  projectile : Option ProjectileComponent := none
  ownedBy : Option OwnedByPlayerComponent := none
  replication : Option NetworkReplicationComponent := none
  predicted : Bool := false
  interpolated : Bool := false
  authoritative : Bool := false
  deriving DecidableEq

def Components.defeated (row : Components) : Bool :=
  row.player.any fun player => player.defeated

/-! The state. -/

/-- The loops of the source that visit a view or a hash map. -/
inductive LoopSite where
  | integrateMovement
  | weaponWarmups
  | projectiles
  | projectileTargets
  | respawns
  | snapshotEntities
  | leavingInterest
  deriving DecidableEq

abbrev LoopOrder := IterationOrder LoopSite

structure GameSimulation where
  config : SimulationConfig := {}
  registry : Registry Components := {}
  tick : Tick := 0
  timeMs : TimestampMs := 0
  nextNetworkId : NetworkEntityId := { value := 1 }
  events : EventList := []
  pendingInputs : List ClientInputPacket := []
  playerByClient : UnorderedMap ClientId NetworkEntityId := {}
  entityByNetworkId : UnorderedMap NetworkEntityId Entity := {}
  lastAcceptedSequence : UnorderedMap ClientId CommandSequence := {}

namespace GameSimulation

def playerEntityForClient (sim : GameSimulation) (clientId : ClientId) :
    Option NetworkEntityId :=
  sim.playerByClient[clientId]?

def entityFor (sim : GameSimulation) (entityId : NetworkEntityId) : Option Entity :=
  sim.entityByNetworkId[entityId]?

/-- The entity whose row an input of the client is applied to. -/
def inputTarget (sim : GameSimulation) (clientId : ClientId) : Option Entity :=
  (sim.playerEntityForClient clientId).bind sim.entityFor

def queueEvent (sim : GameSimulation) (event : DomainEvent) : GameSimulation :=
  { sim with events := sim.events ++ [event] }

def drainEvents (sim : GameSimulation) : GameSimulation × EventList :=
  ({ sim with events := [] }, sim.events)

def allocateNetworkId (sim : GameSimulation) : GameSimulation × NetworkEntityId :=
  ({ sim with nextNetworkId := { value := sim.nextNetworkId.value + 1 } }, sim.nextNetworkId)

/-- Change one row and queue the events the change returns. -/
def updateEntity (sim : GameSimulation) (update : Components → Components × EventList)
    (entity : Entity) : GameSimulation :=
  match sim.registry.get? entity with
  | none => sim
  | some row =>
      { sim with
        registry := sim.registry.modify entity fun row => (update row).1
        events := sim.events ++ (update row).2 }

def forEachEntity (sim : GameSimulation) (order : LoopOrder) (site : LoopSite)
    (holds : Components → Bool) (update : Components → Components × EventList) :
    GameSimulation :=
  (sim.registry.view order site holds).foldl (fun sim entity => sim.updateEntity update entity) sim

end GameSimulation

open GameSimulation

/-! Logging in. -/

def spawnTransformForClient (config : SimulationConfig) (clientId : ClientId) :
    TransformComponent :=
  let tileX : Int32 := 10 + (clientId % 20).toInt32
  let tileY : Int32 := 10 + ((clientId / 20) % 20).toInt32
  { x := pixelsToFixed (tileX * config.map.tileSizePixels)
    y := pixelsToFixed (tileY * config.map.tileSizePixels) }

/-- The components of a new player. -/
def playerRow (config : SimulationConfig) (networkId : NetworkEntityId) (clientId : ClientId)
    (x y : Fixed) : Components where
  identity := some { id := networkId }
  transform := some { x := x, y := y }
  velocity := some {}
  aim := some {}
  player := some { clientId := clientId, health := config.maxPlayerHealth,
                   maxHealth := config.maxPlayerHealth }
  weapon := some { type := config.defaultWeapon }
  ownedBy := some { clientId := clientId }
  replication := some {}
  authoritative := config.mode = .serverAuthoritative
  predicted := config.mode ≠ .serverAuthoritative

def createPlayer (sim : GameSimulation) (clientId : ClientId) (x y : Fixed) : GameSimulation :=
  let entity := sim.registry.created
  let (sim, networkId) := sim.allocateNetworkId
  { sim with
    registry := sim.registry.create (playerRow sim.config networkId clientId x y)
    playerByClient := sim.playerByClient.insert clientId networkId
    entityByNetworkId := sim.entityByNetworkId.insert networkId entity
    events := sim.events ++
      [.playerSpawned { entityId := networkId, clientId := clientId, x := x, y := y }] }

def submitLogin (sim : GameSimulation) (command : LoginCommand) : GameSimulation × Bool :=
  let clientId := command.header.clientId
  if clientId ∈ sim.playerByClient then (sim, true)
  else if sim.config.maxPlayers.toNat ≤ sim.playerByClient.size then (sim, false)
  else
    let sequenced :=
      { sim with
        lastAcceptedSequence := sim.lastAcceptedSequence.insert clientId command.header.sequence }
    let spawn := spawnTransformForClient sim.config clientId
    (createPlayer sequenced clientId spawn.x spawn.y, true)

def submitInput (sim : GameSimulation) (packet : ClientInputPacket) : GameSimulation × Bool :=
  let clientId := packet.header.clientId
  match sim.playerByClient[clientId]? with
  | none => (sim, false)
  | some _ =>
      if sim.lastAcceptedSequence[clientId]?.any (packet.header.sequence ≤ ·) then (sim, false)
      else
        ({ sim with
           lastAcceptedSequence :=
             sim.lastAcceptedSequence.insert clientId packet.header.sequence
           pendingInputs := sim.pendingInputs ++ [packet] }, true)

/-! Movement. -/

def integrateFixedPerSecond (valuePerSecond : Fixed) (tickDurationMs : TimestampMs) : Fixed :=
  ((valuePerSecond.toInt64 * tickDurationMs.toInt64) / 1000).toInt32

def applyInputAcceleration (velocity accelerationDelta : Fixed) (normalizedInput : Int16) :
    Fixed :=
  velocity + ((accelerationDelta.toInt64 * normalizedInput.toInt64) / kFixedOne.toInt64).toInt32

def applyFriction (velocity : Fixed) : Fixed := fixedMulRatio velocity 72 100

/-- The branch of `ApplyInputToEntity` for a pressed fire button. -/
def startWarmup (config : SimulationConfig) (timeMs : TimestampMs) (row : Components) :
    Components × EventList :=
  match row.weapon, row.identity with
  | some weapon, some identity =>
      match findWeaponDefinition config.weapons weapon.type with
      | none => (row, [])
      | some definition =>
          if weapon.type = .none ∨ weapon.warming then (row, [])
          else
            let completesAtMs := timeMs + definition.warmupMs
            ({ row with
               weapon := some { weapon with warming := true, warmupStartedAtMs := timeMs,
                                            warmupCompletesAtMs := completesAtMs } },
             [.weaponWarmupStarted { entityId := identity.id, startedAtMs := timeMs,
                                     completesAtMs := completesAtMs, weaponType := weapon.type }])
  | _, _ => (row, [])

def intentOf (input : InputFrame) : InputIntentComponent :=
  { moveX := input.moveX, moveY := input.moveY, aimX := input.aimX, aimY := input.aimY,
    fire := input.fire }

/-- The row with the intent of an input, and its aim unless that is zero. -/
def takeIntent (input : InputFrame) (row : Components) : Components :=
  { row with
    inputIntent := some (intentOf input)
    aim := some (if input.aimX ≠ 0 ∨ input.aimY ≠ 0 then { x := input.aimX, y := input.aimY }
                 else row.aim.getD {}) }

def applyInputToEntity (config : SimulationConfig) (timeMs : TimestampMs)
    (packet : ClientInputPacket) (row : Components) : Components × EventList :=
  if row.defeated then (row, [])
  else if packet.input.fire then startWarmup config timeMs (takeIntent packet.input row)
  else (takeIntent packet.input row, [])

def clampToMap (config : SimulationConfig) (transform : TransformComponent) :
    TransformComponent :=
  { x := clampFixed transform.x 0 (mapWidthFixed config.map - 1)
    y := clampFixed transform.y 0 (mapHeightFixed config.map - 1) }

/-- The velocity after one tick: acceleration under an input, friction without. -/
def steer (config : SimulationConfig) (input : Option InputIntentComponent)
    (velocity : VelocityComponent) : VelocityComponent :=
  let steered : VelocityComponent :=
    match input with
    | some input =>
        let normalized := normalizeDigitalInput input.moveX input.moveY
        let accelerationDelta :=
          integrateFixedPerSecond config.movementAccelerationPerSecond config.tickDurationMs
        { vx := applyInputAcceleration velocity.vx accelerationDelta normalized.x
          vy := applyInputAcceleration velocity.vy accelerationDelta normalized.y }
    | none => { vx := applyFriction velocity.vx, vy := applyFriction velocity.vy }
  let limit := config.maxMoveSpeedPerSecond
  { vx := clampFixed steered.vx (-limit) limit, vy := clampFixed steered.vy (-limit) limit }

/-- The unclamped position after one tick at a velocity. -/
def travel (config : SimulationConfig) (velocity : VelocityComponent)
    (transform : TransformComponent) : TransformComponent :=
  { x := transform.x + integrateFixedPerSecond velocity.vx config.tickDurationMs
    y := transform.y + integrateFixedPerSecond velocity.vy config.tickDurationMs }

def integrateMovement (config : SimulationConfig) (row : Components) : Components × EventList :=
  match row.identity, row.transform, row.velocity with
  | some identity, some transform, some velocity =>
      if row.defeated then ({ row with velocity := some { vx := 0, vy := 0 } }, [])
      else
        let velocity := steer config row.inputIntent velocity
        let moved := clampToMap config (travel config velocity transform)
        ({ row with transform := some moved, velocity := some velocity },
         if (transform.x ≠ moved.x ∨ transform.y ≠ moved.y) ∧ row.player.isSome then
           [.playerMoved { entityId := identity.id, fromX := transform.x, fromY := transform.y,
                           toX := moved.x, toY := moved.y }]
         else [])
  | _, _, _ => (row, [])

/-- One turn of the loop over the pending inputs. -/
def applyPendingInput (sim : GameSimulation) (packet : ClientInputPacket) : GameSimulation :=
  match sim.inputTarget packet.header.clientId with
  | none => sim
  | some entity => sim.updateEntity (applyInputToEntity sim.config sim.timeMs packet) entity

def clearIntent (row : Components) : Components := { row with inputIntent := none }

def processInputs (order : LoopOrder) (sim : GameSimulation) : GameSimulation :=
  let applied := sim.pendingInputs.foldl applyPendingInput sim
  let cleared := { applied with pendingInputs := [] }
  let moved := cleared.forEachEntity order .integrateMovement (fun row => row.player.isSome)
    (integrateMovement cleared.config)
  { moved with registry := moved.registry.mapRows clearIntent }

/-! Weapons and projectiles. -/

structure ProjectileRequest where
  ownerId : NetworkEntityId := {}
  transform : TransformComponent := {}
  aim : AimComponent := {}
  weapon : WeaponDefinition := {}
  deriving DecidableEq

/-- The components of a new projectile. -/
def projectileRow (timeMs : TimestampMs) (networkId : NetworkEntityId)
    (request : ProjectileRequest) : Components :=
  let weapon := request.weapon
  let speed := weapon.projectileSpeedPerSecond.toInt64
  { identity := some { id := networkId }
    transform := some request.transform
    velocity := some { vx := ((speed * request.aim.x.toInt64) / kFixedOne.toInt64).toInt32
                       vy := ((speed * request.aim.y.toInt64) / kFixedOne.toInt64).toInt32 }
    projectile := some { ownerId := request.ownerId, spawnedAtMs := timeMs,
                         expiresAtMs := timeMs + weapon.projectileLifetimeMs,
                         sourceWeapon := weapon.type }
    replication := some {}
    authoritative := true }

def createProjectile (sim : GameSimulation) (request : ProjectileRequest) : GameSimulation :=
  let entity := sim.registry.created
  let (sim, networkId) := sim.allocateNetworkId
  { sim with
    registry := sim.registry.create (projectileRow sim.timeMs networkId request)
    entityByNetworkId := sim.entityByNetworkId.insert networkId entity
    events := sim.events ++
      [.projectileSpawned { projectileId := networkId, ownerId := request.ownerId,
                            x := request.transform.x, y := request.transform.y,
                            sourceWeapon := request.weapon.type }] }

def inWarmupView (row : Components) : Bool :=
  row.identity.isSome && row.transform.isSome && row.aim.isSome && row.weapon.isSome

/-- A weapon whose warmup is over in this tick. -/
def warmupComplete (timeMs : TimestampMs) (row : Components) (weapon : WeaponStateComponent) :
    Bool :=
  !row.defeated && weapon.warming && weapon.warmupCompletesAtMs ≤ timeMs

def finishWarmup (config : SimulationConfig) (timeMs : TimestampMs) (row : Components) :
    Components × EventList :=
  match row.identity, row.weapon with
  | some identity, some weapon =>
      if row.defeated then ({ row with weapon := some { weapon with warming := false } }, [])
      else if warmupComplete timeMs row weapon then
        ({ row with weapon := some { weapon with warming := false } },
         match config.mode, findWeaponDefinition config.weapons weapon.type with
         | .serverAuthoritative, some _ =>
             [.weaponFired { entityId := identity.id, firedAtMs := timeMs,
                             weaponType := weapon.type }]
         | _, _ => [])
      else (row, [])
  | _, _ => (row, [])

/-- What the loop over the warmups appends to `projectilesToSpawn` for a row. -/
def projectileRequest (config : SimulationConfig) (timeMs : TimestampMs) (row : Components) :
    Option ProjectileRequest :=
  match config.mode, row.identity, row.transform, row.aim, row.weapon with
  | .serverAuthoritative, some identity, some transform, some aim, some weapon =>
      if warmupComplete timeMs row weapon then
        match findWeaponDefinition config.weapons weapon.type with
        | some definition =>
            if definition.serverSpawnedProjectile then
              some { ownerId := identity.id, transform := transform, aim := aim,
                     weapon := definition }
            else none
        | none => none
      else none
  | _, _, _, _, _ => none

/-- Projectiles are requested during the loop and created after it. -/
def processWeaponWarmups (order : LoopOrder) (sim : GameSimulation) : GameSimulation :=
  let projectilesToSpawn :=
    (sim.registry.view order .weaponWarmups inWarmupView).filterMap fun entity =>
      (sim.registry.get? entity).bind (projectileRequest sim.config sim.timeMs)
  let fired := sim.forEachEntity order .weaponWarmups inWarmupView
    (finishWarmup sim.config sim.timeMs)
  projectilesToSpawn.foldl createProjectile fired

def kHitRadius : Fixed := pixelsToFixed 42

def closeEnoughForHit (left right : TransformComponent) : Bool :=
  let dx := left.x.toInt64 - right.x.toInt64
  let dy := left.y.toInt64 - right.y.toInt64
  let radius := kHitRadius.toInt64
  dx * dx + dy * dy ≤ radius * radius

def inProjectileView (row : Components) : Bool :=
  row.identity.isSome && row.projectile.isSome && row.transform.isSome && row.velocity.isSome

def inTargetView (row : Components) : Bool :=
  row.identity.isSome && row.player.isSome && row.transform.isSome

/-- The projectile is destroyed by age or by leaving the map. -/
def projectileGone (config : SimulationConfig) (timeMs : TimestampMs)
    (projectile : ProjectileComponent) (transform : TransformComponent) : Bool :=
  projectile.expiresAtMs ≤ timeMs || transform.x < 0 || transform.y < 0 ||
    mapWidthFixed config.map ≤ transform.x || mapHeightFixed config.map ≤ transform.y

/-- A row the projectile at `transform` hits. -/
def hits (projectile : ProjectileComponent) (transform : TransformComponent)
    (target : Components) : Bool :=
  match target.identity, target.player, target.transform with
  | some identity, some player, some targetTransform =>
      identity.id ≠ projectile.ownerId && !player.defeated &&
        closeEnoughForHit transform targetTransform
  | _, _, _ => false

def projectileDamage (config : SimulationConfig) (projectile : ProjectileComponent) : Int32 :=
  match findWeaponDefinition config.weapons projectile.sourceWeapon with
  | some weapon => weapon.damage
  | none => 0

def damagePlayer (config : SimulationConfig) (timeMs : TimestampMs)
    (projectileId : NetworkEntityId) (projectile : ProjectileComponent) (target : Components) :
    Components × EventList :=
  match target.identity, target.player with
  | some identity, some player =>
      let damage := projectileDamage config projectile
      let health := max 0 (player.health - damage)
      let hit : EventList :=
        [.hitConfirmed { attackerId := projectile.ownerId, targetId := identity.id,
                         projectileId := projectileId, serverTimeMs := timeMs },
         .playerDamaged { entityId := identity.id, attackerId := projectile.ownerId,
                          damage := damage, healthAfter := health }]
      if health ≤ 0 then
        let respawnAtMs := timeMs + config.respawnDelayMs
        ({ target with
           player := some { player with health := health, defeated := true,
                                        respawnAtMs := respawnAtMs } },
         hit ++ [.playerDied { entityId := identity.id, attackerId := projectile.ownerId,
                               respawnAtMs := respawnAtMs }])
      else ({ target with player := some { player with health := health } }, hit)
  | _, _ => (target, [])

/-- A row after its projectile has travelled for one tick. -/
def fly (config : SimulationConfig) (row : Components) : Components :=
  match row.transform, row.velocity with
  | some transform, some velocity =>
      { row with transform := some (travel config velocity transform) }
  | _, _ => row

/-- One turn of the loop over the projectiles, with the list `toDestroy`. -/
def processProjectile (targets : List Entity) (state : GameSimulation × List Entity)
    (entity : Entity) : GameSimulation × List Entity :=
  let (sim, toDestroy) := state
  match sim.registry.get? entity with
  | none => state
  | some row =>
      let flown := fly sim.config row
      match flown.identity, flown.projectile, flown.transform with
      | some identity, some projectile, some transform =>
          let moved := sim.updateEntity (fun row => (fly sim.config row, [])) entity
          if projectileGone sim.config sim.timeMs projectile transform then
            (moved, toDestroy ++ [entity])
          else
            match targets.find? fun target =>
                (moved.registry.get? target).any (hits projectile transform) with
            | none => (moved, toDestroy)
            | some target =>
                (moved.updateEntity
                  (damagePlayer sim.config sim.timeMs identity.id projectile) target,
                 toDestroy ++ [entity])
      | _, _, _ => state

def destroyProjectile (sim : GameSimulation) (entity : Entity) : GameSimulation :=
  match (sim.registry.get? entity).bind fun row => row.identity with
  | none => sim
  | some identity =>
      { sim with
        entityByNetworkId := sim.entityByNetworkId.erase identity.id
        registry := sim.registry.destroy entity }

def processProjectiles (order : LoopOrder) (sim : GameSimulation) : GameSimulation :=
  let targets := sim.registry.view order .projectileTargets inTargetView
  let (flown, toDestroy) :=
    (sim.registry.view order .projectiles inProjectileView).foldl (processProjectile targets)
      (sim, [])
  toDestroy.foldl destroyProjectile flown

def inRespawnView (row : Components) : Bool :=
  row.identity.isSome && row.player.isSome && row.transform.isSome && row.velocity.isSome

def respawnPlayer (config : SimulationConfig) (timeMs : TimestampMs) (row : Components) :
    Components × EventList :=
  match row.identity, row.player with
  | some identity, some player =>
      if !player.defeated || timeMs < player.respawnAtMs then (row, [])
      else
        let spawn := spawnTransformForClient config player.clientId
        ({ row with
           player := some { player with health := player.maxHealth, defeated := false,
                                        respawnAtMs := 0 }
           transform := some spawn
           velocity := some {}
           weapon := row.weapon.map fun weapon =>
             { weapon with warming := false, warmupStartedAtMs := 0, warmupCompletesAtMs := 0 } },
         [.playerRespawned { entityId := identity.id, x := spawn.x, y := spawn.y }])
  | _, _ => (row, [])

def processRespawns (order : LoopOrder) (sim : GameSimulation) : GameSimulation :=
  sim.forEachEntity order .respawns inRespawnView (respawnPlayer sim.config sim.timeMs)

/-! Ticks and replay. -/

def advanceClock (sim : GameSimulation) : GameSimulation :=
  { sim with tick := sim.tick + 1, timeMs := sim.timeMs + sim.config.tickDurationMs }

def tickFixed (order : LoopOrder) (sim : GameSimulation) : GameSimulation :=
  processRespawns order (processProjectiles order (processWeaponWarmups order
    (processInputs order (advanceClock sim))))

/-- Applying one input, integrating it and removing the intent again. -/
def replayInput (config : SimulationConfig) (timeMs : TimestampMs) (packet : ClientInputPacket)
    (row : Components) : Components × EventList :=
  let (applied, warmup) := applyInputToEntity config timeMs packet row
  let (moved, movement) := integrateMovement config applied
  (clearIntent moved, warmup ++ movement)

def replayLocalInput (sim : GameSimulation) (packet : ClientInputPacket) : GameSimulation :=
  match sim.inputTarget packet.header.clientId with
  | none => sim
  | some entity => sim.updateEntity (replayInput sim.config sim.timeMs packet) entity

def replayLocalInputsForPrediction (sim : GameSimulation) (inputs : List ClientInputPacket) :
    GameSimulation :=
  inputs.foldl replayLocalInput sim

end Brawololo.Simulation
