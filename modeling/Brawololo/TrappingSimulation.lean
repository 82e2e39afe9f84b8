import Brawololo.EntityIdentity
import Brawololo.TrappingArithmetic

/-!
The simulation with trapping arithmetic. Every function of the model that adds,
subtracts, negates, multiplies, divides or narrows signed numbers has a version
here that does so with traps, operation by operation as in the source, and the
loops around it stop at the first trap.
-/

namespace Brawololo.TrappingSimulation

open GameTypes EntityStore Simulation Simulation.GameSimulation TrappingArithmetic
open EntityIdentity (ServerCall)

/-! Fixed-point helpers. -/

def pixelsToFixed (pixels : Int32) : Option Fixed := mul32 pixels kFixedOne

def fixedMulRatio (value : Fixed) (numerator denominator : Int32) : Option Fixed :=
  mulDiv32 value.toInt64 numerator.toInt64 denominator.toInt64

/-- The products are of type `int`. -/
def normalizeDigitalInput (moveX moveY : Int8) : Option Vec2Input := do
  let clampedX := digitalSign moveX
  let clampedY := digitalSign moveY
  let scale : Int32 := if clampedX ≠ 0 ∧ clampedY ≠ 0 then 707 else 1000
  let x ← mul32 clampedX.toInt32 scale
  let y ← mul32 clampedY.toInt32 scale
  some { x := x.toInt16, y := y.toInt16 }

def mapWidthFixed (map : MapConfig) : Option Fixed := do
  let pixels ← mul32 map.widthTiles map.tileSizePixels
  pixelsToFixed pixels

def mapHeightFixed (map : MapConfig) : Option Fixed := do
  let pixels ← mul32 map.heightTiles map.tileSizePixels
  pixelsToFixed pixels

/-! Movement. -/

def integrateFixedPerSecond (valuePerSecond : Fixed) (tickDurationMs : TimestampMs) :
    Option Fixed :=
  mulDiv32 valuePerSecond.toInt64 tickDurationMs.toInt64 1000

def applyInputAcceleration (velocity accelerationDelta : Fixed) (normalizedInput : Int16) :
    Option Fixed := do
  let change ← mulDiv32 accelerationDelta.toInt64 normalizedInput.toInt64 kFixedOne.toInt64
  add32 velocity change

def applyFriction (velocity : Fixed) : Option Fixed := fixedMulRatio velocity 72 100

def clampToMap (config : SimulationConfig) (transform : TransformComponent) :
    Option TransformComponent := do
  let width ← mapWidthFixed config.map
  let height ← mapHeightFixed config.map
  let right ← sub32 width 1
  let bottom ← sub32 height 1
  some { x := clampFixed transform.x 0 right, y := clampFixed transform.y 0 bottom }

def steer (config : SimulationConfig) (input : Option InputIntentComponent)
    (velocity : VelocityComponent) : Option VelocityComponent := do
  let steered : VelocityComponent ←
    match input with
    | some input => do
        let normalized ← normalizeDigitalInput input.moveX input.moveY
        let accelerationDelta ←
          integrateFixedPerSecond config.movementAccelerationPerSecond config.tickDurationMs
        let vx ← applyInputAcceleration velocity.vx accelerationDelta normalized.x
        let vy ← applyInputAcceleration velocity.vy accelerationDelta normalized.y
        some { vx, vy }
    | none => do
        let vx ← applyFriction velocity.vx
        let vy ← applyFriction velocity.vy
        some { vx, vy }
  let limit := config.maxMoveSpeedPerSecond
  let opposite ← neg32 limit
  some { vx := clampFixed steered.vx opposite limit, vy := clampFixed steered.vy opposite limit }

def travel (config : SimulationConfig) (velocity : VelocityComponent)
    (transform : TransformComponent) : Option TransformComponent := do
  let dx ← integrateFixedPerSecond velocity.vx config.tickDurationMs
  let dy ← integrateFixedPerSecond velocity.vy config.tickDurationMs
  let x ← add32 transform.x dx
  let y ← add32 transform.y dy
  some { x, y }

def integrateMovement (config : SimulationConfig) (row : Components) :
    Option (Components × EventList) :=
  match row.identity, row.transform, row.velocity with
  | some identity, some transform, some velocity =>
      if row.defeated then some ({ row with velocity := some { vx := 0, vy := 0 } }, [])
      else do
        let velocity ← steer config row.inputIntent velocity
        let travelled ← travel config velocity transform
        let moved ← clampToMap config travelled
        some ({ row with transform := some moved, velocity := some velocity },
          if (transform.x ≠ moved.x ∨ transform.y ≠ moved.y) ∧ row.player.isSome then
            [.playerMoved { entityId := identity.id, fromX := transform.x, fromY := transform.y,
                            toX := moved.x, toY := moved.y }]
          else [])
  | _, _, _ => some (row, [])

/-! Spawns. -/

/-- A coordinate of a spawn, from its tile before the shift by 10. -/
def spawnCoordinate (config : SimulationConfig) (tile : UInt32) : Option Fixed := do
  let shifted ← add32 10 tile.toInt32
  let pixel ← mul32 shifted config.map.tileSizePixels
  pixelsToFixed pixel

def spawnTransformForClient (config : SimulationConfig) (clientId : ClientId) :
    Option TransformComponent := do
  let x ← spawnCoordinate config (clientId % 20)
  let y ← spawnCoordinate config ((clientId / 20) % 20)
  some { x, y }

def respawnPlayer (config : SimulationConfig) (timeMs : TimestampMs) (row : Components) :
    Option (Components × EventList) :=
  match row.identity, row.player with
  | some identity, some player =>
      if !player.defeated || timeMs < player.respawnAtMs then some (row, [])
      else do
        let spawn ← spawnTransformForClient config player.clientId
        some ({ row with
           player := some { player with health := player.maxHealth, defeated := false,
                                        respawnAtMs := 0 }
           transform := some spawn
           velocity := some {}
           weapon := row.weapon.map fun weapon =>
             { weapon with warming := false, warmupStartedAtMs := 0, warmupCompletesAtMs := 0 } },
         [.playerRespawned { entityId := identity.id, x := spawn.x, y := spawn.y }])
  | _, _ => some (row, [])

/-! Projectiles. -/

/-- A component of the velocity of a new projectile. -/
def projectileVelocity (weapon : WeaponDefinition) (aim : Int16) : Option Fixed :=
  mulDiv32 weapon.projectileSpeedPerSecond.toInt64 aim.toInt64 kFixedOne.toInt64

def projectileRow (timeMs : TimestampMs) (networkId : NetworkEntityId)
    (request : ProjectileRequest) : Option Components := do
  let vx ← projectileVelocity request.weapon request.aim.x
  let vy ← projectileVelocity request.weapon request.aim.y
  some
    { identity := some { id := networkId }
      transform := some request.transform
      velocity := some { vx, vy }
      projectile := some { ownerId := request.ownerId, spawnedAtMs := timeMs,
                           expiresAtMs := timeMs + request.weapon.projectileLifetimeMs,
                           sourceWeapon := request.weapon.type }
      replication := some {}
      authoritative := true }

def fly (config : SimulationConfig) (row : Components) : Option Components :=
  match row.transform, row.velocity with
  | some transform, some velocity => do
      let travelled ← travel config velocity transform
      some { row with transform := some travelled }
  | _, _ => some row

def projectileGone (config : SimulationConfig) (timeMs : TimestampMs)
    (projectile : ProjectileComponent) (transform : TransformComponent) : Option Bool := do
  let width ← mapWidthFixed config.map
  let height ← mapHeightFixed config.map
  some (projectile.expiresAtMs ≤ timeMs || transform.x < 0 || transform.y < 0 ||
    width ≤ transform.x || height ≤ transform.y)

def closeEnoughForHit (left right : TransformComponent) : Option Bool := do
  let dx ← sub64 left.x.toInt64 right.x.toInt64
  let dy ← sub64 left.y.toInt64 right.y.toInt64
  let radius := kHitRadius.toInt64
  let xSquare ← mul64 dx dx
  let ySquare ← mul64 dy dy
  let square ← add64 xSquare ySquare
  let bound ← mul64 radius radius
  some (square ≤ bound)

def hits (projectile : ProjectileComponent) (transform : TransformComponent)
    (target : Components) : Option Bool :=
  match target.identity, target.player, target.transform with
  | some identity, some player, some targetTransform =>
      if identity.id = projectile.ownerId ∨ player.defeated then some false
      else closeEnoughForHit transform targetTransform
  | _, _, _ => some false

def damagePlayer (config : SimulationConfig) (timeMs : TimestampMs)
    (projectileId : NetworkEntityId) (projectile : ProjectileComponent) (target : Components) :
    Option (Components × EventList) :=
  match target.identity, target.player with
  | some identity, some player => do
      let damage := projectileDamage config projectile
      let left ← sub32 player.health damage
      let health := max 0 left
      let hit : EventList :=
        [.hitConfirmed { attackerId := projectile.ownerId, targetId := identity.id,
                         projectileId := projectileId, serverTimeMs := timeMs },
         .playerDamaged { entityId := identity.id, attackerId := projectile.ownerId,
                          damage := damage, healthAfter := health }]
      if health ≤ 0 then
        let respawnAtMs := timeMs + config.respawnDelayMs
        some ({ target with
           player := some { player with health := health, defeated := true,
                                        respawnAtMs := respawnAtMs } },
         hit ++ [.playerDied { entityId := identity.id, attackerId := projectile.ownerId,
                               respawnAtMs := respawnAtMs }])
      else some ({ target with player := some { player with health := health } }, hit)
  | _, _ => some (target, [])

/-! The loops. -/

def updateEntity (sim : GameSimulation)
    (update : Components → Option (Components × EventList)) (entity : Entity) :
    Option GameSimulation :=
  match sim.registry.get? entity with
  | none => some sim
  | some row => do
      let changed ← update row
      some
        { sim with
          registry := sim.registry.modify entity fun _ => changed.1
          events := sim.events ++ changed.2 }

def forEachEntity (sim : GameSimulation) (order : LoopOrder) (site : LoopSite)
    (holds : Components → Bool) (update : Components → Option (Components × EventList)) :
    Option GameSimulation :=
  (sim.registry.view order site holds).foldlM (fun sim entity => updateEntity sim update entity) sim

def processInputs (order : LoopOrder) (sim : GameSimulation) : Option GameSimulation := do
  let applied := sim.pendingInputs.foldl applyPendingInput sim
  let cleared := { applied with pendingInputs := [] }
  let moved ← forEachEntity cleared order .integrateMovement (fun row => row.player.isSome)
    (integrateMovement cleared.config)
  some { moved with registry := moved.registry.mapRows clearIntent }

def createProjectile (sim : GameSimulation) (request : ProjectileRequest) :
    Option GameSimulation := do
  let entity := sim.registry.created
  let (sim, networkId) := sim.allocateNetworkId
  let row ← projectileRow sim.timeMs networkId request
  some
    { sim with
      registry := sim.registry.create row
      entityByNetworkId := sim.entityByNetworkId.insert networkId entity
      events := sim.events ++
        [.projectileSpawned { projectileId := networkId, ownerId := request.ownerId,
                              x := request.transform.x, y := request.transform.y,
                              sourceWeapon := request.weapon.type }] }

def processWeaponWarmups (order : LoopOrder) (sim : GameSimulation) : Option GameSimulation :=
  let projectilesToSpawn :=
    (sim.registry.view order .weaponWarmups inWarmupView).filterMap fun entity =>
      (sim.registry.get? entity).bind (projectileRequest sim.config sim.timeMs)
  let fired := sim.forEachEntity order .weaponWarmups inWarmupView
    (finishWarmup sim.config sim.timeMs)
  projectilesToSpawn.foldlM createProjectile fired

/-- The loop of a projectile over its targets, up to the one it hits. -/
def findTarget (sim : GameSimulation) (projectile : ProjectileComponent)
    (transform : TransformComponent) : List Entity → Option (Option Entity)
  | [] => some none
  | target :: rest => do
      let hit ←
        match sim.registry.get? target with
        | none => some false
        | some row => hits projectile transform row
      if hit then some (some target) else findTarget sim projectile transform rest

def processProjectile (targets : List Entity) (state : GameSimulation × List Entity)
    (entity : Entity) : Option (GameSimulation × List Entity) :=
  let (sim, toDestroy) := state
  match sim.registry.get? entity with
  | none => some state
  | some row => do
      let flown ← fly sim.config row
      match flown.identity, flown.projectile, flown.transform with
      | some identity, some projectile, some transform => do
          let moved ← updateEntity sim (fun row => do
            let flown ← fly sim.config row
            some (flown, [])) entity
          let gone ← projectileGone sim.config sim.timeMs projectile transform
          if gone then some (moved, toDestroy ++ [entity])
          else do
            let found ← findTarget moved projectile transform targets
            match found with
            | none => some (moved, toDestroy)
            | some target => do
                let struck ← updateEntity moved
                  (damagePlayer sim.config sim.timeMs identity.id projectile) target
                some (struck, toDestroy ++ [entity])
      | _, _, _ => some state

def processProjectiles (order : LoopOrder) (sim : GameSimulation) : Option GameSimulation := do
  let targets := sim.registry.view order .projectileTargets inTargetView
  let looped ← (sim.registry.view order .projectiles inProjectileView).foldlM
    (processProjectile targets) (sim, [])
  some (looped.2.foldl destroyProjectile looped.1)

def processRespawns (order : LoopOrder) (sim : GameSimulation) : Option GameSimulation :=
  forEachEntity sim order .respawns inRespawnView (respawnPlayer sim.config sim.timeMs)

def tickFixed (order : LoopOrder) (sim : GameSimulation) : Option GameSimulation := do
  let moved ← processInputs order (advanceClock sim)
  let fired ← processWeaponWarmups order moved
  let flown ← processProjectiles order fired
  processRespawns order flown

def submitLogin (sim : GameSimulation) (command : LoginCommand) :
    Option (GameSimulation × Bool) :=
  let clientId := command.header.clientId
  if clientId ∈ sim.playerByClient then some (sim, true)
  else if sim.config.maxPlayers.toNat ≤ sim.playerByClient.size then some (sim, false)
  else do
    let sequenced :=
      { sim with
        lastAcceptedSequence := sim.lastAcceptedSequence.insert clientId command.header.sequence }
    let spawn ← spawnTransformForClient sim.config clientId
    some (createPlayer sequenced clientId spawn.x spawn.y, true)

def serverStep (sim : GameSimulation) : ServerCall → Option GameSimulation
  | .login command => do
      let logged ← submitLogin sim command
      some logged.1
  | .input packet => some (submitInput sim packet).1
  | .tick order => tickFixed order sim

def serverRun (config : SimulationConfig) (calls : List ServerCall) : Option GameSimulation :=
  calls.foldlM serverStep { config := config }

end Brawololo.TrappingSimulation
