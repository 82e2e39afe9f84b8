import Brawololo.ClientProtocolPump
import Brawololo.PresentationFrames

/-!
What a client draws. The view lists the players and projectiles of the client's
own simulation and lays the presentation frame over them, except for the local
player. The presentation is sampled at the clock of that simulation.
-/

namespace Brawololo.Client

open GameTypes EntityStore Simulation

inductive ViewEntityKind where
  | player
  | projectile
  deriving DecidableEq

inductive ViewAuthorityRole where
  | predicted
  | interpolated
  | authoritative
  deriving DecidableEq

structure ViewEntity where
  entityId : NetworkEntityId := {}
  ownerClientId : ClientId := 0
  kind : ViewEntityKind := .player
  role : ViewAuthorityRole := .interpolated
  x : Fixed := 0
  y : Fixed := 0
  aimX : Int16 := 1000
  aimY : Int16 := 0
  health : Int32 := 100
  maxHealth : Int32 := 100
  weaponType : WeaponType := .none
  weaponWarming : Bool := false
  defeated : Bool := false
  deriving DecidableEq

structure ClientApplicationStats where
  fixedTick : Tick := 0
  entityCount : Nat := 0
  unackedInputCount : Nat := 0
  session : ClientSessionStats := {}
  deriving DecidableEq

structure ClientViewFrame where
  localClientId : ClientId := 0
  stats : ClientApplicationStats := {}
  presentation : PresentationFrame := {}
  entities : List ViewEntity := []
  eventLines : List String := []
  deriving DecidableEq

/-! Entities of the simulation. -/

inductive ViewLoop where
  | players
  | projectiles
  deriving DecidableEq

def roleFor (row : Components) : ViewAuthorityRole :=
  if row.predicted then .predicted
  else if row.authoritative then .authoritative
  else .interpolated

def kindFor : ReplicatedEntityKind → ViewEntityKind
  | .player => .player
  | .projectile => .projectile

def inPlayersView (row : Components) : Bool :=
  row.identity.isSome && row.transform.isSome && row.player.isSome && row.aim.isSome &&
    row.weapon.isSome

def playerView (row : Components) : Option ViewEntity :=
  match row.identity, row.transform, row.player, row.aim, row.weapon with
  | some identity, some transform, some player, some aim, some weapon =>
      some { entityId := identity.id, ownerClientId := player.clientId, kind := .player
             role := roleFor row, x := transform.x, y := transform.y, aimX := aim.x, aimY := aim.y
             health := player.health, maxHealth := player.maxHealth, weaponType := weapon.type
             weaponWarming := weapon.warming, defeated := player.defeated }
  | _, _, _, _, _ => none

def inProjectilesView (row : Components) : Bool :=
  row.identity.isSome && row.transform.isSome && row.projectile.isSome

def projectileView (row : Components) : Option ViewEntity :=
  match row.identity, row.transform, row.projectile with
  | some identity, some transform, some projectile =>
      some { entityId := identity.id, ownerClientId := projectile.ownerId.value
             kind := .projectile, role := roleFor row, x := transform.x, y := transform.y
             aimX := 1000, aimY := 0, health := 0, maxHealth := 0, weaponType := .none
             weaponWarming := false, defeated := false }
  | _, _, _ => none

/-! Entities of the presentation. -/

def overlay (interpolated : InterpolatedEntityState) (entity : ViewEntity) : ViewEntity :=
  { entity with
    role := .interpolated
    x := interpolated.x
    y := interpolated.y
    aimX := interpolated.aimX
    aimY := interpolated.aimY
    health := interpolated.health
    maxHealth := interpolated.maxHealth
    weaponType := interpolated.weaponType
    weaponWarming := interpolated.weaponWarming
    defeated := interpolated.defeated }

def presented (interpolated : InterpolatedEntityState) : ViewEntity :=
  { entityId := interpolated.entityId, ownerClientId := interpolated.ownerClientId
    kind := kindFor interpolated.kind, role := .interpolated, x := interpolated.x
    y := interpolated.y, aimX := interpolated.aimX, aimY := interpolated.aimY
    health := interpolated.health, maxHealth := interpolated.maxHealth
    weaponType := interpolated.weaponType, weaponWarming := interpolated.weaponWarming
    defeated := interpolated.defeated }

def applyInterpolated (localClientId : ClientId) (entities : List ViewEntity)
    (interpolated : InterpolatedEntityState) : List ViewEntity :=
  if interpolated.kind = .player ∧ interpolated.ownerClientId = localClientId then entities
  else
    match entities.findIdx? fun entity => entity.entityId = interpolated.entityId with
    | some place => entities.modify place (overlay interpolated)
    | none => entities ++ [presented interpolated]

def applyPresentationFrame (frame : ClientViewFrame) : ClientViewFrame :=
  { frame with
    entities :=
      frame.presentation.entities.foldl (applyInterpolated frame.localClientId) frame.entities }

/-! Lines about events. -/

def eventLine : DomainEvent → String
  | .playerSpawned event => "Player spawned: client " ++ toString event.clientId
  | .weaponWarmupStarted event =>
      "Bow warmup started: entity " ++ toString event.entityId.value
  | .weaponFired event => "Bow fired: entity " ++ toString event.entityId.value
  | .projectileSpawned event =>
      "Projectile spawned: entity " ++ toString event.projectileId.value
  | .hitConfirmed event =>
      "Hit confirmed: " ++ toString event.attackerId.value ++ " -> " ++
        toString event.targetId.value
  | .playerDamaged event =>
      "Player damaged: entity " ++ toString event.entityId.value ++ " for " ++
        toString event.damage ++ " hp, remaining " ++ toString event.healthAfter
  | .playerDied event =>
      "Player died: entity " ++ toString event.entityId.value ++ ", respawn at " ++
        toString event.respawnAtMs ++ "ms"
  | .playerRespawned event => "Player respawned: entity " ++ toString event.entityId.value
  | .localPredictionCorrected event =>
      "Prediction corrected: entity " ++ toString event.entityId.value
  | .entityEnteredInterest event =>
      "Entity entered interest: " ++ toString event.entityId.value
  | .entityLeftInterest event => "Entity left interest: " ++ toString event.entityId.value
  | .snapshotApplied event => "Snapshot applied: " ++ toString event.snapshotId
  | .playerMoved _ => "Simulation event"

/-! The view. -/

def buildClientViewFrame (order : IterationOrder ViewLoop) (runtime : ClientRuntime)
    (events : EventList) (stats : ClientApplicationStats) : ClientViewFrame :=
  let registry := runtime.simulation.registry
  let players := (registry.view order .players inPlayersView).filterMap fun entity =>
    (registry.get? entity).bind playerView
  let projectiles := (registry.view order .projectiles inProjectilesView).filterMap fun entity =>
    (registry.get? entity).bind projectileView
  applyPresentationFrame
    { localClientId := runtime.localClientId
      stats := stats
      presentation := runtime.presentationInterpolator.sample runtime.simulation.timeMs
      entities := players ++ projectiles
      eventLines := events.map eventLine }

theorem view_presentation (order : IterationOrder ViewLoop) (runtime : ClientRuntime)
    (events : EventList) (stats : ClientApplicationStats) :
    (buildClientViewFrame order runtime events stats).presentation =
      runtime.presentationInterpolator.sample runtime.simulation.timeMs := rfl

end Brawololo.Client
