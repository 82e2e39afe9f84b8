import Brawololo.GameTypes

/-!
Reliable network events: the ten payload layouts, the kind tag the wire
carries and the two conversions to and from domain events. The source computes
the tag from the index of the variant, so `payloadIndex` and the order of
`NetworkEventKind` are kept as two separate declarations here.
-/

namespace Brawololo.NetworkEvents

open GameTypes

inductive NetworkEventKind where
  | playerSpawned
  | weaponWarmupStarted
  | bowFired
  | projectileSpawned
  | hitConfirmed
  | playerDamaged
  | playerDied
  | playerRespawned
  | entityEnteredInterest
  | entityLeftInterest
  deriving DecidableEq

structure PlayerSpawnedEventDTO where
  entityId : NetworkEntityId := {}
  clientId : ClientId := 0
  x : Fixed := 0
  y : Fixed := 0
  deriving DecidableEq

structure WeaponWarmupStartedEventDTO where
  entityId : NetworkEntityId := {}
  startedAtMs : TimestampMs := 0
  completesAtMs : TimestampMs := 0
  weaponType : WeaponType := .none
  deriving DecidableEq

/-- `BowFiredEventDTO` is an alias of this DTO in the source. -/
structure WeaponFiredEventDTO where
  entityId : NetworkEntityId := {}
  firedAtMs : TimestampMs := 0
  weaponType : WeaponType := .none
  deriving DecidableEq

structure ProjectileSpawnedEventDTO where
  projectileId : NetworkEntityId := {}
  ownerId : NetworkEntityId := {}
  x : Fixed := 0
  y : Fixed := 0
  sourceWeapon : WeaponType := .none
  deriving DecidableEq

structure HitConfirmedEventDTO where
  attackerId : NetworkEntityId := {}
  targetId : NetworkEntityId := {}
  projectileId : NetworkEntityId := {}
  serverTimeMs : TimestampMs := 0
  deriving DecidableEq

structure PlayerDamagedEventDTO where
  entityId : NetworkEntityId := {}
  attackerId : NetworkEntityId := {}
  damage : Int32 := 0
  healthAfter : Int32 := 0
  deriving DecidableEq

structure PlayerDiedEventDTO where
  entityId : NetworkEntityId := {}
  attackerId : NetworkEntityId := {}
  respawnAtMs : TimestampMs := 0
  deriving DecidableEq

structure PlayerRespawnedEventDTO where
  entityId : NetworkEntityId := {}
  x : Fixed := 0
  y : Fixed := 0
  deriving DecidableEq

structure EntityEnteredInterestEventDTO where
  entityId : NetworkEntityId := {}
  observerClientId : ClientId := 0
  deriving DecidableEq

structure EntityLeftInterestEventDTO where
  entityId : NetworkEntityId := {}
  observerClientId : ClientId := 0
  deriving DecidableEq

inductive NetworkEventPayloadDTO where
  | playerSpawned (dto : PlayerSpawnedEventDTO)
  | weaponWarmupStarted (dto : WeaponWarmupStartedEventDTO)
  | weaponFired (dto : WeaponFiredEventDTO)
  | projectileSpawned (dto : ProjectileSpawnedEventDTO)
  | hitConfirmed (dto : HitConfirmedEventDTO)
  | playerDamaged (dto : PlayerDamagedEventDTO)
  | playerDied (dto : PlayerDiedEventDTO)
  | playerRespawned (dto : PlayerRespawnedEventDTO)
  | entityEnteredInterest (dto : EntityEnteredInterestEventDTO)
  | entityLeftInterest (dto : EntityLeftInterestEventDTO)
  deriving DecidableEq

structure NetworkEventDTO where
  eventId : NetworkEventId := 0
  serverTick : Tick := 0
  serverTimeMs : TimestampMs := 0
  payload : NetworkEventPayloadDTO := .playerSpawned {}
  deriving DecidableEq

structure NetworkEventAckDTO where
  clientId : ClientId := 0
  eventId : NetworkEventId := 0
  clientReceivedAtMs : TimestampMs := 0
  deriving DecidableEq

/-- `std::variant::index`, from the order of the payload alternatives. -/
def payloadIndex : NetworkEventPayloadDTO → UInt8
  | .playerSpawned _ => 0
  | .weaponWarmupStarted _ => 1
  | .weaponFired _ => 2
  | .projectileSpawned _ => 3
  | .hitConfirmed _ => 4
  | .playerDamaged _ => 5
  | .playerDied _ => 6
  | .playerRespawned _ => 7
  | .entityEnteredInterest _ => 8
  | .entityLeftInterest _ => 9

/-- The enumerator with a given underlying value, from the order of the enumeration. -/
def networkEventKindOfByte (byte : UInt8) : NetworkEventKind :=
  if byte = 0 then .playerSpawned
  else if byte = 1 then .weaponWarmupStarted
  else if byte = 2 then .bowFired
  else if byte = 3 then .projectileSpawned
  else if byte = 4 then .hitConfirmed
  else if byte = 5 then .playerDamaged
  else if byte = 6 then .playerDied
  else if byte = 7 then .playerRespawned
  else if byte = 8 then .entityEnteredInterest
  else .entityLeftInterest

def networkEventKindByte : NetworkEventKind → UInt8
  | .playerSpawned => 0
  | .weaponWarmupStarted => 1
  | .bowFired => 2
  | .projectileSpawned => 3
  | .hitConfirmed => 4
  | .playerDamaged => 5
  | .playerDied => 6
  | .playerRespawned => 7
  | .entityEnteredInterest => 8
  | .entityLeftInterest => 9

def kindForNetworkEvent (event : NetworkEventDTO) : NetworkEventKind :=
  networkEventKindOfByte (payloadIndex event.payload)

def toNetworkEventDTO (eventId : NetworkEventId) (serverTick : Tick)
    (serverTimeMs : TimestampMs) (event : DomainEvent) : Option NetworkEventDTO :=
  let withPayload (payload : NetworkEventPayloadDTO) : Option NetworkEventDTO :=
    some { eventId, serverTick, serverTimeMs, payload }
  match event with
  | .playerSpawned spawned =>
      withPayload (.playerSpawned
        { entityId := spawned.entityId, clientId := spawned.clientId, x := spawned.x, y := spawned.y })
  | .weaponWarmupStarted warmup =>
      withPayload (.weaponWarmupStarted
        { entityId := warmup.entityId, startedAtMs := warmup.startedAtMs,
          completesAtMs := warmup.completesAtMs, weaponType := warmup.weaponType })
  | .weaponFired fired =>
      withPayload (.weaponFired
        { entityId := fired.entityId, firedAtMs := fired.firedAtMs, weaponType := fired.weaponType })
  | .projectileSpawned projectile =>
      withPayload (.projectileSpawned
        { projectileId := projectile.projectileId, ownerId := projectile.ownerId,
          x := projectile.x, y := projectile.y, sourceWeapon := projectile.sourceWeapon })
  | .hitConfirmed hit =>
      withPayload (.hitConfirmed
        { attackerId := hit.attackerId, targetId := hit.targetId,
          projectileId := hit.projectileId, serverTimeMs := hit.serverTimeMs })
  | .playerDamaged damaged =>
      withPayload (.playerDamaged
        { entityId := damaged.entityId, attackerId := damaged.attackerId,
          damage := damaged.damage, healthAfter := damaged.healthAfter })
  | .playerDied died =>
      withPayload (.playerDied
        { entityId := died.entityId, attackerId := died.attackerId, respawnAtMs := died.respawnAtMs })
  | .playerRespawned respawned =>
      withPayload (.playerRespawned
        { entityId := respawned.entityId, x := respawned.x, y := respawned.y })
  | .entityEnteredInterest entered =>
      withPayload (.entityEnteredInterest
        { entityId := entered.entityId, observerClientId := entered.observerClientId })
  | .entityLeftInterest left =>
      withPayload (.entityLeftInterest
        { entityId := left.entityId, observerClientId := left.observerClientId })
  -- Movement and the two reconciliation events stay local.
  | .playerMoved _ | .snapshotApplied _ | .localPredictionCorrected _ => none

def toDomainEvent (event : NetworkEventDTO) : Option DomainEvent :=
  match event.payload with
  | .playerSpawned spawned =>
      some (.playerSpawned
        { entityId := spawned.entityId, clientId := spawned.clientId, x := spawned.x, y := spawned.y })
  | .weaponWarmupStarted warmup =>
      some (.weaponWarmupStarted
        { entityId := warmup.entityId, startedAtMs := warmup.startedAtMs,
          completesAtMs := warmup.completesAtMs, weaponType := warmup.weaponType })
  | .weaponFired fired =>
      some (.weaponFired
        { entityId := fired.entityId, firedAtMs := fired.firedAtMs, weaponType := fired.weaponType })
  | .projectileSpawned projectile =>
      some (.projectileSpawned
        { projectileId := projectile.projectileId, ownerId := projectile.ownerId,
          x := projectile.x, y := projectile.y, sourceWeapon := projectile.sourceWeapon })
  | .hitConfirmed hit =>
      some (.hitConfirmed
        { attackerId := hit.attackerId, targetId := hit.targetId,
          projectileId := hit.projectileId, serverTimeMs := hit.serverTimeMs })
  | .playerDamaged damaged =>
      some (.playerDamaged
        { entityId := damaged.entityId, attackerId := damaged.attackerId,
          damage := damaged.damage, healthAfter := damaged.healthAfter })
  | .playerDied died =>
      some (.playerDied
        { entityId := died.entityId, attackerId := died.attackerId, respawnAtMs := died.respawnAtMs })
  | .playerRespawned respawned =>
      some (.playerRespawned
        { entityId := respawned.entityId, x := respawned.x, y := respawned.y })
  | .entityEnteredInterest entered =>
      some (.entityEnteredInterest
        { entityId := entered.entityId, observerClientId := entered.observerClientId })
  | .entityLeftInterest left =>
      some (.entityLeftInterest
        { entityId := left.entityId, observerClientId := left.observerClientId })

theorem to_domain_event_total (event : NetworkEventDTO) :
    ∃ domain, toDomainEvent event = some domain := by
  unfold toDomainEvent
  cases event.payload <;> exact ⟨_, rfl⟩

/-- Every event that has a network form survives the way there and back. -/
theorem to_domain_event_of_network (eventId : NetworkEventId) (serverTick : Tick)
    (serverTimeMs : TimestampMs) (event : DomainEvent) (dto : NetworkEventDTO)
    (converted : toNetworkEventDTO eventId serverTick serverTimeMs event = some dto) :
    toDomainEvent dto = some event ∧ dto.eventId = eventId ∧ dto.serverTick = serverTick ∧
      dto.serverTimeMs = serverTimeMs := by
  cases event <;>
    simp only [toNetworkEventDTO, Option.some.injEq, reduceCtorEq] at converted <;>
    subst dto <;> simp [toDomainEvent]

end Brawololo.NetworkEvents
