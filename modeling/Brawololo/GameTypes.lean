import Mathlib.Tactic

/-!
The plain data of `GameLogic`: identifiers, fixed-point numbers, weapons, map
chunks, commands, domain events and the replication DTOs. Every number has the
width the source gives it, so wrap-around and truncation are those of the
two's complement types. A weapon table is a list of definitions.
-/

namespace Brawololo.GameTypes

abbrev ClientId := UInt32
abbrev CommandSequence := UInt32
abbrev NetworkEventId := UInt32
abbrev SnapshotId := UInt32
abbrev Tick := UInt64
abbrev TimestampMs := UInt64

structure NetworkEntityId where
  value : UInt32 := 0
  deriving DecidableEq

instance : Ord NetworkEntityId := ⟨fun left right => compare left.value right.value⟩

instance : Std.TransOrd NetworkEntityId :=
  inferInstanceAs (Std.TransCmp (compareOn NetworkEntityId.value))

instance : Std.LawfulEqOrd NetworkEntityId where
  eq_of_compare {left right} same := by
    have value : left.value = right.value := Std.LawfulEqOrd.eq_of_compare same
    cases left; cases right; simp_all

def kInvalidNetworkEntity : NetworkEntityId := { value := 0 }

/-! Fixed-point arithmetic. -/

abbrev Fixed := Int32

def kFixedOne : Fixed := 1000

def pixelsToFixed (pixels : Int32) : Fixed := pixels * kFixedOne

def fixedToPixels (value : Fixed) : Int32 := value / kFixedOne

def fixedMulRatio (value : Fixed) (numerator denominator : Int32) : Fixed :=
  ((value.toInt64 * numerator.toInt64) / denominator.toInt64).toInt32

/-- `std::clamp`. -/
def clampFixed (value minValue maxValue : Fixed) : Fixed :=
  if value < minValue then minValue else if maxValue < value then maxValue else value

structure Vec2Input where
  x : Int16 := 0
  y : Int16 := 0
  deriving DecidableEq

def digitalSign (move : Int8) : Int16 :=
  (if 0 < move then 1 else 0) - (if move < 0 then 1 else 0)

def normalizeDigitalInput (moveX moveY : Int8) : Vec2Input :=
  let clampedX := digitalSign moveX
  let clampedY := digitalSign moveY
  if clampedX ≠ 0 ∧ clampedY ≠ 0 then
    { x := clampedX * 707, y := clampedY * 707 }
  else
    { x := clampedX * 1000, y := clampedY * 1000 }

/-! Weapons. -/

inductive WeaponType where
  | none
  | bow
  deriving DecidableEq

def kWeaponTypeCount : Nat := 2

structure WeaponDefinition where
  type : WeaponType := .none
  warmupMs : TimestampMs := 0
  projectileSpeedPerSecond : Fixed := 0
  projectileLifetimeMs : TimestampMs := 0
  damage : Int32 := 0
  serverSpawnedProjectile : Bool := false
  deriving DecidableEq

abbrev WeaponDefinitionTable := List WeaponDefinition

def defaultWeaponDefinition : WeaponType → WeaponDefinition
  | .bow =>
      { type := .bow, warmupMs := 300, projectileSpeedPerSecond := pixelsToFixed 900,
        projectileLifetimeMs := 2000, damage := 35, serverSpawnedProjectile := true }
  | .none => {}

def defaultWeaponDefinitions : WeaponDefinitionTable :=
  [defaultWeaponDefinition .none, defaultWeaponDefinition .bow]

def findWeaponDefinition (definitions : WeaponDefinitionTable) (type : WeaponType) :
    Option WeaponDefinition :=
  definitions.find? fun definition => definition.type = type

/-! Map chunks. -/

structure MapConfig where
  tileSizePixels : Int32 := 128
  widthTiles : Int32 := 80
  heightTiles : Int32 := 80
  chunkSizeTiles : Int32 := 8
  interestRadiusChunks : Int32 := 1
  deriving DecidableEq

structure ChunkCoord where
  x : Int32 := 0
  y : Int32 := 0
  deriving DecidableEq

/-- The division of the code traps when the size of a chunk is 0, and its products
have no value when they overflow; here a quotient by 0 is 0 and a product wraps. -/
def chunkForPosition (config : MapConfig) (x y : Fixed) : ChunkCoord :=
  let chunkSizePixels := config.tileSizePixels * config.chunkSizeTiles
  let pixelX := clampFixed (fixedToPixels x) 0 (config.widthTiles * config.tileSizePixels - 1)
  let pixelY := clampFixed (fixedToPixels y) 0 (config.heightTiles * config.tileSizePixels - 1)
  { x := pixelX / chunkSizePixels, y := pixelY / chunkSizePixels }

def absInt32 (value : Int32) : Int32 := if value < 0 then -value else value

def isChunkInAreaOfInterest (config : MapConfig) (observer candidate : ChunkCoord) : Bool :=
  let dx := absInt32 (observer.x - candidate.x)
  let dy := absInt32 (observer.y - candidate.y)
  dx ≤ config.interestRadiusChunks && dy ≤ config.interestRadiusChunks

def mapWidthFixed (config : MapConfig) : Fixed :=
  pixelsToFixed (config.widthTiles * config.tileSizePixels)

def mapHeightFixed (config : MapConfig) : Fixed :=
  pixelsToFixed (config.heightTiles * config.tileSizePixels)

/-! Commands. -/

structure CommandHeader where
  clientId : ClientId := 0
  sequence : CommandSequence := 0
  clientTimestampMs : TimestampMs := 0
  deriving DecidableEq

structure LoginCommand where
  header : CommandHeader := {}
  deriving DecidableEq

structure InputFrame where
  moveX : Int8 := 0
  moveY : Int8 := 0
  aimX : Int16 := 1000
  aimY : Int16 := 0
  fire : Bool := false
  deriving DecidableEq

structure ClientInputPacket where
  header : CommandHeader := {}
  input : InputFrame := {}
  deriving DecidableEq

/-! Domain events. -/

structure PlayerSpawned where
  entityId : NetworkEntityId := {}
  clientId : ClientId := 0
  x : Fixed := 0
  y : Fixed := 0
  deriving DecidableEq

structure PlayerMoved where
  entityId : NetworkEntityId := {}
  fromX : Fixed := 0
  fromY : Fixed := 0
  toX : Fixed := 0
  toY : Fixed := 0
  deriving DecidableEq

structure WeaponWarmupStarted where
  entityId : NetworkEntityId := {}
  startedAtMs : TimestampMs := 0
  completesAtMs : TimestampMs := 0
  weaponType : WeaponType := .none
  deriving DecidableEq

/-- `BowFired` is an alias of this event in the source. -/
structure WeaponFired where
  entityId : NetworkEntityId := {}
  firedAtMs : TimestampMs := 0
  weaponType : WeaponType := .none
  deriving DecidableEq

structure ProjectileSpawned where
  projectileId : NetworkEntityId := {}
  ownerId : NetworkEntityId := {}
  x : Fixed := 0
  y : Fixed := 0
  sourceWeapon : WeaponType := .none
  deriving DecidableEq

structure HitConfirmed where
  attackerId : NetworkEntityId := {}
  targetId : NetworkEntityId := {}
  projectileId : NetworkEntityId := {}
  serverTimeMs : TimestampMs := 0
  deriving DecidableEq

structure PlayerDamaged where
  entityId : NetworkEntityId := {}
  attackerId : NetworkEntityId := {}
  damage : Int32 := 0
  healthAfter : Int32 := 0
  deriving DecidableEq

structure PlayerDied where
  entityId : NetworkEntityId := {}
  attackerId : NetworkEntityId := {}
  respawnAtMs : TimestampMs := 0
  deriving DecidableEq

structure PlayerRespawned where
  entityId : NetworkEntityId := {}
  x : Fixed := 0
  y : Fixed := 0
  deriving DecidableEq

structure EntityEnteredInterest where
  entityId : NetworkEntityId := {}
  observerClientId : ClientId := 0
  deriving DecidableEq

structure EntityLeftInterest where
  entityId : NetworkEntityId := {}
  observerClientId : ClientId := 0
  deriving DecidableEq

structure SnapshotApplied where
  snapshotId : SnapshotId := 0
  baselineId : SnapshotId := 0
  ackedInputSequence : CommandSequence := 0
  deriving DecidableEq

structure LocalPredictionCorrected where
  entityId : NetworkEntityId := {}
  predictedX : Fixed := 0
  predictedY : Fixed := 0
  authoritativeX : Fixed := 0
  authoritativeY : Fixed := 0
  deriving DecidableEq

inductive DomainEvent where
  | playerSpawned (event : PlayerSpawned)
  | playerMoved (event : PlayerMoved)
  | weaponWarmupStarted (event : WeaponWarmupStarted)
  | weaponFired (event : WeaponFired)
  | projectileSpawned (event : ProjectileSpawned)
  | hitConfirmed (event : HitConfirmed)
  | playerDamaged (event : PlayerDamaged)
  | playerDied (event : PlayerDied)
  | playerRespawned (event : PlayerRespawned)
  | entityEnteredInterest (event : EntityEnteredInterest)
  | entityLeftInterest (event : EntityLeftInterest)
  | snapshotApplied (event : SnapshotApplied)
  | localPredictionCorrected (event : LocalPredictionCorrected)
  deriving DecidableEq

abbrev EventList := List DomainEvent

/-! Replication DTOs. -/

inductive SnapshotPriority where
  | low
  | medium
  | high
  deriving DecidableEq

inductive ReplicatedEntityKind where
  | player
  | projectile
  deriving DecidableEq

inductive SnapshotDeliveryKind where
  | full
  | deltaEligible
  deriving DecidableEq

structure MovementStateDTO where
  entityId : NetworkEntityId := {}
  x : Fixed := 0
  y : Fixed := 0
  vx : Fixed := 0
  vy : Fixed := 0
  aimX : Int16 := 1000
  aimY : Int16 := 0
  deriving DecidableEq

structure CombatStateDTO where
  entityId : NetworkEntityId := {}
  health : Int32 := 100
  maxHealth : Int32 := 100
  weaponType : WeaponType := .none
  weaponWarming : Bool := false
  weaponWarmupCompletesAtMs : TimestampMs := 0
  defeated : Bool := false
  respawnAtMs : TimestampMs := 0
  serverOwnedProjectile : Bool := false
  projectileOwnerId : NetworkEntityId := {}
  deriving DecidableEq

structure ReplicationStateDTO where
  entityId : NetworkEntityId := {}
  ownerClientId : ClientId := 0
  kind : ReplicatedEntityKind := .player
  priority : SnapshotPriority := .medium
  deriving DecidableEq

structure EntityStateDTO where
  movement : MovementStateDTO := {}
  combat : Option CombatStateDTO := none
  replication : ReplicationStateDTO := {}
  deriving DecidableEq

structure SnapshotDTO where
  snapshotId : SnapshotId := 0
  baselineId : SnapshotId := 0
  deliveryKind : SnapshotDeliveryKind := .full
  serverTick : Tick := 0
  serverTimeMs : TimestampMs := 0
  ackedInputSequence : CommandSequence := 0
  entities : List EntityStateDTO := []
  deriving DecidableEq

structure SnapshotAckDTO where
  clientId : ClientId := 0
  snapshotId : SnapshotId := 0
  baselineId : SnapshotId := 0
  ackedInputSequence : CommandSequence := 0
  clientReceivedAtMs : TimestampMs := 0
  deriving DecidableEq

/-! Time synchronisation messages. -/

structure TimeSyncRequest where
  clientId : ClientId := 0
  sequence : CommandSequence := 0
  clientSentAtMs : TimestampMs := 0
  deriving DecidableEq

structure TimeSyncResponse where
  clientId : ClientId := 0
  sequence : CommandSequence := 0
  clientSentAtMs : TimestampMs := 0
  serverReceivedAtMs : TimestampMs := 0
  serverSentAtMs : TimestampMs := 0
  deriving DecidableEq

structure TimeSyncSample where
  clientSentAtMs : TimestampMs := 0
  serverReceivedAtMs : TimestampMs := 0
  clientReceivedAtMs : TimestampMs := 0
  deriving DecidableEq

end Brawololo.GameTypes
