import Brawololo.Serialization

/-!
The reliable event format: event id, server clock, a kind byte computed from
the payload's variant index, and one of ten field layouts chosen by the kind
when reading.
-/

namespace Brawololo.NetworkEventCodec

open GameTypes NetworkEvents ByteReader Serialization

def writePlayerSpawned (dto : PlayerSpawnedEventDTO) : List UInt8 :=
  writeEntityId dto.entityId ++ (podBytes dto.clientId ++ (podBytes dto.x ++ podBytes dto.y))

def readPlayerSpawned : ReadField PlayerSpawnedEventDTO :=
  (readEntityId.both <| (readPod ClientId).both <| (readPod Fixed).both <| readPod Fixed).map
  fun (entityId, clientId, x, y) => { entityId, clientId, x, y }

def writeWeaponWarmupStarted (dto : WeaponWarmupStartedEventDTO) : List UInt8 :=
  writeEntityId dto.entityId ++ (podBytes dto.startedAtMs ++ (podBytes dto.completesAtMs ++
    enumByte dto.weaponType))

def readWeaponWarmupStarted : ReadField WeaponWarmupStartedEventDTO :=
  (readEntityId.both <| (readPod TimestampMs).both <| (readPod TimestampMs).both <|
    readWeaponType).map
  fun (entityId, startedAtMs, completesAtMs, weaponType) =>
    { entityId, startedAtMs, completesAtMs, weaponType }

def writeWeaponFired (dto : WeaponFiredEventDTO) : List UInt8 :=
  writeEntityId dto.entityId ++ (podBytes dto.firedAtMs ++ enumByte dto.weaponType)

def readWeaponFired : ReadField WeaponFiredEventDTO :=
  (readEntityId.both <| (readPod TimestampMs).both <| readWeaponType).map
  fun (entityId, firedAtMs, weaponType) => { entityId, firedAtMs, weaponType }

def writeProjectileSpawned (dto : ProjectileSpawnedEventDTO) : List UInt8 :=
  writeEntityId dto.projectileId ++ (writeEntityId dto.ownerId ++ (podBytes dto.x ++
    (podBytes dto.y ++ enumByte dto.sourceWeapon)))

def readProjectileSpawned : ReadField ProjectileSpawnedEventDTO :=
  (readEntityId.both <| readEntityId.both <| (readPod Fixed).both <| (readPod Fixed).both <|
    readWeaponType).map
  fun (projectileId, ownerId, x, y, sourceWeapon) =>
    { projectileId, ownerId, x, y, sourceWeapon }

def writeHitConfirmed (dto : HitConfirmedEventDTO) : List UInt8 :=
  writeEntityId dto.attackerId ++ (writeEntityId dto.targetId ++
    (writeEntityId dto.projectileId ++ podBytes dto.serverTimeMs))

def readHitConfirmed : ReadField HitConfirmedEventDTO :=
  (readEntityId.both <| readEntityId.both <| readEntityId.both <| readPod TimestampMs).map
  fun (attackerId, targetId, projectileId, serverTimeMs) =>
    { attackerId, targetId, projectileId, serverTimeMs }

def writePlayerDamaged (dto : PlayerDamagedEventDTO) : List UInt8 :=
  writeEntityId dto.entityId ++ (writeEntityId dto.attackerId ++ (podBytes dto.damage ++
    podBytes dto.healthAfter))

def readPlayerDamaged : ReadField PlayerDamagedEventDTO :=
  (readEntityId.both <| readEntityId.both <| (readPod Int32).both <| readPod Int32).map
  fun (entityId, attackerId, damage, healthAfter) =>
    { entityId, attackerId, damage, healthAfter }

def writePlayerDied (dto : PlayerDiedEventDTO) : List UInt8 :=
  writeEntityId dto.entityId ++ (writeEntityId dto.attackerId ++ podBytes dto.respawnAtMs)

def readPlayerDied : ReadField PlayerDiedEventDTO :=
  (readEntityId.both <| readEntityId.both <| readPod TimestampMs).map
  fun (entityId, attackerId, respawnAtMs) => { entityId, attackerId, respawnAtMs }

def writePlayerRespawned (dto : PlayerRespawnedEventDTO) : List UInt8 :=
  writeEntityId dto.entityId ++ (podBytes dto.x ++ podBytes dto.y)

def readPlayerRespawned : ReadField PlayerRespawnedEventDTO :=
  (readEntityId.both <| (readPod Fixed).both <| readPod Fixed).map
  fun (entityId, x, y) => { entityId, x, y }

def writeEntityEnteredInterest (dto : EntityEnteredInterestEventDTO) : List UInt8 :=
  writeEntityId dto.entityId ++ podBytes dto.observerClientId

def readEntityEnteredInterest : ReadField EntityEnteredInterestEventDTO :=
  (readEntityId.both <| readPod ClientId).map
  fun (entityId, observerClientId) => { entityId, observerClientId }

def writeEntityLeftInterest (dto : EntityLeftInterestEventDTO) : List UInt8 :=
  writeEntityId dto.entityId ++ podBytes dto.observerClientId

def readEntityLeftInterest : ReadField EntityLeftInterestEventDTO :=
  (readEntityId.both <| readPod ClientId).map
  fun (entityId, observerClientId) => { entityId, observerClientId }

/-- The cascade of `std::get_if` branches of the writer. -/
def writePayload : NetworkEventPayloadDTO → List UInt8
  | .playerSpawned dto => writePlayerSpawned dto
  | .weaponWarmupStarted dto => writeWeaponWarmupStarted dto
  | .weaponFired dto => writeWeaponFired dto
  | .projectileSpawned dto => writeProjectileSpawned dto
  | .hitConfirmed dto => writeHitConfirmed dto
  | .playerDamaged dto => writePlayerDamaged dto
  | .playerDied dto => writePlayerDied dto
  | .playerRespawned dto => writePlayerRespawned dto
  | .entityEnteredInterest dto => writeEntityEnteredInterest dto
  | .entityLeftInterest dto => writeEntityLeftInterest dto

/-- The switch over the kind of the reader. -/
def readPayload : NetworkEventKind → ReadField NetworkEventPayloadDTO
  | .playerSpawned => readPlayerSpawned.map .playerSpawned
  | .weaponWarmupStarted => readWeaponWarmupStarted.map .weaponWarmupStarted
  | .bowFired => readWeaponFired.map .weaponFired
  | .projectileSpawned => readProjectileSpawned.map .projectileSpawned
  | .hitConfirmed => readHitConfirmed.map .hitConfirmed
  | .playerDamaged => readPlayerDamaged.map .playerDamaged
  | .playerDied => readPlayerDied.map .playerDied
  | .playerRespawned => readPlayerRespawned.map .playerRespawned
  | .entityEnteredInterest => readEntityEnteredInterest.map .entityEnteredInterest
  | .entityLeftInterest => readEntityLeftInterest.map .entityLeftInterest

def serializeNetworkEvent (event : NetworkEventDTO) : List UInt8 :=
  podBytes event.eventId ++ (podBytes event.serverTick ++ (podBytes event.serverTimeMs ++
    (enumByte (kindForNetworkEvent event) ++ writePayload event.payload)))

def readNetworkEvent : ReadField NetworkEventDTO :=
  ((readPod NetworkEventId).both <| (readPod Tick).both <| (readPod TimestampMs).both <|
    readNetworkEventKind).andThen
  fun (eventId, serverTick, serverTimeMs, kind) =>
    (readPayload kind).map fun payload => { eventId, serverTick, serverTimeMs, payload }

def deserializeNetworkEvent (bytes : List UInt8) : Option NetworkEventDTO :=
  decode readNetworkEvent bytes

theorem readPlayerSpawned_exact : readPlayerSpawned.Exact writePlayerSpawned :=
  (readEntityId_exact.both <| (readPod_exact ClientId).both <| (readPod_exact Fixed).both <|
    readPod_exact Fixed).map _
  (fun dto : PlayerSpawnedEventDTO => (dto.entityId, dto.clientId, dto.x, dto.y))
  (fun _ => rfl) (fun _ => rfl) (fun _ => rfl)

theorem readWeaponWarmupStarted_exact :
    readWeaponWarmupStarted.Exact writeWeaponWarmupStarted :=
  (readEntityId_exact.both <| (readPod_exact TimestampMs).both <|
    (readPod_exact TimestampMs).both <| readWeaponType_exact).map _
  (fun dto : WeaponWarmupStartedEventDTO =>
    (dto.entityId, dto.startedAtMs, dto.completesAtMs, dto.weaponType))
  (fun _ => rfl) (fun _ => rfl) (fun _ => rfl)

theorem readWeaponFired_exact : readWeaponFired.Exact writeWeaponFired :=
  (readEntityId_exact.both <| (readPod_exact TimestampMs).both <| readWeaponType_exact).map _
  (fun dto : WeaponFiredEventDTO => (dto.entityId, dto.firedAtMs, dto.weaponType))
  (fun _ => rfl) (fun _ => rfl) (fun _ => rfl)

theorem readProjectileSpawned_exact : readProjectileSpawned.Exact writeProjectileSpawned :=
  (readEntityId_exact.both <| readEntityId_exact.both <| (readPod_exact Fixed).both <|
    (readPod_exact Fixed).both <| readWeaponType_exact).map _
  (fun dto : ProjectileSpawnedEventDTO =>
    (dto.projectileId, dto.ownerId, dto.x, dto.y, dto.sourceWeapon))
  (fun _ => rfl) (fun _ => rfl) (fun _ => rfl)

theorem readHitConfirmed_exact : readHitConfirmed.Exact writeHitConfirmed :=
  (readEntityId_exact.both <| readEntityId_exact.both <| readEntityId_exact.both <|
    readPod_exact TimestampMs).map _
  (fun dto : HitConfirmedEventDTO =>
    (dto.attackerId, dto.targetId, dto.projectileId, dto.serverTimeMs))
  (fun _ => rfl) (fun _ => rfl) (fun _ => rfl)

theorem readPlayerDamaged_exact : readPlayerDamaged.Exact writePlayerDamaged :=
  (readEntityId_exact.both <| readEntityId_exact.both <| (readPod_exact Int32).both <|
    readPod_exact Int32).map _
  (fun dto : PlayerDamagedEventDTO =>
    (dto.entityId, dto.attackerId, dto.damage, dto.healthAfter))
  (fun _ => rfl) (fun _ => rfl) (fun _ => rfl)

theorem readPlayerDied_exact : readPlayerDied.Exact writePlayerDied :=
  (readEntityId_exact.both <| readEntityId_exact.both <| readPod_exact TimestampMs).map _
  (fun dto : PlayerDiedEventDTO => (dto.entityId, dto.attackerId, dto.respawnAtMs))
  (fun _ => rfl) (fun _ => rfl) (fun _ => rfl)

theorem readPlayerRespawned_exact : readPlayerRespawned.Exact writePlayerRespawned :=
  (readEntityId_exact.both <| (readPod_exact Fixed).both <| readPod_exact Fixed).map _
  (fun dto : PlayerRespawnedEventDTO => (dto.entityId, dto.x, dto.y))
  (fun _ => rfl) (fun _ => rfl) (fun _ => rfl)

theorem readEntityEnteredInterest_exact :
    readEntityEnteredInterest.Exact writeEntityEnteredInterest :=
  (readEntityId_exact.both <| readPod_exact ClientId).map _
  (fun dto : EntityEnteredInterestEventDTO => (dto.entityId, dto.observerClientId))
  (fun _ => rfl) (fun _ => rfl) (fun _ => rfl)

theorem readEntityLeftInterest_exact : readEntityLeftInterest.Exact writeEntityLeftInterest :=
  (readEntityId_exact.both <| readPod_exact ClientId).map _
  (fun dto : EntityLeftInterestEventDTO => (dto.entityId, dto.observerClientId))
  (fun _ => rfl) (fun _ => rfl) (fun _ => rfl)

/-- The kind under which a payload is written. -/
def payloadKind (payload : NetworkEventPayloadDTO) : NetworkEventKind :=
  networkEventKindOfByte (payloadIndex payload)

/-- What is read under a kind has that kind. -/
theorem read_payload_kind {kind : NetworkEventKind} {reader after : BinaryReader}
    {payload : NetworkEventPayloadDTO} (read : readPayload kind reader = (some payload, after)) :
    payloadKind payload = kind := by
  cases kind
  all_goals
    obtain ⟨dto, _, rfl⟩ := (Read.map_some_iff _ _ _ _ _).mp read
    rfl

/-- Reading a value and wrapping it is exact where the wrapper keeps values apart. -/
theorem wrapped_exact {α : Type} {read : ReadField α} {write : α → List UInt8}
    (exact : read.Exact write) {wrap : α → NetworkEventPayloadDTO}
    (injective : Function.Injective wrap) (value : α) (reader after : BinaryReader) :
    read.map wrap reader = (some (wrap value), after) ↔ reader.Consumes (write value) after := by
  rw [Read.map_some_iff, ← exact]
  constructor
  · rintro ⟨found, isRead, same⟩
    cases injective same
    exact isRead
  · intro isRead
    exact ⟨value, isRead, rfl⟩

theorem read_own_kind (payload : NetworkEventPayloadDTO) (reader after : BinaryReader) :
    readPayload (payloadKind payload) reader = (some payload, after) ↔
      reader.Consumes (writePayload payload) after := by
  cases payload with
  | playerSpawned dto =>
      exact wrapped_exact readPlayerSpawned_exact
        (fun _ _ => NetworkEventPayloadDTO.playerSpawned.inj) dto reader after
  | weaponWarmupStarted dto =>
      exact wrapped_exact readWeaponWarmupStarted_exact
        (fun _ _ => NetworkEventPayloadDTO.weaponWarmupStarted.inj) dto reader after
  | weaponFired dto =>
      exact wrapped_exact readWeaponFired_exact
        (fun _ _ => NetworkEventPayloadDTO.weaponFired.inj) dto reader after
  | projectileSpawned dto =>
      exact wrapped_exact readProjectileSpawned_exact
        (fun _ _ => NetworkEventPayloadDTO.projectileSpawned.inj) dto reader after
  | hitConfirmed dto =>
      exact wrapped_exact readHitConfirmed_exact
        (fun _ _ => NetworkEventPayloadDTO.hitConfirmed.inj) dto reader after
  | playerDamaged dto =>
      exact wrapped_exact readPlayerDamaged_exact
        (fun _ _ => NetworkEventPayloadDTO.playerDamaged.inj) dto reader after
  | playerDied dto =>
      exact wrapped_exact readPlayerDied_exact
        (fun _ _ => NetworkEventPayloadDTO.playerDied.inj) dto reader after
  | playerRespawned dto =>
      exact wrapped_exact readPlayerRespawned_exact
        (fun _ _ => NetworkEventPayloadDTO.playerRespawned.inj) dto reader after
  | entityEnteredInterest dto =>
      exact wrapped_exact readEntityEnteredInterest_exact
        (fun _ _ => NetworkEventPayloadDTO.entityEnteredInterest.inj) dto reader after
  | entityLeftInterest dto =>
      exact wrapped_exact readEntityLeftInterest_exact
        (fun _ _ => NetworkEventPayloadDTO.entityLeftInterest.inj) dto reader after

/-- Reading under a kind yields exactly the payloads written under that kind. -/
theorem read_payload_iff (kind : NetworkEventKind) (reader after : BinaryReader)
    (payload : NetworkEventPayloadDTO) :
    readPayload kind reader = (some payload, after) ↔
      payloadKind payload = kind ∧ reader.Consumes (writePayload payload) after := by
  constructor
  · intro read
    obtain rfl := read_payload_kind read
    exact ⟨rfl, (read_own_kind payload reader after).mp read⟩
  · rintro ⟨rfl, consumed⟩
    exact (read_own_kind payload reader after).mpr consumed

theorem readNetworkEvent_exact : readNetworkEvent.Exact serializeNetworkEvent := by
  rintro reader ⟨eventId, serverTick, serverTimeMs, payload⟩ after
  simp only [readNetworkEvent, Read.andThen_some_iff, Read.map_some_iff, serializeNetworkEvent,
    Reader.consumes_append]
  constructor
  · rintro ⟨⟨id, tick, time, kind⟩, middle, header, body, read, same⟩
    obtain ⟨first, readId, header⟩ := (Read.both_some_iff _ _ _ _ _ _).mp header
    obtain ⟨second, readTick, header⟩ := (Read.both_some_iff _ _ _ _ _ _).mp header
    obtain ⟨third, readTime, tagged⟩ := (Read.both_some_iff _ _ _ _ _ _).mp header
    obtain ⟨matching, consumed⟩ := (read_payload_iff _ _ _ _).mp read
    simp only [NetworkEventDTO.mk.injEq] at same
    obtain ⟨rfl, rfl, rfl, rfl⟩ := same
    subst matching
    exact ⟨first, (readPod_exact _ _ _ _).mp readId, second, (readPod_exact _ _ _ _).mp readTick,
      third, (readPod_exact _ _ _ _).mp readTime, middle,
      (readEnum_exact _ _ rfl _ _ _).mp tagged, consumed⟩
  · rintro ⟨first, readId, second, readTick, third, readTime, middle, tagged, consumed⟩
    refine ⟨(eventId, serverTick, serverTimeMs, payloadKind payload), middle, ?_, payload,
      (read_payload_iff _ _ _ _).mpr ⟨rfl, consumed⟩, rfl⟩
    exact (Read.both_some_iff _ _ _ _ _ _).mpr ⟨first, (readPod_exact _ _ _ _).mpr readId,
      (Read.both_some_iff _ _ _ _ _ _).mpr ⟨second, (readPod_exact _ _ _ _).mpr readTick,
      (Read.both_some_iff _ _ _ _ _ _).mpr ⟨third, (readPod_exact _ _ _ _).mpr readTime,
      (readEnum_exact _ _ rfl _ _ _).mpr tagged⟩⟩⟩

theorem deserialize_network_event_iff (bytes : List UInt8) (event : NetworkEventDTO) :
    deserializeNetworkEvent bytes = some event ↔ bytes = serializeNetworkEvent event :=
  decode_iff readNetworkEvent_exact bytes event

/-- The wire format is exact, and a domain event that has a network form comes
back from its decoded encoding with its id and both clocks. -/
theorem network_event_path_lossless :
    (∀ bytes event,
      deserializeNetworkEvent bytes = some event ↔ bytes = serializeNetworkEvent event) ∧
    ∀ eventId serverTick serverTimeMs event dto,
      toNetworkEventDTO eventId serverTick serverTimeMs event = some dto →
      ∃ decoded, deserializeNetworkEvent (serializeNetworkEvent dto) = some decoded ∧
        toDomainEvent decoded = some event ∧ decoded.eventId = eventId ∧
        decoded.serverTick = serverTick ∧ decoded.serverTimeMs = serverTimeMs := by
  refine ⟨deserialize_network_event_iff, ?_⟩
  intro eventId serverTick serverTimeMs event dto converted
  exact ⟨dto, (deserialize_network_event_iff _ dto).mpr rfl,
    to_domain_event_of_network eventId serverTick serverTimeMs event dto converted⟩

theorem network_event_path_lossless_hit :
    ∃ decoded, deserializeNetworkEvent (serializeNetworkEvent
        { eventId := 4, serverTick := 9, serverTimeMs := 144,
          payload := .hitConfirmed
            { attackerId := ⟨1⟩, targetId := ⟨2⟩, projectileId := ⟨3⟩, serverTimeMs := 144 } }) =
        some decoded ∧
      toDomainEvent decoded = some (.hitConfirmed
        { attackerId := ⟨1⟩, targetId := ⟨2⟩, projectileId := ⟨3⟩, serverTimeMs := 144 }) ∧
      decoded.eventId = 4 ∧ decoded.serverTick = 9 ∧ decoded.serverTimeMs = 144 :=
  network_event_path_lossless.2 4 9 144 _ _ rfl

end Brawololo.NetworkEventCodec
