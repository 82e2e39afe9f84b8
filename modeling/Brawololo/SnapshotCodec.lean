import Brawololo.Serialization

/-!
The snapshot format: a header, a count and that many entities, each with an
optional combat block. The count is admitted against a hand-computed minimum
entity size before any entity is read.
-/

namespace Brawololo.SnapshotCodec

open GameTypes ByteReader Serialization

def kMinSerializedEntityBytes : Nat := 4 + 4 * 4 + 2 * 2 + 1 + 4 + 4 + 1 * 2

def writeMovement (movement : MovementStateDTO) : List UInt8 :=
  writeEntityId movement.entityId ++ (podBytes movement.x ++ (podBytes movement.y ++
    (podBytes movement.vx ++ (podBytes movement.vy ++
      (podBytes movement.aimX ++ podBytes movement.aimY)))))

def readMovement : ReadField MovementStateDTO :=
  (readEntityId.both <| (readPod Fixed).both <| (readPod Fixed).both <| (readPod Fixed).both <|
    (readPod Fixed).both <| (readPod Int16).both <| readPod Int16).map
  fun (entityId, x, y, vx, vy, aimX, aimY) => { entityId, x, y, vx, vy, aimX, aimY }

def writeCombat (combat : CombatStateDTO) : List UInt8 :=
  writeEntityId combat.entityId ++ (podBytes combat.health ++ (podBytes combat.maxHealth ++
    (enumByte combat.weaponType ++ (boolByte combat.weaponWarming ++
      (podBytes combat.weaponWarmupCompletesAtMs ++ (boolByte combat.defeated ++
        (podBytes combat.respawnAtMs ++ (boolByte combat.serverOwnedProjectile ++
          writeEntityId combat.projectileOwnerId))))))))

def readCombat : ReadField CombatStateDTO :=
  (readEntityId.both <| (readPod Int32).both <| (readPod Int32).both <| readWeaponType.both <|
    readBool.both <| (readPod TimestampMs).both <| readBool.both <| (readPod TimestampMs).both <|
    readBool.both <| readEntityId).map
  fun (entityId, health, maxHealth, weaponType, weaponWarming, weaponWarmupCompletesAtMs,
      defeated, respawnAtMs, serverOwnedProjectile, projectileOwnerId) =>
    { entityId, health, maxHealth, weaponType, weaponWarming, weaponWarmupCompletesAtMs,
      defeated, respawnAtMs, serverOwnedProjectile, projectileOwnerId }

def writeReplication (replication : ReplicationStateDTO) : List UInt8 :=
  writeEntityId replication.entityId ++ (podBytes replication.ownerClientId ++
    (enumByte replication.kind ++ enumByte replication.priority))

def readReplication : ReadField ReplicationStateDTO :=
  (readEntityId.both <| (readPod ClientId).both <| readReplicatedEntityKind.both <|
    readSnapshotPriority).map
  fun (entityId, ownerClientId, kind, priority) => { entityId, ownerClientId, kind, priority }

def writeEntity (entity : EntityStateDTO) : List UInt8 :=
  writeMovement entity.movement ++ (boolByte entity.combat.isSome ++
    ((match entity.combat with | some combat => writeCombat combat | none => []) ++
      writeReplication entity.replication))

/-- One turn of the entity loop: movement and the flag are read together, and
each later block is read only when what precedes it succeeded. -/
def readEntity : ReadField EntityStateDTO :=
  (readMovement.both readBool).andThen fun (movement, hasCombat) =>
    (if hasCombat then readCombat.map some else Read.value none).andThen fun combat =>
      readReplication.map fun replication => { movement, combat, replication }

theorem readMovement_exact : readMovement.Exact writeMovement :=
  (readEntityId_exact.both <| (readPod_exact Fixed).both <| (readPod_exact Fixed).both <|
    (readPod_exact Fixed).both <| (readPod_exact Fixed).both <| (readPod_exact Int16).both <|
    readPod_exact Int16).map _
  (fun dto : MovementStateDTO => (dto.entityId, dto.x, dto.y, dto.vx, dto.vy, dto.aimX, dto.aimY))
  (fun _ => rfl) (fun _ => rfl) (fun _ => rfl)

theorem readCombat_exact : readCombat.Exact writeCombat :=
  (readEntityId_exact.both <| (readPod_exact Int32).both <| (readPod_exact Int32).both <|
    readWeaponType_exact.both <| readBool_exact.both <| (readPod_exact TimestampMs).both <|
    readBool_exact.both <| (readPod_exact TimestampMs).both <| readBool_exact.both <|
    readEntityId_exact).map _
  (fun dto : CombatStateDTO => (dto.entityId, dto.health, dto.maxHealth, dto.weaponType, dto.weaponWarming,
    dto.weaponWarmupCompletesAtMs, dto.defeated, dto.respawnAtMs, dto.serverOwnedProjectile,
    dto.projectileOwnerId))
  (fun _ => rfl) (fun _ => rfl) (fun _ => rfl)

theorem readReplication_exact : readReplication.Exact writeReplication :=
  (readEntityId_exact.both <| (readPod_exact ClientId).both <|
    (readEnum_exact ReplicatedEntityKind _ rfl).both <|
    readEnum_exact SnapshotPriority _ rfl).map _
  (fun dto : ReplicationStateDTO => (dto.entityId, dto.ownerClientId, dto.kind, dto.priority))
  (fun _ => rfl) (fun _ => rfl) (fun _ => rfl)

/-- The optional block is announced by the flag in front of it. -/
theorem read_combat_block_iff (hasCombat : Bool) (combat : Option CombatStateDTO)
    (reader after : BinaryReader) :
    (if hasCombat then readCombat.map some else Read.value none) reader = (some combat, after) ↔
      hasCombat = combat.isSome ∧
        reader.Consumes (match combat with | some dto => writeCombat dto | none => []) after := by
  cases hasCombat with
  | true =>
      rw [if_pos rfl, Read.map_some_iff]
      cases combat with
      | none => simp
      | some dto =>
          simpa using readCombat_exact reader dto after
  | false =>
      cases combat with
      | none => simp [Read.value, Reader.consumes_nil, eq_comm]
      | some dto => simp [Read.value]

theorem readEntity_exact : readEntity.Exact writeEntity := by
  rintro reader ⟨movement, combat, replication⟩ after
  simp only [readEntity, Read.andThen_some_iff, Read.map_some_iff, writeEntity,
    Reader.consumes_append]
  constructor
  · rintro ⟨⟨moved, flag⟩, first, head, block, second, optional, tail, last, same⟩
    obtain ⟨middle, read, flagged⟩ := (Read.both_some_iff _ _ _ _ _ _).mp head
    obtain ⟨announced, consumed⟩ := (read_combat_block_iff _ _ _ _).mp optional
    simp only [EntityStateDTO.mk.injEq] at same
    obtain ⟨rfl, rfl, rfl⟩ := same
    refine ⟨middle, (readMovement_exact _ _ _).mp read, first, ?_, second, consumed,
      (readReplication_exact _ _ _).mp last⟩
    exact announced ▸ (readBool_exact _ _ _).mp flagged
  · rintro ⟨middle, read, first, flagged, second, consumed, last⟩
    refine ⟨(movement, combat.isSome), first, ?_, combat, second,
      (read_combat_block_iff _ _ _ _).mpr ⟨rfl, consumed⟩, replication,
      (readReplication_exact _ _ _).mpr last, rfl⟩
    exact (Read.both_some_iff _ _ _ _ _ _).mpr ⟨middle, (readMovement_exact _ _ _).mpr read,
      (readBool_exact _ _ _).mpr flagged⟩

def serializeSnapshot (snapshot : SnapshotDTO) : List UInt8 :=
  podBytes snapshot.snapshotId ++ (podBytes snapshot.baselineId ++
    (enumByte snapshot.deliveryKind ++ (podBytes snapshot.serverTick ++
      (podBytes snapshot.serverTimeMs ++ (podBytes snapshot.ackedInputSequence ++
        (podBytes (UInt32.ofNat snapshot.entities.length) ++
          snapshot.entities.flatMap writeEntity))))))

/-- The bound on the count is computed from the bytes remaining before the
count itself is read. -/
def readEntityCount : ReadField UInt32 := fun reader =>
  readCount (reader.remainingBytes / kMinSerializedEntityBytes) reader

def readSnapshot : ReadField SnapshotDTO :=
  ((readPod SnapshotId).both <| (readPod SnapshotId).both <| readSnapshotDeliveryKind.both <|
    (readPod Tick).both <| (readPod TimestampMs).both <| (readPod CommandSequence).both <|
    readEntityCount).andThen
  fun (snapshotId, baselineId, deliveryKind, serverTick, serverTimeMs, ackedInputSequence,
      entityCount) =>
    (Read.times entityCount.toNat readEntity).map fun entities =>
      { snapshotId, baselineId, deliveryKind, serverTick, serverTimeMs, ackedInputSequence,
        entities }

def deserializeSnapshot (bytes : List UInt8) : Option SnapshotDTO := decode readSnapshot bytes

def serializeMovementState (dto : MovementStateDTO) : List UInt8 := writeMovement dto

def deserializeMovementState (bytes : List UInt8) : Option MovementStateDTO :=
  decode readMovement bytes

theorem writeMovement_length (movement : MovementStateDTO) :
    (writeMovement movement).length = 24 := by
  simp [writeMovement, writeEntityId, podBytes_length, Pod.size]

theorem writeReplication_length (replication : ReplicationStateDTO) :
    (writeReplication replication).length = 10 := by
  simp [writeReplication, writeEntityId, podBytes_length, Pod.size, enumByte]

/-- The hand-computed minimum is the size of an entity without combat state. -/
theorem min_entity_bytes_le (entity : EntityStateDTO) :
    kMinSerializedEntityBytes ≤ (writeEntity entity).length := by
  simp only [writeEntity, List.length_append, writeMovement_length, writeReplication_length,
    boolByte, List.length_singleton, kMinSerializedEntityBytes]
  omega

theorem entities_length_ge (entities : List EntityStateDTO) :
    entities.length * kMinSerializedEntityBytes ≤ (entities.flatMap writeEntity).length := by
  induction entities with
  | nil => simp
  | cons entity rest ih =>
      have head := min_entity_bytes_le entity
      simp only [List.length_cons, List.flatMap_cons, List.length_append, Nat.succ_mul]
      omega

theorem read_entity_count_iff (reader after : BinaryReader) (count : UInt32) :
    readEntityCount reader = (some count, after) ↔
      reader.Consumes (podBytes count) after ∧
        count.toNat ≤ reader.remainingBytes / kMinSerializedEntityBytes := by
  rw [readEntityCount, readCount, Read.check_some_iff, readPod_exact UInt32 reader count after]
  simp

/-- The bound evaluated before the count never refuses a count that the
remaining bytes can carry. -/
theorem count_within_bound (reader middle after : BinaryReader) (entities : List EntityStateDTO)
    (count : UInt32) (size : count.toNat = entities.length)
    (counted : reader.Consumes (podBytes count) middle)
    (listed : middle.Consumes (entities.flatMap writeEntity) after) :
    count.toNat ≤ reader.remainingBytes / kMinSerializedEntityBytes := by
  have whole := (Reader.consumes_append reader after _ _).mpr ⟨middle, counted, listed⟩
  have remaining := whole.remaining_ge
  have least := entities_length_ge entities
  rw [List.length_append] at remaining
  rw [Nat.le_div_iff_mul_le (by decide), size]
  omega

theorem read_snapshot_iff (reader after : BinaryReader) (snapshot : SnapshotDTO) :
    readSnapshot reader = (some snapshot, after) ↔
      snapshot.entities.length < 2 ^ 32 ∧ reader.Consumes (serializeSnapshot snapshot) after := by
  rw [readSnapshot, Read.andThen_some_iff]
  constructor
  · rintro ⟨⟨snapshotId, baselineId, kind, tick, time, acked, count⟩, middle, header, loop⟩
    obtain ⟨first, readId, header⟩ := (Read.both_some_iff _ _ _ _ _ _).mp header
    obtain ⟨second, readBaseline, header⟩ := (Read.both_some_iff _ _ _ _ _ _).mp header
    obtain ⟨third, readKind, header⟩ := (Read.both_some_iff _ _ _ _ _ _).mp header
    obtain ⟨fourth, readTick, header⟩ := (Read.both_some_iff _ _ _ _ _ _).mp header
    obtain ⟨fifth, readTime, header⟩ := (Read.both_some_iff _ _ _ _ _ _).mp header
    obtain ⟨sixth, readAcked, counted⟩ := (Read.both_some_iff _ _ _ _ _ _).mp header
    obtain ⟨entities, looped, rfl⟩ := (Read.map_some_iff _ _ _ _ _).mp loop
    obtain ⟨size, listed⟩ := (readEntity_exact.times _ _ _ _).mp looped
    have bound := count.toNat_lt
    have recount : UInt32.ofNat entities.length = count := by rw [size, UInt32.ofNat_toNat]
    refine ⟨by simp only [size]; exact bound, ?_⟩
    simp only [serializeSnapshot, Reader.consumes_append, recount]
    exact ⟨first, (readPod_exact _ _ _ _).mp readId,
      second, (readPod_exact _ _ _ _).mp readBaseline,
      third, (readEnum_exact _ _ rfl _ _ _).mp readKind,
      fourth, (readPod_exact _ _ _ _).mp readTick,
      fifth, (readPod_exact _ _ _ _).mp readTime,
      sixth, (readPod_exact _ _ _ _).mp readAcked,
      middle, ((read_entity_count_iff _ _ _).mp counted).1, listed⟩
  · rintro ⟨bound, consumed⟩
    have size : (UInt32.ofNat snapshot.entities.length).toNat = snapshot.entities.length := by
      rw [UInt32.toNat_ofNat']
      exact Nat.mod_eq_of_lt bound
    simp only [serializeSnapshot, Reader.consumes_append] at consumed
    obtain ⟨first, readId, second, readBaseline, third, readKind, fourth, readTick, fifth,
      readTime, sixth, readAcked, middle, counted, listed⟩ := consumed
    have admitted := count_within_bound _ _ _ _ _ size counted listed
    refine ⟨(snapshot.snapshotId, snapshot.baselineId, snapshot.deliveryKind,
      snapshot.serverTick, snapshot.serverTimeMs, snapshot.ackedInputSequence,
      UInt32.ofNat snapshot.entities.length), middle, ?_, ?_⟩
    · exact (Read.both_some_iff _ _ _ _ _ _).mpr ⟨first, (readPod_exact _ _ _ _).mpr readId,
        (Read.both_some_iff _ _ _ _ _ _).mpr ⟨second, (readPod_exact _ _ _ _).mpr readBaseline,
        (Read.both_some_iff _ _ _ _ _ _).mpr ⟨third, (readEnum_exact _ _ rfl _ _ _).mpr readKind,
        (Read.both_some_iff _ _ _ _ _ _).mpr ⟨fourth, (readPod_exact _ _ _ _).mpr readTick,
        (Read.both_some_iff _ _ _ _ _ _).mpr ⟨fifth, (readPod_exact _ _ _ _).mpr readTime,
        (Read.both_some_iff _ _ _ _ _ _).mpr ⟨sixth, (readPod_exact _ _ _ _).mpr readAcked,
        (read_entity_count_iff _ _ _).mpr ⟨counted, admitted⟩⟩⟩⟩⟩⟩⟩
    · exact (Read.map_some_iff _ _ _ _ _).mpr ⟨snapshot.entities,
        (readEntity_exact.times _ _ _ _).mpr ⟨size.symm, listed⟩, rfl⟩

/-- The decoder accepts exactly the canonical encodings: every snapshot that
fits its count field comes back unchanged, and nothing else is accepted. -/
theorem snapshot_codec_exact (bytes : List UInt8) (snapshot : SnapshotDTO)
    (countable : snapshot.entities.length < 2 ^ 32) :
    deserializeSnapshot bytes = some snapshot ↔ bytes = serializeSnapshot snapshot := by
  apply decode_some_iff
  intro after
  rw [read_snapshot_iff]
  exact and_iff_right countable

/-- One player with and one projectile without combat state. -/
theorem snapshot_codec_exact_mixed :
    let snapshot : SnapshotDTO :=
      { snapshotId := 7, baselineId := 3, deliveryKind := .deltaEligible, serverTick := 12,
        serverTimeMs := 192, ackedInputSequence := 5,
        entities := [
          { movement := { entityId := ⟨1⟩, x := 640000, y := -1, aimY := -700 },
            combat := some { entityId := ⟨1⟩, health := 65, weaponWarming := true },
            replication := { entityId := ⟨1⟩, ownerClientId := 9, priority := .high } },
          { movement := { entityId := ⟨2⟩, vx := 900000 },
            replication := { entityId := ⟨2⟩, kind := .projectile } }] }
    deserializeSnapshot (serializeSnapshot snapshot) = some snapshot :=
  (snapshot_codec_exact _ _ (by decide)).mpr rfl

end Brawololo.SnapshotCodec
