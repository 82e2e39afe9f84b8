import Brawololo.ByteReader
import Brawololo.NetworkEvents

/-!
The binary wire format of `GameLogic/Serialization`. Writers are byte lists in
field order; readers are built from the field readers of `ByteReader`, and each
carries the lemma that it is exact for its writer.
-/

namespace Brawololo.Serialization

open GameTypes NetworkEvents ByteReader

inductive DecodeError where
  | none
  | unexpectedEof
  | invalidBoolean
  | invalidEnum
  | invalidCount
  | trailingBytes
  deriving DecidableEq

abbrev BinaryReader := Reader DecodeError
abbrev ReadField := Read DecodeError

/-- `BinaryReader::Fail` keeps the first error. -/
def fail (error current : DecodeError) : DecodeError :=
  if current = .none then error else current

def BinaryReader.finish (reader : BinaryReader) : Bool × BinaryReader :=
  if reader.error ≠ .none then (false, reader)
  else if reader.offset ≠ reader.bytes.length then
    (false, { reader with error := .trailingBytes })
  else (true, reader)

def readPod (α : Type) [Pod α] : ReadField α := Read.pod α (fail .unexpectedEof)

def readEnum (α : Type) [WireEnum α] (maxValue : UInt8) : ReadField α :=
  ((readPod UInt8).check (fun value => !(value > maxValue)) (fail .invalidEnum)).map
    WireEnum.ofByte

def readBool : ReadField Bool :=
  ((readPod UInt8).check (fun value => !(value > 1)) (fail .invalidBoolean)).map (· ≠ 0)

def readCount (maxValue : Nat) : ReadField UInt32 :=
  (readPod UInt32).check (fun value => !(value.toNat > maxValue)) (fail .invalidCount)

/-- Run a reader over a whole span and finish it. -/
def decode {α : Type} (read : ReadField α) (bytes : List UInt8) : Option α :=
  match read { bytes, offset := 0, error := .none } with
  | (some value, reader) => if (BinaryReader.finish reader).1 then some value else none
  | (none, _) => none

def enumByte {α : Type} [WireEnum α] (value : α) : List UInt8 := [WireEnum.toByte value]

def boolByte (value : Bool) : List UInt8 := [if value then 1 else 0]

instance : WireEnum WeaponType where
  count := 2
  toByte | .none => 0 | .bow => 1
  ofByte byte := if byte = 0 then .none else .bow
  toByte_lt value := by cases value <;> decide
  ofByte_toByte value := by cases value <;> rfl
  toByte_ofByte := forall_bytes_below (by decide)

instance : WireEnum ReplicatedEntityKind where
  count := 2
  toByte | .player => 0 | .projectile => 1
  ofByte byte := if byte = 0 then .player else .projectile
  toByte_lt value := by cases value <;> decide
  ofByte_toByte value := by cases value <;> rfl
  toByte_ofByte := forall_bytes_below (by decide)

instance : WireEnum SnapshotPriority where
  count := 3
  toByte | .low => 0 | .medium => 1 | .high => 2
  ofByte byte := if byte = 0 then .low else if byte = 1 then .medium else .high
  toByte_lt value := by cases value <;> decide
  ofByte_toByte value := by cases value <;> rfl
  toByte_ofByte := forall_bytes_below (by decide)

instance : WireEnum SnapshotDeliveryKind where
  count := 2
  toByte | .full => 0 | .deltaEligible => 1
  ofByte byte := if byte = 0 then .full else .deltaEligible
  toByte_lt value := by cases value <;> decide
  ofByte_toByte value := by cases value <;> rfl
  toByte_ofByte := forall_bytes_below (by decide)

instance : WireEnum NetworkEventKind where
  count := 10
  toByte := networkEventKindByte
  ofByte := networkEventKindOfByte
  toByte_lt value := by cases value <;> decide
  ofByte_toByte value := by cases value <;> rfl
  toByte_ofByte := forall_bytes_below (by decide)

theorem readPod_exact (α : Type) [Pod α] : (readPod α).Exact podBytes := Read.pod_exact _

theorem readEnum_exact (α : Type) [WireEnum α] (maxValue : UInt8)
    (last : maxValue.toNat + 1 = WireEnum.count α) : (readEnum α maxValue).Exact enumByte := by
  apply checked_byte_exact
  · intro value
    have bound := WireEnum.toByte_lt value
    simp only [Bool.not_eq_true', decide_eq_false_iff_not, UInt8.not_lt, gt_iff_lt,
      UInt8.le_iff_toNat_le]
    omega
  · exact WireEnum.ofByte_toByte
  · intro byte valid
    simp only [Bool.not_eq_true', decide_eq_false_iff_not, UInt8.not_lt, gt_iff_lt,
      UInt8.le_iff_toNat_le] at valid
    exact WireEnum.toByte_ofByte byte (by omega)

theorem readBool_exact : readBool.Exact boolByte := by
  apply checked_byte_exact (fun value : Bool => if value then 1 else 0)
  · intro value; cases value <;> decide
  · intro value; cases value <;> decide
  · intro byte valid
    have cases_byte : byte = 0 ∨ byte = 1 := by
      simp only [Bool.not_eq_true', decide_eq_false_iff_not, UInt8.not_lt, gt_iff_lt,
        UInt8.le_iff_toNat_le] at valid
      simp only [← UInt8.toNat_inj, UInt8.toNat_ofNat] at valid ⊢
      omega
    rcases cases_byte with rfl | rfl <;> rfl

theorem finish_iff (reader : BinaryReader) :
    (BinaryReader.finish reader).1 = true ↔
      reader.error = .none ∧ reader.offset = reader.bytes.length := by
  unfold BinaryReader.finish
  split_ifs with error offset
  · simp [error]
  · simp [offset]
  · simpa using ⟨not_not.mp error, not_not.mp offset⟩

/-- A successful decode consumed the whole span without an error. -/
theorem decode_some_iff {α : Type} (read : ReadField α) (bytes written : List UInt8) (value : α)
    (exact : ∀ after, read { bytes, offset := 0, error := .none } = (some value, after) ↔
      Reader.Consumes { bytes, offset := 0, error := .none } written after) :
    decode read bytes = some value ↔ bytes = written := by
  constructor
  · intro decoded
    cases attempt : read { bytes, offset := 0, error := .none } with
    | mk found after =>
        cases found with
        | none => simp [decode, attempt] at decoded
        | some other =>
            simp only [decode, attempt, Option.ite_none_right_eq_some, Option.some.injEq] at decoded
            obtain ⟨finished, rfl⟩ := decoded
            obtain ⟨nextBytes, rfl⟩ := (exact after).mp attempt
            have total := ((finish_iff _).mp finished).2
            simp only [Reader.skip, Nat.zero_add] at total
            exact (nextBytes.eq_of_length total).symm
  · rintro rfl
    have whole := (exact (Reader.skip _ bytes.length)).mpr ⟨by simp [Reader.rest], rfl⟩
    have finished := (finish_iff (Reader.skip { bytes, offset := 0, error := DecodeError.none }
      bytes.length)).mpr ⟨rfl, by simp [Reader.skip]⟩
    simp [decode, whole, finished]

theorem decode_iff {α : Type} {read : ReadField α} {write : α → List UInt8}
    (exact : read.Exact write) (bytes : List UInt8) (value : α) :
    decode read bytes = some value ↔ bytes = write value :=
  decode_some_iff read bytes (write value) value (fun after => exact _ value after)

/-! Shared field readers. -/

def readWeaponType : ReadField WeaponType :=
  readEnum WeaponType (UInt8.ofNat (kWeaponTypeCount - 1))

def readReplicatedEntityKind : ReadField ReplicatedEntityKind :=
  readEnum ReplicatedEntityKind (WireEnum.toByte ReplicatedEntityKind.projectile)

def readSnapshotPriority : ReadField SnapshotPriority :=
  readEnum SnapshotPriority (WireEnum.toByte SnapshotPriority.high)

def readSnapshotDeliveryKind : ReadField SnapshotDeliveryKind :=
  readEnum SnapshotDeliveryKind (WireEnum.toByte SnapshotDeliveryKind.deltaEligible)

def readNetworkEventKind : ReadField NetworkEventKind :=
  readEnum NetworkEventKind (WireEnum.toByte NetworkEventKind.entityLeftInterest)

def writeEntityId (id : NetworkEntityId) : List UInt8 := podBytes id.value

def readEntityId : ReadField NetworkEntityId := (readPod UInt32).map NetworkEntityId.mk

theorem readWeaponType_exact : readWeaponType.Exact enumByte := readEnum_exact _ _ rfl

theorem readEntityId_exact : readEntityId.Exact writeEntityId :=
  (readPod_exact UInt32).map NetworkEntityId.mk NetworkEntityId.value (fun _ => rfl) (fun _ => rfl) (fun _ => rfl)

/-! Fixed-layout messages. -/

def serializeLoginCommand (command : LoginCommand) : List UInt8 :=
  podBytes command.header.clientId ++ (podBytes command.header.sequence ++
    podBytes command.header.clientTimestampMs)

def readLoginCommand : ReadField LoginCommand :=
  ((readPod ClientId).both <| (readPod CommandSequence).both <| readPod TimestampMs).map
  fun (clientId, sequence, clientTimestampMs) =>
    { header := { clientId, sequence, clientTimestampMs } }

def deserializeLoginCommand (bytes : List UInt8) : Option LoginCommand :=
  decode readLoginCommand bytes

def serializeClientInputPacket (packet : ClientInputPacket) : List UInt8 :=
  podBytes packet.header.clientId ++ (podBytes packet.header.sequence ++
    (podBytes packet.header.clientTimestampMs ++ (podBytes packet.input.moveX ++
      (podBytes packet.input.moveY ++ (podBytes packet.input.aimX ++
        (podBytes packet.input.aimY ++ boolByte packet.input.fire))))))

def readClientInputPacket : ReadField ClientInputPacket :=
  ((readPod ClientId).both <| (readPod CommandSequence).both <| (readPod TimestampMs).both <|
    (readPod Int8).both <| (readPod Int8).both <| (readPod Int16).both <| (readPod Int16).both <|
    readBool).map
  fun (clientId, sequence, clientTimestampMs, moveX, moveY, aimX, aimY, fire) =>
    { header := { clientId, sequence, clientTimestampMs },
      input := { moveX, moveY, aimX, aimY, fire } }

def deserializeClientInputPacket (bytes : List UInt8) : Option ClientInputPacket :=
  decode readClientInputPacket bytes

def serializeTimeSyncRequest (request : TimeSyncRequest) : List UInt8 :=
  podBytes request.clientId ++ (podBytes request.sequence ++ podBytes request.clientSentAtMs)

def readTimeSyncRequest : ReadField TimeSyncRequest :=
  ((readPod ClientId).both <| (readPod CommandSequence).both <| readPod TimestampMs).map
  fun (clientId, sequence, clientSentAtMs) => { clientId, sequence, clientSentAtMs }

def deserializeTimeSyncRequest (bytes : List UInt8) : Option TimeSyncRequest :=
  decode readTimeSyncRequest bytes

def serializeTimeSyncResponse (response : TimeSyncResponse) : List UInt8 :=
  podBytes response.clientId ++ (podBytes response.sequence ++
    (podBytes response.clientSentAtMs ++ (podBytes response.serverReceivedAtMs ++
      podBytes response.serverSentAtMs)))

def readTimeSyncResponse : ReadField TimeSyncResponse :=
  ((readPod ClientId).both <| (readPod CommandSequence).both <| (readPod TimestampMs).both <|
    (readPod TimestampMs).both <| readPod TimestampMs).map
  fun (clientId, sequence, clientSentAtMs, serverReceivedAtMs, serverSentAtMs) =>
    { clientId, sequence, clientSentAtMs, serverReceivedAtMs, serverSentAtMs }

def deserializeTimeSyncResponse (bytes : List UInt8) : Option TimeSyncResponse :=
  decode readTimeSyncResponse bytes

def serializeNetworkEventAck (ack : NetworkEventAckDTO) : List UInt8 :=
  podBytes ack.clientId ++ (podBytes ack.eventId ++ podBytes ack.clientReceivedAtMs)

def readNetworkEventAck : ReadField NetworkEventAckDTO :=
  ((readPod ClientId).both <| (readPod NetworkEventId).both <| readPod TimestampMs).map
  fun (clientId, eventId, clientReceivedAtMs) => { clientId, eventId, clientReceivedAtMs }

def deserializeNetworkEventAck (bytes : List UInt8) : Option NetworkEventAckDTO :=
  decode readNetworkEventAck bytes

def serializeSnapshotAck (ack : SnapshotAckDTO) : List UInt8 :=
  podBytes ack.clientId ++ (podBytes ack.snapshotId ++ (podBytes ack.baselineId ++
    (podBytes ack.ackedInputSequence ++ podBytes ack.clientReceivedAtMs)))

def readSnapshotAck : ReadField SnapshotAckDTO :=
  ((readPod ClientId).both <| (readPod SnapshotId).both <| (readPod SnapshotId).both <|
    (readPod CommandSequence).both <| readPod TimestampMs).map
  fun (clientId, snapshotId, baselineId, ackedInputSequence, clientReceivedAtMs) =>
    { clientId, snapshotId, baselineId, ackedInputSequence, clientReceivedAtMs }

def deserializeSnapshotAck (bytes : List UInt8) : Option SnapshotAckDTO :=
  decode readSnapshotAck bytes

theorem readSnapshotAck_exact : readSnapshotAck.Exact serializeSnapshotAck :=
  ((readPod_exact ClientId).both <| (readPod_exact SnapshotId).both <|
    (readPod_exact SnapshotId).both <| (readPod_exact CommandSequence).both <|
      readPod_exact TimestampMs).map _
    (fun ack : SnapshotAckDTO => (ack.clientId, ack.snapshotId, ack.baselineId,
      ack.ackedInputSequence, ack.clientReceivedAtMs))
    (fun _ => rfl) (fun _ => rfl) (fun _ => rfl)

theorem deserialize_snapshot_ack (ack : SnapshotAckDTO) :
    deserializeSnapshotAck (serializeSnapshotAck ack) = some ack :=
  (decode_iff readSnapshotAck_exact _ ack).mpr rfl

theorem snapshot_ack_length (ack : SnapshotAckDTO) : (serializeSnapshotAck ack).length = 24 := by
  simp [serializeSnapshotAck, podBytes_length, Pod.size]

end Brawololo.Serialization
