import Brawololo.SnapshotCodec

/-!
Messages of a fixed layout. Each is the bytes of its fields in one order, and
its decoder reads the same fields in the same order up to the end of the span;
so the decoder accepts the bytes of a value as that value, and nothing else.
-/

namespace Brawololo.FixedLayouts

open GameTypes NetworkEvents ByteReader Serialization SnapshotCodec

/-- The decoder returns a value exactly on its bytes, which are `size` many, and
rejects every span of another length. -/
structure FixedLayout {Value : Type} (serialize : Value → List UInt8)
    (deserialize : List UInt8 → Option Value) (size : Nat) : Prop where
  exact : ∀ bytes value, deserialize bytes = some value ↔ bytes = serialize value
  length : ∀ value, (serialize value).length = size
  rejects : ∀ bytes, bytes.length ≠ size → deserialize bytes = none

theorem fixed_layout {Value : Type} {read : ReadField Value} {serialize : Value → List UInt8}
    {size : Nat} (exact : read.Exact serialize)
    (length : ∀ value, (serialize value).length = size) :
    FixedLayout serialize (decode read) size where
  exact := decode_iff exact
  length := length
  rejects := by
    intro bytes other
    cases decoded : decode read bytes with
    | none => rfl
    | some value =>
        rw [(decode_iff exact bytes value).mp decoded] at other
        exact absurd (length value) other

/-! The fields of each format. -/

theorem readLoginCommand_exact : readLoginCommand.Exact serializeLoginCommand :=
  ((readPod_exact ClientId).both <| (readPod_exact CommandSequence).both <|
    readPod_exact TimestampMs).map _
    (fun command : LoginCommand => (command.header.clientId, command.header.sequence,
      command.header.clientTimestampMs))
    (fun _ => rfl) (fun _ => rfl) (fun _ => rfl)

theorem readClientInputPacket_exact : readClientInputPacket.Exact serializeClientInputPacket :=
  ((readPod_exact ClientId).both <| (readPod_exact CommandSequence).both <|
    (readPod_exact TimestampMs).both <| (readPod_exact Int8).both <| (readPod_exact Int8).both <|
    (readPod_exact Int16).both <| (readPod_exact Int16).both readBool_exact).map _
    (fun packet : ClientInputPacket => (packet.header.clientId, packet.header.sequence,
      packet.header.clientTimestampMs, packet.input.moveX, packet.input.moveY,
      packet.input.aimX, packet.input.aimY, packet.input.fire))
    (fun _ => rfl) (fun _ => rfl) (fun _ => rfl)

theorem readTimeSyncRequest_exact : readTimeSyncRequest.Exact serializeTimeSyncRequest :=
  ((readPod_exact ClientId).both <| (readPod_exact CommandSequence).both <|
    readPod_exact TimestampMs).map _
    (fun request : TimeSyncRequest =>
      (request.clientId, request.sequence, request.clientSentAtMs))
    (fun _ => rfl) (fun _ => rfl) (fun _ => rfl)

theorem readTimeSyncResponse_exact : readTimeSyncResponse.Exact serializeTimeSyncResponse :=
  ((readPod_exact ClientId).both <| (readPod_exact CommandSequence).both <|
    (readPod_exact TimestampMs).both <| (readPod_exact TimestampMs).both <|
    readPod_exact TimestampMs).map _
    (fun response : TimeSyncResponse => (response.clientId, response.sequence,
      response.clientSentAtMs, response.serverReceivedAtMs, response.serverSentAtMs))
    (fun _ => rfl) (fun _ => rfl) (fun _ => rfl)

theorem readNetworkEventAck_exact : readNetworkEventAck.Exact serializeNetworkEventAck :=
  ((readPod_exact ClientId).both <| (readPod_exact NetworkEventId).both <|
    readPod_exact TimestampMs).map _
    (fun ack : NetworkEventAckDTO => (ack.clientId, ack.eventId, ack.clientReceivedAtMs))
    (fun _ => rfl) (fun _ => rfl) (fun _ => rfl)

/-! The seven formats. -/

/-- Only a last byte of 0 or 1 is a boolean. -/
theorem invalid_fire_rejected (bytes : List UInt8) (fire : UInt8) (invalid : 1 < fire) :
    deserializeClientInputPacket (bytes ++ [fire]) = none := by
  cases decoded : deserializeClientInputPacket (bytes ++ [fire]) with
  | none => rfl
  | some packet =>
      have written := (decode_iff readClientInputPacket_exact _ packet).mp decoded
      have isLast := congrArg List.getLast? written
      simp only [serializeClientInputPacket, boolByte, ← List.append_assoc,
        List.getLast?_concat, Option.some.injEq] at isLast
      rw [isLast] at invalid
      cases pressed : packet.input.fire with
      | false => simp [pressed] at invalid
      | true => simp [pressed] at invalid

theorem fixed_layouts_round_trip :
    FixedLayout serializeMovementState deserializeMovementState 24 ∧
    FixedLayout serializeLoginCommand deserializeLoginCommand 16 ∧
    (FixedLayout serializeClientInputPacket deserializeClientInputPacket 23 ∧
      ∀ bytes fire, 1 < fire → deserializeClientInputPacket (bytes ++ [fire]) = none) ∧
    FixedLayout serializeTimeSyncRequest deserializeTimeSyncRequest 16 ∧
    FixedLayout serializeTimeSyncResponse deserializeTimeSyncResponse 32 ∧
    FixedLayout serializeNetworkEventAck deserializeNetworkEventAck 16 ∧
    FixedLayout serializeSnapshotAck deserializeSnapshotAck 24 := by
  refine ⟨fixed_layout readMovement_exact writeMovement_length,
    fixed_layout readLoginCommand_exact fun _ => ?_,
    ⟨fixed_layout readClientInputPacket_exact fun _ => ?_, invalid_fire_rejected⟩,
    fixed_layout readTimeSyncRequest_exact fun _ => ?_,
    fixed_layout readTimeSyncResponse_exact fun _ => ?_,
    fixed_layout readNetworkEventAck_exact fun _ => ?_,
    fixed_layout readSnapshotAck_exact snapshot_ack_length⟩
  · simp [serializeLoginCommand, podBytes_length, Pod.size]
  · simp [serializeClientInputPacket, podBytes_length, Pod.size, boolByte]
  · simp [serializeTimeSyncRequest, podBytes_length, Pod.size]
  · simp [serializeTimeSyncResponse, podBytes_length, Pod.size]
  · simp [serializeNetworkEventAck, podBytes_length, Pod.size]

end Brawololo.FixedLayouts
