import Brawololo.ByteReader
import Brawololo.NetworkProtocol

/-!
The data-channel framing of one envelope. The encoder, the decoder and
`validateEnvelope` are three separate pieces: the decoder checks the channel
and class bytes and the payload size itself, then validates the envelope it
built, version and channel pairing included.
-/

namespace Brawololo.TransportPacketCodec

open GameTypes NetworkProtocol ByteReader

inductive TransportPacketDecodeError where
  | none
  | unexpectedEof
  | unsupportedVersion
  | invalidChannel
  | invalidMessageClass
  | payloadTooLarge
  | channelMismatch
  | trailingBytes
  deriving DecidableEq

structure TransportPacketDecodeResult where
  envelope : Option NetworkEnvelope := .none
  error : TransportPacketDecodeError := .none
  deriving DecidableEq

def TransportPacketDecodeResult.Ok (result : TransportPacketDecodeResult) : Prop :=
  result.envelope.isSome = true ∧ result.error = .none

abbrev PacketReader := Reader TransportPacketDecodeError
abbrev ReadPacket := Read TransportPacketDecodeError

def readPod (α : Type) [Pod α] : ReadPacket α := Read.pod α fun _ => .unexpectedEof

def readBytes (size : Nat) : ReadPacket (List UInt8) := fun reader =>
  if reader.offset + size > reader.bytes.length then
    (none, { reader with error := .unexpectedEof })
  else
    (some (reader.rest.take size), reader.skip size)

def PacketReader.finished (reader : PacketReader) : Bool × PacketReader :=
  if reader.error ≠ .none then (false, reader)
  else if reader.offset ≠ reader.bytes.length then
    (false, { reader with error := .trailingBytes })
  else (true, reader)

instance : WireEnum NetworkChannel where
  count := 6
  toByte
    | .movementInput => 0 | .snapshots => 1 | .combatEvents => 2
    | .loginSpawn => 3 | .chatUi => 4 | .timeSync => 5
  ofByte byte :=
    if byte = 0 then .movementInput else if byte = 1 then .snapshots
    else if byte = 2 then .combatEvents else if byte = 3 then .loginSpawn
    else if byte = 4 then .chatUi else .timeSync
  toByte_lt value := by cases value <;> decide
  ofByte_toByte value := by cases value <;> rfl
  toByte_ofByte := forall_bytes_below (by decide)

instance : WireEnum MessageClass where
  count := 11
  toByte
    | .clientInput => 0 | .snapshot => 1 | .snapshotAck => 2 | .combatEvent => 3
    | .loginRequest => 4 | .spawnAccepted => 5 | .interestEvent => 6 | .networkEventAck => 7
    | .chatUi => 8 | .timeSyncRequest => 9 | .timeSyncResponse => 10
  ofByte byte :=
    if byte = 0 then .clientInput else if byte = 1 then .snapshot
    else if byte = 2 then .snapshotAck else if byte = 3 then .combatEvent
    else if byte = 4 then .loginRequest else if byte = 5 then .spawnAccepted
    else if byte = 6 then .interestEvent else if byte = 7 then .networkEventAck
    else if byte = 8 then .chatUi else if byte = 9 then .timeSyncRequest
    else .timeSyncResponse
  toByte_lt value := by cases value <;> decide
  ofByte_toByte value := by cases value <;> rfl
  toByte_ofByte := forall_bytes_below (by decide)

def isValidChannel (value : UInt8) : Bool := value ≤ WireEnum.toByte NetworkChannel.timeSync

def isValidMessageClass (value : UInt8) : Bool :=
  value ≤ WireEnum.toByte MessageClass.timeSyncResponse

def mapValidationError : ProtocolError → TransportPacketDecodeError
  | .none => .none
  | .unsupportedVersion => .unsupportedVersion
  | .payloadTooLarge => .payloadTooLarge
  | .channelMismatch => .channelMismatch

def writeHeader (envelope : NetworkEnvelope) (payloadSize : UInt32) : List UInt8 :=
  podBytes envelope.protocolVersion ++ (podBytes envelope.peerId ++
    (podBytes (WireEnum.toByte envelope.channel) ++
      (podBytes (WireEnum.toByte envelope.messageClass) ++
        (podBytes envelope.sequence ++ podBytes payloadSize))))

def encodeTransportPacket (envelope : NetworkEnvelope) : List UInt8 :=
  writeHeader envelope (UInt32.ofNat envelope.payload.length) ++ envelope.payload

def readHeader : ReadPacket (UInt16 × ClientId × UInt8 × UInt8 × UInt32 × UInt32) :=
  (readPod UInt16).both <| (readPod ClientId).both <| (readPod UInt8).both <|
    (readPod UInt8).both <| (readPod UInt32).both <| readPod UInt32

def decodeTransportPacket (bytes : List UInt8) : TransportPacketDecodeResult :=
  match readHeader { bytes, offset := 0, error := .none } with
  | (none, reader) => { error := reader.error }
  | (some (version, peerId, channel, messageClass, sequence, payloadSize), reader) =>
      if !isValidChannel channel then { error := .invalidChannel }
      else if !isValidMessageClass messageClass then { error := .invalidMessageClass }
      else if payloadSize.toNat > kMaxNetworkPayloadBytes then { error := .payloadTooLarge }
      else match readBytes payloadSize.toNat reader with
        | (none, reader) => { error := reader.error }
        | (some payload, reader) =>
            let (finished, reader) := PacketReader.finished reader
            if !finished then { error := reader.error }
            else
              let envelope : NetworkEnvelope :=
                { protocolVersion := version, peerId, channel := WireEnum.ofByte channel,
                  messageClass := WireEnum.ofByte messageClass, sequence, payload }
              let validation := validateEnvelope envelope
              if validation ≠ .none then { error := mapValidationError validation }
              else { envelope := some envelope }

theorem readPod_exact (α : Type) [Pod α] : (readPod α).Exact podBytes := Read.pod_exact _

theorem readPod_marks (α : Type) [Pod α] : (readPod α).Marks (· ≠ .none) :=
  Read.pod_marks _ _ (fun _ => by decide)

theorem readHeader_marks : readHeader.Marks (· ≠ .none) :=
  (readPod_marks UInt16).both <| (readPod_marks ClientId).both <| (readPod_marks UInt8).both <|
    (readPod_marks UInt8).both <| (readPod_marks UInt32).both <| readPod_marks UInt32

theorem readHeader_exact : readHeader.Exact fun fields =>
    podBytes fields.1 ++ (podBytes fields.2.1 ++ (podBytes fields.2.2.1 ++
      (podBytes fields.2.2.2.1 ++ (podBytes fields.2.2.2.2.1 ++ podBytes fields.2.2.2.2.2)))) :=
  (readPod_exact UInt16).both <| (readPod_exact ClientId).both <| (readPod_exact UInt8).both <|
    (readPod_exact UInt8).both <| (readPod_exact UInt32).both <| readPod_exact UInt32

theorem read_bytes_iff (size : Nat) (reader after : PacketReader) (payload : List UInt8)
    (inside : reader.offset ≤ reader.bytes.length) :
    readBytes size reader = (some payload, after) ↔
      payload.length = size ∧ reader.Consumes payload after := by
  have remaining := reader.rest_length
  rw [Reader.remainingBytes] at remaining
  by_cases short : reader.offset + size > reader.bytes.length
  · constructor
    · simp [readBytes, short]
    · rintro ⟨rfl, consumed⟩
      have enough := consumed.1.length_le
      omega
  · simp only [readBytes, short, ↓reduceIte, Prod.mk.injEq, Option.some.injEq, Reader.Consumes,
      List.prefix_iff_eq_take]
    constructor
    · rintro ⟨rfl, rfl⟩
      have width : (reader.rest.take size).length = size := by
        rw [List.length_take]; omega
      simp [width]
    · rintro ⟨rfl, same, rfl⟩
      exact ⟨same.symm, rfl⟩

theorem readBytes_error (size : Nat) (reader after : PacketReader)
    (failed : readBytes size reader = (none, after)) : after.error ≠ .none := by
  unfold readBytes at failed
  split_ifs at failed
  · cases failed
    simp
  · simp at failed

theorem finished_iff (reader : PacketReader) :
    (PacketReader.finished reader).1 = true ↔
      reader.error = .none ∧ reader.offset = reader.bytes.length := by
  unfold PacketReader.finished
  split_ifs with error offset
  · simp [error]
  · simp [offset]
  · simpa using ⟨not_not.mp error, not_not.mp offset⟩

theorem unfinished_error (reader : PacketReader)
    (unfinished : (PacketReader.finished reader).1 = false) :
    (PacketReader.finished reader).2.error ≠ .none := by
  unfold PacketReader.finished at unfinished ⊢
  split_ifs at unfinished ⊢ with error offset
  · exact error
  · simp

theorem map_validation_error (error : ProtocolError) (rejected : error ≠ .none) :
    mapValidationError error ≠ .none := by
  cases error <;> simp_all [mapValidationError]

/-- An unsuccessful decode carries no envelope and names an error, on every
early return. -/
theorem decode_error_of_no_envelope (bytes : List UInt8) :
    (decodeTransportPacket bytes).envelope = none ∧
        (decodeTransportPacket bytes).error ≠ .none ∨
      (decodeTransportPacket bytes).Ok := by
  unfold decodeTransportPacket
  cases header : readHeader { bytes, offset := 0, error := .none } with
  | mk found reader =>
      cases found with
      | none =>
          have marked := (readHeader_marks { bytes, offset := 0, error := .none }).1
          rw [header] at marked
          exact Or.inl ⟨rfl, marked rfl⟩
      | some fields =>
          obtain ⟨version, peerId, channel, messageClass, sequence, payloadSize⟩ := fields
          simp only
          split_ifs
          · exact Or.inl ⟨rfl, by decide⟩
          · exact Or.inl ⟨rfl, by decide⟩
          · exact Or.inl ⟨rfl, by decide⟩
          · cases body : readBytes payloadSize.toNat reader with
            | mk payload after =>
                cases payload with
                | none =>
                    exact Or.inl ⟨rfl, readBytes_error _ _ _ body⟩
                | some payload =>
                    simp only
                    split_ifs with unfinished rejected
                    · exact Or.inl ⟨rfl, unfinished_error after (by simpa using unfinished)⟩
                    · exact Or.inl ⟨rfl, map_validation_error _ rejected⟩
                    · exact Or.inr ⟨rfl, rfl⟩

theorem isValidChannel_iff (value : UInt8) :
    isValidChannel value = true ↔ value.toNat < WireEnum.count NetworkChannel := by
  rw [isValidChannel, decide_eq_true_iff, UInt8.le_iff_toNat_le]
  exact Nat.lt_succ_iff.symm

theorem isValidMessageClass_iff (value : UInt8) :
    isValidMessageClass value = true ↔ value.toNat < WireEnum.count MessageClass := by
  rw [isValidMessageClass, decide_eq_true_iff, UInt8.le_iff_toNat_le]
  exact Nat.lt_succ_iff.symm

/-- Header and payload together are the packet of the envelope they describe. -/
theorem packet_split (bytes payload : List UInt8) (envelope : NetworkEnvelope)
    (payloadSize : UInt32) (start middle after : PacketReader)
    (origin : start = { bytes, offset := 0, error := .none })
    (header : start.Consumes (writeHeader envelope payloadSize) middle)
    (body : middle.Consumes payload after)
    (size : payload.length = payloadSize.toNat)
    (whole : after.offset = after.bytes.length) :
    bytes = writeHeader envelope (UInt32.ofNat payload.length) ++ payload := by
  obtain ⟨consumed, rfl⟩ := (start.consumes_append after _ _).mpr ⟨middle, header, body⟩
  subst origin
  simp only [Reader.skip, Nat.zero_add] at whole
  rw [size, UInt32.ofNat_toNat]
  exact (consumed.eq_of_length whole).symm

theorem decode_sound (bytes : List UInt8) (envelope : NetworkEnvelope)
    (decoded : decodeTransportPacket bytes = { envelope := some envelope }) :
    envelope.Ok ∧ bytes = encodeTransportPacket envelope := by
  unfold decodeTransportPacket at decoded
  cases header : readHeader { bytes, offset := 0, error := .none } with
  | mk found middle =>
      cases found with
      | none => simp [header] at decoded
      | some fields =>
          obtain ⟨version, peerId, channel, messageClass, sequence, payloadSize⟩ := fields
          simp only [header] at decoded
          split_ifs at decoded with badChannel badClass tooLarge
          · simp at decoded
          · simp at decoded
          · simp at decoded
          · cases body : readBytes payloadSize.toNat middle with
            | mk found after =>
                cases found with
                | none => simp [body] at decoded
                | some payload =>
                    simp only [body] at decoded
                    split_ifs at decoded with unfinished rejected
                    · simp at decoded
                    · simp at decoded
                    · simp only [TransportPacketDecodeResult.mk.injEq, Option.some.injEq,
                        and_true] at decoded
                      -- The checks that passed say what the bytes encode.
                      have knownChannel := (isValidChannel_iff channel).mp (by simpa using badChannel)
                      have knownClass :=
                        (isValidMessageClass_iff messageClass).mp (by simpa using badClass)
                      have written := (readHeader_exact _ _ _).mp header
                      have inside : middle.offset ≤ middle.bytes.length := by
                        have extent := written.1.length_le
                        rw [written.2]
                        simpa [Reader.skip, Reader.rest] using extent
                      obtain ⟨size, consumed⟩ := (read_bytes_iff _ _ _ _ inside).mp body
                      have finished := (finished_iff after).mp (by simpa using unfinished)
                      refine ⟨decoded ▸ not_not.mp rejected, ?_⟩
                      rw [← decoded]
                      apply packet_split bytes payload _ payloadSize _ middle after rfl
                        ?_ consumed size finished.2
                      simp only [writeHeader, WireEnum.toByte_ofByte _ knownChannel,
                        WireEnum.toByte_ofByte _ knownClass]
                      exact written

theorem decode_complete (envelope : NetworkEnvelope) (valid : envelope.Ok) :
    decodeTransportPacket (encodeTransportPacket envelope) = { envelope := some envelope } := by
  obtain ⟨_, small, _⟩ := (envelope_ok_iff envelope).mp valid
  have size : (UInt32.ofNat envelope.payload.length).toNat = envelope.payload.length := by
    rw [UInt32.toNat_ofNat']
    apply Nat.mod_eq_of_lt
    unfold kMaxNetworkPayloadBytes at small
    omega
  let start : PacketReader := { bytes := encodeTransportPacket envelope, offset := 0, error := .none }
  have whole : start.Consumes (encodeTransportPacket envelope)
      (start.skip (encodeTransportPacket envelope).length) :=
    ⟨by simp [start, Reader.rest], rfl⟩
  obtain ⟨middle, first, second⟩ := (start.consumes_append _ _ _).mp whole
  have header := (readHeader_exact start (envelope.protocolVersion, envelope.peerId,
    WireEnum.toByte envelope.channel, WireEnum.toByte envelope.messageClass, envelope.sequence,
    UInt32.ofNat envelope.payload.length) middle).mpr first
  have inside : middle.offset ≤ middle.bytes.length := by
    have extent := first.1.length_le
    rw [first.2]
    simpa [Reader.skip, Reader.rest, start] using extent
  have body := (read_bytes_iff (UInt32.ofNat envelope.payload.length).toNat middle _
    envelope.payload inside).mpr ⟨size.symm, second⟩
  have finished := (finished_iff (start.skip (encodeTransportPacket envelope).length)).mpr
    ⟨rfl, by simp [Reader.skip, start]⟩
  have knownChannel := (isValidChannel_iff _).mpr (WireEnum.toByte_lt envelope.channel)
  have knownClass := (isValidMessageClass_iff _).mpr (WireEnum.toByte_lt envelope.messageClass)
  have fits : ¬ (UInt32.ofNat envelope.payload.length).toNat > kMaxNetworkPayloadBytes := by
    rw [size]; omega
  unfold decodeTransportPacket
  simp only [show ({ bytes := encodeTransportPacket envelope, offset := 0, error := .none } :
    PacketReader) = start from rfl, header, knownChannel, knownClass, fits, body, finished,
    WireEnum.ofByte_toByte, Bool.not_true, Bool.false_eq_true, ↓reduceIte]
  exact if_neg (not_not.mpr valid)

/-- The decoder succeeds with an envelope exactly on the packets of valid
envelopes, and every other result carries an error and no envelope. -/
theorem packet_codec_exact (bytes : List UInt8) :
    (∀ envelope, ((decodeTransportPacket bytes).Ok ∧
        (decodeTransportPacket bytes).envelope = some envelope) ↔
      envelope.Ok ∧ bytes = encodeTransportPacket envelope) ∧
    ((decodeTransportPacket bytes).Ok ∨
      (decodeTransportPacket bytes).envelope = none ∧
        (decodeTransportPacket bytes).error ≠ .none) := by
  refine ⟨fun envelope => ⟨?_, ?_⟩, (decode_error_of_no_envelope bytes).symm⟩
  · rintro ⟨⟨_, clean⟩, found⟩
    apply decode_sound
    cases result : decodeTransportPacket bytes
    simp_all
  · rintro ⟨valid, rfl⟩
    rw [decode_complete envelope valid]
    exact ⟨⟨rfl, rfl⟩, rfl⟩

end Brawololo.TransportPacketCodec
