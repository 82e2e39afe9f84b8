import Brawololo.ByteReader
import Brawololo.GameTypes

/-!
Signaling messages and their wire form. The decoder limits what the encoder
does not: a session id of at most 256 bytes and a payload of at most
`kMaxRtcSignalingPayloadBytes`. It accepts the bytes of the valid messages
within these limits, and no others.
-/

namespace Brawololo.RtcSignaling

open GameTypes ByteReader

def kMaxRtcSignalingPayloadBytes : Nat := 32 * 1024

inductive RtcSignalingMessageKind where
  | join
  | offer
  | answer
  | iceCandidate
  | dataChannelReady
  | leave
  | error
  deriving DecidableEq

/-- Strings are their bytes. -/
structure RtcSignalingMessage where
  kind : RtcSignalingMessageKind := .join
  senderPeerId : ClientId := 0
  targetPeerId : ClientId := 0
  sequence : UInt32 := 0
  sessionId : List UInt8 := []
  payload : List UInt8 := []
  deriving DecidableEq

inductive RtcSignalingValidationError where
  | none
  | missingSender
  | missingSession
  | payloadTooLarge
  deriving DecidableEq

inductive RtcSignalingDecodeError where
  | none
  | unexpectedEof
  | invalidKind
  | invalidCount
  | validationFailed
  | trailingBytes
  deriving DecidableEq

structure RtcSignalingDecodeResult where
  message : Option RtcSignalingMessage := .none
  error : RtcSignalingDecodeError := .none
  deriving DecidableEq

def RtcSignalingDecodeResult.Ok (result : RtcSignalingDecodeResult) : Prop :=
  result.message.isSome = true ∧ result.error = .none

instance (result : RtcSignalingDecodeResult) : Decidable result.Ok :=
  inferInstanceAs (Decidable (_ ∧ _))

def validateRtcSignalingMessage (message : RtcSignalingMessage) : RtcSignalingValidationError :=
  if message.senderPeerId = 0 then .missingSender
  else if message.sessionId = [] then .missingSession
  else if message.payload.length > kMaxRtcSignalingPayloadBytes then .payloadTooLarge
  else .none

/-- `RtcSignalingValidationResult::Ok`. -/
def RtcSignalingMessage.Ok (message : RtcSignalingMessage) : Prop :=
  validateRtcSignalingMessage message = .none

instance (message : RtcSignalingMessage) : Decidable message.Ok :=
  inferInstanceAs (Decidable (_ = _))

theorem message_ok_iff (message : RtcSignalingMessage) :
    message.Ok ↔ message.senderPeerId ≠ 0 ∧ message.sessionId ≠ [] ∧
      message.payload.length ≤ kMaxRtcSignalingPayloadBytes := by
  unfold RtcSignalingMessage.Ok validateRtcSignalingMessage
  split_ifs with sender session size
  · simp [sender]
  · simp [session]
  · simp [Nat.not_le.mpr size]
  · simp only [true_iff]
    exact ⟨sender, session, Nat.not_lt.mp size⟩

/-! Writing. -/

instance : WireEnum RtcSignalingMessageKind where
  count := 7
  toByte
    | .join => 0 | .offer => 1 | .answer => 2 | .iceCandidate => 3
    | .dataChannelReady => 4 | .leave => 5 | .error => 6
  ofByte byte :=
    if byte = 0 then .join else if byte = 1 then .offer else if byte = 2 then .answer
    else if byte = 3 then .iceCandidate else if byte = 4 then .dataChannelReady
    else if byte = 5 then .leave else .error
  toByte_lt value := by cases value <;> decide
  ofByte_toByte value := by cases value <;> rfl
  toByte_ofByte := forall_bytes_below (by decide)

/-- `WriteString`: the size as 32 bits, then the bytes. -/
def writeString (value : List UInt8) : List UInt8 :=
  podBytes (UInt32.ofNat value.length) ++ value

def serializeRtcSignalingMessage (message : RtcSignalingMessage) : List UInt8 :=
  podBytes (WireEnum.toByte message.kind) ++ (podBytes message.senderPeerId ++
    (podBytes message.targetPeerId ++ (podBytes message.sequence ++
      (writeString message.sessionId ++ writeString message.payload))))

/-! Reading. -/

abbrev SignalReader := Reader RtcSignalingDecodeError
abbrev ReadSignal := Read RtcSignalingDecodeError

/-- `Fail`: the first error stays. -/
def fail (error current : RtcSignalingDecodeError) : RtcSignalingDecodeError :=
  if current = .none then error else current

def readPod (α : Type) [Pod α] : ReadSignal α := Read.pod α (fail .unexpectedEof)

def readString (maxBytes : Nat) : ReadSignal (List UInt8) :=
  (readPod UInt32).andThen fun size reader =>
    if size.toNat > maxBytes ∨ reader.offset + size.toNat > reader.bytes.length then
      (none, { reader with error := fail .invalidCount reader.error })
    else
      (some (reader.rest.take size.toNat), reader.skip size.toNat)

def SignalReader.finished (reader : SignalReader) : Bool × SignalReader :=
  if reader.error ≠ .none then (false, reader)
  else if reader.offset ≠ reader.bytes.length then
    (false, { reader with error := fail .trailingBytes reader.error })
  else (true, reader)

def isValidKind (value : UInt8) : Bool := value ≤ WireEnum.toByte RtcSignalingMessageKind.error

def readMessage :
    ReadSignal (UInt8 × ClientId × ClientId × UInt32 × List UInt8 × List UInt8) :=
  (readPod UInt8).both <| (readPod ClientId).both <| (readPod ClientId).both <|
    (readPod UInt32).both <| (readString 256).both <| readString kMaxRtcSignalingPayloadBytes

def deserializeRtcSignalingMessage (bytes : List UInt8) : RtcSignalingDecodeResult :=
  match readMessage { bytes, offset := 0, error := .none } with
  | (none, reader) => { error := reader.error }
  | (some (kind, sender, target, sequence, sessionId, payload), reader) =>
      if !isValidKind kind then { error := .invalidKind }
      else
        let (finished, reader) := SignalReader.finished reader
        if !finished then { error := reader.error }
        else
          let message : RtcSignalingMessage :=
            { kind := WireEnum.ofByte kind, senderPeerId := sender, targetPeerId := target,
              sequence, sessionId, payload }
          if message.Ok then { message := some message }
          else { error := .validationFailed }

/-! What the decoder accepts. -/

theorem readPod_exact (α : Type) [Pod α] : (readPod α).Exact podBytes := Read.pod_exact _

theorem read_string_exact (maxBytes : Nat) (small : maxBytes < 2 ^ 32) :
    (readString maxBytes).ExactOn (fun value => value.length ≤ maxBytes) writeString := by
  intro reader value after
  refine (Read.andThen_some_iff _ _ _ _ _).trans ?_
  constructor
  · rintro ⟨size, middle, isSize, isRest⟩
    have consumed := (readPod_exact UInt32 reader size middle).mp isSize
    split_ifs at isRest with refused
    · cases isRest
    · obtain ⟨fits, inside⟩ := not_or.mp refused
      have width : (middle.rest.take size.toNat).length = size.toNat := by
        rw [List.length_take, Reader.rest_length, Reader.remainingBytes]
        omega
      obtain ⟨isValue, isAfter⟩ := Prod.mk.inj isRest
      cases isValue
      refine ⟨width.le.trans (Nat.not_lt.mp fits), ?_⟩
      unfold writeString
      rw [Reader.consumes_append, width, UInt32.ofNat_toNat]
      refine ⟨middle, consumed, List.take_prefix _ _, ?_⟩
      rw [width]
      exact isAfter.symm
  · rintro ⟨fits, consumed⟩
    obtain ⟨middle, isSize, isValue, isAfter⟩ := (Reader.consumes_append _ _ _ _).mp consumed
    have size : (UInt32.ofNat value.length).toNat = value.length := by
      rw [UInt32.toNat_ofNat']
      exact Nat.mod_eq_of_lt (by omega)
    refine ⟨_, middle, (readPod_exact UInt32 reader _ middle).mpr isSize, ?_⟩
    have extent := isValue.length_le
    rw [Reader.rest_length, Reader.remainingBytes] at extent
    have written := isSize.1.length_le
    rw [podBytes_length, Reader.rest_length, Reader.remainingBytes] at written
    have inside : middle.offset ≤ middle.bytes.length := by
      rw [isSize.2]
      simp only [Reader.skip, podBytes_length]
      have positive := Pod.size_pos (α := UInt32)
      omega
    rw [size, if_neg (by omega), isAfter, ← List.prefix_iff_eq_take.mp isValue]

/-- What the wire carries: valid messages with a session id the decoder reads. -/
structure Carried (message : RtcSignalingMessage) : Prop where
  ok : message.Ok
  session : message.sessionId.length ≤ 256

instance (message : RtcSignalingMessage) : Decidable (Carried message) :=
  decidable_of_iff (message.Ok ∧ message.sessionId.length ≤ 256)
    ⟨fun both => ⟨both.1, both.2⟩, fun carried => ⟨carried.ok, carried.session⟩⟩

theorem read_message_iff (bytes : List UInt8) (after : SignalReader) (kind : UInt8)
    (sender target : ClientId) (sequence : UInt32) (sessionId payload : List UInt8) :
    readMessage { bytes, offset := 0, error := .none } =
        (some (kind, sender, target, sequence, sessionId, payload), after) ↔
      (sessionId.length ≤ 256 ∧ payload.length ≤ kMaxRtcSignalingPayloadBytes) ∧
        Reader.Consumes { bytes, offset := 0, error := .none }
          (podBytes kind ++ (podBytes sender ++ (podBytes target ++ (podBytes sequence ++
            (writeString sessionId ++ writeString payload))))) after := by
  have strings := (read_string_exact 256 (by decide)).both
    (read_string_exact kMaxRtcSignalingPayloadBytes (by decide))
  have exact := (readPod_exact UInt8).on.both <| (readPod_exact ClientId).on.both <|
    (readPod_exact ClientId).on.both <| (readPod_exact UInt32).on.both strings
  have read := exact { bytes, offset := 0, error := .none }
    (kind, sender, target, sequence, sessionId, payload) after
  simp only [true_and] at read
  exact read

theorem finished_iff (reader : SignalReader) :
    (SignalReader.finished reader).1 = true ↔
      reader.error = .none ∧ reader.offset = reader.bytes.length := by
  unfold SignalReader.finished
  split_ifs with error offset
  · simp [error]
  · simp [offset]
  · simpa using ⟨not_not.mp error, not_not.mp offset⟩

theorem isValidKind_iff (value : UInt8) :
    isValidKind value = true ↔ value.toNat < WireEnum.count RtcSignalingMessageKind := by
  rw [isValidKind, decide_eq_true_iff, UInt8.le_iff_toNat_le]
  exact Nat.lt_succ_iff.symm

theorem decode_sound (bytes : List UInt8) (message : RtcSignalingMessage)
    (decoded : (deserializeRtcSignalingMessage bytes).message = some message) :
    Carried message ∧ bytes = serializeRtcSignalingMessage message := by
  unfold deserializeRtcSignalingMessage at decoded
  cases attempt : readMessage { bytes, offset := 0, error := .none } with
  | mk found reader =>
      cases found with
      | none => simp [attempt] at decoded
      | some fields =>
          obtain ⟨kind, sender, target, sequence, sessionId, payload⟩ := fields
          simp only [attempt] at decoded
          split_ifs at decoded with badKind unfinished accepted
          obtain ⟨limits, consumed, isAfter⟩ := (read_message_iff _ _ _ _ _ _ _ _).mp attempt
          have knownKind := (isValidKind_iff kind).mp (by simpa using badKind)
          have finished := (finished_iff reader).mp (by simpa using unfinished)
          cases decoded
          refine ⟨⟨accepted, limits.1⟩, ?_⟩
          have whole := finished.2
          rw [isAfter] at whole
          simp only [Reader.skip, Nat.zero_add] at whole
          have same := consumed.eq_of_length whole
          unfold serializeRtcSignalingMessage
          rw [WireEnum.toByte_ofByte _ knownKind]
          exact same.symm

/-- A message comes without an error. -/
theorem decode_ok_iff (bytes : List UInt8) :
    (deserializeRtcSignalingMessage bytes).Ok ↔
      (deserializeRtcSignalingMessage bytes).message.isSome = true := by
  unfold RtcSignalingDecodeResult.Ok deserializeRtcSignalingMessage
  split
  · simp
  · dsimp only
    split_ifs <;> simp

theorem decode_complete (message : RtcSignalingMessage) (carried : Carried message) :
    deserializeRtcSignalingMessage (serializeRtcSignalingMessage message) =
      { message := some message } := by
  obtain ⟨ok, session⟩ := carried
  have payload := ((message_ok_iff message).mp ok).2.2
  let start : SignalReader :=
    { bytes := serializeRtcSignalingMessage message, offset := 0, error := .none }
  have whole : start.Consumes (serializeRtcSignalingMessage message)
      (start.skip (serializeRtcSignalingMessage message).length) :=
    ⟨by simp [start, Reader.rest], rfl⟩
  have read := (read_message_iff (serializeRtcSignalingMessage message)
    (start.skip (serializeRtcSignalingMessage message).length) (WireEnum.toByte message.kind)
    message.senderPeerId message.targetPeerId message.sequence message.sessionId
    message.payload).mpr ⟨⟨session, payload⟩, whole⟩
  have knownKind := (isValidKind_iff _).mpr (WireEnum.toByte_lt message.kind)
  have finished := (finished_iff
    (start.skip (serializeRtcSignalingMessage message).length)).mpr
      ⟨rfl, by simp [Reader.skip, start]⟩
  unfold deserializeRtcSignalingMessage
  rw [read]
  simp only [knownKind, finished, WireEnum.ofByte_toByte, Bool.not_true, Bool.false_eq_true,
    ↓reduceIte]
  exact if_pos ok

theorem serialized_length (message : RtcSignalingMessage) :
    (serializeRtcSignalingMessage message).length =
      21 + message.sessionId.length + message.payload.length := by
  unfold serializeRtcSignalingMessage writeString
  simp only [List.length_append, podBytes_length]
  change 1 + (4 + (4 + (4 + ((4 + _) + (4 + _))))) = _
  omega

/-- A message with a longer session id is not read back, whatever its size
field says after it wrapped. -/
theorem decode_uncarried (message : RtcSignalingMessage) (long : 256 < message.sessionId.length) :
    (deserializeRtcSignalingMessage (serializeRtcSignalingMessage message)).message = none := by
  cases decoded : (deserializeRtcSignalingMessage
    (serializeRtcSignalingMessage message)).message with
  | none => rfl
  | some other =>
      obtain ⟨⟨ok, session⟩, same⟩ := decode_sound _ _ decoded
      have payload := ((message_ok_iff other).mp ok).2.2
      have lengths := congrArg List.length same
      rw [serialized_length, serialized_length] at lengths
      -- The two size fields stand at the same place.
      have sizes : podBytes (UInt32.ofNat message.sessionId.length) =
          podBytes (UInt32.ofNat other.sessionId.length) := by
        have fields := congrArg (fun bytes => (bytes.drop 13).take 4) same
        simpa [serializeRtcSignalingMessage, writeString, podBytes, natBytes, Pod.size] using fields
      have equal := congrArg bytesNat sizes
      unfold podBytes at equal
      rw [bytesNat_natBytes _ _ (Pod.toNat_lt _), bytesNat_natBytes _ _ (Pod.toNat_lt _)] at equal
      change (UInt32.ofNat message.sessionId.length).toNat =
        (UInt32.ofNat other.sessionId.length).toNat at equal
      rw [UInt32.toNat_ofNat', UInt32.toNat_ofNat'] at equal
      unfold kMaxRtcSignalingPayloadBytes at payload
      omega

/-- The message comes back from the wire as it was. -/
def Survives (message : RtcSignalingMessage) : Prop :=
  deserializeRtcSignalingMessage (serializeRtcSignalingMessage message) = { message := some message }

theorem survives_iff (message : RtcSignalingMessage) (ok : message.Ok) :
    Survives message ↔ message.sessionId.length ≤ 256 := by
  constructor
  · intro survives
    by_contra long
    have lost := decode_uncarried message (Nat.lt_of_not_le long)
    rw [survives] at lost
    cases lost
  · exact fun session => decode_complete message ⟨ok, session⟩

/-- Of the valid messages those with a session id of at most 256 bytes survive
the wire, and the decoder accepts nothing but the bytes of valid messages. -/
theorem signaling_survives_iff (valid : RtcSignalingMessage) (bytes : List UInt8) :
    (valid.Ok → (Survives valid ↔ valid.sessionId.length ≤ 256)) ∧
    ((deserializeRtcSignalingMessage bytes).Ok →
      ∃ message : RtcSignalingMessage, message.Ok ∧
        (deserializeRtcSignalingMessage bytes).message = some message ∧
        bytes = serializeRtcSignalingMessage message) := by
  refine ⟨survives_iff valid, ?_⟩
  intro accepted
  obtain ⟨message, decoded⟩ :=
    Option.isSome_iff_exists.mp ((decode_ok_iff bytes).mp accepted)
  obtain ⟨carried, same⟩ := decode_sound bytes message decoded
  exact ⟨message, carried.ok, decoded, same⟩

def shortOffer : RtcSignalingMessage :=
  { kind := .offer, senderPeerId := 1, sessionId := [97], payload := [98] }

theorem signaling_survives_short :
    Survives shortOffer ∧
      ∃ message : RtcSignalingMessage, message.Ok ∧
        serializeRtcSignalingMessage shortOffer = serializeRtcSignalingMessage message := by
  have ok : shortOffer.Ok := by decide
  obtain ⟨fits, sound⟩ :=
    signaling_survives_iff shortOffer (serializeRtcSignalingMessage shortOffer)
  have survives := (fits ok).mpr (by decide)
  have accepted : (deserializeRtcSignalingMessage (serializeRtcSignalingMessage shortOffer)).Ok := by
    rw [survives]
    decide
  obtain ⟨message, isOk, _, same⟩ := sound accepted
  exact ⟨survives, message, isOk, same⟩

/-- A valid message with a session id of 257 bytes. -/
def longOffer : RtcSignalingMessage := { shortOffer with sessionId := List.replicate 257 97 }

theorem signaling_lost_long :
    ¬ ∀ message : RtcSignalingMessage, message.Ok → Survives message := by
  intro all
  have length : longOffer.sessionId.length = 257 := List.length_replicate
  have named : longOffer.sessionId ≠ [] := by
    intro empty
    rw [empty] at length
    cases length
  have ok : longOffer.Ok := (message_ok_iff longOffer).mpr ⟨by decide, named, by decide⟩
  have fits := (survives_iff longOffer ok).mp (all longOffer ok)
  rw [length] at fits
  exact absurd fits (by decide)

end Brawololo.RtcSignaling
