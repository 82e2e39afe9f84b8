import Brawololo.GameTypes

/-!
Channels, message classes and the envelope every message travels in.
-/

namespace Brawololo.NetworkProtocol

open GameTypes

def kProtocolVersion : UInt16 := 1

def kMaxNetworkPayloadBytes : Nat := 64 * 1024

inductive NetworkChannel where
  | movementInput
  | snapshots
  | combatEvents
  | loginSpawn
  | chatUi
  | timeSync
  deriving DecidableEq

inductive Reliability where
  | unreliable
  | unreliableSequenced
  | reliable
  deriving DecidableEq

inductive MessageClass where
  | clientInput
  | snapshot
  | snapshotAck
  | combatEvent
  | loginRequest
  | spawnAccepted
  | interestEvent
  | networkEventAck
  | chatUi
  | timeSyncRequest
  | timeSyncResponse
  deriving DecidableEq

inductive ProtocolError where
  | none
  | unsupportedVersion
  | payloadTooLarge
  | channelMismatch
  deriving DecidableEq

structure ChannelPolicy where
  channel : NetworkChannel
  reliability : Reliability
  deriving DecidableEq

def policyFor (channel : NetworkChannel) : ChannelPolicy :=
  match channel with
  | .movementInput => { channel, reliability := .unreliable }
  | .snapshots => { channel, reliability := .unreliableSequenced }
  | .timeSync => { channel, reliability := .unreliable }
  | .combatEvents | .loginSpawn | .chatUi => { channel, reliability := .reliable }

def expectedChannelFor : MessageClass → NetworkChannel
  | .clientInput => .movementInput
  | .snapshot | .snapshotAck => .snapshots
  | .combatEvent => .combatEvents
  | .loginRequest | .spawnAccepted | .interestEvent | .networkEventAck => .loginSpawn
  | .chatUi => .chatUi
  | .timeSyncRequest | .timeSyncResponse => .timeSync

structure NetworkEnvelope where
  protocolVersion : UInt16 := kProtocolVersion
  peerId : ClientId := 0
  channel : NetworkChannel := .movementInput
  messageClass : MessageClass := .clientInput
  sequence : UInt32 := 0
  payload : List UInt8 := []
  deriving DecidableEq

def validateEnvelope (envelope : NetworkEnvelope) : ProtocolError :=
  if envelope.protocolVersion ≠ kProtocolVersion then .unsupportedVersion
  else if envelope.payload.length > kMaxNetworkPayloadBytes then .payloadTooLarge
  else if envelope.channel ≠ expectedChannelFor envelope.messageClass then .channelMismatch
  else .none

/-- `ProtocolValidationResult::Ok`. -/
def NetworkEnvelope.Ok (envelope : NetworkEnvelope) : Prop := validateEnvelope envelope = .none

instance (envelope : NetworkEnvelope) : Decidable envelope.Ok :=
  inferInstanceAs (Decidable (_ = _))

theorem envelope_ok_iff (envelope : NetworkEnvelope) :
    envelope.Ok ↔ envelope.protocolVersion = kProtocolVersion ∧
      envelope.payload.length ≤ kMaxNetworkPayloadBytes ∧
      envelope.channel = expectedChannelFor envelope.messageClass := by
  simp only [NetworkEnvelope.Ok, validateEnvelope]
  split_ifs with version size channel
  · simp [version]
  · simp [Nat.not_le.mpr size]
  · simp [channel]
  · simp only [true_iff]
    exact ⟨not_not.mp version, Nat.not_lt.mp size, not_not.mp channel⟩

end Brawololo.NetworkProtocol
