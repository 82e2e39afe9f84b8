import Brawololo.HostTurns
import Brawololo.HubTransports

/-!
What the host hands to the hub for a client, as the client will read it: an
envelope that the hub takes decodes to the snapshot or the event it was made of.
-/

namespace Brawololo.HubDeliveries

open GameTypes EntityStore NetworkEvents NetworkProtocol Serialization SnapshotCodec Client Server
open HostTransports HubTransports HostTurns ByteReader

/-! What an envelope of the host carries. -/

theorem short_snapshot {snapshot : SnapshotDTO}
    (short : (serializeSnapshot snapshot).length ≤ kMaxNetworkPayloadBytes) :
    deserializeSnapshot (serializeSnapshot snapshot) = some snapshot := by
  have fits := entities_length_ge snapshot.entities
  have within : (snapshot.entities.flatMap writeEntity).length ≤
      (serializeSnapshot snapshot).length := by
    unfold serializeSnapshot
    simp only [List.length_append]
    omega
  have few : snapshot.entities.length < 2 ^ 32 := by
    unfold kMinSerializedEntityBytes at fits
    unfold kMaxNetworkPayloadBytes at short
    omega
  refine (decode_some_iff readSnapshot _ (serializeSnapshot snapshot) snapshot ?_).mpr rfl
  intro after
  rw [read_snapshot_iff]
  exact and_iff_right few

theorem snapshot_in_envelope {clientId : ClientId} {planned : SnapshotDTO}
    {baseline : Option SnapshotDTO}
    (valid : (envelopeFor clientId (.snapshot planned baseline)).Ok) :
    snapshotIn (envelopeFor clientId (.snapshot planned baseline)) = some planned := by
  unfold snapshotIn
  rw [if_pos ⟨valid, rfl⟩]
  exact short_snapshot ((envelope_ok_iff _).mp valid).2.1

/-- An event that the hub took for the client. -/
def eventFor (clientId : ClientId) : Happening → Option NetworkEventDTO
  | .handed receiver (.event event _) true => if receiver = clientId then some event else none
  | _ => none

theorem event_class (kind : NetworkEventKind) : isEventClass (eventRoute kind).2 = true := by
  cases kind <;> rfl

theorem event_in_envelope {clientId : ClientId} {event : NetworkEventDTO} {isResend : Bool}
    (valid : (envelopeFor clientId (.event event isResend)).Ok) :
    (eventIn (envelopeFor clientId (.event event isResend))).map Prod.fst = some event := by
  obtain ⟨domainEvent, converted⟩ := to_domain_event_total event
  have decoded : NetworkEventCodec.deserializeNetworkEvent
      (NetworkEventCodec.serializeNetworkEvent event) = some event :=
    (NetworkEventCodec.deserialize_network_event_iff _ event).mpr rfl
  unfold eventIn
  rw [if_pos ⟨valid, event_class _⟩]
  change ((NetworkEventCodec.deserializeNetworkEvent
    (NetworkEventCodec.serializeNetworkEvent event)).bind _).map _ = _
  rw [decoded, Option.bind_some, converted]
  rfl

theorem payload_length (payload : NetworkEventPayloadDTO) :
    (NetworkEventCodec.writePayload payload).length ≤ 32 := by
  cases payload <;>
    simp [NetworkEventCodec.writePayload, NetworkEventCodec.writePlayerSpawned,
      NetworkEventCodec.writeWeaponWarmupStarted, NetworkEventCodec.writeWeaponFired,
      NetworkEventCodec.writeProjectileSpawned, NetworkEventCodec.writeHitConfirmed,
      NetworkEventCodec.writePlayerDamaged, NetworkEventCodec.writePlayerDied,
      NetworkEventCodec.writePlayerRespawned, NetworkEventCodec.writeEntityEnteredInterest,
      NetworkEventCodec.writeEntityLeftInterest, writeEntityId, podBytes_length, Pod.size,
      enumByte]

/-- An event of any kind fits an envelope. -/
theorem event_envelope_ok (clientId : ClientId) (event : NetworkEventDTO) (isResend : Bool) :
    (envelopeFor clientId (.event event isResend)).Ok := by
  rw [envelope_ok_iff]
  refine ⟨rfl, ?_, ?_⟩
  · change (NetworkEventCodec.serializeNetworkEvent event).length ≤ kMaxNetworkPayloadBytes
    have fits := payload_length event.payload
    unfold NetworkEventCodec.serializeNetworkEvent kMaxNetworkPayloadBytes
    simp only [List.length_append, podBytes_length, Pod.size, enumByte, List.length_singleton]
    omega
  · change (eventRoute (kindForNetworkEvent event)).1 =
      expectedChannelFor (eventRoute (kindForNetworkEvent event)).2
    cases kindForNetworkEvent event <;> rfl

/-! What the hub took for a client. -/

/-- The answers in a record are those of the hub. -/
def HubTruthful (trace : Trace) : Prop :=
  ∀ clientId message accepted, Happening.handed clientId message accepted ∈ trace →
    accepted = hubAnswers [] (envelopeFor clientId message)

theorem taken_for (clientId receiver : ClientId) (message : HostMessage) :
    ((takenEnvelope (.handed receiver message true)).filter fun envelope =>
      envelope.peerId = clientId) =
      if receiver = clientId then some (envelopeFor receiver message) else none := by
  have peer : (envelopeFor receiver message).peerId = receiver := by cases message <;> rfl
  unfold takenEnvelope
  rw [Option.filter_some, peer]
  by_cases mine : receiver = clientId
  · rw [if_pos mine, decide_eq_true mine]
    rfl
  · rw [if_neg mine, decide_eq_false mine]
    rfl

/-- What is read from the envelopes that the hub took for a client. -/
theorem read_taken {Value : Type} {trace : Trace} (truthful : HubTruthful trace)
    (clientId : ClientId) (read : NetworkEnvelope → Option Value)
    (carries : HostMessage → Option Value) (wanted : Happening → Option Value)
    (reads : ∀ receiver message, (envelopeFor receiver message).Ok →
      read (envelopeFor receiver message) = carries message)
    (wants : ∀ receiver message, wanted (.handed receiver message true) =
      if receiver = clientId then carries message else none)
    (others : ∀ happening, takenEnvelope happening = none → wanted happening = none) :
    ((trace.filterMap takenEnvelope).filter fun envelope => envelope.peerId = clientId).filterMap
      read = trace.filterMap wanted := by
  rw [List.filter_filterMap, List.filterMap_filterMap]
  apply List.filterMap_congr
  intro happening member
  cases taken : takenEnvelope happening with
  | none =>
      rw [others happening taken]
      rfl
  | some envelope =>
      rw [← taken]
      unfold takenEnvelope at taken
      split at taken
      · next receiver message =>
          have valid : (envelopeFor receiver message).Ok :=
            (of_decide_eq_true (truthful receiver message true member).symm).1
          rw [taken_for, wants]
          split
          · exact reads receiver message valid
          · rfl
      · cases taken

def plannedIn : HostMessage → Option SnapshotDTO
  | .snapshot planned _ => some planned
  | _ => none

theorem taken_snapshots {trace : Trace} (truthful : HubTruthful trace) (clientId : ClientId) :
    ((trace.filterMap takenEnvelope).filter fun envelope => envelope.peerId = clientId).filterMap
      snapshotIn = trace.filterMap (acceptedFor clientId) := by
  refine read_taken truthful clientId snapshotIn plannedIn _ ?_ ?_ ?_
  · intro receiver message valid
    cases message with
    | snapshot planned baseline => exact snapshot_in_envelope valid
    | event event isResend =>
        cases kind : kindForNetworkEvent event <;>
          simp [snapshotIn, envelopeFor, eventRoute, kind, plannedIn]
    | timeSync response => simp [snapshotIn, envelopeFor, plannedIn]
  · intro receiver message
    cases message with
    | snapshot planned baseline => by_cases mine : receiver = clientId <;>
        simp [acceptedFor, snapshotFor, mine, plannedIn]
    | event event isResend => exact (ite_self _).symm
    | timeSync response => exact (ite_self _).symm
  · intro happening notTaken
    unfold acceptedFor snapshotFor
    split
    · next receiver planned baseline accepted =>
        cases accepted with
        | true => cases notTaken
        | false => split <;> rfl
    · rfl

def eventOf : HostMessage → Option NetworkEventDTO
  | .event event _ => some event
  | _ => none

theorem taken_events {trace : Trace} (truthful : HubTruthful trace) (clientId : ClientId) :
    ((trace.filterMap takenEnvelope).filter fun envelope => envelope.peerId = clientId).filterMap
      (fun envelope => (eventIn envelope).map Prod.fst) = trace.filterMap (eventFor clientId) := by
  refine read_taken truthful clientId _ eventOf _ ?_ ?_ ?_
  · intro receiver message valid
    cases message with
    | snapshot planned baseline => simp [eventIn, envelopeFor, isEventClass, eventOf]
    | event event isResend => exact event_in_envelope valid
    | timeSync response => simp [eventIn, envelopeFor, isEventClass, eventOf]
  · intro receiver message
    cases message with
    | snapshot planned baseline => exact (ite_self _).symm
    | event event isResend => rfl
    | timeSync response => exact (ite_self _).symm
  · intro happening notTaken
    unfold eventFor
    split
    · cases notTaken
    · rfl

/-- What is found wherever the other is found, and as the same. -/
theorem filter_map_sublist {Item Value : Type} {first second : Item → Option Value}
    (within : ∀ item value, first item = some value → second item = some value)
    (items : List Item) : (items.filterMap first).Sublist (items.filterMap second) := by
  induction items with
  | nil => exact List.Sublist.refl _
  | cons item rest ih =>
      cases found : first item with
      | none =>
          rw [List.filterMap_cons_none found]
          exact ih.trans ((List.sublist_cons_self item rest).filterMap second)
      | some value =>
          rw [List.filterMap_cons_some found, List.filterMap_cons_some (within item value found)]
          exact ih.cons_cons value

theorem accepted_for {clientId : ClientId} {happening : Happening} {snapshot : SnapshotDTO}
    (accepted : acceptedFor clientId happening = some snapshot) :
    ∃ baseline, happening = .handed clientId (.snapshot snapshot baseline) true := by
  unfold acceptedFor snapshotFor at accepted
  split at accepted
  · next receiver planned baseline answer =>
      by_cases mine : receiver = clientId
      · subst mine
        cases answer with
        | true =>
            have same : planned = snapshot := by simpa using accepted
            exact ⟨baseline, by rw [same]⟩
        | false => simp at accepted
      · simp [mine] at accepted
  · cases accepted

end Brawololo.HubDeliveries
