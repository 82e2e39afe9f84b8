import Brawololo.HostBookkeeping
import Brawololo.HostSimulation
import Brawololo.RowRules

/-!
The size of the snapshots of a host. Every entity that a host shows has combat
state, so each takes the same number of bytes, and a planner without a budget
keeps them all: a snapshot fits an envelope exactly when few enough entities are
visible to the client.
-/

namespace Brawololo.SnapshotSizes

open GameTypes EntityStore Simulation Simulation.GameSimulation SimulationSnapshots
open SimulationStages ByteReader Serialization SnapshotCodec NetworkProtocol Replication
open EntityIdentity RowRules AreaOfInterest Server ServerNetworkHost HostSimulation

/-! Bytes. -/

/-- The bytes of an entity with combat state, and of a snapshot without entities. -/
def kEntityBytes : Nat := 71

def kHeaderBytes : Nat := 33

theorem writeCombat_length (combat : CombatStateDTO) : (writeCombat combat).length = 36 := by
  simp [writeCombat, writeEntityId, podBytes_length, Pod.size, enumByte, boolByte]

theorem entity_bytes {entity : EntityStateDTO} (fights : entity.combat.isSome) :
    (writeEntity entity).length = kEntityBytes := by
  obtain ⟨combat, isCombat⟩ := Option.isSome_iff_exists.mp fights
  simp [writeEntity, isCombat, writeMovement_length, writeCombat_length, writeReplication_length,
    boolByte, kEntityBytes]

theorem snapshot_bytes {snapshot : SnapshotDTO}
    (fight : ∀ entity ∈ snapshot.entities, entity.combat.isSome) :
    (serializeSnapshot snapshot).length =
      kHeaderBytes + kEntityBytes * snapshot.entities.length := by
  have entities : (snapshot.entities.flatMap writeEntity).length =
      kEntityBytes * snapshot.entities.length := by
    rw [List.length_flatMap, List.map_congr_left fun entity member =>
      entity_bytes (fight entity member)]
    simp [Nat.mul_comm]
  simp only [serializeSnapshot, List.length_append, podBytes_length, entities, enumByte,
    List.length_singleton, Pod.size, kHeaderBytes]
  omega

/-! The rows of a host. -/

/-- A row that a snapshot can show, with combat state. -/
structure Fights (row : Components) : Prop where
  body : row.identity.isSome ∧ row.transform.isSome ∧ row.velocity.isSome
  bears : row.player.isSome ∨ row.projectile.isSome

theorem Fights.of_standing {row later : Components} (fights : Fights row)
    (same : SameStanding row later) : Fights later := by
  obtain ⟨named, placed, moving⟩ := fights.body
  refine ⟨⟨by rw [same.identity]; exact named, same.transform placed, same.velocity moving⟩, ?_⟩
  have clients := congrArg Option.isSome same.client
  rw [Option.isSome_map, Option.isSome_map] at clients
  rw [clients, same.projectile]
  exact fights.bears

theorem step_fights (sim : GameSimulation) (call : ServerCall) (fight : EveryRow Fights sim) :
    EveryRow Fights (serverStep sim call) := by
  apply server_step_every_row sim call _ fight
  apply standing_rule
  · exact fun row later same fights => fights.of_standing same
  · exact fun _ _ _ _ _ => ⟨⟨rfl, rfl, rfl⟩, Or.inl rfl⟩
  · exact fun _ _ _ => ⟨⟨rfl, rfl, rfl⟩, Or.inr rfl⟩

theorem host_run_fights (transport : Transport) (config : ServerNetworkHostConfig)
    (calls : List HostCall) (own : ∀ call ∈ calls, OwnCall call) :
    EveryRow Fights (hostRun transport config calls).runtime.simulation := by
  apply Runs.run_invariant_of_mem (hostStep transport)
    (fun host => EveryRow Fights host.runtime.simulation) calls
  · intro call member host fight
    exact host_step_keeps transport (EveryRow Fights) step_fights (fun _ fight => fight) host call
      (own call member) fight
  · intro entity row present
    simp [ServerNetworkHost.new, ServerRuntime.new] at present

theorem entity_state_fights {observerClientId : ClientId} {row : Components}
    {state : EntityStateDTO} (isState : entityState observerClientId row = some state)
    (bears : row.player.isSome ∨ row.projectile.isSome) : state.combat.isSome := by
  obtain ⟨movement, _, rfl⟩ := Option.map_eq_some_iff.mp isState
  dsimp only
  split
  · rfl
  · rfl
  · next noPlayer noProjectile =>
      rw [noPlayer, noProjectile] at bears
      simp at bears

/-! The snapshot of a client. -/

/-- The entities that the client is shown. -/
def visibleEntities (sim : GameSimulation) (clientId : ClientId) : List Entity :=
  (List.range sim.registry.created).filter fun entity =>
    (sim.registry.get? entity).any
      (isVisible sim.config (observerChunk sim clientId) clientId)

theorem built_entities (order : LoopOrder) {sim : GameSimulation} (fight : EveryRow Fights sim)
    (clientId : ClientId) (snapshotId baselineId : SnapshotId) :
    (buildSnapshot order sim clientId snapshotId baselineId).entities.length =
        (visibleEntities sim clientId).length ∧
      ∀ entity ∈ (buildSnapshot order sim clientId snapshotId baselineId).entities,
        entity.combat.isSome := by
  constructor
  · obtain ⟨listed, distinct, exact, shown⟩ := build_snapshot_lists order sim
      (fun entity row present => (fight entity row present).body) clientId snapshotId baselineId
    rw [← shown.length_eq]
    apply List.Perm.length_eq
    refine (List.perm_ext_iff_of_nodup distinct (List.nodup_range.filter _)).mpr ?_
    intro entity
    rw [exact, List.mem_filter, List.mem_range, Option.any_eq_true]
    constructor
    · rintro ⟨row, present, visible⟩
      exact ⟨Registry.get?_lt _ present, row, present, visible⟩
    · rintro ⟨_, row, present, visible⟩
      exact ⟨row, present, visible⟩
  · intro state member
    obtain ⟨entity, _, isShown⟩ := List.mem_filterMap.mp member
    obtain ⟨row, present, isState⟩ := Option.bind_eq_some_iff.mp isShown
    split at isState
    · exact entity_state_fights isState (fight entity row present).bears
    · cases isState

/-- A planner without a budget keeps every entity. -/
theorem unbudgeted_plan {config : ReplicationPlannerConfig}
    (unbudgeted : config.maxEntitiesPerSnapshot = 0) (snapshot : SnapshotDTO)
    (clientId : ClientId) :
    (config.plan snapshot clientId).snapshot.entities.Perm snapshot.entities := by
  unfold ReplicationPlannerConfig.plan
  dsimp only
  rw [unbudgeted, if_neg (by simp)]
  split
  · exact List.perm_insertionSort _ _
  · exact List.Perm.refl _

/-- The most entities of which a snapshot can tell. -/
def kMostEntities : Nat := 922

/-- The snapshot of a host in any state, also between the turns of a tick. -/
theorem planned_fits_iff (order : LoopOrder) (host : ServerNetworkHost) (clientId : ClientId)
    (unbudgeted : host.config.replication.maxEntitiesPerSnapshot = 0)
    (fight : EveryRow Fights host.runtime.simulation) (baseline : Option SnapshotDTO) :
    (envelopeFor clientId
        (.snapshot (host.plannedSnapshot order clientId).snapshot baseline)).Ok ↔
      (visibleEntities host.runtime.simulation clientId).length ≤ kMostEntities := by
  obtain ⟨count, combat⟩ := built_entities order fight clientId host.runtime.nextSnapshotId
    (host.baselineCache.decide clientId (host.requestedBaselineId clientId)).effectiveBaselineId
  have kept : (host.plannedSnapshot order clientId).snapshot.entities.Perm
      (buildSnapshot order host.runtime.simulation clientId host.runtime.nextSnapshotId
        (host.baselineCache.decide clientId
          (host.requestedBaselineId clientId)).effectiveBaselineId).entities :=
    unbudgeted_plan unbudgeted _ clientId
  have bytes := snapshot_bytes fun entity member => combat entity (kept.mem_iff.mp member)
  rw [kept.length_eq, count] at bytes
  rw [envelope_ok_iff]
  dsimp only [envelopeFor]
  rw [bytes]
  unfold kHeaderBytes kEntityBytes kMaxNetworkPayloadBytes kMostEntities
  constructor
  · rintro ⟨_, fits, _⟩
    omega
  · intro few
    exact ⟨rfl, by omega, rfl⟩

/-- A connected transport, which sends what passes the validation. -/
def validates : Transport := fun _ envelope => decide envelope.Ok

/-- Such a transport refuses a snapshot exactly for its envelope. -/
theorem validated_send_iff (order : LoopOrder) (hostOrder : HostOrder) (nowMs : TimestampMs)
    (host : ServerNetworkHost) (clientId : ClientId) (baseline : Option SnapshotDTO) :
    (host.sendSnapshot validates order hostOrder nowMs clientId).2 = true ↔
      (envelopeFor clientId
        (.snapshot (host.plannedSnapshot order clientId).snapshot baseline)).Ok := by
  unfold sendSnapshot send validates
  dsimp only
  split
  · next refused =>
      rw [Bool.not_eq_true', decide_eq_false_iff_not] at refused
      exact iff_of_false Bool.false_ne_true refused
  · next accepted =>
      rw [Bool.not_eq_true', Bool.not_eq_false, decide_eq_true_eq] at accepted
      exact iff_of_true rfl accepted

/-- In every state of a host under the default configuration, a client's snapshot
fits an envelope exactly when few enough entities are visible to the client. -/
theorem snapshot_fits_iff (transport : Transport) (calls : List HostCall)
    (own : ∀ call ∈ calls, OwnCall call) (order : LoopOrder) (hostOrder : HostOrder)
    (nowMs : TimestampMs) (clientId : ClientId) (baseline : Option SnapshotDTO) :
    let host := hostRun transport {} calls
    let few := (visibleEntities host.runtime.simulation clientId).length ≤ kMostEntities
    ((envelopeFor clientId
        (.snapshot (host.plannedSnapshot order clientId).snapshot baseline)).Ok ↔ few) ∧
      ((host.sendSnapshot validates order hostOrder nowMs clientId).2 = true ↔ few) := by
  have config := (HostBookkeeping.host_run_progress transport {} calls).config
  have fits := planned_fits_iff order (hostRun transport {} calls) clientId
    (by rw [config]; rfl) (host_run_fights transport {} calls own) baseline
  exact ⟨fits, (validated_send_iff order hostOrder nowMs _ clientId baseline).trans fits⟩

/-- Three players join, and the host ticks. -/
def threeJoin : List HostCall :=
  [HostTurns.joinCall 1, HostTurns.joinCall 2, HostTurns.joinCall 3,
   .tickAndSendSnapshots .stored .stored 16]

theorem snapshot_fits_iff_three :
    (visibleEntities (hostRun validates {} threeJoin).runtime.simulation 2).length = 3 ∧
    (envelopeFor 2 (.snapshot ((hostRun validates {} threeJoin).plannedSnapshot .stored
      2).snapshot none)).Ok ∧
    ((hostRun validates {} threeJoin).sendSnapshot validates .stored .stored 32 2).2 = true := by
  have three : (visibleEntities (hostRun validates {} threeJoin).runtime.simulation 2).length =
      3 := by decide +kernel
  have fits := snapshot_fits_iff validates threeJoin
    (by simp [threeJoin, HostTurns.joinCall, OwnCall]) .stored .stored 32 2 none
  have few := three.trans_le (show 3 ≤ kMostEntities by decide)
  exact ⟨three, fits.1.mpr few, fits.2.mpr few⟩

end Brawololo.SnapshotSizes
