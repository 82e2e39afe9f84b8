import Brawololo.AreaOfInterest
import Brawololo.HostTurns

/-!
The simulation under a network host. The messages and ticks of the host are
logins, inputs and ticks of its server simulation, so what those keep the host
keeps. Until the id counter wraps, no snapshot of the host lists an id twice.
-/

namespace Brawololo.HostSimulation

open GameTypes EntityStore Simulation SimulationStages SimulationSnapshots Replication
open EntityIdentity AreaOfInterest Server ServerNetworkHost HostTurns

/-- A call on the host itself, not a change through `Runtime()`. -/
def OwnCall : HostCall → Prop
  | .changeRuntime _ => False
  | _ => True

section Keeping

variable (transport : Transport) (holds : GameSimulation → Prop)
variable (steps : ∀ sim call, holds sim → holds (serverStep sim call))
variable (drained : ∀ sim, holds sim → holds { sim with events := [] })

include steps

theorem envelope_keeps (host : ServerNetworkHost) (envelope : NetworkProtocol.NetworkEnvelope)
    (kept : holds host.runtime.simulation) :
    holds (host.handleEnvelope transport envelope).runtime.simulation := by
  unfold handleEnvelope
  split
  · exact kept
  · split
    · rcases login_simulation host envelope with same | ⟨joining, nowMs, connected⟩
      · exact same ▸ kept
      · exact connected ▸ steps _ (.login _) kept
    · rw [input_simulation]
      cases Serialization.deserializeClientInputPacket envelope.payload with
      | none => exact kept
      | some packet => exact steps _ (.input packet) kept
    · rw [snapshot_ack_runtime]
      exact kept
    · rw [event_ack_runtime]
      exact kept
    · rw [time_sync_runtime]
      exact kept
    · exact kept

include drained

/-- What logins, inputs, ticks and draining keep, the calls of the host keep. -/
theorem host_step_keeps (host : ServerNetworkHost) (call : HostCall) (own : OwnCall call)
    (kept : holds host.runtime.simulation) :
    holds (hostStep transport host call).runtime.simulation := by
  cases call with
  | connectSimulationOnlyClient clientId nowMs => exact steps _ (.login _) kept
  | pumpClientMessages polled =>
      exact Runs.run_invariant (handleEnvelope transport)
        (fun between => holds between.runtime.simulation)
        (fun between envelope kept => envelope_keeps transport holds steps between envelope kept)
        host kept polled
  | tickAndSendSnapshots order hostOrder nowMs =>
      have ticked : holds (tickedSimulation order host) := drained _ (steps _ (.tick order) kept)
      rw [← tick_simulation transport order hostOrder host nowMs] at ticked
      exact ticked
  | drainEvents => exact kept
  | buildSnapshotFor => exact kept
  | changeRuntime runtime => cases own

end Keeping

/-! Snapshots list no id twice. -/

theorem drained_identified (sim : GameSimulation) (kept : WhileUnwrapped sim) :
    WhileUnwrapped { sim with events := [] } :=
  fun unwrapped => identified_congr (kept unwrapped) rfl rfl rfl rfl rfl

theorem host_step_identified (transport : Transport) (host : ServerNetworkHost) (call : HostCall)
    (own : OwnCall call) (kept : WhileUnwrapped host.runtime.simulation) :
    WhileUnwrapped (hostStep transport host call).runtime.simulation :=
  host_step_keeps transport WhileUnwrapped server_step_identified drained_identified host call own
    kept

/-- A call never takes back a handle. -/
theorem host_step_aged (transport : Transport) (host : ServerNetworkHost) (call : HostCall)
    (own : OwnCall call) :
    Aged host.runtime.simulation (hostStep transport host call).runtime.simulation :=
  host_step_keeps transport (Aged host.runtime.simulation)
    (fun sim call aged => aged.trans (server_step_aged sim call))
    (fun _ aged => ⟨aged.created, aged.dead⟩) host call own (Aged.refl _)

def snapshotIds (snapshot : SnapshotDTO) : List NetworkEntityId :=
  snapshot.entities.map fun state => state.replication.entityId

/-- The id that a live entity carries. -/
def carriedId (sim : GameSimulation) (entity : Entity) : NetworkEntityId :=
  (((sim.registry.get? entity).bind fun row => row.identity).map fun identity =>
    identity.id).getD {}

/-- A snapshot lists the ids that the visible entities carry. -/
theorem build_snapshot_ids (order : LoopOrder) {sim : GameSimulation} (bodied : Bodied sim)
    (observerClientId : ClientId) (snapshotId baselineId : SnapshotId) :
    ∃ listed : List Entity, listed.Nodup ∧
      (∀ entity, entity ∈ listed ↔ ∃ row, sim.registry.get? entity = some row ∧
        isVisible sim.config (observerChunk sim observerClientId) observerClientId row = true) ∧
      snapshotIds (buildSnapshot order sim observerClientId snapshotId baselineId) =
        listed.map (carriedId sim) := by
  obtain ⟨listed, distinct, visible, shown⟩ := build_snapshot_lists order sim bodied
    observerClientId snapshotId baselineId
  refine ⟨listed, distinct, visible, ?_⟩
  symm
  apply List.forall₂_eq_eq_eq ▸ List.forall₂_map_left_iff.mpr (List.forall₂_map_right_iff.mpr _)
  refine shown.imp ?_
  rintro entity state ⟨row, present, shows⟩
  unfold carriedId
  rw [present, Option.bind_some, shows.identity, shows.replicated]
  rfl

/-- Distinct entities are listed under distinct ids. -/
theorem build_snapshot_distinct (order : LoopOrder) {sim : GameSimulation}
    (unwrapped : allocations sim < 2 ^ 32 - 1) (identified : Identified sim)
    (observerClientId : ClientId) (snapshotId baselineId : SnapshotId) :
    (snapshotIds (buildSnapshot order sim observerClientId snapshotId baselineId)).Nodup := by
  obtain ⟨listed, distinct, visible, ids⟩ := build_snapshot_ids order
    (identified_bodied identified) observerClientId snapshotId baselineId
  have carried {entity : Entity} {row : Components}
      (present : sim.registry.get? entity = some row) : carriedId sim entity = idOf entity := by
    unfold carriedId
    rw [present, Option.bind_some, identified.carried entity row present]
    rfl
  rw [ids]
  refine distinct.map_on ?_
  intro first isFirst second isSecond same
  obtain ⟨_, firstRow, _⟩ := (visible first).mp isFirst
  obtain ⟨_, secondRow, _⟩ := (visible second).mp isSecond
  rw [carried firstRow, carried secondRow] at same
  exact id_of_injective (Nat.lt_trans (Registry.get?_lt _ firstRow) unwrapped)
    (Nat.lt_trans (Registry.get?_lt _ secondRow) unwrapped) same

/-- The planner lists nothing that it was not given, and nothing more often. -/
theorem plan_subperm (config : ReplicationPlannerConfig) (snapshot : SnapshotDTO)
    (clientId : ClientId) :
    (config.plan snapshot clientId).snapshot.entities.Subperm snapshot.entities := by
  unfold ReplicationPlannerConfig.plan
  dsimp only
  have sorted : (if config.prioritizeHigherFirst then
      stableSort (sortsBefore config clientId) snapshot.entities
      else snapshot.entities).Perm snapshot.entities := by
    split
    · exact List.perm_insertionSort _ _
    · exact List.Perm.refl _
  generalize (if config.prioritizeHigherFirst then
    stableSort (sortsBefore config clientId) snapshot.entities
    else snapshot.entities) = kept at sorted
  split
  · exact (List.take_sublist _ _).subperm.trans sorted.subperm
  · exact sorted.subperm

theorem planned_distinct (order : LoopOrder) (host : ServerNetworkHost) (clientId : ClientId)
    (unwrapped : allocations host.runtime.simulation < 2 ^ 32 - 1)
    (identified : Identified host.runtime.simulation) :
    (snapshotIds (host.plannedSnapshot order clientId).snapshot).Nodup := by
  obtain ⟨middle, arranged, kept⟩ := plan_subperm host.config.replication
    { buildSnapshot order host.runtime.simulation clientId host.runtime.nextSnapshotId
        (host.baselineCache.decide clientId (host.requestedBaselineId clientId)).effectiveBaselineId with
      deliveryKind := (host.baselineCache.decide clientId
        (host.requestedBaselineId clientId)).deliveryKind } clientId
  have distinct := build_snapshot_distinct order unwrapped identified clientId
    host.runtime.nextSnapshotId
    (host.baselineCache.decide clientId (host.requestedBaselineId clientId)).effectiveBaselineId
  exact (arranged.map _).nodup_iff.mp (distinct.sublist (kept.map _))

end Brawololo.HostSimulation
