import Brawololo.MirroredRounds
import Brawololo.SnapshotSizes

/-!
What the snapshots of a host tell of an id stays true: whatever snapshot of
whatever tick tells an id as a player of a client or as a projectile, the tables
of the server say the same ever after, until the id counter wraps.
-/

namespace Brawololo.SnapshotKinds

open GameTypes EntityStore NetworkProtocol Simulation SimulationStages SimulationSnapshots
open EntityIdentity AreaOfInterest Server ServerNetworkHost HostTurns HostTransports
open HostSimulation SnapshotSizes RowRules MirroredRounds

/-! What a state tells, beside the tables of a simulation. -/

/-- The state tells of an id that was given, and tells its kind and its owner as
the tables have them. -/
structure Truthful (sim : GameSimulation) (state : EntityStateDTO) : Prop where
  known : ∃ entity, entity < sim.registry.created ∧ state.movement.entityId = idOf entity
  player : state.replication.kind = .player →
    sim.playerByClient[state.replication.ownerClientId]? = some state.movement.entityId
  projectile : state.replication.kind = .projectile → state.replication.ownerClientId = 0 ∧
    ∀ clientId : ClientId, sim.playerByClient[clientId]? ≠ some state.movement.entityId

/-- Every state of the snapshots that the record hands over, to whomever. -/
def Told (recorded : Trace) (holds : EntityStateDTO → Prop) : Prop :=
  ∀ receiver, ∀ happening ∈ recorded, ∀ handed, snapshotFor receiver happening = some handed →
    ∀ state ∈ handed.1.entities, holds state

theorem told_append {first second : Trace} {holds : EntityStateDTO → Prop}
    (early : Told first holds) (late : Told second holds) : Told (first ++ second) holds := by
  intro receiver happening member
  rcases List.mem_append.mp member with inFirst | inSecond
  · exact early receiver happening inFirst
  · exact late receiver happening inSecond

/-- A shown row of the simulation is told truthfully. -/
theorem shown_truthful {sim : GameSimulation} (identified : Identified sim)
    (room : sim.registry.created < 2 ^ 32 - 1) {entity : Entity} {row : Components}
    (present : sim.registry.get? entity = some row) (fights : Fights row) {state : EntityStateDTO}
    (shows : Shows row state) : Truthful sim state := by
  have isId : state.movement.entityId = idOf entity := by
    have carried := identified.carried entity row present
    rw [shows.identity] at carried
    exact congrArg NetworkIdentityComponent.id (Option.some.inj carried)
  constructor
  case known => exact ⟨entity, Registry.get?_lt _ present, isId⟩
  case player =>
    intro isKind
    cases isPlayer : row.player with
    | none =>
        obtain ⟨projectile, isProjectile⟩ :=
          Option.isSome_iff_exists.mp (fights.bears.resolve_left (by simp [isPlayer]))
        rw [(shows.projectile projectile isPlayer isProjectile).1] at isKind
        cases isKind
    | some player =>
        have owned := player_owned identified room present isPlayer
        rw [shows.owner, owned, isId]
        exact identified.entered entity row player present isPlayer
  case projectile =>
    intro isKind
    have noPlayer : row.player = none := by
      cases isPlayer : row.player with
      | none => rfl
      | some player =>
          rw [(shows.player player isPlayer).1] at isKind
          cases isKind
    constructor
    · rw [shows.owner]
      cases isOwner : row.ownedBy with
      | none => rfl
      | some owner =>
          obtain ⟨player, isPlayer, _⟩ := identified.owners entity row owner present isOwner
          rw [noPlayer] at isPlayer
          cases isPlayer
    · intro clientId entry
      rw [isId] at entry
      obtain ⟨other, otherRow, player, sameId, found, isPlayer, _⟩ :=
        identified.placed clientId (idOf entity) entry
      have same : entity = other :=
        id_of_injective (Nat.lt_trans (Registry.get?_lt _ present) room)
          (Nat.lt_trans (Registry.get?_lt _ found) room) sameId
      rw [← same, present] at found
      cases found
      rw [noPlayer] at isPlayer
      cases isPlayer

/-! Truthful states stay so. -/

/-- A player that joins gets an id that no state has told of. -/
theorem login_truthful {sim : GameSimulation} (identified : Identified sim)
    (command : LoginCommand)
    (room : (submitLogin sim command).1.registry.created < 2 ^ 32 - 1) {state : EntityStateDTO}
    (truthful : Truthful sim state) : Truthful (submitLogin sim command).1 state := by
  rcases submit_login_cases sim command with same | ⟨unknown, _, joined⟩
  · rw [same]
    exact truthful
  · rw [joined] at room ⊢
    obtain ⟨entity, below, isId⟩ := truthful.known
    have grown : sim.registry.created < 2 ^ 32 - 1 := by
      refine Nat.lt_trans ?_ room
      dsimp only [createPlayer, GameSimulation.allocateNetworkId]
      rw [Registry.created_create]
      exact Nat.lt_succ_self _
    have fresh : sim.nextNetworkId ≠ state.movement.entityId := by
      rw [identified.counted, isId]
      intro same
      exact absurd (id_of_injective grown (Nat.lt_trans below grown) same) (Nat.ne_of_gt below)
    constructor
    case known =>
      refine ⟨entity, ?_, isId⟩
      dsimp only [createPlayer, GameSimulation.allocateNetworkId]
      rw [Registry.created_create]
      exact Nat.lt_succ_of_lt below
    case player =>
      intro isKind
      have entry := truthful.player isKind
      dsimp only [createPlayer, GameSimulation.allocateNetworkId]
      rw [get_insert, if_neg, entry]
      intro same
      rw [← same] at entry
      exact unknown (Std.ExtTreeMap.mem_iff_isSome_getElem?.mpr (by rw [entry]; rfl))
    case projectile =>
      intro isKind
      obtain ⟨noOwner, noPlayer⟩ := truthful.projectile isKind
      refine ⟨noOwner, ?_⟩
      intro clientId
      dsimp only [createPlayer, GameSimulation.allocateNetworkId]
      rw [get_insert]
      split
      · exact fun same => fresh (Option.some.inj same)
      · exact noPlayer clientId

/-- A call that brings no player leaves the tables as they tell. -/
theorem truthful_kept {before after : GameSimulation} {state : EntityStateDTO}
    (truthful : Truthful before state)
    (created : before.registry.created ≤ after.registry.created)
    (players : after.playerByClient = before.playerByClient) : Truthful after state := by
  obtain ⟨entity, below, isId⟩ := truthful.known
  refine ⟨⟨entity, Nat.lt_of_lt_of_le below created, isId⟩, ?_, ?_⟩
  · rw [players]
    exact truthful.player
  · rw [players]
    exact truthful.projectile

theorem input_players (sim : GameSimulation) (packet : ClientInputPacket) :
    (submitInput sim packet).1.playerByClient = sim.playerByClient := by
  unfold submitInput
  dsimp only
  split
  · rfl
  · split
    · rfl
    · rfl

/-- The server while its ids are distinct, and everything told is true. -/
def TellsTruth (recorded : Trace) (sim : GameSimulation) : Prop :=
  allocations sim < 2 ^ 32 - 1 → Identified sim ∧ Told recorded (Truthful sim)

theorem step_tells (recorded : Trace) (sim : GameSimulation) (call : ServerCall)
    (tells : TellsTruth recorded sim) : TellsTruth recorded (serverStep sim call) := by
  intro room
  have aged := server_step_aged sim call
  have before := Nat.lt_of_le_of_lt aged.created room
  obtain ⟨identified, told⟩ := tells before
  refine ⟨server_step_identified sim call (fun _ => identified) room, ?_⟩
  intro receiver happening member handed isHanded state isState
  have truthful := told receiver happening member handed isHanded state isState
  cases call with
  | login command => exact login_truthful identified command room truthful
  | input packet => exact truthful_kept truthful aged.created (input_players sim packet)
  | tick order => exact truthful_kept truthful aged.created (tick_setup order sim).2.1

/-! The host. -/

/-- What a call of the host hands over are plans of the simulation it leaves. -/
theorem host_step_hands (transport : Transport) (host : ServerNetworkHost) (call : HostCall) :
    ∃ added, (hostStep transport host call).trace = host.trace ++ added ∧
      ∀ receiver, ∀ happening ∈ added, ∀ handed, snapshotFor receiver happening = some handed →
        ∃ (order : LoopOrder) (planner : ServerNetworkHost),
          planner.runtime.simulation = (hostStep transport host call).runtime.simulation ∧
          handed.1 = (planner.plannedSnapshot order receiver).snapshot := by
  have silent {added : Trace} (quiet : NoSnapshot added) :
      ∀ receiver, ∀ happening ∈ added, ∀ handed, snapshotFor receiver happening = some handed →
        ∃ (order : LoopOrder) (planner : ServerNetworkHost),
          planner.runtime.simulation = (hostStep transport host call).runtime.simulation ∧
          handed.1 = (planner.plannedSnapshot order receiver).snapshot := by
    intro receiver happening member handed isHanded
    rw [quiet receiver happening member] at isHanded
    cases isHanded
  have nothing : NoSnapshot [] := fun _ _ member => by cases member
  cases call with
  | connectSimulationOnlyClient clientId nowMs =>
      exact ⟨[], (List.append_nil _).symm, silent nothing⟩
  | pumpClientMessages polled =>
      obtain ⟨added, recorded, quiet⟩ := pump_no_snapshot transport polled host
      exact ⟨added, recorded, silent quiet⟩
  | tickAndSendSnapshots order hostOrder nowMs =>
      obtain ⟨added, recorded, simulated, handed⟩ := tick_hands transport order hostOrder nowMs
        (fun receiver planned => ∃ planner : ServerNetworkHost,
          planner.runtime.simulation = tickedSimulation order host ∧
          planned = (planner.plannedSnapshot order receiver).snapshot) host
        (fun _ ticked _ same => ⟨ticked, same, rfl⟩)
      refine ⟨added, recorded, ?_⟩
      intro receiver happening member snapshot isSnapshot
      obtain ⟨planner, isPlanner, isPlanned⟩ :=
        handed receiver happening member snapshot isSnapshot
      exact ⟨order, planner, isPlanner.trans simulated.symm, isPlanned⟩
  | drainEvents => exact ⟨[], (List.append_nil _).symm, silent nothing⟩
  | buildSnapshotFor =>
      refine ⟨[.snapshotNumbered host.runtime.nextSnapshotId], rfl, silent ?_⟩
      intro receiver happening member
      rw [List.mem_singleton.mp member]
      rfl
  | changeRuntime runtime => exact ⟨[], (List.append_nil _).symm, silent nothing⟩

theorem host_step_tells (transport : Transport) (host : ServerNetworkHost) (call : HostCall)
    (own : OwnCall call)
    (fights : EveryRow Fights (hostStep transport host call).runtime.simulation)
    (tells : TellsTruth host.trace host.runtime.simulation) :
    TellsTruth (hostStep transport host call).trace
      (hostStep transport host call).runtime.simulation := by
  intro room
  have kept := host_step_keeps transport (TellsTruth host.trace) (step_tells host.trace)
    (fun sim tells room => by
      obtain ⟨identified, told⟩ := tells room
      refine ⟨drained_identified sim (fun _ => identified) room, ?_⟩
      intro receiver happening member handed isHanded state isState
      exact truthful_kept (told receiver happening member handed isHanded state isState)
        (Nat.le_refl _) rfl) host call own tells
  obtain ⟨identified, told⟩ := kept room
  obtain ⟨added, recorded, handed⟩ := host_step_hands transport host call
  refine ⟨identified, ?_⟩
  rw [recorded]
  refine told_append told ?_
  intro receiver happening member snapshot isSnapshot state isState
  obtain ⟨order, planner, isPlanner, isPlanned⟩ :=
    handed receiver happening member snapshot isSnapshot
  rw [isPlanned] at isState
  rw [← isPlanner] at identified fights room ⊢
  obtain ⟨entity, row, present, shows⟩ :=
    planned_shows order (identified_bodied identified) isState
  exact shown_truthful identified room present (fights entity row present) shows

theorem host_run_tells (transport : Transport) (config : ServerNetworkHostConfig)
    (calls : List HostCall) (own : ∀ call ∈ calls, OwnCall call) :
    TellsTruth (hostRun transport config calls).trace
      (hostRun transport config calls).runtime.simulation := by
  have both : TellsTruth (hostRun transport config calls).trace
        (hostRun transport config calls).runtime.simulation ∧
      EveryRow Fights (hostRun transport config calls).runtime.simulation := by
    refine Runs.run_invariant_of_mem (hostStep transport)
      (fun host => TellsTruth host.trace host.runtime.simulation ∧
        EveryRow Fights host.runtime.simulation) calls ?_ _ ?_
    · rintro call member host ⟨tells, fights⟩
      have fightsNext := host_step_keeps transport (EveryRow Fights) step_fights
        (fun _ fight => fight) host call (own call member) fights
      exact ⟨host_step_tells transport host call (own call member) fightsNext tells, fightsNext⟩
    · constructor
      · exact fun _ => ⟨identified_start _ rfl, fun _ _ member => by cases member⟩
      · intro entity row present
        simp [ServerNetworkHost.new, ServerRuntime.new] at present
  exact both.1

/-! Results. -/

/-- A client has one player, and a player one client. -/
theorem owner_unique {sim : GameSimulation} (identified : Identified sim)
    (room : sim.registry.created < 2 ^ 32 - 1) {first second : ClientId} {id : NetworkEntityId}
    (one : sim.playerByClient[first]? = some id) (two : sim.playerByClient[second]? = some id) :
    second = first := by
  obtain ⟨entity, row, player, isId, present, isPlayer, isFirst, _⟩ :=
    identified.placed first id one
  obtain ⟨other, otherRow, otherPlayer, isOther, found, isHolder, isSecond, _⟩ :=
    identified.placed second id two
  have same : entity = other :=
    id_of_injective (Nat.lt_trans (Registry.get?_lt _ present) room)
      (Nat.lt_trans (Registry.get?_lt _ found) room) (isId.symm.trans isOther)
  rw [← same, present] at found
  cases found
  rw [isPlayer] at isHolder
  cases isHolder
  exact isSecond.symm.trans isFirst

/-- Until the id counter wraps, two snapshots of a host, to whichever clients and
in whichever ticks, never disagree on what an id is: where both tell of it, they
tell the same kind and the same owner. -/
theorem told_kinds_stay (transport : Transport) (config : ServerNetworkHostConfig)
    (calls : List HostCall) (own : ∀ call ∈ calls, OwnCall call)
    (unwrapped : allocations (hostRun transport config calls).runtime.simulation < 2 ^ 32 - 1) :
    Told (hostRun transport config calls).trace fun first =>
      Told (hostRun transport config calls).trace fun second =>
        second.movement.entityId = first.movement.entityId →
          second.replication.kind = first.replication.kind ∧
          second.replication.ownerClientId = first.replication.ownerClientId := by
  obtain ⟨identified, told⟩ := host_run_tells transport config calls own unwrapped
  intro receiver happening member handed isHanded first isFirst
    receiver' happening' member' handed' isHanded' second isSecond sameId
  have one := told receiver happening member handed isHanded first isFirst
  have two := told receiver' happening' member' handed' isHanded' second isSecond
  cases firstKind : first.replication.kind with
  | player =>
      have entry := one.player firstKind
      cases secondKind : second.replication.kind with
      | player =>
          refine ⟨rfl, owner_unique identified unwrapped entry ?_⟩
          rw [two.player secondKind, sameId]
      | projectile =>
          refine absurd entry ?_
          rw [← sameId]
          exact (two.projectile secondKind).2 _
  | projectile =>
      obtain ⟨noOwner, noPlayer⟩ := one.projectile firstKind
      cases secondKind : second.replication.kind with
      | player => exact absurd (sameId ▸ two.player secondKind) (noPlayer _)
      | projectile => exact ⟨rfl, (two.projectile secondKind).1.trans noOwner.symm⟩

/-- Two clients, a shot, and a snapshot to each of the clients in each tick. -/
def shootingCalls : List HostCall :=
  [joinCall 1, joinCall 2,
    .pumpClientMessages [Client.inputEnvelope
      { header := { clientId := 1, sequence := 1 }, input := { fire := true } }]] ++
    List.replicate 60 (.tickAndSendSnapshots .stored .stored 0)

theorem told_kinds_stay_shooting :
    Told (hostRun validates {} shootingCalls).trace fun first =>
      Told (hostRun validates {} shootingCalls).trace fun second =>
        second.movement.entityId = first.movement.entityId →
          second.replication.kind = first.replication.kind ∧
          second.replication.ownerClientId = first.replication.ownerClientId := by
  refine told_kinds_stay validates {} shootingCalls ?_ (by decide +kernel)
  intro call member
  simp only [shootingCalls, List.cons_append, List.nil_append, List.mem_cons,
    List.mem_replicate] at member
  rcases member with rfl | rfl | rfl | ⟨_, rfl⟩ <;> trivial

end Brawololo.SnapshotKinds
