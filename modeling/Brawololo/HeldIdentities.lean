import Brawololo.SnapshotKinds

/-!
What a client of a game holds of an id is what the server has of it. The
snapshots that reach it tell the truth, and of its own a client adds one player
at most, under the first id, which on a server is a player's too.
-/

namespace Brawololo.HeldIdentities

open GameTypes EntityStore NetworkProtocol Simulation Simulation.GameSimulation SimulationStages
open SimulationSnapshots EntityIdentity Client ClientTables LocalIdentity RowRules Server HostTurns
open HostTransports HostSimulation HubTransports NetworkedGames ClientBooks ApplicationBooks
open ServerBooks GameBooks GameDelivery MirroredRounds SnapshotKinds

/-! The first id of a server. -/

/-- The first entity of a server is a player. -/
def FirstIsPlayer (sim : GameSimulation) : Prop :=
  0 < sim.registry.created → ∃ clientId : ClientId, sim.playerByClient[clientId]? = some (idOf 0)

/-- Without an entity no projectile is fired. -/
theorem empty_tick_created (order : LoopOrder) (sim : GameSimulation)
    (empty : sim.registry.created = 0) : (tickFixed order sim).registry.created = 0 := by
  have moved : (processInputs order (advanceClock sim)).registry.created = 0 :=
    (process_inputs_tables order (advanceClock sim)).created.trans empty
  have warmed : (processWeaponWarmups order
      (processInputs order (advanceClock sim))).registry.created = 0 := by
    rw [quiet_warmups_eq]
    · exact (for_each_tables _ _ _ _ _).created.trans moved
    · intro entity row present
      have below := Registry.get?_lt _ present
      rw [moved] at below
      exact absurd below (Nat.not_lt_zero entity)
  exact ((process_respawns_tables order _).created.trans
    (process_projectiles_created order _)).trans warmed

theorem step_first_player (sim : GameSimulation) (call : ServerCall) (identified : Identified sim)
    (first : FirstIsPlayer sim) : FirstIsPlayer (serverStep sim call) := by
  cases call with
  | login command =>
      change FirstIsPlayer (submitLogin sim command).1
      rcases submit_login_cases sim command with same | ⟨unknown, _, joined⟩
      · rw [same]
        exact first
      · rw [joined]
        intro _
        dsimp only [createPlayer, allocateNetworkId]
        rcases Nat.eq_zero_or_pos sim.registry.created with empty | grown
        · refine ⟨command.header.clientId, ?_⟩
          rw [get_insert, if_pos rfl, identified.counted, empty]
        · obtain ⟨clientId, entry⟩ := first grown
          refine ⟨clientId, ?_⟩
          rw [get_insert, if_neg, entry]
          rintro rfl
          exact unknown (Std.ExtTreeMap.mem_iff_isSome_getElem?.mpr (by rw [entry]; rfl))
  | input packet =>
      change FirstIsPlayer (submitInput sim packet).1
      rcases submit_input_cases sim packet with ⟨same, _⟩ | ⟨_, _, accepted⟩
      · rw [same]
        exact first
      · rw [accepted]
        exact first
  | tick order =>
      intro some
      have players : (serverStep sim (.tick order)).playerByClient = sim.playerByClient :=
        (tick_setup order sim).2.1
      rw [players]
      apply first
      rcases Nat.eq_zero_or_pos sim.registry.created with empty | grown
      · exact absurd (empty_tick_created order sim empty) (Nat.ne_of_gt some)
      · exact grown

theorem host_run_first (transport : Transport) (config : ServerNetworkHostConfig)
    {calls : List HostCall} (own : ∀ call ∈ calls, OwnCall call)
    (unwrapped : allocations (hostRun transport config calls).runtime.simulation < 2 ^ 32 - 1) :
    FirstIsPlayer (hostRun transport config calls).runtime.simulation := by
  let holds (sim : GameSimulation) : Prop :=
    allocations sim < 2 ^ 32 - 1 → Identified sim ∧ FirstIsPlayer sim
  have steps (sim : GameSimulation) (call : ServerCall) (kept : holds sim) :
      holds (serverStep sim call) := by
    intro room
    have before := Nat.lt_of_le_of_lt (server_step_aged sim call).created room
    obtain ⟨identified, first⟩ := kept before
    exact ⟨server_step_identified sim call (fun _ => identified) room,
      step_first_player sim call identified first⟩
  have drained (sim : GameSimulation) (kept : holds sim) : holds sim.drainEvents.1 := by
    intro room
    obtain ⟨identified, first⟩ := kept room
    exact ⟨drained_identified sim (fun _ => identified) room, first⟩
  have kept : holds (hostRun transport config calls).runtime.simulation := by
    refine Runs.run_invariant_of_mem (hostStep transport)
      (fun host => holds host.runtime.simulation) calls ?_ _ ?_
    · exact fun call member host kept =>
        host_step_keeps transport holds steps drained host call (own call member) kept
    · exact fun _ => ⟨identified_start _ rfl, fun some => absurd some (Nat.lt_irrefl 0)⟩
  exact (kept unwrapped).2

/-! What a client holds. -/

section Client

variable (server : GameSimulation) (localClientId : ClientId)

/-- The id is that of the owner's player: the server has it so, or it is the id
under which the client has entered its own player. -/
def Belongs (owner : ClientId) (id : NetworkEntityId) : Prop :=
  server.playerByClient[owner]? = some id ∨ owner = localClientId ∧ id = idOf 0

/-- The id is none that a player can have. -/
def NoPlayer (id : NetworkEntityId) : Prop :=
  id ≠ idOf 0 ∧ ∀ clientId : ClientId, server.playerByClient[clientId]? ≠ some id

structure RowAgrees (row : Components) : Prop where
  owned : ∀ owner, heldClient row = some owner → row.ownedBy = some { clientId := owner }
  player : ∀ owner identity, heldClient row = some owner → row.identity = some identity →
    Belongs server localClientId owner identity.id
  projectile : ∀ identity, row.projectile.isSome → row.identity = some identity →
    NoPlayer server identity.id

/-- What the client holds and what the server has agree on every id. -/
structure Agrees (sim : GameSimulation) : Prop where
  client : sim.config.mode = .clientPrediction
  named : Named sim
  rows : EveryRow (RowAgrees server localClientId) sim
  players : ∀ (owner : ClientId) (id : NetworkEntityId), sim.playerByClient[owner]? = some id →
    Belongs server localClientId owner id
  /-- A client that has entered its player has not lost it. -/
  first : sim.nextNetworkId = idOf 0 ∨ localClientId ∈ sim.playerByClient

/-- A state of a snapshot that tells what the server has. -/
structure Credible (state : EntityStateDTO) : Prop where
  player : state.replication.kind = .player →
    server.playerByClient[state.replication.ownerClientId]? = some state.movement.entityId
  projectile : state.replication.kind = .projectile → NoPlayer server state.movement.entityId

variable {server : GameSimulation} {localClientId : ClientId}

theorem belongs_player {owner : ClientId} {id : NetworkEntityId}
    (belongs : Belongs server localClientId owner id) : ¬ NoPlayer server id := by
  rintro ⟨notFirst, noPlayer⟩
  rcases belongs with entry | ⟨_, isFirst⟩
  · exact noPlayer owner entry
  · exact notFirst isFirst

/-- What the snapshots of a server tell is credible. -/
theorem truthful_credible {state : EntityStateDTO} (first : FirstIsPlayer server)
    (truthful : Truthful server state) : Credible server state where
  player := truthful.player
  projectile := by
    intro isKind
    obtain ⟨_, noPlayer⟩ := truthful.projectile isKind
    refine ⟨?_, noPlayer⟩
    intro isFirst
    obtain ⟨entity, below, _⟩ := truthful.known
    obtain ⟨clientId, entry⟩ := first (Nat.zero_lt_of_lt below)
    exact noPlayer clientId (isFirst ▸ entry)

theorem agrees_coherent {sim : GameSimulation} (agrees : Agrees server localClientId sim) :
    Coherent sim where
  client := agrees.client
  named := agrees.named
  owned := by
    intro entity row present player isPlayer
    apply (agrees.rows entity row present).owned player.clientId
    unfold heldClient
    rw [isPlayer]
    rfl

/-! Updates of rows. -/

theorem row_agrees_standing {row later : Components} (standing : SameStanding row later)
    (agrees : RowAgrees server localClientId row) : RowAgrees server localClientId later := by
  have sameClient : heldClient later = heldClient row := standing.client
  constructor
  · rw [sameClient, standing.ownedBy]
    exact agrees.owned
  · rw [sameClient, standing.identity]
    exact agrees.player
  · rw [standing.projectile, standing.identity]
    exact agrees.projectile

/-- A row with nothing but its id agrees. -/
theorem row_agrees_new (row : Components) (noPlayer : row.player = none)
    (noProjectile : row.projectile = none) : RowAgrees server localClientId row := by
  have unheld : heldClient row = none := by
    unfold heldClient
    rw [noPlayer]
    rfl
  constructor
  · simp [unheld]
  · simp [unheld]
  · simp [noProjectile]

theorem agrees_of_same {before after : GameSimulation} (tables : SameTables before after)
    (rows : RowsRelated SameStanding before after) (agrees : Agrees server localClientId before) :
    Agrees server localClientId after where
  client := by rw [tables.config]; exact agrees.client
  named := named_of_same tables rows agrees.named
  rows := by
    intro entity later present
    obtain ⟨row, found, standing⟩ := rows.backward present
    exact row_agrees_standing standing (agrees.rows entity row found)
  players := by rw [tables.playerByClient]; exact agrees.players
  first := by rw [tables.nextNetworkId, tables.playerByClient]; exact agrees.first

theorem agrees_congr {before after : GameSimulation} (agrees : Agrees server localClientId before)
    (config : after.config = before.config) (registry : after.registry = before.registry)
    (entityByNetworkId : after.entityByNetworkId = before.entityByNetworkId)
    (playerByClient : after.playerByClient = before.playerByClient)
    (nextNetworkId : after.nextNetworkId = before.nextNetworkId) :
    Agrees server localClientId after where
  client := by rw [config]; exact agrees.client
  named := named_congr agrees.named registry entityByNetworkId
  rows := by
    unfold EveryRow
    rw [registry]
    exact agrees.rows
  players := by rw [playerByClient]; exact agrees.players
  first := by rw [nextNetworkId, playerByClient]; exact agrees.first

theorem destroy_projectile_agrees (sim : GameSimulation) (entity : Entity)
    (agrees : Agrees server localClientId sim) :
    Agrees server localClientId (destroyProjectile sim entity) where
  client := by rw [(destroy_projectile_setup sim entity).config]; exact agrees.client
  named := destroy_projectile_named sim entity agrees.named
  rows := by
    intro other row present
    rw [destroy_projectile_row] at present
    split at present
    · cases present
    · exact agrees.rows other row present
  players := by rw [(destroy_projectile_setup sim entity).playerByClient]; exact agrees.players
  first := by
    have counter : (destroyProjectile sim entity).nextNetworkId = sim.nextNetworkId := by
      unfold destroyProjectile
      split <;> rfl
    rw [counter, (destroy_projectile_setup sim entity).playerByClient]
    exact agrees.first

/-- A client fires no projectile, so its tick creates nothing. -/
theorem tick_agrees (order : LoopOrder) (sim : GameSimulation)
    (agrees : Agrees server localClientId sim) :
    Agrees server localClientId (tickFixed order sim) := by
  have moved := agrees_of_same (process_inputs_tables order (advanceClock sim))
    (process_inputs_standing order _) (agrees_congr agrees rfl rfl rfl rfl rfl)
  have warmed : Agrees server localClientId (processWeaponWarmups order
      (processInputs order (advanceClock sim))) := by
    rw [client_warmups_eq order _ moved.client]
    exact agrees_of_same (for_each_tables _ _ _ _ _) (finish_warmups_standing order _) moved
  have flown (sim : GameSimulation) (agrees : Agrees server localClientId sim) :
      Agrees server localClientId (processProjectiles order sim) := by
    apply Runs.run_invariant destroyProjectile (Agrees server localClientId)
      destroy_projectile_agrees
    exact agrees_of_same (projectile_loop_tables _ _ (sim, []))
      (projectile_loop_standing (sim.registry.view order .projectileTargets inTargetView)
        (sim.registry.view order .projectiles inProjectileView) sim) agrees
  exact agrees_of_same (process_respawns_tables order _) (process_respawns_standing order _)
    (flown _ warmed)

/-! Logging in and submitting. -/

/-- The client's own login enters the first id, or finds its player there. -/
theorem own_login_agrees (sim : GameSimulation) (command : LoginCommand)
    (own : command.header.clientId = localClientId) (agrees : Agrees server localClientId sim) :
    Agrees server localClientId (submitLogin sim command).1 := by
  rcases submit_login_cases sim command with same | ⟨unknown, _, joined⟩
  · rw [same]
    exact agrees
  · rw [own] at unknown joined
    have counter : sim.nextNetworkId = idOf 0 := agrees.first.resolve_right unknown
    rw [joined]
    refine ⟨agrees.client, create_player_named _ _ _ _ agrees.named, ?_, ?_, ?_⟩
    · intro entity row present
      dsimp only [createPlayer, allocateNetworkId] at present
      rw [Registry.get?_create] at present
      split at present
      · cases present
        constructor
        · intro owner isOwner
          cases isOwner
          rfl
        · intro owner identity isOwner isIdentity
          cases isOwner
          cases isIdentity
          exact Or.inr ⟨rfl, counter⟩
        · intro identity isProjectile
          cases isProjectile
      · exact agrees.rows entity row present
    · intro owner id entry
      dsimp only [createPlayer, allocateNetworkId] at entry
      rw [get_insert] at entry
      split at entry
      · next same =>
          exact Or.inr ⟨same.symm, (Option.some.inj entry).symm.trans counter⟩
      · exact agrees.players owner id entry
    · right
      dsimp only [createPlayer, allocateNetworkId]
      rw [Std.ExtTreeMap.mem_iff_isSome_getElem?, get_insert, if_pos rfl]
      rfl

theorem submit_input_agrees (sim : GameSimulation) (packet : ClientInputPacket)
    (agrees : Agrees server localClientId sim) :
    Agrees server localClientId (submitInput sim packet).1 := by
  rcases submit_input_cases sim packet with ⟨same, _⟩ | ⟨_, _, accepted⟩
  · rw [same]
    exact agrees
  · rw [accepted]
    exact agrees_congr agrees rfl rfl rfl rfl rfl

/-! Applying a snapshot. -/

theorem apply_state_counter (serverTimeMs : TimestampMs) (sim : GameSimulation)
    (state : EntityStateDTO) :
    (applyEntityState serverTimeMs localClientId sim state).nextNetworkId = sim.nextNetworkId := by
  have entered (sim : GameSimulation) :
      (enterPlayer sim state).nextNetworkId = sim.nextNetworkId := by
    unfold enterPlayer
    split <;> rfl
  unfold applyEntityState
  dsimp only
  split
  · rw [entered, (update_entity_tables _ sim _).nextNetworkId]
  · rw [entered, (update_entity_tables _ _ _).nextNetworkId]
    rfl

theorem write_state_shot (config : SimulationConfig) (serverTimeMs : TimestampMs)
    (localClientId : ClientId) {state : EntityStateDTO} (row : Components)
    (isKind : state.replication.kind = .player) :
    (writeState config serverTimeMs localClientId state row).projectile = row.projectile := by
  unfold writeState applyPlayerState
  rw [isKind]
  cases state.combat <;> rfl

/-- A credible state, written over a row of its id that agrees. -/
theorem write_state_agrees (config : SimulationConfig) (serverTimeMs : TimestampMs)
    {state : EntityStateDTO} {row : Components} (credible : Credible server state)
    (named : row.identity = some { id := state.movement.entityId })
    (agrees : RowAgrees server localClientId row) :
    RowAgrees server localClientId (writeState config serverTimeMs localClientId state row) := by
  have isClient := write_state_client config serverTimeMs localClientId state row
  have isIdentity := (write_state_identity config serverTimeMs localClientId state row).trans named
  obtain ⟨_, _, _, _, isOwned⟩ :=
    SnapshotOverwrite.write_state_placed config serverTimeMs localClientId state row
  cases isKind : state.replication.kind with
  | player =>
      rw [isKind, if_pos rfl] at isClient
      have entry := credible.player isKind
      constructor
      case owned =>
        intro owner isOwner
        rw [isClient] at isOwner
        rw [isOwned, Option.some.inj isOwner]
      case player =>
        intro owner identity isOwner hasIdentity
        rw [isClient] at isOwner
        rw [isIdentity] at hasIdentity
        rw [← Option.some.inj isOwner, ← Option.some.inj hasIdentity]
        exact Or.inl entry
      case projectile =>
        intro identity isProjectile _
        rw [write_state_shot config serverTimeMs localClientId row isKind] at isProjectile
        have noPlayer := agrees.projectile _ isProjectile named
        have belongs : Belongs server localClientId state.replication.ownerClientId
            state.movement.entityId := Or.inl entry
        exact absurd noPlayer (belongs_player belongs)
  | projectile =>
      rw [isKind, if_neg (by simp)] at isClient
      have noPlayer := credible.projectile isKind
      have unheld : heldClient (writeState config serverTimeMs localClientId state row) = none := by
        rw [isClient]
        cases held : heldClient row with
        | none => rfl
        | some owner => exact absurd noPlayer (belongs_player (agrees.player owner _ held named))
      constructor
      case owned =>
        intro owner isOwner
        rw [unheld] at isOwner
        cases isOwner
      case player =>
        intro owner identity isOwner
        rw [unheld] at isOwner
        cases isOwner
      case projectile =>
        intro identity _ hasIdentity
        rw [isIdentity] at hasIdentity
        rw [← Option.some.inj hasIdentity]
        exact noPlayer

/-- One turn of the loop over the entities of a snapshot. -/
theorem apply_state_agrees (serverTimeMs : TimestampMs) (sim : GameSimulation)
    {state : EntityStateDTO} (credible : Credible server state)
    (agrees : Agrees server localClientId sim) :
    Agrees server localClientId (applyEntityState serverTimeMs localClientId sim state) := by
  obtain ⟨entity, row, writes⟩ :=
    apply_state_writes serverTimeMs localClientId sim state agrees.named
  have rowAgrees : RowAgrees server localClientId row := by
    rcases writes.target with ⟨_, present⟩ | ⟨_, _, rfl⟩
    · exact agrees.rows entity row present
    · exact row_agrees_new _ rfl rfl
  constructor
  case client => rw [writes.config]; exact agrees.client
  case named => exact writes_named writes agrees.named
  case rows =>
    intro other found present
    rw [writes.rows] at present
    split at present
    · cases present
      exact write_state_agrees _ _ credible writes.named rowAgrees
    · exact agrees.rows other found present
  case players =>
    intro owner id entry
    rw [writes.players] at entry
    split at entry
    · next isPlayer =>
        rw [get_insert] at entry
        split at entry
        · next same =>
            rw [← same, ← Option.some.inj entry]
            exact Or.inl (credible.player isPlayer.1)
        · exact agrees.players owner id entry
    · exact agrees.players owner id entry
  case first =>
    rw [apply_state_counter, writes.players]
    refine agrees.first.imp id ?_
    intro known
    split
    · exact Std.ExtTreeMap.mem_insert.mpr (Or.inr known)
    · exact known

theorem leave_interest_players (sim : GameSimulation) (entityId : NetworkEntityId)
    (players : ∀ (owner : ClientId) (id : NetworkEntityId), sim.playerByClient[owner]? = some id →
      Belongs server localClientId owner id) :
    ∀ (owner : ClientId) (id : NetworkEntityId),
      (leaveInterest localClientId sim entityId).playerByClient[owner]? = some id →
        Belongs server localClientId owner id := by
  unfold leaveInterest
  split
  · exact players
  · intro owner id entry
    dsimp only at entry
    split at entry
    · rw [get_erase] at entry
      split at entry
      · cases entry
      · exact players owner id entry
    · exact players owner id entry

/-- No entity of the client's own leaves, so it does not lose its player. -/
theorem leaving_agrees (order : LoopOrder) (snapshot : SnapshotDTO) (sim : GameSimulation)
    (agrees : Agrees server localClientId sim) :
    Agrees server localClientId ((((order.arrange .leavingInterest
      sim.entityByNetworkId.toList).filter (leavesInterest sim localClientId snapshot)).map
        fun entry => entry.1).foldl (leaveInterest localClientId) sim) := by
  have leavers := leaving_leavers order localClientId snapshot sim
  generalize (((order.arrange .leavingInterest sim.entityByNetworkId.toList).filter
    (leavesInterest sim localClientId snapshot)).map fun entry => entry.1) = ids at leavers ⊢
  have left := all_left localClientId agrees.named ids
  have kept : (ids.foldl (leaveInterest localClientId) sim).config = sim.config ∧
      (ids.foldl (leaveInterest localClientId) sim).nextNetworkId = sim.nextNetworkId := by
    apply Runs.run_invariant (leaveInterest localClientId)
      (fun after => after.config = sim.config ∧ after.nextNetworkId = sim.nextNetworkId)
    · intro after id kept
      unfold leaveInterest
      split <;> exact kept
    · exact ⟨rfl, rfl⟩
  constructor
  case client => rw [kept.1]; exact agrees.client
  case named => exact left.named
  case rows =>
    exact fun entity row present =>
      agrees.rows entity row ((left.rows entity row).mp present).1
  case players =>
    exact Runs.run_invariant (leaveInterest localClientId) _ leave_interest_players sim
      agrees.players ids
  case first =>
    rw [kept.2]
    refine agrees.first.imp id ?_
    intro known
    rw [Std.ExtTreeMap.mem_iff_isSome_getElem?] at known ⊢
    rw [left.entry, if_neg]
    · exact known
    · rintro ⟨id, member, held⟩
      obtain ⟨row, isRow, isClient⟩ := Option.bind_eq_some_iff.mp held
      obtain ⟨entity, entry, present⟩ := Option.bind_eq_some_iff.mp isRow
      exact (leavers.only id member).2 entity row entry present
        ((agrees.rows entity row present).owned localClientId isClient)

theorem apply_snapshot_agrees (order : LoopOrder) (sim : GameSimulation) (snapshot : SnapshotDTO)
    (credible : ∀ state ∈ snapshot.entities, Credible server state)
    (agrees : Agrees server localClientId sim) :
    Agrees server localClientId (applySnapshot order sim snapshot localClientId) := by
  have written : Agrees server localClientId (snapshot.entities.foldl
      (applyEntityState snapshot.serverTimeMs localClientId) sim) :=
    Runs.run_invariant_of_mem _ (Agrees server localClientId) snapshot.entities
      (fun state member sim agrees => apply_state_agrees _ sim (credible state member) agrees)
      sim agrees
  exact agrees_congr (leaving_agrees order snapshot _ written) rfl rfl rfl rfl rfl

/-! The calls of a runtime. -/

/-- The call applies nothing that is not credible. -/
def CallCredible (server : GameSimulation) : ClientCall → Prop
  | .applyServerSnapshot _ snapshot => ∀ state ∈ snapshot.entities, Credible server state
  | _ => True

theorem client_step_agrees (runtime : ClientRuntime) (call : ClientCall)
    (credible : CallCredible server call)
    (agrees : Agrees server runtime.localClientId runtime.simulation) :
    Agrees server runtime.localClientId (clientStep runtime call).simulation := by
  cases call with
  | connectLocal localTimeMs => exact own_login_agrees _ _ rfl agrees
  | queueInput input localTimeMs => exact submit_input_agrees _ _ agrees
  | tickSimulation order => exact tick_agrees order _ agrees
  | applyServerSnapshot order snapshot =>
      apply Runs.run_invariant replayLocalInput (Agrees server runtime.localClientId)
      · intro sim packet kept
        exact agrees_of_same (replay_input_tables sim packet)
          (replay_input_standing sim packet) kept
      · exact apply_snapshot_agrees order _ snapshot credible agrees
  | recordTimeSyncSample sample => exact agrees
  | drainEvents => exact agrees_congr agrees rfl rfl rfl rfl rfl

theorem applies_credible {calls : List ClientCall} {applied : List SnapshotDTO}
    {server : GameSimulation} (only : AppliesOnly calls applied)
    (credible : ∀ snapshot ∈ applied, ∀ state ∈ snapshot.entities, Credible server state) :
    ∀ call ∈ calls, CallCredible server call := by
  intro call member
  cases call with
  | applyServerSnapshot order snapshot => exact credible snapshot (only order snapshot member)
  | connectLocal localTimeMs => trivial
  | queueInput input localTimeMs => trivial
  | tickSimulation order => trivial
  | recordTimeSyncSample sample => trivial
  | drainEvents => trivial

/-- A runtime of the client, whose calls apply credible snapshots only. -/
theorem client_calls_agree {clientId : ClientId} (calls : List ClientCall)
    (credible : ∀ call ∈ calls, CallCredible server call) (runtime : ClientRuntime)
    (isClient : runtime.localClientId = clientId)
    (agrees : Agrees server clientId runtime.simulation) :
    Agrees server clientId (Runs.run clientStep runtime calls).simulation := by
  have both : (Runs.run clientStep runtime calls).localClientId = clientId ∧
      Agrees server clientId (Runs.run clientStep runtime calls).simulation := by
    apply Runs.run_invariant_of_mem clientStep (fun runtime => runtime.localClientId = clientId ∧
      Agrees server clientId runtime.simulation) calls
    · rintro call member runtime ⟨isClient, agrees⟩
      rw [← isClient] at agrees
      have next := client_step_agrees runtime call (credible call member) agrees
      rw [isClient] at next
      refine ⟨?_, next⟩
      cases call <;> exact isClient
    · exact ⟨isClient, agrees⟩
  exact both.2

/-! A game. -/

/-- The client agrees with any server that what it has applied agrees with. -/
def AgreesOnceCredible (server : GameSimulation) (clientId : ClientId) (game : NetworkedGame) :
    Prop :=
  (∀ snapshot ∈ snapshotsApplied game clientId, ∀ state ∈ snapshot.entities,
    Credible server state) →
  Agrees server clientId (game.clients clientId).runtime.simulation

theorem game_step_agrees {config : ServerNetworkHostConfig} {game : NetworkedGame}
    (book : GameBook config game) {clientId : ClientId} (call : GameCall)
    (agrees : AgreesOnceCredible server clientId game) :
    AgreesOnceCredible server clientId (gameStep game call) := by
  cases call with
  | client other call =>
      by_cases same : other = clientId
      · subst same
        obtain ⟨calls, applied, ran, grown, only⟩ := client_call_runs book other call
        intro credible
        change ∀ snapshot ∈ snapshotsApplied (game.callClient other call) other, _ at credible
        rw [grown] at credible
        have before := agrees fun snapshot member =>
          credible snapshot (List.mem_append_left _ member)
        change Agrees server other ((game.callClient other call).clients other).runtime.simulation
        rw [ran]
        exact client_calls_agree calls (applies_credible only fun snapshot member =>
          credible snapshot (List.mem_append_right _ member)) _ (book.clients other).runtime.client
          before
      · have untouched : (gameStep game (.client other call)).clients clientId =
            game.clients clientId := Function.update_of_ne (Ne.symm same) _ _
        unfold AgreesOnceCredible snapshotsApplied traceOf at agrees ⊢
        rw [untouched]
        exact agrees
  | pumpClientMessages polls => exact agrees
  | tickAndSendSnapshots order hostOrder nowMs => exact agrees
  | drainEvents => exact agrees

theorem start_agrees (server : GameSimulation) (config : ServerNetworkHostConfig)
    (clientId : ClientId) : AgreesOnceCredible server clientId (.start config) := by
  intro _
  refine ⟨rfl, ?_, ?_, ?_, Or.inl rfl⟩
  · intro id entity entry
    simp [NetworkedGame.start, startClient, ClientApplication.new, ClientRuntime.new] at entry
  · intro entity row present
    simp [NetworkedGame.start, startClient, ClientApplication.new, ClientRuntime.new] at present
  · intro owner id entry
    simp [NetworkedGame.start, startClient, ClientApplication.new, ClientRuntime.new] at entry

/-- All that a client has applied is credible beside the server as it is. -/
theorem applied_credible {config : ServerNetworkHostConfig} {game : NetworkedGame}
    (book : GameBook config game)
    (unwrapped : allocations game.serverHost.runtime.simulation < 2 ^ 32 - 1)
    (clientId : ClientId) :
    ∀ snapshot ∈ snapshotsApplied game clientId, ∀ state ∈ snapshot.entities,
      Credible game.serverHost.runtime.simulation state := by
  intro snapshot applied state member
  have sent : snapshot ∈ snapshotsSent game clientId := by
    rw [snapshots_split book clientId]
    exact List.mem_append_left _ applied
  obtain ⟨happening, isIn, accepted⟩ := List.mem_filterMap.mp sent
  obtain ⟨baseline, rfl⟩ := HubDeliveries.accepted_for accepted
  obtain ⟨calls, host⟩ := book.host
  have ran := host.ran
  rw [ran] at unwrapped isIn ⊢
  obtain ⟨_, told⟩ := host_run_tells hubAnswers config calls host.own unwrapped
  exact truthful_credible (host_run_first hubAnswers config host.own unwrapped)
    (told clientId _ isIn (snapshot, true) (if_pos rfl) state member)

end Client

/-- The books of a game, and what its clients hold. -/
theorem game_run_agrees (config : ServerNetworkHostConfig) (calls : List GameCall)
    (clientId : ClientId) : GameBook config (gameRun config calls) ∧
      ∀ server, AgreesOnceCredible server clientId (gameRun config calls) := by
  refine Runs.run_invariant gameStep (fun game => GameBook config game ∧
    ∀ server, AgreesOnceCredible server clientId game) ?_ _ ?_ calls
  · rintro game call ⟨book, agrees⟩
    exact ⟨game_step_book game call book,
      fun server => game_step_agrees book call (agrees server)⟩
  · exact ⟨start_book config, fun server => start_agrees server config clientId⟩

/-! Results. -/

/-- In every run of a game, until the ids of the server wrap, a client holds of
every id what the server has of it. -/
theorem clients_agree (config : ServerNetworkHostConfig) (calls : List GameCall)
    (clientId : ClientId)
    (unwrapped :
      allocations (gameRun config calls).serverHost.runtime.simulation < 2 ^ 32 - 1) :
    Agrees (gameRun config calls).serverHost.runtime.simulation clientId
      ((gameRun config calls).clients clientId).runtime.simulation := by
  obtain ⟨book, agrees⟩ := game_run_agrees config calls clientId
  exact agrees _ (applied_credible book unwrapped clientId)

/-- The second client of a server enters itself under the id of the first. -/
def crossedCalls : List GameCall :=
  [.client 2 (.connect 0), .pumpClientMessages 8, .client 1 (.connect 0), .pumpClientMessages 8,
    .tickAndSendSnapshots .stored .stored 16, .client 1 (.tickFixed .stored { polls := 8 } 16)]

theorem clients_agree_crossed :
    ((gameRun {} crossedCalls).clients 1).runtime.simulation.playerByClient[(1 : ClientId)]? =
        some (idOf 1) ∧
      ((gameRun {} crossedCalls).clients 1).runtime.simulation.playerByClient[(2 : ClientId)]? =
        some (idOf 0) ∧
      Agrees (gameRun {} crossedCalls).serverHost.runtime.simulation 1
        ((gameRun {} crossedCalls).clients 1).runtime.simulation :=
  ⟨by decide +kernel, by decide +kernel, clients_agree {} crossedCalls 1 (by decide +kernel)⟩

end Brawololo.HeldIdentities
