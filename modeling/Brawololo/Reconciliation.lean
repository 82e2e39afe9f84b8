import Brawololo.ClientTables
import Brawololo.PlayerMotion

/-!
Reconciliation. The client writes the snapshot over its player and replays the
inputs the snapshot has not acknowledged. A replay moves the player by the same
function of the input as a tick of the server, so after it the client holds
what the server will hold when it has ticked with those inputs.
-/

namespace Brawololo.Reconciliation

open GameTypes EntityStore Simulation Simulation.GameSimulation SimulationStages
open SimulationSnapshots EntityIdentity Client ClientTables PlayerMotion

/-! The client's side. -/

/-- The client's player, found through both tables, has this motion. -/
structure Holds (sim : GameSimulation) (clientId : ClientId) (id : NetworkEntityId)
    (motion : Motion) : Prop where
  entry : sim.playerByClient[clientId]? = some id
  row : ∃ (entity : Entity) (row : Components), sim.entityByNetworkId[id]? = some entity ∧
    sim.registry.get? entity = some row ∧ Moves row motion

/-- The state of the client's player in a snapshot. -/
structure OwnState (clientId : ClientId) (id : NetworkEntityId) (motion : Motion)
    (state : EntityStateDTO) : Prop where
  named : state.movement.entityId = id
  player : state.replication.kind = .player
  owner : state.replication.ownerClientId = clientId
  living : ∃ combat, state.combat = some combat ∧ combat.defeated = false
  position : (({ x := state.movement.x, y := state.movement.y } : TransformComponent),
    ({ vx := state.movement.vx, vy := state.movement.vy } : VelocityComponent)) = motion

/-- A state of another entity that is no player of the client. -/
structure OtherState (clientId : ClientId) (id : NetworkEntityId) (state : EntityStateDTO) :
    Prop where
  named : state.movement.entityId ≠ id
  owner : state.replication.kind = .player → state.replication.ownerClientId ≠ clientId

theorem own_state_moves (config : SimulationConfig) (serverTimeMs : TimestampMs)
    (clientId : ClientId) (id : NetworkEntityId) (motion : Motion) (state : EntityStateDTO)
    (own : OwnState clientId id motion state) (row : Components)
    (named : row.identity = some { id := state.movement.entityId }) :
    Moves (writeState config serverTimeMs clientId state row) motion := by
  obtain ⟨combat, isCombat, living⟩ := own.living
  rw [← own.position]
  unfold writeState applyPlayerState
  rw [own.player, isCombat]
  exact ⟨by rw [named]; rfl, rfl, rfl, rfl, living⟩

/-- What the loop over the entities keeps before the client's own state comes. -/
def UnseenOwned (snapshot : SnapshotDTO) (sim : GameSimulation) : Prop :=
  ∀ (id : NetworkEntityId) (entity : Entity) (row : Components),
    (∀ state ∈ snapshot.entities, state.movement.entityId ≠ id) →
    sim.entityByNetworkId[id]? = some entity → sim.registry.get? entity = some row → OwnedRow row

theorem writing_unseen (snapshot : SnapshotDTO) (localClientId : ClientId)
    (states : List EntityStateDTO) (fromSnapshot : ∀ state ∈ states, state ∈ snapshot.entities)
    (sim : GameSimulation) (named : Named sim) (unseen : UnseenOwned snapshot sim) :
    Named (states.foldl (applyEntityState snapshot.serverTimeMs localClientId) sim) ∧
    UnseenOwned snapshot
      (states.foldl (applyEntityState snapshot.serverTimeMs localClientId) sim) := by
  apply Runs.run_invariant_of_mem (applyEntityState snapshot.serverTimeMs localClientId)
    fun sim => Named sim ∧ UnseenOwned snapshot sim
  · rintro state member sim ⟨named, unseen⟩
    obtain ⟨entity, row, writes⟩ :=
      apply_state_writes snapshot.serverTimeMs localClientId sim state named
    refine ⟨writes_named writes named, ?_⟩
    intro id other found notSeen entry present
    have different := notSeen state (fromSnapshot state member)
    rw [writes.table, if_neg different] at entry
    obtain ⟨_, _, kept⟩ := writes_other writes named different entry
    exact unseen id other found notSeen entry (kept.symm.trans present)
  · exact ⟨named, unseen⟩

/-- The states after the client's own one leave its player alone. -/
theorem writing_holds (serverTimeMs : TimestampMs) (localClientId clientId : ClientId)
    (id : NetworkEntityId) (motion : Motion) (states : List EntityStateDTO)
    (others : ∀ state ∈ states, OtherState clientId id state) (sim : GameSimulation)
    (named : Named sim) (holds : Holds sim clientId id motion) :
    Holds (states.foldl (applyEntityState serverTimeMs localClientId) sim) clientId id motion := by
  have both : Named (states.foldl (applyEntityState serverTimeMs localClientId) sim) ∧
      Holds (states.foldl (applyEntityState serverTimeMs localClientId) sim) clientId id motion := by
    apply Runs.run_invariant_of_mem (applyEntityState serverTimeMs localClientId)
      fun sim => Named sim ∧ Holds sim clientId id motion
    · rintro state member sim ⟨named, holds⟩
      obtain ⟨entity, row, writes⟩ := apply_state_writes serverTimeMs localClientId sim state named
      obtain ⟨held, found, entry, present, moves⟩ := holds.row
      have other := others state member
      obtain ⟨_, stillEntry, kept⟩ := writes_other writes named other.named entry
      refine ⟨writes_named writes named, ?_, held, found, stillEntry, kept.trans present, moves⟩
      rw [writes.players]
      split
      · next isPlayer =>
          rw [get_insert, if_neg (other.owner isPlayer.1)]
          exact holds.entry
      · exact holds.entry
    · exact ⟨named, holds⟩
  exact both.2

/-- Writing the client's own state gives its player the motion of the state. -/
theorem own_state_holds (serverTimeMs : TimestampMs) (clientId : ClientId) (nonzero : clientId ≠ 0)
    (id : NetworkEntityId) (motion : Motion) (state : EntityStateDTO)
    (own : OwnState clientId id motion state) (sim : GameSimulation) (named : Named sim) :
    Holds (applyEntityState serverTimeMs clientId sim state) clientId id motion := by
  obtain ⟨entity, row, writes⟩ := apply_state_writes serverTimeMs clientId sim state named
  refine ⟨?_, entity, _, ?_, by rw [writes.rows, if_pos rfl],
    own_state_moves _ serverTimeMs clientId id motion state own row writes.named⟩
  · rw [writes.players, if_pos ⟨own.player, by rw [own.owner]; exact nonzero⟩, get_insert,
      if_pos own.owner, own.named]
  · rw [writes.table, if_pos own.named]

/-- The entities that leave the client's interest are not its player, and none
of them is a player of the client. -/
structure Leaving (clientId : ClientId) (id : NetworkEntityId) (motion : Motion)
    (ids : List NetworkEntityId) (sim : GameSimulation) : Prop where
  named : Named sim
  holds : Holds sim clientId id motion
  others : ∀ left ∈ ids, left ≠ id ∧ ∀ (entity : Entity) (row : Components)
    (player : PlayerComponent), sim.entityByNetworkId[left]? = some entity →
      sim.registry.get? entity = some row → row.player = some player → player.clientId ≠ clientId

theorem leave_interest_leaving (localClientId clientId : ClientId) (id : NetworkEntityId)
    (motion : Motion) (ids : List NetworkEntityId) (left : NetworkEntityId) (member : left ∈ ids)
    (sim : GameSimulation) (leaving : Leaving clientId id motion ids sim) :
    Leaving clientId id motion ids (leaveInterest localClientId sim left) := by
  unfold leaveInterest entityFor
  split
  · exact leaving
  · next gone isGone =>
      obtain ⟨different, notOwn⟩ := leaving.others left member
      -- Entries of other ids keep their entity, and the entity its row.
      have kept : ∀ (other : NetworkEntityId) (entity : Entity),
          (sim.entityByNetworkId.erase left)[other]? = some entity →
          sim.entityByNetworkId[other]? = some entity ∧
            (sim.registry.destroy gone).get? entity = sim.registry.get? entity := by
        intro other entity entry
        rw [get_erase] at entry
        by_cases same : left = other
        · rw [if_pos same] at entry
          cases entry
        · rw [if_neg same] at entry
          refine ⟨entry, ?_⟩
          rw [Registry.get?_destroy, if_neg]
          rintro rfl
          exact same (named_injective leaving.named isGone entry)
      refine ⟨?_, ⟨?_, ?_⟩, ?_⟩
      · intro other entity entry
        obtain ⟨before, same⟩ := kept other entity entry
        obtain ⟨row, present, isIdentity⟩ := leaving.named other entity before
        exact ⟨row, same.trans present, isIdentity⟩
      · dsimp only
        split
        · next player isPlayer =>
            obtain ⟨row, present, carries⟩ := Option.bind_eq_some_iff.mp isPlayer
            rw [get_erase, if_neg (notOwn gone row player isGone present carries)]
            exact leaving.holds.entry
        · exact leaving.holds.entry
      · obtain ⟨entity, row, entry, present, moves⟩ := leaving.holds.row
        have still : (sim.entityByNetworkId.erase left)[id]? = some entity := by
          rw [get_erase, if_neg different]
          exact entry
        exact ⟨entity, row, still, (kept id entity still).2.trans present, moves⟩
      · intro other isLeaving
        refine ⟨(leaving.others other isLeaving).1, ?_⟩
        intro entity row player entry present carries
        obtain ⟨before, same⟩ := kept other entity entry
        exact (leaving.others other isLeaving).2 entity row player before
          (same.symm.trans present) carries

/-- After a snapshot with the client's own state among states of others, the
client's player has the motion of the state. -/
theorem apply_snapshot_holds (order : LoopOrder) (sim : GameSimulation) (coherent : Coherent sim)
    (snapshot : SnapshotDTO) (clientId : ClientId) (nonzero : clientId ≠ 0)
    (id : NetworkEntityId) (motion : Motion) (earlier later : List EntityStateDTO)
    (state : EntityStateDTO) (entities : snapshot.entities = earlier ++ state :: later)
    (own : OwnState clientId id motion state)
    (others : ∀ other ∈ later, OtherState clientId id other) :
    Holds (applySnapshot order sim snapshot clientId) clientId id motion := by
  have members : ∀ other ∈ earlier, other ∈ snapshot.entities := by
    intro other member
    rw [entities]
    exact List.mem_append_left _ member
  have named := (writing_unseen snapshot clientId earlier members sim coherent.named
    fun _ entity row _ _ present => coherent.owned entity row present).1
  have held := own_state_holds snapshot.serverTimeMs clientId nonzero id motion state own _ named
  obtain ⟨entity, row, writes⟩ := apply_state_writes snapshot.serverTimeMs clientId _ state named
  have namedOwn := writes_named writes named
  have holds := writing_holds snapshot.serverTimeMs clientId clientId id motion later others _
    namedOwn held
  obtain ⟨namedAll, unseen⟩ := writing_unseen snapshot clientId snapshot.entities
    (fun _ member => member) sim coherent.named
    fun _ entity row _ _ present => coherent.owned entity row present
  have written : snapshot.entities.foldl (applyEntityState snapshot.serverTimeMs clientId) sim =
      later.foldl (applyEntityState snapshot.serverTimeMs clientId)
        (applyEntityState snapshot.serverTimeMs clientId
          (earlier.foldl (applyEntityState snapshot.serverTimeMs clientId) sim) state) := by
    rw [entities, List.foldl_append, List.foldl_cons]
  rw [← written] at holds
  unfold applySnapshot
  dsimp only
  generalize snapshot.entities.foldl (applyEntityState snapshot.serverTimeMs clientId) sim = after
    at holds namedAll unseen ⊢
  -- The ids on the list of those leaving are unseen and not owned by the client.
  have leaving : Leaving clientId id motion
      (((order.arrange .leavingInterest after.entityByNetworkId.toList).filter
        (leavesInterest after clientId snapshot)).map fun entry => entry.1) after := by
    refine ⟨namedAll, holds, ?_⟩
    intro left member
    obtain ⟨⟨isLeft, gone⟩, isMember, rfl⟩ := List.mem_map.mp member
    obtain ⟨isEntry, leaves⟩ := List.mem_filter.mp isMember
    rw [IterationOrder.mem_arrange, Std.ExtTreeMap.mem_toList_iff_getElem?_eq_some] at isEntry
    simp only [leavesInterest, Bool.and_eq_true, Bool.not_eq_true', List.any_eq_false,
      decide_eq_true_eq] at leaves
    obtain ⟨notSeen, notOwned⟩ := leaves
    refine ⟨?_, ?_⟩
    · rintro rfl
      exact notSeen state (by rw [entities]; simp) own.named
    · intro other found player entry present carries sameClient
      rw [isEntry] at entry
      cases entry
      have owned := unseen isLeft gone found notSeen isEntry present player carries
      rw [present] at notOwned
      simp [rowOwnedByClient, owned, sameClient] at notOwned
  have left := Runs.run_invariant_of_mem (leaveInterest clientId)
    (Leaving clientId id motion _) _
    (fun left member sim leaving =>
      leave_interest_leaving clientId clientId id motion _ left member sim leaving) after leaving
  exact ⟨left.holds.entry, left.holds.row⟩

/-! The snapshot of the server. -/

/-- What the state of an entity says about its row. -/
theorem entity_state_names {observer : ClientId} {row : Components} {state : EntityStateDTO}
    (isState : entityState observer row = some state) :
    row.identity = some { id := state.movement.entityId } ∧
      state.replication.ownerClientId = (row.ownedBy.map fun owner => owner.clientId).getD 0 := by
  obtain ⟨movement, isMovement, rfl⟩ := Option.map_eq_some_iff.mp isState
  have named : row.identity = some { id := movement.entityId } := by
    unfold movementState at isMovement
    split at isMovement
    · next identity transform velocity isIdentity _ _ =>
        cases isMovement
        exact isIdentity
    · cases isMovement
  dsimp only
  split
  · exact ⟨named, rfl⟩
  · exact ⟨named, rfl⟩
  · exact ⟨named, rfl⟩

/-- The state of a living player carries its motion. -/
theorem own_entity_state {clientId : ClientId} {id : NetworkEntityId} {row : Components}
    {motion : Motion} (moves : Moves row motion) (named : row.identity = some { id := id })
    (owned : row.ownedBy = some { clientId := clientId }) :
    ∃ state, entityState clientId row = some state ∧ OwnState clientId id motion state := by
  obtain ⟨player, isPlayer⟩ := Option.isSome_iff_exists.mp moves.player
  have living := moves.living
  unfold Components.defeated at living
  rw [isPlayer] at living
  unfold entityState movementState
  rw [named, moves.placed, moves.moving, isPlayer, owned]
  refine ⟨_, rfl, rfl, rfl, rfl, ⟨_, rfl, ?_⟩, rfl⟩
  unfold playerCombat
  split
  · exact living
  · exact living

/-- The entity's own state stands in the client's snapshot, and after it only
states of others. -/
theorem server_snapshot_split (order : LoopOrder) (sim : GameSimulation)
    (identified : Identified sim) (room : sim.registry.created < 2 ^ 32 - 1) (clientId : ClientId)
    (nonzero : clientId ≠ 0) (entity : Entity) (motion : Motion)
    (stands : Stands sim clientId entity motion) (snapshotId baselineId : SnapshotId) :
    ∃ earlier state later,
      (buildSnapshot order sim clientId snapshotId baselineId).entities =
        earlier ++ state :: later ∧
      OwnState clientId (idOf entity) motion state ∧
      ∀ other ∈ later, OtherState clientId (idOf entity) other := by
  obtain ⟨row, present, moves⟩ := stands.row
  obtain ⟨holder, found, _, same, isRow, _, _, owned⟩ := identified.placed _ _ stands.entry
  have below := Nat.lt_trans (Registry.get?_lt _ present) room
  have equal := id_of_injective below (Nat.lt_trans (Registry.get?_lt _ isRow) room) same
  subst equal
  rw [present] at isRow
  cases isRow
  obtain ⟨state, isState, own⟩ :=
    own_entity_state moves (identified.carried entity row present) owned
  have viewed : entity ∈ sim.registry.view order .snapshotEntities inSnapshotView := by
    apply (Registry.mem_view _ order _ _ entity).mpr
    refine ⟨row, present, ?_⟩
    unfold inSnapshotView
    rw [moves.placed, moves.moving, identified.carried entity row present]
    rfl
  obtain ⟨before, after, split⟩ := List.append_of_mem viewed
  have distinct := Registry.nodup_view sim.registry order .snapshotEntities inSnapshotView
  rw [split] at distinct
  have visible : isVisible sim.config (observerChunk sim clientId) clientId row = true := by
    unfold isVisible rowOwnedByClient
    rw [owned]
    split
    · simp
    · rfl
  unfold buildSnapshot
  dsimp only
  rw [split, List.filterMap_append, List.filterMap_cons, present, Option.bind_some, if_pos visible,
    isState]
  refine ⟨_, state, _, rfl, own, ?_⟩
  intro other member
  obtain ⟨another, isLater, isOther⟩ := List.mem_filterMap.mp member
  obtain ⟨otherRow, otherPresent, seen⟩ := Option.bind_eq_some_iff.mp isOther
  split at seen
  · obtain ⟨named, owner⟩ := entity_state_names seen
    have carried := identified.carried another otherRow otherPresent
    rw [named] at carried
    have isId := congrArg NetworkIdentityComponent.id (Option.some.inj carried)
    have apart : another ≠ entity := by
      rintro rfl
      have nodup := (List.nodup_append.mp distinct).2.1
      exact (List.nodup_cons.mp nodup).1 isLater
    have otherBelow := Nat.lt_trans (Registry.get?_lt _ otherPresent) room
    constructor
    · intro same
      exact apart (id_of_injective otherBelow below (isId.symm.trans same))
    · -- A row owned by the client is its player, and the table names only one.
      intro _ sameOwner
      cases isOwner : otherRow.ownedBy with
      | none =>
          rw [isOwner] at owner
          exact nonzero (sameOwner.symm.trans owner)
      | some holder =>
          rw [isOwner] at owner
          obtain ⟨player, isPlayer, client⟩ :=
            identified.owners another otherRow holder otherPresent isOwner
          have entry := identified.entered another otherRow player otherPresent isPlayer
          rw [client.trans (owner.symm.trans sameOwner), stands.entry] at entry
          exact apart (id_of_injective otherBelow below (Option.some.inj entry).symm)
  · cases seen

/-! The replay. -/

theorem replay_input_holds (sim : GameSimulation) (clientId : ClientId) (id : NetworkEntityId)
    (motion : Motion) (holds : Holds sim clientId id motion) (packet : ClientInputPacket)
    (own : packet.header.clientId = clientId) :
    Holds (replayLocalInput sim packet) clientId id (moveUnder sim.config motion packet) := by
  obtain ⟨entity, row, entry, present, moves⟩ := holds.row
  have target : sim.inputTarget packet.header.clientId = some entity := by
    unfold inputTarget playerEntityForClient entityFor
    rw [own, holds.entry]
    exact entry
  unfold replayLocalInput
  rw [target]
  dsimp only
  have tables := update_entity_tables (replayInput sim.config sim.timeMs packet) sim entity
  refine ⟨by rw [tables.playerByClient]; exact holds.entry, entity, _,
    by rw [tables.entityByNetworkId]; exact entry, ?_,
    replay_input_moves sim.config sim.timeMs packet moves⟩
  rw [update_entity_row, if_pos rfl, present, Option.map_some]

/-- The replay moves the player under all the inputs. -/
theorem replay_holds (inputs : List ClientInputPacket) (sim : GameSimulation)
    (clientId : ClientId) (id : NetworkEntityId) (motion : Motion)
    (holds : Holds sim clientId id motion)
    (own : ∀ packet ∈ inputs, packet.header.clientId = clientId) :
    Holds (replayLocalInputsForPrediction sim inputs) clientId id
      (inputs.foldl (moveUnder sim.config) motion) := by
  induction inputs generalizing sim motion with
  | nil => exact holds
  | cons packet rest ih =>
      have moved := replay_input_holds sim clientId id motion holds packet
        (own packet List.mem_cons_self)
      have all := ih (replayLocalInput sim packet) (moveUnder sim.config motion packet) moved
        fun other member => own other (List.mem_cons_of_mem packet member)
      rw [replay_input_config] at all
      exact all

/-! The exchange. -/

/-- Position and velocity of the client's player. -/
def clientMotion (sim : GameSimulation) (clientId : ClientId) :
    Option (Fixed × Fixed × Fixed × Fixed) :=
  ((sim.playerEntityForClient clientId).bind (movementForEntity sim)).map fun movement =>
    (movement.x, movement.y, movement.vx, movement.vy)

/-- A server run up to the snapshot, the rounds after it, and what the client's
runtime did before the snapshot arrives. -/
structure Exchange where
  config : SimulationConfig
  clientId : ClientId
  calls : List ServerCall
  undrained : EventList := []
  rounds : List Round
  clientCalls : List ClientCall

namespace Exchange

variable (exchange : Exchange)

/-- The server at the snapshot, whatever of its events is not drained yet. -/
def snapshotState : GameSimulation :=
  { serverRun exchange.config exchange.calls with events := exchange.undrained }

def finalState : GameSimulation :=
  Runs.run serverStep exchange.snapshotState (exchange.rounds.flatMap Round.calls)

/-- The sequence that the snapshot acknowledges. -/
def acked : CommandSequence :=
  (exchange.snapshotState.lastAcceptedSequence[exchange.clientId]?).getD 0

def inputs : List ClientInputPacket := exchange.rounds.map fun round => round.input

def runtime : ClientRuntime := clientRun exchange.clientId exchange.config exchange.clientCalls

end Exchange

def hasLivingPlayer (sim : GameSimulation) (clientId : ClientId) : Bool :=
  ((sim.inputTarget clientId).bind sim.registry.get?).any fun row =>
    row.player.any fun player => !player.defeated

structure Reconcilable (exchange : Exchange) : Prop where
  server : exchange.config.mode = .serverAuthoritative
  nonzero : exchange.clientId ≠ 0
  unwrapped : allocations exchange.finalState < 2 ^ 32 - 1
  living : hasLivingPlayer exchange.snapshotState exchange.clientId = true
  isFor : ∀ round ∈ exchange.rounds, round.IsFor exchange.clientId
  increasing : List.IsChain (· < ·)
    (exchange.acked :: exchange.inputs.map fun packet => packet.header.sequence)
  /-- The client's player does not die in the rounds. -/
  spared : ∀ died,
    DomainEvent.playerDied died ∈ exchange.finalState.events.drop exchange.undrained.length →
    exchange.snapshotState.playerEntityForClient exchange.clientId ≠ some died.entityId
  unacked : (exchange.runtime.pendingInputs.acknowledgeThrough exchange.acked).unackedInputs =
    exchange.inputs

theorem client_motion_found {sim : GameSimulation} {clientId : ClientId} {id : NetworkEntityId}
    {entity : Entity} {row : Components} {motion : Motion}
    (entry : sim.playerByClient[clientId]? = some id)
    (found : sim.entityByNetworkId[id]? = some entity)
    (present : sim.registry.get? entity = some row) (moves : Moves row motion) :
    clientMotion sim clientId = some (motion.1.x, motion.1.y, motion.2.vx, motion.2.vy) := by
  obtain ⟨identity, isIdentity⟩ := Option.isSome_iff_exists.mp moves.named
  unfold clientMotion playerEntityForClient movementForEntity entityFor movementState
  rw [entry, Option.bind_some, found, Option.bind_some, present, Option.bind_some, isIdentity,
    moves.placed, moves.moving]
  rfl

theorem stands_motion {sim : GameSimulation} {clientId : ClientId} {entity : Entity}
    {motion : Motion} (identified : Identified sim) (stands : Stands sim clientId entity motion) :
    clientMotion sim clientId = some (motion.1.x, motion.1.y, motion.2.vx, motion.2.vy) := by
  obtain ⟨row, present, moves⟩ := stands.row
  exact client_motion_found stands.entry ((identified.listed _ _).mpr ⟨rfl, row, present⟩) present
    moves

theorem holds_motion {sim : GameSimulation} {clientId : ClientId} {id : NetworkEntityId}
    {motion : Motion} (holds : Holds sim clientId id motion) :
    clientMotion sim clientId = some (motion.1.x, motion.1.y, motion.2.vx, motion.2.vy) := by
  obtain ⟨entity, row, found, present, moves⟩ := holds.row
  exact client_motion_found holds.entry found present moves

/-- A living player stands somewhere. -/
theorem living_stands {sim : GameSimulation} {clientId : ClientId} (identified : Identified sim)
    (living : hasLivingPlayer sim clientId = true) :
    ∃ entity motion, Stands sim clientId entity motion := by
  obtain ⟨row, isTarget, isPlayer⟩ := (Option.any_eq_true _ _).mp living
  obtain ⟨entity, target, present⟩ := Option.bind_eq_some_iff.mp isTarget
  obtain ⟨id, entry, found⟩ := Option.bind_eq_some_iff.mp target
  obtain ⟨player, carries, alive⟩ := (Option.any_eq_true _ _).mp isPlayer
  obtain ⟨rfl, _⟩ := (identified.listed id entity).mp found
  obtain ⟨placed, moving⟩ := identified.bodied entity row present
  obtain ⟨transform, isTransform⟩ := Option.isSome_iff_exists.mp placed
  obtain ⟨velocity, isVelocity⟩ := Option.isSome_iff_exists.mp moving
  refine ⟨entity, (transform, velocity), entry, row, present, ?_, isTransform, isVelocity, ?_, ?_⟩
  · rw [identified.carried entity row present]
    rfl
  · rw [carries]
    rfl
  · unfold Components.defeated
    rw [carries]
    simpa using alive

/-- After the snapshot and the replay the client holds its player exactly where
the server has it after the rounds. -/
theorem reconciliation_exact (exchange : Exchange) (reconcilable : Reconcilable exchange)
    (keepsKinds : Runs.EveryStep clientStep CallKeepsKinds
      (.new exchange.clientId exchange.config) exchange.clientCalls)
    (buildOrder applyOrder : LoopOrder) (snapshotId baselineId : SnapshotId) :
    (clientMotion exchange.finalState exchange.clientId).isSome ∧
    clientMotion (exchange.runtime.applyServerSnapshot applyOrder
      (buildSnapshot buildOrder exchange.snapshotState exchange.clientId snapshotId
        baselineId)).simulation exchange.clientId =
      clientMotion exchange.finalState exchange.clientId := by
  have kept : WhileUnwrapped exchange.snapshotState := by
    intro room
    exact identified_congr (server_run_identified exchange.config reconcilable.server
      exchange.calls room) rfl rfl rfl rfl rfl
  have aged := Runs.run_relates serverStep Aged Aged.refl Aged.trans server_step_aged
    exchange.snapshotState (exchange.rounds.flatMap Round.calls)
  have room := Nat.lt_of_le_of_lt aged.created reconcilable.unwrapped
  have identified := kept room
  have identifiedFinal := Runs.run_invariant serverStep WhileUnwrapped server_step_identified _ kept
    (exchange.rounds.flatMap Round.calls) reconcilable.unwrapped
  obtain ⟨entity, motion, stands⟩ := living_stands identified reconcilable.living
  -- The server, round by round.
  have increasing := reconcilable.increasing
  unfold Exchange.inputs at increasing
  rw [List.map_map] at increasing
  have atEnd := rounds_stand exchange.rounds exchange.clientId reconcilable.isFor
    exchange.snapshotState kept entity motion stands increasing reconcilable.unwrapped (by
      intro added queued died member same
      have events : exchange.finalState.events = exchange.undrained ++ added := queued
      apply reconcilable.spared died
      · rw [events, List.drop_left]
        exact member
      · rw [same]
        exact stands.entry)
  -- The client: the snapshot, then the replay.
  obtain ⟨earlier, state, later, entities, own, others⟩ := server_snapshot_split buildOrder
    exchange.snapshotState identified room exchange.clientId reconcilable.nonzero entity motion
    stands snapshotId baselineId
  obtain ⟨sameClient, sameConfig⟩ :=
    client_run_keeps exchange.clientId exchange.config exchange.clientCalls
  have coherent := client_run_coherent exchange.clientId exchange.config exchange.clientCalls
    keepsKinds
  have holds := apply_snapshot_holds applyOrder exchange.runtime.simulation coherent _
    exchange.clientId reconcilable.nonzero (idOf entity) motion earlier later state entities own
    others
  have ownInputs : ∀ packet ∈ exchange.inputs, packet.header.clientId = exchange.clientId := by
    intro packet member
    obtain ⟨round, isRound, rfl⟩ := List.mem_map.mp member
    exact (reconcilable.isFor round isRound).own
  have replayed := replay_holds exchange.inputs _ exchange.clientId (idOf entity) motion holds
    ownInputs
  have runtimeConfig : exchange.runtime.simulation.config =
      { exchange.config with mode := .clientPrediction } := sameConfig
  have serverConfig : exchange.snapshotState.config = exchange.config :=
    server_run_config exchange.config exchange.calls
  rw [apply_snapshot_config, runtimeConfig] at replayed
  have final : clientMotion exchange.finalState exchange.clientId = _ :=
    stands_motion identifiedFinal atEnd
  rw [final]
  refine ⟨rfl, ?_⟩
  rw [serverConfig]
  have isClient : exchange.runtime.localClientId = exchange.clientId := sameClient
  unfold ClientRuntime.applyServerSnapshot
  dsimp only
  rw [isClient]
  have pending : (exchange.runtime.pendingInputs.acknowledgeThrough
      (buildSnapshot buildOrder exchange.snapshotState exchange.clientId snapshotId
        baselineId).ackedInputSequence).unackedInputs = exchange.inputs := reconcilable.unacked
  rw [pending]
  exact holds_motion replayed

def isDeath : DomainEvent → Bool
  | .playerDied _ => true
  | _ => false

theorem spared_of_no_death (exchange : Exchange)
    (none : (exchange.finalState.events.drop exchange.undrained.length).any isDeath = false)
    (died : PlayerDied) (member : DomainEvent.playerDied died ∈
      exchange.finalState.events.drop exchange.undrained.length) :
    exchange.snapshotState.playerEntityForClient exchange.clientId ≠ some died.entityId := by
  rw [List.any_eq_false] at none
  exact absurd rfl (none (.playerDied died) member)

/-- An input of client 1. -/
def packetOf (sequence : CommandSequence) (input : InputFrame) : ClientInputPacket :=
  { header := { clientId := 1, sequence := sequence }, input := input }

def quickConfig : SimulationConfig := { tickDurationMs := 300 }

/-- Client 2 joins before client 1; the client predicts its two inputs under the
id it gave itself, and the server ticks with them while client 2 moves too. -/
def joined : Exchange where
  config := quickConfig
  clientId := 1
  calls := [.login { header := { clientId := 2 } }, .login { header := { clientId := 1 } }]
  rounds :=
    [⟨[.input { header := { clientId := 2, sequence := 1 }, input := { moveY := 1 } }],
      packetOf 1 { moveX := 1 }, [], .stored⟩,
     ⟨[], packetOf 2 { moveX := 1, moveY := -1 }, [], .stored⟩]
  clientCalls := [.connectLocal 0, .queueInput { moveX := 1 } 0, .tickSimulation .stored,
    .queueInput { moveX := 1, moveY := -1 } 0]

theorem joined_reconcilable : Reconcilable joined where
  server := rfl
  nonzero := by decide
  unwrapped := by decide +kernel
  living := by decide +kernel
  isFor := by
    intro round member
    simp only [joined, List.mem_cons, List.not_mem_nil, or_false] at member
    rcases member with rfl | rfl
    · exact ⟨rfl, by simp [Submission.clientId, joined]⟩
    · exact ⟨rfl, by simp⟩
  increasing := by decide +kernel
  spared := spared_of_no_death joined (by decide +kernel)
  unacked := by decide +kernel

theorem reconciliation_exact_joined :
    clientMotion joined.finalState 1 = some (1624000, 1172000, 360000, -360000) ∧
    clientMotion (joined.runtime.applyServerSnapshot .stored
      (buildSnapshot .stored joined.snapshotState 1 1 0)).simulation 1 =
      some (1624000, 1172000, 360000, -360000) := by
  have moved : clientMotion joined.finalState 1 = some (1624000, 1172000, 360000, -360000) := by
    decide +kernel
  refine ⟨moved, ?_⟩
  rw [← moved]
  exact (reconciliation_exact joined joined_reconcilable
    ⟨trivial, trivial, trivial, trivial, trivial⟩ .stored .stored 1 0).2

/-- On the first server client 1 has entity 2. On the second server it has
entity 1, and entity 2 is the projectile it fires. -/
def firstServer : List ServerCall :=
  [.login { header := { clientId := 2 } }, .login { header := { clientId := 1 } }]

def secondServer : List ServerCall :=
  [.login { header := { clientId := 1 } }, .input (packetOf 1 { fire := true }), .tick .stored,
   .tick .stored]

/-- The client keeps its runtime when it goes from the first server to the
second. The projectile's row still carries the player of client 1, so the table
loses the client's entry when the projectile leaves. -/
def restarted : Exchange where
  config := quickConfig
  clientId := 1
  calls := secondServer ++ List.replicate 7 (.tick .stored)
  rounds := [⟨[], packetOf 2 { moveX := 1 }, [], .stored⟩]
  clientCalls :=
    [.applyServerSnapshot .stored (buildSnapshot .stored (serverRun quickConfig firstServer) 1 1 0),
     .queueInput { fire := true } 0,
     .applyServerSnapshot .stored (buildSnapshot .stored (serverRun quickConfig secondServer) 1 1 0),
     .queueInput { moveX := 1 } 0]

theorem reconciliation_inexact_after_restart :
    Reconcilable restarted ∧
    clientMotion restarted.finalState 1 = some (1516000, 1280000, 360000, 0) ∧
    clientMotion (restarted.runtime.applyServerSnapshot .stored
      (buildSnapshot .stored restarted.snapshotState 1 2 0)).simulation 1 = none ∧
    ((movementForEntity (restarted.runtime.applyServerSnapshot .stored
      (buildSnapshot .stored restarted.snapshotState 1 2 0)).simulation
        { value := 1 }).map fun movement => (movement.x, movement.vx)) = some (1408000, 0) := by
  refine ⟨?_, by decide +kernel, by decide +kernel, by decide +kernel⟩
  exact
    { server := rfl
      nonzero := by decide
      unwrapped := by decide +kernel
      living := by decide +kernel
      isFor := by
        intro round member
        rw [List.mem_singleton.mp member]
        exact ⟨rfl, by simp⟩
      increasing := by decide +kernel
      spared := spared_of_no_death restarted (by decide +kernel)
      unacked := by decide +kernel }

end Brawololo.Reconciliation
