import Brawololo.ClientTables
import Brawololo.AreaOfInterest

/-!
The identity of the local player on a client. Connecting creates a player under
an id the client allocates itself; the server knows the player under an id of
its own. Applying a snapshot writes the sent entities, lets the others leave
unless the client owns them, and leaves the local player predicted.
-/

namespace Brawololo.LocalIdentity

open GameTypes EntityStore Simulation Simulation.GameSimulation SimulationStages
open SimulationSnapshots EntityIdentity Client ClientTables AreaOfInterest

/-! What is asked of the client. -/

def heldClient (row : Components) : Option ClientId :=
  row.player.map fun player => player.clientId

/-- The snapshot holds the client's player once, between these states. -/
structure SentOnce (clientId : ClientId) (snapshot : SnapshotDTO)
    (earlier : List EntityStateDTO) (own : EntityStateDTO) (later : List EntityStateDTO) :
    Prop where
  split : snapshot.entities = earlier ++ own :: later
  isOwn : ownedByLocalPlayer clientId own = true
  before : ∀ state ∈ earlier, ownedByLocalPlayer clientId state = false
  after : ∀ state ∈ later, ownedByLocalPlayer clientId state = false

/-- Some state of the list is sent under the id. -/
def Sends (states : List EntityStateDTO) (id : NetworkEntityId) : Prop :=
  ∃ state ∈ states, state.movement.entityId = id

/-- The simulation holds exactly the entities of the snapshot, and its one
local player is the one sent under `own`. -/
structure OneIdentity (clientId : ClientId) (own : NetworkEntityId) (snapshot : SnapshotDTO)
    (sim : GameSimulation) : Prop where
  within : ∀ entity row, sim.registry.get? entity = some row →
    ∃ id, row.identity = some { id := id } ∧ Sends snapshot.entities id
  each : ∀ id, Sends snapshot.entities id →
    ∃ entity row, sim.registry.get? entity = some row ∧ row.identity = some { id := id }
  distinct : ∀ first second firstRow secondRow, sim.registry.get? first = some firstRow →
    sim.registry.get? second = some secondRow → firstRow.identity = secondRow.identity →
    first = second
  player : ∀ entity row, sim.registry.get? entity = some row →
    (heldClient row = some clientId ↔ row.identity = some { id := own })
  entry : sim.playerEntityForClient clientId = some own
  predicted : ∀ entity row, sim.registry.get? entity = some row →
    (row.predicted = true ↔ row.identity = some { id := own })

/-- Nothing on the client stands in the way: its entities are all in its table,
those that are not sent belong to others, and none of its own players is sent
as a projectile. The client's player is the last state under its id. -/
structure Unobstructed (clientId : ClientId) (snapshot : SnapshotDTO) (own : NetworkEntityId)
    (later : List EntityStateDTO) (sim : GameSimulation) : Prop where
  linked : ∀ entity row, sim.registry.get? entity = some row →
    ∃ id : NetworkEntityId, sim.entityByNetworkId[id]? = some entity
  unsent : ∀ (id : NetworkEntityId) (entity : Entity) row,
    sim.entityByNetworkId[id]? = some entity → sim.registry.get? entity = some row →
    ¬ Sends snapshot.entities id →
    row.ownedBy ≠ some { clientId := clientId } ∧ heldClient row ≠ some clientId
  shots : ∀ (id : NetworkEntityId) (entity : Entity) row,
    sim.entityByNetworkId[id]? = some entity → sim.registry.get? entity = some row →
    Sends snapshot.entities id →
    (∀ state ∈ snapshot.entities, state.movement.entityId = id →
      state.replication.kind = .projectile) → heldClient row ≠ some clientId
  last : ¬ Sends later own

/-! Every row of a client has an id. -/

def Carried (sim : GameSimulation) : Prop :=
  ∀ entity row, sim.registry.get? entity = some row → row.identity.isSome

structure Tabled (sim : GameSimulation) : Prop where
  client : sim.config.mode = .clientPrediction
  named : Named sim
  carried : Carried sim

theorem carried_of_same {before after : GameSimulation}
    (rows : RowsRelated SameStanding before after) (carried : Carried before) : Carried after := by
  intro entity later found
  obtain ⟨row, present, standing⟩ := rows.backward found
  rw [standing.identity]
  exact carried entity row present

theorem tabled_of_same {before after : GameSimulation} (tables : SameTables before after)
    (rows : RowsRelated SameStanding before after) (tabled : Tabled before) : Tabled after :=
  ⟨by rw [tables.config]; exact tabled.client, named_of_same tables rows tabled.named,
   carried_of_same rows tabled.carried⟩

theorem destroy_projectile_tabled (sim : GameSimulation) (entity : Entity)
    (tabled : Tabled sim) : Tabled (destroyProjectile sim entity) where
  client := by
    rw [(destroy_projectile_setup sim entity).config]
    exact tabled.client
  named := destroy_projectile_named sim entity tabled.named
  carried := by
    intro other found isRow
    rw [destroy_projectile_row] at isRow
    split at isRow
    · cases isRow
    · exact tabled.carried other found isRow

theorem tick_tabled (order : LoopOrder) (sim : GameSimulation) (tabled : Tabled sim) :
    Tabled (tickFixed order sim) := by
  have inputs : Tabled (processInputs order (advanceClock sim)) :=
    tabled_of_same (process_inputs_tables order (advanceClock sim))
      (process_inputs_standing order _) ⟨tabled.client, tabled.named, tabled.carried⟩
  have warmups : Tabled (processWeaponWarmups order (processInputs order (advanceClock sim))) := by
    rw [client_warmups_eq order _ inputs.client]
    exact tabled_of_same (for_each_tables _ _ _ _ _) (finish_warmups_standing order _) inputs
  have projectiles (sim : GameSimulation) (tabled : Tabled sim) :
      Tabled (processProjectiles order sim) := by
    apply Runs.run_invariant destroyProjectile Tabled destroy_projectile_tabled
    exact tabled_of_same (projectile_loop_tables _ _ (sim, []))
      (projectile_loop_standing (sim.registry.view order .projectileTargets inTargetView)
        (sim.registry.view order .projectiles inProjectileView) sim) tabled
  exact tabled_of_same (process_respawns_tables order _) (process_respawns_standing order _)
    (projectiles _ warmups)

theorem submit_login_tabled (sim : GameSimulation) (command : LoginCommand)
    (tabled : Tabled sim) : Tabled (submitLogin sim command).1 := by
  rcases submit_login_cases sim command with same | ⟨_, _, joined⟩
  · rw [same]
    exact tabled
  · rw [joined]
    refine ⟨tabled.client, create_player_named _ _ _ _ tabled.named, ?_⟩
    intro entity row present
    dsimp only [createPlayer, allocateNetworkId] at present
    rw [Registry.get?_create] at present
    split at present
    · cases present
      rfl
    · exact tabled.carried entity row present

theorem submit_input_tabled (sim : GameSimulation) (packet : ClientInputPacket)
    (tabled : Tabled sim) : Tabled (submitInput sim packet).1 := by
  rcases submit_input_cases sim packet with ⟨same, _⟩ | ⟨_, _, accepted⟩
  · rw [same]
    exact tabled
  · rw [accepted]
    exact ⟨tabled.client, tabled.named, tabled.carried⟩

theorem apply_state_tabled (serverTimeMs : TimestampMs) (localClientId : ClientId)
    (sim : GameSimulation) (state : EntityStateDTO) (tabled : Tabled sim) :
    Tabled (applyEntityState serverTimeMs localClientId sim state) := by
  obtain ⟨entity, row, writes⟩ :=
    apply_state_writes serverTimeMs localClientId sim state tabled.named
  refine ⟨by rw [writes.config]; exact tabled.client, writes_named writes tabled.named, ?_⟩
  intro other found present
  rw [writes.rows] at present
  split at present
  · cases present
    rw [write_state_identity, writes.named]
    rfl
  · exact tabled.carried other found present

theorem leave_interest_tabled (localClientId : ClientId) (sim : GameSimulation)
    (entityId : NetworkEntityId) (tabled : Tabled sim) :
    Tabled (leaveInterest localClientId sim entityId) := by
  have named := leave_interest_named localClientId sim entityId tabled.named
  unfold leaveInterest at named ⊢
  split
  · exact tabled
  · next entity left =>
      rw [left] at named
      refine ⟨tabled.client, named, ?_⟩
      intro other row present
      dsimp only at present
      rw [Registry.get?_destroy] at present
      split at present
      · cases present
      · exact tabled.carried other row present

theorem apply_snapshot_tabled (order : LoopOrder) (sim : GameSimulation)
    (snapshot : SnapshotDTO) (localClientId : ClientId) (tabled : Tabled sim) :
    Tabled (applySnapshot order sim snapshot localClientId) := by
  have written := Runs.run_invariant (applyEntityState snapshot.serverTimeMs localClientId) Tabled
    (apply_state_tabled snapshot.serverTimeMs localClientId) sim tabled snapshot.entities
  have left := Runs.run_invariant (leaveInterest localClientId) Tabled
    (leave_interest_tabled localClientId) _ written
  obtain ⟨client, named, carried⟩ := left _
  exact ⟨client, named, carried⟩

theorem client_step_tabled (runtime : ClientRuntime) (call : ClientCall)
    (tabled : Tabled runtime.simulation) : Tabled (clientStep runtime call).simulation := by
  cases call with
  | connectLocal localTimeMs => exact submit_login_tabled _ _ tabled
  | queueInput input localTimeMs => exact submit_input_tabled _ _ tabled
  | tickSimulation order => exact tick_tabled order _ tabled
  | applyServerSnapshot order snapshot =>
      apply Runs.run_invariant replayLocalInput Tabled
      · intro sim packet kept
        exact tabled_of_same (replay_input_tables sim packet) (replay_input_standing sim packet) kept
      · exact apply_snapshot_tabled order _ snapshot _ tabled
  | recordTimeSyncSample sample => exact tabled
  | drainEvents => exact ⟨tabled.client, tabled.named, tabled.carried⟩

/-- Every state that the calls of a runtime reach is tabled. -/
theorem client_run_tabled (localClientId : ClientId) (config : SimulationConfig)
    (calls : List ClientCall) : Tabled (clientRun localClientId config calls).simulation := by
  apply Runs.run_invariant clientStep (fun runtime => Tabled runtime.simulation) client_step_tabled
  refine ⟨rfl, ?_, ?_⟩
  · intro id entity entry
    simp [ClientRuntime.new] at entry
  · intro entity row present
    simp [ClientRuntime.new] at present

/-! The states of a snapshot, the last one of each kind. -/

def lastUnder (states : List EntityStateDTO) (id : NetworkEntityId) : Option EntityStateDTO :=
  (states.filter fun state => state.movement.entityId = id).getLast?

def lastPlayerUnder (states : List EntityStateDTO) (id : NetworkEntityId) :
    Option EntityStateDTO :=
  (states.filter fun state =>
    state.movement.entityId = id ∧ state.replication.kind = .player).getLast?

def lastOwn (clientId : ClientId) (states : List EntityStateDTO) : Option EntityStateDTO :=
  (states.filter (ownedByLocalPlayer clientId)).getLast?

theorem last_concat {Item : Type} (passes : Item → Bool) (items : List Item) (item : Item) :
    ((items ++ [item]).filter passes).getLast? =
      if passes item then some item else (items.filter passes).getLast? := by
  rw [List.filter_append]
  by_cases passed : passes item = true
  · rw [if_pos passed, List.filter_cons_of_pos passed, List.filter_nil, List.getLast?_concat]
  · rw [if_neg passed, List.filter_cons_of_neg passed, List.filter_nil, List.append_nil]

theorem last_none_iff {Item : Type} (passes : Item → Bool) (items : List Item) :
    (items.filter passes).getLast? = none ↔ ∀ item ∈ items, passes item = false := by
  rw [List.getLast?_eq_none_iff, List.filter_eq_nil_iff]
  simp

theorem last_mem {Item : Type} {passes : Item → Bool} {items : List Item} {item : Item}
    (isLast : (items.filter passes).getLast? = some item) : item ∈ items ∧ passes item = true :=
  List.mem_filter.mp (List.mem_of_getLast? isLast)

theorem last_under_none_iff (states : List EntityStateDTO) (id : NetworkEntityId) :
    lastUnder states id = none ↔ ¬ Sends states id := by
  unfold lastUnder Sends
  rw [last_none_iff]
  simp

theorem last_under_of_sent {states : List EntityStateDTO} {id : NetworkEntityId}
    (isSent : Sends states id) : ∃ last, lastUnder states id = some last :=
  Option.ne_none_iff_exists'.mp (mt (last_under_none_iff states id).mp (not_not.mpr isSent))

theorem sends_concat (states : List EntityStateDTO) (state : EntityStateDTO)
    (id : NetworkEntityId) :
    Sends (states ++ [state]) id ↔ Sends states id ∨ state.movement.entityId = id := by
  unfold Sends
  constructor
  · rintro ⟨other, member, isId⟩
    rcases List.mem_append.mp member with old | new
    · exact Or.inl ⟨other, old, isId⟩
    · rw [List.mem_singleton.mp new] at isId
      exact Or.inr isId
  · rintro (⟨other, old, isId⟩ | isId)
    · exact ⟨other, List.mem_append_left _ old, isId⟩
    · exact ⟨state, List.mem_append_right _ List.mem_cons_self, isId⟩

/-! Writing the states. -/

/-- The row that a simulation holds under an id. -/
def heldRow (sim : GameSimulation) (id : NetworkEntityId) : Option Components :=
  (sim.entityByNetworkId[id]?).bind sim.registry.get?

/-- The simulation after these states are written to `start`. -/
structure Written (clientId : ClientId) (start : GameSimulation) (sent : List EntityStateDTO)
    (sim : GameSimulation) : Prop where
  named : Named sim
  created : start.registry.created ≤ sim.registry.created
  unsent : ∀ id : NetworkEntityId, ¬ Sends sent id →
    sim.entityByNetworkId[id]? = start.entityByNetworkId[id]?
  origin : ∀ entity row, sim.registry.get? entity = some row →
    (∃ id : NetworkEntityId, Sends sent id ∧ sim.entityByNetworkId[id]? = some entity) ∨
    start.registry.get? entity = some row ∧
      ∀ id : NetworkEntityId, Sends sent id → start.entityByNetworkId[id]? ≠ some entity
  kept : ∀ entity row, start.registry.get? entity = some row →
    (∀ id : NetworkEntityId, Sends sent id → start.entityByNetworkId[id]? ≠ some entity) →
    sim.registry.get? entity = some row
  written : ∀ (id : NetworkEntityId) state, lastUnder sent id = some state →
    ∃ (entity : Entity) (row : Components), sim.entityByNetworkId[id]? = some entity ∧
      sim.registry.get? entity = some row ∧
      row.predicted = ownedByLocalPlayer clientId state ∧
      heldClient row = ((lastPlayerUnder sent id).map fun state =>
        state.replication.ownerClientId).or ((heldRow start id).bind heldClient) ∧
      (start.entityByNetworkId[id]? = some entity ∨ start.registry.created ≤ entity)
  entry : sim.playerByClient[clientId]? =
    ((lastOwn clientId sent).map fun state => state.movement.entityId).or
      start.playerByClient[clientId]?

theorem written_start {start : GameSimulation} (clientId : ClientId) (named : Named start) :
    Written clientId start [] start where
  named := named
  created := Nat.le_refl _
  unsent := fun _ _ => rfl
  origin := by
    intro entity row present
    refine Or.inr ⟨present, ?_⟩
    rintro id ⟨state, member, _⟩
    cases member
  kept := fun _ _ present _ => present
  written := by
    intro id state isLast
    cases isLast
  entry := rfl

theorem write_state_predicted (config : SimulationConfig) (serverTimeMs : TimestampMs)
    (localClientId : ClientId) (state : EntityStateDTO) (row : Components) :
    (writeState config serverTimeMs localClientId state row).predicted =
      ownedByLocalPlayer localClientId state := by
  unfold writeState
  rfl

theorem write_state_client (config : SimulationConfig) (serverTimeMs : TimestampMs)
    (localClientId : ClientId) (state : EntityStateDTO) (row : Components) :
    heldClient (writeState config serverTimeMs localClientId state row) =
      if state.replication.kind = .player then some state.replication.ownerClientId
      else heldClient row := by
  unfold heldClient writeState applyPlayerState applyProjectileState
  cases state.replication.kind with
  | player =>
      dsimp only
      rw [if_pos rfl]
      cases state.combat with
      | none => rfl
      | some combat => rfl
  | projectile => rfl

section WritingOne

variable {clientId : ClientId} {start before after : GameSimulation} {sent : List EntityStateDTO}
variable {state : EntityStateDTO} {serverTimeMs : TimestampMs} {entity : Entity} {row : Components}

theorem last_player_none {id : NetworkEntityId} (notSent : ¬ Sends sent id) :
    lastPlayerUnder sent id = none := by
  unfold lastPlayerUnder
  rw [last_none_iff]
  intro other member
  rw [decide_eq_false_iff_not]
  rintro ⟨isId, _⟩
  exact notSent ⟨other, member, isId⟩

/-- The entity that a state is written to was under its id at the start, or is
new since then. -/
theorem target_known (written : Written clientId start sent before)
    (writes : Writes serverTimeMs clientId before state after entity row) :
    (start.entityByNetworkId[state.movement.entityId]? = some entity ∨
      start.registry.created ≤ entity) ∧
    heldClient row = ((lastPlayerUnder sent state.movement.entityId).map fun state =>
      state.replication.ownerClientId).or
        ((heldRow start state.movement.entityId).bind heldClient) := by
  by_cases wasSent : Sends sent state.movement.entityId
  · obtain ⟨last, isLast⟩ := last_under_of_sent wasSent
    obtain ⟨found, foundRow, entry, present, _, client, origin⟩ := written.written _ last isLast
    rcases writes.target with ⟨known, isRow⟩ | ⟨unknown, _⟩
    · rw [known] at entry
      cases entry
      rw [isRow] at present
      cases present
      exact ⟨origin, client⟩
    · rw [unknown] at entry
      cases entry
  · have same := written.unsent _ wasSent
    rw [last_player_none wasSent]
    rcases writes.target with ⟨known, isRow⟩ | ⟨unknown, isNew, rfl⟩
    · rw [same] at known
      refine ⟨Or.inl known, ?_⟩
      rcases written.origin entity row isRow with ⟨id, otherSent, other⟩ | ⟨atStart, _⟩
      · have sameId := named_injective written.named other (same.trans known)
        rw [sameId] at otherSent
        exact absurd otherSent wasSent
      · unfold heldRow
        rw [known, Option.bind_some, atStart]
        rfl
    · rw [same] at unknown
      refine ⟨Or.inr (isNew ▸ written.created), ?_⟩
      unfold heldRow
      rw [unknown]
      rfl

/-- An entity that was under no sent id is not the one that is written. -/
theorem target_apart (written : Written clientId start sent before)
    (writes : Writes serverTimeMs clientId before state after entity row) {other : Entity}
    {otherRow : Components} (present : start.registry.get? other = some otherRow)
    (unsent : ∀ id : NetworkEntityId, Sends (sent ++ [state]) id →
      start.entityByNetworkId[id]? ≠ some other) : other ≠ entity := by
  rintro rfl
  rcases (target_known written writes).1 with known | isNew
  · exact unsent _ ((sends_concat sent state _).mpr (Or.inr rfl)) known
  · exact absurd (start.registry.get?_lt present) (Nat.not_lt.mpr isNew)

theorem written_origin (written : Written clientId start sent before)
    (writes : Writes serverTimeMs clientId before state after entity row) (other : Entity)
    (otherRow : Components) (present : after.registry.get? other = some otherRow) :
    (∃ id : NetworkEntityId, Sends (sent ++ [state]) id ∧
      after.entityByNetworkId[id]? = some other) ∨
    start.registry.get? other = some otherRow ∧
      ∀ id : NetworkEntityId, Sends (sent ++ [state]) id →
        start.entityByNetworkId[id]? ≠ some other := by
  rw [writes.rows] at present
  by_cases isTarget : other = entity
  · refine Or.inl ⟨state.movement.entityId, (sends_concat sent state _).mpr (Or.inr rfl), ?_⟩
    rw [writes.table, if_pos rfl, isTarget]
  · rw [if_neg isTarget] at present
    rcases written.origin other otherRow present with ⟨id, wasSent, entry⟩ | ⟨atStart, unsent⟩
    · refine Or.inl ⟨id, (sends_concat sent state id).mpr (Or.inl wasSent), ?_⟩
      rw [writes.table]
      by_cases same : state.movement.entityId = id
      · -- The id would name the target.
        rcases writes.target with ⟨known, _⟩ | ⟨unknown, _⟩
        · rw [same, entry] at known
          exact absurd (Option.some.inj known) isTarget
        · rw [same, entry] at unknown
          cases unknown
      · rw [if_neg same, entry]
    · refine Or.inr ⟨atStart, ?_⟩
      intro id isSent entry
      rcases (sends_concat sent state id).mp isSent with wasSent | rfl
      · exact unsent id wasSent entry
      · by_cases wasSent : Sends sent state.movement.entityId
        · exact unsent _ wasSent entry
        · rw [← written.unsent _ wasSent] at entry
          rcases writes.target with ⟨known, _⟩ | ⟨unknown, _⟩
          · rw [entry] at known
            exact isTarget (Option.some.inj known)
          · rw [entry] at unknown
            cases unknown

theorem written_last (written : Written clientId start sent before)
    (writes : Writes serverTimeMs clientId before state after entity row) (id : NetworkEntityId)
    (last : EntityStateDTO) (isLast : lastUnder (sent ++ [state]) id = some last) :
    ∃ (found : Entity) (foundRow : Components), after.entityByNetworkId[id]? = some found ∧
      after.registry.get? found = some foundRow ∧
      foundRow.predicted = ownedByLocalPlayer clientId last ∧
      heldClient foundRow = ((lastPlayerUnder (sent ++ [state]) id).map fun state =>
        state.replication.ownerClientId).or ((heldRow start id).bind heldClient) ∧
      (start.entityByNetworkId[id]? = some found ∨ start.registry.created ≤ found) := by
  unfold lastUnder at isLast
  rw [last_concat] at isLast
  unfold lastPlayerUnder
  rw [last_concat]
  by_cases same : state.movement.entityId = id
  · subst same
    rw [if_pos (decide_eq_true rfl)] at isLast
    cases isLast
    obtain ⟨origin, client⟩ := target_known written writes
    refine ⟨entity, writeState before.config serverTimeMs clientId state row, ?_, ?_,
      write_state_predicted _ _ _ _ _, ?_, origin⟩
    · rw [writes.table, if_pos rfl]
    · rw [writes.rows, if_pos rfl]
    · rw [write_state_client]
      by_cases isPlayer : state.replication.kind = .player
      · rw [if_pos isPlayer, if_pos (by simpa using isPlayer)]
        rfl
      · rw [if_neg isPlayer, if_neg (by simpa using isPlayer)]
        exact client
  · rw [if_neg (by simpa using same)] at isLast
    rw [if_neg (by simp [same])]
    obtain ⟨found, foundRow, entry, present, rest⟩ := written.written id last isLast
    obtain ⟨_, stillEntry, stillRow⟩ := writes_other writes written.named same entry
    exact ⟨found, foundRow, stillEntry, stillRow.trans present, rest⟩

theorem written_entry (nonzero : clientId ≠ 0) (written : Written clientId start sent before)
    (writes : Writes serverTimeMs clientId before state after entity row) :
    after.playerByClient[clientId]? =
      ((lastOwn clientId (sent ++ [state])).map fun state => state.movement.entityId).or
        start.playerByClient[clientId]? := by
  unfold lastOwn
  rw [last_concat, writes.players]
  by_cases isOwn : ownedByLocalPlayer clientId state = true
  · rw [if_pos isOwn]
    have parts := isOwn
    unfold ownedByLocalPlayer at parts
    rw [Bool.and_eq_true, decide_eq_true_eq, decide_eq_true_eq] at parts
    obtain ⟨owner, kind⟩ := parts
    rw [if_pos ⟨kind, owner ▸ nonzero⟩, owner, get_insert, if_pos rfl]
    rfl
  · rw [if_neg isOwn]
    refine Eq.trans ?_ written.entry
    split
    · next isPlayer =>
        rw [get_insert, if_neg]
        intro owner
        apply isOwn
        unfold ownedByLocalPlayer
        rw [Bool.and_eq_true, decide_eq_true_eq, decide_eq_true_eq]
        exact ⟨owner, isPlayer.1⟩
    · rfl

theorem written_step (nonzero : clientId ≠ 0) (written : Written clientId start sent before)
    (writes : Writes serverTimeMs clientId before state after entity row)
    (created : before.registry.created ≤ after.registry.created) :
    Written clientId start (sent ++ [state]) after where
  named := writes_named writes written.named
  created := Nat.le_trans written.created created
  unsent := by
    intro id notSent
    rw [sends_concat, not_or] at notSent
    rw [writes.table, if_neg notSent.2]
    exact written.unsent id notSent.1
  origin := written_origin written writes
  kept := by
    intro other otherRow present unsent
    have apart := target_apart written writes present unsent
    rw [writes.rows, if_neg apart]
    apply written.kept other otherRow present
    intro id wasSent
    exact unsent id ((sends_concat sent state id).mpr (Or.inl wasSent))
  written := written_last written writes
  entry := written_entry nonzero written writes

end WritingOne

theorem apply_state_created (serverTimeMs : TimestampMs) (localClientId : ClientId)
    (sim : GameSimulation) (state : EntityStateDTO) :
    sim.registry.created ≤
      (applyEntityState serverTimeMs localClientId sim state).registry.created := by
  unfold applyEntityState
  dsimp only
  split
  · rw [(enter_player_rest _ state).2.1, (update_entity_tables _ sim _).created]
  · rw [(enter_player_rest _ state).2.1, (update_entity_tables _ _ _).created]
    exact Nat.le_succ _

theorem all_written {clientId : ClientId} (nonzero : clientId ≠ 0) (serverTimeMs : TimestampMs)
    {start : GameSimulation} (named : Named start) (states : List EntityStateDTO) :
    Written clientId start states
      (states.foldl (applyEntityState serverTimeMs clientId) start) := by
  induction states using List.reverseRecOn with
  | nil => exact written_start clientId named
  | append_singleton sent state ih =>
      rw [List.foldl_concat]
      obtain ⟨entity, row, writes⟩ := apply_state_writes serverTimeMs clientId _ state ih.named
      exact written_step nonzero ih writes (apply_state_created serverTimeMs clientId _ state)

/-! Leaving. -/

/-- `before` without the entities under these ids. -/
structure Left (clientId : ClientId) (ids : List NetworkEntityId)
    (before after : GameSimulation) : Prop where
  named : Named after
  table : ∀ id : NetworkEntityId, after.entityByNetworkId[id]? =
    if id ∈ ids then none else before.entityByNetworkId[id]?
  rows : ∀ entity row, after.registry.get? entity = some row ↔
    before.registry.get? entity = some row ∧
      ∀ id ∈ ids, before.entityByNetworkId[id]? ≠ some entity
  entry : after.playerByClient[clientId]? =
    if ∃ id ∈ ids, (heldRow before id).bind heldClient = some clientId then none
    else before.playerByClient[clientId]?

theorem left_none (clientId : ClientId) {sim : GameSimulation} (named : Named sim) :
    Left clientId [] sim sim where
  named := named
  table := by simp
  rows := by simp
  entry := by simp

theorem left_absent {clientId : ClientId} {ids : List NetworkEntityId}
    {before sim : GameSimulation} (left : Left clientId ids before sim) {id : NetworkEntityId}
    (absent : sim.entityByNetworkId[id]? = none) : Left clientId (ids ++ [id]) before sim := by
  -- The id has left before or was never there, so nothing changes.
  have alreadyGone : id ∈ ids ∨ before.entityByNetworkId[id]? = none := by
    rw [left.table] at absent
    by_cases isGone : id ∈ ids
    · exact Or.inl isGone
    · rw [if_neg isGone] at absent
      exact Or.inr absent
  refine ⟨left.named, ?_, ?_, ?_⟩
  · intro other
    rw [left.table]
    rcases alreadyGone with member | none
    · have same : other ∈ ids ++ [id] ↔ other ∈ ids := by
        rw [List.mem_append, List.mem_singleton]
        exact ⟨fun cases => cases.elim (fun old => old) fun isId => isId ▸ member, Or.inl⟩
      simp only [same]
    · by_cases isId : other = id
      · subst isId
        simp [none]
      · simp [isId]
  · intro entity row
    rw [left.rows]
    constructor
    · rintro ⟨present, apart⟩
      refine ⟨present, ?_⟩
      intro other member
      rcases List.mem_append.mp member with old | new
      · exact apart other old
      · rw [List.mem_singleton.mp new]
        rcases alreadyGone with isGone | none
        · exact apart id isGone
        · rw [none]
          simp
    · rintro ⟨present, apart⟩
      exact ⟨present, fun other member => apart other (List.mem_append_left _ member)⟩
  · rw [left.entry]
    congr 1
    apply propext
    constructor
    · rintro ⟨other, member, holds⟩
      exact ⟨other, List.mem_append_left _ member, holds⟩
    · rintro ⟨other, member, holds⟩
      rcases List.mem_append.mp member with old | new
      · exact ⟨other, old, holds⟩
      · rw [List.mem_singleton.mp new] at holds
        rcases alreadyGone with isGone | none
        · exact ⟨id, isGone, holds⟩
        · unfold heldRow at holds
          rw [none] at holds
          cases holds

theorem left_present {clientId : ClientId} {ids : List NetworkEntityId}
    {before sim : GameSimulation} (left : Left clientId ids before sim) {id : NetworkEntityId}
    {entity : Entity} (present : sim.entityByNetworkId[id]? = some entity) :
    Left clientId (ids ++ [id]) before (leaveInterest clientId sim id) := by
  have named := leave_interest_named clientId sim id left.named
  obtain ⟨row, isRow, _⟩ := left.named id entity present
  have stayed : id ∉ ids ∧ before.entityByNetworkId[id]? = some entity := by
    rw [left.table] at present
    split at present
    · cases present
    · next stays => exact ⟨stays, present⟩
  have held : heldRow before id = some row := by
    unfold heldRow
    rw [stayed.2, Option.bind_some, ((left.rows entity row).mp isRow).1]
  unfold leaveInterest entityFor at named ⊢
  rw [present] at named ⊢
  dsimp only at named ⊢
  rw [isRow, Option.bind_some] at named ⊢
  refine ⟨named, ?_, ?_, ?_⟩
  · intro other
    dsimp only
    rw [get_erase, left.table]
    by_cases isId : id = other
    · subst isId
      simp
    · simp [isId, Ne.symm isId]
  · intro other otherRow
    dsimp only
    -- The row of the id is the only one that goes.
    rw [Registry.get?_destroy]
    by_cases isLeaving : other = entity
    · rw [if_pos isLeaving]
      constructor
      · intro none
        cases none
      · rintro ⟨_, apart⟩
        rw [isLeaving] at apart
        exact absurd stayed.2 (apart id (List.mem_append_right _ List.mem_cons_self))
    · rw [if_neg isLeaving, left.rows]
      constructor
      · rintro ⟨found, apart⟩
        refine ⟨found, ?_⟩
        intro another member
        rcases List.mem_append.mp member with old | new
        · exact apart another old
        · rw [List.mem_singleton.mp new, stayed.2]
          exact fun same => isLeaving (Option.some.inj same).symm
      · rintro ⟨found, apart⟩
        exact ⟨found, fun another member => apart another (List.mem_append_left _ member)⟩
  · dsimp only
    have split : (∃ other ∈ ids ++ [id],
        (heldRow before other).bind heldClient = some clientId) ↔
        (∃ other ∈ ids, (heldRow before other).bind heldClient = some clientId) ∨
          heldClient row = some clientId := by
      simp [or_and_right, exists_or, held]
    simp only [split]
    cases isPlayer : row.player with
    | none =>
        have notHeld : heldClient row ≠ some clientId := by simp [heldClient, isPlayer]
        simp only [notHeld, or_false]
        exact left.entry
    | some player =>
        have isHeld : heldClient row = some player.clientId := by simp [heldClient, isPlayer]
        dsimp only
        rw [get_erase, left.entry, isHeld]
        by_cases same : player.clientId = clientId
        · simp [same]
        · simp [same]

theorem left_step {clientId : ClientId} {ids : List NetworkEntityId}
    {before sim : GameSimulation} (left : Left clientId ids before sim) (id : NetworkEntityId) :
    Left clientId (ids ++ [id]) before (leaveInterest clientId sim id) := by
  cases entry : sim.entityByNetworkId[id]? with
  | none =>
      have still : leaveInterest clientId sim id = sim := by
        unfold leaveInterest entityFor
        rw [entry]
      rw [still]
      exact left_absent left entry
  | some entity => exact left_present left entry

theorem all_left (clientId : ClientId) {sim : GameSimulation} (named : Named sim)
    (ids : List NetworkEntityId) :
    Left clientId ids sim (ids.foldl (leaveInterest clientId) sim) := by
  induction ids using List.reverseRecOn with
  | nil => exact left_none clientId named
  | append_singleton ids id ih =>
      rw [List.foldl_concat]
      exact left_step ih id

/-! The client's own state in the snapshot. -/

section Own

variable {clientId : ClientId} {snapshot : SnapshotDTO} {earlier later : List EntityStateDTO}
variable {own : EntityStateDTO}

theorem own_iff (clientId : ClientId) (state : EntityStateDTO) :
    ownedByLocalPlayer clientId state = true ↔
      state.replication.ownerClientId = clientId ∧ state.replication.kind = .player := by
  unfold ownedByLocalPlayer
  rw [Bool.and_eq_true, decide_eq_true_eq, decide_eq_true_eq]

theorem SentOnce.member (once : SentOnce clientId snapshot earlier own later) :
    own ∈ snapshot.entities := by
  rw [once.split]
  exact List.mem_append_right _ List.mem_cons_self

theorem SentOnce.only (once : SentOnce clientId snapshot earlier own later)
    {state : EntityStateDTO} (member : state ∈ snapshot.entities)
    (isOwn : ownedByLocalPlayer clientId state = true) : state = own := by
  rw [once.split, List.mem_append, List.mem_cons] at member
  rcases member with old | same | new
  · rw [once.before state old] at isOwn
    cases isOwn
  · exact same
  · rw [once.after state new] at isOwn
    cases isOwn

theorem last_append_cons {Item : Type} (passes : Item → Bool) (earlier later : List Item)
    (item : Item) (passed : passes item = true) (noLater : ∀ other ∈ later, passes other = false) :
    ((earlier ++ item :: later).filter passes).getLast? = some item := by
  have none : later.filter passes = [] := by
    rw [List.filter_eq_nil_iff]
    intro other member
    simp [noLater other member]
  rw [List.filter_append, List.filter_cons_of_pos passed, none, List.getLast?_concat]

theorem SentOnce.last_own (once : SentOnce clientId snapshot earlier own later) :
    lastOwn clientId snapshot.entities = some own := by
  unfold lastOwn
  rw [once.split]
  exact last_append_cons _ earlier later own once.isOwn once.after

theorem SentOnce.last_under (once : SentOnce clientId snapshot earlier own later)
    (isLast : ¬ Sends later own.movement.entityId) :
    lastUnder snapshot.entities own.movement.entityId = some own ∧
      lastPlayerUnder snapshot.entities own.movement.entityId = some own := by
  have isPlayer := ((own_iff clientId own).mp once.isOwn).2
  have apart : ∀ other ∈ later, other.movement.entityId ≠ own.movement.entityId :=
    fun other member same => isLast ⟨other, member, same⟩
  unfold lastUnder lastPlayerUnder
  rw [once.split]
  constructor
  · apply last_append_cons
    · simp
    · intro other member
      simp [apart other member]
  · apply last_append_cons
    · simp [isPlayer]
    · intro other member
      simp [apart other member]

/-- Were another state sent under the id after the client's, the last one would
not be the client's. -/
theorem SentOnce.last_other (once : SentOnce clientId snapshot earlier own later)
    (sentLater : Sends later own.movement.entityId) :
    ∃ last, lastUnder snapshot.entities own.movement.entityId = some last ∧
      ownedByLocalPlayer clientId last = false := by
  obtain ⟨state, member, isId⟩ := sentLater
  have split : snapshot.entities = (earlier ++ [own]) ++ later := by
    rw [once.split, List.append_assoc]
    rfl
  have isSome : (later.filter fun state =>
      state.movement.entityId = own.movement.entityId).getLast? ≠ none := by
    intro isNone
    have notId := (last_none_iff _ _).mp isNone state member
    rw [decide_eq_false_iff_not] at notId
    exact notId isId
  obtain ⟨last, isLast⟩ := Option.ne_none_iff_exists'.mp isSome
  refine ⟨last, ?_, once.after last (last_mem isLast).1⟩
  unfold lastUnder
  rw [split, List.filter_append, List.getLast?_append, isLast]
  rfl

end Own

/-! Applying the snapshot. -/

section Applying

variable {clientId : ClientId} {snapshot : SnapshotDTO} {earlier later : List EntityStateDTO}
variable {own : EntityStateDTO} {start written final : GameSimulation}
variable {ids : List NetworkEntityId}

/-- Under an id that is not sent stands what stood there at the start. -/
theorem unsent_row (wrote : Written clientId start snapshot.entities written)
    (named : Named start) {id : NetworkEntityId} (notSent : ¬ Sends snapshot.entities id)
    {entity : Entity} {row : Components} (entry : start.entityByNetworkId[id]? = some entity)
    (present : start.registry.get? entity = some row) :
    written.entityByNetworkId[id]? = some entity ∧
      written.registry.get? entity = some row := by
  refine ⟨(wrote.unsent id notSent).trans entry, wrote.kept entity row present ?_⟩
  intro other isSent otherEntry
  rw [named_injective named otherEntry entry] at isSent
  exact notSent isSent

/-- The entities that the loop over the id table lets leave. -/
structure Leavers (clientId : ClientId) (snapshot : SnapshotDTO) (written : GameSimulation)
    (ids : List NetworkEntityId) : Prop where
  only : ∀ id ∈ ids, ¬ Sends snapshot.entities id ∧
    ∀ entity row, written.entityByNetworkId[id]? = some entity →
      written.registry.get? entity = some row → row.ownedBy ≠ some { clientId := clientId }
  all : ∀ (id : NetworkEntityId) (entity : Entity) row,
    written.entityByNetworkId[id]? = some entity → written.registry.get? entity = some row →
    ¬ Sends snapshot.entities id → row.ownedBy ≠ some { clientId := clientId } → id ∈ ids

theorem leaves_iff (clientId : ClientId) (snapshot : SnapshotDTO) (sim : GameSimulation)
    (id : NetworkEntityId) (entity : Entity) :
    leavesInterest sim clientId snapshot (id, entity) = true ↔
      ¬ Sends snapshot.entities id ∧ ∀ row, sim.registry.get? entity = some row →
        row.ownedBy ≠ some { clientId := clientId } := by
  unfold leavesInterest Sends
  rw [Bool.and_eq_true, Bool.not_eq_true', Bool.not_eq_true', ← Bool.not_eq_true,
    ← Bool.not_eq_true, List.any_eq_true, Option.any_eq_true]
  constructor
  · rintro ⟨notSent, notOwned⟩
    refine ⟨?_, ?_⟩
    · rintro ⟨state, member, isId⟩
      exact notSent ⟨state, member, decide_eq_true isId⟩
    · intro row present owned
      exact notOwned ⟨row, present, (row_owned_iff row clientId).mpr owned⟩
  · rintro ⟨notSent, notOwned⟩
    refine ⟨?_, ?_⟩
    · rintro ⟨state, member, isId⟩
      exact notSent ⟨state, member, of_decide_eq_true isId⟩
    · rintro ⟨row, present, owned⟩
      exact notOwned row present ((row_owned_iff row clientId).mp owned)

theorem leaving_leavers (order : LoopOrder) (clientId : ClientId) (snapshot : SnapshotDTO)
    (written : GameSimulation) : Leavers clientId snapshot written
      (((order.arrange .leavingInterest written.entityByNetworkId.toList).filter
        (leavesInterest written clientId snapshot)).map fun entry => entry.1) := by
  constructor
  · intro id member
    obtain ⟨⟨found, entity⟩, isLeaving, rfl⟩ := List.mem_map.mp member
    obtain ⟨isEntry, leaves⟩ := List.mem_filter.mp isLeaving
    rw [IterationOrder.mem_arrange, Std.ExtTreeMap.mem_toList_iff_getElem?_eq_some] at isEntry
    obtain ⟨notSent, notOwned⟩ := (leaves_iff _ _ _ _ _).mp leaves
    refine ⟨notSent, ?_⟩
    intro other row entry present
    rw [isEntry] at entry
    cases entry
    exact notOwned row present
  · intro id entity row entry present notSent notOwned
    refine List.mem_map.mpr ⟨(id, entity), List.mem_filter.mpr ⟨?_, ?_⟩, rfl⟩
    · rw [IterationOrder.mem_arrange, Std.ExtTreeMap.mem_toList_iff_getElem?_eq_some]
      exact entry
    · refine (leaves_iff _ _ _ _ _).mpr ⟨notSent, ?_⟩
      intro other found
      rw [present] at found
      cases found
      exact notOwned

/-- A written entity does not leave. -/
theorem written_stays (wrote : Written clientId start snapshot.entities written)
    (leavers : Leavers clientId snapshot written ids) (left : Left clientId ids written final)
    {id : NetworkEntityId} (isSent : Sends snapshot.entities id) {entity : Entity}
    {row : Components} (entry : written.entityByNetworkId[id]? = some entity)
    (present : written.registry.get? entity = some row) :
    final.registry.get? entity = some row := by
  refine (left.rows entity row).mpr ⟨present, ?_⟩
  intro other isLeaving otherEntry
  rw [named_injective wrote.named otherEntry entry] at isLeaving
  exact (leavers.only id isLeaving).1 isSent

/-- What stands under an id of the table carries it. -/
theorem carries {sim : GameSimulation} (named : Named sim) {id : NetworkEntityId}
    {entity : Entity} {row : Components} (entry : sim.entityByNetworkId[id]? = some entity)
    (present : sim.registry.get? entity = some row) : row.identity = some { id := id } := by
  obtain ⟨found, isRow, isIdentity⟩ := named id entity entry
  rw [present] at isRow
  cases isRow
  exact isIdentity

/-- A row that stands at the end: a sent id leads to it, and it was written with
what was sent under that id. -/
structure Standing (clientId : ClientId) (snapshot : SnapshotDTO) (start written : GameSimulation)
    (entity : Entity) (row : Components) (id : NetworkEntityId) (last : EntityStateDTO) :
    Prop where
  isSent : Sends snapshot.entities id
  identity : row.identity = some { id := id }
  entry : written.entityByNetworkId[id]? = some entity
  isLast : lastUnder snapshot.entities id = some last
  predicted : row.predicted = ownedByLocalPlayer clientId last
  client : heldClient row = ((lastPlayerUnder snapshot.entities id).map fun state =>
    state.replication.ownerClientId).or ((heldRow start id).bind heldClient)

/-- An entity of another client under an id that is not sent leaves, so that only
sent ids stand. -/
theorem standing_sent (named : Named start)
    (wrote : Written clientId start snapshot.entities written)
    (leavers : Leavers clientId snapshot written ids) (left : Left clientId ids written final)
    {ownId : NetworkEntityId} (clear : Unobstructed clientId snapshot ownId later start)
    {entity : Entity} {row : Components} (present : final.registry.get? entity = some row) :
    ∃ id, Sends snapshot.entities id ∧ written.entityByNetworkId[id]? = some entity ∧
      written.registry.get? entity = some row := by
  obtain ⟨isRow, stayed⟩ := (left.rows entity row).mp present
  rcases wrote.origin entity row isRow with ⟨id, isSent, entry⟩ | ⟨atStart, unnamed⟩
  · exact ⟨id, isSent, entry, isRow⟩
  · obtain ⟨id, entry⟩ := clear.linked entity row atStart
    by_cases isSent : Sends snapshot.entities id
    · exact absurd entry (unnamed id isSent)
    · obtain ⟨still, _⟩ := unsent_row wrote named isSent entry atStart
      have notOwned := (clear.unsent id entity row entry atStart isSent).1
      exact absurd still (stayed id (leavers.all id entity row still isRow isSent notOwned))

theorem standing_row (wrote : Written clientId start snapshot.entities written)
    {entity : Entity} {row : Components} {id : NetworkEntityId}
    (isSent : Sends snapshot.entities id)
    (entry : written.entityByNetworkId[id]? = some entity)
    (isRow : written.registry.get? entity = some row) :
    ∃ last, Standing clientId snapshot start written entity row id last := by
  obtain ⟨last, isLast⟩ := last_under_of_sent isSent
  obtain ⟨found, foundRow, foundEntry, foundPresent, predicted, client, _⟩ :=
    wrote.written id last isLast
  rw [entry] at foundEntry
  cases foundEntry
  rw [isRow] at foundPresent
  cases foundPresent
  exact ⟨last, isSent, carries wrote.named entry isRow, entry, isLast, predicted, client⟩

/-- No row that leaves holds the local client. -/
theorem no_leaver_holds (named : Named start)
    (wrote : Written clientId start snapshot.entities written)
    (leavers : Leavers clientId snapshot written ids)
    {ownId : NetworkEntityId} (clear : Unobstructed clientId snapshot ownId later start) :
    ¬ ∃ id ∈ ids, (heldRow written id).bind heldClient = some clientId := by
  rintro ⟨id, isLeaving, holds⟩
  have notSent := (leavers.only id isLeaving).1
  obtain ⟨row, isHeld, held⟩ := Option.bind_eq_some_iff.mp holds
  obtain ⟨entity, entry, present⟩ := Option.bind_eq_some_iff.mp isHeld
  rw [wrote.unsent id notSent] at entry
  obtain ⟨startRow, atStart, _⟩ := named id entity entry
  obtain ⟨_, still⟩ := unsent_row wrote named notSent entry atStart
  rw [present] at still
  cases still
  exact (clear.unsent id entity row entry atStart notSent).2 held

/-- Only under the id of its own state does a row hold the client: the last player
state under an id names the owner, and where there is none no player was held. -/
theorem client_sent_own (once : SentOnce clientId snapshot earlier own later)
    (clear : Unobstructed clientId snapshot own.movement.entityId later start)
    {id : NetworkEntityId} (isSent : Sends snapshot.entities id)
    (isClient : ((lastPlayerUnder snapshot.entities id).map fun state =>
      state.replication.ownerClientId).or ((heldRow start id).bind heldClient) = some clientId) :
    id = own.movement.entityId := by
  cases isLastPlayer : lastPlayerUnder snapshot.entities id with
  | some state =>
      obtain ⟨member, passes⟩ := last_mem isLastPlayer
      obtain ⟨isId, isPlayer⟩ := of_decide_eq_true passes
      rw [isLastPlayer] at isClient
      have isOwn := once.only member ((own_iff clientId state).mpr
        ⟨Option.some.inj isClient, isPlayer⟩)
      rw [← isId, isOwn]
  | none =>
      rw [isLastPlayer] at isClient
      obtain ⟨held, isHeld, heldClient⟩ := Option.bind_eq_some_iff.mp isClient
      obtain ⟨holder, holderEntry, holderRow⟩ := Option.bind_eq_some_iff.mp isHeld
      refine absurd heldClient (clear.shots id holder held holderEntry holderRow isSent ?_)
      intro state member isId
      have notPlayer := (last_none_iff _ _).mp isLastPlayer state member
      rw [decide_eq_false_iff_not] at notPlayer
      cases kind : state.replication.kind with
      | player => exact absurd ⟨isId, kind⟩ notPlayer
      | projectile => rfl

theorem one_identity_of_unobstructed (named : Named start)
    (once : SentOnce clientId snapshot earlier own later)
    (wrote : Written clientId start snapshot.entities written)
    (leavers : Leavers clientId snapshot written ids) (left : Left clientId ids written final)
    (clear : Unobstructed clientId snapshot own.movement.entityId later start) :
    OneIdentity clientId own.movement.entityId snapshot final := by
  obtain ⟨lastUnderOwn, lastPlayerOwn⟩ := once.last_under clear.last
  have standing (entity : Entity) (row : Components)
      (present : final.registry.get? entity = some row) :
      ∃ id last, Standing clientId snapshot start written entity row id last := by
    obtain ⟨id, isSent, entry, isRow⟩ := standing_sent named wrote leavers left clear present
    exact ⟨id, standing_row wrote isSent entry isRow⟩
  constructor
  case within =>
    intro entity row present
    obtain ⟨id, last, stands⟩ := standing entity row present
    exact ⟨id, stands.identity, stands.isSent⟩
  case each =>
    intro id isSent
    obtain ⟨last, isLast⟩ := last_under_of_sent isSent
    obtain ⟨entity, row, entry, present, _⟩ := wrote.written id last isLast
    exact ⟨entity, row, written_stays wrote leavers left isSent entry present,
      carries wrote.named entry present⟩
  case distinct =>
    intro first second firstRow secondRow one two same
    obtain ⟨firstId, _, firstStands⟩ := standing first firstRow one
    obtain ⟨secondId, _, secondStands⟩ := standing second secondRow two
    rw [firstStands.identity, secondStands.identity] at same
    cases same
    exact Option.some.inj (firstStands.entry.symm.trans secondStands.entry)
  case player =>
    intro entity row present
    obtain ⟨id, last, isSent, identity, entry, _, _, client⟩ := standing entity row present
    rw [identity, client]
    -- the last player state under the id tells which client the row holds
    constructor
    · intro isClient
      rw [client_sent_own once clear isSent isClient]
    · intro isOwn
      cases isOwn
      rw [lastPlayerOwn]
      exact congrArg some ((own_iff clientId own).mp once.isOwn).1
  case entry =>
    unfold playerEntityForClient
    rw [left.entry, if_neg (no_leaver_holds named wrote leavers clear), wrote.entry,
      once.last_own]
    rfl
  case predicted =>
    intro entity row present
    obtain ⟨id, last, stands⟩ := standing entity row present
    have isLast := stands.isLast
    rw [stands.identity, stands.predicted]
    constructor
    · intro isOwn
      obtain ⟨member, isId⟩ := last_mem isLast
      rw [← once.only member isOwn, of_decide_eq_true isId]
    · intro isOwn
      cases isOwn
      rw [lastUnderOwn] at isLast
      cases isLast
      exact once.isOwn

/-! Back from the identities. -/

/-- Where only sent entities are left, all others have been removed. -/
theorem unsent_leaves (tabled : Tabled start)
    (wrote : Written clientId start snapshot.entities written)
    (left : Left clientId ids written final)
    (one : OneIdentity clientId own.movement.entityId snapshot final)
    {id : NetworkEntityId} {entity : Entity} {row : Components}
    (entry : start.entityByNetworkId[id]? = some entity)
    (present : start.registry.get? entity = some row) (notSent : ¬ Sends snapshot.entities id) :
    id ∈ ids := by
  by_contra notLeaving
  have named := tabled.named
  obtain ⟨still, stillRow⟩ := unsent_row wrote named notSent entry present
  have inFinal : final.registry.get? entity = some row := by
    refine (left.rows entity row).mpr ⟨stillRow, ?_⟩
    intro other isLeaving otherEntry
    rw [named_injective wrote.named otherEntry still] at isLeaving
    exact notLeaving isLeaving
  obtain ⟨other, identity, isSent⟩ := one.within entity row inFinal
  rw [carries named entry present] at identity
  cases identity
  exact notSent isSent

/-- An entity outside the table would stay beside the one that the snapshot
writes under its id. -/
theorem linked_of_one_identity (wrote : Written clientId start snapshot.entities written)
    (leavers : Leavers clientId snapshot written ids) (left : Left clientId ids written final)
    (one : OneIdentity clientId own.movement.entityId snapshot final) {entity : Entity}
    {row : Components} (present : start.registry.get? entity = some row) :
    ∃ id : NetworkEntityId, start.entityByNetworkId[id]? = some entity := by
  by_contra unlinked
  have unnamed (id : NetworkEntityId) : start.entityByNetworkId[id]? ≠ some entity :=
    fun entry => unlinked ⟨id, entry⟩
  have isRow := wrote.kept entity row present fun id _ => unnamed id
  have notWritten (id : NetworkEntityId) : written.entityByNetworkId[id]? ≠ some entity := by
    intro entry
    by_cases isSent : Sends snapshot.entities id
    · obtain ⟨last, isLast⟩ := last_under_of_sent isSent
      obtain ⟨found, _, foundEntry, _, _, _, origin⟩ := wrote.written id last isLast
      rw [entry] at foundEntry
      cases foundEntry
      rcases origin with known | isNew
      · exact unnamed id known
      · exact absurd (start.registry.get?_lt present) (Nat.not_lt.mpr isNew)
    · exact unnamed id ((wrote.unsent id isSent).symm.trans entry)
  have inFinal := (left.rows entity row).mpr ⟨isRow, fun id _ => notWritten id⟩
  obtain ⟨id, identity, isSent⟩ := one.within entity row inFinal
  obtain ⟨last, isLast⟩ := last_under_of_sent isSent
  obtain ⟨found, foundRow, foundEntry, foundPresent, _⟩ := wrote.written id last isLast
  have foundInFinal := written_stays wrote leavers left isSent foundEntry foundPresent
  have sameIdentity := identity.trans (carries wrote.named foundEntry foundPresent).symm
  rw [one.distinct entity found row foundRow inFinal foundInFinal sameIdentity] at notWritten
  exact notWritten id foundEntry

/-- A player of the client that leaves takes the client's entry with it. -/
theorem unsent_of_one_identity (tabled : Tabled start)
    (wrote : Written clientId start snapshot.entities written)
    (leavers : Leavers clientId snapshot written ids) (left : Left clientId ids written final)
    (one : OneIdentity clientId own.movement.entityId snapshot final)
    {id : NetworkEntityId} {entity : Entity} {row : Components}
    (entry : start.entityByNetworkId[id]? = some entity)
    (present : start.registry.get? entity = some row) (notSent : ¬ Sends snapshot.entities id) :
    row.ownedBy ≠ some { clientId := clientId } ∧ heldClient row ≠ some clientId := by
  have isLeaving := unsent_leaves tabled wrote left one entry present notSent
  obtain ⟨still, stillRow⟩ := unsent_row wrote tabled.named notSent entry present
  constructor
  · exact (leavers.only id isLeaving).2 entity row still stillRow
  · intro held
    have entryNow := one.entry
    have holds : ∃ id ∈ ids, (heldRow written id).bind heldClient = some clientId := by
      refine ⟨id, isLeaving, ?_⟩
      unfold heldRow
      rw [still, Option.bind_some, stillRow]
      exact held
    unfold playerEntityForClient at entryNow
    rw [left.entry, if_pos holds] at entryNow
    cases entryNow

/-- A player of the client keeps its client under the states of a projectile, so
it would be the one that is sent as a player. -/
theorem shots_of_one_identity (once : SentOnce clientId snapshot earlier own later)
    (wrote : Written clientId start snapshot.entities written)
    (leavers : Leavers clientId snapshot written ids) (left : Left clientId ids written final)
    (one : OneIdentity clientId own.movement.entityId snapshot final)
    {id : NetworkEntityId} {entity : Entity} {row : Components}
    (entry : start.entityByNetworkId[id]? = some entity)
    (present : start.registry.get? entity = some row) (isSent : Sends snapshot.entities id)
    (allShots : ∀ state ∈ snapshot.entities, state.movement.entityId = id →
      state.replication.kind = .projectile) : heldClient row ≠ some clientId := by
  intro held
  obtain ⟨last, isLast⟩ := last_under_of_sent isSent
  obtain ⟨found, foundRow, foundEntry, foundPresent, _, client, _⟩ := wrote.written id last isLast
  have noPlayer : lastPlayerUnder snapshot.entities id = none := by
    unfold lastPlayerUnder
    rw [last_none_iff]
    intro state member
    rw [decide_eq_false_iff_not]
    rintro ⟨isId, isPlayer⟩
    rw [allShots state member isId] at isPlayer
    cases isPlayer
  have isHeld : heldRow start id = some row := by
    unfold heldRow
    rw [entry, Option.bind_some, present]
  rw [noPlayer, isHeld, Option.bind_some, held] at client
  have inFinal := written_stays wrote leavers left isSent foundEntry foundPresent
  have identity := (one.player found foundRow inFinal).mp client
  rw [carries wrote.named foundEntry foundPresent] at identity
  cases identity
  have isShot := allShots own once.member rfl
  rw [((own_iff clientId own).mp once.isOwn).2] at isShot
  cases isShot

/-- A later state under the same id would take the prediction away. -/
theorem last_of_one_identity (once : SentOnce clientId snapshot earlier own later)
    (wrote : Written clientId start snapshot.entities written)
    (leavers : Leavers clientId snapshot written ids) (left : Left clientId ids written final)
    (one : OneIdentity clientId own.movement.entityId snapshot final) :
    ¬ Sends later own.movement.entityId := by
  intro sentLater
  obtain ⟨last, isLast, notOwn⟩ := once.last_other sentLater
  obtain ⟨found, foundRow, foundEntry, foundPresent, predicted, _⟩ := wrote.written _ last isLast
  have isSent : Sends snapshot.entities own.movement.entityId := ⟨own, once.member, rfl⟩
  have inFinal := written_stays wrote leavers left isSent foundEntry foundPresent
  have isPredicted := (one.predicted found foundRow inFinal).mpr
    (carries wrote.named foundEntry foundPresent)
  rw [predicted, notOwn] at isPredicted
  cases isPredicted

theorem unobstructed_of_one_identity (tabled : Tabled start)
    (once : SentOnce clientId snapshot earlier own later)
    (wrote : Written clientId start snapshot.entities written)
    (leavers : Leavers clientId snapshot written ids) (left : Left clientId ids written final)
    (one : OneIdentity clientId own.movement.entityId snapshot final) :
    Unobstructed clientId snapshot own.movement.entityId later start where
  linked _ _ present := linked_of_one_identity wrote leavers left one present
  unsent _ _ _ entry present notSent :=
    unsent_of_one_identity tabled wrote leavers left one entry present notSent
  shots _ _ _ entry present isSent allShots :=
    shots_of_one_identity once wrote leavers left one entry present isSent allShots
  last := last_of_one_identity once wrote leavers left one

end Applying

/-! The replay leaves the identities alone. -/

structure SameMark (before after : Components) : Prop where
  identity : after.identity = before.identity
  client : heldClient after = heldClient before
  predicted : after.predicted = before.predicted

theorem SameMark.refl (row : Components) : SameMark row row := ⟨rfl, rfl, rfl⟩

theorem SameMark.trans (first second third : Components) (left : SameMark first second)
    (right : SameMark second third) : SameMark first third :=
  ⟨right.identity.trans left.identity, right.client.trans left.client,
   right.predicted.trans left.predicted⟩

/-- Same marks on the same entities, and the same players. -/
structure Marked (before after : GameSimulation) : Prop where
  rows : RowsRelated SameMark before after
  players : after.playerByClient = before.playerByClient

theorem Marked.refl (sim : GameSimulation) : Marked sim sim :=
  ⟨RowsRelated.refl SameMark.refl sim, rfl⟩

theorem Marked.trans {first second third : GameSimulation} (left : Marked first second)
    (right : Marked second third) : Marked first third :=
  ⟨left.rows.trans SameMark.trans right.rows, right.players.trans left.players⟩

theorem Marked.symm {before after : GameSimulation} (marked : Marked before after) :
    Marked after before := by
  refine ⟨?_, marked.players.symm⟩
  intro entity
  have related := marked.rows entity
  revert related
  generalize before.registry.get? entity = one
  generalize after.registry.get? entity = two
  rintro (⟨identity, client, predicted⟩ | _)
  · exact Option.Rel.some ⟨identity.symm, client.symm, predicted.symm⟩
  · exact Option.Rel.none

theorem replay_input_marked (sim : GameSimulation) (packet : ClientInputPacket) :
    Marked sim (replayLocalInput sim packet) := by
  refine ⟨?_, (replay_input_tables sim packet).playerByClient⟩
  unfold replayLocalInput
  split
  · exact RowsRelated.refl SameMark.refl sim
  · apply update_entity_rows SameMark.refl
    intro row _
    obtain ⟨_, _, _, _, replayed, _⟩ := replay_row_changes sim.config sim.timeMs packet row
    rw [replayed]
    exact ⟨rfl, rfl, rfl⟩

theorem replay_marked (sim : GameSimulation) (inputs : List ClientInputPacket) :
    Marked sim (replayLocalInputsForPrediction sim inputs) :=
  Runs.run_relates replayLocalInput Marked Marked.refl Marked.trans replay_input_marked sim inputs

theorem one_identity_of_marked {before after : GameSimulation} (marked : Marked before after)
    {clientId : ClientId} {own : NetworkEntityId} {snapshot : SnapshotDTO}
    (one : OneIdentity clientId own snapshot before) :
    OneIdentity clientId own snapshot after where
  within := by
    intro entity later found
    obtain ⟨row, present, same⟩ := marked.rows.backward found
    obtain ⟨id, identity, isSent⟩ := one.within entity row present
    exact ⟨id, same.identity.trans identity, isSent⟩
  each := by
    intro id isSent
    obtain ⟨entity, row, present, identity⟩ := one.each id isSent
    obtain ⟨later, found, same⟩ := marked.rows.forward present
    exact ⟨entity, later, found, same.identity.trans identity⟩
  distinct := by
    intro first second firstRow secondRow foundFirst foundSecond identities
    obtain ⟨_, one', sameFirst⟩ := marked.rows.backward foundFirst
    obtain ⟨_, two', sameSecond⟩ := marked.rows.backward foundSecond
    rw [sameFirst.identity, sameSecond.identity] at identities
    exact one.distinct first second _ _ one' two' identities
  player := by
    intro entity later found
    obtain ⟨row, present, same⟩ := marked.rows.backward found
    rw [same.client, same.identity]
    exact one.player entity row present
  entry := by
    unfold playerEntityForClient
    rw [marked.players]
    exact one.entry
  predicted := by
    intro entity later found
    obtain ⟨row, present, same⟩ := marked.rows.backward found
    rw [same.predicted, same.identity]
    exact one.predicted entity row present

/-- Applying a snapshot writes its states, lets the rest leave and marks no row
after that. -/
theorem apply_snapshot_parts (order : LoopOrder) {clientId : ClientId} (nonzero : clientId ≠ 0)
    {start : GameSimulation} (named : Named start) (snapshot : SnapshotDTO) :
    ∃ written ids final, Written clientId start snapshot.entities written ∧
      Leavers clientId snapshot written ids ∧ Left clientId ids written final ∧
      Marked final (applySnapshot order start snapshot clientId) := by
  have wrote := all_written nonzero snapshot.serverTimeMs named snapshot.entities
  refine ⟨_, _, _, wrote, leaving_leavers order clientId snapshot _,
    all_left clientId wrote.named _, ?_⟩
  -- the event queued at the end is no mark
  exact ⟨RowsRelated.refl SameMark.refl _, rfl⟩

/-- On any client, a snapshot with the client's player leaves one local
identity exactly when nothing on the client stands in its way. -/
theorem local_identity (clientId : ClientId) (nonzero : clientId ≠ 0) (config : SimulationConfig)
    (calls : List ClientCall) (order : LoopOrder) (snapshot : SnapshotDTO)
    (earlier later : List EntityStateDTO) (own : EntityStateDTO)
    (once : SentOnce clientId snapshot earlier own later) :
    OneIdentity clientId own.movement.entityId snapshot
        ((clientRun clientId config calls).applyServerSnapshot order snapshot).simulation ↔
      Unobstructed clientId snapshot own.movement.entityId later
        (clientRun clientId config calls).simulation := by
  have tabled := client_run_tabled clientId config calls
  have sameClient := (client_run_keeps clientId config calls).1
  generalize clientRun clientId config calls = runtime at tabled sameClient ⊢
  subst sameClient
  obtain ⟨written, ids, final, wrote, leavers, left, applied⟩ :=
    apply_snapshot_parts order nonzero tabled.named snapshot
  have replayed := applied.trans (replay_marked _
    (runtime.pendingInputs.acknowledgeThrough snapshot.ackedInputSequence).unackedInputs)
  constructor
  · intro one
    exact unobstructed_of_one_identity tabled once wrote leavers left
      (one_identity_of_marked replayed.symm one)
  · intro clear
    exact one_identity_of_marked replayed
      (one_identity_of_unobstructed tabled.named once wrote leavers left clear)

/-! What servers send. -/

/-- A row that the client owns is that of its player. -/
theorem owned_is_player {sim : GameSimulation} (identified : Identified sim)
    {clientId : ClientId} {id : NetworkEntityId}
    (entry : sim.playerByClient[clientId]? = some id) {entity : Entity} {row : Components}
    (present : sim.registry.get? entity = some row)
    (owned : row.ownedBy = some { clientId := clientId }) : idOf entity = id := by
  obtain ⟨player, isPlayer, client⟩ := identified.owners entity row _ present owned
  have entered := identified.entered entity row player present isPlayer
  rw [client, entry] at entered
  exact (Option.some.inj entered).symm

/-- A row without an owner is shown as that of client 0. -/
theorem shown_owner {clientId : ClientId} (nonzero : clientId ≠ 0) {row : Components}
    {state : EntityStateDTO} (shows : Shows row state)
    (isOwner : state.replication.ownerClientId = clientId) :
    row.ownedBy = some { clientId := clientId } := by
  rw [shows.owner] at isOwner
  cases owned : row.ownedBy with
  | none =>
      rw [owned] at isOwner
      exact absurd isOwner.symm nonzero
  | some holder =>
      rw [owned] at isOwner
      cases holder
      cases isOwner
      rfl

theorem shown_own_iff {sim : GameSimulation} (identified : Identified sim)
    {clientId : ClientId} (nonzero : clientId ≠ 0) {entity : Entity} {row : Components}
    (present : sim.registry.get? entity = some row) {state : EntityStateDTO}
    (shows : Shows row state) :
    ownedByLocalPlayer clientId state = true ↔ row.ownedBy = some { clientId := clientId } := by
  rw [own_iff]
  constructor
  · exact fun own => shown_owner nonzero shows own.1
  · intro owned
    obtain ⟨player, isPlayer, _⟩ := identified.owners entity row _ present owned
    rw [shows.owner, owned]
    exact ⟨rfl, (shows.player player isPlayer).1⟩

/-- The snapshots of a server hold the player of the client they are for once. -/
theorem server_sends_once (order : LoopOrder) {sim : GameSimulation}
    (identified : Identified sim) (room : sim.registry.created < 2 ^ 32 - 1) {clientId : ClientId}
    (nonzero : clientId ≠ 0) {id : NetworkEntityId}
    (entry : sim.playerByClient[clientId]? = some id) (snapshotId baselineId : SnapshotId) :
    ∃ earlier own later, own.movement.entityId = id ∧
      SentOnce clientId (buildSnapshot order sim clientId snapshotId baselineId)
        earlier own later := by
  obtain ⟨entity, row, player, isId, present, _, _, owned⟩ := identified.placed clientId id entry
  obtain ⟨listed, distinct, exact, shows⟩ := build_snapshot_lists order sim
    (identified_bodied identified) clientId snapshotId baselineId
  have visible : isVisible sim.config (observerChunk sim clientId) clientId row = true := by
    unfold isVisible
    rw [(row_owned_iff row clientId).mpr owned]
    split
    · rfl
    · rfl
  obtain ⟨own, member, _, isRow, shown⟩ :=
    forall_left shows ((exact entity).mpr ⟨row, present, visible⟩)
  rw [present] at isRow
  cases isRow
  have isOwn := (shown_own_iff identified nonzero present shown).mpr owned
  have named : own.movement.entityId = id := by
    have carried := identified.carried entity row present
    rw [shown.identity, ← isId] at carried
    cases carried
    rfl
  obtain ⟨earlier, later, split⟩ := List.append_of_mem member
  -- Only the client's player is shown as its own, and it is listed once.
  have onlyPlayer (other : Entity) (otherRow : Components) (state : EntityStateDTO)
      (found : sim.registry.get? other = some otherRow) (tells : Shows otherRow state)
      (isLocal : ownedByLocalPlayer clientId state = true) : other = entity := by
    have same := owned_is_player identified entry found
      ((shown_own_iff identified nonzero found tells).mp isLocal)
    rw [isId] at same
    exact id_of_injective (Nat.lt_trans (Registry.get?_lt _ found) room)
      (Nat.lt_trans (Registry.get?_lt _ present) room) same
  rw [split] at shows
  have front := List.forall₂_take_append listed earlier (own :: later) shows
  have back := List.forall₂_drop_append listed earlier (own :: later) shows
  rw [← List.take_append_drop earlier.length listed] at distinct
  generalize List.take earlier.length listed = frontListed at front distinct
  generalize List.drop earlier.length listed = backListed at back distinct
  cases back with
  | @cons middle _ rest _ atOwn back =>
      obtain ⟨middleRow, middlePresent, middleShows⟩ := atOwn
      have isMiddle := onlyPlayer middle middleRow own middlePresent middleShows isOwn
      subst isMiddle
      obtain ⟨_, backDistinct, apart⟩ := List.nodup_append.mp distinct
      refine ⟨earlier, own, later, named, split, isOwn, ?_, ?_⟩
      · intro state before
        rw [Bool.eq_false_iff]
        intro isLocal
        obtain ⟨other, inFront, otherRow, found, tells⟩ := forall_right front before
        have same := onlyPlayer other otherRow state found tells isLocal
        exact apart other inFront middle List.mem_cons_self same
      · intro state after
        rw [Bool.eq_false_iff]
        intro isLocal
        obtain ⟨other, inBack, otherRow, found, tells⟩ := forall_right back after
        rw [onlyPlayer other otherRow state found tells isLocal] at inBack
        exact (List.nodup_cons.mp backDistinct).1 inBack

/-- Clients 1 and 14 have joined, out of each other's sight. -/
def farApart : GameSimulation := serverRun {}
  [.login { header := { clientId := 1 } }, .login { header := { clientId := 14 } }]

def farSnapshot : SnapshotDTO := buildSnapshot .stored farApart 14 1 0

def farOwn : EntityStateDTO := farSnapshot.entities.head?.getD {}

def connected (clientId : ClientId) : ClientRuntime := clientRun clientId {} [.connectLocal 0]

/-- The player that client 14 created for itself under id 1 stays beside the
one that the server has under id 2. -/
theorem local_identity_doubled : SentOnce 14 farSnapshot [] farOwn [] ∧
    ¬ OneIdentity 14 farOwn.movement.entityId farSnapshot
      ((connected 14).applyServerSnapshot .stored farSnapshot).simulation := by
  refine ⟨⟨by decide +kernel, by decide +kernel, by simp, by simp⟩, ?_⟩
  intro one
  have stays : (((connected 14).applyServerSnapshot .stored farSnapshot).simulation.registry.get?
      0).map (fun row => row.identity) = some (some { id := { value := 1 } }) := by
    decide +kernel
  obtain ⟨row, present, identity⟩ := Option.map_eq_some_iff.mp stays
  obtain ⟨id, sameIdentity, state, member, isId⟩ := one.within 0 row present
  rw [identity] at sameIdentity
  cases sameIdentity
  have onlyOwn : farSnapshot.entities = [farOwn] := by decide +kernel
  rw [onlyOwn, List.mem_singleton] at member
  subst member
  exact absurd isId (by decide +kernel)

/-- Clients 1 and 2 have joined side by side. -/
def sideBySide : GameSimulation := serverRun {}
  [.login { header := { clientId := 1 } }, .login { header := { clientId := 2 } }]

def nearSnapshot : SnapshotDTO := buildSnapshot .stored sideBySide 2 1 0

def nearOther : EntityStateDTO := nearSnapshot.entities.head?.getD {}

def nearOwn : EntityStateDTO := nearSnapshot.entities.getLast?.getD {}

theorem near_sent_once : SentOnce 2 nearSnapshot [nearOther] nearOwn [] where
  split := by decide +kernel
  isOwn := by decide +kernel
  before := by decide +kernel
  after := by simp

theorem near_unobstructed : Unobstructed 2 nearSnapshot nearOwn.movement.entityId []
    (connected 2).simulation := by
  have named := (client_run_tabled 2 {} [.connectLocal 0]).named
  have one : (connected 2).simulation.registry.created = 1 := by decide +kernel
  have entry : (connected 2).simulation.entityByNetworkId[({ value := 1 } : NetworkEntityId)]? =
      some 0 := by decide +kernel
  have only (entity : Entity) (row : Components)
      (present : (connected 2).simulation.registry.get? entity = some row) : entity = 0 := by
    have below := Registry.get?_lt _ present
    rw [one] at below
    exact Nat.lt_one_iff.mp below
  have underOne (id : NetworkEntityId) (entity : Entity) (row : Components)
      (found : (connected 2).simulation.entityByNetworkId[id]? = some entity)
      (present : (connected 2).simulation.registry.get? entity = some row) : id = { value := 1 } := by
    rw [only entity row present] at found
    exact named_injective named found entry
  have sentOne : Sends nearSnapshot.entities { value := 1 } := ⟨nearOther, by decide +kernel⟩
  constructor
  · intro entity row present
    exact ⟨{ value := 1 }, by rw [only entity row present]; exact entry⟩
  · intro id entity row found present notSent
    rw [underOne id entity row found present] at notSent
    exact absurd sentOne notSent
  · intro id entity row found present isSent allShots
    have isShot := allShots nearOther (by decide +kernel)
      (by rw [underOne id entity row found present]; decide +kernel)
    exact absurd isShot (by decide +kernel)
  · rintro ⟨state, member, _⟩
    cases member

/-- Client 2 takes over the entity it had created for client 1's player. -/
theorem local_identity_side_by_side : SentOnce 2 nearSnapshot [nearOther] nearOwn [] ∧
    OneIdentity 2 nearOwn.movement.entityId nearSnapshot
      ((connected 2).applyServerSnapshot .stored nearSnapshot).simulation :=
  ⟨near_sent_once, (local_identity 2 (by decide) {} [.connectLocal 0] .stored nearSnapshot
    [nearOther] [] nearOwn near_sent_once).mpr near_unobstructed⟩

end Brawololo.LocalIdentity
