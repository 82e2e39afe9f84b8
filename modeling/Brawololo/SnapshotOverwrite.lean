import Brawololo.LocalIdentity

/-!
Applying a snapshot to a client overwrites what it holds: the sent entities stand
as they were sent, the others leave unless the local client owns them, and a
second application finds nothing to do. The entry of a client whose old player
leaves is erased even when the snapshot has just named its new player.
-/

namespace Brawololo.SnapshotOverwrite

open GameTypes EntityStore Simulation Simulation.GameSimulation SimulationStages
open SimulationSnapshots EntityIdentity Client ClientTables LocalIdentity

/-! What is asked of a snapshot and of its application. -/

/-- The snapshot states each entity once and in full, one player for each owner,
and of the kind the client holds. -/
structure WellFormed (sim : GameSimulation) (snapshot : SnapshotDTO) : Prop where
  distinct : (snapshot.entities.map fun state => state.movement.entityId).Nodup
  combat : ∀ state ∈ snapshot.entities, ∃ combat, state.combat = some combat ∧
    combat.entityId = state.movement.entityId
  replication : ∀ state ∈ snapshot.entities,
    state.replication.entityId = state.movement.entityId
  players : ∀ owner, owner ≠ 0 → ∀ first ∈ snapshot.entities, ∀ second ∈ snapshot.entities,
    ownedByLocalPlayer owner first = true → ownedByLocalPlayer owner second = true →
    first = second
  kinds : ∀ state ∈ snapshot.entities, ∀ row, heldRow sim state.movement.entityId = some row →
    (state.replication.kind = .player ↔ row.player.isSome)

/-- The row stands as the state says. -/
structure StatedBy (state : EntityStateDTO) (row : Components) : Prop where
  named : row.identity = some { id := state.movement.entityId }
  movement : movementState row = some state.movement
  owner : row.ownedBy = some { clientId := state.replication.ownerClientId }
  kind : state.replication.kind = .player ↔ row.player.isSome
  health : ∀ combat, state.combat = some combat → state.replication.kind = .player →
    row.player = some { clientId := state.replication.ownerClientId, health := combat.health,
                        maxHealth := combat.maxHealth, defeated := combat.defeated,
                        respawnAtMs := combat.respawnAtMs }
  weapon : ∀ combat, state.combat = some combat → state.replication.kind = .player →
    ∃ weapon, row.weapon = some weapon ∧ weapon.type = combat.weaponType ∧
      weapon.warming = combat.weaponWarming ∧
      weapon.warmupCompletesAtMs = combat.weaponWarmupCompletesAtMs
  projectile : ∀ combat, state.combat = some combat → state.replication.kind = .projectile →
    ∃ projectile, row.projectile = some projectile ∧
      projectile.ownerId = combat.projectileOwnerId ∧ projectile.sourceWeapon = combat.weaponType

/-- An entity that entered interest, and who it is told to. -/
def enteredOf : DomainEvent → Option (NetworkEntityId × ClientId)
  | .entityEnteredInterest entered => some (entered.entityId, entered.observerClientId)
  | _ => none

def leftOf : DomainEvent → Option (NetworkEntityId × ClientId)
  | .entityLeftInterest left => some (left.entityId, left.observerClientId)
  | _ => none

def appliedEvent (snapshot : SnapshotDTO) : DomainEvent :=
  .snapshotApplied { snapshotId := snapshot.snapshotId, baselineId := snapshot.baselineId,
                     ackedInputSequence := snapshot.ackedInputSequence }

/-- The id changes between being absent and being present. -/
structure InterestEvents (clientId : ClientId) (before after : GameSimulation)
    (added : EventList) : Prop where
  queued : after.events = before.events ++ added
  enteredOnce : (added.filterMap enteredOf).Nodup
  entered : ∀ entityId observer, (entityId, observer) ∈ added.filterMap enteredOf ↔
    observer = clientId ∧ before.entityFor entityId = none ∧ after.entityFor entityId ≠ none
  leftOnce : (added.filterMap leftOf).Nodup
  left : ∀ entityId observer, (entityId, observer) ∈ added.filterMap leftOf ↔
    observer = clientId ∧ before.entityFor entityId ≠ none ∧ after.entityFor entityId = none

/-- The snapshot is what the client holds after it is applied. -/
structure Faithful (order : LoopOrder) (sim : GameSimulation) (snapshot : SnapshotDTO)
    (clientId : ClientId) : Prop where
  stated : ∀ state ∈ snapshot.entities, ∃ row,
    heldRow (applySnapshot order sim snapshot clientId) state.movement.entityId = some row ∧
      StatedBy state row
  players : ∀ owner, owner ≠ 0 → ∀ state ∈ snapshot.entities,
    ownedByLocalPlayer owner state = true →
    (applySnapshot order sim snapshot clientId).playerEntityForClient owner =
      some state.movement.entityId
  gone : ∀ entity row, (applySnapshot order sim snapshot clientId).registry.get? entity = some row →
    (∃ id, row.identity = some { id := id } ∧ Sends snapshot.entities id) ∨
      row.ownedBy = some { clientId := clientId }
  events : ∃ added, InterestEvents clientId sim (applySnapshot order sim snapshot clientId) added
  again : ∀ later, applySnapshot later (applySnapshot order sim snapshot clientId) snapshot clientId =
    (applySnapshot order sim snapshot clientId).queueEvent (appliedEvent snapshot)

/-- No entity that leaves is a player of an owner whose player the snapshot states,
and the id table misses no entity that should leave. -/
structure Unconflicted (sim : GameSimulation) (snapshot : SnapshotDTO) (clientId : ClientId) :
    Prop where
  players : ∀ id row, heldRow sim id = some row → ¬ Sends snapshot.entities id →
    row.ownedBy ≠ some { clientId := clientId } →
    ∀ owner, owner ≠ 0 → ∀ state ∈ snapshot.entities, ownedByLocalPlayer owner state = true →
      heldClient row ≠ some owner
  tabled : ∀ entity row, sim.registry.get? entity = some row →
    (∃ id : NetworkEntityId, sim.entityByNetworkId[id]? = some entity) ∨
      (∃ id, row.identity = some { id := id } ∧ Sends snapshot.entities id) ∨
      row.ownedBy = some { clientId := clientId }

/-! A written row. -/

theorem write_state_placed (config : SimulationConfig) (serverTimeMs : TimestampMs)
    (clientId : ClientId) (state : EntityStateDTO) (row : Components) :
    let written := writeState config serverTimeMs clientId state row
    written.identity = row.identity ∧
      written.transform = some { x := state.movement.x, y := state.movement.y } ∧
      written.velocity = some { vx := state.movement.vx, vy := state.movement.vy } ∧
      written.aim = some { x := state.movement.aimX, y := state.movement.aimY } ∧
      written.ownedBy = some { clientId := state.replication.ownerClientId } := by
  unfold writeState applyPlayerState applyProjectileState
  cases state.replication.kind with
  | player => cases state.combat <;> exact ⟨rfl, rfl, rfl, rfl, rfl⟩
  | projectile => exact ⟨rfl, rfl, rfl, rfl, rfl⟩

theorem write_state_stated (config : SimulationConfig) (serverTimeMs : TimestampMs)
    (clientId : ClientId) (state : EntityStateDTO) (row : Components)
    (named : row.identity = some { id := state.movement.entityId })
    (full : state.combat.isSome) (kept : state.replication.kind = .projectile → row.player = none) :
    StatedBy state (writeState config serverTimeMs clientId state row) := by
  obtain ⟨identity, transform, velocity, aim, owner⟩ :=
    write_state_placed config serverTimeMs clientId state row
  obtain ⟨combat, isCombat⟩ := Option.isSome_iff_exists.mp full
  refine ⟨identity.trans named, ?_, owner, ?_, ?_, ?_, ?_⟩
  · unfold movementState
    rw [identity, named, transform, velocity, aim]
    rfl
  · unfold writeState applyPlayerState applyProjectileState
    cases kind : state.replication.kind with
    | player => simp [isCombat]
    | projectile => simp [kept kind]
  · intro other isOther isPlayer
    unfold writeState applyPlayerState
    rw [isPlayer, isOther]
  · intro other isOther isPlayer
    unfold writeState applyPlayerState
    rw [isPlayer, isOther]
    exact ⟨_, rfl, rfl, rfl, rfl⟩
  · intro other isOther isProjectile
    unfold writeState applyProjectileState
    rw [isProjectile, isOther]
    exact ⟨_, rfl, rfl, rfl⟩

/-- Writing a state twice is writing it once. -/
theorem write_state_twice (config : SimulationConfig) (serverTimeMs : TimestampMs)
    (clientId : ClientId) (state : EntityStateDTO) (row : Components) :
    writeState config serverTimeMs clientId state (writeState config serverTimeMs clientId state row) =
      writeState config serverTimeMs clientId state row := by
  unfold writeState applyPlayerState applyProjectileState
  cases state.replication.kind with
  | player => cases state.combat <;> simp
  | projectile => simp

/-- A row that stands where the state says tells of no movement. -/
theorem write_state_quiet (clientId : ClientId) (state : EntityStateDTO) (row written : Components)
    (placed : row.transform = some { x := state.movement.x, y := state.movement.y }) :
    writeStateEvents clientId state row written = [] := by
  unfold writeStateEvents
  simp [placed]

/-! Writing the states. -/

/-- What writing a state tells of interest. -/
theorem apply_state_events (serverTimeMs : TimestampMs) (clientId : ClientId)
    (sim : GameSimulation) (state : EntityStateDTO) :
    ∃ added, (applyEntityState serverTimeMs clientId sim state).events = sim.events ++ added ∧
      added.filterMap enteredOf =
        (if sim.entityFor state.movement.entityId = none then
          [(state.movement.entityId, clientId)] else []) ∧
      added.filterMap leftOf = [] := by
  have moves (row written : Components) (event : DomainEvent)
      (member : event ∈ writeStateEvents clientId state row written) :
      enteredOf event = none ∧ leftOf event = none := by
    unfold writeStateEvents at member
    rcases List.mem_append.mp member with corrected | moved
    · split at corrected
      · rw [List.mem_singleton.mp corrected]
        exact ⟨rfl, rfl⟩
      · cases corrected
    · split at moved
      · rw [List.mem_singleton.mp moved]
        exact ⟨rfl, rfl⟩
      · cases moved
  have players (before : GameSimulation) : (enterPlayer before state).events = before.events := by
    unfold enterPlayer
    split
    · rfl
    · rfl
  unfold applyEntityState
  dsimp only
  cases known : sim.entityFor state.movement.entityId with
  | some entity =>
      dsimp only
      rw [players]
      have queued := update_entity_queued (fun row =>
        (writeState sim.config serverTimeMs clientId state row,
          writeStateEvents clientId state row
            (writeState sim.config serverTimeMs clientId state row))) sim entity
      have quiet : ∀ event ∈ ((sim.registry.get? entity).map fun row =>
          writeStateEvents clientId state row
            (writeState sim.config serverTimeMs clientId state row)).getD [],
          enteredOf event = none ∧ leftOf event = none := by
        intro event member
        cases isRow : sim.registry.get? entity with
        | none =>
            rw [isRow] at member
            cases member
        | some row =>
            rw [isRow] at member
            exact moves row _ event member
      refine ⟨_, queued, ?_, ?_⟩
      · rw [if_neg (by simp)]
        exact List.filterMap_eq_nil_iff.mpr fun event member => (quiet event member).1
      · exact List.filterMap_eq_nil_iff.mpr fun event member => (quiet event member).2
  | none =>
      dsimp only
      rw [players]
      have queued := update_entity_quiet (writeState sim.config serverTimeMs clientId state)
        (enterInterest clientId sim state.movement.entityId) sim.registry.created
      refine ⟨[.entityEnteredInterest { entityId := state.movement.entityId,
                                        observerClientId := clientId }],
        Eq.trans queued (List.append_nil _), ?_, rfl⟩
      rw [if_pos rfl]
      rfl

/-- The simulation after these states, of different entities, are written to `start`. -/
structure Overwritten (serverTimeMs : TimestampMs) (clientId : ClientId) (start : GameSimulation)
    (sent : List EntityStateDTO) (sim : GameSimulation) : Prop where
  config : sim.config = start.config
  named : Named sim
  unsent : ∀ id : NetworkEntityId, ¬ Sends sent id →
    sim.entityByNetworkId[id]? = start.entityByNetworkId[id]?
  kept : ∀ entity row, start.registry.get? entity = some row →
    (∀ id : NetworkEntityId, Sends sent id → start.entityByNetworkId[id]? ≠ some entity) →
    sim.registry.get? entity = some row
  origin : ∀ entity row, sim.registry.get? entity = some row →
    (∃ id : NetworkEntityId, Sends sent id ∧ sim.entityByNetworkId[id]? = some entity) ∨
    start.registry.get? entity = some row ∧
      ∀ id : NetworkEntityId, Sends sent id → start.entityByNetworkId[id]? ≠ some entity
  written : ∀ state ∈ sent, ∃ row,
    (heldRow start state.movement.entityId = some row ∨
      row = { identity := some { id := state.movement.entityId } }) ∧
    row.identity = some { id := state.movement.entityId } ∧
    heldRow sim state.movement.entityId =
      some (writeState start.config serverTimeMs clientId state row)
  players : ∀ owner, sim.playerByClient[owner]? =
    if owner = 0 then start.playerByClient[owner]?
    else ((lastOwn owner sent).map fun state => state.movement.entityId).or
      start.playerByClient[owner]?
  events : ∃ added, sim.events = start.events ++ added ∧
    added.filterMap enteredOf =
      (sent.filter fun state => start.entityFor state.movement.entityId = none).map
        (fun state => (state.movement.entityId, clientId)) ∧
    added.filterMap leftOf = []

section Writing

variable {serverTimeMs : TimestampMs} {clientId : ClientId} {start before : GameSimulation}
variable {sent : List EntityStateDTO} {state : EntityStateDTO}

theorem overwritten_start (named : Named start) :
    Overwritten serverTimeMs clientId start [] start where
  config := rfl
  named := named
  unsent := fun _ _ => rfl
  kept := fun _ _ present _ => present
  origin := by
    intro entity row present
    refine Or.inr ⟨present, ?_⟩
    rintro id ⟨state, member, _⟩
    cases member
  written := by
    intro state member
    cases member
  players := by
    intro owner
    split
    · rfl
    · rfl
  events := ⟨[], (List.append_nil _).symm, rfl, rfl⟩

/-- The row a fresh state is written over stood under its id at the start, or is new. -/
theorem fresh_target (wrote : Overwritten serverTimeMs clientId start sent before)
    (fresh : ¬ Sends sent state.movement.entityId) {entity : Entity} {row : Components}
    (target : TargetRow before state.movement.entityId entity row) :
    (start.entityByNetworkId[state.movement.entityId]? = some entity ∧
        start.registry.get? entity = some row) ∨
      (start.entityByNetworkId[state.movement.entityId]? = none ∧
        entity = before.registry.created ∧
        row = { identity := some { id := state.movement.entityId } }) := by
  have same := wrote.unsent _ fresh
  rcases target with ⟨known, isRow⟩ | ⟨unknown, isNew, isRow⟩
  · rw [same] at known
    refine Or.inl ⟨known, ?_⟩
    rcases wrote.origin entity row isRow with ⟨id, wasSent, entry⟩ | ⟨atStart, _⟩
    · have sameId := named_injective wrote.named entry (same.trans known)
      rw [sameId] at wasSent
      exact absurd wasSent fresh
    · exact atStart
  · rw [same] at unknown
    exact Or.inr ⟨unknown, isNew, isRow⟩

/-- The player table has the last own state of each client. -/
theorem players_written (wrote : Overwritten serverTimeMs clientId start sent before)
    {after : GameSimulation} {entity : Entity} {row : Components}
    (writes : Writes serverTimeMs clientId before state after entity row) (owner : ClientId) :
    after.playerByClient[owner]? =
      if owner = 0 then start.playerByClient[owner]?
      else ((lastOwn owner (sent ++ [state])).map fun state => state.movement.entityId).or
        start.playerByClient[owner]? := by
  have before := wrote.players owner
  rw [writes.players]
  by_cases isZero : owner = 0
  · rw [if_pos isZero] at before ⊢
    split
    · next isPlayer =>
        rw [get_insert, if_neg, before]
        exact fun same => isPlayer.2 (same.trans isZero)
    · exact before
  · rw [if_neg isZero] at before ⊢
    unfold lastOwn at before ⊢
    rw [last_concat]
    by_cases isOwn : ownedByLocalPlayer owner state = true
    · obtain ⟨isOwner, isPlayer⟩ := (own_iff owner state).mp isOwn
      rw [if_pos isOwn, if_pos ⟨isPlayer, isOwner ▸ isZero⟩, isOwner, get_insert, if_pos rfl]
      rfl
    · rw [if_neg isOwn, ← before]
      split
      · next isPlayer =>
          rw [get_insert, if_neg]
          exact fun isOwner => isOwn ((own_iff owner state).mpr ⟨isOwner, isPlayer.1⟩)
      · rfl

/-- A row is the one written under a sent id, or it stood there at the start. -/
theorem origin_written (wrote : Overwritten serverTimeMs clientId start sent before)
    (fresh : ¬ Sends sent state.movement.entityId) {after : GameSimulation} {entity : Entity}
    {row : Components} (writes : Writes serverTimeMs clientId before state after entity row)
    {other : Entity} {otherRow : Components}
    (present : after.registry.get? other = some otherRow) :
    (∃ id : NetworkEntityId, Sends (sent ++ [state]) id ∧
        after.entityByNetworkId[id]? = some other) ∨
      start.registry.get? other = some otherRow ∧
        ∀ id : NetworkEntityId, Sends (sent ++ [state]) id →
          start.entityByNetworkId[id]? ≠ some other := by
  rw [writes.rows] at present
  by_cases isTarget : other = entity
  · refine Or.inl ⟨state.movement.entityId, (sends_concat sent state _).mpr (Or.inr rfl), ?_⟩
    rw [writes.table, if_pos rfl, isTarget]
  · rw [if_neg isTarget] at present
    rcases wrote.origin other otherRow present with ⟨id, wasSent, entry⟩ | ⟨atStart, unsent⟩
    · refine Or.inl ⟨id, (sends_concat sent state id).mpr (Or.inl wasSent), ?_⟩
      rw [writes.table, if_neg, entry]
      rintro rfl
      exact fresh wasSent
    · refine Or.inr ⟨atStart, fun id isSent entry => ?_⟩
      rcases (sends_concat sent state id).mp isSent with wasSent | rfl
      · exact unsent id wasSent entry
      · rcases fresh_target wrote fresh writes.target with ⟨known, _⟩ | ⟨unknown, _⟩
        · exact isTarget (Option.some.inj (entry.symm.trans known))
        · exact absurd (unknown.symm.trans entry) (by simp)

/-- Every sent state is written over what stood under its id at the start. -/
theorem states_written (wrote : Overwritten serverTimeMs clientId start sent before)
    (fresh : ¬ Sends sent state.movement.entityId) {after : GameSimulation} {entity : Entity}
    {row : Components} (writes : Writes serverTimeMs clientId before state after entity row)
    {other : EntityStateDTO} (member : other ∈ sent ++ [state]) :
    ∃ row, (heldRow start other.movement.entityId = some row ∨
        row = { identity := some { id := other.movement.entityId } }) ∧
      row.identity = some { id := other.movement.entityId } ∧
      heldRow after other.movement.entityId =
        some (writeState start.config serverTimeMs clientId other row) := by
  rcases List.mem_append.mp member with old | new
  · obtain ⟨otherRow, stood, named, held⟩ := wrote.written other old
    refine ⟨otherRow, stood, named, ?_⟩
    obtain ⟨found, entry, present⟩ := Option.bind_eq_some_iff.mp held
    have different : state.movement.entityId ≠ other.movement.entityId :=
      fun same => fresh ⟨other, old, same.symm⟩
    obtain ⟨_, still, kept⟩ := writes_other writes wrote.named different entry
    unfold heldRow
    rw [still, Option.bind_some, kept, present]
  · rw [List.mem_singleton.mp new]
    refine ⟨row, ?_, writes.named, ?_⟩
    · rcases fresh_target wrote fresh writes.target with ⟨known, atStart⟩ | ⟨_, _, isNew⟩
      · refine Or.inl ?_
        unfold heldRow
        rw [known, Option.bind_some, atStart]
      · exact Or.inr isNew
    · unfold heldRow
      rw [writes.table, if_pos rfl, Option.bind_some, writes.rows, if_pos rfl, wrote.config]

theorem overwritten_step (wrote : Overwritten serverTimeMs clientId start sent before)
    (fresh : ¬ Sends sent state.movement.entityId) :
    Overwritten serverTimeMs clientId start (sent ++ [state])
      (applyEntityState serverTimeMs clientId before state) := by
  obtain ⟨entity, row, writes⟩ := apply_state_writes serverTimeMs clientId before state wrote.named
  obtain ⟨told, queued, entered, left⟩ := apply_state_events serverTimeMs clientId before state
  generalize applyEntityState serverTimeMs clientId before state = after at writes queued ⊢
  constructor
  case config => exact writes.config.trans wrote.config
  case named => exact writes_named writes wrote.named
  case unsent =>
    intro id notSent
    rw [sends_concat, not_or] at notSent
    rw [writes.table, if_neg notSent.2]
    exact wrote.unsent id notSent.1
  case kept =>
    intro other otherRow present unsent
    have stays := wrote.kept other otherRow present fun id wasSent =>
      unsent id ((sends_concat sent state id).mpr (Or.inl wasSent))
    have apart : other ≠ entity := by
      rintro rfl
      rcases fresh_target wrote fresh writes.target with ⟨known, _⟩ | ⟨_, isNew, _⟩
      · exact unsent _ ((sends_concat sent state _).mpr (Or.inr rfl)) known
      · exact absurd isNew (Nat.ne_of_lt (before.registry.get?_lt stays))
    rw [writes.rows, if_neg apart]
    exact stays
  case origin => exact fun _ _ present => origin_written wrote fresh writes present
  case written => exact fun _ member => states_written wrote fresh writes member
  case players => exact fun owner => players_written wrote writes owner
  case events =>
    obtain ⟨added, earlier, enteredEarlier, leftEarlier⟩ := wrote.events
    have same : before.entityFor state.movement.entityId =
        start.entityFor state.movement.entityId := wrote.unsent _ fresh
    refine ⟨added ++ told, ?_, ?_, ?_⟩
    · rw [queued, earlier, List.append_assoc]
    · rw [List.filterMap_append, enteredEarlier, entered, List.filter_append, List.map_append, same]
      congr 1
      by_cases absent : start.entityFor state.movement.entityId = none
      · simp [absent]
      · simp [absent]
    · rw [List.filterMap_append, leftEarlier, left]
      rfl

/-- All states of a snapshot without repeated ids are written. -/
theorem all_overwritten (serverTimeMs : TimestampMs) (clientId : ClientId) (named : Named start)
    (states : List EntityStateDTO)
    (distinct : (states.map fun state => state.movement.entityId).Nodup) :
    Overwritten serverTimeMs clientId start states
      (states.foldl (applyEntityState serverTimeMs clientId) start) := by
  induction states using List.reverseRecOn with
  | nil => exact overwritten_start named
  | append_singleton sent state ih =>
      rw [List.map_append, List.nodup_append] at distinct
      have fresh : ¬ Sends sent state.movement.entityId := by
        rintro ⟨other, member, same⟩
        exact distinct.2.2 _ (List.mem_map_of_mem member) _ List.mem_cons_self same
      rw [List.foldl_concat]
      exact overwritten_step (ih distinct.1) fresh

end Writing

/-! Leaving. -/

/-- Whoever an entity leaves for, the same entries are erased. -/
theorem leave_players (clientId owner : ClientId) (ids : List NetworkEntityId)
    (sim other : GameSimulation) (alike : ∃ events, other = { sim with events := events }) :
    (ids.foldl (leaveInterest clientId) sim).playerByClient =
      (ids.foldl (leaveInterest owner) other).playerByClient := by
  induction ids generalizing sim other with
  | nil =>
      obtain ⟨events, rfl⟩ := alike
      rfl
  | cons id rest ih =>
      apply ih
      obtain ⟨events, rfl⟩ := alike
      have same : ({ sim with events := events } : GameSimulation).entityFor id =
          sim.entityFor id := rfl
      unfold leaveInterest
      rw [same]
      cases sim.entityFor id with
      | none => exact ⟨events, rfl⟩
      | some entity => exact ⟨_, rfl⟩

/-- Entities that are present tell once that they leave. -/
theorem leave_events (clientId : ClientId) (ids : List NetworkEntityId) (sim : GameSimulation)
    (distinct : ids.Nodup) (present : ∀ id ∈ ids, sim.entityFor id ≠ none) :
    (ids.foldl (leaveInterest clientId) sim).events =
      sim.events ++ ids.map fun id =>
        .entityLeftInterest { entityId := id, observerClientId := clientId } := by
  induction ids generalizing sim with
  | nil => simp
  | cons id rest ih =>
      obtain ⟨fresh, restDistinct⟩ := List.nodup_cons.mp distinct
      obtain ⟨entity, entry⟩ := Option.ne_none_iff_exists'.mp (present id List.mem_cons_self)
      rw [List.foldl_cons, ih _ restDistinct]
      · unfold leaveInterest
        rw [entry]
        simp
      · intro other member
        have still := present other (List.mem_cons_of_mem id member)
        unfold leaveInterest
        rw [entry]
        unfold entityFor at still ⊢
        dsimp only
        rw [get_erase, if_neg]
        · exact still
        · rintro rfl
          exact fresh member

/-- The ids of the entities that leave. -/
def leavingIds (order : LoopOrder) (clientId : ClientId) (snapshot : SnapshotDTO)
    (written : GameSimulation) : List NetworkEntityId :=
  ((order.arrange .leavingInterest written.entityByNetworkId.toList).filter
    (leavesInterest written clientId snapshot)).map fun entry => entry.1

theorem leaving_distinct (order : LoopOrder) (clientId : ClientId) (snapshot : SnapshotDTO)
    (written : GameSimulation) : (leavingIds order clientId snapshot written).Nodup := by
  have keys : (written.entityByNetworkId.toList.map fun entry => entry.1).Nodup := by
    have same : written.entityByNetworkId.toList.map Prod.fst = written.entityByNetworkId.keys :=
      Std.ExtTreeMap.map_fst_toList_eq_keys
    rw [same]
    exact Std.ExtTreeMap.nodup_keys
  have arranged := ((order.arrange_perm .leavingInterest
    written.entityByNetworkId.toList).map fun entry => entry.1).nodup_iff.mpr keys
  exact (List.filter_sublist.map _).nodup arranged

theorem leaving_present (order : LoopOrder) (clientId : ClientId) (snapshot : SnapshotDTO)
    (written : GameSimulation) :
    ∀ id ∈ leavingIds order clientId snapshot written, written.entityFor id ≠ none := by
  intro id member
  obtain ⟨⟨found, entity⟩, isLeaving, rfl⟩ := List.mem_map.mp member
  have isEntry := (List.mem_filter.mp isLeaving).1
  rw [IterationOrder.mem_arrange, Std.ExtTreeMap.mem_toList_iff_getElem?_eq_some] at isEntry
  unfold entityFor
  rw [isEntry]
  simp

/-! Applying the snapshot. -/

/-- What applying a snapshot is made of. -/
structure Applied (clientId : ClientId) (start : GameSimulation) (snapshot : SnapshotDTO)
    (written final : GameSimulation) (ids : List NetworkEntityId) : Prop where
  wrote : Overwritten snapshot.serverTimeMs clientId start snapshot.entities written
  leavers : Leavers clientId snapshot written ids
  left : Left clientId ids written final
  present : ∀ id ∈ ids, written.entityFor id ≠ none
  distinct : ids.Nodup
  config : final.config = start.config
  players : ∀ owner, final.playerByClient[owner]? =
    if ∃ id ∈ ids, (heldRow written id).bind heldClient = some owner then none
    else written.playerByClient[owner]?
  events : final.events = written.events ++ ids.map fun id =>
    .entityLeftInterest { entityId := id, observerClientId := clientId }

theorem apply_snapshot_applied (order : LoopOrder) (clientId : ClientId) {start : GameSimulation}
    (named : Named start) (snapshot : SnapshotDTO)
    (distinct : (snapshot.entities.map fun state => state.movement.entityId).Nodup) :
    ∃ written final ids, Applied clientId start snapshot written final ids ∧
      applySnapshot order start snapshot clientId = final.queueEvent (appliedEvent snapshot) := by
  have wrote := all_overwritten snapshot.serverTimeMs clientId named snapshot.entities distinct
  generalize isWritten : snapshot.entities.foldl
    (applyEntityState snapshot.serverTimeMs clientId) start = written at wrote
  refine ⟨written, (leavingIds order clientId snapshot written).foldl (leaveInterest clientId) written,
    leavingIds order clientId snapshot written, ?_, by rw [← isWritten]; rfl⟩
  have config : _ = start.config := apply_snapshot_config order start snapshot clientId
  unfold applySnapshot at config
  rw [isWritten] at config
  refine ⟨wrote, leaving_leavers order clientId snapshot _, all_left clientId wrote.named _,
    leaving_present order clientId snapshot _, leaving_distinct order clientId snapshot _, config,
    ?_, leave_events clientId _ _ (leaving_distinct order clientId snapshot _)
      (leaving_present order clientId snapshot _)⟩
  intro owner
  rw [leave_players clientId owner _ _ _ ⟨_, rfl⟩]
  exact (all_left owner wrote.named _).entry

section Parts

variable {clientId : ClientId} {start written final : GameSimulation} {snapshot : SnapshotDTO}
variable {ids : List NetworkEntityId}

theorem sent_stays (applied : Applied clientId start snapshot written final ids)
    {id : NetworkEntityId} (stays : id ∉ ids) :
    final.entityFor id = written.entityFor id ∧ heldRow final id = heldRow written id := by
  have entry : final.entityByNetworkId[id]? = written.entityByNetworkId[id]? := by
    rw [applied.left.table, if_neg stays]
  refine ⟨entry, ?_⟩
  unfold heldRow
  rw [entry]
  cases known : written.entityByNetworkId[id]? with
  | none => rfl
  | some entity =>
      rw [Option.bind_some, Option.bind_some]
      ext row
      rw [applied.left.rows entity row]
      refine ⟨fun still => still.1, fun present => ⟨present, fun other isLeaving entry => ?_⟩⟩
      rw [named_injective applied.wrote.named entry known] at isLeaving
      exact stays isLeaving

theorem sent_not_leaving (applied : Applied clientId start snapshot written final ids)
    {id : NetworkEntityId} (isSent : Sends snapshot.entities id) : id ∉ ids :=
  fun isLeaving => (applied.leavers.only id isLeaving).1 isSent

/-- Under an id that is not sent stands what stood there before. -/
theorem unsent_held (applied : Applied clientId start snapshot written final ids)
    (named : Named start) {id : NetworkEntityId} (notSent : ¬ Sends snapshot.entities id) :
    heldRow written id = heldRow start id := by
  have same := applied.wrote.unsent id notSent
  unfold heldRow
  rw [same]
  cases known : start.entityByNetworkId[id]? with
  | none => rfl
  | some entity =>
      obtain ⟨row, present, _⟩ := named id entity known
      rw [Option.bind_some, Option.bind_some, present]
      apply applied.wrote.kept entity row present
      intro other isSent entry
      rw [named_injective named entry known] at isSent
      exact notSent isSent

/-- A sent state stands as it was written. -/
theorem sent_written (applied : Applied clientId start snapshot written final ids)
    {state : EntityStateDTO} (member : state ∈ snapshot.entities) :
    ∃ row, (heldRow start state.movement.entityId = some row ∨
        row = { identity := some { id := state.movement.entityId } }) ∧
      row.identity = some { id := state.movement.entityId } ∧
      heldRow final state.movement.entityId =
        some (writeState start.config snapshot.serverTimeMs clientId state row) := by
  obtain ⟨row, stood, named, held⟩ := applied.wrote.written state member
  have stays := sent_not_leaving applied ⟨state, member, rfl⟩
  exact ⟨row, stood, named, (sent_stays applied stays).2.trans held⟩

theorem sent_stated (applied : Applied clientId start snapshot written final ids)
    (well : WellFormed start snapshot) {state : EntityStateDTO}
    (member : state ∈ snapshot.entities) :
    ∃ row, heldRow final state.movement.entityId = some row ∧ StatedBy state row := by
  obtain ⟨row, stood, named, held⟩ := sent_written applied member
  obtain ⟨combat, isCombat, _⟩ := well.combat state member
  refine ⟨_, held, write_state_stated _ _ _ state row named (by rw [isCombat]; rfl) ?_⟩
  intro isProjectile
  rcases stood with atStart | isNew
  · have kinds := well.kinds state member row atStart
    rw [isProjectile] at kinds
    cases isPlayer : row.player with
    | none => rfl
    | some player =>
        rw [isPlayer] at kinds
        exact absurd (kinds.mpr rfl) (by simp)
  · rw [isNew]

/-- The last state of an owner is its only one. -/
theorem last_own_sent (well : WellFormed start snapshot) {owner : ClientId} (nonzero : owner ≠ 0)
    {state : EntityStateDTO} (member : state ∈ snapshot.entities)
    (isOwn : ownedByLocalPlayer owner state = true) :
    lastOwn owner snapshot.entities = some state := by
  cases isLast : lastOwn owner snapshot.entities with
  | none =>
      rw [lastOwn, last_none_iff] at isLast
      exact absurd ((isLast state member).symm.trans isOwn) (by simp)
  | some last =>
      obtain ⟨isMember, lastOwns⟩ := last_mem isLast
      rw [well.players owner nonzero last isMember state member lastOwns isOwn]

/-- An entry of the table leads to a row. -/
theorem held_of_entry {sim : GameSimulation} (named : Named sim) {id : NetworkEntityId}
    (present : sim.entityFor id ≠ none) : ∃ row, heldRow sim id = some row := by
  obtain ⟨entity, entry⟩ := Option.ne_none_iff_exists'.mp present
  obtain ⟨row, isRow, _⟩ := named id entity entry
  refine ⟨row, ?_⟩
  unfold heldRow
  rw [show sim.entityByNetworkId[id]? = some entity from entry, Option.bind_some, isRow]

theorem entry_of_held {sim : GameSimulation} {id : NetworkEntityId} {row : Components}
    (held : heldRow sim id = some row) : sim.entityFor id ≠ none := by
  obtain ⟨entity, entry, _⟩ := Option.bind_eq_some_iff.mp held
  rw [show sim.entityFor id = some entity from entry]
  simp

/-- The entities that leave are the ones of others that are not sent. -/
theorem leaving_iff (applied : Applied clientId start snapshot written final ids)
    (named : Named start) (id : NetworkEntityId) :
    id ∈ ids ↔ ¬ Sends snapshot.entities id ∧
      ∃ row, heldRow start id = some row ∧ row.ownedBy ≠ some { clientId := clientId } := by
  constructor
  · intro isLeaving
    obtain ⟨notSent, notOwned⟩ := applied.leavers.only id isLeaving
    obtain ⟨row, held⟩ := held_of_entry applied.wrote.named (applied.present id isLeaving)
    obtain ⟨entity, entry, present⟩ := Option.bind_eq_some_iff.mp held
    exact ⟨notSent, row, (unsent_held applied named notSent).symm.trans held,
      notOwned entity row entry present⟩
  · rintro ⟨notSent, row, held, notOwned⟩
    have still := (unsent_held applied named notSent).trans held
    obtain ⟨entity, entry, present⟩ := Option.bind_eq_some_iff.mp still
    exact applied.leavers.all id entity row entry present notSent notOwned

/-- The owner's entry names the player that was sent unless an old one leaves. -/
theorem applied_players (applied : Applied clientId start snapshot written final ids)
    (named : Named start) (well : WellFormed start snapshot) {owner : ClientId} (nonzero : owner ≠ 0)
    {state : EntityStateDTO} (member : state ∈ snapshot.entities)
    (isOwn : ownedByLocalPlayer owner state = true) :
    final.playerByClient[owner]? = some state.movement.entityId ↔
      ∀ id row, heldRow start id = some row → ¬ Sends snapshot.entities id →
        row.ownedBy ≠ some { clientId := clientId } → heldClient row ≠ some owner := by
  rw [applied.players, applied.wrote.players, if_neg nonzero,
    last_own_sent well nonzero member isOwn]
  constructor
  · intro entry id row held notSent notOwned client
    rw [if_pos] at entry
    · cases entry
    · refine ⟨id, (leaving_iff applied named id).mpr ⟨notSent, row, held, notOwned⟩, ?_⟩
      rw [unsent_held applied named notSent, held]
      exact client
  · intro noneLeaves
    rw [if_neg]
    · rfl
    · rintro ⟨id, isLeaving, client⟩
      obtain ⟨notSent, row, held, notOwned⟩ := (leaving_iff applied named id).mp isLeaving
      rw [unsent_held applied named notSent, held] at client
      exact noneLeaves id row held notSent notOwned client

/-- What is left was sent, or is the client's own, or was missed by the table. -/
theorem left_origin (applied : Applied clientId start snapshot written final ids)
    (named : Named start) {entity : Entity} {row : Components}
    (present : final.registry.get? entity = some row) :
    (∃ id, row.identity = some { id := id } ∧ Sends snapshot.entities id) ∨
      row.ownedBy = some { clientId := clientId } ∨
      start.registry.get? entity = some row ∧
        ∀ id : NetworkEntityId, start.entityByNetworkId[id]? ≠ some entity := by
  obtain ⟨isRow, stayed⟩ := (applied.left.rows entity row).mp present
  rcases applied.wrote.origin entity row isRow with ⟨id, isSent, entry⟩ | ⟨atStart, unnamed⟩
  · exact Or.inl ⟨id, carries applied.wrote.named entry isRow, isSent⟩
  · by_cases isOwned : row.ownedBy = some { clientId := clientId }
    · exact Or.inr (Or.inl isOwned)
    · refine Or.inr (Or.inr ⟨atStart, fun id entry => ?_⟩)
      have notSent : ¬ Sends snapshot.entities id := fun isSent => unnamed id isSent entry
      have held : heldRow start id = some row := by
        unfold heldRow
        rw [entry, Option.bind_some, atStart]
      have isLeaving := (leaving_iff applied named id).mpr ⟨notSent, row, held, isOwned⟩
      exact stayed id isLeaving ((applied.wrote.unsent id notSent).trans entry)

/-- Every sent entity is there. -/
theorem sent_present (applied : Applied clientId start snapshot written final ids)
    {id : NetworkEntityId} (isSent : Sends snapshot.entities id) : final.entityFor id ≠ none := by
  obtain ⟨state, member, rfl⟩ := isSent
  obtain ⟨row, _, _, held⟩ := sent_written applied member
  exact entry_of_held held

/-- Of the entities that are not sent those stay that do not leave. -/
theorem unsent_entry (applied : Applied clientId start snapshot written final ids)
    {id : NetworkEntityId} (notSent : ¬ Sends snapshot.entities id) :
    final.entityFor id = if id ∈ ids then none else start.entityFor id := by
  unfold entityFor
  rw [applied.left.table, applied.wrote.unsent id notSent]

theorem entered_iff (applied : Applied clientId start snapshot written final ids)
    (id : NetworkEntityId) (observer : ClientId) :
    (id, observer) ∈ (snapshot.entities.filter fun state =>
        start.entityFor state.movement.entityId = none).map
          (fun state => (state.movement.entityId, clientId)) ↔
      observer = clientId ∧ start.entityFor id = none ∧ final.entityFor id ≠ none := by
  constructor
  · intro isEntered
    obtain ⟨state, isFresh, same⟩ := List.mem_map.mp isEntered
    obtain ⟨member, absent⟩ := List.mem_filter.mp isFresh
    cases same
    exact ⟨rfl, of_decide_eq_true absent, sent_present applied ⟨state, member, rfl⟩⟩
  · rintro ⟨rfl, absent, isPresent⟩
    by_cases isSent : Sends snapshot.entities id
    · obtain ⟨state, member, rfl⟩ := isSent
      exact List.mem_map.mpr ⟨state, List.mem_filter.mpr ⟨member, decide_eq_true absent⟩, rfl⟩
    · -- What is neither sent nor there before is not there now.
      refine absurd ?_ isPresent
      refine (unsent_entry applied isSent).trans ?_
      rw [absent]
      exact ite_self none

theorem left_iff (applied : Applied clientId start snapshot written final ids)
    (named : Named start) (id : NetworkEntityId) (observer : ClientId) :
    (id, observer) ∈ ids.map (fun id => (id, clientId)) ↔
      observer = clientId ∧ start.entityFor id ≠ none ∧ final.entityFor id = none := by
  constructor
  · intro hasLeft
    obtain ⟨other, isLeaving, same⟩ := List.mem_map.mp hasLeft
    cases same
    obtain ⟨notSent, row, held, _⟩ := (leaving_iff applied named id).mp isLeaving
    exact ⟨rfl, entry_of_held held, (unsent_entry applied notSent).trans (if_pos isLeaving)⟩
  · rintro ⟨rfl, wasPresent, isAbsent⟩
    refine List.mem_map.mpr ⟨id, ?_, rfl⟩
    have notSent : ¬ Sends snapshot.entities id := fun isSent =>
      sent_present applied isSent isAbsent
    by_cases isLeaving : id ∈ ids
    · exact isLeaving
    · have kept := unsent_entry applied notSent
      rw [if_neg isLeaving] at kept
      exact absurd (kept.symm.trans isAbsent) wasPresent

theorem applied_events (applied : Applied clientId start snapshot written final ids)
    (named : Named start)
    (distinct : (snapshot.entities.map fun state => state.movement.entityId).Nodup) :
    ∃ added, InterestEvents clientId start (final.queueEvent (appliedEvent snapshot)) added := by
  obtain ⟨told, queued, entered, left⟩ := applied.wrote.events
  let leaves := ids.map fun id : NetworkEntityId =>
    (.entityLeftInterest { entityId := id, observerClientId := clientId } : DomainEvent)
  have leavesEntered : leaves.filterMap enteredOf = [] :=
    List.filterMap_eq_nil_iff.mpr fun event member => by
      obtain ⟨id, _, rfl⟩ := List.mem_map.mp member
      rfl
  have leavesLeft : leaves.filterMap leftOf = ids.map fun id => (id, clientId) := by
    unfold leaves
    rw [List.filterMap_map]
    exact congrFun List.filterMap_eq_map ids
  have allEntered : (told ++ leaves ++ [appliedEvent snapshot]).filterMap enteredOf =
      (snapshot.entities.filter fun state => start.entityFor state.movement.entityId = none).map
        fun state => (state.movement.entityId, clientId) := by
    rw [List.filterMap_append, List.filterMap_append, entered, leavesEntered, List.append_nil]
    exact List.append_nil _
  have allLeft : (told ++ leaves ++ [appliedEvent snapshot]).filterMap leftOf =
      ids.map fun id => (id, clientId) := by
    rw [List.filterMap_append, List.filterMap_append, left, leavesLeft, List.nil_append]
    exact List.append_nil _
  have enteredNow := entered_iff applied
  have leftNow := left_iff applied named
  refine ⟨told ++ leaves ++ [appliedEvent snapshot], ?_, ?_, ?_, ?_, ?_⟩
  · change final.events ++ [appliedEvent snapshot] = _
    rw [applied.events, queued, List.append_assoc, List.append_assoc, List.append_assoc]
  · rw [allEntered]
    apply List.Nodup.of_map Prod.fst
    rw [List.map_map]
    exact (List.filter_sublist.map fun state : EntityStateDTO => state.movement.entityId).nodup
      distinct
  · rw [allEntered]
    exact enteredNow
  · rw [allLeft]
    apply List.Nodup.of_map Prod.fst
    rw [List.map_map]
    exact (List.map_id ids).symm ▸ applied.distinct
  · rw [allLeft]
    exact leftNow

end Parts

/-! Applying it again. -/

theorem insert_same {table : UnorderedMap ClientId NetworkEntityId} {owner : ClientId}
    {id : NetworkEntityId} (entry : table[owner]? = some id) : table.insert owner id = table := by
  apply Std.ExtTreeMap.ext_getElem?
  intro other
  rw [get_insert]
  by_cases same : owner = other
  · rw [if_pos same, ← same, entry]
  · rw [if_neg same]

/-- Writing a state where it already stands does nothing. -/
theorem apply_state_fixed (serverTimeMs : TimestampMs) (clientId : ClientId)
    {sim : GameSimulation} {state : EntityStateDTO} {row : Components}
    (held : heldRow sim state.movement.entityId = some row)
    (same : writeState sim.config serverTimeMs clientId state row = row)
    (entry : ownedByLocalPlayer state.replication.ownerClientId state = true →
      state.replication.ownerClientId ≠ 0 →
      sim.playerByClient[state.replication.ownerClientId]? = some state.movement.entityId) :
    applyEntityState serverTimeMs clientId sim state = sim := by
  obtain ⟨entity, known, present⟩ := Option.bind_eq_some_iff.mp held
  have placed := (write_state_placed sim.config serverTimeMs clientId state row).2.1
  rw [same] at placed
  have kept : sim.updateEntity (fun row =>
      (writeState sim.config serverTimeMs clientId state row,
        writeStateEvents clientId state row
          (writeState sim.config serverTimeMs clientId state row))) entity = sim := by
    have registry : sim.registry.modify entity
        (writeState sim.config serverTimeMs clientId state) = sim.registry := by
      refine Registry.rows_ext rfl fun other => ?_
      rw [Registry.get?_modify]
      by_cases isEntity : other = entity
      · rw [if_pos isEntity, isEntity, present, Option.map_some, same]
      · rw [if_neg isEntity]
    rw [update_present sim _ present]
    dsimp only
    rw [registry, same, write_state_quiet clientId state row row placed, List.append_nil]
  unfold applyEntityState
  rw [show sim.entityFor state.movement.entityId = some entity from known]
  dsimp only
  rw [kept]
  unfold enterPlayer
  split
  · next isPlayer =>
      have isOwn := (own_iff state.replication.ownerClientId state).mpr ⟨rfl, isPlayer.1⟩
      rw [insert_same (entry isOwn isPlayer.2)]
  · rfl

/-- A simulation in which every state stands and nothing is left to leave. -/
theorem apply_snapshot_fixed (order : LoopOrder) (clientId : ClientId) {sim : GameSimulation}
    {snapshot : SnapshotDTO}
    (fixed : ∀ state ∈ snapshot.entities,
      applyEntityState snapshot.serverTimeMs clientId sim state = sim)
    (stays : ∀ (id : NetworkEntityId) (entity : Entity), sim.entityByNetworkId[id]? = some entity →
      leavesInterest sim clientId snapshot (id, entity) = false) :
    applySnapshot order sim snapshot clientId = sim.queueEvent (appliedEvent snapshot) := by
  have written : snapshot.entities.foldl (applyEntityState snapshot.serverTimeMs clientId) sim =
      sim :=
    Runs.run_invariant_of_mem (applyEntityState snapshot.serverTimeMs clientId)
      (fun after => after = sim) snapshot.entities
      (fun state member after same => same ▸ fixed state member) sim rfl
  have nothing : (order.arrange .leavingInterest sim.entityByNetworkId.toList).filter
      (leavesInterest sim clientId snapshot) = [] := by
    apply List.filter_eq_nil_iff.mpr
    rintro ⟨id, entity⟩ member
    rw [IterationOrder.mem_arrange, Std.ExtTreeMap.mem_toList_iff_getElem?_eq_some] at member
    rw [stays id entity member]
    exact Bool.false_ne_true
  unfold applySnapshot
  dsimp only
  rw [written, nothing]
  rfl

section Faith

variable {clientId : ClientId} {start written final : GameSimulation} {snapshot : SnapshotDTO}
variable {ids : List NetworkEntityId}

theorem applied_again (applied : Applied clientId start snapshot written final ids)
    (named : Named start) (well : WellFormed start snapshot)
    (clear : Unconflicted start snapshot clientId) (later : LoopOrder) :
    applySnapshot later (final.queueEvent (appliedEvent snapshot)) snapshot clientId =
      (final.queueEvent (appliedEvent snapshot)).queueEvent (appliedEvent snapshot) := by
  apply apply_snapshot_fixed
  · intro state member
    obtain ⟨row, _, _, held⟩ := sent_written applied member
    have stands : heldRow (final.queueEvent (appliedEvent snapshot)) state.movement.entityId =
        some (writeState start.config snapshot.serverTimeMs clientId state row) := held
    apply apply_state_fixed snapshot.serverTimeMs clientId stands
    · change writeState final.config _ _ _ _ = _
      rw [applied.config]
      exact write_state_twice _ _ _ _ _
    · intro isOwn nonzero
      apply (applied_players applied named well nonzero member isOwn).mpr
      intro id leaver held notSent notOwned
      exact clear.players id leaver held notSent notOwned _ nonzero state member isOwn
  · intro id entity entry
    obtain ⟨row, present, carriesId⟩ := applied.left.named id entity entry
    apply Bool.eq_false_iff.mpr
    intro leaves
    obtain ⟨notSent, notOwned⟩ := (leaves_iff _ _ _ _ _).mp leaves
    rcases left_origin applied named present with ⟨other, isOther, isSent⟩ | owned | ⟨_, unnamed⟩
    · rw [carriesId] at isOther
      cases isOther
      exact notSent isSent
    · exact notOwned row present owned
    · rw [show (final.queueEvent (appliedEvent snapshot)).entityByNetworkId[id]? =
        final.entityByNetworkId[id]? from rfl, applied.left.table] at entry
      split at entry
      · cases entry
      · exact unnamed id ((applied.wrote.unsent id notSent).symm.trans entry)

/-- A well-formed snapshot is what the client holds after it is applied exactly when
nothing on the client conflicts with it. -/
theorem faithful_iff (order : LoopOrder) (named : Named start) (well : WellFormed start snapshot) :
    Faithful order start snapshot clientId ↔ Unconflicted start snapshot clientId := by
  obtain ⟨written, final, ids, applied, isFinal⟩ :=
    apply_snapshot_applied order clientId named snapshot well.distinct
  constructor
  · intro faithful
    have players := faithful.players
    have gone := faithful.gone
    rw [isFinal] at players gone
    constructor
    · intro id row held notSent notOwned owner nonzero state member isOwn
      exact (applied_players applied named well nonzero member isOwn).mp
        (players owner nonzero state member isOwn) id row held notSent notOwned
    · intro entity row present
      by_cases listed : ∃ id : NetworkEntityId, start.entityByNetworkId[id]? = some entity
      · exact Or.inl listed
      · have unnamed (id : NetworkEntityId) : start.entityByNetworkId[id]? ≠ some entity :=
          fun entry => listed ⟨id, entry⟩
        have isRow := applied.wrote.kept entity row present fun id _ => unnamed id
        refine Or.inr (gone entity row ((applied.left.rows entity row).mpr ⟨isRow, ?_⟩))
        intro id isLeaving entry
        have notSent := ((leaving_iff applied named id).mp isLeaving).1
        exact unnamed id ((applied.wrote.unsent id notSent).symm.trans entry)
  · intro clear
    constructor
    · intro state member
      rw [isFinal]
      exact sent_stated applied well member
    · intro owner nonzero state member isOwn
      rw [isFinal]
      apply (applied_players applied named well nonzero member isOwn).mpr
      intro id row held notSent notOwned
      exact clear.players id row held notSent notOwned owner nonzero state member isOwn
    · intro entity row present
      rw [isFinal] at present
      rcases left_origin applied named present with sent | owned | ⟨atStart, unnamed⟩
      · exact Or.inl sent
      · exact Or.inr owned
      · rcases clear.tabled entity row atStart with ⟨id, entry⟩ | rest
        · exact absurd entry (unnamed id)
        · exact rest
    · rw [isFinal]
      exact applied_events applied named well.distinct
    · intro later
      rw [isFinal]
      exact applied_again applied named well clear later

end Faith

/-! The states of a client. -/

/-- A simulation in client mode that calls reach from its start. -/
inductive Reached (config : SimulationConfig) : GameSimulation → Prop
  | start : Reached config { config := { config with mode := .clientPrediction } }
  | login {sim : GameSimulation} (command : LoginCommand) (reached : Reached config sim) :
      Reached config (submitLogin sim command).1
  | input {sim : GameSimulation} (packet : ClientInputPacket) (reached : Reached config sim) :
      Reached config (submitInput sim packet).1
  | tick {sim : GameSimulation} (order : LoopOrder) (reached : Reached config sim) :
      Reached config (tickFixed order sim)
  | replay {sim : GameSimulation} (inputs : List ClientInputPacket)
      (reached : Reached config sim) : Reached config (replayLocalInputsForPrediction sim inputs)
  | snapshot {sim : GameSimulation} (order : LoopOrder) (snapshot : SnapshotDTO)
      (clientId : ClientId) (reached : Reached config sim) :
      Reached config (applySnapshot order sim snapshot clientId)
  | drain {sim : GameSimulation} (reached : Reached config sim) : Reached config sim.drainEvents.1

theorem reached_tabled {config : SimulationConfig} {sim : GameSimulation}
    (reached : Reached config sim) : Tabled sim := by
  induction reached with
  | start =>
      refine ⟨rfl, ?_, ?_⟩
      · intro id entity entry
        simp at entry
      · intro entity row present
        simp at present
  | login command _ ih => exact submit_login_tabled _ command ih
  | input packet _ ih => exact submit_input_tabled _ packet ih
  | tick order _ ih => exact tick_tabled order _ ih
  | replay inputs _ ih =>
      apply Runs.run_invariant replayLocalInput Tabled _ _ ih
      intro sim packet kept
      exact tabled_of_same (replay_input_tables sim packet) (replay_input_standing sim packet) kept
  | snapshot order snapshot clientId _ ih => exact apply_snapshot_tabled order _ snapshot clientId ih
  | drain _ ih => exact ⟨ih.client, ih.named, ih.carried⟩

/-! The replay. -/

/-- The unacknowledged inputs of a runtime are its own. -/
theorem client_run_inputs (localClientId : ClientId) (config : SimulationConfig)
    (calls : List ClientCall) :
    ∀ packet ∈ (clientRun localClientId config calls).pendingInputs.unackedInputs,
      packet.header.clientId = localClientId := by
  have both : (clientRun localClientId config calls).localClientId = localClientId ∧
      ∀ packet ∈ (clientRun localClientId config calls).pendingInputs.unackedInputs,
        packet.header.clientId = localClientId := by
    apply Runs.run_invariant clientStep fun runtime => runtime.localClientId = localClientId ∧
      ∀ packet ∈ runtime.pendingInputs.unackedInputs, packet.header.clientId = localClientId
    · rintro runtime call ⟨sameClient, own⟩
      cases call with
      | queueInput input localTimeMs =>
          refine ⟨sameClient, fun packet member => ?_⟩
          rcases List.mem_append.mp member with old | new
          · exact own packet old
          · rw [List.mem_singleton.mp new]
            exact sameClient
      | applyServerSnapshot order snapshot =>
          exact ⟨sameClient, fun packet member => own packet (List.mem_of_mem_filter member)⟩
      | connectLocal localTimeMs => exact ⟨sameClient, own⟩
      | tickSimulation order => exact ⟨sameClient, own⟩
      | recordTimeSyncSample sample => exact ⟨sameClient, own⟩
      | drainEvents => exact ⟨sameClient, own⟩
    · exact ⟨rfl, fun packet member => by cases member⟩
  exact both.2

/-- A replay of the client's inputs moves its player only. -/
theorem replay_others {sim : GameSimulation} (named : Named sim) {clientId : ClientId}
    {own id : NetworkEntityId}
    (entry : ∀ other, sim.playerByClient[clientId]? = some other → other = own) (apart : id ≠ own) (inputs : List ClientInputPacket)
    (mine : ∀ packet ∈ inputs, packet.header.clientId = clientId) :
    heldRow (replayLocalInputsForPrediction sim inputs) id = heldRow sim id := by
  have kept := Runs.run_invariant_of_mem replayLocalInput
    (fun after => SameTables sim after ∧ Named after ∧ heldRow after id = heldRow sim id) inputs
    ?_ sim ⟨SameTables.refl sim, named, rfl⟩
  · exact kept.2.2
  · rintro packet member after ⟨tables, stillNamed, same⟩
    have step := replay_input_tables after packet
    refine ⟨tables.trans step,
      named_of_same step (replay_input_standing after packet) stillNamed, ?_⟩
    refine Eq.trans ?_ same
    unfold heldRow
    rw [step.entityByNetworkId]
    cases known : after.entityByNetworkId[id]? with
    | none => rfl
    | some entity =>
        rw [Option.bind_some, Option.bind_some]
        unfold replayLocalInput
        cases target : after.inputTarget packet.header.clientId with
        | none => rfl
        | some moved =>
            dsimp only
            rw [update_entity_row, if_neg]
            rintro rfl
            obtain ⟨other, isOther, moves⟩ := Option.bind_eq_some_iff.mp target
            rw [mine packet member] at isOther
            have isOwn := entry other (tables.playerByClient ▸ isOther)
            have sameId := named_injective stillNamed known moves
            exact apart (sameId.trans isOwn)

/-- A runtime that is sent its own player holds every other entity as it was sent. -/
theorem others_as_stated (clientId : ClientId) (nonzero : clientId ≠ 0) (config : SimulationConfig)
    (calls : List ClientCall) (order : LoopOrder) (snapshot : SnapshotDTO)
    (well : WellFormed (clientRun clientId config calls).simulation snapshot)
    (own : EntityStateDTO) (member : own ∈ snapshot.entities)
    (isOwn : ownedByLocalPlayer clientId own = true) (state : EntityStateDTO)
    (isSent : state ∈ snapshot.entities) (apart : state ≠ own) :
    ∃ row, heldRow ((clientRun clientId config calls).applyServerSnapshot order snapshot).simulation
      state.movement.entityId = some row ∧ StatedBy state row := by
  have inputs := client_run_inputs clientId config calls
  have tabled := client_run_tabled clientId config calls
  have sameClient := (client_run_keeps clientId config calls).1
  generalize clientRun clientId config calls = runtime at well inputs tabled sameClient ⊢
  subst sameClient
  obtain ⟨written, final, ids, applied, isFinal⟩ :=
    apply_snapshot_applied order runtime.localClientId tabled.named snapshot well.distinct
  obtain ⟨row, held, stated⟩ := sent_stated applied well isSent
  refine ⟨row, ?_, stated⟩
  have idsApart : state.movement.entityId ≠ own.movement.entityId := fun same =>
    apart (List.inj_on_of_nodup_map well.distinct isSent member same)
  have entry : ∀ other, final.playerByClient[runtime.localClientId]? = some other →
      other = own.movement.entityId := by
    intro other isOther
    rw [applied.players] at isOther
    split at isOther
    · cases isOther
    · rw [applied.wrote.players, if_neg nonzero, last_own_sent well nonzero member isOwn] at isOther
      cases isOther
      rfl
  unfold ClientRuntime.applyServerSnapshot
  dsimp only
  rw [isFinal]
  refine Eq.trans ?_ held
  have told : Named (final.queueEvent (appliedEvent snapshot)) := applied.left.named
  exact replay_others told entry idsApart _
    fun packet pending => inputs packet (List.mem_of_mem_filter pending)

/-- In every client state, a well-formed snapshot is faithfully applied exactly when no
old player of an owner it states leaves and no entity is missing from the id table;
and a replay leaves all but the local player as the snapshot states. -/
theorem snapshot_faithful_iff (order : LoopOrder) (snapshot : SnapshotDTO) (clientId : ClientId) :
    (∀ config sim, Reached config sim → WellFormed sim snapshot →
      (Faithful order sim snapshot clientId ↔ Unconflicted sim snapshot clientId)) ∧
    (clientId ≠ 0 → ∀ config calls,
      WellFormed (clientRun clientId config calls).simulation snapshot →
      ∀ own ∈ snapshot.entities, ownedByLocalPlayer clientId own = true →
      ∀ state ∈ snapshot.entities, state ≠ own →
        ∃ row, heldRow
          ((clientRun clientId config calls).applyServerSnapshot order snapshot).simulation
          state.movement.entityId = some row ∧ StatedBy state row) :=
  ⟨fun _ _ reached well => faithful_iff order (reached_tabled reached).named well,
   fun nonzero config calls well own member isOwn state isSent apart =>
    others_as_stated clientId nonzero config calls order snapshot well own member isOwn state isSent
      apart⟩

def playerState (player : NetworkEntityId × ClientId) : EntityStateDTO :=
  { movement := { entityId := player.1 }
    combat := some { entityId := player.1 }
    replication := { entityId := player.1, ownerClientId := player.2 } }

/-- A snapshot with these players and their owners. -/
def playersSnapshot (snapshotId : SnapshotId) (players : List (NetworkEntityId × ClientId)) :
    SnapshotDTO :=
  { snapshotId := snapshotId, entities := players.map playerState }

/-- Players of different owners suit a client that holds nothing under their ids. -/
theorem players_well {sim : GameSimulation} (snapshotId : SnapshotId)
    (players : List (NetworkEntityId × ClientId)) (ids : (players.map Prod.fst).Nodup)
    (owners : (players.map Prod.snd).Nodup)
    (unknown : ∀ player ∈ players, (heldRow sim player.1).isNone = true) :
    WellFormed sim (playersSnapshot snapshotId players) where
  distinct := by
    unfold playersSnapshot
    rw [List.map_map]
    exact ids
  combat := by
    intro state member
    obtain ⟨player, _, rfl⟩ := List.mem_map.mp member
    exact ⟨_, rfl, rfl⟩
  replication := by
    intro state member
    obtain ⟨player, _, rfl⟩ := List.mem_map.mp member
    rfl
  players := by
    intro owner _ first isFirst second isSecond firstOwn secondOwn
    obtain ⟨one, oneMember, rfl⟩ := List.mem_map.mp isFirst
    obtain ⟨two, twoMember, rfl⟩ := List.mem_map.mp isSecond
    have sameOwner : one.2 = two.2 :=
      ((own_iff owner _).mp firstOwn).1.trans ((own_iff owner _).mp secondOwn).1.symm
    rw [List.inj_on_of_nodup_map owners oneMember twoMember sameOwner]
  kinds := by
    intro state member row held
    obtain ⟨player, isPlayer, rfl⟩ := List.mem_map.mp member
    have none := unknown player isPlayer
    rw [show heldRow sim player.1 = some row from held] at none
    cases none

def freshClient : GameSimulation := { config := { mode := .clientPrediction } }

def firstPlayers : SnapshotDTO :=
  playersSnapshot 1 [({ value := 1 }, 1), ({ value := 2 }, 2)]

/-- The first snapshot of a client is what it holds, and its own player moves alone. -/
theorem first_snapshot_faithful :
    Faithful .stored freshClient firstPlayers 1 ∧
      ∃ row, heldRow ((clientRun 1 {} [.connectLocal 0, .queueInput { moveX := 1 } 5]).applyServerSnapshot
        .stored (playersSnapshot 1 [({ value := 3 }, 1), ({ value := 2 }, 2)])).simulation { value := 2 } =
          some row ∧ StatedBy (playerState ({ value := 2 }, 2)) row := by
  constructor
  · apply ((snapshot_faithful_iff .stored firstPlayers 1).1 {} freshClient .start
      (players_well 1 _ (by decide) (by decide) (by decide +kernel))).mpr
    constructor
    · intro id row held
      simp [heldRow, freshClient] at held
    · intro entity row present
      simp [freshClient] at present
  · exact (snapshot_faithful_iff .stored
        (playersSnapshot 1 [({ value := 3 }, 1), ({ value := 2 }, 2)]) 1).2 (by decide) {} _
      (players_well 1 _ (by decide) (by decide) (by decide +kernel))
      (playerState ({ value := 3 }, 1)) (by decide) (by decide)
      (playerState ({ value := 2 }, 2)) (by decide) (by decide)

/-- A client that is sent the player of client 2 under a new id loses its entry. -/
theorem snapshot_unfaithful :
    ¬ (∀ config sim, Reached config sim → ∀ order snapshot clientId, WellFormed sim snapshot →
      Faithful order sim snapshot clientId) := by
  intro faithful
  have entry := (faithful {} _
    (.snapshot .stored (playersSnapshot 1 [({ value := 1 }, 2)]) 1 .start) .stored
    (playersSnapshot 2 [({ value := 9 }, 2)]) 1
    (players_well 2 _ (by decide) (by decide) (by decide +kernel))).players 2
    (by decide) _ List.mem_cons_self (by decide)
  exact absurd entry (by decide +kernel)

end Brawololo.SnapshotOverwrite
