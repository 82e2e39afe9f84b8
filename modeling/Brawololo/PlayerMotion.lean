import Brawololo.EntityIdentity

/-!
The motion of a player on the server. A tick integrates the player once, under
the last input of its client in that tick, and nothing else in the tick moves a
player that stays alive. A round is one input of the client among the
submissions of others, and a tick.
-/

namespace Brawololo.PlayerMotion

open GameTypes EntityStore Simulation Simulation.GameSimulation SimulationStages EntityIdentity

/-! The motion of a living player under one input. -/

abbrev Motion := TransformComponent × VelocityComponent

def moveUnder (config : SimulationConfig) (motion : Motion) (packet : ClientInputPacket) : Motion :=
  let velocity := steer config (some (intentOf packet.input)) motion.2
  (clampToMap config (travel config velocity motion.1), velocity)

/-- A living player with this motion. -/
structure Moves (row : Components) (motion : Motion) : Prop where
  named : row.identity.isSome
  placed : row.transform = some motion.1
  moving : row.velocity = some motion.2
  player : row.player.isSome
  living : row.defeated = false

theorem start_warmup_intent (config : SimulationConfig) (timeMs : TimestampMs)
    (row : Components) : (startWarmup config timeMs row).1.inputIntent = row.inputIntent := by
  obtain ⟨weapon, changed⟩ := start_warmup_changes config timeMs row
  rw [changed]

theorem apply_input_moves (config : SimulationConfig) (timeMs : TimestampMs)
    (packet : ClientInputPacket) {row : Components} {motion : Motion} (moves : Moves row motion) :
    Moves (applyInputToEntity config timeMs packet row).1 motion ∧
      (applyInputToEntity config timeMs packet row).1.inputIntent =
        some (intentOf packet.input) := by
  constructor
  · obtain ⟨intent, aim, weapon, applied⟩ := apply_input_changes config timeMs packet row
    rw [applied]
    exact ⟨moves.named, moves.placed, moves.moving, moves.player, moves.living⟩
  · unfold applyInputToEntity
    rw [if_neg (by rw [moves.living]; exact Bool.false_ne_true)]
    split
    · rw [start_warmup_intent]
      rfl
    · rfl

/-- What one integration makes of the motion, under the intent of the row. -/
def integrated (config : SimulationConfig) (intent : Option InputIntentComponent)
    (motion : Motion) : Motion :=
  let velocity := steer config intent motion.2
  (clampToMap config (travel config velocity motion.1), velocity)

theorem intent_moves (config : SimulationConfig) {row : Components} {motion : Motion}
    (moves : Moves row motion) :
    Moves (integrateMovement config row).1 (integrated config row.inputIntent motion) := by
  obtain ⟨identity, isIdentity⟩ := Option.isSome_iff_exists.mp moves.named
  unfold integrateMovement
  rw [isIdentity, moves.placed, moves.moving]
  dsimp only
  rw [if_neg (by rw [moves.living]; exact Bool.false_ne_true)]
  exact ⟨rfl, rfl, rfl, moves.player, moves.living⟩

theorem integrate_moves (config : SimulationConfig) (packet : ClientInputPacket)
    {row : Components} {motion : Motion} (moves : Moves row motion)
    (intent : row.inputIntent = some (intentOf packet.input)) :
    Moves (integrateMovement config row).1 (moveUnder config motion packet) := by
  have moved := intent_moves config moves
  rw [intent] at moved
  exact moved

theorem clear_intent_moves {row : Components} {motion : Motion} (moves : Moves row motion) :
    Moves (clearIntent row) motion :=
  ⟨moves.named, moves.placed, moves.moving, moves.player, moves.living⟩

/-- Of the inputs of a tick only the last one moves the player. -/
theorem moved_row_moves (sim : GameSimulation) (entity : Entity)
    (earlier : List ClientInputPacket) (packet : ClientInputPacket)
    (inputs : inputsFor sim entity = earlier ++ [packet]) {row : Components} {motion : Motion}
    (moves : Moves row motion) :
    Moves (movedRow sim entity row) (moveUnder sim.config motion packet) := by
  have before : Moves (applyInputs sim.config sim.timeMs earlier row) motion := by
    apply Runs.run_invariant (fun row packet =>
      (applyInputToEntity sim.config sim.timeMs packet row).1) fun row => Moves row motion
    · exact fun row packet moves => (apply_input_moves sim.config sim.timeMs packet moves).1
    · exact moves
  have applied := apply_input_moves sim.config sim.timeMs packet before
  have last : applyInputs sim.config sim.timeMs (inputsFor sim entity) row =
      (applyInputToEntity sim.config sim.timeMs packet
        (applyInputs sim.config sim.timeMs earlier row)).1 := by
    rw [inputs]
    exact List.foldl_concat _ _ _ _
  unfold movedRow
  dsimp only
  rw [last, if_pos applied.1.player]
  exact clear_intent_moves (integrate_moves sim.config packet applied.1 applied.2)

theorem replay_input_moves (config : SimulationConfig) (timeMs : TimestampMs)
    (packet : ClientInputPacket) {row : Components} {motion : Motion} (moves : Moves row motion) :
    Moves (replayInput config timeMs packet row).1 (moveUnder config motion packet) := by
  have applied := apply_input_moves config timeMs packet moves
  exact clear_intent_moves (integrate_moves config packet applied.1 applied.2)

/-! The rest of a tick does not touch the motion of a player that stays alive. -/

/-- How a row that is no projectile fares while the events `added` are queued. -/
structure Fared (added : EventList) (row later : Components) : Prop where
  identity : later.identity = row.identity
  transform : later.transform = row.transform
  velocity : later.velocity = row.velocity
  projectile : later.projectile = row.projectile
  player : later.player.isSome = row.player.isSome
  fate : later.defeated = true → row.defeated = true ∨
    ∃ died, DomainEvent.playerDied died ∈ added ∧ row.identity = some { id := died.entityId }

theorem Fared.refl (row : Components) : Fared [] row row :=
  ⟨rfl, rfl, rfl, rfl, rfl, Or.inl⟩

theorem Fared.trans {first second third : Components} {one two : EventList}
    (left : Fared one first second) (right : Fared two second third) :
    Fared (one ++ two) first third := by
  refine ⟨right.identity.trans left.identity, right.transform.trans left.transform,
    right.velocity.trans left.velocity, right.projectile.trans left.projectile,
    right.player.trans left.player, ?_⟩
  intro defeated
  rcases right.fate defeated with already | ⟨died, member, isIdentity⟩
  · rcases left.fate already with before | ⟨died, member, isIdentity⟩
    · exact Or.inl before
    · exact Or.inr ⟨died, List.mem_append_left _ member, isIdentity⟩
  · exact Or.inr ⟨died, List.mem_append_right _ member, left.identity.symm.trans isIdentity⟩

theorem Fared.more {row later : Components} {added : EventList} (fared : Fared added row later)
    (before after : EventList) : Fared (before ++ added ++ after) row later := by
  refine ⟨fared.identity, fared.transform, fared.velocity, fared.projectile, fared.player, ?_⟩
  intro defeated
  rcases fared.fate defeated with already | ⟨died, member, isIdentity⟩
  · exact Or.inl already
  · exact Or.inr ⟨died, by simp [member], isIdentity⟩

/-- The rows that are no projectiles fare between two states. -/
def Fares (before after : GameSimulation) : Prop :=
  ∃ added, Queued before after added ∧ ∀ entity row, before.registry.get? entity = some row →
    row.projectile = none → ∃ later, after.registry.get? entity = some later ∧ Fared added row later

theorem Fares.refl (sim : GameSimulation) : Fares sim sim :=
  ⟨[], by simp [Queued], fun _ row present _ => ⟨row, present, Fared.refl row⟩⟩

theorem Fares.trans {first second third : GameSimulation} (left : Fares first second)
    (right : Fares second third) : Fares first third := by
  obtain ⟨one, queuedOne, rowsOne⟩ := left
  obtain ⟨two, queuedTwo, rowsTwo⟩ := right
  refine ⟨one ++ two, queuedOne.trans queuedTwo, ?_⟩
  intro entity row present noProjectile
  obtain ⟨middle, isMiddle, faredOne⟩ := rowsOne entity row present noProjectile
  obtain ⟨later, found, faredTwo⟩ :=
    rowsTwo entity middle isMiddle (faredOne.projectile.trans noProjectile)
  exact ⟨later, found, faredOne.trans faredTwo⟩

theorem damage_fared (config : SimulationConfig) (timeMs : TimestampMs)
    (projectileId : NetworkEntityId) (projectile : ProjectileComponent) (row : Components) :
    Fared (damagePlayer config timeMs projectileId projectile row).2 row
      (damagePlayer config timeMs projectileId projectile row).1 := by
  unfold damagePlayer
  split
  · next identity player isIdentity isPlayer =>
      dsimp only
      split
      · refine ⟨rfl, rfl, rfl, rfl, by rw [isPlayer]; rfl, fun _ => Or.inr ?_⟩
        refine ⟨{ entityId := identity.id, attackerId := projectile.ownerId,
                  respawnAtMs := timeMs + config.respawnDelayMs }, ?_, isIdentity⟩
        exact List.mem_append_right _ (List.mem_singleton.mpr rfl)
      · refine ⟨rfl, rfl, rfl, rfl, by rw [isPlayer]; rfl, fun defeated => Or.inl ?_⟩
        unfold Components.defeated at defeated ⊢
        rw [isPlayer]
        exact defeated
  · exact ⟨rfl, rfl, rfl, rfl, rfl, Or.inl⟩

theorem update_entity_fares (update : Components → Components × EventList)
    (sim : GameSimulation) (entity : Entity)
    (fared : ∀ row, sim.registry.get? entity = some row → row.projectile = none →
      Fared (update row).2 row (update row).1) :
    Fares sim (sim.updateEntity update entity) := by
  refine ⟨_, update_entity_queued update sim entity, ?_⟩
  intro other row present noProjectile
  by_cases same : other = entity
  · subst same
    refine ⟨(update row).1, ?_, ?_⟩
    · rw [update_entity_row, if_pos rfl, present, Option.map_some]
    · rw [present]
      exact fared row present noProjectile
  · refine ⟨row, ?_, ?_⟩
    · rw [update_entity_row, if_neg same, present]
    · have unchanged := (Fared.refl row).more
        (((sim.registry.get? entity).map fun row => (update row).2).getD []) []
      simpa using unchanged

theorem projectile_loop_fares (targets entities : List Entity)
    (state : GameSimulation × List Entity) :
    Fares state.1 (entities.foldl (processProjectile targets) state).1 := by
  apply Runs.run_relates (processProjectile targets) fun before after => Fares before.1 after.1
  · exact fun state => Fares.refl state.1
  · exact Fares.trans
  · rintro ⟨sim, toDestroy⟩ entity
    have flies : ∀ row projectile, sim.registry.get? entity = some row →
        row.projectile = some projectile →
        Fares sim (sim.updateEntity (fun row => (fly sim.config row, [])) entity) := by
      intro row projectile present carries
      apply update_entity_fares
      intro other isOther noProjectile
      rw [present] at isOther
      cases isOther
      rw [carries] at noProjectile
      cases noProjectile
    have turn := process_projectile_turn targets sim toDestroy entity
    generalize processProjectile targets (sim, toDestroy) entity = result at turn ⊢
    cases turn with
    | skipped => exact Fares.refl sim
    | gone row projectile transform present carries => exact flies row projectile present carries
    | flew row projectile transform present carries => exact flies row projectile present carries
    | struck row identity projectile transform target targetRow present carries =>
        refine (flies row projectile present carries).trans ?_
        apply update_entity_fares
        exact fun row _ _ => damage_fared sim.config sim.timeMs identity.id projectile row

theorem process_warmups_fares (order : LoopOrder) (sim : GameSimulation) :
    Fares sim (processWeaponWarmups order sim) := by
  obtain ⟨added, queued⟩ := process_warmups_appends order sim
  refine ⟨added, queued, ?_⟩
  intro entity row present noProjectile
  let fired := sim.forEachEntity order .weaponWarmups inWarmupView
    (finishWarmup sim.config sim.timeMs)
  have tables := for_each_tables (finishWarmup sim.config sim.timeMs) order .weaponWarmups
    inWarmupView sim
  have rows := for_each_row (finishWarmup sim.config sim.timeMs) order .weaponWarmups
    inWarmupView sim entity
  rw [present, Option.map_some] at rows
  have below : entity < fired.registry.created := by
    rw [tables.created]
    exact Registry.get?_lt _ present
  refine ⟨_, (create_all_row _ fired entity below).trans rows, ?_⟩
  split
  · obtain ⟨weapon, finished⟩ := finish_warmup_changes sim.config sim.timeMs row
    rw [finished]
    exact ⟨rfl, rfl, rfl, rfl, rfl, Or.inl⟩
  · exact ⟨rfl, rfl, rfl, rfl, rfl, Or.inl⟩

theorem process_projectiles_fares (order : LoopOrder) (sim : GameSimulation) :
    Fares sim (processProjectiles order sim) := by
  let looped := (sim.registry.view order .projectiles inProjectileView).foldl
    (processProjectile (sim.registry.view order .projectileTargets inTargetView)) (sim, [])
  obtain ⟨added, queued, rows⟩ := projectile_loop_fares
    (sim.registry.view order .projectileTargets inTargetView)
    (sim.registry.view order .projectiles inProjectileView) (sim, [])
  refine ⟨added, (destroy_all_silent looped.2 looped.1).trans queued, ?_⟩
  intro entity row present noProjectile
  obtain ⟨later, found, fared⟩ := rows entity row present noProjectile
  refine ⟨later, ?_, fared⟩
  -- Only projectiles are destroyed, and this row is none.
  have spared : entity ∉ looped.2 := by
    intro listed
    obtain ⟨other, isOther, carries⟩ := projectile_loop_destroys _ _ sim entity listed
    rw [found] at isOther
    cases isOther
    rw [fared.projectile, noProjectile] at carries
    cases carries
  exact (destroy_all_row looped.2 looped.1 entity spared).trans found

theorem Fares.appends {before after : GameSimulation} (fares : Fares before after) :
    Appends before after := by
  obtain ⟨added, queued, _⟩ := fares
  exact ⟨added, queued⟩

theorem tick_appends (order : LoopOrder) (sim : GameSimulation) :
    Appends sim (tickFixed order sim) := by
  have respawned (sim : GameSimulation) : Appends sim (processRespawns order sim) :=
    ⟨_, for_each_queued _ order .respawns inRespawnView sim⟩
  exact (((process_inputs_queues order (advanceClock sim)).appends.trans
    (process_warmups_appends order _)).trans (process_projectiles_fares order _).appends).trans
    (respawned _)

theorem fared_moves {added : EventList} {row later : Components} {motion : Motion}
    (fared : Fared added row later) (moves : Moves row motion)
    (spared : ∀ died, DomainEvent.playerDied died ∈ added →
      row.identity ≠ some { id := died.entityId }) : Moves later motion := by
  refine ⟨by rw [fared.identity]; exact moves.named, fared.transform.trans moves.placed,
    fared.velocity.trans moves.moving, by rw [fared.player]; exact moves.player, ?_⟩
  by_contra defeated
  rcases fared.fate (Bool.of_not_eq_false defeated) with already | ⟨died, member, isIdentity⟩
  · rw [moves.living] at already
    cases already
  · exact spared died member isIdentity

/-- From its move to the respawns a row that is no projectile fares. -/
theorem moved_fares (order : LoopOrder) (sim : GameSimulation) {entity : Entity}
    {row : Components} (present : sim.registry.get? entity = some row)
    (noProjectile : row.projectile = none) :
    ∃ added, Queued (processInputs order sim)
        (processProjectiles order (processWeaponWarmups order (processInputs order sim))) added ∧
      ∃ later, (processProjectiles order (processWeaponWarmups order
          (processInputs order sim))).registry.get? entity = some later ∧
        Fared added (movedRow sim entity row) later := by
  obtain ⟨_, _, _, _, changed, _⟩ := moved_row_changes sim entity row
  have isMoved := process_inputs_row order sim entity
  rw [present, Option.map_some] at isMoved
  obtain ⟨added, queued, rows⟩ := (process_warmups_fares order (processInputs order sim)).trans
    (process_projectiles_fares order _)
  exact ⟨added, queued, rows entity _ isMoved (by rw [changed]; exact noProjectile)⟩

/-- A living player is not respawned. -/
theorem living_stays (order : LoopOrder) (sim : GameSimulation) {entity : Entity}
    {row : Components} (present : sim.registry.get? entity = some row)
    (living : row.defeated = false) :
    (processRespawns order sim).registry.get? entity = some row := by
  rw [process_respawns_row, present, Option.map_some, respawn_waits, ite_self]
  intro player isPlayer defeated
  unfold Components.defeated at living
  rw [isPlayer] at living
  exact absurd defeated (by simpa using living)

/-- A tick moves a living player under the last of its inputs, unless the events
of the tick say that the player died. -/
theorem tick_moves (order : LoopOrder) (sim : GameSimulation) (entity : Entity)
    (earlier : List ClientInputPacket) (packet : ClientInputPacket)
    (inputs : inputsFor (advanceClock sim) entity = earlier ++ [packet]) {row : Components}
    (present : sim.registry.get? entity = some row) (noProjectile : row.projectile = none)
    {motion : Motion} (moves : Moves row motion) :
    ∃ added, Queued sim (tickFixed order sim) added ∧
      ((∀ died, DomainEvent.playerDied died ∈ added →
          row.identity ≠ some { id := died.entityId }) →
        ∃ later, (tickFixed order sim).registry.get? entity = some later ∧
          later.identity = row.identity ∧ Moves later (moveUnder sim.config motion packet)) := by
  obtain ⟨fromInputs, queuedInputs, _⟩ := process_inputs_queues order (advanceClock sim)
  have moved := moved_row_moves (advanceClock sim) entity earlier packet inputs moves
  obtain ⟨_, _, _, _, changed, _⟩ := moved_row_changes (advanceClock sim) entity row
  have isRow : (advanceClock sim).registry.get? entity = some row := present
  have sameIdentity : (movedRow (advanceClock sim) entity row).identity = row.identity := by
    rw [changed]
  obtain ⟨between, queuedBetween, later, found, fared⟩ :=
    moved_fares order (advanceClock sim) isRow noProjectile
  obtain ⟨atEnd, queuedEnd⟩ : Appends (processProjectiles order (processWeaponWarmups order
      (processInputs order (advanceClock sim)))) (tickFixed order sim) :=
    ⟨_, for_each_queued _ order .respawns inRespawnView _⟩
  refine ⟨fromInputs ++ between ++ atEnd,
    (queuedInputs.trans queuedBetween).trans queuedEnd, ?_⟩
  intro spared
  have living := fared_moves fared moved (by
    intro died member
    rw [sameIdentity]
    exact spared died (List.mem_append_left _ (List.mem_append_right _ member)))
  exact ⟨later, living_stays order _ found living.living, fared.identity.trans sameIdentity, living⟩

/-! What the submissions of other clients leave alone. -/

inductive Submission where
  | login (command : LoginCommand)
  | input (packet : ClientInputPacket)

def Submission.clientId : Submission → ClientId
  | .login command => command.header.clientId
  | .input packet => packet.header.clientId

def Submission.call : Submission → ServerCall
  | .login command => .login command
  | .input packet => .input packet

/-- Everything the client has in the simulation is as before. -/
structure Undisturbed (clientId : ClientId) (before after : GameSimulation) : Prop where
  config : after.config = before.config
  entry : after.playerByClient[clientId]? = before.playerByClient[clientId]?
  sequence : after.lastAcceptedSequence[clientId]? = before.lastAcceptedSequence[clientId]?
  rows : ∀ entity row, before.registry.get? entity = some row →
    after.registry.get? entity = some row
  pending : ∃ added, after.pendingInputs = before.pendingInputs ++ added ∧
    ∀ packet ∈ added, packet.header.clientId ≠ clientId

theorem Undisturbed.refl (clientId : ClientId) (sim : GameSimulation) :
    Undisturbed clientId sim sim :=
  ⟨rfl, rfl, rfl, fun _ _ present => present, [], by simp, by simp⟩

theorem Undisturbed.trans {clientId : ClientId} {first second third : GameSimulation}
    (left : Undisturbed clientId first second) (right : Undisturbed clientId second third) :
    Undisturbed clientId first third := by
  obtain ⟨one, pendingOne, othersOne⟩ := left.pending
  obtain ⟨two, pendingTwo, othersTwo⟩ := right.pending
  refine ⟨right.config.trans left.config, right.entry.trans left.entry,
    right.sequence.trans left.sequence,
    fun entity row present => right.rows entity row (left.rows entity row present),
    one ++ two, by rw [pendingTwo, pendingOne, List.append_assoc], ?_⟩
  intro packet member
  rcases List.mem_append.mp member with inOne | inTwo
  · exact othersOne packet inOne
  · exact othersTwo packet inTwo

theorem submission_undisturbed (clientId : ClientId) (sim : GameSimulation)
    (submission : Submission) (other : submission.clientId ≠ clientId) :
    Undisturbed clientId sim (serverStep sim submission.call) := by
  cases submission with
  | login command =>
      have different : command.header.clientId ≠ clientId := other
      dsimp only [Submission.call, serverStep]
      rcases submit_login_cases sim command with same | ⟨_, _, joined⟩
      · rw [same]
        exact Undisturbed.refl clientId sim
      · rw [joined]
        refine ⟨rfl, ?_, ?_, ?_, [], by simp [createPlayer, allocateNetworkId], by simp⟩
        · dsimp only [createPlayer, allocateNetworkId]
          rw [get_insert, if_neg different]
        · dsimp only [createPlayer, allocateNetworkId]
          rw [get_insert, if_neg different]
        · intro entity row present
          dsimp only [createPlayer, allocateNetworkId]
          rw [Registry.get?_create, if_neg (Nat.ne_of_lt (Registry.get?_lt _ present)), present]
  | input packet =>
      have different : packet.header.clientId ≠ clientId := other
      dsimp only [Submission.call, serverStep]
      rcases submit_input_cases sim packet with ⟨same, _⟩ | ⟨_, _, accepted⟩
      · rw [same]
        exact Undisturbed.refl clientId sim
      · rw [accepted]
        refine ⟨rfl, rfl, ?_, fun _ _ present => present, [packet], rfl, ?_⟩
        · dsimp only
          rw [get_insert, if_neg different]
        · intro member isMember
          rw [List.mem_singleton.mp isMember]
          exact different

theorem submissions_undisturbed (clientId : ClientId) (sim : GameSimulation)
    (submissions : List Submission)
    (others : ∀ submission ∈ submissions, submission.clientId ≠ clientId) :
    Undisturbed clientId sim (Runs.run serverStep sim (submissions.map Submission.call)) := by
  apply Runs.run_invariant_of_mem serverStep fun after => Undisturbed clientId sim after
  · intro call member after undisturbed
    obtain ⟨submission, isMember, rfl⟩ := List.mem_map.mp member
    exact undisturbed.trans (submission_undisturbed clientId after submission
      (others submission isMember))
  · exact Undisturbed.refl clientId sim

/-- An input above the last accepted one joins the pending inputs. -/
theorem own_input_accepted (sim : GameSimulation) (packet : ClientInputPacket)
    (playing : (sim.playerByClient[packet.header.clientId]?).isSome)
    (newer : (sim.lastAcceptedSequence[packet.header.clientId]?).getD 0 < packet.header.sequence) :
    serverStep sim (.input packet) =
      { sim with
        lastAcceptedSequence :=
          sim.lastAcceptedSequence.insert packet.header.clientId packet.header.sequence
        pendingInputs := sim.pendingInputs ++ [packet] } := by
  obtain ⟨entity, entry⟩ := Option.isSome_iff_exists.mp playing
  unfold serverStep submitInput
  dsimp only
  rw [entry]
  dsimp only
  rw [if_neg]
  intro stale
  obtain ⟨last, isLast, notNewer⟩ := (Option.any_eq_true _ _).mp stale
  rw [isLast] at newer
  exact absurd newer (UInt32.not_lt.mpr (of_decide_eq_true notNewer))

/-! Rounds of the server. -/

/-- One input of the client among the submissions of others, and a tick. -/
structure Round where
  before : List Submission
  input : ClientInputPacket
  after : List Submission
  order : LoopOrder

def Round.calls (round : Round) : List ServerCall :=
  round.before.map Submission.call ++ [.input round.input] ++ round.after.map Submission.call ++
    [.tick round.order]

/-- The round's own input is the client's, and all else is from others. -/
structure Round.IsFor (round : Round) (clientId : ClientId) : Prop where
  own : round.input.header.clientId = clientId
  others : ∀ submission ∈ round.before ++ round.after, submission.clientId ≠ clientId

/-- The client's living player has this motion on the server. -/
structure Stands (sim : GameSimulation) (clientId : ClientId) (entity : Entity)
    (motion : Motion) : Prop where
  entry : sim.playerByClient[clientId]? = some (idOf entity)
  row : ∃ row, sim.registry.get? entity = some row ∧ Moves row motion

/-- Only the client's own inputs reach the entity of its player. -/
theorem input_target_own (sim : GameSimulation) (identified : Identified sim)
    (room : sim.registry.created < 2 ^ 32 - 1) {clientId : ClientId} {entity : Entity}
    {motion : Motion} (stands : Stands sim clientId entity motion) (other : ClientId) :
    sim.inputTarget other = some entity ↔ other = clientId := by
  obtain ⟨row, present, _⟩ := stands.row
  unfold inputTarget playerEntityForClient entityFor
  constructor
  · intro target
    obtain ⟨id, entry, named⟩ := Option.bind_eq_some_iff.mp target
    obtain ⟨rfl, _⟩ := (identified.listed id entity).mp named
    -- Both entries of the table name the player of this entity.
    have owner : ∀ client, sim.playerByClient[client]? = some (idOf entity) →
        row.ownedBy = some { clientId := client } := by
      intro client isEntry
      obtain ⟨holder, found, _, same, isRow, _, _, owned⟩ := identified.placed client _ isEntry
      have equal := id_of_injective (Nat.lt_trans (Registry.get?_lt _ present) room)
        (Nat.lt_trans (Registry.get?_lt _ isRow) room) same
      subst equal
      rw [present] at isRow
      cases isRow
      exact owned
    have both := (owner other entry).symm.trans (owner clientId stands.entry)
    cases both
    rfl
  · rintro rfl
    rw [stands.entry]
    exact (identified.listed _ _).mpr ⟨rfl, row, present⟩

theorem submission_appends (sim : GameSimulation) (submission : Submission) :
    Appends sim (serverStep sim submission.call) := by
  cases submission with
  | login command =>
      dsimp only [Submission.call, serverStep]
      rcases submit_login_cases sim command with same | ⟨_, _, joined⟩
      · rw [same]
        exact Appends.refl sim
      · rw [joined]
        exact ⟨_, rfl⟩
  | input packet =>
      dsimp only [Submission.call, serverStep]
      rcases submit_input_cases sim packet with ⟨same, _⟩ | ⟨_, _, accepted⟩
      · rw [same]
        exact Appends.refl sim
      · rw [accepted]
        exact Appends.refl sim

theorem submissions_append (sim : GameSimulation) (submissions : List Submission) :
    Appends sim (Runs.run serverStep sim (submissions.map Submission.call)) := by
  apply Runs.run_invariant_of_mem serverStep (Appends sim)
  · intro call member after appends
    obtain ⟨submission, _, rfl⟩ := List.mem_map.mp member
    exact appends.trans (submission_appends after submission)
  · exact Appends.refl sim

theorem round_run (round : Round) (sim : GameSimulation) :
    Runs.run serverStep sim round.calls =
      tickFixed round.order (Runs.run serverStep
        (serverStep (Runs.run serverStep sim (round.before.map Submission.call))
          (.input round.input)) (round.after.map Submission.call)) := by
  unfold Round.calls
  rw [Runs.run_append, Runs.run_append, Runs.run_append]
  rfl

/-- What the submissions of a round leave for its tick: of the pending inputs of
the client, that of the round is the last. -/
structure Submitted (clientId : ClientId) (round : Round) (before after : GameSimulation) :
    Prop where
  config : after.config = before.config
  entry : after.playerByClient[clientId]? = before.playerByClient[clientId]?
  sequence : after.lastAcceptedSequence[clientId]? = some round.input.header.sequence
  rows : ∀ entity row, before.registry.get? entity = some row →
    after.registry.get? entity = some row
  pending : ∃ earlier,
    (after.pendingInputs.filter fun packet => packet.header.clientId = clientId) =
      earlier ++ [round.input]
  appends : Appends before after

theorem round_submitted (round : Round) (clientId : ClientId) (isFor : round.IsFor clientId)
    (sim : GameSimulation) (playing : (sim.playerByClient[clientId]?).isSome)
    (newer : (sim.lastAcceptedSequence[clientId]?).getD 0 < round.input.header.sequence) :
    Submitted clientId round sim (Runs.run serverStep
      (serverStep (Runs.run serverStep sim (round.before.map Submission.call))
        (.input round.input)) (round.after.map Submission.call)) := by
  have own := isFor.own
  have early := submissions_undisturbed clientId sim round.before
    fun submission member => isFor.others submission (List.mem_append_left _ member)
  obtain ⟨addedEarly, queuedEarly⟩ := submissions_append sim round.before
  generalize Runs.run serverStep sim (round.before.map Submission.call) = first
    at early queuedEarly ⊢
  -- The client's own input is accepted.
  rw [own_input_accepted first round.input (by rw [own, early.entry]; exact playing)
    (by rw [own, early.sequence]; exact newer)]
  generalize isSecond : ({ first with
    lastAcceptedSequence :=
      first.lastAcceptedSequence.insert round.input.header.clientId round.input.header.sequence
    pendingInputs := first.pendingInputs ++ [round.input] } : GameSimulation) = second
  have late := submissions_undisturbed clientId second round.after
    fun submission member => isFor.others submission (List.mem_append_right _ member)
  obtain ⟨addedLate, queuedLate⟩ := submissions_append second round.after
  generalize Runs.run serverStep second (round.after.map Submission.call) = third
    at late queuedLate ⊢
  subst isSecond
  constructor
  case config => exact late.config.trans early.config
  case entry => exact late.entry.trans early.entry
  case sequence =>
    rw [late.sequence]
    dsimp only
    rw [get_insert, if_pos own]
  case rows =>
    intro entity row present
    exact late.rows entity row (early.rows entity row present)
  case pending =>
    obtain ⟨others, pendingThird, fromOthers⟩ := late.pending
    have none : (others.filter fun packet => packet.header.clientId = clientId) = [] := by
      apply List.filter_eq_nil_iff.mpr
      intro packet member
      simpa using fromOthers packet member
    refine ⟨first.pendingInputs.filter fun packet => packet.header.clientId = clientId, ?_⟩
    rw [pendingThird, List.filter_append, List.filter_append, none]
    simp [own]
  case appends => exact ⟨addedEarly ++ addedLate, Queued.trans queuedEarly queuedLate⟩

/-- What a round does to the client's player. -/
structure RoundOutcome (clientId : ClientId) (entity : Entity) (motion : Motion) (round : Round)
    (before after : GameSimulation) : Prop where
  config : after.config = before.config
  sequence : after.lastAcceptedSequence[clientId]? = some round.input.header.sequence
  stands : ∃ added, Queued before after added ∧
    ((∀ died, DomainEvent.playerDied died ∈ added → died.entityId ≠ idOf entity) →
      Stands after clientId entity (moveUnder before.config motion round.input))

/-- One round moves the player under the input of the round. -/
theorem round_outcome (round : Round) (clientId : ClientId) (isFor : round.IsFor clientId)
    (sim : GameSimulation) (kept : WhileUnwrapped sim) (entity : Entity) (motion : Motion)
    (stands : Stands sim clientId entity motion)
    (newer : (sim.lastAcceptedSequence[clientId]?).getD 0 < round.input.header.sequence)
    (room : (Runs.run serverStep sim round.calls).registry.created < 2 ^ 32 - 1) :
    RoundOutcome clientId entity motion round sim (Runs.run serverStep sim round.calls) := by
  rw [round_run] at room ⊢
  have submitted := round_submitted round clientId isFor sim (by rw [stands.entry]; rfl) newer
  have keptEarly := Runs.run_invariant serverStep WhileUnwrapped server_step_identified sim kept
    (round.before.map Submission.call)
  have keptThird := Runs.run_invariant serverStep WhileUnwrapped server_step_identified _
    (server_step_identified _ (.input round.input) keptEarly) (round.after.map Submission.call)
  generalize Runs.run serverStep (serverStep (Runs.run serverStep sim
    (round.before.map Submission.call)) (.input round.input)) (round.after.map Submission.call) =
      third at submitted keptThird room ⊢
  obtain ⟨row, before, moves⟩ := stands.row
  have present := submitted.rows entity row before
  have standsThird : Stands third clientId entity motion :=
    ⟨submitted.entry.trans stands.entry, row, present, moves⟩
  have roomThird : third.registry.created < 2 ^ 32 - 1 :=
    Nat.lt_of_le_of_lt (tick_aged round.order third).created room
  have identified := keptThird roomThird
  obtain ⟨earlier, pending⟩ := submitted.pending
  -- Of the inputs for the player the round's own is the last.
  have inputs : inputsFor (advanceClock third) entity = earlier ++ [round.input] := by
    have target (packet : ClientInputPacket) :
        (advanceClock third).inputTarget packet.header.clientId = some entity ↔
          packet.header.clientId = clientId :=
      input_target_own third identified roomThird standsThird packet.header.clientId
    unfold inputsFor
    simp only [target]
    exact pending
  have noProjectile := identified.apart entity row present moves.player
  obtain ⟨added, queued, outcome⟩ :=
    tick_moves round.order third entity _ round.input inputs present noProjectile moves
  obtain ⟨submittedEvents, queuedBefore⟩ := submitted.appends
  obtain ⟨config, players, sequences⟩ := tick_setup round.order third
  refine ⟨config.trans submitted.config, ?_, submittedEvents ++ added,
    Queued.trans queuedBefore queued, ?_⟩
  · rw [sequences, submitted.sequence]
  · intro spared
    obtain ⟨later, found, _, moved⟩ := outcome (by
      intro died member isIdentity
      rw [identified.carried entity row present] at isIdentity
      have same := congrArg NetworkIdentityComponent.id (Option.some.inj isIdentity)
      exact spared died (List.mem_append_right _ member) same.symm)
    rw [← submitted.config]
    exact ⟨by rw [players]; exact standsThird.entry, later, found, moved⟩

theorem rounds_append (sim : GameSimulation) (rounds : List Round) :
    Appends sim (Runs.run serverStep sim (rounds.flatMap Round.calls)) := by
  induction rounds generalizing sim with
  | nil => exact Appends.refl sim
  | cons round rest ih =>
      rw [List.flatMap_cons, Runs.run_append]
      refine Appends.trans ?_ (ih _)
      rw [round_run]
      have early := submissions_append sim round.before
      have own := submission_appends
        (Runs.run serverStep sim (round.before.map Submission.call)) (.input round.input)
      exact ((early.trans own).trans (submissions_append _ round.after)).trans
        (tick_appends round.order _)

/-- The rounds after one another move the player under all their inputs. -/
theorem rounds_stand (rounds : List Round) (clientId : ClientId)
    (isFor : ∀ round ∈ rounds, round.IsFor clientId) (sim : GameSimulation)
    (kept : WhileUnwrapped sim) (entity : Entity) (motion : Motion)
    (stands : Stands sim clientId entity motion)
    (increasing : List.IsChain (· < ·) ((sim.lastAcceptedSequence[clientId]?).getD 0 ::
      rounds.map fun round => round.input.header.sequence))
    (room : (Runs.run serverStep sim (rounds.flatMap Round.calls)).registry.created < 2 ^ 32 - 1)
    (spared : ∀ added, Queued sim (Runs.run serverStep sim (rounds.flatMap Round.calls)) added →
      ∀ died, DomainEvent.playerDied died ∈ added → died.entityId ≠ idOf entity) :
    Stands (Runs.run serverStep sim (rounds.flatMap Round.calls)) clientId entity
      ((rounds.map fun round => round.input).foldl (moveUnder sim.config) motion) := by
  induction rounds generalizing sim motion with
  | nil => exact stands
  | cons round rest ih =>
      rw [List.flatMap_cons, Runs.run_append] at room spared ⊢
      rw [List.map_cons, List.isChain_cons_cons] at increasing
      obtain ⟨newer, later⟩ := increasing
      have aged := Runs.run_relates serverStep Aged Aged.refl Aged.trans server_step_aged
        (Runs.run serverStep sim round.calls) (rest.flatMap Round.calls)
      have outcome := round_outcome round clientId (isFor round List.mem_cons_self) sim kept entity
        motion stands newer (Nat.lt_of_le_of_lt aged.created room)
      have keptNext := Runs.run_invariant serverStep WhileUnwrapped server_step_identified sim kept
        round.calls
      obtain ⟨rest', queuedRest⟩ := rounds_append (Runs.run serverStep sim round.calls) rest
      generalize Runs.run serverStep sim round.calls = next at *
      obtain ⟨added, queued, moved⟩ := outcome.stands
      have standsNext := moved fun died member =>
        spared (added ++ rest') (queued.trans queuedRest) died (List.mem_append_left _ member)
      have all := ih (fun other member => isFor other (List.mem_cons_of_mem round member)) next
        keptNext (moveUnder sim.config motion round.input) standsNext
        (by rw [outcome.sequence]; exact later) room
        (fun more queuedMore died member =>
          spared (added ++ more) (queued.trans queuedMore) died (List.mem_append_right _ member))
      rw [outcome.config] at all
      exact all

end Brawololo.PlayerMotion
