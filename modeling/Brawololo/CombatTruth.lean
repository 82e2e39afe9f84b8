import Brawololo.SimulationSnapshots
import Brawololo.SimulationStages

/-!
Combat state in the simulation of a client. The stages of a tick run in both
modes, and only the warmups look at the mode. So a tick of a client leaves the
combat state alone exactly when no projectile strikes or takes a player with
it and no respawn is due; every other call but applying a snapshot always does.
-/

namespace Brawololo.CombatTruth

open GameTypes EntityStore Simulation Simulation.GameSimulation SimulationStages
open SimulationSnapshots

inductive PredictionCall where
  | login (command : LoginCommand)
  | input (packet : ClientInputPacket)
  | snapshot (order : LoopOrder) (snapshot : SnapshotDTO) (localClientId : ClientId)
  | replay (inputs : List ClientInputPacket)
  | tick (order : LoopOrder)

def predictionStep (sim : GameSimulation) : PredictionCall → GameSimulation
  | .login command => (submitLogin sim command).1
  | .input packet => (submitInput sim packet).1
  | .snapshot order snapshot localClientId => applySnapshot order sim snapshot localClientId
  | .replay inputs => replayLocalInputsForPrediction sim inputs
  | .tick order => tickFixed order sim

/-- The fields of a player that the server decides. -/
def combatOf (row : Components) : Option (Int32 × Bool × TimestampMs) :=
  row.player.map fun player => (player.health, player.defeated, player.respawnAtMs)

def IsCombatEvent : DomainEvent → Prop
  | .weaponFired _ | .projectileSpawned _ | .hitConfirmed _ | .playerDamaged _
  | .playerDied _ | .playerRespawned _ => True
  | _ => False

def CombatKept (before after : GameSimulation) : Prop :=
  ∀ entity row, before.registry.get? entity = some row →
    (after.registry.get? entity).bind combatOf = combatOf row

/-- No player's combat fields change and no combat event is queued. -/
def LeavesCombat (before after : GameSimulation) : Prop :=
  CombatKept before after ∧ QueuesOnly (fun event => ¬ IsCombatEvent event) before after

/-- What is asked of a call in client mode. -/
def CallLeavesCombat (sim : GameSimulation) (call : PredictionCall) : Prop :=
  match call with
  | .snapshot _ _ _ => True
  | call => LeavesCombat sim (predictionStep sim call)

/-! The condition on a tick. -/

/-- The row with its flight in this tick, for a projectile that has had its turn. -/
def flownRow (config : SimulationConfig) (flown : List Entity) (entity : Entity)
    (row : Components) : Components :=
  if entity ∈ flown then fly config row else row

/-- The turn of one projectile, after those in `earlier`, takes no player from
the map and strikes none. -/
def TurnMisses (config : SimulationConfig) (timeMs : TimestampMs)
    (rows : Entity → Option Components) (earlier : List Entity) (entity : Entity) : Prop :=
  ∀ row projectile transform, rows entity = some row → row.projectile = some projectile →
    (fly config row).transform = some transform →
    if projectileGone config timeMs projectile transform then row.player = none
    else ∀ target targetRow, rows target = some targetRow →
      hits projectile transform (flownRow config (earlier ++ [entity]) target targetRow) = false

/-- No turn in the order of the loop strikes. -/
def NoStrike (order : LoopOrder) (sim : GameSimulation) : Prop :=
  ∀ earlier entity later,
    sim.registry.view order .projectiles inProjectileView = earlier ++ entity :: later →
    TurnMisses sim.config sim.timeMs
      (fun entity => (sim.registry.get? entity).map (movedRow sim entity)) earlier entity

/-- No player is due to respawn. -/
def NoRespawn (sim : GameSimulation) : Prop :=
  ∀ entity row player, sim.registry.get? entity = some row → inRespawnView row →
    row.player = some player → player.defeated → sim.timeMs < player.respawnAtMs

def QuietTick (order : LoopOrder) (sim : GameSimulation) : Prop :=
  NoStrike order (advanceClock sim) ∧ NoRespawn (advanceClock sim)

/-- The condition on a call: a tick must be quiet. -/
def CallIsQuiet (sim : GameSimulation) (call : PredictionCall) : Prop :=
  match call with
  | .tick order => QuietTick order sim
  | _ => True

/-! Leaving combat alone is transitive and what the row updates do. -/

theorem LeavesCombat.refl (sim : GameSimulation) : LeavesCombat sim sim := by
  refine ⟨?_, QueuesOnly.refl sim⟩
  intro entity row present
  rw [present]
  rfl

theorem CombatKept.trans {first second third : GameSimulation}
    (left : CombatKept first second) (right : CombatKept second third)
    (dead : ∀ entity, entity < first.registry.created → second.registry.get? entity = none →
      third.registry.get? entity = none) : CombatKept first third := by
  intro entity row present
  have one := left entity row present
  cases found : second.registry.get? entity with
  | none =>
      rw [found] at one
      rw [dead entity (Registry.get?_lt _ present) found]
      exact one
  | some later =>
      rw [found] at one
      exact (right entity later found).trans one

def SameCombat (row later : Components) : Prop := combatOf later = combatOf row

theorem SameCombat.refl (row : Components) : SameCombat row row := rfl

theorem combat_kept_of_rows {before after : GameSimulation}
    (rows : RowsRelated SameCombat before after) :
    CombatKept before after := by
  intro entity row present
  obtain ⟨later, found, same⟩ := rows.forward present
  rw [found]
  exact same

/-- Combat kept and the dead left dead: what composes along the stages. -/
structure Spares (before after : GameSimulation) : Prop where
  leaves : LeavesCombat before after
  aged : Aged before after

theorem Spares.refl (sim : GameSimulation) : Spares sim sim :=
  ⟨LeavesCombat.refl sim, Aged.refl sim⟩

theorem Spares.trans {first second third : GameSimulation} (left : Spares first second)
    (right : Spares second third) : Spares first third :=
  ⟨⟨left.leaves.1.trans right.leaves.1 fun entity below gone =>
      right.aged.dead entity (Nat.lt_of_lt_of_le below left.aged.created) gone,
    left.leaves.2.trans right.leaves.2⟩, left.aged.trans right.aged⟩

theorem input_event_not_combat (event : DomainEvent) (input : isInputEvent event) :
    ¬ IsCombatEvent event := by
  rcases input with ⟨warmup, rfl⟩ | ⟨moved, rfl⟩
  · exact id
  · exact id

theorem update_entity_spares (update : Components → Components × EventList)
    (sim : GameSimulation) (entity : Entity)
    (combat : ∀ row, combatOf (update row).1 = combatOf row)
    (events : ∀ row, ∀ event ∈ (update row).2, ¬ IsCombatEvent event) :
    Spares sim (sim.updateEntity update entity) := by
  have rows : RowsRelated SameCombat sim (sim.updateEntity update entity) :=
    update_entity_rows SameCombat.refl update sim entity fun row _ => combat row
  exact ⟨⟨combat_kept_of_rows rows, update_entity_queues update _ sim entity events⟩,
    aged_of_rows (update_entity_tables update sim entity) rows⟩

/-! The calls other than a tick. -/

theorem replay_input_spares (sim : GameSimulation) (packet : ClientInputPacket) :
    Spares sim (replayLocalInput sim packet) := by
  unfold replayLocalInput
  split
  · exact Spares.refl sim
  · apply update_entity_spares
    · intro row
      obtain ⟨_, _, _, applied⟩ := apply_input_changes sim.config sim.timeMs packet row
      obtain ⟨_, _, moved, _⟩ := integrate_changes sim.config
        (applyInputToEntity sim.config sim.timeMs packet row).1
      simp only [replayInput, clearIntent, combatOf]
      rw [moved]
      dsimp only
      rw [applied]
    · intro row event queued
      rcases List.mem_append.mp queued with warmup | movement
      · exact input_event_not_combat event
          (Or.inl (apply_input_events _ _ packet row event warmup))
      · exact input_event_not_combat event (Or.inr (integrate_events _ _ event movement))

theorem replay_spares (sim : GameSimulation) (inputs : List ClientInputPacket) :
    Spares sim (replayLocalInputsForPrediction sim inputs) :=
  Runs.run_relates replayLocalInput Spares Spares.refl Spares.trans replay_input_spares sim inputs

theorem submit_input_leaves (sim : GameSimulation) (packet : ClientInputPacket) :
    LeavesCombat sim (submitInput sim packet).1 := by
  have unchanged := LeavesCombat.refl sim
  rcases submit_input_cases sim packet with ⟨same, _⟩ | ⟨_, _, accepted⟩
  · rw [same]
    exact unchanged
  · rw [accepted]
    exact unchanged

theorem submit_login_leaves (sim : GameSimulation) (command : LoginCommand) :
    LeavesCombat sim (submitLogin sim command).1 := by
  rcases submit_login_cases sim command with same | ⟨_, _, joined⟩
  · rw [same]
    exact LeavesCombat.refl sim
  · rw [joined]
    constructor
    · -- The new player is a new entity; every old row stays.
      intro entity row present
      have below := Registry.get?_lt _ present
      unfold createPlayer
      dsimp only [allocateNetworkId]
      rw [Registry.get?_create, if_neg (Nat.ne_of_lt below), present]
      rfl
    · refine ⟨_, rfl, ?_⟩
      intro event member
      rw [List.mem_singleton.mp member]
      exact id

/-! The inputs and the warmups of a client tick. -/

theorem advance_clock_spares (sim : GameSimulation) : Spares sim (advanceClock sim) :=
  ⟨LeavesCombat.refl sim, ⟨Nat.le_refl _, fun _ _ gone => gone⟩⟩

theorem process_inputs_spares (order : LoopOrder) (sim : GameSimulation) :
    Spares sim (processInputs order sim) := by
  have rows : RowsRelated SameCombat sim (processInputs order sim) := by
    apply rows_related_of_map (movedRow sim) (process_inputs_row order sim)
    intro entity row
    obtain ⟨_, _, _, _, moved, _⟩ := moved_row_changes sim entity row
    rw [moved]
    exact SameCombat.refl row
  exact ⟨⟨combat_kept_of_rows rows,
      QueuesOnly.mono input_event_not_combat (process_inputs_queues order sim)⟩,
    aged_of_rows (process_inputs_tables order sim) rows⟩

theorem client_warmups_spares (order : LoopOrder) (sim : GameSimulation)
    (client : sim.config.mode = .clientPrediction) :
    Spares sim (processWeaponWarmups order sim) := by
  rw [client_warmups_eq order sim client]
  have rows : RowsRelated SameCombat sim (sim.forEachEntity order .weaponWarmups inWarmupView
      (finishWarmup sim.config sim.timeMs)) := by
    apply for_each_rows SameCombat.refl
    intro row
    obtain ⟨weapon, finished⟩ := finish_warmup_changes sim.config sim.timeMs row
    rw [finished]
    exact SameCombat.refl row
  refine ⟨⟨combat_kept_of_rows rows, ?_⟩, aged_of_rows (for_each_tables _ _ _ _ sim) rows⟩
  apply for_each_queues
  intro row event queued
  have server := (finish_warmup_events sim.config sim.timeMs row event queued).1
  rw [client] at server
  cases server

/-! The loop over the projectiles. -/

/-- The condition on a turn at the state in which the turn starts. -/
def QuietTurn (state : GameSimulation × List Entity) (entity : Entity) : Prop :=
  TurnMisses state.1.config state.1.timeMs state.1.registry.get? [] entity

def flyEntity (sim : GameSimulation) (entity : Entity) : GameSimulation :=
  sim.updateEntity (fun row => (fly sim.config row, [])) entity

theorem fly_entity_row (sim : GameSimulation) (entity other : Entity) :
    (flyEntity sim entity).registry.get? other =
      (sim.registry.get? other).map (flownRow sim.config [entity] other) := by
  rw [flyEntity, update_entity_row]
  by_cases same : other = entity
  · subst same
    cases sim.registry.get? other with
    | none => simp
    | some row => simp [flownRow]
  · cases sim.registry.get? other with
    | none => simp [same]
    | some row => simp [same, flownRow]

/-- A quiet turn flies the projectile and puts no player on the list. -/
theorem quiet_turn (targets : List Entity) (sim : GameSimulation) (toDestroy : List Entity)
    (entity : Entity) (row : Components) (present : sim.registry.get? entity = some row)
    (viewed : inProjectileView row) (quiet : QuietTurn (sim, toDestroy) entity) :
    (processProjectile targets (sim, toDestroy) entity).1 = flyEntity sim entity ∧
    ((processProjectile targets (sim, toDestroy) entity).2 = toDestroy ∨
      (processProjectile targets (sim, toDestroy) entity).2 = toDestroy ++ [entity] ∧
        row.player = none) := by
  have turn := process_projectile_turn targets sim toDestroy entity
  generalize processProjectile targets (sim, toDestroy) entity = result at turn ⊢
  cases turn with
  | skipped absent =>
      rw [absent row present] at viewed
      cases viewed
  | gone found projectile transform isRow carries flown leaves =>
      rw [present] at isRow
      cases isRow
      have misses := quiet row projectile transform present carries flown
      rw [if_pos leaves] at misses
      exact ⟨rfl, Or.inr ⟨rfl, misses⟩⟩
  | flew => exact ⟨rfl, Or.inl rfl⟩
  | struck found identity projectile transform target targetRow isRow carries flown stays aimed
      isTarget hit =>
      rw [present] at isRow
      cases isRow
      have misses := quiet row projectile transform present carries flown
      rw [if_neg (by simp [stays])] at misses
      have isFlown := fly_entity_row sim entity target
      rw [flyEntity, isTarget] at isFlown
      obtain ⟨before, isBefore, same⟩ := Option.map_eq_some_iff.mp isFlown.symm
      have missed := misses target before isBefore
      rw [List.nil_append, same, hit] at missed
      cases missed

theorem hits_in_view (projectile : ProjectileComponent) (transform : TransformComponent)
    (row : Components) (hit : hits projectile transform row = true) : inTargetView row = true := by
  unfold hits at hit
  split at hit
  · next named isPlayer placed => simp [inTargetView, named, isPlayer, placed]
  · cases hit

theorem flown_in_view (config : SimulationConfig) (flown : List Entity) (entity : Entity)
    (row : Components) : inTargetView (flownRow config flown entity row) = inTargetView row := by
  unfold flownRow
  split
  · obtain ⟨transform, flies, placed⟩ := fly_changes config row
    simp only [flies, inTargetView, placed]
  · rfl

theorem damage_announced (config : SimulationConfig) (timeMs : TimestampMs)
    (projectileId : NetworkEntityId) (projectile : ProjectileComponent)
    (transform : TransformComponent) (row : Components)
    (hit : hits projectile transform row = true) :
    ∃ confirmed, DomainEvent.hitConfirmed confirmed ∈
      (damagePlayer config timeMs projectileId projectile row).2 := by
  unfold hits at hit
  split at hit
  · next named isPlayer placed =>
      unfold damagePlayer
      rw [named, isPlayer]
      dsimp only
      split
      · exact ⟨_, List.mem_append_left _ List.mem_cons_self⟩
      · exact ⟨_, List.mem_cons_self⟩
  · cases hit

/-- A turn that is not quiet queues a hit or puts a player on the list. -/
theorem loud_turn (targets : List Entity) (sim : GameSimulation) (toDestroy : List Entity)
    (entity : Entity) (row : Components) (present : sim.registry.get? entity = some row)
    (viewed : inProjectileView row) (loud : ¬ QuietTurn (sim, toDestroy) entity)
    (allTargets : ∀ target targetRow, sim.registry.get? target = some targetRow →
      inTargetView targetRow → target ∈ targets) :
    (∃ added, Queued sim (processProjectile targets (sim, toDestroy) entity).1 added ∧
      ∃ event ∈ added, IsCombatEvent event) ∨
    entity ∈ (processProjectile targets (sim, toDestroy) entity).2 ∧ row.player.isSome := by
  have turn := process_projectile_turn targets sim toDestroy entity
  generalize processProjectile targets (sim, toDestroy) entity = result at turn ⊢
  cases turn with
  | skipped absent =>
      rw [absent row present] at viewed
      cases viewed
  | gone found projectile transform isRow carries flown leaves =>
      rw [present] at isRow
      cases isRow
      refine Or.inr ⟨by simp, ?_⟩
      by_contra noPlayer
      apply loud
      intro other carried place isRow isProjectile isPlaced
      rw [present] at isRow
      cases isRow
      rw [carries] at isProjectile
      cases isProjectile
      rw [flown] at isPlaced
      cases isPlaced
      rw [if_pos leaves]
      exact Option.not_isSome_iff_eq_none.mp noPlayer
  | flew found projectile transform isRow carries flown stays clear =>
      rw [present] at isRow
      cases isRow
      exfalso
      apply loud
      intro other carried place isRow isProjectile isPlaced
      rw [present] at isRow
      cases isRow
      rw [carries] at isProjectile
      cases isProjectile
      rw [flown] at isPlaced
      cases isPlaced
      rw [if_neg (by simp [stays])]
      intro target targetRow isTarget
      rw [List.nil_append]
      by_contra struck
      -- A row that is hit is in the view of targets, so the loop has tested it.
      have hit := Bool.of_not_eq_false struck
      have inView := hits_in_view _ _ _ hit
      rw [flown_in_view] at inView
      have tested := clear target (allTargets target targetRow isTarget inView)
        (flownRow sim.config [entity] target targetRow)
      have flownTarget := fly_entity_row sim entity target
      rw [isTarget] at flownTarget
      rw [tested flownTarget] at hit
      cases hit
  | struck found identity projectile transform target targetRow isRow carries flown stays aimed
      isTarget hit =>
      left
      obtain ⟨confirmed, announced⟩ :=
        damage_announced sim.config sim.timeMs identity.id projectile transform targetRow hit
      refine ⟨_, (update_entity_queued _ sim entity).trans (update_entity_queued _ _ target),
        .hitConfirmed confirmed, ?_, trivial⟩
      rw [isTarget]
      exact List.mem_append_right _ announced

/-! The whole loop. -/

/-- Every member of the list is a projectile the loop visits. -/
def AllViewed (sim : GameSimulation) (entities : List Entity) : Prop :=
  ∀ entity ∈ entities, ∃ row, sim.registry.get? entity = some row ∧ inProjectileView row = true

theorem flown_projectile_view (config : SimulationConfig) (flown : List Entity) (entity : Entity)
    (row : Components) :
    inProjectileView (flownRow config flown entity row) = inProjectileView row := by
  unfold flownRow
  split
  · obtain ⟨transform, flies, placed⟩ := fly_changes config row
    simp only [flies, inProjectileView, placed]
  · rfl

theorem flown_player (config : SimulationConfig) (flown : List Entity) (entity : Entity)
    (row : Components) : (flownRow config flown entity row).player = row.player := by
  unfold flownRow
  split
  · obtain ⟨transform, flies, _⟩ := fly_changes config row
    rw [flies]
  · rfl

theorem fly_entity_viewed (sim : GameSimulation) (entity : Entity) (entities : List Entity)
    (viewed : AllViewed sim entities) : AllViewed (flyEntity sim entity) entities := by
  intro other member
  obtain ⟨row, present, passes⟩ := viewed other member
  refine ⟨flownRow sim.config [entity] other row, ?_, ?_⟩
  · rw [fly_entity_row, present]
    rfl
  · rw [flown_projectile_view]
    exact passes

theorem fly_entity_silent (sim : GameSimulation) (entity : Entity) :
    (flyEntity sim entity).events = sim.events :=
  Eq.trans (update_entity_quiet (fly sim.config) sim entity) (List.append_nil _)

/-- Flights of different projectiles add up. -/
theorem flown_append (config : SimulationConfig) (earlier later : List Entity) (entity : Entity)
    (apart : entity ∈ later → entity ∉ earlier) (row : Components) :
    flownRow config later entity (flownRow config earlier entity row) =
      flownRow config (earlier ++ later) entity row := by
  unfold flownRow
  by_cases early : entity ∈ earlier
  · by_cases late : entity ∈ later
    · exact absurd early (apart late)
    · simp [early, late]
  · simp [early]

/-- What a loop in which every turn is quiet leaves behind. -/
structure QuietLoop (before : GameSimulation) (toDestroy entities : List Entity)
    (after : GameSimulation × List Entity) : Prop where
  rows : ∀ entity, after.1.registry.get? entity =
    (before.registry.get? entity).map (flownRow before.config entities entity)
  silent : after.1.events = before.events
  noPlayers : ∀ entity ∈ after.2, entity ∈ toDestroy ∨
    ∃ row, before.registry.get? entity = some row ∧ row.player = none

theorem quiet_loop (targets entities : List Entity) (distinct : entities.Nodup)
    (sim : GameSimulation) (toDestroy : List Entity) (viewed : AllViewed sim entities)
    (quiet : Runs.EveryStep (processProjectile targets) QuietTurn (sim, toDestroy) entities) :
    QuietLoop sim toDestroy entities (entities.foldl (processProjectile targets) (sim, toDestroy)) := by
  induction entities generalizing sim toDestroy with
  | nil =>
      refine ⟨?_, rfl, fun entity member => Or.inl member⟩
      intro entity
      rw [List.foldl_nil]
      cases sim.registry.get? entity with
      | none => rfl
      | some row => simp [flownRow]
  | cons head rest ih =>
      obtain ⟨fresh, distinctRest⟩ := List.nodup_cons.mp distinct
      obtain ⟨row, present, passes⟩ := viewed head List.mem_cons_self
      have turn := quiet_turn targets sim toDestroy head row present passes quiet.1
      have config := (process_projectile_tables targets sim toDestroy head).config
      have quietRest := quiet.2
      rw [List.foldl_cons]
      generalize processProjectile targets (sim, toDestroy) head = state at turn config quietRest ⊢
      obtain ⟨flew, listed⟩ := state
      dsimp only at turn config
      obtain ⟨rfl, list⟩ := turn
      have viewedRest := fly_entity_viewed sim head rest
        fun entity member => viewed entity (List.mem_cons_of_mem head member)
      have later := ih distinctRest (flyEntity sim head) listed viewedRest quietRest
      refine ⟨?_, later.silent.trans (fly_entity_silent sim head), ?_⟩
      · intro entity
        rw [later.rows, fly_entity_row, config]
        cases sim.registry.get? entity with
        | none => rfl
        | some found =>
            have sum := flown_append sim.config [head] rest entity (by
              intro late early
              rw [List.mem_singleton.mp early] at late
              exact fresh late) found
            exact congrArg some sum
      · intro entity member
        rcases later.noPlayers entity member with old | ⟨flownFound, isFlown, noPlayer⟩
        · rcases list with same | ⟨grown, noPlayer⟩
          · exact Or.inl (same ▸ old)
          · rw [grown] at old
            rcases List.mem_append.mp old with older | new
            · exact Or.inl older
            · rw [List.mem_singleton.mp new]
              exact Or.inr ⟨row, present, noPlayer⟩
        · rw [fly_entity_row] at isFlown
          obtain ⟨found, isRow, same⟩ := Option.map_eq_some_iff.mp isFlown
          refine Or.inr ⟨found, isRow, ?_⟩
          rw [← same, flown_player] at noPlayer
          exact noPlayer

/-- The condition on a turn does not depend on the flights before it being
recorded in the rows or in the list. -/
theorem turn_misses_flown (config : SimulationConfig) (timeMs : TimestampMs)
    (rows : Entity → Option Components) (earlier : List Entity) (entity : Entity)
    (fresh : entity ∉ earlier) :
    TurnMisses config timeMs (fun other => (rows other).map (flownRow config earlier other)) []
        entity ↔
      TurnMisses config timeMs rows earlier entity := by
  -- The flight of the entity itself comes after all of the earlier ones.
  have unflown (row : Components) : flownRow config earlier entity row = row := by
    simp [flownRow, fresh]
  have targets (projectile : ProjectileComponent) (transform : TransformComponent) :
      (∀ target targetRow, (rows target).map (flownRow config earlier target) = some targetRow →
        hits projectile transform (flownRow config ([] ++ [entity]) target targetRow) = false) ↔
      ∀ target targetRow, rows target = some targetRow →
        hits projectile transform (flownRow config (earlier ++ [entity]) target targetRow) =
          false := by
    have sum (target : Entity) (row : Components) :
        flownRow config [entity] target (flownRow config earlier target row) =
          flownRow config (earlier ++ [entity]) target row := by
      apply flown_append
      intro late
      rw [List.mem_singleton.mp late]
      exact fresh
    constructor
    · intro misses target targetRow isTarget
      rw [← sum]
      exact misses target _ (by rw [isTarget]; rfl)
    · intro misses target flownTarget isFlown
      obtain ⟨targetRow, isTarget, rfl⟩ := Option.map_eq_some_iff.mp isFlown
      rw [List.nil_append, sum]
      exact misses target targetRow isTarget
  constructor
  · intro misses row projectile transform present carries flown
    rw [← targets]
    apply misses row projectile transform _ carries flown
    dsimp only
    rw [present, Option.map_some, unflown]
  · intro misses row projectile transform present carries flown
    obtain ⟨found, isRow, same⟩ := Option.map_eq_some_iff.mp present
    rw [unflown] at same
    subst same
    rw [targets]
    exact misses found projectile transform isRow carries flown

/-- Every turn is quiet exactly when the static condition holds at each turn. -/
theorem quiet_loop_iff (targets entities : List Entity) (distinct : entities.Nodup)
    (sim : GameSimulation) (viewed : AllViewed sim entities) :
    Runs.EveryStep (processProjectile targets) QuietTurn (sim, []) entities ↔
      ∀ earlier entity later, entities = earlier ++ entity :: later →
        TurnMisses sim.config sim.timeMs sim.registry.get? earlier entity := by
  -- After quiet turns for `earlier` the dynamic and the static condition agree.
  have agree : ∀ earlier entity later, entities = earlier ++ entity :: later →
      Runs.EveryStep (processProjectile targets) QuietTurn (sim, []) earlier →
      (QuietTurn (earlier.foldl (processProjectile targets) (sim, [])) entity ↔
        TurnMisses sim.config sim.timeMs sim.registry.get? earlier entity) := by
    rintro earlier entity later rfl quiet
    have distinctEarlier := (List.nodup_append.mp distinct).1
    have fresh : entity ∉ earlier := by
      intro member
      exact (List.nodup_append.mp distinct).2.2 entity member entity List.mem_cons_self rfl
    have loop := quiet_loop targets earlier distinctEarlier sim [] 
      (fun other member => viewed other (List.mem_append_left _ member)) quiet
    have tables := projectile_loop_tables targets earlier (sim, [])
    rw [← turn_misses_flown sim.config sim.timeMs sim.registry.get? earlier entity fresh]
    unfold QuietTurn
    rw [tables.config, tables.timeMs, funext loop.rows]
  constructor
  · intro quiet earlier entity later split
    have prefixQuiet := quiet
    rw [split, Runs.every_step_append] at prefixQuiet
    exact (agree earlier entity later split prefixQuiet.1).mp prefixQuiet.2.1
  · intro static
    have prefixes : ∀ earlier later, entities = earlier ++ later →
        Runs.EveryStep (processProjectile targets) QuietTurn (sim, []) earlier := by
      intro earlier
      induction earlier using List.reverseRecOn with
      | nil => exact fun _ _ => trivial
      | append_singleton earlier entity ih =>
          intro later split
          rw [List.append_assoc] at split
          have quiet := ih ([entity] ++ later) split
          rw [Runs.every_step_append]
          exact ⟨quiet, (agree earlier entity later split quiet).mpr
            (static earlier entity later split), trivial⟩
    exact prefixes entities [] (by simp)

/-- A turn only appends: events to the queue, entities to the list. -/
theorem projectile_loop_grows (targets entities : List Entity)
    (state : GameSimulation × List Entity) :
    (∃ added, Queued state.1 (entities.foldl (processProjectile targets) state).1 added) ∧
    ∀ entity ∈ state.2, entity ∈ (entities.foldl (processProjectile targets) state).2 := by
  apply Runs.run_relates (processProjectile targets) fun before after =>
    (∃ added, Queued before.1 after.1 added) ∧ ∀ entity ∈ before.2, entity ∈ after.2
  · exact fun state => ⟨⟨[], by simp [Queued]⟩, fun _ member => member⟩
  · rintro first second third ⟨⟨one, left⟩, grown⟩ ⟨⟨two, right⟩, grownMore⟩
    exact ⟨⟨one ++ two, left.trans right⟩, fun entity member => grownMore entity (grown entity member)⟩
  · rintro ⟨sim, toDestroy⟩ entity
    have turn := process_projectile_turn targets sim toDestroy entity
    generalize processProjectile targets (sim, toDestroy) entity = result at turn ⊢
    cases turn with
    | skipped => exact ⟨⟨[], by simp [Queued]⟩, fun _ member => member⟩
    | gone =>
        exact ⟨⟨_, update_entity_queued _ sim entity⟩,
          fun _ member => List.mem_append_left _ member⟩
    | flew => exact ⟨⟨_, update_entity_queued _ sim entity⟩, fun _ member => member⟩
    | struck =>
        exact ⟨⟨_, (update_entity_queued _ sim entity).trans (update_entity_queued _ _ _)⟩,
          fun _ member => List.mem_append_left _ member⟩

/-- A loop with a turn that is not quiet queues a combat event or puts a player
on the list. -/
theorem loud_loop (targets entities : List Entity) (sim : GameSimulation)
    (toDestroy : List Entity) (viewed : AllViewed sim entities)
    (allTargets : ∀ target row, sim.registry.get? target = some row → inTargetView row →
      target ∈ targets)
    (loud : ¬ Runs.EveryStep (processProjectile targets) QuietTurn (sim, toDestroy) entities) :
    (∃ added, Queued sim (entities.foldl (processProjectile targets) (sim, toDestroy)).1 added ∧
      ∃ event ∈ added, IsCombatEvent event) ∨
    ∃ entity ∈ (entities.foldl (processProjectile targets) (sim, toDestroy)).2, ∃ row,
      sim.registry.get? entity = some row ∧ inProjectileView row = true ∧ row.player.isSome := by
  induction entities generalizing sim toDestroy with
  | nil => exact absurd trivial loud
  | cons head rest ih =>
      obtain ⟨row, present, passes⟩ := viewed head List.mem_cons_self
      obtain ⟨⟨more, grown⟩, kept⟩ :=
        projectile_loop_grows targets rest (processProjectile targets (sim, toDestroy) head)
      rw [List.foldl_cons]
      by_cases quiet : QuietTurn (sim, toDestroy) head
      · -- The turn only flew, and one of the later turns is loud.
        have turn := (quiet_turn targets sim toDestroy head row present passes quiet).1
        have loudRest : ¬ Runs.EveryStep (processProjectile targets) QuietTurn
            (processProjectile targets (sim, toDestroy) head) rest := fun all => loud ⟨quiet, all⟩
        generalize processProjectile targets (sim, toDestroy) head = state at turn loudRest ⊢
        obtain ⟨flew, listed⟩ := state
        dsimp only at turn
        subst turn
        have viewedRest := fly_entity_viewed sim head rest
          fun entity member => viewed entity (List.mem_cons_of_mem head member)
        have later := ih (flyEntity sim head) listed viewedRest ?_ loudRest
        · rcases later with ⟨added, queued, combat⟩ | ⟨entity, member, flown, isFlown, view, player⟩
          · refine Or.inl ⟨added, ?_, combat⟩
            unfold Queued at queued ⊢
            rw [queued, fly_entity_silent]
          · rw [fly_entity_row] at isFlown
            obtain ⟨found, isRow, rfl⟩ := Option.map_eq_some_iff.mp isFlown
            rw [flown_projectile_view] at view
            rw [flown_player] at player
            exact Or.inr ⟨entity, member, found, isRow, view, player⟩
        · intro target flownTarget isFlown inView
          rw [fly_entity_row] at isFlown
          obtain ⟨found, isRow, rfl⟩ := Option.map_eq_some_iff.mp isFlown
          rw [flown_in_view] at inView
          exact allTargets target found isRow inView
      · rcases loud_turn targets sim toDestroy head row present passes quiet allTargets with
          ⟨added, queued, event, member, combat⟩ | ⟨listed, player⟩
        · exact Or.inl ⟨added ++ more, queued.trans grown, event,
            List.mem_append_left _ member, combat⟩
        · exact Or.inr ⟨head, kept head listed, row, present, passes, player⟩

/-! The stage of the projectiles. -/

/-- The condition on the loop of one state. -/
def LoopMisses (order : LoopOrder) (sim : GameSimulation) : Prop :=
  ∀ earlier entity later,
    sim.registry.view order .projectiles inProjectileView = earlier ++ entity :: later →
    TurnMisses sim.config sim.timeMs sim.registry.get? earlier entity

theorem view_all_viewed (order : LoopOrder) (sim : GameSimulation) :
    AllViewed sim (sim.registry.view order .projectiles inProjectileView) := by
  intro entity member
  exact (Registry.mem_view _ _ _ _ _).mp member

/-- What the rest of the tick reads in a row that outlives the projectiles. -/
structure SameBody (row later : Components) : Prop where
  view : inRespawnView later = inRespawnView row
  player : later.player = row.player

theorem flown_same_body (config : SimulationConfig) (flown : List Entity) (entity : Entity)
    (row : Components) : SameBody row (flownRow config flown entity row) := by
  refine ⟨?_, flown_player config flown entity row⟩
  unfold flownRow
  split
  · obtain ⟨transform, flies, placed⟩ := fly_changes config row
    simp only [flies, inRespawnView, placed]
  · rfl

/-- What the stage leaves when no turn strikes: players stay, and what stays has
its body. -/
theorem process_projectiles_quiet (order : LoopOrder) (sim : GameSimulation)
    (misses : LoopMisses order sim) :
    (processProjectiles order sim).events = sim.events ∧
    (∀ entity row, sim.registry.get? entity = some row → row.player.isSome →
      ∃ later, (processProjectiles order sim).registry.get? entity = some later ∧
        SameBody row later) ∧
    ∀ entity later, (processProjectiles order sim).registry.get? entity = some later →
      ∃ row, sim.registry.get? entity = some row ∧ SameBody row later := by
  have distinct := sim.registry.nodup_view order .projectiles inProjectileView
  have viewed := view_all_viewed order sim
  have quiet := (quiet_loop_iff (sim.registry.view order .projectileTargets inTargetView) _ distinct
    sim viewed).mpr misses
  have loop := quiet_loop _ _ distinct sim [] viewed quiet
  unfold processProjectiles
  dsimp only
  generalize (sim.registry.view order .projectiles inProjectileView).foldl
    (processProjectile (sim.registry.view order .projectileTargets inTargetView)) (sim, []) =
    result at loop ⊢
  refine ⟨?_, ?_, ?_⟩
  · rw [destroy_all_silent, loop.silent]
  · intro entity row present isPlayer
    -- Only what the loop listed is destroyed, and it lists no player.
    have spared : entity ∉ result.2 := by
      intro listed
      rcases loop.noPlayers entity listed with old | ⟨found, isRow, noPlayer⟩
      · cases old
      · rw [present] at isRow
        cases isRow
        rw [noPlayer] at isPlayer
        cases isPlayer
    refine ⟨flownRow sim.config (sim.registry.view order .projectiles inProjectileView) entity row,
      ?_, flown_same_body _ _ entity row⟩
    rw [destroy_all_row _ _ _ spared, loop.rows, present]
    rfl
  · intro entity later found
    rcases destroy_all_cases result.2 result.1 entity with gone | same
    · rw [gone] at found
      cases found
    · rw [same, loop.rows] at found
      obtain ⟨row, present, rfl⟩ := Option.map_eq_some_iff.mp found
      exact ⟨row, present, flown_same_body _ _ _ row⟩

/-- Where a turn strikes, the stage queues a combat event or a player is gone. -/
theorem process_projectiles_loud (order : LoopOrder) (sim : GameSimulation)
    (strikes : ¬ LoopMisses order sim) :
    (∃ added, Queued sim (processProjectiles order sim) added ∧
      ∃ event ∈ added, IsCombatEvent event) ∨
    ∃ entity row, sim.registry.get? entity = some row ∧ row.player.isSome ∧
      (processProjectiles order sim).registry.get? entity = none := by
  have distinct := sim.registry.nodup_view order .projectiles inProjectileView
  have viewed := view_all_viewed order sim
  have loud := mt (quiet_loop_iff (sim.registry.view order .projectileTargets inTargetView) _
    distinct sim viewed).mp strikes
  have outcome := loud_loop _ _ sim [] viewed (by
    intro target row present inView
    exact (Registry.mem_view _ _ _ _ _).mpr ⟨row, present, inView⟩) loud
  rcases outcome with ⟨added, queued, combat⟩ | ⟨entity, listed, row, present, view, player⟩
  · refine Or.inl ⟨added, ?_, combat⟩
    unfold Queued at queued ⊢
    exact (destroy_all_silent _ _).trans queued
  · refine Or.inr ⟨entity, row, present, player, ?_⟩
    -- The loop has kept the identity by which the entity is destroyed.
    have rows : RowsRelated (fun row later => later.identity = row.identity) sim
        ((sim.registry.view order .projectiles inProjectileView).foldl
          (processProjectile (sim.registry.view order .projectileTargets inTargetView))
          (sim, [])).1 := by
      refine projectile_loop_rows ?_ ?_ sim.config ?_ ?_ _ _ (sim, []) rfl
      · exact fun _ => rfl
      · exact fun _ _ _ one two => two.trans one
      · intro row _
        obtain ⟨transform, flies, _⟩ := fly_changes sim.config row
        rw [flies]
      · intro timeMs projectileId projectile row
        obtain ⟨_, damaged, _⟩ := damage_changes sim.config timeMs projectileId projectile row
        rw [damaged]
    obtain ⟨later, found, same⟩ := rows.forward present
    obtain ⟨identity, _, _, _, named, _⟩ := (in_projectile_view_iff row).mp view
    exact destroy_all_gone _ _ entity listed later found (by rw [same, named]; rfl)

/-! The respawns. -/

theorem respawn_announced (config : SimulationConfig) (timeMs : TimestampMs) (row : Components)
    (player : PlayerComponent) (view : inRespawnView row = true) (isPlayer : row.player = some player)
    (defeated : player.defeated) (due : ¬ timeMs < player.respawnAtMs) :
    ∃ respawned, DomainEvent.playerRespawned respawned ∈ (respawnPlayer config timeMs row).2 := by
  have named : row.identity.isSome := by
    simp only [inRespawnView, Bool.and_eq_true] at view
    exact view.1.1.1
  obtain ⟨identity, isIdentity⟩ := Option.isSome_iff_exists.mp named
  unfold respawnPlayer
  rw [isIdentity, isPlayer]
  dsimp only
  rw [if_neg (by simp [defeated, due])]
  exact ⟨_, List.mem_cons_self⟩

theorem process_respawns_queued (order : LoopOrder) (sim : GameSimulation) :
    Queued sim (processRespawns order sim)
      ((sim.registry.view order .respawns inRespawnView).flatMap fun entity =>
        ((sim.registry.get? entity).map fun row =>
          (respawnPlayer sim.config sim.timeMs row).2).getD []) :=
  for_each_queued _ order .respawns inRespawnView sim

/-- No player of the view is due, so the stage does nothing. -/
theorem process_respawns_quiet (order : LoopOrder) (sim : GameSimulation) (waits : NoRespawn sim) :
    LeavesCombat sim (processRespawns order sim) := by
  have idle : ∀ entity row, sim.registry.get? entity = some row → inRespawnView row = true →
      respawnPlayer sim.config sim.timeMs row = (row, []) :=
    fun entity row present view => respawn_waits _ _ row fun player isPlayer defeated =>
      waits entity row player present view isPlayer defeated
  constructor
  · intro entity row present
    rw [process_respawns_row, present]
    by_cases view : inRespawnView row = true
    · simp [view, idle entity row present view]
    · simp [view]
  · refine ⟨_, process_respawns_queued order sim, ?_⟩
    intro event member
    obtain ⟨entity, viewed, queued⟩ := List.mem_flatMap.mp member
    obtain ⟨row, present, view⟩ := (Registry.mem_view _ _ _ _ _).mp viewed
    rw [present] at queued
    simp [idle entity row present view] at queued

/-! A tick. -/

/-- The row after the warmups of a client tick. -/
def finishRow (config : SimulationConfig) (timeMs : TimestampMs) (row : Components) : Components :=
  if inWarmupView row then (finishWarmup config timeMs row).1 else row

theorem finish_row_changes (config : SimulationConfig) (timeMs : TimestampMs) (row : Components) :
    ∃ weapon, finishRow config timeMs row = { row with weapon := weapon } := by
  unfold finishRow
  split
  · exact finish_warmup_changes config timeMs row
  · exact ⟨row.weapon, rfl⟩

theorem fly_weapon (config : SimulationConfig) (row : Components)
    (weapon : Option WeaponStateComponent) :
    fly config { row with weapon := weapon } = { fly config row with weapon := weapon } := by
  unfold fly
  dsimp only
  split
  · rfl
  · rfl

/-- The condition on a turn does not read the weapons. -/
theorem turn_misses_weapons (config : SimulationConfig) (timeMs : TimestampMs)
    (rows : Entity → Option Components) (change : Components → Components)
    (weaponOnly : ∀ row, ∃ weapon, change row = { row with weapon := weapon })
    (earlier : List Entity) (entity : Entity) :
    TurnMisses config timeMs (fun other => (rows other).map change) earlier entity ↔
      TurnMisses config timeMs rows earlier entity := by
  -- A hit reads the bodies of the projectile and of the target only.
  have sameHit (projectile : ProjectileComponent) (transform : TransformComponent)
      (target : Entity) (row : Components) :
      hits projectile transform (flownRow config (earlier ++ [entity]) target (change row)) =
        hits projectile transform (flownRow config (earlier ++ [entity]) target row) := by
    obtain ⟨weapon, changed⟩ := weaponOnly row
    rw [changed]
    unfold flownRow
    split
    · rw [fly_weapon]
      rfl
    · rfl
  have targets (projectile : ProjectileComponent) (transform : TransformComponent) :
      (∀ target targetRow, (rows target).map change = some targetRow →
        hits projectile transform (flownRow config (earlier ++ [entity]) target targetRow) =
          false) ↔
      ∀ target targetRow, rows target = some targetRow →
        hits projectile transform (flownRow config (earlier ++ [entity]) target targetRow) =
          false := by
    constructor
    · intro misses target row isTarget
      rw [← sameHit]
      exact misses target _ (by rw [isTarget]; rfl)
    · intro misses target changed isTarget
      obtain ⟨row, isRow, rfl⟩ := Option.map_eq_some_iff.mp isTarget
      rw [sameHit]
      exact misses target row isRow
  constructor
  · intro misses row projectile transform present carries flown
    obtain ⟨weapon, changed⟩ := weaponOnly row
    have outcome := misses (change row) projectile transform (by dsimp only; rw [present]; rfl)
      (by rw [changed]; exact carries) (by rw [changed, fly_weapon]; exact flown)
    rw [targets, changed] at outcome
    exact outcome
  · intro misses later projectile transform present carries flown
    obtain ⟨row, isRow, rfl⟩ := Option.map_eq_some_iff.mp present
    obtain ⟨weapon, changed⟩ := weaponOnly row
    rw [changed] at carries flown
    rw [fly_weapon] at flown
    have outcome := misses row projectile transform isRow carries flown
    rw [targets, changed]
    exact outcome

section ClientTick

variable (order : LoopOrder) (sim : GameSimulation)

/-- The state in which the loop over the projectiles starts. -/
def beforeProjectiles : GameSimulation :=
  processWeaponWarmups order (processInputs order (advanceClock sim))

theorem before_projectiles_body (entity : Entity) (row : Components) :
    SameBody row (finishRow (advanceClock sim).config (advanceClock sim).timeMs
      (movedRow (advanceClock sim) entity row)) := by
  obtain ⟨transform, velocity, aim, weapon, moved, placed, moving⟩ :=
    moved_row_changes (advanceClock sim) entity row
  obtain ⟨finished, changed⟩ := finish_row_changes (advanceClock sim).config
    (advanceClock sim).timeMs (movedRow (advanceClock sim) entity row)
  rw [changed, moved]
  constructor
  · simp only [inRespawnView, placed, moving]
  · rfl

variable (client : sim.config.mode = .clientPrediction)

include client

theorem before_projectiles_row (entity : Entity) :
    (beforeProjectiles order sim).registry.get? entity =
      ((sim.registry.get? entity).map (movedRow (advanceClock sim) entity)).map
        (finishRow (advanceClock sim).config (advanceClock sim).timeMs) := by
  have tables := process_inputs_tables order (advanceClock sim)
  unfold beforeProjectiles
  rw [client_warmups_row order _ (by rw [tables.config]; exact client), process_inputs_row,
    tables.config, tables.timeMs]
  rfl

theorem before_projectiles_tables :
    SameTables (advanceClock sim) (beforeProjectiles order sim) := by
  have tables := process_inputs_tables order (advanceClock sim)
  unfold beforeProjectiles
  rw [client_warmups_eq order _ (by rw [tables.config]; exact client)]
  exact tables.trans (for_each_tables _ _ _ _ _)

theorem before_projectiles_spares : Spares sim (beforeProjectiles order sim) := by
  have tables := process_inputs_tables order (advanceClock sim)
  exact ((advance_clock_spares sim).trans (process_inputs_spares order _)).trans
    (client_warmups_spares order _ (by rw [tables.config]; exact client))

theorem before_projectiles_misses :
    LoopMisses order (beforeProjectiles order sim) ↔ NoStrike order (advanceClock sim) := by
  have tables := before_projectiles_tables order sim client
  have rows := before_projectiles_row order sim client
  have sameView : (beforeProjectiles order sim).registry.view order .projectiles inProjectileView =
      (advanceClock sim).registry.view order .projectiles inProjectileView := by
    apply Registry.view_congr order .projectiles tables.created
    intro entity
    rw [rows]
    cases present : sim.registry.get? entity with
    | none => simp [advanceClock, present]
    | some row =>
        obtain ⟨transform, velocity, aim, weapon, moved, placed, moving⟩ :=
          moved_row_changes (advanceClock sim) entity row
        obtain ⟨finished, changed⟩ := finish_row_changes (advanceClock sim).config
          (advanceClock sim).timeMs (movedRow (advanceClock sim) entity row)
        have isRow : (advanceClock sim).registry.get? entity = some row := present
        rw [isRow, Option.map_some, Option.map_some, changed, moved]
        simp [inProjectileView, placed, moving]
  unfold LoopMisses NoStrike
  rw [sameView, tables.config, tables.timeMs, funext rows]
  have weapons := finish_row_changes (advanceClock sim).config (advanceClock sim).timeMs
  constructor
  · intro misses earlier entity later split
    exact (turn_misses_weapons _ _ _ _ weapons earlier entity).mp (misses earlier entity later split)
  · intro misses earlier entity later split
    exact (turn_misses_weapons _ _ _ _ weapons earlier entity).mpr
      (misses earlier entity later split)

/-- A tick that leaves combat alone met the condition: a strike or a respawn
would show in its events or in a missing player. -/
theorem quiet_of_leaves (leaves : LeavesCombat sim (tickFixed order sim)) :
    QuietTick order sim := by
  have tables := before_projectiles_tables order sim client
  have before := before_projectiles_spares order sim client
  obtain ⟨first, queuedFirst, _⟩ := before.leaves.2
  obtain ⟨all, queuedAll, noCombat⟩ := leaves.2
  have last := process_respawns_queued order (processProjectiles order (beforeProjectiles order sim))
  have misses : LoopMisses order (beforeProjectiles order sim) := by
    by_contra strikes
    rcases process_projectiles_loud order _ strikes with
      ⟨added, queued, event, member, combat⟩ | ⟨entity, row, present, isPlayer, gone⟩
    · have total := (queuedFirst.trans queued).trans last
      have same := List.append_cancel_left (queuedAll.symm.trans total)
      apply noCombat event _ combat
      rw [same]
      exact List.mem_append_left _ (List.mem_append_right _ member)
    · -- The player was there before the tick and is gone after it.
      rw [before_projectiles_row order sim client] at present
      obtain ⟨_, isMoved, rfl⟩ := Option.map_eq_some_iff.mp present
      obtain ⟨old, isOld, rfl⟩ := Option.map_eq_some_iff.mp isMoved
      rw [(before_projectiles_body sim entity old).player] at isPlayer
      obtain ⟨player, isPlayer⟩ := Option.isSome_iff_exists.mp isPlayer
      have kept := leaves.1 entity old isOld
      have gone : (tickFixed order sim).registry.get? entity = none := by
        have dead := process_respawns_row order
          (processProjectiles order (beforeProjectiles order sim)) entity
        rw [gone] at dead
        exact dead
      rw [gone] at kept
      simp [combatOf, isPlayer] at kept
  refine ⟨(before_projectiles_misses order sim client).mp misses, ?_⟩
  intro entity row player present view isPlayer defeated
  -- A respawn that is due would be announced.
  by_contra due
  obtain ⟨silent, players, _⟩ := process_projectiles_quiet order _ misses
  have isRow := before_projectiles_row order sim client entity
  have present : sim.registry.get? entity = some row := present
  rw [present, Option.map_some, Option.map_some] at isRow
  have body := before_projectiles_body sim entity row
  obtain ⟨later, found, kept⟩ :=
    players entity _ isRow (by rw [body.player, isPlayer]; rfl)
  have timeMs := (process_projectiles_setup order (beforeProjectiles order sim)).timeMs
  obtain ⟨respawned, announced⟩ := respawn_announced
    (processProjectiles order (beforeProjectiles order sim)).config
    (processProjectiles order (beforeProjectiles order sim)).timeMs later player
    (by rw [kept.view, body.view]; exact view)
    (by rw [kept.player, body.player]; exact isPlayer) defeated
    (by rw [timeMs, tables.timeMs]; exact due)
  have total := (queuedFirst.trans (silent.trans (List.append_nil _).symm)).trans last
  have same := List.append_cancel_left (queuedAll.symm.trans total)
  apply noCombat (.playerRespawned respawned) _ trivial
  rw [same]
  apply List.mem_append_right
  refine List.mem_flatMap.mpr ⟨entity, (Registry.mem_view _ _ _ _ _).mpr ⟨later, found, ?_⟩, ?_⟩
  · rw [kept.view, body.view]
    exact view
  · rw [found]
    exact announced

/-- Under the condition every stage of a tick leaves combat alone. -/
theorem leaves_of_quiet (quiet : QuietTick order sim) : LeavesCombat sim (tickFixed order sim) := by
  have tables := before_projectiles_tables order sim client
  have before := before_projectiles_spares order sim client
  obtain ⟨silent, players, bodies⟩ := process_projectiles_quiet order _
    ((before_projectiles_misses order sim client).mpr quiet.1)
  have flown : LeavesCombat (beforeProjectiles order sim)
      (processProjectiles order (beforeProjectiles order sim)) := by
    refine ⟨?_, [], silent.trans (List.append_nil _).symm, by simp⟩
    intro entity row present
    cases isPlayer : row.player with
    | some player =>
        obtain ⟨later, found, body⟩ := players entity row present (by rw [isPlayer]; rfl)
        rw [found, Option.bind_some, combatOf, body.player]
        rfl
    | none =>
        cases found : (processProjectiles order (beforeProjectiles order sim)).registry.get? entity with
        | none => simp [combatOf, isPlayer]
        | some later =>
            obtain ⟨other, isRow, body⟩ := bodies entity later found
            rw [present] at isRow
            cases isRow
            simp [combatOf, body.player, isPlayer]
  have waits : NoRespawn (processProjectiles order (beforeProjectiles order sim)) := by
    intro entity later player found view isPlayer defeated
    obtain ⟨row, present, body⟩ := bodies entity later found
    rw [before_projectiles_row order sim client] at present
    obtain ⟨_, isMoved, rfl⟩ := Option.map_eq_some_iff.mp present
    obtain ⟨old, isOld, rfl⟩ := Option.map_eq_some_iff.mp isMoved
    have start := before_projectiles_body sim entity old
    rw [(process_projectiles_setup order (beforeProjectiles order sim)).timeMs, tables.timeMs]
    exact quiet.2 entity old player isOld (by rw [← start.view, ← body.view]; exact view)
      (by rw [← start.player, ← body.player]; exact isPlayer) defeated
  have aged := process_projectiles_aged order (beforeProjectiles order sim)
  have respawned := process_respawns_quiet order _ waits
  have final : Spares (processProjectiles order (beforeProjectiles order sim))
      (tickFixed order sim) := ⟨respawned, process_respawns_aged order _⟩
  exact ((before.trans ⟨flown, aged⟩).trans final).leaves

end ClientTick

/-! Runs. -/

theorem prediction_step_config (sim : GameSimulation) (call : PredictionCall) :
    (predictionStep sim call).config = sim.config := by
  cases call with
  | login command => exact submit_login_config sim command
  | input packet => exact submit_input_config sim packet
  | snapshot order snapshot localClientId =>
      exact apply_snapshot_config order sim snapshot localClientId
  | replay inputs => exact replay_config sim inputs
  | tick order => exact (tick_setup order sim).1

theorem call_leaves_combat_iff (sim : GameSimulation)
    (client : sim.config.mode = .clientPrediction) (call : PredictionCall) :
    CallLeavesCombat sim call ↔ CallIsQuiet sim call := by
  cases call with
  | login command => exact iff_of_true (submit_login_leaves sim command) trivial
  | input packet => exact iff_of_true (submit_input_leaves sim packet) trivial
  | snapshot order snapshot localClientId => exact Iff.rfl
  | replay inputs => exact iff_of_true (replay_spares sim inputs).leaves trivial
  | tick order => exact ⟨quiet_of_leaves order sim client, leaves_of_quiet order sim client⟩

/-- In every run of a client simulation the calls other than applying a snapshot
all leave combat alone exactly when every tick is quiet. -/
theorem client_combat_truth (config : SimulationConfig)
    (client : config.mode = .clientPrediction) (calls : List PredictionCall) :
    Runs.EveryStep predictionStep CallLeavesCombat { config := config } calls ↔
      Runs.EveryStep predictionStep CallIsQuiet { config := config } calls := by
  apply Runs.every_step_iff predictionStep fun sim => sim.config.mode = .clientPrediction
  · intro sim call kept
    rw [prediction_step_config]
    exact kept
  · exact fun sim call kept => call_leaves_combat_iff sim kept call
  · exact client

/-- The local player with a projectile of another player beside it. -/
def strikeSnapshot : SnapshotDTO :=
  { snapshotId := 1
    serverTimeMs := 1000
    entities :=
      [{ movement := { entityId := { value := 1 }, x := 1000000, y := 1000000 }
         combat := some { entityId := { value := 1 }, weaponType := .bow }
         replication := { entityId := { value := 1 }, ownerClientId := 7 } },
       { movement := { entityId := { value := 3 }, x := 1000000, y := 1000000 }
         combat := some { entityId := { value := 3 }, weaponType := .bow,
                          serverOwnedProjectile := true, projectileOwnerId := { value := 2 } }
         replication := { entityId := { value := 3 }, kind := .projectile } }] }

def strikeCalls : List PredictionCall := [.snapshot .stored strikeSnapshot 7, .tick .stored]

def strikeConfig : SimulationConfig := { mode := .clientPrediction }

/-- The tick after the snapshot takes the damage of a bow from the local player. -/
theorem strike_changes_health :
    ¬ LeavesCombat (applySnapshot .stored { config := strikeConfig } strikeSnapshot 7)
      (tickFixed .stored (applySnapshot .stored { config := strikeConfig } strikeSnapshot 7)) := by
  rintro ⟨kept, _⟩
  have before : ((applySnapshot .stored { config := strikeConfig } strikeSnapshot 7).registry.get?
      0).bind combatOf = some (100, false, 0) := by decide +kernel
  have after : ((tickFixed .stored (applySnapshot .stored { config := strikeConfig } strikeSnapshot
      7)).registry.get? 0).bind combatOf = some (65, false, 0) := by decide +kernel
  obtain ⟨row, present, healthy⟩ := Option.bind_eq_some_iff.mp before
  have same := kept 0 row present
  rw [after, healthy] at same
  exact absurd same (by decide)

theorem client_combat_truth_broken :
    ¬ Runs.EveryStep predictionStep CallLeavesCombat { config := strikeConfig } strikeCalls :=
  fun every => strike_changes_health every.2.1

theorem client_combat_truth_struck :
    ¬ Runs.EveryStep predictionStep CallIsQuiet { config := strikeConfig } strikeCalls := by
  intro quiet
  have leaves := (client_combat_truth strikeConfig rfl strikeCalls).mpr quiet
  exact strike_changes_health leaves.2.1

end Brawololo.CombatTruth
