import Brawololo.SimulationSnapshots
import Brawololo.Runs

/-!
What each loop and each stage of a tick does to the state: which tables it
keeps, what it does to every row, which events it queues. Later modules cite
these lemmas and do not unfold the stages again.
-/

namespace Brawololo.SimulationStages

open GameTypes EntityStore Simulation Simulation.GameSimulation SimulationSnapshots

/-- Everything but the rows, the events and the pending inputs is the same. -/
structure SameTables (before after : GameSimulation) : Prop where
  config : after.config = before.config
  tick : after.tick = before.tick
  timeMs : after.timeMs = before.timeMs
  nextNetworkId : after.nextNetworkId = before.nextNetworkId
  playerByClient : after.playerByClient = before.playerByClient
  entityByNetworkId : after.entityByNetworkId = before.entityByNetworkId
  lastAcceptedSequence : after.lastAcceptedSequence = before.lastAcceptedSequence
  created : after.registry.created = before.registry.created

theorem SameTables.refl (sim : GameSimulation) : SameTables sim sim :=
  ⟨rfl, rfl, rfl, rfl, rfl, rfl, rfl, rfl⟩

theorem SameTables.trans {first second third : GameSimulation}
    (left : SameTables first second) (right : SameTables second third) :
    SameTables first third :=
  ⟨right.config.trans left.config, right.tick.trans left.tick, right.timeMs.trans left.timeMs,
   right.nextNetworkId.trans left.nextNetworkId, right.playerByClient.trans left.playerByClient,
   right.entityByNetworkId.trans left.entityByNetworkId,
   right.lastAcceptedSequence.trans left.lastAcceptedSequence,
   right.created.trans left.created⟩

/-- `after` has queued `added` behind the events of `before`. -/
def Queued (before after : GameSimulation) (added : EventList) : Prop :=
  after.events = before.events ++ added

theorem Queued.trans {first second third : GameSimulation} {left right : EventList}
    (one : Queued first second left) (two : Queued second third right) :
    Queued first third (left ++ right) := by
  unfold Queued at *
  rw [two, one, List.append_assoc]

theorem SameTables.inputTarget {before after : GameSimulation} (same : SameTables before after)
    (clientId : ClientId) : after.inputTarget clientId = before.inputTarget clientId := by
  unfold GameSimulation.inputTarget playerEntityForClient entityFor
  rw [same.playerByClient, same.entityByNetworkId]

/-- Everything queued between two states is of an allowed kind. -/
def QueuesOnly (allowed : DomainEvent → Prop) (before after : GameSimulation) : Prop :=
  ∃ added, Queued before after added ∧ ∀ event ∈ added, allowed event

theorem QueuesOnly.refl {allowed : DomainEvent → Prop} (sim : GameSimulation) :
    QueuesOnly allowed sim sim :=
  ⟨[], by simp [Queued], by simp⟩

theorem QueuesOnly.trans {allowed : DomainEvent → Prop} {first second third : GameSimulation}
    (left : QueuesOnly allowed first second) (right : QueuesOnly allowed second third) :
    QueuesOnly allowed first third := by
  obtain ⟨one, queuedOne, allOne⟩ := left
  obtain ⟨two, queuedTwo, allTwo⟩ := right
  refine ⟨one ++ two, queuedOne.trans queuedTwo, ?_⟩
  intro event member
  rcases List.mem_append.mp member with inOne | inTwo
  · exact allOne event inOne
  · exact allTwo event inTwo

theorem QueuesOnly.mono {allowed wider : DomainEvent → Prop} {before after : GameSimulation}
    (implied : ∀ event, allowed event → wider event) (queues : QueuesOnly allowed before after) :
    QueuesOnly wider before after := by
  obtain ⟨added, queued, all⟩ := queues
  exact ⟨added, queued, fun event member => implied event (all event member)⟩

section Updates

variable (sim : GameSimulation) (update : Components → Components × EventList)

theorem update_absent {entity : Entity} (absent : sim.registry.get? entity = none) :
    sim.updateEntity update entity = sim := by
  rw [updateEntity, absent]

theorem update_present {entity : Entity} {row : Components}
    (present : sim.registry.get? entity = some row) :
    sim.updateEntity update entity =
      { sim with
        registry := sim.registry.modify entity fun row => (update row).1
        events := sim.events ++ (update row).2 } := by
  rw [updateEntity, present]

end Updates

section Loops

variable (update : Components → Components × EventList)

theorem update_entity_tables (sim : GameSimulation) (entity : Entity) :
    SameTables sim (sim.updateEntity update entity) := by
  unfold updateEntity
  cases sim.registry.get? entity with
  | none => exact SameTables.refl sim
  | some row => exact ⟨rfl, rfl, rfl, rfl, rfl, rfl, rfl, rfl⟩

@[simp] theorem update_entity_pending (sim : GameSimulation) (entity : Entity) :
    (sim.updateEntity update entity).pendingInputs = sim.pendingInputs := by
  unfold updateEntity
  cases sim.registry.get? entity <;> rfl

theorem update_entity_row (sim : GameSimulation) (entity other : Entity) :
    (sim.updateEntity update entity).registry.get? other =
      if other = entity then (sim.registry.get? other).map fun row => (update row).1
      else sim.registry.get? other := by
  unfold updateEntity
  cases present : sim.registry.get? entity with
  | none =>
      by_cases same : other = entity
      · simp [same, present]
      · simp [same]
  | some row => exact Registry.get?_modify _ _ _ _

theorem update_entity_queued (sim : GameSimulation) (entity : Entity) :
    Queued sim (sim.updateEntity update entity)
      (((sim.registry.get? entity).map fun row => (update row).2).getD []) := by
  unfold Queued updateEntity
  cases sim.registry.get? entity with
  | none => simp
  | some row => rfl

/-- An update that reports nothing queues nothing. -/
theorem update_entity_quiet (change : Components → Components) (sim : GameSimulation)
    (entity : Entity) :
    Queued sim (sim.updateEntity (fun row => (change row, [])) entity) [] := by
  have queued := update_entity_queued (fun row => (change row, [])) sim entity
  cases present : sim.registry.get? entity with
  | none => simpa [present] using queued
  | some row => simpa [present] using queued

/-- Updating distinct entities one after another updates each row once. -/
theorem update_all_row (entities : List Entity) (distinct : entities.Nodup)
    (sim : GameSimulation) (entity : Entity) :
    (entities.foldl (fun sim entity => sim.updateEntity update entity) sim).registry.get? entity =
      if entity ∈ entities then (sim.registry.get? entity).map fun row => (update row).1
      else sim.registry.get? entity := by
  induction entities generalizing sim with
  | nil => simp
  | cons head rest ih =>
      obtain ⟨fresh, distinctRest⟩ := List.nodup_cons.mp distinct
      rw [List.foldl_cons, ih distinctRest, update_entity_row]
      by_cases same : entity = head
      · subst same
        simp [fresh]
      · simp [same]

theorem update_all_tables (entities : List Entity) (sim : GameSimulation) :
    SameTables sim (entities.foldl (fun sim entity => sim.updateEntity update entity) sim) :=
  Runs.run_relates _ SameTables SameTables.refl SameTables.trans
    (fun sim entity => update_entity_tables update sim entity) sim entities

theorem update_all_queued (entities : List Entity) (distinct : entities.Nodup)
    (sim : GameSimulation) :
    Queued sim (entities.foldl (fun sim entity => sim.updateEntity update entity) sim)
      (entities.flatMap fun entity =>
        ((sim.registry.get? entity).map fun row => (update row).2).getD []) := by
  induction entities generalizing sim with
  | nil => simp [Queued]
  | cons head rest ih =>
      obtain ⟨fresh, distinctRest⟩ := List.nodup_cons.mp distinct
      have later := ih distinctRest (sim.updateEntity update head)
      -- The rows that are still to come are those of `sim`.
      have untouched : ∀ entity ∈ rest,
          (sim.updateEntity update head).registry.get? entity = sim.registry.get? entity := by
        intro entity member
        rw [update_entity_row, if_neg]
        rintro rfl
        exact fresh member
      rw [List.flatMap_congr fun entity member => by rw [untouched entity member]] at later
      exact (update_entity_queued update sim head).trans later

theorem update_entity_queues (allowed : DomainEvent → Prop) (sim : GameSimulation)
    (entity : Entity) (events : ∀ row, ∀ event ∈ (update row).2, allowed event) :
    QueuesOnly allowed sim (sim.updateEntity update entity) := by
  refine ⟨_, update_entity_queued update sim entity, ?_⟩
  cases sim.registry.get? entity with
  | none => simp
  | some row => exact events row

variable (order : LoopOrder) (site : LoopSite) (holds : Components → Bool)

theorem for_each_queues (allowed : DomainEvent → Prop) (sim : GameSimulation)
    (events : ∀ row, ∀ event ∈ (update row).2, allowed event) :
    QueuesOnly allowed sim (sim.forEachEntity order site holds update) :=
  Runs.run_relates _ (QueuesOnly allowed) QueuesOnly.refl QueuesOnly.trans
    (fun sim entity => update_entity_queues update allowed sim entity events) sim _

theorem for_each_tables (sim : GameSimulation) :
    SameTables sim (sim.forEachEntity order site holds update) :=
  update_all_tables update _ sim

@[simp] theorem for_each_pending (sim : GameSimulation) :
    (sim.forEachEntity order site holds update).pendingInputs = sim.pendingInputs := by
  apply Runs.run_invariant _ fun after : GameSimulation => after.pendingInputs = sim.pendingInputs
  · intro after entity kept
    rw [update_entity_pending, kept]
  · rfl

/-- The loop updates exactly the rows its view selects. -/
theorem for_each_row (sim : GameSimulation) (entity : Entity) :
    (sim.forEachEntity order site holds update).registry.get? entity =
      (sim.registry.get? entity).map fun row => if holds row then (update row).1 else row := by
  unfold forEachEntity
  rw [update_all_row update _ (sim.registry.nodup_view order site holds)]
  simp only [Registry.mem_view]
  cases sim.registry.get? entity with
  | none => simp
  | some row => by_cases passes : holds row <;> simp [passes]

theorem for_each_queued (sim : GameSimulation) :
    Queued sim (sim.forEachEntity order site holds update)
      ((sim.registry.view order site holds).flatMap fun entity =>
        ((sim.registry.get? entity).map fun row => (update row).2).getD []) :=
  update_all_queued update _ (sim.registry.nodup_view order site holds) sim

end Loops


/-- Every row of `before` is still there and related to its row in `after`. -/
def RowsRelated (related : Components → Components → Prop) (before after : GameSimulation) :
    Prop :=
  ∀ entity, Option.Rel related (before.registry.get? entity) (after.registry.get? entity)

section Rows

variable {related : Components → Components → Prop}

theorem RowsRelated.refl (same : ∀ row, related row row) (sim : GameSimulation) :
    RowsRelated related sim sim := by
  intro entity
  cases sim.registry.get? entity with
  | none => exact Option.Rel.none
  | some row => exact Option.Rel.some (same row)

theorem RowsRelated.trans
    (chained : ∀ first second third, related first second → related second third →
      related first third)
    {first second third : GameSimulation} (left : RowsRelated related first second)
    (right : RowsRelated related second third) : RowsRelated related first third := by
  intro entity
  have one := left entity
  have two := right entity
  revert one two
  generalize first.registry.get? entity = one
  generalize second.registry.get? entity = two
  generalize third.registry.get? entity = three
  rintro (_ | _) (_ | _)
  · exact Option.Rel.some (chained _ _ _ ‹_› ‹_›)
  · exact Option.Rel.none

theorem RowsRelated.forward {before after : GameSimulation}
    (rows : RowsRelated related before after) {entity : Entity} {row : Components}
    (present : before.registry.get? entity = some row) :
    ∃ later, after.registry.get? entity = some later ∧ related row later := by
  have kept := rows entity
  rw [present] at kept
  generalize after.registry.get? entity = found at kept ⊢
  cases kept with
  | @some _ later kept => exact ⟨later, rfl, kept⟩

theorem RowsRelated.backward {before after : GameSimulation}
    (rows : RowsRelated related before after) {entity : Entity} {later : Components}
    (present : after.registry.get? entity = some later) :
    ∃ row, before.registry.get? entity = some row ∧ related row later := by
  have kept := rows entity
  rw [present] at kept
  generalize before.registry.get? entity = found at kept ⊢
  cases kept with
  | @some row _ kept => exact ⟨row, rfl, kept⟩

/-- A stage that maps the rows relates them when the map does. -/
theorem rows_related_of_map {before after : GameSimulation} (change : Entity → Components → Components)
    (rows : ∀ entity, after.registry.get? entity = (before.registry.get? entity).map (change entity))
    (changed : ∀ entity row, related row (change entity row)) :
    RowsRelated related before after := by
  intro entity
  rw [rows entity]
  cases before.registry.get? entity with
  | none => exact Option.Rel.none
  | some row => exact Option.Rel.some (changed entity row)

theorem update_entity_rows (same : ∀ row, related row row)
    (update : Components → Components × EventList) (sim : GameSimulation) (entity : Entity)
    (changed : ∀ row, sim.registry.get? entity = some row → related row (update row).1) :
    RowsRelated related sim (sim.updateEntity update entity) := by
  intro other
  rw [update_entity_row]
  cases present : sim.registry.get? other with
  | none => simp
  | some row =>
      by_cases mine : other = entity
      · subst mine
        simpa using Option.Rel.some (changed row present)
      · simpa [mine] using Option.Rel.some (same row)

theorem for_each_rows (same : ∀ row, related row row) (order : LoopOrder) (site : LoopSite)
    (holds : Components → Bool) (update : Components → Components × EventList)
    (sim : GameSimulation) (changed : ∀ row, related row (update row).1) :
    RowsRelated related sim (sim.forEachEntity order site holds update) := by
  apply rows_related_of_map (fun _ row => if holds row then (update row).1 else row)
  · exact for_each_row update order site holds sim
  · intro entity row
    split
    · exact changed row
    · exact same row

end Rows

/-- Handles are only added, and a dead handle stays dead. -/
structure Aged (before after : GameSimulation) : Prop where
  created : before.registry.created ≤ after.registry.created
  dead : ∀ entity, entity < before.registry.created → before.registry.get? entity = none →
    after.registry.get? entity = none

theorem Aged.refl (sim : GameSimulation) : Aged sim sim :=
  ⟨Nat.le_refl _, fun _ _ gone => gone⟩

theorem Aged.trans {first second third : GameSimulation} (left : Aged first second)
    (right : Aged second third) : Aged first third :=
  ⟨Nat.le_trans left.created right.created, fun entity below gone =>
    right.dead entity (Nat.lt_of_lt_of_le below left.created) (left.dead entity below gone)⟩

theorem aged_of_rows {related : Components → Components → Prop} {before after : GameSimulation}
    (tables : SameTables before after) (rows : RowsRelated related before after) :
    Aged before after := by
  refine ⟨Nat.le_of_eq tables.created.symm, ?_⟩
  intro entity _ gone
  cases found : after.registry.get? entity with
  | none => rfl
  | some later =>
      obtain ⟨row, present, _⟩ := rows.backward found
      rw [gone] at present
      cases present

/-! What the updates of a row change. -/

theorem start_warmup_changes (config : SimulationConfig) (timeMs : TimestampMs)
    (row : Components) :
    ∃ weapon, (startWarmup config timeMs row).1 = { row with weapon := weapon } := by
  unfold startWarmup
  split
  · split
    · exact ⟨row.weapon, rfl⟩
    · split
      · exact ⟨row.weapon, rfl⟩
      · exact ⟨_, rfl⟩
  · exact ⟨row.weapon, rfl⟩

theorem start_warmup_events (config : SimulationConfig) (timeMs : TimestampMs)
    (row : Components) (event : DomainEvent) (queued : event ∈ (startWarmup config timeMs row).2) :
    ∃ warmup, event = .weaponWarmupStarted warmup := by
  unfold startWarmup at queued
  split at queued
  · split at queued
    · simp at queued
    · split at queued
      · simp at queued
      · exact ⟨_, List.mem_singleton.mp queued⟩
  · simp at queued

theorem apply_input_changes (config : SimulationConfig) (timeMs : TimestampMs)
    (packet : ClientInputPacket) (row : Components) :
    ∃ intent aim weapon, (applyInputToEntity config timeMs packet row).1 =
      { row with inputIntent := intent, aim := aim, weapon := weapon } := by
  unfold applyInputToEntity
  split
  · exact ⟨row.inputIntent, row.aim, row.weapon, rfl⟩
  · split
    · obtain ⟨weapon, changed⟩ := start_warmup_changes config timeMs (takeIntent packet.input row)
      exact ⟨_, _, weapon, changed⟩
    · exact ⟨_, _, row.weapon, rfl⟩

theorem apply_input_events (config : SimulationConfig) (timeMs : TimestampMs)
    (packet : ClientInputPacket) (row : Components) (event : DomainEvent)
    (queued : event ∈ (applyInputToEntity config timeMs packet row).2) :
    ∃ warmup, event = .weaponWarmupStarted warmup := by
  unfold applyInputToEntity at queued
  split at queued
  · simp at queued
  · split at queued
    · exact start_warmup_events config timeMs _ event queued
    · simp at queued

theorem integrate_changes (config : SimulationConfig) (row : Components) :
    ∃ transform velocity, (integrateMovement config row).1 =
        { row with transform := transform, velocity := velocity } ∧
      transform.isSome = row.transform.isSome ∧ velocity.isSome = row.velocity.isSome := by
  unfold integrateMovement
  split
  · next _ placed moving =>
      split
      · exact ⟨row.transform, _, rfl, rfl, by rw [moving]; rfl⟩
      · exact ⟨_, _, rfl, by rw [placed]; rfl, by rw [moving]; rfl⟩
  · exact ⟨row.transform, row.velocity, rfl, rfl, rfl⟩

theorem integrate_events (config : SimulationConfig) (row : Components) (event : DomainEvent)
    (queued : event ∈ (integrateMovement config row).2) : ∃ moved, event = .playerMoved moved := by
  unfold integrateMovement at queued
  split at queued
  · split at queued
    · simp at queued
    · dsimp only at queued
      split at queued
      · exact ⟨_, List.mem_singleton.mp queued⟩
      · simp at queued
  · simp at queued

theorem finish_warmup_changes (config : SimulationConfig) (timeMs : TimestampMs)
    (row : Components) :
    ∃ weapon, (finishWarmup config timeMs row).1 = { row with weapon := weapon } := by
  unfold finishWarmup
  split
  · split
    · exact ⟨_, rfl⟩
    · split
      · exact ⟨_, rfl⟩
      · exact ⟨row.weapon, rfl⟩
  · exact ⟨row.weapon, rfl⟩

theorem fly_changes (config : SimulationConfig) (row : Components) :
    ∃ transform, fly config row = { row with transform := transform } ∧
      transform.isSome = row.transform.isSome := by
  unfold fly
  split
  · next placed _ => exact ⟨_, rfl, by rw [placed]; rfl⟩
  · exact ⟨row.transform, rfl, rfl⟩

theorem fly_transform (config : SimulationConfig) (row : Components)
    (transform : TransformComponent) (velocity : VelocityComponent)
    (place : row.transform = some transform) (speed : row.velocity = some velocity) :
    fly config row = { row with transform := some (travel config velocity transform) } := by
  unfold fly
  rw [place, speed]

/-- The components that the loop over the projectiles reads. -/
theorem in_projectile_view_iff (row : Components) :
    inProjectileView row = true ↔
      ∃ identity projectile transform velocity, row.identity = some identity ∧
        row.projectile = some projectile ∧ row.transform = some transform ∧
        row.velocity = some velocity := by
  simp [inProjectileView, Option.isSome_iff_exists, and_assoc]

theorem damage_changes (config : SimulationConfig) (timeMs : TimestampMs)
    (projectileId : NetworkEntityId) (projectile : ProjectileComponent) (row : Components) :
    ∃ player, (damagePlayer config timeMs projectileId projectile row).1 =
        { row with player := player } ∧
      player.map (fun player => player.clientId) =
        row.player.map fun player => player.clientId := by
  unfold damagePlayer
  split
  · next identity player _ present =>
      rw [present]
      dsimp only
      split
      · exact ⟨_, rfl, rfl⟩
      · exact ⟨_, rfl, rfl⟩
  · exact ⟨row.player, rfl, rfl⟩

theorem respawn_changes (config : SimulationConfig) (timeMs : TimestampMs) (row : Components) :
    ∃ player transform velocity weapon, (respawnPlayer config timeMs row).1 =
        { row with player := player, transform := transform, velocity := velocity,
                   weapon := weapon } ∧
      player.map (fun player => player.clientId) =
        row.player.map (fun player => player.clientId) ∧
      (row.transform.isSome → transform.isSome) ∧ (row.velocity.isSome → velocity.isSome) := by
  unfold respawnPlayer
  split
  · next identity player _ present =>
      rw [present]
      split
      · exact ⟨some player, row.transform, row.velocity, row.weapon, by rw [← present], rfl, id, id⟩
      · exact ⟨_, _, _, _, rfl, rfl, fun _ => rfl, fun _ => rfl⟩
  · exact ⟨row.player, row.transform, row.velocity, row.weapon, rfl, rfl, id, id⟩

/-! The inputs of a tick. -/

/-- The pending inputs that a tick applies to the entity, in their order. -/
def inputsFor (sim : GameSimulation) (entity : Entity) : List ClientInputPacket :=
  sim.pendingInputs.filter fun packet => sim.inputTarget packet.header.clientId = some entity

def applyInputs (config : SimulationConfig) (timeMs : TimestampMs)
    (packets : List ClientInputPacket) (row : Components) : Components :=
  packets.foldl (fun row packet => (applyInputToEntity config timeMs packet row).1) row

/-- The row after the pending inputs of a tick and its movement. -/
def movedRow (sim : GameSimulation) (entity : Entity) (row : Components) : Components :=
  let applied := applyInputs sim.config sim.timeMs (inputsFor sim entity) row
  clearIntent (if applied.player.isSome then (integrateMovement sim.config applied).1 else applied)

theorem apply_inputs_changes (config : SimulationConfig) (timeMs : TimestampMs)
    (packets : List ClientInputPacket) (row : Components) :
    ∃ intent aim weapon, applyInputs config timeMs packets row =
      { row with inputIntent := intent, aim := aim, weapon := weapon } := by
  induction packets generalizing row with
  | nil => exact ⟨row.inputIntent, row.aim, row.weapon, rfl⟩
  | cons packet rest ih =>
      obtain ⟨_, _, _, first⟩ := apply_input_changes config timeMs packet row
      obtain ⟨intent, aim, weapon, later⟩ := ih (applyInputToEntity config timeMs packet row).1
      rw [first] at later
      exact ⟨intent, aim, weapon, by rw [applyInputs, List.foldl_cons, first]; exact later⟩

theorem moved_row_changes (sim : GameSimulation) (entity : Entity) (row : Components) :
    ∃ transform velocity aim weapon, movedRow sim entity row =
        { row with transform := transform, velocity := velocity, aim := aim, weapon := weapon,
                   inputIntent := none } ∧
      transform.isSome = row.transform.isSome ∧ velocity.isSome = row.velocity.isSome := by
  obtain ⟨intent, aim, weapon, applied⟩ :=
    apply_inputs_changes sim.config sim.timeMs (inputsFor sim entity) row
  unfold movedRow
  rw [applied]
  dsimp only
  split
  · obtain ⟨transform, velocity, moved, placed, moving⟩ := integrate_changes sim.config
      { row with inputIntent := intent, aim := aim, weapon := weapon }
    exact ⟨transform, velocity, aim, weapon, by rw [moved]; rfl, placed, moving⟩
  · exact ⟨row.transform, row.velocity, aim, weapon, rfl, rfl, rfl⟩

theorem apply_pending_tables (sim : GameSimulation) (packet : ClientInputPacket) :
    SameTables sim (applyPendingInput sim packet) := by
  unfold applyPendingInput
  split
  · exact SameTables.refl sim
  · exact update_entity_tables _ sim _

theorem apply_all_pending_tables (sim : GameSimulation) (packets : List ClientInputPacket) :
    SameTables sim (packets.foldl applyPendingInput sim) :=
  Runs.run_relates _ SameTables SameTables.refl SameTables.trans apply_pending_tables sim packets

theorem apply_pending_row (sim : GameSimulation) (packet : ClientInputPacket) (entity : Entity) :
    (applyPendingInput sim packet).registry.get? entity =
      if sim.inputTarget packet.header.clientId = some entity then
        (sim.registry.get? entity).map fun row =>
          (applyInputToEntity sim.config sim.timeMs packet row).1
      else sim.registry.get? entity := by
  unfold applyPendingInput
  split
  · next absent => simp [absent]
  · next target found =>
      rw [update_entity_row, found]
      by_cases same : entity = target
      · simp [same]
      · simp [same, Ne.symm same]

theorem apply_all_pending_row (packets : List ClientInputPacket) (sim : GameSimulation)
    (entity : Entity) :
    (packets.foldl applyPendingInput sim).registry.get? entity =
      (sim.registry.get? entity).map (applyInputs sim.config sim.timeMs
        (packets.filter fun packet =>
          sim.inputTarget packet.header.clientId = some entity)) := by
  induction packets generalizing sim with
  | nil =>
      rw [List.foldl_nil, List.filter_nil]
      cases sim.registry.get? entity with
      | none => rfl
      | some row => rfl
  | cons packet rest ih =>
      have tables := apply_pending_tables sim packet
      rw [List.foldl_cons, ih, apply_pending_row, tables.config, tables.timeMs]
      simp only [tables.inputTarget]
      by_cases mine : sim.inputTarget packet.header.clientId = some entity
      · cases sim.registry.get? entity with
        | none => simp
        | some row => simp [mine, applyInputs]
      · simp [mine]

theorem process_inputs_tables (order : LoopOrder) (sim : GameSimulation) :
    SameTables sim (processInputs order sim) := by
  have applied := apply_all_pending_tables sim sim.pendingInputs
  have moved := for_each_tables
    (integrateMovement (sim.pendingInputs.foldl applyPendingInput sim).config) order
    .integrateMovement (fun row => row.player.isSome)
    { sim.pendingInputs.foldl applyPendingInput sim with pendingInputs := [] }
  exact ⟨moved.config.trans applied.config, moved.tick.trans applied.tick,
    moved.timeMs.trans applied.timeMs, moved.nextNetworkId.trans applied.nextNetworkId,
    moved.playerByClient.trans applied.playerByClient,
    moved.entityByNetworkId.trans applied.entityByNetworkId,
    moved.lastAcceptedSequence.trans applied.lastAcceptedSequence,
    moved.created.trans applied.created⟩

@[simp] theorem process_inputs_pending (order : LoopOrder) (sim : GameSimulation) :
    (processInputs order sim).pendingInputs = [] := by
  simp [processInputs]

/-- After the inputs stage every row has taken its own inputs and moved once. -/
theorem process_inputs_row (order : LoopOrder) (sim : GameSimulation) (entity : Entity) :
    (processInputs order sim).registry.get? entity =
      (sim.registry.get? entity).map (movedRow sim entity) := by
  have tables := apply_all_pending_tables sim sim.pendingInputs
  simp only [processInputs, Registry.get?_mapRows, for_each_row, apply_all_pending_row,
    tables.config, Option.map_map]
  rfl

def isInputEvent (event : DomainEvent) : Prop :=
  (∃ warmup, event = .weaponWarmupStarted warmup) ∨ ∃ moved, event = .playerMoved moved

theorem apply_all_pending_queues (sim : GameSimulation) (packets : List ClientInputPacket) :
    QueuesOnly (fun event => ∃ warmup, event = .weaponWarmupStarted warmup) sim
      (packets.foldl applyPendingInput sim) := by
  apply Runs.run_relates applyPendingInput _ QueuesOnly.refl QueuesOnly.trans
  intro sim packet
  unfold applyPendingInput
  split
  · exact QueuesOnly.refl sim
  · apply update_entity_queues
    exact fun row event queued => apply_input_events _ _ packet row event queued

theorem process_inputs_queues (order : LoopOrder) (sim : GameSimulation) :
    QueuesOnly isInputEvent sim (processInputs order sim) := by
  have applied : QueuesOnly isInputEvent sim (sim.pendingInputs.foldl applyPendingInput sim) :=
    QueuesOnly.mono (fun _ => Or.inl) (apply_all_pending_queues sim sim.pendingInputs)
  refine applied.trans ?_
  refine for_each_queues _ order .integrateMovement (fun row => row.player.isSome) isInputEvent
    { sim.pendingInputs.foldl applyPendingInput sim with pendingInputs := [] } ?_
  intro row event queued
  exact Or.inr (integrate_events _ row event queued)

/-! The warmups of a tick. -/

theorem finish_warmup_events (config : SimulationConfig) (timeMs : TimestampMs)
    (row : Components) (event : DomainEvent) (queued : event ∈ (finishWarmup config timeMs row).2) :
    config.mode = .serverAuthoritative ∧ ∃ fired, event = .weaponFired fired := by
  unfold finishWarmup at queued
  split at queued
  · split at queued
    · simp at queued
    · split at queued
      · dsimp only at queued
        split at queued
        · next server _ => exact ⟨server, _, List.mem_singleton.mp queued⟩
        · simp at queued
      · simp at queued
  · simp at queued

/-- Where no row requests a projectile, the loop over the warmups is the whole stage. -/
theorem quiet_warmups_eq (order : LoopOrder) (sim : GameSimulation)
    (noRequest : ∀ entity row, sim.registry.get? entity = some row →
      projectileRequest sim.config sim.timeMs row = none) :
    processWeaponWarmups order sim =
      sim.forEachEntity order .weaponWarmups inWarmupView (finishWarmup sim.config sim.timeMs) := by
  unfold processWeaponWarmups
  have empty : (sim.registry.view order .weaponWarmups inWarmupView).filterMap (fun entity =>
      (sim.registry.get? entity).bind (projectileRequest sim.config sim.timeMs)) = [] := by
    apply List.filterMap_eq_nil_iff.mpr
    intro entity _
    cases present : sim.registry.get? entity with
    | none => rfl
    | some row => exact noRequest entity row present
  rw [empty]
  rfl

/-- A client requests no projectile. -/
theorem client_warmups_eq (order : LoopOrder) (sim : GameSimulation)
    (client : sim.config.mode = .clientPrediction) :
    processWeaponWarmups order sim =
      sim.forEachEntity order .weaponWarmups inWarmupView (finishWarmup sim.config sim.timeMs) := by
  apply quiet_warmups_eq
  intro entity row _
  unfold projectileRequest
  rw [client]

theorem client_warmups_row (order : LoopOrder) (sim : GameSimulation)
    (client : sim.config.mode = .clientPrediction) (entity : Entity) :
    (processWeaponWarmups order sim).registry.get? entity =
      (sim.registry.get? entity).map fun row =>
        if inWarmupView row then (finishWarmup sim.config sim.timeMs row).1 else row := by
  rw [client_warmups_eq order sim client, for_each_row]

theorem create_projectile_row (sim : GameSimulation) (request : ProjectileRequest)
    (entity : Entity) (live : entity < sim.registry.created) :
    (createProjectile sim request).registry.get? entity = sim.registry.get? entity := by
  unfold createProjectile
  dsimp only [GameSimulation.allocateNetworkId]
  rw [Registry.get?_create, if_neg (Nat.ne_of_lt live)]

/-- A projectile created after the loop over the warmups is a new entity. -/
theorem create_all_row (requests : List ProjectileRequest) (sim : GameSimulation)
    (entity : Entity) (live : entity < sim.registry.created) :
    (requests.foldl createProjectile sim).registry.get? entity = sim.registry.get? entity := by
  induction requests generalizing sim with
  | nil => rfl
  | cons request rest ih =>
      rw [List.foldl_cons, ih _ (Nat.lt_succ_of_lt live), create_projectile_row sim request entity live]

theorem create_all_kept (requests : List ProjectileRequest) (sim : GameSimulation)
    {entity : Entity} {row : Components} (present : sim.registry.get? entity = some row) :
    (requests.foldl createProjectile sim).registry.get? entity = some row :=
  (create_all_row requests sim entity (Registry.get?_lt _ present)).trans present

/-- A handle that the requests hand out is that of one of their projectiles. -/
theorem create_all_new (requests : List ProjectileRequest) (sim : GameSimulation)
    {entity : Entity} (fresh : sim.registry.created ≤ entity)
    (below : entity < (requests.foldl createProjectile sim).registry.created) :
    ∃ request ∈ requests, ∃ id, (requests.foldl createProjectile sim).registry.get? entity =
      some (projectileRow sim.timeMs id request) := by
  induction requests generalizing sim with
  | nil => exact absurd below (Nat.not_lt.mpr fresh)
  | cons request rest ih =>
      rw [List.foldl_cons] at below ⊢
      by_cases same : entity = sim.registry.created
      · subst same
        refine ⟨request, List.mem_cons_self, sim.nextNetworkId, ?_⟩
        apply create_all_kept
        exact (Registry.get?_create _ _ _).trans (if_pos rfl)
      · have later : (createProjectile sim request).registry.created ≤ entity :=
          Nat.lt_of_le_of_ne fresh (Ne.symm same)
        obtain ⟨other, member, id, present⟩ := ih (createProjectile sim request) later below
        exact ⟨other, List.mem_cons_of_mem _ member, id, present⟩

theorem create_all_created (requests : List ProjectileRequest) (sim : GameSimulation) :
    (requests.foldl createProjectile sim).registry.created =
      sim.registry.created + requests.length := by
  induction requests generalizing sim with
  | nil => rfl
  | cons request rest ih =>
      rw [List.foldl_cons, ih, List.length_cons, Nat.add_comm rest.length, ← Nat.add_assoc]
      rfl

theorem create_projectile_aged (sim : GameSimulation) (request : ProjectileRequest) :
    Aged sim (createProjectile sim request) := by
  refine ⟨Nat.le_succ _, ?_⟩
  intro entity below gone
  rw [create_projectile_row sim request entity below, gone]

/-! The projectiles of a tick. -/

/-- What one turn of the loop over the projectiles can do. -/
inductive ProjectileTurn (targets : List Entity) (sim : GameSimulation)
    (toDestroy : List Entity) (entity : Entity) : GameSimulation × List Entity → Prop
  | skipped
      (absent : ∀ row, sim.registry.get? entity = some row → inProjectileView row = false) :
      ProjectileTurn targets sim toDestroy entity (sim, toDestroy)
  | gone (row : Components) (projectile : ProjectileComponent) (transform : TransformComponent)
      (present : sim.registry.get? entity = some row)
      (carries : row.projectile = some projectile)
      (flown : (fly sim.config row).transform = some transform)
      (leaves : projectileGone sim.config sim.timeMs projectile transform = true) :
      ProjectileTurn targets sim toDestroy entity
        (sim.updateEntity (fun row => (fly sim.config row, [])) entity, toDestroy ++ [entity])
  | flew (row : Components) (projectile : ProjectileComponent) (transform : TransformComponent)
      (present : sim.registry.get? entity = some row)
      (carries : row.projectile = some projectile)
      (flown : (fly sim.config row).transform = some transform)
      (stays : projectileGone sim.config sim.timeMs projectile transform = false)
      (clear : ∀ target ∈ targets, ∀ targetRow,
        (sim.updateEntity (fun row => (fly sim.config row, [])) entity).registry.get? target =
          some targetRow → hits projectile transform targetRow = false) :
      ProjectileTurn targets sim toDestroy entity
        (sim.updateEntity (fun row => (fly sim.config row, [])) entity, toDestroy)
  | struck (row : Components) (identity : NetworkIdentityComponent)
      (projectile : ProjectileComponent) (transform : TransformComponent) (target : Entity)
      (targetRow : Components)
      (present : sim.registry.get? entity = some row)
      (carries : row.projectile = some projectile)
      (flown : (fly sim.config row).transform = some transform)
      (stays : projectileGone sim.config sim.timeMs projectile transform = false)
      (aimed : target ∈ targets)
      (found : (sim.updateEntity (fun row => (fly sim.config row, [])) entity).registry.get? target =
        some targetRow)
      (hit : hits projectile transform targetRow = true)
      (named : row.identity = some identity) :
      ProjectileTurn targets sim toDestroy entity
        ((sim.updateEntity (fun row => (fly sim.config row, [])) entity).updateEntity
          (damagePlayer sim.config sim.timeMs identity.id projectile) target,
         toDestroy ++ [entity])

theorem process_projectile_turn (targets : List Entity) (sim : GameSimulation)
    (toDestroy : List Entity) (entity : Entity) :
    ProjectileTurn targets sim toDestroy entity
      (processProjectile targets (sim, toDestroy) entity) := by
  unfold processProjectile
  dsimp only
  split
  · next absent => exact .skipped (by simp [absent])
  · next row present =>
      obtain ⟨transform, flownRow, _⟩ := fly_changes sim.config row
      split
      · next identity projectile transform named carries flown =>
          have carried : row.projectile = some projectile := by
            rw [flownRow] at carries
            exact carries
          have own : row.identity = some identity := by
            rw [flownRow] at named
            exact named
          split
          · next leaves => exact .gone row projectile transform present carried flown leaves
          · next stays =>
              have staying := Bool.eq_false_iff.mpr stays
              split
              · next noTarget =>
                  refine .flew row projectile transform present carried flown staying ?_
                  intro target aimed targetRow found
                  have missed := List.find?_eq_none.mp noTarget target aimed
                  rw [found] at missed
                  exact Bool.eq_false_iff.mpr missed
              · next target struck =>
                  have hit := List.find?_some struck
                  obtain ⟨targetRow, found, hit⟩ := (Option.any_eq_true _ _).mp hit
                  exact .struck row identity projectile transform target targetRow present carried
                    flown staying (List.mem_of_find?_eq_some struck) found hit own
      · -- Only an entity that the loop does not view lacks one of these components.
        next missing =>
          refine .skipped ?_
          intro other found
          rw [present] at found
          cases found
          by_contra viewed
          obtain ⟨identity, projectile, place, speed, named, carries, placed, moving⟩ :=
            (in_projectile_view_iff row).mp (by simpa using viewed)
          rw [fly_transform sim.config row place speed placed moving] at missing
          exact missing identity projectile _ named carries rfl

section ProjectileLoop

variable {related : Components → Components → Prop}

theorem process_projectile_tables (targets : List Entity) (sim : GameSimulation)
    (toDestroy : List Entity) (entity : Entity) :
    SameTables sim (processProjectile targets (sim, toDestroy) entity).1 := by
  have turn := process_projectile_turn targets sim toDestroy entity
  generalize processProjectile targets (sim, toDestroy) entity = result at turn
  cases turn with
  | skipped => exact SameTables.refl sim
  | gone => exact update_entity_tables _ sim entity
  | flew => exact update_entity_tables _ sim entity
  | struck => exact (update_entity_tables _ sim entity).trans (update_entity_tables _ _ _)

/-- A relation that flights and damage respect holds across the loop. -/
theorem process_projectile_rows (same : ∀ row, related row row)
    (chained : ∀ first second third, related first second → related second third →
      related first third)
    (targets : List Entity) (sim : GameSimulation) (toDestroy : List Entity) (entity : Entity)
    (flies : ∀ row, row.projectile.isSome → related row (fly sim.config row))
    (damages : ∀ projectileId projectile row,
      related row (damagePlayer sim.config sim.timeMs projectileId projectile row).1) :
    RowsRelated related sim (processProjectile targets (sim, toDestroy) entity).1 := by
  have flown : ∀ row projectile, sim.registry.get? entity = some row →
      row.projectile = some projectile →
      RowsRelated related sim (sim.updateEntity (fun row => (fly sim.config row, [])) entity) := by
    intro row projectile present carries
    apply update_entity_rows same
    intro found isRow
    rw [present] at isRow
    cases isRow
    exact flies row (by simp [carries])
  have turn := process_projectile_turn targets sim toDestroy entity
  generalize processProjectile targets (sim, toDestroy) entity = result at turn
  cases turn with
  | skipped => exact RowsRelated.refl same sim
  | gone row projectile transform present carries => exact flown row projectile present carries
  | flew row projectile transform present carries => exact flown row projectile present carries
  | struck row identity projectile transform target targetRow present carries =>
      refine RowsRelated.trans chained (flown row projectile present carries) ?_
      exact update_entity_rows same _ _ _ fun row _ => damages identity.id projectile row

theorem projectile_loop_tables (targets : List Entity) (entities : List Entity)
    (state : GameSimulation × List Entity) :
    SameTables state.1 (entities.foldl (processProjectile targets) state).1 :=
  Runs.run_relates _
    (fun before after : GameSimulation × List Entity => SameTables before.1 after.1)
    (fun state => SameTables.refl state.1) SameTables.trans
    (fun state entity => process_projectile_tables targets state.1 state.2 entity) state entities

theorem projectile_loop_rows (same : ∀ row, related row row)
    (chained : ∀ first second third, related first second → related second third →
      related first third)
    (config : SimulationConfig)
    (flies : ∀ row, row.projectile.isSome → related row (fly config row))
    (damages : ∀ timeMs projectileId projectile row,
      related row (damagePlayer config timeMs projectileId projectile row).1)
    (targets : List Entity) (entities : List Entity) (state : GameSimulation × List Entity)
    (configured : state.1.config = config) :
    RowsRelated related state.1 (entities.foldl (processProjectile targets) state).1 := by
  induction entities generalizing state with
  | nil => exact RowsRelated.refl same state.1
  | cons entity rest ih =>
      subst configured
      have tables := process_projectile_tables targets state.1 state.2 entity
      have turn := process_projectile_rows same chained targets state.1 state.2 entity flies
        (damages _)
      exact turn.trans chained (ih _ tables.config)

/-- Only projectiles are put on the list of entities to destroy. -/
theorem projectile_loop_destroys (targets : List Entity) (entities : List Entity)
    (sim : GameSimulation) :
    ∀ entity ∈ (entities.foldl (processProjectile targets) (sim, [])).2, ∃ row,
      (entities.foldl (processProjectile targets) (sim, [])).1.registry.get? entity = some row ∧
      row.projectile.isSome := by
  apply Runs.run_invariant (processProjectile targets) fun state =>
    ∀ entity ∈ state.2, ∃ row, state.1.registry.get? entity = some row ∧ row.projectile.isSome
  · rintro ⟨sim, toDestroy⟩ entity listed other member
    have rows : RowsRelated (fun before after => after.projectile = before.projectile) sim
        (processProjectile targets (sim, toDestroy) entity).1 := by
      apply process_projectile_rows
      · exact fun _ => rfl
      · exact fun _ _ _ one two => two.trans one
      · intro row _
        obtain ⟨transform, flown, _⟩ := fly_changes sim.config row
        rw [flown]
      · intro projectileId projectile row
        obtain ⟨player, damaged, _⟩ := damage_changes sim.config sim.timeMs projectileId projectile row
        rw [damaged]
    -- A listed entity keeps its row and its projectile through the turn.
    have carried : ∀ row, sim.registry.get? other = some row → row.projectile.isSome →
        ∃ row, (processProjectile targets (sim, toDestroy) entity).1.registry.get? other =
          some row ∧ row.projectile.isSome := by
      intro row present carries
      obtain ⟨later, found, kept⟩ := rows.forward present
      exact ⟨later, found, kept ▸ carries⟩
    have turn := process_projectile_turn targets sim toDestroy entity
    have newly : other ∈ toDestroy ∨ other = entity ∧
        ∃ row, sim.registry.get? entity = some row ∧ row.projectile.isSome := by
      generalize processProjectile targets (sim, toDestroy) entity = result at turn member
      cases turn with
      | skipped => exact Or.inl member
      | flew => exact Or.inl member
      | gone row projectile transform present carries =>
          rcases List.mem_append.mp member with old | new
          · exact Or.inl old
          · exact Or.inr ⟨List.mem_singleton.mp new, row, present, by simp [carries]⟩
      | struck row identity projectile transform target targetRow present carries =>
          rcases List.mem_append.mp member with old | new
          · exact Or.inl old
          · exact Or.inr ⟨List.mem_singleton.mp new, row, present, by simp [carries]⟩
    rcases newly with old | ⟨rfl, row, present, carries⟩
    · obtain ⟨row, present, carries⟩ := listed other old
      exact carried row present carries
    · exact carried row present carries
  · simp

end ProjectileLoop

theorem destroy_projectile_row (sim : GameSimulation) (entity other : Entity) :
    (destroyProjectile sim entity).registry.get? other =
      if other = entity ∧ ((sim.registry.get? entity).bind fun row => row.identity).isSome then none
      else sim.registry.get? other := by
  unfold destroyProjectile
  split
  · next absent => simp [absent]
  · next identity present =>
      rw [Registry.get?_destroy]
      by_cases same : other = entity
      · simp [same, present]
      · simp [same]

@[simp] theorem destroy_projectile_created (sim : GameSimulation) (entity : Entity) :
    (destroyProjectile sim entity).registry.created = sim.registry.created := by
  unfold destroyProjectile
  split
  · rfl
  · rfl

@[simp] theorem destroy_all_created (toDestroy : List Entity) (sim : GameSimulation) :
    (toDestroy.foldl destroyProjectile sim).registry.created = sim.registry.created := by
  apply Runs.run_invariant destroyProjectile fun after =>
    after.registry.created = sim.registry.created
  · intro after entity kept
    rw [destroy_projectile_created, kept]
  · rfl

theorem process_projectiles_created (order : LoopOrder) (sim : GameSimulation) :
    (processProjectiles order sim).registry.created = sim.registry.created :=
  (destroy_all_created _ _).trans (projectile_loop_tables _ _ (sim, [])).created

theorem destroy_projectile_aged (sim : GameSimulation) (entity : Entity) :
    Aged sim (destroyProjectile sim entity) := by
  refine ⟨Nat.le_of_eq (destroy_projectile_created sim entity).symm, ?_⟩
  intro other _ gone
  rw [destroy_projectile_row, gone]
  simp

/-! The respawns of a tick. -/

/-- The row of a player that is born again. -/
def respawnedRow (config : SimulationConfig) (player : PlayerComponent) (row : Components) :
    Components :=
  { row with
    player := some { player with health := player.maxHealth, defeated := false, respawnAtMs := 0 }
    transform := some (spawnTransformForClient config player.clientId)
    velocity := some {}
    weapon := row.weapon.map fun weapon =>
      { weapon with warming := false, warmupStartedAtMs := 0, warmupCompletesAtMs := 0 } }

def respawnedEvent (config : SimulationConfig) (id : NetworkEntityId) (player : PlayerComponent) :
    PlayerRespawned :=
  { entityId := id
    x := (spawnTransformForClient config player.clientId).x
    y := (spawnTransformForClient config player.clientId).y }

/-- A defeated player that is due is born again, any other row stays. -/
theorem respawn_cases (config : SimulationConfig) (timeMs : TimestampMs) (row : Components) :
    respawnPlayer config timeMs row = (row, []) ∧
        (∀ player, row.identity.isSome → row.player = some player → player.defeated = true →
          timeMs < player.respawnAtMs) ∨
      ∃ identity player, row.identity = some identity ∧ row.player = some player ∧
        player.defeated = true ∧ player.respawnAtMs ≤ timeMs ∧
        respawnPlayer config timeMs row = (respawnedRow config player row,
          [.playerRespawned (respawnedEvent config identity.id player)]) := by
  unfold respawnPlayer
  split
  · next identity player named isPlayer =>
      split
      · next rests =>
          refine Or.inl ⟨rfl, ?_⟩
          intro other _ isOther defeated
          rw [isPlayer] at isOther
          cases isOther
          simpa [defeated] using rests
      · next due =>
          rw [Bool.or_eq_true, not_or, Bool.not_eq_true', Bool.not_eq_false, decide_eq_true_eq,
            UInt64.not_lt] at due
          exact Or.inr ⟨identity, player, named, isPlayer, due.1, due.2, rfl⟩
  · next incomplete =>
      refine Or.inl ⟨rfl, ?_⟩
      intro player named isPlayer _
      obtain ⟨identity, isIdentity⟩ := Option.isSome_iff_exists.mp named
      exact absurd isPlayer (incomplete identity player isIdentity)

theorem respawn_waits (config : SimulationConfig) (timeMs : TimestampMs) (row : Components)
    (waits : ∀ player, row.player = some player → player.defeated → timeMs < player.respawnAtMs) :
    respawnPlayer config timeMs row = (row, []) := by
  unfold respawnPlayer
  split
  · next identity player _ isPlayer =>
      rw [if_pos]
      by_cases defeated : player.defeated
      · simp [waits player isPlayer defeated]
      · simp [defeated]
  · rfl

theorem process_respawns_tables (order : LoopOrder) (sim : GameSimulation) :
    SameTables sim (processRespawns order sim) :=
  for_each_tables _ order .respawns inRespawnView sim

theorem process_respawns_row (order : LoopOrder) (sim : GameSimulation) (entity : Entity) :
    (processRespawns order sim).registry.get? entity =
      (sim.registry.get? entity).map fun row =>
        if inRespawnView row then (respawnPlayer sim.config sim.timeMs row).1 else row :=
  for_each_row _ order .respawns inRespawnView sim entity

/-! What the stages after the inputs keep. -/

structure SameSetup (before after : GameSimulation) : Prop where
  config : after.config = before.config
  tick : after.tick = before.tick
  timeMs : after.timeMs = before.timeMs
  playerByClient : after.playerByClient = before.playerByClient
  lastAcceptedSequence : after.lastAcceptedSequence = before.lastAcceptedSequence
  pendingInputs : after.pendingInputs = before.pendingInputs

theorem SameSetup.refl (sim : GameSimulation) : SameSetup sim sim :=
  ⟨rfl, rfl, rfl, rfl, rfl, rfl⟩

theorem SameSetup.trans {first second third : GameSimulation} (left : SameSetup first second)
    (right : SameSetup second third) : SameSetup first third :=
  ⟨right.config.trans left.config, right.tick.trans left.tick, right.timeMs.trans left.timeMs,
   right.playerByClient.trans left.playerByClient,
   right.lastAcceptedSequence.trans left.lastAcceptedSequence,
   right.pendingInputs.trans left.pendingInputs⟩

theorem SameTables.setup {before after : GameSimulation} (tables : SameTables before after)
    (pending : after.pendingInputs = before.pendingInputs) : SameSetup before after :=
  ⟨tables.config, tables.tick, tables.timeMs, tables.playerByClient,
   tables.lastAcceptedSequence, pending⟩

theorem for_each_setup (update : Components → Components × EventList) (order : LoopOrder)
    (site : LoopSite) (holds : Components → Bool) (sim : GameSimulation) :
    SameSetup sim (sim.forEachEntity order site holds update) :=
  (for_each_tables update order site holds sim).setup (for_each_pending update order site holds sim)

theorem process_warmups_setup (order : LoopOrder) (sim : GameSimulation) :
    SameSetup sim (processWeaponWarmups order sim) := by
  refine (for_each_setup (finishWarmup sim.config sim.timeMs) order .weaponWarmups inWarmupView
    sim).trans ?_
  exact Runs.run_relates createProjectile SameSetup SameSetup.refl SameSetup.trans
    (fun _ _ => ⟨rfl, rfl, rfl, rfl, rfl, rfl⟩) _ _

theorem destroy_projectile_setup (sim : GameSimulation) (entity : Entity) :
    SameSetup sim (destroyProjectile sim entity) := by
  unfold destroyProjectile
  split
  · exact SameSetup.refl sim
  · exact ⟨rfl, rfl, rfl, rfl, rfl, rfl⟩

theorem process_projectile_setup (targets : List Entity) (sim : GameSimulation)
    (toDestroy : List Entity) (entity : Entity) :
    SameSetup sim (processProjectile targets (sim, toDestroy) entity).1 := by
  apply (process_projectile_tables targets sim toDestroy entity).setup
  have turn := process_projectile_turn targets sim toDestroy entity
  generalize processProjectile targets (sim, toDestroy) entity = result at turn ⊢
  cases turn with
  | skipped => rfl
  | gone => exact update_entity_pending _ sim entity
  | flew => exact update_entity_pending _ sim entity
  | struck => rw [update_entity_pending, update_entity_pending]

theorem process_projectiles_setup (order : LoopOrder) (sim : GameSimulation) :
    SameSetup sim (processProjectiles order sim) := by
  unfold processProjectiles
  dsimp only
  have looped := Runs.run_relates
    (processProjectile (sim.registry.view order .projectileTargets inTargetView))
    (fun before after => SameSetup before.1 after.1) (fun state => SameSetup.refl state.1)
    SameSetup.trans (fun state entity => process_projectile_setup _ state.1 state.2 entity)
    (sim, []) (sim.registry.view order .projectiles inProjectileView)
  exact looped.trans (Runs.run_relates destroyProjectile SameSetup SameSetup.refl SameSetup.trans
    destroy_projectile_setup _ _)

theorem process_respawns_setup (order : LoopOrder) (sim : GameSimulation) :
    SameSetup sim (processRespawns order sim) :=
  for_each_setup _ order .respawns inRespawnView sim

/-- A tick keeps the configuration and the tables of the clients. -/
theorem tick_setup (order : LoopOrder) (sim : GameSimulation) :
    (tickFixed order sim).config = sim.config ∧
    (tickFixed order sim).playerByClient = sim.playerByClient ∧
    (tickFixed order sim).lastAcceptedSequence = sim.lastAcceptedSequence := by
  have inputs := process_inputs_tables order (advanceClock sim)
  have rest := ((process_warmups_setup order _).trans (process_projectiles_setup order _)).trans
    (process_respawns_setup order (processProjectiles order (processWeaponWarmups order
      (processInputs order (advanceClock sim)))))
  exact ⟨rest.config.trans inputs.config, rest.playerByClient.trans inputs.playerByClient,
    rest.lastAcceptedSequence.trans inputs.lastAcceptedSequence⟩

/-- A tick advances the clock by its duration. -/
theorem tick_advances (order : LoopOrder) (sim : GameSimulation) :
    (tickFixed order sim).timeMs = sim.timeMs + sim.config.tickDurationMs := by
  have inputs := process_inputs_tables order (advanceClock sim)
  have rest := ((process_warmups_setup order _).trans (process_projectiles_setup order _)).trans
    (process_respawns_setup order (processProjectiles order (processWeaponWarmups order
      (processInputs order (advanceClock sim)))))
  exact rest.timeMs.trans inputs.timeMs

/-- What a tick does once the pending inputs are applied. -/
def afterInputs (order : LoopOrder) (applied : GameSimulation) : GameSimulation :=
  let cleared := { applied with pendingInputs := [] }
  let moved := cleared.forEachEntity order .integrateMovement (fun row => row.player.isSome)
    (integrateMovement cleared.config)
  processRespawns order (processProjectiles order (processWeaponWarmups order
    { moved with registry := moved.registry.mapRows clearIntent }))

/-- A tick applies its pending inputs, each once and in their order, and goes on
from there. -/
theorem tick_after_inputs (order : LoopOrder) (sim : GameSimulation) :
    tickFixed order sim =
      afterInputs order (sim.pendingInputs.foldl applyPendingInput (advanceClock sim)) := rfl

/-- A tick leaves no input pending. -/
theorem tick_pending (order : LoopOrder) (sim : GameSimulation) :
    (tickFixed order sim).pendingInputs = [] := by
  have rest := ((process_warmups_setup order _).trans (process_projectiles_setup order _)).trans
    (process_respawns_setup order (processProjectiles order (processWeaponWarmups order
      (processInputs order (advanceClock sim)))))
  exact rest.pendingInputs.trans (process_inputs_pending order (advanceClock sim))

/-! Every stage only appends to the queue. -/

/-- `after` has everything queued that `before` has. -/
def Appends (before after : GameSimulation) : Prop := ∃ added, Queued before after added

theorem Appends.refl (sim : GameSimulation) : Appends sim sim := ⟨[], by simp [Queued]⟩

theorem Appends.trans {first second third : GameSimulation} (left : Appends first second)
    (right : Appends second third) : Appends first third := by
  obtain ⟨one, queuedOne⟩ := left
  obtain ⟨two, queuedTwo⟩ := right
  exact ⟨one ++ two, queuedOne.trans queuedTwo⟩

theorem QueuesOnly.appends {allowed : DomainEvent → Prop} {before after : GameSimulation}
    (queues : QueuesOnly allowed before after) : Appends before after := by
  obtain ⟨added, queued, _⟩ := queues
  exact ⟨added, queued⟩

theorem process_warmups_appends (order : LoopOrder) (sim : GameSimulation) :
    Appends sim (processWeaponWarmups order sim) := by
  have fired : Appends sim (sim.forEachEntity order .weaponWarmups inWarmupView
      (finishWarmup sim.config sim.timeMs)) := ⟨_, for_each_queued _ order _ _ sim⟩
  exact fired.trans (Runs.run_relates createProjectile Appends Appends.refl Appends.trans
    (fun _ _ => ⟨_, rfl⟩) _ _)

theorem destroy_all_silent (toDestroy : List Entity) (sim : GameSimulation) :
    (toDestroy.foldl destroyProjectile sim).events = sim.events := by
  apply Runs.run_invariant destroyProjectile fun after => after.events = sim.events
  · intro after entity kept
    unfold destroyProjectile
    split
    · exact kept
    · exact kept
  · rfl

theorem update_entity_appends (update : Components → Components × EventList)
    (sim : GameSimulation) (entity : Entity) : Appends sim (sim.updateEntity update entity) :=
  ⟨_, update_entity_queued update sim entity⟩

theorem replay_appends (sim : GameSimulation) (inputs : List ClientInputPacket) :
    Appends sim (replayLocalInputsForPrediction sim inputs) := by
  apply Runs.run_relates replayLocalInput Appends Appends.refl Appends.trans
  intro sim packet
  unfold replayLocalInput
  split
  · exact Appends.refl sim
  · exact update_entity_appends _ _ _

theorem apply_state_appends (serverTimeMs : TimestampMs) (localClientId : ClientId)
    (sim : GameSimulation) (state : EntityStateDTO) :
    Appends sim (applyEntityState serverTimeMs localClientId sim state) := by
  have players (before : GameSimulation) : Appends before (enterPlayer before state) := by
    unfold enterPlayer
    split
    · exact ⟨[], (List.append_nil _).symm⟩
    · exact Appends.refl before
  unfold applyEntityState
  dsimp only
  split
  · exact (update_entity_appends _ _ _).trans (players _)
  · have entered : Appends sim (enterInterest localClientId sim state.movement.entityId) := ⟨_, rfl⟩
    exact (entered.trans (update_entity_appends _ _ _)).trans (players _)

theorem leave_interest_appends (localClientId : ClientId) (sim : GameSimulation)
    (entityId : NetworkEntityId) : Appends sim (leaveInterest localClientId sim entityId) := by
  unfold leaveInterest
  split
  · exact Appends.refl sim
  · exact ⟨_, rfl⟩

/-- Applying a snapshot always announces it. -/
theorem apply_snapshot_grows (order : LoopOrder) (sim : GameSimulation) (snapshot : SnapshotDTO)
    (localClientId : ClientId) :
    sim.events.length < (applySnapshot order sim snapshot localClientId).events.length := by
  have written := Runs.run_relates (applyEntityState snapshot.serverTimeMs localClientId) Appends
    Appends.refl Appends.trans (apply_state_appends snapshot.serverTimeMs localClientId) sim
    snapshot.entities
  have left := Runs.run_relates (leaveInterest localClientId) Appends Appends.refl Appends.trans
    (leave_interest_appends localClientId)
  obtain ⟨added, queued⟩ := written.trans (left _ _)
  unfold applySnapshot GameSimulation.queueEvent
  dsimp only
  rw [List.length_append]
  have grown := congrArg List.length queued
  rw [List.length_append] at grown
  exact Nat.lt_succ_of_le (grown ▸ Nat.le_add_right _ _)

/-! What a tick tells of. -/

def isShotEvent (event : DomainEvent) : Prop :=
  (∃ fired, event = .weaponFired fired) ∨ ∃ spawned, event = .projectileSpawned spawned

def isHitEvent (event : DomainEvent) : Prop :=
  (∃ hit, event = .hitConfirmed hit) ∨ (∃ damaged, event = .playerDamaged damaged) ∨
    ∃ died, event = .playerDied died

def isRespawnEvent (event : DomainEvent) : Prop := ∃ respawned, event = .playerRespawned respawned

/-- The events of a tick, by the stage that queues them. -/
inductive TickEvent (event : DomainEvent) : Prop
  | input (told : isInputEvent event)
  | shot (told : isShotEvent event)
  | hit (told : isHitEvent event)
  | respawn (told : isRespawnEvent event)

theorem damage_events (config : SimulationConfig) (timeMs : TimestampMs)
    (projectileId : NetworkEntityId) (projectile : ProjectileComponent) (row : Components)
    (event : DomainEvent)
    (queued : event ∈ (damagePlayer config timeMs projectileId projectile row).2) :
    isHitEvent event := by
  have pair {hit : HitConfirmed} {damaged : PlayerDamaged}
      (either : event ∈ ([.hitConfirmed hit, .playerDamaged damaged] : EventList)) :
      isHitEvent event := by
    rcases List.mem_pair.mp either with rfl | rfl
    · exact Or.inl ⟨hit, rfl⟩
    · exact Or.inr (Or.inl ⟨damaged, rfl⟩)
  unfold damagePlayer at queued
  split at queued
  · dsimp only at queued
    split at queued
    · rcases List.mem_append.mp queued with hit | died
      · exact pair hit
      · exact Or.inr (Or.inr ⟨_, List.mem_singleton.mp died⟩)
    · exact pair queued
  · cases queued

theorem respawn_events (config : SimulationConfig) (timeMs : TimestampMs) (row : Components)
    (event : DomainEvent) (queued : event ∈ (respawnPlayer config timeMs row).2) :
    isRespawnEvent event := by
  rcases respawn_cases config timeMs row with ⟨rests, _⟩ | ⟨_, _, _, _, _, _, reborn⟩
  · rw [rests] at queued
    cases queued
  · rw [reborn] at queued
    exact ⟨_, List.mem_singleton.mp queued⟩

section TickEvents

variable (order : LoopOrder) (sim : GameSimulation)

theorem process_warmups_queues :
    QueuesOnly isShotEvent sim (processWeaponWarmups order sim) := by
  have fired := for_each_queues (finishWarmup sim.config sim.timeMs) order .weaponWarmups
    inWarmupView isShotEvent sim (by
      intro row event queued
      obtain ⟨_, fired, isFired⟩ := finish_warmup_events _ _ row event queued
      exact Or.inl ⟨fired, isFired⟩)
  refine fired.trans (Runs.run_relates createProjectile _ QueuesOnly.refl QueuesOnly.trans ?_ _ _)
  intro before request
  refine ⟨_, rfl, ?_⟩
  intro event member
  exact Or.inr ⟨_, List.mem_singleton.mp member⟩

theorem process_projectile_queues (targets : List Entity) (toDestroy : List Entity)
    (entity : Entity) :
    QueuesOnly isHitEvent sim (processProjectile targets (sim, toDestroy) entity).1 := by
  have flies := update_entity_queues (fun row => (fly sim.config row, [])) isHitEvent sim entity
    (by simp)
  have turn := process_projectile_turn targets sim toDestroy entity
  generalize processProjectile targets (sim, toDestroy) entity = result at turn
  cases turn with
  | skipped => exact QueuesOnly.refl sim
  | gone => exact flies
  | flew => exact flies
  | struck =>
      exact flies.trans (update_entity_queues _ _ _ _ fun row event queued =>
        damage_events _ _ _ _ row event queued)

theorem process_projectiles_queues :
    QueuesOnly isHitEvent sim (processProjectiles order sim) := by
  have flown := Runs.run_relates
    (processProjectile (sim.registry.view order .projectileTargets inTargetView))
    (fun before after => QueuesOnly isHitEvent before.1 after.1)
    (fun _ => QueuesOnly.refl _) QueuesOnly.trans
    (fun state entity => process_projectile_queues state.1 _ state.2 entity) (sim, [])
    (sim.registry.view order .projectiles inProjectileView)
  obtain ⟨added, queued, all⟩ := flown
  exact ⟨added, (destroy_all_silent _ _).trans queued, all⟩

theorem process_respawns_queues :
    QueuesOnly isRespawnEvent sim (processRespawns order sim) :=
  for_each_queues (respawnPlayer sim.config sim.timeMs) order .respawns inRespawnView isRespawnEvent
    sim fun row event queued => respawn_events _ _ row event queued

theorem tick_queues : QueuesOnly TickEvent sim (tickFixed order sim) := by
  have clock : QueuesOnly TickEvent sim (advanceClock sim) :=
    ⟨[], (List.append_nil _).symm, by simp⟩
  have inputs := QueuesOnly.mono (fun _ => TickEvent.input)
    (process_inputs_queues order (advanceClock sim))
  have shots := QueuesOnly.mono (fun _ => TickEvent.shot)
    (process_warmups_queues order (processInputs order (advanceClock sim)))
  have hits := QueuesOnly.mono (fun _ => TickEvent.hit)
    (process_projectiles_queues order (processWeaponWarmups order
      (processInputs order (advanceClock sim))))
  have respawns := QueuesOnly.mono (fun _ => TickEvent.respawn)
    (process_respawns_queues order (processProjectiles order (processWeaponWarmups order
      (processInputs order (advanceClock sim)))))
  exact (((clock.trans inputs).trans shots).trans hits).trans respawns

end TickEvents

/-! Every stage only ages the registry. -/

theorem process_inputs_aged (order : LoopOrder) (sim : GameSimulation) :
    Aged sim (processInputs order sim) := by
  have rows : RowsRelated (fun _ _ => True) sim (processInputs order sim) :=
    rows_related_of_map (movedRow sim) (process_inputs_row order sim) fun _ _ => trivial
  exact aged_of_rows (process_inputs_tables order sim) rows

theorem for_each_aged (update : Components → Components × EventList) (order : LoopOrder)
    (site : LoopSite) (holds : Components → Bool) (sim : GameSimulation) :
    Aged sim (sim.forEachEntity order site holds update) := by
  have rows : RowsRelated (fun _ _ => True) sim (sim.forEachEntity order site holds update) :=
    for_each_rows (fun _ => trivial) order site holds update sim fun _ => trivial
  exact aged_of_rows (for_each_tables update order site holds sim) rows

theorem process_warmups_aged (order : LoopOrder) (sim : GameSimulation) :
    Aged sim (processWeaponWarmups order sim) :=
  (for_each_aged (finishWarmup sim.config sim.timeMs) order .weaponWarmups inWarmupView sim).trans
    (Runs.run_relates createProjectile Aged Aged.refl Aged.trans create_projectile_aged _ _)

theorem destroy_all_aged (toDestroy : List Entity) (sim : GameSimulation) :
    Aged sim (toDestroy.foldl destroyProjectile sim) :=
  Runs.run_relates destroyProjectile Aged Aged.refl Aged.trans destroy_projectile_aged sim toDestroy

/-- A destruction keeps a row or removes it. -/
theorem destroy_all_cases (toDestroy : List Entity) (sim : GameSimulation) (entity : Entity) :
    (toDestroy.foldl destroyProjectile sim).registry.get? entity = none ∨
      (toDestroy.foldl destroyProjectile sim).registry.get? entity = sim.registry.get? entity := by
  apply Runs.run_invariant destroyProjectile fun after =>
    after.registry.get? entity = none ∨ after.registry.get? entity = sim.registry.get? entity
  · intro after other kept
    rw [destroy_projectile_row]
    split
    · exact Or.inl rfl
    · exact kept
  · exact Or.inr rfl

theorem destroy_all_row (toDestroy : List Entity) (sim : GameSimulation) (entity : Entity)
    (spared : entity ∉ toDestroy) :
    (toDestroy.foldl destroyProjectile sim).registry.get? entity = sim.registry.get? entity := by
  induction toDestroy generalizing sim with
  | nil => rfl
  | cons head rest ih =>
      rw [List.foldl_cons, ih _ fun member => spared (List.mem_cons_of_mem head member),
        destroy_projectile_row, if_neg]
      rintro ⟨rfl, _⟩
      exact spared List.mem_cons_self

/-- A listed entity with an identity is gone after the destructions. -/
theorem destroy_all_gone (toDestroy : List Entity) (sim : GameSimulation) (entity : Entity)
    (listed : entity ∈ toDestroy) (row : Components) (present : sim.registry.get? entity = some row)
    (named : row.identity.isSome) :
    (toDestroy.foldl destroyProjectile sim).registry.get? entity = none := by
  induction toDestroy generalizing sim with
  | nil => cases listed
  | cons head rest ih =>
      rw [List.foldl_cons]
      by_cases same : entity = head
      · subst same
        have dead : (destroyProjectile sim entity).registry.get? entity = none := by
          rw [destroy_projectile_row, if_pos ⟨rfl, by rw [present]; exact named⟩]
        exact (destroy_all_aged rest (destroyProjectile sim entity)).dead entity
          (by rw [destroy_projectile_created]; exact Registry.get?_lt _ present) dead
      · have inRest := (List.mem_cons.mp listed).resolve_left same
        apply ih _ inRest
        rw [destroy_projectile_row, if_neg (fun both => same both.1), present]

theorem process_projectiles_aged (order : LoopOrder) (sim : GameSimulation) :
    Aged sim (processProjectiles order sim) := by
  have rows : RowsRelated (fun _ _ => True) sim
      ((sim.registry.view order .projectiles inProjectileView).foldl
        (processProjectile (sim.registry.view order .projectileTargets inTargetView))
        (sim, [])).1 :=
    projectile_loop_rows (fun _ => trivial) (fun _ _ _ _ _ => trivial) sim.config
      (fun _ _ => trivial) (fun _ _ _ _ => trivial) _ _ (sim, []) rfl
  exact (aged_of_rows (projectile_loop_tables _ _ (sim, [])) rows).trans (destroy_all_aged _ _)

theorem process_respawns_aged (order : LoopOrder) (sim : GameSimulation) :
    Aged sim (processRespawns order sim) :=
  for_each_aged _ order .respawns inRespawnView sim

theorem tick_aged (order : LoopOrder) (sim : GameSimulation) : Aged sim (tickFixed order sim) := by
  have clock : Aged sim (advanceClock sim) := ⟨Nat.le_refl _, fun _ _ gone => gone⟩
  exact (((clock.trans (process_inputs_aged order _)).trans (process_warmups_aged order _)).trans
    (process_projectiles_aged order _)).trans (process_respawns_aged order _)

/-! A call of a client either leaves the state alone or makes one change. -/

theorem fresh_login_joins (sim : GameSimulation) (command : LoginCommand)
    (unknown : command.header.clientId ∉ sim.playerByClient)
    (seat : sim.playerByClient.size < sim.config.maxPlayers.toNat) :
    (submitLogin sim command).1 = createPlayer
      { sim with
        lastAcceptedSequence :=
          sim.lastAcceptedSequence.insert command.header.clientId command.header.sequence }
      command.header.clientId
      (spawnTransformForClient sim.config command.header.clientId).x
      (spawnTransformForClient sim.config command.header.clientId).y := by
  unfold submitLogin
  dsimp only
  rw [if_neg unknown, if_neg (Nat.not_le.mpr seat)]

/-- A login seats a client the server does not know while a seat is free. -/
theorem submit_login_cases (sim : GameSimulation) (command : LoginCommand) :
    (submitLogin sim command).1 = sim ∨
    command.header.clientId ∉ sim.playerByClient ∧
      sim.playerByClient.size < sim.config.maxPlayers.toNat ∧
      (submitLogin sim command).1 = createPlayer
        { sim with
          lastAcceptedSequence :=
            sim.lastAcceptedSequence.insert command.header.clientId command.header.sequence }
        command.header.clientId
        (spawnTransformForClient sim.config command.header.clientId).x
        (spawnTransformForClient sim.config command.header.clientId).y := by
  by_cases known : command.header.clientId ∈ sim.playerByClient
  · left
    unfold submitLogin
    dsimp only
    rw [if_pos known]
  · by_cases full : sim.config.maxPlayers.toNat ≤ sim.playerByClient.size
    · left
      unfold submitLogin
      dsimp only
      rw [if_neg known, if_pos full]
    · have seat := Nat.lt_of_not_le full
      exact Or.inr ⟨known, seat, fresh_login_joins sim command known seat⟩

/-- The simulation takes an input of a known client that is newer than the last
it took, and leaves everything else alone. -/
theorem submit_input_cases (sim : GameSimulation) (packet : ClientInputPacket) :
    (submitInput sim packet).1 = sim ∧
      (packet.header.clientId ∈ sim.playerByClient →
        ∃ last, sim.lastAcceptedSequence[packet.header.clientId]? = some last ∧
          packet.header.sequence ≤ last) ∨
    packet.header.clientId ∈ sim.playerByClient ∧
      (∀ last, sim.lastAcceptedSequence[packet.header.clientId]? = some last →
        last < packet.header.sequence) ∧
      (submitInput sim packet).1 = { sim with
        lastAcceptedSequence :=
          sim.lastAcceptedSequence.insert packet.header.clientId packet.header.sequence
        pendingInputs := sim.pendingInputs ++ [packet] } := by
  unfold submitInput
  dsimp only
  cases entry : sim.playerByClient[packet.header.clientId]? with
  | none =>
      refine Or.inl ⟨rfl, ?_⟩
      intro present
      rw [Std.ExtTreeMap.mem_iff_isSome_getElem?, entry] at present
      cases present
  | some id =>
      dsimp only
      have present : packet.header.clientId ∈ sim.playerByClient := by
        rw [Std.ExtTreeMap.mem_iff_isSome_getElem?, entry]
        rfl
      by_cases stale : (sim.lastAcceptedSequence[packet.header.clientId]?).any
          (packet.header.sequence ≤ ·) = true
      · rw [if_pos stale]
        obtain ⟨last, isLast, notNewer⟩ := (Option.any_eq_true _ _).mp stale
        exact Or.inl ⟨rfl, fun _ => ⟨last, isLast, of_decide_eq_true notNewer⟩⟩
      · rw [if_neg stale]
        refine Or.inr ⟨present, ?_, rfl⟩
        intro last isLast
        rw [isLast, Option.any_some, decide_eq_true_eq] at stale
        exact UInt32.not_le.mp stale

/-! The configuration is never written, and the clock only by a tick. -/

structure SameClock (before after : GameSimulation) : Prop where
  config : after.config = before.config
  timeMs : after.timeMs = before.timeMs

theorem SameClock.refl (sim : GameSimulation) : SameClock sim sim := ⟨rfl, rfl⟩

theorem SameClock.trans {first second third : GameSimulation} (left : SameClock first second)
    (right : SameClock second third) : SameClock first third :=
  ⟨right.config.trans left.config, right.timeMs.trans left.timeMs⟩

theorem SameTables.clock {before after : GameSimulation} (tables : SameTables before after) :
    SameClock before after :=
  ⟨tables.config, tables.timeMs⟩

theorem submit_login_clock (sim : GameSimulation) (command : LoginCommand) :
    SameClock sim (submitLogin sim command).1 := by
  rcases submit_login_cases sim command with same | ⟨_, _, joined⟩
  · rw [same]
    exact SameClock.refl sim
  · rw [joined]
    exact ⟨rfl, rfl⟩

theorem submit_input_clock (sim : GameSimulation) (packet : ClientInputPacket) :
    SameClock sim (submitInput sim packet).1 := by
  rcases submit_input_cases sim packet with ⟨same, _⟩ | ⟨_, _, accepted⟩
  · rw [same]
    exact SameClock.refl sim
  · rw [accepted]
    exact ⟨rfl, rfl⟩

theorem replay_input_clock (sim : GameSimulation) (packet : ClientInputPacket) :
    SameClock sim (replayLocalInput sim packet) := by
  unfold replayLocalInput
  split
  · exact SameClock.refl sim
  · exact (update_entity_tables _ _ _).clock

theorem replay_clock (sim : GameSimulation) (inputs : List ClientInputPacket) :
    SameClock sim (replayLocalInputsForPrediction sim inputs) :=
  Runs.run_relates replayLocalInput SameClock SameClock.refl SameClock.trans replay_input_clock sim
    inputs

theorem apply_state_clock (serverTimeMs : TimestampMs) (localClientId : ClientId)
    (sim : GameSimulation) (state : EntityStateDTO) :
    SameClock sim (applyEntityState serverTimeMs localClientId sim state) := by
  have players (before : GameSimulation) : SameClock before (enterPlayer before state) := by
    unfold enterPlayer
    split
    · exact ⟨rfl, rfl⟩
    · exact SameClock.refl before
  unfold applyEntityState
  dsimp only
  split
  · exact (update_entity_tables _ _ _).clock.trans (players _)
  · have entered : SameClock sim (enterInterest localClientId sim state.movement.entityId) :=
      ⟨rfl, rfl⟩
    exact (entered.trans (update_entity_tables _ _ _).clock).trans (players _)

theorem leave_interest_clock (localClientId : ClientId) (sim : GameSimulation)
    (entityId : NetworkEntityId) : SameClock sim (leaveInterest localClientId sim entityId) := by
  unfold leaveInterest
  split
  · exact SameClock.refl sim
  · exact ⟨rfl, rfl⟩

theorem apply_snapshot_clock (order : LoopOrder) (sim : GameSimulation) (snapshot : SnapshotDTO)
    (localClientId : ClientId) :
    SameClock sim (applySnapshot order sim snapshot localClientId) := by
  have written := Runs.run_relates (applyEntityState snapshot.serverTimeMs localClientId) SameClock
    SameClock.refl SameClock.trans (apply_state_clock snapshot.serverTimeMs localClientId) sim
    snapshot.entities
  have left := Runs.run_relates (leaveInterest localClientId) SameClock SameClock.refl
    SameClock.trans (leave_interest_clock localClientId)
  exact ⟨(written.trans (left _ _)).config, (written.trans (left _ _)).timeMs⟩

theorem submit_login_config (sim : GameSimulation) (command : LoginCommand) :
    (submitLogin sim command).1.config = sim.config :=
  (submit_login_clock sim command).config

theorem submit_input_config (sim : GameSimulation) (packet : ClientInputPacket) :
    (submitInput sim packet).1.config = sim.config :=
  (submit_input_clock sim packet).config

theorem replay_input_config (sim : GameSimulation) (packet : ClientInputPacket) :
    (replayLocalInput sim packet).config = sim.config :=
  (replay_input_clock sim packet).config

theorem replay_config (sim : GameSimulation) (inputs : List ClientInputPacket) :
    (replayLocalInputsForPrediction sim inputs).config = sim.config :=
  (replay_clock sim inputs).config

theorem apply_snapshot_config (order : LoopOrder) (sim : GameSimulation) (snapshot : SnapshotDTO)
    (localClientId : ClientId) :
    (applySnapshot order sim snapshot localClientId).config = sim.config :=
  (apply_snapshot_clock order sim snapshot localClientId).config

end Brawololo.SimulationStages
