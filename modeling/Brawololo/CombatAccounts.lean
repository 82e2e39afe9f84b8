import Brawololo.CombatLedger
import Brawololo.EntityIdentity

/-!
The server keeps a faithful ledger. Between the loops of a tick the entries
queued so far account for the health of every player; each turn of a loop adds
the entries for what it does to a player and no others.
-/

namespace Brawololo.CombatAccounts

open GameTypes EntityStore Simulation Simulation.GameSimulation SimulationStages EntityIdentity
open CombatLedger

/-- The player component of an entity. -/
def playerAt (sim : GameSimulation) (entity : Entity) : Option PlayerComponent :=
  (sim.registry.get? entity).bind fun row => row.player

/-- The component holds what the ledger says. -/
structure Agrees (config : SimulationConfig) (player : PlayerComponent) (standing : Standing) :
    Prop where
  health : player.health = standing.health
  defeated : player.defeated = standing.defeated
  respawnAtMs : player.respawnAtMs = standing.respawnAtMs
  maxHealth : player.maxHealth = config.maxPlayerHealth

/-- A defeated player has not been due in any tick before this one. -/
def WaitsBefore (config : SimulationConfig) (ticks : Nat) (standing : Standing) : Prop :=
  standing.defeated = true → standing.diedIn ≤ ticks ∧
    ∀ earlier, standing.diedIn ≤ earlier → earlier < ticks →
      tickTime config earlier < standing.respawnAtMs

/-- The ledger accounts for the state, in or between the stages of a tick. -/
structure Accounts (config : SimulationConfig) (ticks : Nat) (ledger : Ledger)
    (sim : GameSimulation) : Prop where
  configured : sim.config = config
  time : sim.timeMs = tickTime config ticks
  identified : Identified sim
  faithful : Faithful config ledger
  players : ∀ entity player, playerAt sim entity = some player →
    ∃ standing, standingOf config (idOf entity) ledger = some standing ∧
      Agrees config player standing
  others : ∀ id, (∀ entity player, playerAt sim entity = some player → id ≠ idOf entity) →
    standingOf config id ledger = none
  waits : ∀ id standing, standingOf config id ledger = some standing →
    WaitsBefore config ticks standing

/-- An event that is an entry of no account. -/
def Quiet (event : DomainEvent) : Prop := ∀ id, concerns id event = false

/-- Unless the ids run out, the ledger with the events that are queued on the
way accounts for the later state. -/
structure Accounted (config : SimulationConfig) (ticks : Nat) (before after : GameSimulation) :
    Prop where
  created : before.registry.created ≤ after.registry.created
  keeps : after.registry.created < 2 ^ 32 - 1 → ∀ ledger, Accounts config ticks ledger before →
    ∃ added, Queued before after added ∧
      Accounts config ticks (ledger ++ stamp ticks added) after

variable {config : SimulationConfig} {ticks : Nat} {ledger : Ledger}

theorem stamp_append (first second : EventList) :
    stamp ticks (first ++ second) = stamp ticks first ++ stamp ticks second :=
  List.map_append

theorem mem_stamp {added : EventList} {entry : Entry} (member : entry ∈ stamp ticks added) :
    entry.2 ∈ added := by
  obtain ⟨event, inAdded, rfl⟩ := List.mem_map.mp member
  exact inAdded

theorem Accounted.refl (sim : GameSimulation) : Accounted config ticks sim sim where
  created := Nat.le_refl _
  keeps := by
    intro _ ledger accounts
    exact ⟨[], by simp [Queued], by simpa [stamp] using accounts⟩

theorem Accounted.trans {first second third : GameSimulation}
    (left : Accounted config ticks first second) (right : Accounted config ticks second third) :
    Accounted config ticks first third where
  created := Nat.le_trans left.created right.created
  keeps := by
    intro room ledger accounts
    obtain ⟨one, queuedOne, between⟩ :=
      left.keeps (Nat.lt_of_le_of_lt right.created room) ledger accounts
    obtain ⟨two, queuedTwo, after⟩ := right.keeps room _ between
    refine ⟨one ++ two, queuedOne.trans queuedTwo, ?_⟩
    rw [stamp_append, ← List.append_assoc]
    exact after

/-! Steps that concern no player. -/

theorem faithful_quiet (added : EventList) (quiet : ∀ event ∈ added, Quiet event)
    (faithful : Faithful config ledger) : Faithful config (ledger ++ stamp ticks added) := by
  induction added generalizing ledger with
  | nil => simpa [stamp] using faithful
  | cons event rest ih =>
      have first := Faithful.other ticks event faithful (quiet event List.mem_cons_self)
      have later := ih (fun other member => quiet other (List.mem_cons_of_mem event member)) first
      simpa [stamp] using later

/-- Where no player changes and only quiet events are queued, the accounts stay. -/
theorem quiet_accounts {before after : GameSimulation} {added : EventList}
    (accounts : Accounts config ticks ledger before) (sameConfig : after.config = before.config)
    (sameTime : after.timeMs = before.timeMs) (identified : Identified after)
    (players : ∀ entity, playerAt after entity = playerAt before entity)
    (quiet : ∀ event ∈ added, Quiet event) :
    Accounts config ticks (ledger ++ stamp ticks added) after := by
  have standings (id : NetworkEntityId) :
      standingOf config id (ledger ++ stamp ticks added) = standingOf config id ledger :=
    standing_silent fun entry member => quiet entry.2 (mem_stamp member) id
  refine ⟨sameConfig.trans accounts.configured, sameTime.trans accounts.time, identified,
    faithful_quiet added quiet accounts.faithful, ?_, ?_, ?_⟩
  · intro entity player isPlayer
    rw [standings]
    exact accounts.players entity player (by rw [← players]; exact isPlayer)
  · intro id others
    rw [standings]
    exact accounts.others id fun entity player isPlayer =>
      others entity player (by rw [players]; exact isPlayer)
  · intro id standing known
    rw [standings] at known
    exact accounts.waits id standing known

def SamePlayer (row later : Components) : Prop := later.player = row.player

theorem SamePlayer.refl (row : Components) : SamePlayer row row := rfl

/-- Rows that keep their player keep it at every entity. -/
theorem player_at_rows {before after : GameSimulation}
    (rows : RowsRelated SamePlayer before after)
    (entity : Entity) : playerAt after entity = playerAt before entity := by
  unfold playerAt
  cases present : before.registry.get? entity with
  | none =>
      cases found : after.registry.get? entity with
      | none => rfl
      | some later =>
          obtain ⟨row, isRow, _⟩ := rows.backward found
          rw [present] at isRow
          cases isRow
  | some row =>
      obtain ⟨later, found, same⟩ := rows.forward present
      rw [found]
      exact same

theorem quiet_accounted {before after : GameSimulation} (tables : SameTables before after)
    (standing : RowsRelated SameStanding before after)
    (players : RowsRelated SamePlayer before after)
    (queues : QueuesOnly Quiet before after) : Accounted config ticks before after where
  created := Nat.le_of_eq tables.created.symm
  keeps := by
    intro _ ledger accounts
    obtain ⟨added, queued, quiet⟩ := queues
    exact ⟨added, queued, quiet_accounts accounts tables.config tables.timeMs
      (identified_of_same tables standing accounts.identified) (player_at_rows players) quiet⟩

/-! A block of entries of one player. -/

/-- The entries of one player are added while this player changes and no other. -/
theorem block_accounts {before after : GameSimulation} {added : EventList} {entity : Entity}
    {player : PlayerComponent} {standing : Standing} (room : after.registry.created < 2 ^ 32 - 1)
    (accounts : Accounts config ticks ledger before) (sameConfig : after.config = before.config)
    (sameTime : after.timeMs = before.timeMs) (identified : Identified after)
    (faithful : Faithful config (ledger ++ stamp ticks added))
    (own : ∀ id, id ≠ idOf entity → ∀ event ∈ added, concerns id event = false)
    (known : standingOf config (idOf entity) (ledger ++ stamp ticks added) = some standing)
    (isPlayer : playerAt after entity = some player) (agrees : Agrees config player standing)
    (rest : ∀ other, other ≠ entity → playerAt after other = playerAt before other)
    (waits : WaitsBefore config ticks standing) :
    Accounts config ticks (ledger ++ stamp ticks added) after := by
  -- Below the wrap different entities have different ids.
  have below (other : Entity) (found : PlayerComponent) (isFound : playerAt after other = some found) :
      other < 2 ^ 32 - 1 := by
    obtain ⟨row, present, _⟩ := Option.bind_eq_some_iff.mp isFound
    exact Nat.lt_trans (Registry.get?_lt _ present) room
  have standings (id : NetworkEntityId) (different : id ≠ idOf entity) :
      standingOf config id (ledger ++ stamp ticks added) = standingOf config id ledger :=
    standing_silent fun entry member => own id different entry.2 (mem_stamp member)
  refine ⟨sameConfig.trans accounts.configured, sameTime.trans accounts.time, identified, faithful,
    ?_, ?_, ?_⟩
  · intro other found isFound
    by_cases same : other = entity
    · subst same
      rw [isPlayer] at isFound
      cases isFound
      exact ⟨standing, known, agrees⟩
    · have different : idOf other ≠ idOf entity := by
        intro sameId
        exact same (id_of_injective (below other found isFound) (below entity player isPlayer) sameId)
      rw [standings _ different]
      exact accounts.players other found (by rw [← rest other same]; exact isFound)
  · intro id others
    have different := others entity player isPlayer
    rw [standings id different]
    apply accounts.others
    intro other found isFound
    by_cases same : other = entity
    · rw [same]
      exact different
    · exact others other found (by rw [rest other same]; exact isFound)
  · intro id standing' known'
    by_cases same : id = idOf entity
    · subst same
      rw [known] at known'
      cases known'
      exact waits
    · rw [standings id same] at known'
      exact accounts.waits id standing' known'

/-! A hit. -/

def Healthy (config : SimulationConfig) : Prop := 0 < config.maxPlayerHealth.toInt

def FairWeapons (config : SimulationConfig) : Prop :=
  ∀ weapon ∈ config.weapons, 0 ≤ weapon.damage.toInt

theorem projectile_damage_fair (fair : FairWeapons config) (projectile : ProjectileComponent) :
    0 ≤ (projectileDamage config projectile).toInt := by
  unfold projectileDamage
  split
  · next weapon found => exact fair weapon (List.mem_of_find?_eq_some found)
  · exact Int.le_refl 0

/-- The subtraction does not leave the range: both numbers are not negative. -/
theorem health_after {health damage : Int32} (atLeast : 0 ≤ health.toInt)
    (fair : 0 ≤ damage.toInt) :
    (max 0 (health - damage)).toInt = max 0 (health.toInt - damage.toInt) := by
  have healthBelow := Int32.toInt_lt health
  have damageBelow := Int32.toInt_lt damage
  have difference : (health - damage).toInt = health.toInt - damage.toInt := by
    rw [Int32.toInt_sub]
    apply Int.bmod_eq_of_le
    · omega
    · omega
  have zero : (0 : Int32).toInt = 0 := rfl
  have isMax : max 0 (health - damage) =
    if (0 : Int32) ≤ health - damage then health - damage else 0 := rfl
  rw [isMax]
  split
  · next positive =>
      rw [Int32.le_iff_toInt_le] at positive
      omega
  · next negative =>
      rw [Int32.le_iff_toInt_le] at negative
      omega

/-- What a hit makes of a player and which entries it queues. -/
inductive Damaged (config : SimulationConfig) (timeMs : TimestampMs) (id : NetworkEntityId)
    (player : PlayerComponent) (damage : Int32) : Option PlayerComponent × EventList → Prop
  | survived (hit : HitConfirmed) (damaged : PlayerDamaged) (aimed : hit.targetId = id)
      (named : damaged.entityId = id) (amount : damaged.damage = damage)
      (after : damaged.healthAfter = max 0 (player.health - damage))
      (survives : damaged.healthAfter ≠ 0) :
      Damaged config timeMs id player damage
        (some { player with health := damaged.healthAfter },
          [.hitConfirmed hit, .playerDamaged damaged])
  | fell (hit : HitConfirmed) (damaged : PlayerDamaged) (died : PlayerDied)
      (aimed : hit.targetId = id) (named : damaged.entityId = id)
      (amount : damaged.damage = damage)
      (after : damaged.healthAfter = max 0 (player.health - damage))
      (falls : damaged.healthAfter = 0) (dies : died.entityId = id)
      (delayed : died.respawnAtMs = timeMs + config.respawnDelayMs) :
      Damaged config timeMs id player damage
        (some { player with health := damaged.healthAfter, defeated := true,
                            respawnAtMs := died.respawnAtMs },
          [.hitConfirmed hit, .playerDamaged damaged, .playerDied died])

theorem max_zero_nonpositive {health : Int32} : max 0 health ≤ 0 ↔ max 0 health = 0 := by
  have isMax : max 0 health = if (0 : Int32) ≤ health then health else 0 := rfl
  have zero : (0 : Int32).toInt = 0 := rfl
  rw [isMax, ← Int32.toInt_inj, Int32.le_iff_toInt_le]
  split
  · next positive =>
      rw [Int32.le_iff_toInt_le] at positive
      omega
  · omega

theorem damage_player_cases (config : SimulationConfig) (timeMs : TimestampMs)
    (projectileId : NetworkEntityId) (projectile : ProjectileComponent) {row : Components}
    {id : NetworkEntityId} {player : PlayerComponent} (named : row.identity = some { id := id })
    (isPlayer : row.player = some player) :
    Damaged config timeMs id player (projectileDamage config projectile)
      ((damagePlayer config timeMs projectileId projectile row).1.player,
        (damagePlayer config timeMs projectileId projectile row).2) := by
  let hit : HitConfirmed := { attackerId := projectile.ownerId, targetId := id,
                              projectileId := projectileId, serverTimeMs := timeMs }
  let damaged : PlayerDamaged :=
    { entityId := id, attackerId := projectile.ownerId,
      damage := projectileDamage config projectile,
      healthAfter := max 0 (player.health - projectileDamage config projectile) }
  let died : PlayerDied := { entityId := id, attackerId := projectile.ownerId,
                             respawnAtMs := timeMs + config.respawnDelayMs }
  unfold damagePlayer
  rw [named, isPlayer]
  dsimp only
  split
  · next falls =>
      rw [max_zero_nonpositive] at falls
      exact .fell hit damaged died rfl rfl rfl rfl falls rfl rfl
  · next survives =>
      rw [max_zero_nonpositive] at survives
      exact .survived hit damaged rfl rfl rfl rfl survives

theorem hits_player {projectile : ProjectileComponent} {transform : TransformComponent}
    {row : Components} (hit : hits projectile transform row = true) :
    ∃ player, row.player = some player ∧ player.defeated = false := by
  unfold hits at hit
  split at hit
  · next identity player place _ isPlayer _ =>
      refine ⟨player, isPlayer, ?_⟩
      simp only [Bool.and_eq_true, Bool.not_eq_true'] at hit
      exact hit.1.2
  · cases hit

/-- Updating an entity changes the player of no other entity. -/
theorem player_at_other (update : Components → Components × EventList) (sim : GameSimulation)
    {entity other : Entity} (different : other ≠ entity) :
    playerAt (sim.updateEntity update entity) other = playerAt sim other := by
  rw [playerAt, update_entity_row, if_neg different]
  rfl

theorem player_at_updated (update : Components → Components × EventList) {sim : GameSimulation}
    {entity : Entity} {row : Components} (present : sim.registry.get? entity = some row) :
    playerAt (sim.updateEntity update entity) entity = (update row).1.player := by
  rw [playerAt, update_entity_row, if_pos rfl, present]
  rfl

/-- A hit on a living player adds its entries. -/
theorem hit_accounted (healthy : Healthy config) (fair : FairWeapons config)
    {sim : GameSimulation} {target : Entity} {row : Components} {projectile : ProjectileComponent}
    {transform : TransformComponent} (projectileId : NetworkEntityId)
    (present : sim.registry.get? target = some row) (hit : hits projectile transform row = true) :
    Accounted config ticks sim
      (sim.updateEntity (damagePlayer sim.config sim.timeMs projectileId projectile) target) := by
  have tables := update_entity_tables
    (damagePlayer sim.config sim.timeMs projectileId projectile) sim target
  have queued := update_entity_queued
    (damagePlayer sim.config sim.timeMs projectileId projectile) sim target
  have playerAfter := player_at_updated
    (damagePlayer sim.config sim.timeMs projectileId projectile) present
  have rest (other : Entity) (different : other ≠ target) := player_at_other
    (damagePlayer sim.config sim.timeMs projectileId projectile) sim different
  have standings : RowsRelated SameStanding sim
      (sim.updateEntity (damagePlayer sim.config sim.timeMs projectileId projectile) target) := by
    apply update_entity_rows SameStanding.refl
    intro row _
    obtain ⟨player, damaged, client⟩ :=
      damage_changes sim.config sim.timeMs projectileId projectile row
    rw [damaged]
    exact ⟨rfl, client, rfl, rfl, id, id⟩
  generalize sim.updateEntity (damagePlayer sim.config sim.timeMs projectileId projectile) target =
    after at tables queued playerAfter rest standings ⊢
  refine ⟨Nat.le_of_eq tables.created.symm, ?_⟩
  intro room ledger accounts
  obtain ⟨player, isPlayer, alive⟩ := hits_player hit
  have outcome := damage_player_cases sim.config sim.timeMs projectileId projectile
    (accounts.identified.carried target row present) isPlayer
  rw [present, Option.map_some, Option.getD_some] at queued
  have identified := identified_of_same tables standings accounts.identified
  obtain ⟨standing, known, agrees⟩ := accounts.players target player (by
    rw [playerAt, present]
    exact isPlayer)
  have bounds := life_in_bounds healthy (lives_known (faithful_lives accounts.faithful _) known)
  have amount := projectile_damage_fair fair projectile
  have remains := health_after bounds.atLeast amount
  rw [accounts.configured, accounts.time] at outcome playerAfter queued
  generalize damagePlayer config (tickTime config ticks) projectileId projectile row = damaged
    at outcome playerAfter queued
  obtain ⟨later, added⟩ := damaged
  dsimp only at outcome playerAfter queued
  generalize later.player = playerLater at outcome playerAfter
  -- Whatever the outcome, the living player loses the projectile's damage.
  have strike (hit : HitConfirmed) (damage : PlayerDamaged) (aimed : hit.targetId = damage.entityId)
      (same : damage.damage = projectileDamage config projectile)
      (left : damage.healthAfter = max 0 (player.health - projectileDamage config projectile)) :
      Strikes standing hit damage :=
    ⟨aimed, agrees.defeated.symm.trans alive, by rw [same]; exact amount,
      by rw [left, same, agrees.health]; exact remains⟩
  refine ⟨added, queued, ?_⟩
  cases outcome with
  | survived hit damage aimed named sameAmount after survives =>
      have strikes := strike hit damage (aimed.trans named.symm) sameAmount after
      rw [← named] at known
      have faithful := Faithful.damaged ticks hit damage accounts.faithful known strikes survives
      have nowKnown := standing_damaged ticks strikes known
      refine block_accounts room accounts tables.config tables.timeMs identified faithful ?_
        (named ▸ nowKnown) playerAfter ?_ rest ?_
      · intro id different
        simp [concerns, aimed, named, different.symm]
      · exact ⟨rfl, agrees.defeated, agrees.respawnAtMs, agrees.maxHealth⟩
      · intro defeated
        have dead : standing.defeated = true := defeated
        rw [strikes.alive] at dead
        cases dead
  | fell hit damage died aimed named sameAmount after falls dies delayed =>
      have strikes := strike hit damage (aimed.trans named.symm) sameAmount after
      rw [← named] at known
      have diesSame : died.entityId = damage.entityId := dies.trans named.symm
      have faithful := Faithful.died ticks hit damage died accounts.faithful known strikes falls
        diesSame delayed
      have nowKnown := standing_died ticks strikes diesSame known
      refine block_accounts room accounts tables.config tables.timeMs identified faithful ?_
        (named ▸ nowKnown) playerAfter ?_ rest ?_
      · intro id different
        simp [concerns, aimed, named, dies, different.symm]
      · exact ⟨rfl, rfl, rfl, agrees.maxHealth⟩
      · -- the death is of this very tick
        intro _
        refine ⟨Nat.le_refl ticks, ?_⟩
        intro earlier since before
        exact absurd before (Nat.not_lt_of_le since)

/-! The stages of a tick. -/

theorem input_event_quiet (event : DomainEvent) (input : isInputEvent event) : Quiet event := by
  rcases input with ⟨warmup, rfl⟩ | ⟨moved, rfl⟩
  · exact fun _ => rfl
  · exact fun _ => rfl

theorem process_inputs_accounted (order : LoopOrder) (sim : GameSimulation) :
    Accounted config ticks sim (processInputs order sim) := by
  apply quiet_accounted (process_inputs_tables order sim) (process_inputs_standing order sim)
  · apply rows_related_of_map (movedRow sim) (process_inputs_row order sim)
    intro entity row
    obtain ⟨_, _, _, _, moved, _⟩ := moved_row_changes sim entity row
    rw [moved]
    exact SamePlayer.refl row
  · exact QueuesOnly.mono input_event_quiet (process_inputs_queues order sim)

theorem create_projectile_accounted (sim : GameSimulation) (request : ProjectileRequest) :
    Accounted config ticks sim (createProjectile sim request) := by
  refine ⟨Nat.le_succ _, ?_⟩
  intro room ledger accounts
  have identified := create_projectile_identified sim request (fun _ => accounts.identified) room
  refine ⟨_, rfl, quiet_accounts accounts rfl rfl identified ?_ ?_⟩
  · intro entity
    unfold playerAt createProjectile
    dsimp only [GameSimulation.allocateNetworkId]
    rw [Registry.get?_create]
    split
    · next new =>
        subst new
        rw [Registry.get?_created]
        rfl
    · rfl
  · intro event member
    rw [List.mem_singleton.mp member]
    exact fun _ => rfl

theorem process_warmups_accounted (order : LoopOrder) (sim : GameSimulation) :
    Accounted config ticks sim (processWeaponWarmups order sim) := by
  have fired : Accounted config ticks sim (sim.forEachEntity order .weaponWarmups inWarmupView
      (finishWarmup sim.config sim.timeMs)) := by
    apply quiet_accounted (for_each_tables _ order _ _ sim) (finish_warmups_standing order sim)
    · apply for_each_rows SamePlayer.refl
      intro row
      obtain ⟨weapon, finished⟩ := finish_warmup_changes sim.config sim.timeMs row
      rw [finished]
      exact SamePlayer.refl row
    · apply for_each_queues
      intro row event queued
      obtain ⟨_, fired, rfl⟩ := finish_warmup_events sim.config sim.timeMs row event queued
      exact fun _ => rfl
  exact fired.trans (Runs.run_relates createProjectile (Accounted config ticks) Accounted.refl
    Accounted.trans create_projectile_accounted _ _)

theorem fly_accounted (sim : GameSimulation) (entity : Entity) :
    Accounted config ticks sim
      (sim.updateEntity (fun row => (fly sim.config row, [])) entity) := by
  apply quiet_accounted (update_entity_tables _ sim entity)
  · apply update_entity_rows SameStanding.refl
    intro row _
    obtain ⟨transform, flown, placed⟩ := fly_changes sim.config row
    rw [flown]
    exact ⟨rfl, rfl, rfl, rfl, fun had => placed ▸ had, id⟩
  · apply update_entity_rows SamePlayer.refl
    intro row _
    obtain ⟨transform, flown, _⟩ := fly_changes sim.config row
    rw [flown]
    exact SamePlayer.refl row
  · exact update_entity_queues _ Quiet sim entity (by simp)

theorem process_projectile_accounted (healthy : Healthy config) (fair : FairWeapons config)
    (targets : List Entity) (sim : GameSimulation) (toDestroy : List Entity) (entity : Entity) :
    Accounted config ticks sim (processProjectile targets (sim, toDestroy) entity).1 := by
  have flown : Accounted config ticks sim _ := fly_accounted sim entity
  have tables := update_entity_tables (fun row => (fly sim.config row, [])) sim entity
  have turn := process_projectile_turn targets sim toDestroy entity
  generalize processProjectile targets (sim, toDestroy) entity = result at turn ⊢
  cases turn with
  | skipped => exact Accounted.refl sim
  | gone => exact flown
  | flew => exact flown
  | struck row identity projectile transform target targetRow _ _ _ _ _ found hit =>
      have struck : Accounted config ticks _ _ :=
        hit_accounted healthy fair identity.id found hit
      rw [tables.config, tables.timeMs] at struck
      exact flown.trans struck

theorem destroy_all_accounted (toDestroy : List Entity) (sim : GameSimulation)
    (carries : ∀ entity ∈ toDestroy, ∃ row,
      sim.registry.get? entity = some row ∧ row.projectile.isSome) :
    Accounted config ticks sim (toDestroy.foldl destroyProjectile sim) := by
  refine ⟨Nat.le_of_eq (destroy_all_created toDestroy sim).symm, ?_⟩
  intro room ledger accounts
  rw [destroy_all_created] at room
  have identified := destroy_all_identified toDestroy sim room accounts.identified (by
    intro entity member row present
    obtain ⟨found, isRow, carried⟩ := carries entity member
    rw [present] at isRow
    cases isRow
    exact carried)
  have setup := Runs.run_relates destroyProjectile SameSetup SameSetup.refl SameSetup.trans
    destroy_projectile_setup sim toDestroy
  refine ⟨[], ?_, quiet_accounts accounts setup.config setup.timeMs identified ?_ (by simp)⟩
  · exact (destroy_all_silent toDestroy sim).trans (List.append_nil _).symm
  · intro entity
    unfold playerAt
    by_cases listed : entity ∈ toDestroy
    · -- a listed entity is a projectile, so it is no player before or after
      obtain ⟨row, present, carried⟩ := carries entity listed
      have noPlayer : row.player = none := by
        cases isPlayer : row.player with
        | none => rfl
        | some player =>
            have apart := accounts.identified.apart entity row present (by simp [isPlayer])
            rw [apart] at carried
            cases carried
      rcases destroy_all_cases toDestroy sim entity with gone | kept
      · rw [gone, present]
        exact noPlayer.symm
      · rw [kept]
    · rw [destroy_all_row toDestroy sim entity listed]

theorem process_projectiles_accounted (healthy : Healthy config) (fair : FairWeapons config)
    (order : LoopOrder) (sim : GameSimulation) :
    Accounted config ticks sim (processProjectiles order sim) := by
  unfold processProjectiles
  dsimp only
  have looped := Runs.run_relates
    (processProjectile (sim.registry.view order .projectileTargets inTargetView))
    (fun before after => Accounted config ticks before.1 after.1)
    (fun state => Accounted.refl state.1) Accounted.trans
    (fun state entity => process_projectile_accounted healthy fair _ state.1 state.2 entity)
    (sim, []) (sim.registry.view order .projectiles inProjectileView)
  exact looped.trans (destroy_all_accounted _ _ (projectile_loop_destroys _ _ sim))

/-! The respawns. -/

theorem respawn_accounted (sim : GameSimulation) (entity : Entity) :
    Accounted config ticks sim
      (sim.updateEntity (respawnPlayer config (tickTime config ticks)) entity) := by
  have tables := update_entity_tables (respawnPlayer config (tickTime config ticks)) sim entity
  have queued := update_entity_queued (respawnPlayer config (tickTime config ticks)) sim entity
  have standings : RowsRelated SameStanding sim
      (sim.updateEntity (respawnPlayer config (tickTime config ticks)) entity) := by
    apply update_entity_rows SameStanding.refl
    intro row _
    obtain ⟨player, transform, velocity, weapon, respawned, client, placed, moving⟩ :=
      respawn_changes config (tickTime config ticks) row
    rw [respawned]
    exact ⟨rfl, client, rfl, rfl, placed, moving⟩
  cases present : sim.registry.get? entity with
  | none =>
      rw [update_absent sim _ present]
      exact Accounted.refl sim
  | some row =>
      rw [present, Option.map_some, Option.getD_some] at queued
      have playerAfter := player_at_updated (respawnPlayer config (tickTime config ticks)) present
      have rest (other : Entity) (different : other ≠ entity) :=
        player_at_other (respawnPlayer config (tickTime config ticks)) sim different
      generalize sim.updateEntity (respawnPlayer config (tickTime config ticks)) entity = after
        at tables queued playerAfter rest standings ⊢
      refine ⟨Nat.le_of_eq tables.created.symm, ?_⟩
      intro room ledger accounts
      have identified := identified_of_same tables standings accounts.identified
      rcases respawn_cases config (tickTime config ticks) row with
        ⟨unchanged, _⟩ | ⟨identity, player, named, isPlayer, defeated, due, reborn⟩
      · rw [unchanged] at queued playerAfter
        refine ⟨[], queued, quiet_accounts accounts tables.config tables.timeMs identified ?_
          (by simp)⟩
        intro other
        by_cases same : other = entity
        · subst same
          rw [playerAfter, playerAt, present]
          rfl
        · exact rest other same
      · rw [reborn] at queued playerAfter
        generalize isEvent : respawnedEvent config identity.id player = event at queued
        rw [accounts.identified.carried entity row present] at named
        cases named
        obtain ⟨standing, known, agrees⟩ := accounts.players entity player (by
          rw [playerAt, present]
          exact isPlayer)
        -- No earlier tick reached the respawn time, or the player would have been reborn in it.
        have dead : standing.defeated = true := agrees.defeated.symm.trans defeated
        obtain ⟨since, waited⟩ := accounts.waits _ standing known dead
        have firstDue : FirstDue config standing ticks :=
          ⟨since, agrees.respawnAtMs ▸ due, waited⟩
        have sameEntity : event.entityId = idOf entity := by
          rw [← isEvent]
          rfl
        have faithful := Faithful.respawned ticks event accounts.faithful
          (by rw [sameEntity]; exact known) dead firstDue
        refine ⟨_, queued, block_accounts room accounts tables.config tables.timeMs identified
          faithful ?_ (standing_respawned ticks event sameEntity known) playerAfter ?_ rest ?_⟩
        · intro id different
          simp [concerns, sameEntity, different.symm]
        · exact ⟨agrees.maxHealth, rfl, rfl, agrees.maxHealth⟩
        · intro impossible
          cases impossible

theorem process_respawns_accounted (order : LoopOrder) (sim : GameSimulation) :
    Accounted config ticks sim (processRespawns order sim) := by
  refine ⟨Nat.le_of_eq (process_respawns_tables order sim).created.symm, ?_⟩
  intro room ledger accounts
  have looped : Accounted config ticks sim ((sim.registry.view order .respawns inRespawnView).foldl
      (fun sim entity => sim.updateEntity (respawnPlayer config (tickTime config ticks)) entity)
      sim) :=
    Runs.run_relates _ (Accounted config ticks) Accounted.refl Accounted.trans respawn_accounted
      sim _
  unfold processRespawns forEachEntity at room ⊢
  rw [accounts.configured, accounts.time] at room ⊢
  exact looped.keeps room ledger accounts

/-- Between two calls a defeated player has not been due in any tick so far. -/
def Settled (config : SimulationConfig) (ticks : Nat) (ledger : Ledger) : Prop :=
  ∀ id standing, standingOf config id ledger = some standing → standing.defeated = true →
    tickTime config ticks < standing.respawnAtMs

/-- After the respawns nobody that is due is left. -/
theorem process_respawns_settled (order : LoopOrder) {sim : GameSimulation} {ledger' : Ledger}
    (configured : sim.config = config) (time : sim.timeMs = tickTime config ticks)
    (before : Identified sim) (accounts : Accounts config ticks ledger' (processRespawns order sim)) :
    Settled config ticks ledger' := by
  intro id standing known dead
  have carried : ∃ entity player, playerAt (processRespawns order sim) entity = some player ∧
      id = idOf entity := by
    by_contra none
    push Not at none
    rw [accounts.others id none] at known
    cases known
  obtain ⟨entity, player, isPlayer, rfl⟩ := carried
  obtain ⟨found, isFound, agrees⟩ := accounts.players entity player isPlayer
  rw [known] at isFound
  cases isFound
  obtain ⟨later, present, holds⟩ := Option.bind_eq_some_iff.mp isPlayer
  rw [process_respawns_row] at present
  obtain ⟨row, isRow, rfl⟩ := Option.map_eq_some_iff.mp present
  have isPlayerBefore : row.player.isSome := by
    have clients := ((process_respawns_standing order sim) entity)
    rw [isRow, process_respawns_row, isRow, Option.map_some] at clients
    cases clients with
    | some standing =>
        have same := congrArg Option.isSome standing.client
        simp only [Option.isSome_map] at same
        rw [← same, holds]
        rfl
  obtain ⟨placed, moving⟩ := before.bodied entity row isRow
  have viewed : inRespawnView row = true := by
    simp [inRespawnView, before.carried entity row isRow, isPlayerBefore, placed, moving]
  rw [if_pos viewed, configured, time] at holds
  rw [← agrees.respawnAtMs]
  -- A player that was due is not left defeated.
  rcases respawn_cases config (tickTime config ticks) row with
    ⟨unchanged, waits⟩ | ⟨_, _, _, _, _, _, reborn⟩
  · rw [unchanged] at holds
    exact waits player (by rw [before.carried entity row isRow]; rfl) holds
      (agrees.defeated.trans dead)
  · rw [reborn] at holds
    cases holds
    have alive := agrees.defeated
    rw [dead] at alive
    cases alive

end Brawololo.CombatAccounts
