import Brawololo.SimulationStages

/-!
The identity tables of a server simulation. On a server the entity with
handle `n` carries network id `n + 1`, because creating an entity and
allocating its id go together. From this the two hash maps and the registry
agree after every login, input and tick, as long as the id counter has not
wrapped.
-/

namespace Brawololo.EntityIdentity

open GameTypes EntityStore Simulation Simulation.GameSimulation SimulationStages

inductive ServerCall where
  | login (command : LoginCommand)
  | input (packet : ClientInputPacket)
  | tick (order : LoopOrder)

def serverStep (sim : GameSimulation) : ServerCall → GameSimulation
  | .login command => (submitLogin sim command).1
  | .input packet => (submitInput sim packet).1
  | .tick order => tickFixed order sim

def serverRun (config : SimulationConfig) (calls : List ServerCall) : GameSimulation :=
  Runs.run serverStep { config := config } calls

/-- The number of ids a simulation has allocated: each creation allocates one. -/
def allocations (sim : GameSimulation) : Nat := sim.registry.created

/-- What the two maps and the registry say about each other. -/
structure IdentityTables (sim : GameSimulation) : Prop where
  bijection : ∀ id entity, sim.entityByNetworkId[id]? = some entity ↔
    ∃ row, sim.registry.get? entity = some row ∧ row.identity = some { id := id }
  everyEntity : ∀ entity row, sim.registry.get? entity = some row →
    ∃ id, row.identity = some { id := id }
  everyEntry : ∀ clientId id, sim.playerByClient[clientId]? = some id →
    ∃ (entity : Entity) (row : Components) (player : PlayerComponent),
      sim.entityByNetworkId[id]? = some entity ∧ sim.registry.get? entity = some row ∧
      row.player = some player ∧ player.clientId = clientId ∧
      row.ownedBy = some { clientId := clientId }
  everyPlayer : ∀ entity row player, sim.registry.get? entity = some row →
    row.player = some player →
    ∃! clientId : ClientId, ∃ id : NetworkEntityId,
      sim.playerByClient[clientId]? = some id ∧ row.identity = some { id := id }
  atMostMaxPlayers :
    sim.registry.count (fun row => row.player.isSome) ≤ sim.config.maxPlayers.toNat
  neverZero : ∀ id entity, sim.entityByNetworkId[id]? = some entity → id ≠ kInvalidNetworkEntity

/-! The invariant. -/

/-- The id of the entity with this handle. -/
def idOf (entity : Entity) : NetworkEntityId := { value := UInt32.ofNat (entity + 1) }

theorem id_of_injective {first second : Nat} (firstBelow : first < 2 ^ 32 - 1)
    (secondBelow : second < 2 ^ 32 - 1) (same : idOf first = idOf second) : first = second := by
  have values := congrArg (fun id : NetworkEntityId => id.value.toNat) same
  simp only [idOf, UInt32.toNat_ofNat'] at values
  omega

theorem id_of_ne_zero {entity : Nat} (below : entity < 2 ^ 32 - 1) :
    idOf entity ≠ kInvalidNetworkEntity := by
  intro same
  have values := congrArg (fun id : NetworkEntityId => id.value.toNat) same
  simp only [idOf, kInvalidNetworkEntity, UInt32.toNat_ofNat'] at values
  simp at values
  omega

/-- What the identity tables depend on in a row. -/
structure SameStanding (before after : Components) : Prop where
  identity : after.identity = before.identity
  client : after.player.map (fun player => player.clientId) =
    before.player.map fun player => player.clientId
  ownedBy : after.ownedBy = before.ownedBy
  projectile : after.projectile = before.projectile
  transform : before.transform.isSome → after.transform.isSome
  velocity : before.velocity.isSome → after.velocity.isSome

theorem SameStanding.refl (row : Components) : SameStanding row row :=
  ⟨rfl, rfl, rfl, rfl, id, id⟩

theorem SameStanding.trans (first second third : Components) (left : SameStanding first second)
    (right : SameStanding second third) : SameStanding first third :=
  ⟨right.identity.trans left.identity, right.client.trans left.client,
   right.ownedBy.trans left.ownedBy, right.projectile.trans left.projectile,
   fun placed => right.transform (left.transform placed),
   fun moving => right.velocity (left.velocity moving)⟩

structure Identified (sim : GameSimulation) : Prop where
  server : sim.config.mode = .serverAuthoritative
  counted : sim.nextNetworkId = idOf sim.registry.created
  carried : ∀ entity row, sim.registry.get? entity = some row →
    row.identity = some { id := idOf entity }
  listed : ∀ id entity, sim.entityByNetworkId[id]? = some entity ↔
    id = idOf entity ∧ ∃ row, sim.registry.get? entity = some row
  placed : ∀ clientId id, sim.playerByClient[clientId]? = some id →
    ∃ entity row player, id = idOf entity ∧ sim.registry.get? entity = some row ∧
      row.player = some player ∧ player.clientId = clientId ∧
      row.ownedBy = some { clientId := clientId }
  entered : ∀ entity row player, sim.registry.get? entity = some row →
    row.player = some player → sim.playerByClient[player.clientId]? = some (idOf entity)
  apart : ∀ entity row, sim.registry.get? entity = some row → row.player.isSome →
    row.projectile = none
  owners : ∀ entity row owner, sim.registry.get? entity = some row → row.ownedBy = some owner →
    ∃ player, row.player = some player ∧ player.clientId = owner.clientId
  bodied : ∀ entity row, sim.registry.get? entity = some row →
    row.transform.isSome ∧ row.velocity.isSome
  limited : sim.playerByClient.size ≤ sim.config.maxPlayers.toNat

/-- The invariant under the bound that keeps the id counter from wrapping. -/
def WhileUnwrapped (sim : GameSimulation) : Prop :=
  sim.registry.created < 2 ^ 32 - 1 → Identified sim

theorem identified_start (config : SimulationConfig) (server : config.mode = .serverAuthoritative) :
    Identified { config := config } where
  server := server
  counted := rfl
  carried := by simp
  listed := by simp
  placed := by simp
  entered := by simp
  apart := by simp
  owners := by simp
  bodied := by simp
  limited := by simp

/-- The invariant reads five fields of the state. -/
theorem identified_congr {before after : GameSimulation} (identified : Identified before)
    (config : after.config = before.config) (registry : after.registry = before.registry)
    (nextNetworkId : after.nextNetworkId = before.nextNetworkId)
    (playerByClient : after.playerByClient = before.playerByClient)
    (entityByNetworkId : after.entityByNetworkId = before.entityByNetworkId) :
    Identified after := by
  obtain ⟨server, counted, carried, listed, placed, entered, apart, owners, bodied, limited⟩ :=
    identified
  constructor
  all_goals simp only [config, registry, nextNetworkId, playerByClient, entityByNetworkId]
  all_goals assumption

theorem identified_of_same {before after : GameSimulation} (tables : SameTables before after)
    (rows : RowsRelated SameStanding before after) (identified : Identified before) :
    Identified after where
  server := by rw [tables.config]; exact identified.server
  counted := by rw [tables.nextNetworkId, tables.created]; exact identified.counted
  carried := by
    intro entity later present
    obtain ⟨row, found, standing⟩ := rows.backward present
    rw [standing.identity]
    exact identified.carried entity row found
  listed := by
    intro id entity
    rw [tables.entityByNetworkId, identified.listed]
    constructor
    · rintro ⟨same, row, present⟩
      obtain ⟨later, found, _⟩ := rows.forward present
      exact ⟨same, later, found⟩
    · rintro ⟨same, later, present⟩
      obtain ⟨row, found, _⟩ := rows.backward present
      exact ⟨same, row, found⟩
  placed := by
    intro clientId id entry
    rw [tables.playerByClient] at entry
    obtain ⟨entity, row, player, same, present, isPlayer, client, owned⟩ :=
      identified.placed clientId id entry
    obtain ⟨later, found, standing⟩ := rows.forward present
    have clients := standing.client
    rw [isPlayer] at clients
    obtain ⟨latest, isLatest, sameClient⟩ := Option.map_eq_some_iff.mp clients
    exact ⟨entity, later, latest, same, found, isLatest, sameClient.trans client,
      standing.ownedBy.trans owned⟩
  entered := by
    intro entity later latest present isLatest
    obtain ⟨row, found, standing⟩ := rows.backward present
    have clients := standing.client
    rw [isLatest] at clients
    obtain ⟨player, isPlayer, sameClient⟩ := Option.map_eq_some_iff.mp clients.symm
    have same : player.clientId = latest.clientId := sameClient
    rw [tables.playerByClient, ← same]
    exact identified.entered entity row player found isPlayer
  apart := by
    intro entity later present isPlayer
    obtain ⟨row, found, standing⟩ := rows.backward present
    have clients := congrArg Option.isSome standing.client
    simp only [Option.isSome_map] at clients
    rw [standing.projectile]
    exact identified.apart entity row found (clients ▸ isPlayer)
  owners := by
    intro entity later owner present isOwner
    obtain ⟨row, found, standing⟩ := rows.backward present
    rw [standing.ownedBy] at isOwner
    obtain ⟨player, isPlayer, client⟩ := identified.owners entity row owner found isOwner
    have clients := standing.client
    rw [isPlayer] at clients
    obtain ⟨latest, isLatest, sameClient⟩ := Option.map_eq_some_iff.mp clients
    exact ⟨latest, isLatest, sameClient.trans client⟩
  bodied := by
    intro entity later present
    obtain ⟨row, found, standing⟩ := rows.backward present
    obtain ⟨placed, moving⟩ := identified.bodied entity row found
    exact ⟨standing.transform placed, standing.velocity moving⟩
  limited := by rw [tables.playerByClient, tables.config]; exact identified.limited

/-! Creation. -/

/-- `after` has one more entity, with the next id. -/
structure Creates (before after : GameSimulation) (row : Components) : Prop where
  config : after.config = before.config
  registry : after.registry = before.registry.create row
  entityByNetworkId : after.entityByNetworkId =
    before.entityByNetworkId.insert before.nextNetworkId before.registry.created
  nextNetworkId : after.nextNetworkId = { value := before.nextNetworkId.value + 1 }
  identity : row.identity = some { id := before.nextNetworkId }

section Creation

variable {before after : GameSimulation} {row : Components}

theorem creates_counted (creates : Creates before after row) (identified : Identified before) :
    after.nextNetworkId = idOf after.registry.created := by
  rw [creates.nextNetworkId, creates.registry, identified.counted, Registry.created_create]
  simp [idOf, UInt32.ofNat_add]

theorem creates_carried (creates : Creates before after row) (identified : Identified before)
    (entity : Entity) (found : Components) (present : after.registry.get? entity = some found) :
    found.identity = some { id := idOf entity } := by
  rw [creates.registry, Registry.get?_create] at present
  by_cases new : entity = before.registry.created
  · rw [if_pos new] at present
    cases present
    rw [creates.identity, identified.counted, new]
  · rw [if_neg new] at present
    exact identified.carried entity found present

theorem creates_listed (creates : Creates before after row) (identified : Identified before)
    (room : before.registry.created < 2 ^ 32 - 1) (id : NetworkEntityId) (entity : Entity) :
    after.entityByNetworkId[id]? = some entity ↔
      id = idOf entity ∧ ∃ row, after.registry.get? entity = some row := by
  rw [creates.entityByNetworkId, creates.registry, identified.counted, get_insert,
    Registry.get?_create]
  by_cases new : entity = before.registry.created
  · subst new
    by_cases same : idOf before.registry.created = id
    · simp [same]
    · simp [same, Ne.symm same, identified.listed]
  · by_cases same : idOf before.registry.created = id
    · -- An old entity has another id than the new one.
      rw [if_pos same, if_neg new]
      constructor
      · intro isNew
        exact absurd (Option.some.inj isNew).symm new
      · rintro ⟨sameId, found, present⟩
        have below := before.registry.get?_lt present
        have oldEntity := id_of_injective room (Nat.lt_trans below room) (same.trans sameId)
        exact absurd oldEntity.symm new
    · rw [if_neg same, if_neg new]
      exact identified.listed id entity

/-- An old row is still there after a creation. -/
theorem creates_keeps (creates : Creates before after row) {entity : Entity} {found : Components}
    (present : before.registry.get? entity = some found) :
    after.registry.get? entity = some found := by
  have below := before.registry.get?_lt present
  rw [creates.registry, Registry.get?_create, if_neg (Nat.ne_of_lt below), present]

/-- After a creation a row is the new one or an old one. -/
theorem creates_cases (creates : Creates before after row) {entity : Entity} {found : Components}
    (present : after.registry.get? entity = some found) :
    entity = before.registry.created ∧ found = row ∨
      before.registry.get? entity = some found := by
  rw [creates.registry, Registry.get?_create] at present
  by_cases new : entity = before.registry.created
  · rw [if_pos new] at present
    exact Or.inl ⟨new, (Option.some.inj present).symm⟩
  · rw [if_neg new] at present
    exact Or.inr present

end Creation

theorem create_projectile_creates (sim : GameSimulation) (request : ProjectileRequest) :
    Creates sim (createProjectile sim request)
      (projectileRow sim.timeMs sim.nextNetworkId request) :=
  ⟨rfl, rfl, rfl, rfl, rfl⟩

theorem create_player_creates (sim : GameSimulation) (clientId : ClientId) (x y : Fixed) :
    Creates sim (createPlayer sim clientId x y)
      (playerRow sim.config sim.nextNetworkId clientId x y) :=
  ⟨rfl, rfl, rfl, rfl, rfl⟩

theorem create_projectile_identified (sim : GameSimulation) (request : ProjectileRequest)
    (kept : WhileUnwrapped sim) : WhileUnwrapped (createProjectile sim request) := by
  intro unwrapped
  have creates := create_projectile_creates sim request
  have room : sim.registry.created < 2 ^ 32 - 1 :=
    Nat.lt_of_le_of_lt (create_projectile_aged sim request).created unwrapped
  have identified := kept room
  refine ⟨identified.server, creates_counted creates identified, creates_carried creates identified,
    creates_listed creates identified room, ?_, ?_, ?_, ?_, ?_, identified.limited⟩
  · intro clientId id entry
    obtain ⟨entity, found, player, same, present, rest⟩ := identified.placed clientId id entry
    exact ⟨entity, found, player, same, creates_keeps creates present, rest⟩
  · intro entity found player present isPlayer
    rcases creates_cases creates present with ⟨_, rfl⟩ | old
    · cases isPlayer
    · exact identified.entered entity found player old isPlayer
  · intro entity found present isPlayer
    rcases creates_cases creates present with ⟨_, rfl⟩ | old
    · cases isPlayer
    · exact identified.apart entity found old isPlayer
  · intro entity found owner present isOwner
    rcases creates_cases creates present with ⟨_, rfl⟩ | old
    · cases isOwner
    · exact identified.owners entity found owner old isOwner
  · intro entity found present
    rcases creates_cases creates present with ⟨_, rfl⟩ | old
    · exact ⟨rfl, rfl⟩
    · exact identified.bodied entity found old

theorem create_player_identified (sim : GameSimulation) (clientId : ClientId) (x y : Fixed)
    (newClient : sim.playerByClient[clientId]? = none)
    (seat : sim.playerByClient.size < sim.config.maxPlayers.toNat)
    (room : sim.registry.created < 2 ^ 32 - 1) (identified : Identified sim) :
    Identified (createPlayer sim clientId x y) := by
  -- Everything but the entries of the new player is as before.
  have creates := create_player_creates sim clientId x y
  have newest : (createPlayer sim clientId x y).registry.get? sim.registry.created =
      some (playerRow sim.config sim.nextNetworkId clientId x y) := by
    rw [creates.registry, Registry.get?_create, if_pos rfl]
  have players (other : ClientId) : (createPlayer sim clientId x y).playerByClient[other]? =
      if clientId = other then some (idOf sim.registry.created)
      else sim.playerByClient[other]? := by
    rw [← identified.counted]
    exact get_insert _ _ _ _
  refine ⟨identified.server, creates_counted creates identified, creates_carried creates identified,
    creates_listed creates identified room, ?_, ?_, ?_, ?_, ?_, ?_⟩
  · intro other id entry
    rw [players] at entry
    by_cases same : clientId = other
    · rw [if_pos same] at entry
      exact ⟨_, _, _, (Option.some.inj entry).symm, newest, rfl, same, by rw [← same]; rfl⟩
    · rw [if_neg same] at entry
      obtain ⟨entity, found, player, sameId, present, rest⟩ := identified.placed other id entry
      exact ⟨entity, found, player, sameId, creates_keeps creates present, rest⟩
  · intro entity found player present isPlayer
    rw [players]
    rcases creates_cases creates present with ⟨rfl, rfl⟩ | old
    · cases isPlayer
      rw [if_pos rfl]
    · have entry := identified.entered entity found player old isPlayer
      rw [if_neg, entry]
      rintro rfl
      rw [newClient] at entry
      cases entry
  · intro entity found present isPlayer
    rcases creates_cases creates present with ⟨_, rfl⟩ | old
    · rfl
    · exact identified.apart entity found old isPlayer
  · intro entity found owner present isOwner
    rcases creates_cases creates present with ⟨_, rfl⟩ | old
    · cases isOwner
      exact ⟨_, rfl, rfl⟩
    · exact identified.owners entity found owner old isOwner
  · intro entity found present
    rcases creates_cases creates present with ⟨_, rfl⟩ | old
    · exact ⟨rfl, rfl⟩
    · exact identified.bodied entity found old
  · have grown : (createPlayer sim clientId x y).playerByClient.size ≤
        sim.playerByClient.size + 1 := Std.ExtTreeMap.size_insert_le
    exact Nat.le_trans grown seat

/-! Destruction. -/

theorem destroy_projectile_identified (sim : GameSimulation) (entity : Entity)
    (room : sim.registry.created < 2 ^ 32 - 1) (identified : Identified sim)
    (carries : ∀ row, sim.registry.get? entity = some row → row.projectile.isSome) :
    Identified (destroyProjectile sim entity) := by
  unfold destroyProjectile
  split
  · exact identified
  · next identity named =>
      obtain ⟨row, present, isIdentity⟩ := Option.bind_eq_some_iff.mp named
      rw [identified.carried entity row present] at isIdentity
      cases isIdentity
      have kept (other : Entity) (found : Components) :
          (sim.registry.destroy entity).get? other = some found ↔
            other ≠ entity ∧ sim.registry.get? other = some found := by
        rw [Registry.get?_destroy]
        by_cases same : other = entity
        · simp [same]
        · simp [same]
      refine ⟨identified.server, identified.counted, ?_, ?_, ?_, ?_, ?_, ?_, ?_,
        identified.limited⟩
      · intro other found present
        exact identified.carried other found ((kept other found).mp present).2
      · intro id other
        dsimp only
        rw [get_erase]
        simp only [kept]
        by_cases same : idOf entity = id
        · rw [if_pos same]
          constructor
          · intro impossible
            cases impossible
          · rintro ⟨sameId, found, different, isRow⟩
            have below := sim.registry.get?_lt present
            have otherBelow := sim.registry.get?_lt isRow
            have equal := id_of_injective (Nat.lt_trans below room) (Nat.lt_trans otherBelow room)
              (same.trans sameId)
            exact absurd equal.symm different
        · rw [if_neg same, identified.listed]
          constructor
          · rintro ⟨sameId, found, isRow⟩
            refine ⟨sameId, found, ?_, isRow⟩
            rintro rfl
            exact same sameId.symm
          · rintro ⟨sameId, found, _, isRow⟩
            exact ⟨sameId, found, isRow⟩
      · intro clientId id entry
        obtain ⟨other, found, player, sameId, isRow, isPlayer, rest⟩ :=
          identified.placed clientId id entry
        refine ⟨other, found, player, sameId, (kept other found).mpr ⟨?_, isRow⟩, isPlayer, rest⟩
        -- The entity of a player is not the projectile that is destroyed.
        rintro rfl
        have projectile := carries found isRow
        rw [identified.apart other found isRow (by simp [isPlayer])] at projectile
        cases projectile
      · intro other found player isRow isPlayer
        exact identified.entered other found player ((kept other found).mp isRow).2 isPlayer
      · intro other found isRow isPlayer
        exact identified.apart other found ((kept other found).mp isRow).2 isPlayer
      · intro other found owner isRow isOwner
        exact identified.owners other found owner ((kept other found).mp isRow).2 isOwner
      · intro other found isRow
        exact identified.bodied other found ((kept other found).mp isRow).2

/-- The loop over `toDestroy`, whose live members all are projectiles. -/
theorem destroy_states_identified (toDestroy : List Entity) (sim : GameSimulation)
    (room : sim.registry.created < 2 ^ 32 - 1) (identified : Identified sim)
    (carries : ∀ entity ∈ toDestroy, ∀ row, sim.registry.get? entity = some row →
      row.projectile.isSome) :
    ∀ moment ∈ Runs.states destroyProjectile sim toDestroy, Identified moment := by
  induction toDestroy generalizing sim with
  | nil =>
      intro moment member
      rw [List.mem_singleton.mp member]
      exact identified
  | cons entity rest ih =>
      intro moment member
      rcases List.mem_cons.mp member with rfl | later
      · exact identified
      · refine ih (destroyProjectile sim entity) ?_ ?_ ?_ moment later
        · have aged := destroy_projectile_created sim entity
          omega
        · exact destroy_projectile_identified sim entity room identified
            (carries entity List.mem_cons_self)
        · intro other member row present
          rw [destroy_projectile_row] at present
          split at present
          · cases present
          · exact carries other (List.mem_cons_of_mem entity member) row present

theorem destroy_all_identified (toDestroy : List Entity) (sim : GameSimulation)
    (room : sim.registry.created < 2 ^ 32 - 1) (identified : Identified sim)
    (carries : ∀ entity ∈ toDestroy, ∀ row, sim.registry.get? entity = some row →
      row.projectile.isSome) :
    Identified (toDestroy.foldl destroyProjectile sim) :=
  destroy_states_identified toDestroy sim room identified carries _
    (Runs.run_mem_states destroyProjectile sim toDestroy)

/-! A tick. -/

theorem process_inputs_standing (order : LoopOrder) (sim : GameSimulation) :
    RowsRelated SameStanding sim (processInputs order sim) := by
  apply rows_related_of_map (movedRow sim) (process_inputs_row order sim)
  intro entity row
  obtain ⟨transform, velocity, aim, weapon, moved, placed, moving⟩ :=
    moved_row_changes sim entity row
  rw [moved]
  exact ⟨rfl, rfl, rfl, rfl, fun had => placed ▸ had, fun had => moving ▸ had⟩

theorem finish_warmups_standing (order : LoopOrder) (sim : GameSimulation) :
    RowsRelated SameStanding sim (sim.forEachEntity order .weaponWarmups inWarmupView
      (finishWarmup sim.config sim.timeMs)) := by
  apply for_each_rows SameStanding.refl
  intro row
  obtain ⟨weapon, finished⟩ := finish_warmup_changes sim.config sim.timeMs row
  rw [finished]
  exact ⟨rfl, rfl, rfl, rfl, id, id⟩

theorem projectile_loop_standing (targets entities : List Entity) (sim : GameSimulation) :
    RowsRelated SameStanding sim (entities.foldl (processProjectile targets) (sim, [])).1 := by
  refine projectile_loop_rows SameStanding.refl SameStanding.trans sim.config ?_ ?_ targets
    entities (sim, []) rfl
  · intro row _
    obtain ⟨transform, flown, placed⟩ := fly_changes sim.config row
    rw [flown]
    exact ⟨rfl, rfl, rfl, rfl, fun had => placed ▸ had, id⟩
  · intro timeMs projectileId projectile row
    obtain ⟨player, damaged, client⟩ := damage_changes sim.config timeMs projectileId projectile row
    rw [damaged]
    exact ⟨rfl, client, rfl, rfl, id, id⟩

theorem process_respawns_standing (order : LoopOrder) (sim : GameSimulation) :
    RowsRelated SameStanding sim (processRespawns order sim) := by
  apply for_each_rows SameStanding.refl
  intro row
  obtain ⟨player, transform, velocity, weapon, respawned, client, placed, moving⟩ :=
    respawn_changes sim.config sim.timeMs row
  rw [respawned]
  exact ⟨rfl, client, rfl, rfl, placed, moving⟩

theorem process_inputs_identified (order : LoopOrder) (sim : GameSimulation)
    (kept : WhileUnwrapped sim) : WhileUnwrapped (processInputs order (advanceClock sim)) := by
  intro unwrapped
  have tables := process_inputs_tables order (advanceClock sim)
  apply identified_of_same tables (process_inputs_standing order (advanceClock sim))
  exact identified_congr (kept (tables.created ▸ unwrapped)) rfl rfl rfl rfl rfl

/-- The warmups loop before it creates what it has requested. -/
def finishedWarmups (order : LoopOrder) (sim : GameSimulation) : GameSimulation :=
  sim.forEachEntity order .weaponWarmups inWarmupView (finishWarmup sim.config sim.timeMs)

def requestedProjectiles (order : LoopOrder) (sim : GameSimulation) : List ProjectileRequest :=
  (sim.registry.view order .weaponWarmups inWarmupView).filterMap fun entity =>
    (sim.registry.get? entity).bind (projectileRequest sim.config sim.timeMs)

theorem warmups_create (order : LoopOrder) (sim : GameSimulation) :
    processWeaponWarmups order sim = Runs.run createProjectile (finishedWarmups order sim)
      (requestedProjectiles order sim) := rfl

theorem finished_warmups_identified (order : LoopOrder) (sim : GameSimulation)
    (kept : WhileUnwrapped sim) : WhileUnwrapped (finishedWarmups order sim) := by
  intro unwrapped
  have tables := for_each_tables (finishWarmup sim.config sim.timeMs) order .weaponWarmups
    inWarmupView sim
  exact identified_of_same tables (finish_warmups_standing order sim)
    (kept (tables.created ▸ unwrapped))

theorem process_warmups_identified (order : LoopOrder) (sim : GameSimulation)
    (kept : WhileUnwrapped sim) : WhileUnwrapped (processWeaponWarmups order sim) := by
  rw [warmups_create]
  exact Runs.run_invariant createProjectile WhileUnwrapped create_projectile_identified _
    (finished_warmups_identified order sim kept) _

/-- The projectiles loop before it destroys what it has collected. -/
def flownProjectiles (order : LoopOrder) (sim : GameSimulation) : GameSimulation × List Entity :=
  (sim.registry.view order .projectiles inProjectileView).foldl
    (processProjectile (sim.registry.view order .projectileTargets inTargetView)) (sim, [])

theorem projectiles_destroy (order : LoopOrder) (sim : GameSimulation) :
    processProjectiles order sim = Runs.run destroyProjectile (flownProjectiles order sim).1
      (flownProjectiles order sim).2 := rfl

theorem flown_tables (order : LoopOrder) (sim : GameSimulation) :
    SameTables sim (flownProjectiles order sim).1 :=
  projectile_loop_tables (sim.registry.view order .projectileTargets inTargetView)
    (sim.registry.view order .projectiles inProjectileView) (sim, [])

theorem flown_states_identified (order : LoopOrder) (sim : GameSimulation)
    (kept : WhileUnwrapped sim) :
    ∀ moment ∈ Runs.states destroyProjectile (flownProjectiles order sim).1
      (flownProjectiles order sim).2, WhileUnwrapped moment := by
  intro moment member unwrapped
  have passes := Runs.states_pass destroyProjectile Aged Aged.refl Aged.trans
    destroy_projectile_aged (flownProjectiles order sim).1 (flownProjectiles order sim).2
  -- Nothing is created in this loop, so there was room for an id at its start.
  have room := Nat.lt_of_le_of_lt (passes.inside moment member).1.created unwrapped
  have tables := flown_tables order sim
  have identified := identified_of_same tables (projectile_loop_standing _ _ sim)
    (kept (tables.created ▸ room))
  refine destroy_states_identified _ _ room identified ?_ moment member
  intro entity collected row present
  obtain ⟨found, isRow, carries⟩ := projectile_loop_destroys _ _ sim entity collected
  have same : some row = some found := present.symm.trans isRow
  cases same
  exact carries

theorem process_projectiles_identified (order : LoopOrder) (sim : GameSimulation)
    (kept : WhileUnwrapped sim) : WhileUnwrapped (processProjectiles order sim) := by
  rw [projectiles_destroy]
  exact flown_states_identified order sim kept _ (Runs.run_mem_states destroyProjectile _ _)

theorem tick_identified (order : LoopOrder) (sim : GameSimulation) (kept : WhileUnwrapped sim) :
    WhileUnwrapped (tickFixed order sim) := by
  have projectiles := process_projectiles_identified order _
    (process_warmups_identified order _ (process_inputs_identified order sim kept))
  intro unwrapped
  have tables := process_respawns_tables order
    (processProjectiles order (processWeaponWarmups order (processInputs order (advanceClock sim))))
  exact identified_of_same tables (process_respawns_standing order _)
    (projectiles (tables.created ▸ unwrapped))

/-! Calls and runs. -/

theorem submit_login_identified (sim : GameSimulation) (command : LoginCommand)
    (kept : WhileUnwrapped sim) : WhileUnwrapped (submitLogin sim command).1 := by
  intro unwrapped
  rcases submit_login_cases sim command with same | ⟨unknown, seat, joined⟩
  · rw [same] at unwrapped ⊢
    exact kept unwrapped
  · rw [joined] at unwrapped ⊢
    have room : sim.registry.created < 2 ^ 32 - 1 :=
      Nat.lt_of_le_of_lt (Nat.le_succ _) unwrapped
    have newClient : sim.playerByClient[command.header.clientId]? = none :=
      Std.ExtTreeMap.getElem?_eq_none unknown
    exact create_player_identified _ _ _ _ newClient seat room
      (identified_congr (kept room) rfl rfl rfl rfl rfl)

theorem submit_input_identified (sim : GameSimulation) (packet : ClientInputPacket)
    (kept : WhileUnwrapped sim) : WhileUnwrapped (submitInput sim packet).1 := by
  rcases submit_input_cases sim packet with ⟨same, _⟩ | ⟨_, _, accepted⟩
  · rw [same]
    exact kept
  · rw [accepted]
    intro unwrapped
    exact identified_congr (kept unwrapped) rfl rfl rfl rfl rfl

theorem server_step_identified (sim : GameSimulation) (call : ServerCall)
    (kept : WhileUnwrapped sim) : WhileUnwrapped (serverStep sim call) := by
  cases call with
  | login command => exact submit_login_identified sim command kept
  | input packet => exact submit_input_identified sim packet kept
  | tick order => exact tick_identified order sim kept

theorem server_run_identified (config : SimulationConfig)
    (server : config.mode = .serverAuthoritative) (calls : List ServerCall) :
    WhileUnwrapped (serverRun config calls) := by
  apply Runs.run_invariant serverStep WhileUnwrapped server_step_identified
  exact fun _ => identified_start config server

/-! Handles only grow older. -/

theorem create_player_aged (sim : GameSimulation) (clientId : ClientId) (x y : Fixed) :
    Aged sim (createPlayer sim clientId x y) := by
  refine ⟨Nat.le_succ _, ?_⟩
  intro entity below gone
  rw [(create_player_creates sim clientId x y).registry, Registry.get?_create,
    if_neg (Nat.ne_of_lt below), gone]

theorem server_step_aged (sim : GameSimulation) (call : ServerCall) :
    Aged sim (serverStep sim call) := by
  cases call with
  | login command =>
      dsimp only [serverStep]
      rcases submit_login_cases sim command with same | ⟨_, _, joined⟩
      · rw [same]
        exact Aged.refl sim
      · have created := create_player_aged
          { sim with
            lastAcceptedSequence := sim.lastAcceptedSequence.insert command.header.clientId
              command.header.sequence }
          command.header.clientId
          (spawnTransformForClient sim.config command.header.clientId).x
          (spawnTransformForClient sim.config command.header.clientId).y
        rw [joined]
        exact ⟨created.created, created.dead⟩
  | input packet =>
      dsimp only [serverStep]
      rcases submit_input_cases sim packet with ⟨same, _⟩ | ⟨_, _, accepted⟩
      · rw [same]
        exact Aged.refl sim
      · rw [accepted]
        exact ⟨Nat.le_refl _, fun _ _ gone => gone⟩
  | tick order => exact tick_aged order sim

theorem server_run_append (config : SimulationConfig) (first second : List ServerCall) :
    serverRun config (first ++ second) = Runs.run serverStep (serverRun config first) second :=
  Runs.run_append serverStep _ first second

theorem server_step_config (sim : GameSimulation) (call : ServerCall) :
    (serverStep sim call).config = sim.config := by
  cases call with
  | login command => exact submit_login_config sim command
  | input packet => exact submit_input_config sim packet
  | tick order => exact (tick_setup order sim).1

theorem server_run_config (config : SimulationConfig) (calls : List ServerCall) :
    (serverRun config calls).config = config := by
  apply Runs.run_invariant serverStep fun sim => sim.config = config
  · exact fun sim call kept => (server_step_config sim call).trans kept
  · rfl

theorem server_run_aged (config : SimulationConfig) (first second : List ServerCall) :
    Aged (serverRun config first) (serverRun config (first ++ second)) := by
  rw [server_run_append]
  exact Runs.run_relates serverStep Aged Aged.refl Aged.trans server_step_aged _ second

/-! Moments. -/

/-- The states that a tick passes through: one at the start and the end of each
loop that creates or destroys, and one after each creation and destruction. -/
def tickMoments (order : LoopOrder) (sim : GameSimulation) : List GameSimulation :=
  let moved := processInputs order (advanceClock sim)
  let flown := flownProjectiles order (processWeaponWarmups order moved)
  Runs.states createProjectile (finishedWarmups order moved) (requestedProjectiles order moved) ++
    (Runs.states destroyProjectile flown.1 flown.2 ++ [tickFixed order sim])

def callMoments (sim : GameSimulation) : ServerCall → List GameSimulation
  | .tick order => tickMoments order sim
  | call => [serverStep sim call]

def momentsFrom : GameSimulation → List ServerCall → List GameSimulation
  | _, [] => []
  | sim, call :: rest => callMoments sim call ++ momentsFrom (serverStep sim call) rest

/-- Every state of a run, those inside its ticks included. -/
def serverMoments (config : SimulationConfig) (calls : List ServerCall) : List GameSimulation :=
  { config := config } :: momentsFrom { config := config } calls

theorem tick_passes (order : LoopOrder) (sim : GameSimulation) :
    Runs.Passes Aged sim (tickFixed order sim) (tickMoments order sim) := by
  let moved := processInputs order (advanceClock sim)
  let spawned := processWeaponWarmups order moved
  -- In the order of the tick: up to the first creation, the creations, up to the
  -- first destruction, the destructions, and the respawns.
  have begins : Aged sim (finishedWarmups order moved) := by
    have clock : Aged sim (advanceClock sim) := ⟨Nat.le_refl _, fun _ _ gone => gone⟩
    exact (clock.trans (process_inputs_aged order _)).trans
      (for_each_aged (finishWarmup moved.config moved.timeMs) order .weaponWarmups inWarmupView _)
  have created := Runs.states_pass createProjectile Aged Aged.refl Aged.trans
    create_projectile_aged (finishedWarmups order moved) (requestedProjectiles order moved)
  have flies : Aged spawned (flownProjectiles order spawned).1 :=
    aged_of_rows (flown_tables order spawned) (projectile_loop_standing _ _ spawned)
  have destroyed := Runs.states_pass destroyProjectile Aged Aged.refl Aged.trans
    destroy_projectile_aged (flownProjectiles order spawned).1 (flownProjectiles order spawned).2
  have ends := Runs.passes_one Aged (process_respawns_aged order (processProjectiles order spawned))
    (Aged.refl _)
  exact Runs.passes_append Aged Aged.trans (Runs.passes_after Aged Aged.trans begins created)
    (Runs.passes_append Aged Aged.trans (Runs.passes_after Aged Aged.trans flies destroyed) ends)

theorem tick_moments_identified (order : LoopOrder) (sim : GameSimulation)
    (kept : WhileUnwrapped sim) : ∀ moment ∈ tickMoments order sim, WhileUnwrapped moment := by
  intro moment member
  have moved := process_inputs_identified order sim kept
  rcases List.mem_append.mp member with created | later
  · exact Runs.states_invariant createProjectile WhileUnwrapped create_projectile_identified _
      (finished_warmups_identified order _ moved) _ moment created
  · rcases List.mem_append.mp later with destroyed | last
    · exact flown_states_identified order _ (process_warmups_identified order _ moved) moment
        destroyed
    · rw [List.mem_singleton.mp last]
      exact tick_identified order sim kept

theorem call_passes (sim : GameSimulation) (call : ServerCall) :
    Runs.Passes Aged sim (serverStep sim call) (callMoments sim call) := by
  have single := Runs.passes_one Aged (server_step_aged sim call) (Aged.refl _)
  cases call with
  | login command => exact single
  | input packet => exact single
  | tick order => exact tick_passes order sim

theorem call_moments_identified (sim : GameSimulation) (call : ServerCall)
    (kept : WhileUnwrapped sim) : ∀ moment ∈ callMoments sim call, WhileUnwrapped moment := by
  have single : ∀ moment ∈ [serverStep sim call], WhileUnwrapped moment := by
    intro moment member
    rw [List.mem_singleton.mp member]
    exact server_step_identified sim call kept
  cases call with
  | login command => exact single
  | input packet => exact single
  | tick order => exact tick_moments_identified order sim kept

theorem moments_pass (calls : List ServerCall) (sim : GameSimulation) :
    Runs.Passes Aged sim (Runs.run serverStep sim calls) (momentsFrom sim calls) := by
  induction calls generalizing sim with
  | nil => exact ⟨Aged.refl sim, fun _ member => (by cases member), List.Pairwise.nil⟩
  | cons call rest ih =>
      exact Runs.passes_append Aged Aged.trans (call_passes sim call) (ih (serverStep sim call))

theorem moments_identified (calls : List ServerCall) (sim : GameSimulation)
    (kept : WhileUnwrapped sim) : ∀ moment ∈ momentsFrom sim calls, WhileUnwrapped moment := by
  induction calls generalizing sim with
  | nil =>
      intro moment member
      cases member
  | cons call rest ih =>
      intro moment member
      rcases List.mem_append.mp member with now | later
      · exact call_moments_identified sim call kept moment now
      · exact ih _ (server_step_identified sim call kept) moment later

theorem server_moments_pass (config : SimulationConfig) (calls : List ServerCall) :
    Runs.Passes Aged { config := config } (serverRun config calls) (serverMoments config calls) :=
  Runs.passes_append Aged Aged.trans (Runs.passes_one Aged (Aged.refl _) (Aged.refl _))
    (moments_pass calls _)

theorem server_moments_identified (config : SimulationConfig)
    (server : config.mode = .serverAuthoritative) (calls : List ServerCall) :
    ∀ moment ∈ serverMoments config calls, WhileUnwrapped moment := by
  have initially : WhileUnwrapped { config := config } := fun _ => identified_start config server
  intro moment member
  rcases List.mem_cons.mp member with rfl | later
  · exact initially
  · exact moments_identified calls _ initially moment later

/-- An entity that has left the table is dead, and so it stays. -/
theorem never_returns {first middle last : GameSimulation} (toMiddle : Aged first middle)
    (toLast : Aged middle last) (room : last.registry.created < 2 ^ 32 - 1)
    (kept : WhileUnwrapped first ∧ WhileUnwrapped middle ∧ WhileUnwrapped last)
    {id : NetworkEntityId} {entity : Entity} (bound : first.entityByNetworkId[id]? = some entity)
    (unbound : middle.entityByNetworkId[id]? = none) : last.entityByNetworkId[id]? = none := by
  obtain ⟨keptFirst, keptMiddle, keptLast⟩ := kept
  have middleRoom := Nat.lt_of_le_of_lt toLast.created room
  have atFirst := keptFirst (Nat.lt_of_le_of_lt toMiddle.created middleRoom)
  have atMiddle := keptMiddle middleRoom
  obtain ⟨rfl, row, present⟩ := (atFirst.listed _ _).mp bound
  have below := Nat.lt_of_lt_of_le (Registry.get?_lt _ present) toMiddle.created
  -- The entity is dead in the middle, so it is dead at the end.
  have dead : middle.registry.get? entity = none := by
    cases alive : middle.registry.get? entity with
    | none => rfl
    | some found =>
        have rebound := (atMiddle.listed (idOf entity) entity).mpr ⟨rfl, found, alive⟩
        rw [unbound] at rebound
        cases rebound
  have stillDead := toLast.dead entity below dead
  cases rebound : last.entityByNetworkId[idOf entity]? with
  | none => rfl
  | some other =>
      obtain ⟨same, found, alive⟩ := ((keptLast room).listed _ _).mp rebound
      have otherBelow := Nat.lt_trans (Registry.get?_lt _ alive) room
      have equal := id_of_injective (Nat.lt_trans below middleRoom) otherBelow same
      subst equal
      rw [stillDead] at alive
      cases alive

/-! The statements. -/

/-- The client of the player an entity carries. -/
def clientOf (sim : GameSimulation) (entity : Entity) : ClientId :=
  (((sim.registry.get? entity).bind fun row => row.player).map fun player => player.clientId).getD 0

/-- Distinct players sit under distinct clients, so the table bounds them. -/
theorem players_at_most (sim : GameSimulation) (identified : Identified sim)
    (room : sim.registry.created < 2 ^ 32 - 1) :
    sim.registry.count (fun row => row.player.isSome) ≤ sim.config.maxPlayers.toNat := by
  let carriers := (List.range sim.registry.created).filter fun entity =>
    (sim.registry.get? entity).any fun row => row.player.isSome
  have entry : ∀ entity ∈ carriers, entity < 2 ^ 32 - 1 ∧
      sim.playerByClient[clientOf sim entity]? = some (idOf entity) := by
    intro entity member
    obtain ⟨inRange, passes⟩ := List.mem_filter.mp member
    obtain ⟨row, present, carries⟩ := (Option.any_eq_true _ _).mp passes
    obtain ⟨player, isPlayer⟩ := Option.isSome_iff_exists.mp carries
    refine ⟨Nat.lt_trans (List.mem_range.mp inRange) room, ?_⟩
    have client : clientOf sim entity = player.clientId := by
      simp [clientOf, present, isPlayer]
    rw [client]
    exact identified.entered entity row player present isPlayer
  have distinct : (carriers.map (clientOf sim)).Nodup := by
    apply List.Nodup.map_on
    · intro first isFirst second isSecond same
      obtain ⟨firstBelow, firstEntry⟩ := entry first isFirst
      obtain ⟨secondBelow, secondEntry⟩ := entry second isSecond
      rw [same, secondEntry] at firstEntry
      exact (id_of_injective secondBelow firstBelow (Option.some.inj firstEntry)).symm
    · exact List.nodup_range.filter _
  have bound := length_le_size sim.playerByClient (carriers.map (clientOf sim)) distinct (by
    intro clientId member
    obtain ⟨entity, carrier, rfl⟩ := List.mem_map.mp member
    exact ⟨idOf entity, (entry entity carrier).2⟩)
  rw [List.length_map] at bound
  exact Nat.le_trans bound identified.limited

theorem identity_tables (sim : GameSimulation) (identified : Identified sim)
    (room : sim.registry.created < 2 ^ 32 - 1) : IdentityTables sim where
  bijection := by
    intro id entity
    rw [identified.listed]
    constructor
    · rintro ⟨rfl, row, present⟩
      exact ⟨row, present, identified.carried entity row present⟩
    · rintro ⟨row, present, named⟩
      rw [identified.carried entity row present] at named
      cases named
      exact ⟨rfl, row, present⟩
  everyEntity := fun entity row present => ⟨idOf entity, identified.carried entity row present⟩
  everyEntry := by
    intro clientId id entry
    obtain ⟨entity, row, player, rfl, present, rest⟩ := identified.placed clientId id entry
    exact ⟨entity, row, player, (identified.listed _ _).mpr ⟨rfl, row, present⟩, present, rest⟩
  everyPlayer := by
    intro entity row player present isPlayer
    have named := identified.carried entity row present
    refine ⟨player.clientId, ⟨idOf entity, ?_, named⟩, ?_⟩
    · exact identified.entered entity row player present isPlayer
    · rintro clientId ⟨id, entry, isIdentity⟩
      rw [named] at isIdentity
      cases isIdentity
      obtain ⟨other, found, owner, same, isRow, isOwner, client, _⟩ :=
        identified.placed clientId _ entry
      -- Below the wrap an id names one entity.
      have below := Nat.lt_trans (sim.registry.get?_lt present) room
      have otherBelow := Nat.lt_trans (sim.registry.get?_lt isRow) room
      have equal := id_of_injective below otherBelow same
      subst equal
      rw [present] at isRow
      cases isRow
      rw [isPlayer] at isOwner
      cases isOwner
      exact client.symm
  atMostMaxPlayers := players_at_most sim identified room
  neverZero := by
    intro id entity entry
    obtain ⟨rfl, row, present⟩ := (identified.listed _ _).mp entry
    exact id_of_ne_zero (Nat.lt_trans (sim.registry.get?_lt present) room)

/-- No id ever names two entities, and one that has left the table stays out. -/
structure NeverReused (moments : List GameSimulation) : Prop where
  oneEntity : ∀ first ∈ moments, ∀ second ∈ moments, ∀ (id : NetworkEntityId)
    (entity other : Entity), first.entityByNetworkId[id]? = some entity →
      second.entityByNetworkId[id]? = some other → entity = other
  gone : ∀ first middle last : GameSimulation, [first, middle, last].Sublist moments →
    ∀ (id : NetworkEntityId) (entity : Entity), first.entityByNetworkId[id]? = some entity →
      middle.entityByNetworkId[id]? = none → last.entityByNetworkId[id]? = none

theorem moments_never_reuse (config : SimulationConfig)
    (server : config.mode = .serverAuthoritative) (calls : List ServerCall)
    (unwrapped : allocations (serverRun config calls) < 2 ^ 32 - 1) :
    NeverReused (serverMoments config calls) := by
  have passes := server_moments_pass config calls
  have kept := server_moments_identified config server calls
  have room : ∀ moment ∈ serverMoments config calls, moment.registry.created < 2 ^ 32 - 1 :=
    fun moment member => Nat.lt_of_le_of_lt (passes.inside moment member).2.created unwrapped
  constructor
  · intro first isFirst second isSecond id entity other bound rebound
    obtain ⟨rfl, _, present⟩ := ((kept first isFirst (room first isFirst)).listed _ _).mp bound
    obtain ⟨same, _, alive⟩ := ((kept second isSecond (room second isSecond)).listed _ _).mp rebound
    exact id_of_injective (Nat.lt_trans (Registry.get?_lt _ present) (room first isFirst))
      (Nat.lt_trans (Registry.get?_lt _ alive) (room second isSecond)) same
  · intro first middle last inOrder id entity bound unbound
    have ordered := passes.ordered.sublist inOrder
    simp only [List.pairwise_cons, List.mem_cons, List.not_mem_nil, or_false] at ordered
    obtain ⟨fromFirst, fromMiddle, _⟩ := ordered
    have isFirst := inOrder.subset (List.mem_cons_self (a := first))
    have isMiddle : middle ∈ serverMoments config calls := inOrder.subset (by simp)
    have isLast : last ∈ serverMoments config calls := inOrder.subset (by simp)
    exact never_returns (fromFirst middle (Or.inl rfl)) (fromMiddle last rfl) (room last isLast)
      ⟨kept first isFirst, kept middle isMiddle, kept last isLast⟩ bound unbound

/-- Along every server run that allocates fewer than `2 ^ 32 - 1` ids the tables
agree in every state, an id that has left the table between two calls never comes
back, and no id allocated anywhere in the run, inside a tick as well, is ever
reused. -/
theorem server_entity_identity (config : SimulationConfig)
    (server : config.mode = .serverAuthoritative) (calls : List ServerCall)
    (unwrapped : allocations (serverRun config calls) < 2 ^ 32 - 1) :
    IdentityTables (serverRun config calls) ∧
    (∀ earlier middle later : List ServerCall, calls = earlier ++ middle ++ later →
      ∀ (id : NetworkEntityId) (entity : Entity),
        (serverRun config earlier).entityByNetworkId[id]? = some entity →
        (serverRun config (earlier ++ middle)).entityByNetworkId[id]? = none →
        (serverRun config calls).entityByNetworkId[id]? = none) ∧
    (∀ moment ∈ serverMoments config calls, IdentityTables moment) ∧
    NeverReused (serverMoments config calls) := by
  refine ⟨identity_tables _ (server_run_identified config server calls unwrapped) unwrapped,
    ?_, ?_, moments_never_reuse config server calls unwrapped⟩
  · rintro earlier middle later rfl id entity bound unbound
    exact never_returns (server_run_aged config earlier middle)
      (server_run_aged config (earlier ++ middle) later) unwrapped
      ⟨server_run_identified config server earlier,
        server_run_identified config server (earlier ++ middle),
        server_run_identified config server (earlier ++ middle ++ later)⟩ bound unbound
  · intro moment member
    have aged := ((server_moments_pass config calls).inside moment member).2
    have room := Nat.lt_of_le_of_lt aged.created unwrapped
    exact identity_tables moment (server_moments_identified config server calls moment member room)
      room

/-- Two logins, a shot and the ticks in which its projectile appears. -/
def firstShot : List ServerCall :=
  [.login { header := { clientId := 1 } }, .login { header := { clientId := 2 } },
   .input { header := { clientId := 1, sequence := 1 }, input := { fire := true } },
   .tick .stored, .tick .stored]

/-- A bow whose arrows are due at once and live for no time. -/
def fleetingShots : SimulationConfig :=
  { weapons := [{ type := .bow, serverSpawnedProjectile := true }] }

/-- Client 1 fires in two ticks. -/
def twoShots : List ServerCall :=
  [.login { header := { clientId := 1 } },
   .input { header := { clientId := 1, sequence := 1 }, input := { fire := true } }, .tick .stored,
   .input { header := { clientId := 1, sequence := 2 }, input := { fire := true } }, .tick .stored]

/-- Both projectiles are created and destroyed within their ticks, under two ids. -/
theorem server_entity_identity_two_shots :
    allocations (serverRun fleetingShots twoShots) = 3 ∧
      (serverRun fleetingShots twoShots).entityByNetworkId.size = 1 ∧
      (∃ moment ∈ serverMoments fleetingShots twoShots,
        moment.entityByNetworkId[({ value := 2 } : NetworkEntityId)]? = some 1) ∧
      (∃ moment ∈ serverMoments fleetingShots twoShots,
        moment.entityByNetworkId[({ value := 3 } : NetworkEntityId)]? = some 2) ∧
      NeverReused (serverMoments fleetingShots twoShots) := by
  have three : allocations (serverRun fleetingShots twoShots) = 3 := by decide +kernel
  have identity := server_entity_identity fleetingShots rfl twoShots (by rw [three]; decide)
  have seen (id : NetworkEntityId) (entity : Entity)
      (bound : ((serverMoments fleetingShots twoShots).any fun moment =>
        decide (moment.entityByNetworkId[id]? = some entity)) = true) :
      ∃ moment ∈ serverMoments fleetingShots twoShots,
        moment.entityByNetworkId[id]? = some entity := by
    obtain ⟨moment, member, isBound⟩ := List.any_eq_true.mp bound
    exact ⟨moment, member, of_decide_eq_true isBound⟩
  exact ⟨three, by decide +kernel, seen _ _ (by decide +kernel), seen _ _ (by decide +kernel),
    identity.2.2.2⟩

end Brawololo.EntityIdentity
