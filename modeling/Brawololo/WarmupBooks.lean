import Brawololo.WarmupLedger
import Brawololo.CombatBooks
import Brawololo.WeaponStages
import Brawololo.RowRules
import Brawololo.ProjectileLifecycle

/-!
The server keeps the ledger of the warmups. Every row holds the warmup that the
entries of its player tell of; an update of a row adds the entries for what it
does to the bow and leaves the other players' entries alone.
-/

namespace Brawololo.WarmupBooks

open GameTypes EntityStore Simulation Simulation.GameSimulation SimulationStages EntityIdentity
open WeaponStages RowRules Histories Runs
open CombatLedger (Entry Ledger stamp tickTime)
open CombatAccounts (stamp_append mem_stamp)
open CombatBooks (Books BooksCall booksStep booksRun newBooks ticksAfter queuedBy)
open WarmupLedger

/-- The row holds the warmup that the ledger tells of. -/
inductive Agrees (config : SimulationConfig) (ticks : Nat) (row : Components) :
    Option Warmup → Prop
  | idle (rests : ∀ weapon, row.weapon = some weapon → weapon.warming = true →
      row.defeated = true) : Agrees config ticks row none
  | warming (weapon : WeaponStateComponent) (warmup : Warmup) (alive : row.defeated = false)
      (isWeapon : row.weapon = some weapon) (runs : weapon.warming = true)
      (sameWeapon : warmup.2.weaponType = weapon.type)
      (completesAt : warmup.2.completesAtMs = weapon.warmupCompletesAtMs)
      (known : (findWeaponDefinition config.weapons weapon.type).isSome)
      (since : warmup.1 ≤ ticks)
      (early : ∀ earlier, warmup.1 ≤ earlier → earlier < ticks →
        tickTime config earlier < weapon.warmupCompletesAtMs) :
      Agrees config ticks row (some warmup)

section Rows

variable {config : SimulationConfig} {ticks : Nat} {ledger : Ledger} {id : NetworkEntityId}

theorem Agrees.congr {row later : Components} {warmup : Option Warmup}
    (agrees : Agrees config ticks row warmup) (weapon : later.weapon = row.weapon)
    (defeated : later.defeated = row.defeated) : Agrees config ticks later warmup := by
  cases agrees with
  | idle rests =>
      refine .idle fun own isOwn runs => ?_
      rw [defeated]
      exact rests own (weapon ▸ isOwn) runs
  | warming own warmup alive isWeapon runs sameWeapon completesAt known since early =>
      exact .warming own warmup (defeated.trans alive) (weapon.trans isWeapon) runs sameWeapon
        completesAt known since early

/-- The bow is idle or its player defeated, so no warmup runs. -/
theorem Agrees.none {row : Components} {warmup : Option Warmup}
    (agrees : Agrees config ticks row warmup)
    (rests : ∀ weapon, row.weapon = some weapon → row.defeated = false → weapon.warming = false) :
    warmup = none := by
  cases agrees with
  | idle => rfl
  | warming weapon _ alive isWeapon runs =>
      rw [rests weapon isWeapon alive] at runs
      cases runs

/-! Entries. -/

/-- An event that starts no warmup and ends none by a shot. -/
def Free : DomainEvent → Prop
  | .weaponWarmupStarted _ => False
  | .weaponFired _ => False
  | _ => True

/-- An event that is about no bow. -/
def Quiet : DomainEvent → Prop
  | .weaponWarmupStarted _ => False
  | .weaponFired _ => False
  | .playerDied _ => False
  | _ => True

theorem Quiet.free {event : DomainEvent} (quiet : Quiet event) : Free event := by
  cases event <;> trivial

theorem Quiet.other {event : DomainEvent} (quiet : Quiet event) (id : NetworkEntityId) :
    handles id event = false := by
  cases event <;> first | rfl | cases quiet

theorem sound_concat {entry : Entry} (sound : Sound config ledger)
    (follows : Follows config ledger entry) : Sound config (ledger ++ [entry]) :=
  (every_event_concat _ ledger entry).mpr ⟨sound, follows⟩

theorem sound_free (added : EventList) (free : ∀ event ∈ added, Free event)
    (stamped : ∀ entry ∈ ledger, entry.1 ≤ ticks) (sound : Sound config ledger) :
    Sound config (ledger ++ stamp ticks added) := by
  induction added generalizing ledger with
  | nil => simpa [stamp] using sound
  | cons event rest ih =>
      have follows : Follows config ledger (ticks, event) := by
        have isFree := free event List.mem_cons_self
        refine ⟨stamped, ?_⟩
        cases event with
        | weaponWarmupStarted => cases isFree
        | weaponFired => cases isFree
        | _ => trivial
      have later := ih (fun other member => free other (List.mem_cons_of_mem event member))
        (by
          intro entry member
          rcases List.mem_append.mp member with old | new
          · exact stamped entry old
          · rw [List.mem_singleton.mp new])
        (sound_concat sound follows)
      simpa [stamp] using later

theorem warmup_of_quiet (added : EventList) (quiet : ∀ event ∈ added, Quiet event) :
    warmupOf id (ledger ++ stamp ticks added) = warmupOf id ledger :=
  warmup_of_others fun entry member => (quiet entry.2 (mem_stamp member)).other id

/-- What an update of the row with this id may do: its events are about no other
bow, they follow from the ledger, and the row agrees with them. -/
structure RowKeeps (config : SimulationConfig) (ticks : Nat) (id : NetworkEntityId)
    (row : Components) (result : Components × EventList) : Prop where
  identity : result.1.identity = row.identity
  own : ∀ other, other ≠ id → ∀ event ∈ result.2, handles other event = false
  keeps : ∀ ledger, Sound config ledger → (∀ entry ∈ ledger, entry.1 ≤ ticks) →
    Agrees config ticks row (warmupOf id ledger) →
    Sound config (ledger ++ stamp ticks result.2) ∧
      Agrees config ticks result.1 (warmupOf id (ledger ++ stamp ticks result.2))

theorem RowKeeps.quiet {row later : Components} {events : EventList}
    (identity : later.identity = row.identity)
    (agree : ∀ warmup, Agrees config ticks row warmup → Agrees config ticks later warmup)
    (quiet : ∀ event ∈ events, Quiet event) : RowKeeps config ticks id row (later, events) := by
  refine ⟨identity, fun other _ event member => (quiet event member).other other, ?_⟩
  intro ledger sound stamped agrees
  refine ⟨sound_free events (fun event member => (quiet event member).free) stamped sound, ?_⟩
  rw [warmup_of_quiet events quiet]
  exact agree _ agrees

/-- An input starts a warmup only for an idle bow. -/
theorem apply_input_keeps (packet : ClientInputPacket) {row : Components}
    (named : row.identity = some { id := id }) :
    RowKeeps config ticks id row
      (applyInputToEntity config (tickTime config ticks) packet row) := by
  rcases apply_input_cases config (tickTime config ticks) packet row with
    ⟨_, same⟩ | ⟨alive, taken |
      ⟨_, identity, weapon, definition, isNamed, isWeapon, _, isIdle, found, started⟩⟩
  · rw [same]
    exact .quiet rfl (fun _ agrees => agrees) (by simp)
  · rw [taken]
    exact .quiet rfl (fun _ agrees => agrees.congr rfl rfl) (by simp)
  · rw [started]
    rw [named] at isNamed
    cases isNamed
    refine ⟨rfl, ?_, ?_⟩
    · intro other different event member
      rw [List.mem_singleton.mp member]
      exact decide_eq_false different.symm
    · intro ledger sound stamped agrees
      have rested : warmupOf id ledger = none := by
        apply agrees.none
        intro own isOwn _
        rw [isWeapon] at isOwn
        cases isOwn
        exact isIdle
      constructor
      · refine sound_concat sound ⟨stamped, rested, definition, ?_, rfl, rfl⟩
        exact found
      · have runs : warmupOf id (ledger ++ stamp ticks
            [.weaponWarmupStarted (startedEvent (tickTime config ticks) id definition weapon)]) =
            some (ticks, startedEvent (tickTime config ticks) id definition weapon) := by
          rw [stamp, List.map_singleton, warmup_of_concat]
          simp [draw, handles, startedEvent]
        rw [runs]
        refine .warming _ _ alive rfl rfl rfl rfl (by rw [startedWeapon, found]; rfl)
          (Nat.le_refl _) ?_
        exact fun earlier since before => absurd before (Nat.not_lt_of_le since)

/-- The warmup stage fires the warmup that the ledger tells of, when it is due. -/
theorem finish_warmup_keeps (server : config.mode = .serverAuthoritative) {row : Components}
    (named : row.identity = some { id := id }) :
    RowKeeps config ticks id row (finishWarmup config (tickTime config ticks) row) := by
  cases isWeapon : row.weapon with
  | none =>
      have same : finishWarmup config (tickTime config ticks) row = (row, []) := by
        unfold finishWarmup
        rw [named, isWeapon]
      rw [same]
      exact .quiet rfl (fun _ agrees => agrees) (by simp)
  | some weapon =>
      rw [finish_warmup_cases config (tickTime config ticks) named isWeapon]
      by_cases complete : warmupComplete (tickTime config ticks) row weapon = true
      · have facts : row.defeated = false ∧ weapon.warming = true ∧
            weapon.warmupCompletesAtMs ≤ tickTime config ticks := by
          simpa [warmupComplete, and_assoc] using complete
        have ended : endedWeapon (tickTime config ticks) row weapon =
            { weapon with warming := false } := if_pos (Or.inr complete)
        refine ⟨rfl, ?_, ?_⟩
        · intro other different event member
          unfold firedEvents at member
          rw [if_pos complete] at member
          split at member
          · rw [List.mem_singleton.mp member]
            exact decide_eq_false different.symm
          · cases member
        · intro ledger sound stamped agrees
          generalize isRunning : warmupOf id ledger = running at agrees
          cases agrees with
          | idle rests =>
              -- the ledger has no idle player that lives and warms up
              have defeated := rests weapon isWeapon facts.2.1
              exact absurd (facts.1.symm.trans defeated) (by simp)
          | warming own warmup _ isOwn _ sameWeapon completesAt known since early =>
              rw [isWeapon] at isOwn
              cases isOwn
              obtain ⟨definition, found⟩ := Option.isSome_iff_exists.mp known
              have told : firedEvents config (tickTime config ticks) row id weapon =
                  [.weaponFired { entityId := id, firedAtMs := tickTime config ticks,
                                  weaponType := weapon.type }] := by
                unfold firedEvents
                rw [if_pos complete, server, found]
              rw [told]
              constructor
              · refine sound_concat sound ⟨stamped, rfl, warmup, isRunning, sameWeapon, since, ?_, ?_⟩
                · rw [completesAt]
                  exact facts.2.2
                · rw [completesAt]
                  exact early
              · have stopped : warmupOf id (ledger ++ stamp ticks
                    [.weaponFired { entityId := id, firedAtMs := tickTime config ticks,
                                    weaponType := weapon.type }]) = none := by
                  rw [stamp, List.map_singleton, warmup_of_concat]
                  simp [draw, handles]
                rw [stopped, ended]
                refine .idle fun own isOwn runs => ?_
                cases isOwn
                cases runs
      · have silent : firedEvents config (tickTime config ticks) row id weapon = [] :=
          if_neg complete
        rw [silent]
        refine .quiet rfl (fun warmup agrees => ?_) (by simp)
        by_cases defeated : row.defeated = true
        · rw [agrees.none fun _ _ alive => by rw [defeated] at alive; cases alive]
          exact .idle fun _ _ _ => defeated
        · have same : endedWeapon (tickTime config ticks) row weapon = weapon :=
            if_neg (by rw [not_or]; exact ⟨defeated, complete⟩)
          rw [same]
          exact agrees.congr isWeapon.symm rfl

/-- A death ends the warmup of its player. -/
theorem damage_keeps (projectileId : NetworkEntityId) (projectile : ProjectileComponent)
    {row : Components} (named : row.identity = some { id := id }) :
    RowKeeps config ticks id row
      (damagePlayer config (tickTime config ticks) projectileId projectile row) := by
  unfold damagePlayer
  split
  · next identity player isNamed isPlayer =>
      rw [named] at isNamed
      cases isNamed
      dsimp only
      split
      · refine ⟨rfl, ?_, ?_⟩
        · intro other different event member
          simp only [List.cons_append, List.nil_append, List.mem_cons, List.not_mem_nil,
            or_false] at member
          rcases member with rfl | rfl | rfl
          · rfl
          · rfl
          · exact decide_eq_false different.symm
        · intro ledger sound stamped _
          constructor
          · exact sound_free _ (by simp [Free]) stamped sound
          · have stopped (hit : HitConfirmed) (damaged : PlayerDamaged) (died : PlayerDied)
                (isDead : died.entityId = id) : warmupOf id (ledger ++ stamp ticks
                ([.hitConfirmed hit, .playerDamaged damaged] ++ [.playerDied died])) = none := by
              rw [stamp_append, ← List.append_assoc, stamp, stamp, List.map_singleton,
                warmup_of_concat]
              simp [draw, handles, isDead]
            rw [stopped _ _ _ rfl]
            exact .idle fun _ _ _ => rfl
      · refine .quiet rfl (fun _ agrees => agrees.congr rfl ?_) (by simp [Quiet])
        simp [Components.defeated, isPlayer]
  · exact .quiet rfl (fun _ agrees => agrees) (by simp)

theorem respawn_keeps (row : Components) :
    RowKeeps config ticks id row (respawnPlayer config (tickTime config ticks) row) := by
  rcases respawn_cases config (tickTime config ticks) row with
    ⟨rests, _⟩ | ⟨identity, player, _, isPlayer, defeated, _, reborn⟩
  · rw [rests]
    exact .quiet rfl (fun _ agrees => agrees) (by simp)
  · rw [reborn]
    refine .quiet rfl (fun warmup agrees => ?_) (by simp [Quiet])
    have dead : row.defeated = true := by
      unfold Components.defeated
      rw [isPlayer]
      exact defeated
    rw [agrees.none fun _ _ alive => by rw [dead] at alive; cases alive]
    refine .idle fun weapon isWeapon runs => ?_
    obtain ⟨old, _, isIdle⟩ := Option.map_eq_some_iff.mp isWeapon
    rw [← isIdle] at runs
    cases runs

end Rows

/-! Stages. -/

/-- The ledger accounts for the warmups of the state, in or between the stages of a tick. -/
structure Accounts (config : SimulationConfig) (ticks : Nat) (ledger : Ledger)
    (sim : GameSimulation) : Prop where
  configured : sim.config = config
  time : sim.timeMs = tickTime config ticks
  counted : sim.nextNetworkId = idOf sim.registry.created
  named : ∀ entity row, sim.registry.get? entity = some row →
    row.identity = some { id := idOf entity }
  sound : Sound config ledger
  stamped : ∀ entry ∈ ledger, entry.1 ≤ ticks
  agrees : ∀ entity row, sim.registry.get? entity = some row →
    Agrees config ticks row (warmupOf (idOf entity) ledger)
  fresh : ∀ entity, sim.registry.created ≤ entity → entity < 2 ^ 32 - 1 →
    warmupOf (idOf entity) ledger = none

/-- Unless the ids run out, the ledger with the events that are queued on the
way accounts for the later state. -/
structure Kept (config : SimulationConfig) (ticks : Nat) (before after : GameSimulation) :
    Prop where
  created : before.registry.created ≤ after.registry.created
  keeps : after.registry.created < 2 ^ 32 - 1 → ∀ ledger, Accounts config ticks ledger before →
    ∃ added, Queued before after added ∧
      Accounts config ticks (ledger ++ stamp ticks added) after

section Stages

variable {config : SimulationConfig} {ticks : Nat}

theorem Kept.refl (sim : GameSimulation) : Kept config ticks sim sim where
  created := Nat.le_refl _
  keeps := by
    intro _ ledger accounts
    exact ⟨[], by simp [Queued], by simpa [stamp] using accounts⟩

theorem Kept.trans {first second third : GameSimulation} (left : Kept config ticks first second)
    (right : Kept config ticks second third) : Kept config ticks first third where
  created := Nat.le_trans left.created right.created
  keeps := by
    intro room ledger accounts
    obtain ⟨one, queuedOne, between⟩ :=
      left.keeps (Nat.lt_of_le_of_lt right.created room) ledger accounts
    obtain ⟨two, queuedTwo, after⟩ := right.keeps room _ between
    refine ⟨one ++ two, queuedOne.trans queuedTwo, ?_⟩
    rw [stamp_append, ← List.append_assoc]
    exact after

theorem stamped_append {ledger : Ledger} (stamped : ∀ entry ∈ ledger, entry.1 ≤ ticks)
    (added : EventList) : ∀ entry ∈ ledger ++ stamp ticks added, entry.1 ≤ ticks := by
  intro entry member
  rcases List.mem_append.mp member with old | new
  · exact stamped entry old
  · obtain ⟨_, _, rfl⟩ := List.mem_map.mp new
    exact Nat.le_refl ticks

/-- A row with the same name, bow and defeat. -/
structure SameBow (row later : Components) : Prop where
  identity : later.identity = row.identity
  weapon : later.weapon = row.weapon
  defeated : later.defeated = row.defeated

/-- Where every row that is left is as before and only quiet events are queued,
the accounts stay. -/
theorem kept_of_rows {before after : GameSimulation} (sameConfig : after.config = before.config)
    (sameTime : after.timeMs = before.timeMs)
    (sameCounter : after.nextNetworkId = before.nextNetworkId)
    (sameCreated : after.registry.created = before.registry.created)
    (rows : ∀ entity later, after.registry.get? entity = some later →
      ∃ row, before.registry.get? entity = some row ∧ SameBow row later)
    (queues : QueuesOnly Quiet before after) : Kept config ticks before after where
  created := Nat.le_of_eq sameCreated.symm
  keeps := by
    intro _ ledger accounts
    obtain ⟨added, queued, quiet⟩ := queues
    have same (id : NetworkEntityId) :
        warmupOf id (ledger ++ stamp ticks added) = warmupOf id ledger :=
      warmup_of_quiet added quiet
    refine ⟨added, queued, sameConfig.trans accounts.configured, sameTime.trans accounts.time,
      ?_, ?_, ?_, stamped_append accounts.stamped added, ?_, ?_⟩
    · rw [sameCounter, sameCreated]
      exact accounts.counted
    · intro entity later found
      obtain ⟨row, present, bow⟩ := rows entity later found
      exact bow.identity.trans (accounts.named entity row present)
    · exact sound_free added (fun event member => (quiet event member).free) accounts.stamped
        accounts.sound
    · intro entity later found
      obtain ⟨row, present, bow⟩ := rows entity later found
      rw [same]
      exact (accounts.agrees entity row present).congr bow.weapon bow.defeated
    · intro entity fresh room
      rw [same]
      exact accounts.fresh entity (sameCreated ▸ fresh) room

/-- What holds of the update of one row holds of the accounts. -/
theorem update_entity_kept (update : Components → Components × EventList) (sim : GameSimulation)
    (entity : Entity)
    (keeps : sim.config = config → sim.timeMs = tickTime config ticks → ∀ row,
      sim.registry.get? entity = some row → row.identity = some { id := idOf entity } →
      RowKeeps config ticks (idOf entity) row (update row)) :
    Kept config ticks sim (sim.updateEntity update entity) := by
  have tables := update_entity_tables update sim entity
  have rows := update_entity_row update sim entity
  have queued := update_entity_queued update sim entity
  cases present : sim.registry.get? entity with
  | none =>
      rw [update_absent sim update present]
      exact Kept.refl sim
  | some row =>
      rw [present, Option.map_some, Option.getD_some] at queued
      generalize sim.updateEntity update entity = after at tables rows queued ⊢
      refine ⟨Nat.le_of_eq tables.created.symm, ?_⟩
      intro room ledger accounts
      have isNamed := accounts.named entity row present
      have kept := keeps accounts.configured accounts.time row present isNamed
      have below : entity < 2 ^ 32 - 1 :=
        Nat.lt_trans (Registry.get?_lt _ present) (tables.created ▸ room)
      obtain ⟨sound, agrees⟩ := kept.keeps ledger accounts.sound accounts.stamped
        (accounts.agrees entity row present)
      have others (other : Entity) (different : other ≠ entity) (inRoom : other < 2 ^ 32 - 1) :
          warmupOf (idOf other) (ledger ++ stamp ticks (update row).2) =
            warmupOf (idOf other) ledger := by
        refine warmup_of_others fun entry member => kept.own _ ?_ entry.2 (mem_stamp member)
        exact fun sameId => different (id_of_injective inRoom below sameId)
      refine ⟨_, queued, tables.config.trans accounts.configured,
        tables.timeMs.trans accounts.time, ?_, ?_, sound, stamped_append accounts.stamped _, ?_, ?_⟩
      · rw [tables.nextNetworkId, tables.created]
        exact accounts.counted
      · intro other later found
        rw [rows] at found
        split at found
        · next same =>
            subst same
            rw [present] at found
            cases found
            exact kept.identity.trans isNamed
        · exact accounts.named other later found
      · intro other later found
        have inRoom := Nat.lt_trans (Registry.get?_lt _ found) room
        rw [rows] at found
        split at found
        · next same =>
            subst same
            rw [present] at found
            cases found
            exact agrees
        · next different =>
            rw [others other different inRoom]
            exact accounts.agrees other later found
      · intro other fresh inRoom
        -- A handle that is not given out yet is not the updated one.
        have different : other ≠ entity := by
          rintro rfl
          have live := Registry.get?_lt _ present
          rw [tables.created] at fresh
          exact absurd live (Nat.not_lt_of_le fresh)
        rw [others other different inRoom]
        exact accounts.fresh other (tables.created ▸ fresh) inRoom

/-- A loop whose updates keep every row keeps the accounts. -/
theorem for_each_kept (order : LoopOrder) (site : LoopSite) (holds : Components → Bool)
    (update : Components → Components × EventList) (sim : GameSimulation)
    (keeps : sim.config = config → sim.timeMs = tickTime config ticks → ∀ id row,
      row.identity = some { id := id } → RowKeeps config ticks id row (update row)) :
    Kept config ticks sim (sim.forEachEntity order site holds update) := by
  refine ⟨Nat.le_of_eq (for_each_tables update order site holds sim).created.symm, ?_⟩
  intro room ledger accounts
  have rowKeeps := keeps accounts.configured accounts.time
  have looped : Kept config ticks sim (sim.forEachEntity order site holds update) :=
    run_relates _ (Kept config ticks) Kept.refl Kept.trans
      (fun state entity => update_entity_kept update state entity
        fun _ _ row _ named => rowKeeps (idOf entity) row named) sim _
  exact looped.keeps room ledger accounts

theorem process_inputs_kept (order : LoopOrder) (sim : GameSimulation) :
    Kept config ticks sim (processInputs order sim) := by
  have applied : Kept config ticks sim (sim.pendingInputs.foldl applyPendingInput sim) := by
    refine run_relates applyPendingInput (Kept config ticks) Kept.refl Kept.trans ?_ sim _
    intro state packet
    unfold applyPendingInput
    split
    · exact Kept.refl state
    · refine update_entity_kept _ state _ fun configured timed row _ named => ?_
      rw [configured, timed]
      exact apply_input_keeps packet named
  unfold processInputs
  dsimp only
  generalize sim.pendingInputs.foldl applyPendingInput sim = start at applied
  have cleared : Kept config ticks start { start with pendingInputs := [] } :=
    kept_of_rows rfl rfl rfl rfl (fun _ later found => ⟨later, found, rfl, rfl, rfl⟩)
      (QueuesOnly.refl start)
  have moved := for_each_tables (integrateMovement start.config) order .integrateMovement
    (fun row => row.player.isSome) { start with pendingInputs := [] }
  have movedRows : RowsRelated SameBow { start with pendingInputs := [] }
      (GameSimulation.forEachEntity { start with pendingInputs := [] } order .integrateMovement
        (fun row => row.player.isSome) (integrateMovement start.config)) := by
    apply for_each_rows fun _ => ⟨rfl, rfl, rfl⟩
    intro row
    obtain ⟨_, _, integrated, _⟩ := integrate_changes start.config row
    rw [integrated]
    exact ⟨rfl, rfl, rfl⟩
  have movedQueue := for_each_queues (integrateMovement start.config) order .integrateMovement
    (fun row => row.player.isSome) Quiet { start with pendingInputs := [] } (by
      intro row event queued
      obtain ⟨_, rfl⟩ := integrate_events start.config row event queued
      trivial)
  generalize GameSimulation.forEachEntity { start with pendingInputs := [] } order
    .integrateMovement (fun row => row.player.isSome) (integrateMovement start.config) = integrated
    at moved movedRows movedQueue
  have walked : Kept config ticks { start with pendingInputs := [] } integrated :=
    kept_of_rows moved.config moved.timeMs moved.nextNetworkId moved.created
      (fun _ _ found => movedRows.backward found) movedQueue
  have forgot : Kept config ticks integrated
      { integrated with registry := integrated.registry.mapRows clearIntent } := by
    refine kept_of_rows rfl rfl rfl (Registry.created_mapRows _ _) ?_ (QueuesOnly.refl integrated)
    intro entity later found
    rw [Registry.get?_mapRows] at found
    obtain ⟨row, present, rfl⟩ := Option.map_eq_some_iff.mp found
    exact ⟨row, present, rfl, rfl, rfl⟩
  exact ((applied.trans cleared).trans walked).trans forgot

/-- A new entity has an idle bow or none, and an id that no entry is about. -/
theorem create_accounts {before after : GameSimulation} {row : Components} {added : EventList}
    {ledger : Ledger} (creates : Creates before after row) (sameTime : after.timeMs = before.timeMs)
    (quiet : ∀ event ∈ added, Quiet event)
    (isIdle : ∀ weapon, row.weapon = some weapon → weapon.warming = false)
    (room : after.registry.created < 2 ^ 32 - 1) (accounts : Accounts config ticks ledger before) :
    Accounts config ticks (ledger ++ stamp ticks added) after := by
  have created : after.registry.created = before.registry.created + 1 := by
    rw [creates.registry, Registry.created_create]
  have same (id : NetworkEntityId) :
      warmupOf id (ledger ++ stamp ticks added) = warmupOf id ledger :=
    warmup_of_quiet added quiet
  refine ⟨creates.config.trans accounts.configured, sameTime.trans accounts.time, ?_, ?_, ?_,
    stamped_append accounts.stamped added, ?_, ?_⟩
  · rw [creates.nextNetworkId, accounts.counted, created]
    exact IdReuse.id_of_succ _
  · intro entity found present
    rcases creates_cases creates present with ⟨isNew, rfl⟩ | old
    · rw [creates.identity, accounts.counted, isNew]
    · exact accounts.named entity found old
  · exact sound_free added (fun event member => (quiet event member).free) accounts.stamped
      accounts.sound
  · intro entity found present
    rw [same]
    rcases creates_cases creates present with ⟨isNew, rfl⟩ | old
    · rw [accounts.fresh entity (Nat.le_of_eq isNew.symm)
        (Nat.lt_trans (Registry.get?_lt _ present) room)]
      refine .idle fun weapon isWeapon runs => ?_
      rw [isIdle weapon isWeapon] at runs
      cases runs
    · exact accounts.agrees entity found old
  · intro entity fresh inRoom
    rw [same]
    exact accounts.fresh entity (by omega) inRoom

theorem create_projectile_kept (sim : GameSimulation) (request : ProjectileRequest) :
    Kept config ticks sim (createProjectile sim request) := by
  refine ⟨Nat.le_succ _, ?_⟩
  intro room ledger accounts
  refine ⟨_, rfl, create_accounts (create_projectile_creates sim request) rfl ?_ ?_ room
    accounts⟩
  · intro event member
    rw [List.mem_singleton.mp member]
    trivial
  · intro weapon isWeapon
    cases isWeapon

theorem process_warmups_kept (server : config.mode = .serverAuthoritative) (order : LoopOrder)
    (sim : GameSimulation) : Kept config ticks sim (processWeaponWarmups order sim) := by
  have fired : Kept config ticks sim (sim.forEachEntity order .weaponWarmups inWarmupView
      (finishWarmup sim.config sim.timeMs)) := by
    refine for_each_kept order .weaponWarmups inWarmupView _ sim ?_
    intro configured timed id row named
    rw [configured, timed]
    exact finish_warmup_keeps server named
  exact fired.trans (run_relates createProjectile (Kept config ticks) Kept.refl Kept.trans
    create_projectile_kept _ _)

theorem process_projectile_kept (targets : List Entity) (sim : GameSimulation)
    (toDestroy : List Entity) (entity : Entity) :
    Kept config ticks sim (processProjectile targets (sim, toDestroy) entity).1 := by
  have flies : Kept config ticks sim
      (sim.updateEntity (fun row => (fly sim.config row, [])) entity) := by
    refine update_entity_kept _ sim entity fun _ _ row _ _ => ?_
    obtain ⟨_, flown, _⟩ := fly_changes sim.config row
    rw [flown]
    exact .quiet rfl (fun _ agrees => agrees.congr rfl rfl) (by simp)
  have turn := process_projectile_turn targets sim toDestroy entity
  generalize processProjectile targets (sim, toDestroy) entity = result at turn ⊢
  cases turn with
  | skipped => exact Kept.refl sim
  | gone => exact flies
  | flew => exact flies
  | struck _ identity projectile _ target =>
      refine flies.trans (update_entity_kept _ _ target fun configured timed row _ named => ?_)
      have tables := update_entity_tables (fun row => (fly sim.config row, [])) sim entity
      rw [← tables.config, ← tables.timeMs, configured, timed]
      exact damage_keeps identity.id projectile named

theorem destroy_projectile_kept (sim : GameSimulation) (entity : Entity) :
    Kept config ticks sim (destroyProjectile sim entity) := by
  have setup := destroy_projectile_setup sim entity
  have counter : (destroyProjectile sim entity).nextNetworkId = sim.nextNetworkId := by
    unfold destroyProjectile
    split <;> rfl
  have silent : Queued sim (destroyProjectile sim entity) [] :=
    (destroy_all_silent [entity] sim).trans (List.append_nil _).symm
  refine kept_of_rows setup.config setup.timeMs counter (destroy_projectile_created sim entity) ?_
    ⟨[], silent, by simp⟩
  intro other later found
  rw [destroy_projectile_row] at found
  split at found
  · cases found
  · exact ⟨later, found, rfl, rfl, rfl⟩

theorem process_projectiles_kept (order : LoopOrder) (sim : GameSimulation) :
    Kept config ticks sim (processProjectiles order sim) := by
  unfold processProjectiles
  dsimp only
  have looped := run_relates
    (processProjectile (sim.registry.view order .projectileTargets inTargetView))
    (fun before after => Kept config ticks before.1 after.1) (fun state => Kept.refl state.1)
    Kept.trans (fun state entity => process_projectile_kept _ state.1 state.2 entity)
    (sim, []) (sim.registry.view order .projectiles inProjectileView)
  exact looped.trans (run_relates destroyProjectile (Kept config ticks) Kept.refl Kept.trans
    destroy_projectile_kept _ _)

theorem process_respawns_kept (order : LoopOrder) (sim : GameSimulation) :
    Kept config ticks sim (processRespawns order sim) := by
  refine for_each_kept order .respawns inRespawnView _ sim ?_
  intro configured timed id row _
  rw [configured, timed]
  exact respawn_keeps row

/-! A tick. -/

/-- No warmup that runs is due. -/
def Settled (sim : GameSimulation) : Prop :=
  ∀ entity row weapon, sim.registry.get? entity = some row → row.defeated = false →
    row.weapon = some weapon → weapon.warming = true → sim.timeMs < weapon.warmupCompletesAtMs

theorem advance_clock_accounts {sim : GameSimulation} {ledger : Ledger} (settled : Settled sim)
    (accounts : Accounts config ticks ledger sim) :
    Accounts config (ticks + 1) ledger (advanceClock sim) := by
  refine ⟨accounts.configured, ?_, accounts.counted, accounts.named, accounts.sound,
    fun entry member => Nat.le_succ_of_le (accounts.stamped entry member), ?_, accounts.fresh⟩
  · change sim.timeMs + sim.config.tickDurationMs = _
    rw [accounts.time, accounts.configured]
    rfl
  · intro entity row present
    have agrees := accounts.agrees entity row present
    generalize warmupOf (idOf entity) ledger = running at agrees
    cases agrees with
    | idle rests => exact .idle rests
    | warming weapon warmup alive isWeapon runs sameWeapon completesAt known since early =>
        refine .warming weapon warmup alive isWeapon runs sameWeapon completesAt known
          (Nat.le_succ_of_le since) ?_
        intro earlier start before
        rcases Nat.lt_or_eq_of_le (Nat.le_of_lt_succ before) with past | now
        · exact early earlier start past
        · rw [now, ← accounts.time]
          exact settled entity row weapon present alive isWeapon runs

theorem tick_kept (server : config.mode = .serverAuthoritative) (order : LoopOrder)
    {sim : GameSimulation} {ledger : Ledger} (settled : Settled sim)
    (room : (tickFixed order sim).registry.created < 2 ^ 32 - 1)
    (accounts : Accounts config ticks ledger sim) :
    ∃ added, Queued sim (tickFixed order sim) added ∧
      Accounts config (ticks + 1) (ledger ++ stamp (ticks + 1) added) (tickFixed order sim) := by
  have started := advance_clock_accounts settled accounts
  have stages : Kept config (ticks + 1) (advanceClock sim) (tickFixed order sim) :=
    (((process_inputs_kept order _).trans (process_warmups_kept server order _)).trans
      (process_projectiles_kept order _)).trans (process_respawns_kept order _)
  obtain ⟨added, queued, after⟩ := stages.keeps room ledger started
  exact ⟨added, queued, after⟩

end Stages

/-! Who bears a bow. -/

/-- Only players bear bows, and the warmup stage sees them all. -/
structure Armed (row : Components) : Prop where
  bearer : row.weapon.isSome → row.player.isSome
  seen : row.weapon.isSome → inWarmupView row = true

theorem Armed.congr {row later : Components} (armed : Armed row)
    (identity : later.identity = row.identity) (weapon : later.weapon.isSome → row.weapon.isSome)
    (player : row.player.isSome → later.player.isSome)
    (transform : row.transform.isSome → later.transform.isSome)
    (aim : row.aim.isSome → later.aim.isSome) : Armed later := by
  refine ⟨fun bears => player (armed.bearer (weapon bears)), fun bears => ?_⟩
  have viewed := armed.seen (weapon bears)
  simp only [inWarmupView, Bool.and_eq_true] at viewed ⊢
  exact ⟨⟨⟨identity ▸ viewed.1.1.1, transform viewed.1.1.2⟩, aim viewed.1.2⟩, bears⟩

theorem apply_input_armed (config : SimulationConfig) (timeMs : TimestampMs)
    (packet : ClientInputPacket) (row : Components) (armed : Armed row) :
    Armed (applyInputToEntity config timeMs packet row).1 := by
  rcases apply_input_cases config timeMs packet row with
    ⟨_, same⟩ | ⟨_, taken | ⟨_, _, _, _, _, isWeapon, _, _, _, started⟩⟩
  · rw [same]
    exact armed
  · rw [taken]
    exact armed.congr rfl id id id fun _ => rfl
  · rw [started]
    exact armed.congr rfl (fun _ => by rw [isWeapon]; rfl) id id fun _ => rfl

theorem armed_rule (sim : GameSimulation) (call : ServerCall) : CallRule Armed sim call := by
  cases call with
  | login command => exact fun id clientId => ⟨fun _ => rfl, fun _ => rfl⟩
  | input packet => trivial
  | tick order =>
      unfold CallRule
      constructor
      case moves =>
        intro entity row _ armed
        have applied : Armed (applyInputs (advanceClock sim).config (advanceClock sim).timeMs
            (inputsFor (advanceClock sim) entity) row) :=
          run_invariant _ Armed (fun row packet => apply_input_armed _ _ packet row) row armed _
        unfold movedRow
        dsimp only
        split
        · obtain ⟨_, _, moved, placed, _⟩ := integrate_changes (advanceClock sim).config
            (applyInputs (advanceClock sim).config (advanceClock sim).timeMs
              (inputsFor (advanceClock sim) entity) row)
          rw [moved]
          exact applied.congr rfl id id (fun had => placed ▸ had) id
        · exact applied.congr rfl id id id id
      case finishes =>
        intro row armed
        unfold finishWarmup
        split
        · next isWeapon =>
            split
            · exact armed.congr rfl (fun _ => by rw [isWeapon]; rfl) id id id
            · split
              · exact armed.congr rfl (fun _ => by rw [isWeapon]; rfl) id id id
              · exact armed
        · exact armed
      case spawns =>
        exact fun _ _ request id _ _ _ => ⟨fun bears => (by cases bears), fun bears => by cases bears⟩
      case flies =>
        intro row _ _ armed _ _ _
        obtain ⟨_, flown, placed⟩ := fly_changes (advanceClock sim).config row
        rw [flown]
        exact armed.congr rfl id id (fun had => placed ▸ had) id
      case strikes =>
        intro projectileId projectile row armed
        unfold damagePlayer
        split
        · dsimp only
          split
          · exact armed.congr rfl id (fun _ => rfl) id id
          · exact armed.congr rfl id (fun _ => rfl) id id
        · exact armed
      case respawns =>
        intro row armed
        rcases respawn_cases (advanceClock sim).config (advanceClock sim).timeMs row with
          ⟨rests, _⟩ | ⟨_, _, _, _, _, _, reborn⟩
        · rw [rests]
          exact armed
        · rw [reborn]
          refine armed.congr rfl (fun bears => ?_) (fun _ => rfl) (fun _ => rfl) id
          exact Option.isSome_map.symm.trans bears

theorem tick_settled (order : LoopOrder) (sim : GameSimulation)
    (armed : EveryRow Armed sim) : Settled (tickFixed order sim) := by
  have rule : TickRule Armed (advanceClock sim) := armed_rule sim (.tick order)
  have armedAfter := tick_every_row order sim rule armed
  intro entity row weapon present alive isWeapon runs
  obtain ⟨moved, isMoved, _, isOwn, early⟩ := tick_warming_moved order sim present
    ((armedAfter entity row present).bearer (by rw [isWeapon]; rfl)) alive isWeapon runs
  rw [ProjectileLifecycle.tick_time]
  exact early ((rule.moved order armed entity moved isMoved).seen (by rw [isOwn]; rfl))

/-! Calls. -/

section Calls

variable {config : SimulationConfig} {ticks : Nat} {ledger : Ledger} {sim : GameSimulation}

theorem login_kept (command : LoginCommand)
    (room : (submitLogin sim command).1.registry.created < 2 ^ 32 - 1)
    (accounts : Accounts config ticks ledger sim) :
    ∃ added, Queued sim (submitLogin sim command).1 added ∧
      Accounts config ticks (ledger ++ stamp ticks added) (submitLogin sim command).1 := by
  have same : ∃ added, Queued sim sim added ∧
      Accounts config ticks (ledger ++ stamp ticks added) sim :=
    ⟨[], (List.append_nil _).symm, by simpa [stamp] using accounts⟩
  rcases submit_login_cases sim command with unchanged | ⟨_, _, joined⟩
  · rw [unchanged]
    exact same
  · rw [joined] at room ⊢
    refine ⟨_, rfl, create_accounts (create_player_creates _ _ _ _) rfl ?_ ?_ room
      ⟨accounts.configured, accounts.time, accounts.counted, accounts.named, accounts.sound,
        accounts.stamped, accounts.agrees, accounts.fresh⟩⟩
    · intro event member
      rw [List.mem_singleton.mp member]
      trivial
    · intro weapon isWeapon
      cases isWeapon
      rfl

theorem input_kept (packet : ClientInputPacket) (accounts : Accounts config ticks ledger sim) :
    ∃ added, Queued sim (submitInput sim packet).1 added ∧
      Accounts config ticks (ledger ++ stamp ticks added) (submitInput sim packet).1 := by
  refine ⟨[], ?_, ?_⟩
  · unfold Queued
    rw [List.append_nil]
    rcases submit_input_cases sim packet with ⟨same, _⟩ | ⟨_, _, accepted⟩
    · rw [same]
    · rw [accepted]
  · rw [stamp, List.map_nil, List.append_nil]
    rcases submit_input_cases sim packet with ⟨same, _⟩ | ⟨_, _, accepted⟩
    · rw [same]
      exact accounts
    · rw [accepted]
      exact ⟨accounts.configured, accounts.time, accounts.counted, accounts.named,
        accounts.sound, accounts.stamped, accounts.agrees, accounts.fresh⟩

/-- A call other than a tick keeps every row, and a new one is idle. -/
theorem call_settled (call : ServerCall) (noTick : ∀ order, call ≠ .tick order)
    (settled : Settled sim) : Settled (serverStep sim call) := by
  have time : (serverStep sim call).timeMs = sim.timeMs := by
    cases call with
    | login command => exact (submit_login_clock sim command).timeMs
    | input packet => exact (submit_input_clock sim packet).timeMs
    | tick order => exact absurd rfl (noTick order)
  intro entity row weapon present alive isWeapon runs
  rw [time]
  cases call with
  | login command =>
      rcases DefeatedPlayers.login_row sim command present with old | ⟨id, clientId, isNew⟩
      · exact settled entity row weapon old alive isWeapon runs
      · rw [isNew] at isWeapon
        cases isWeapon
        cases runs
  | input packet =>
      have same := DefeatedPlayers.input_registry sim packet
      have old : sim.registry.get? entity = some row := by
        rw [← same]
        exact present
      exact settled entity row weapon old alive isWeapon runs
  | tick order => exact absurd rfl (noTick order)

end Calls

/-! Runs. -/

/-- The books between two calls. -/
structure Balanced (config : SimulationConfig) (books : Books) : Prop where
  inOrder : books.ledger.map Prod.snd = books.drained ++ books.sim.events
  accounts : Accounts config books.ticks books.ledger books.sim
  settled : Settled books.sim

section Runs

variable {config : SimulationConfig}

theorem new_balanced (config : SimulationConfig) : Balanced config (newBooks config) := by
  refine ⟨rfl, ⟨rfl, rfl, rfl, ?_, every_event_nil _, ?_, ?_, fun _ _ _ => rfl⟩, ?_⟩
  · intro entity row present
    simp [newBooks] at present
  · intro entry member
    cases member
  · intro entity row present
    simp [newBooks] at present
  · intro entity row weapon present
    simp [newBooks] at present

theorem server_call_balanced (server : config.mode = .serverAuthoritative) (books : Books)
    (call : ServerCall) (armed : EveryRow Armed books.sim)
    (room : (serverStep books.sim call).registry.created < 2 ^ 32 - 1)
    (balanced : Balanced config books) : Balanced config (booksStep books (.server call)) := by
  obtain ⟨inOrder, accounts, settled⟩ := balanced
  have called : ∃ added, Queued books.sim (serverStep books.sim call) added ∧
      Accounts config (ticksAfter books.ticks call)
        (books.ledger ++ stamp (ticksAfter books.ticks call) added) (serverStep books.sim call) ∧
      Settled (serverStep books.sim call) := by
    cases call with
    | login command =>
        obtain ⟨added, queued, after⟩ := login_kept command room accounts
        exact ⟨added, queued, after, call_settled (.login command) (by simp) settled⟩
    | input packet =>
        obtain ⟨added, queued, after⟩ := input_kept packet accounts
        exact ⟨added, queued, after, call_settled (.input packet) (by simp) settled⟩
    | tick order =>
        obtain ⟨added, queued, after⟩ := tick_kept server order settled room accounts
        exact ⟨added, queued, after, tick_settled order books.sim armed⟩
  obtain ⟨added, queued, after, settledAfter⟩ := called
  have sameAdded : queuedBy books.sim (serverStep books.sim call) = added := by
    rw [queuedBy, queued, List.drop_left]
  refine ⟨?_, ?_, settledAfter⟩
  · simp only [booksStep, sameAdded, List.map_append, CombatBooks.stamp_events, inOrder]
    rw [queued, List.append_assoc]
  · simp only [booksStep, sameAdded]
    exact after

theorem drain_balanced (books : Books) (balanced : Balanced config books) :
    Balanced config (booksStep books .drain) := by
  obtain ⟨inOrder, accounts, settled⟩ := balanced
  refine ⟨?_, ?_, settled⟩
  · simpa [booksStep, GameSimulation.drainEvents] using inOrder
  · exact ⟨accounts.configured, accounts.time, accounts.counted, accounts.named, accounts.sound,
      accounts.stamped, accounts.agrees, accounts.fresh⟩

/-- The books as long as the ids last. -/
structure Kempt (config : SimulationConfig) (books : Books) : Prop where
  armed : EveryRow Armed books.sim
  balanced : books.sim.registry.created < 2 ^ 32 - 1 → Balanced config books

theorem books_step_kempt (server : config.mode = .serverAuthoritative) (books : Books)
    (call : BooksCall) (kempt : Kempt config books) : Kempt config (booksStep books call) := by
  cases call with
  | server call =>
      refine ⟨server_step_every_row books.sim call (armed_rule books.sim call) kempt.armed, ?_⟩
      intro room
      exact server_call_balanced server books call kempt.armed room
        (kempt.balanced (Nat.lt_of_le_of_lt (server_step_aged books.sim call).created room))
  | drain => exact ⟨kempt.armed, fun room => drain_balanced books (kempt.balanced room)⟩

theorem books_run_kempt (server : config.mode = .serverAuthoritative) (calls : List BooksCall) :
    Kempt config (booksRun config calls) := by
  refine run_invariant booksStep (Kempt config) (books_step_kempt server) (newBooks config)
    ⟨?_, fun _ => new_balanced config⟩ calls
  intro entity row present
  simp [newBooks] at present

end Runs

/-! The projectiles of the shots. -/

def firedOf : DomainEvent → Option WeaponFired
  | .weaponFired event => some event
  | _ => none

def spawnedOf : DomainEvent → Option ProjectileSpawned
  | .projectileSpawned event => some event
  | _ => none

/-- The weapon of the shot spawns a projectile on the server. -/
def spawns (config : SimulationConfig) (fired : WeaponFired) : Bool :=
  (findWeaponDefinition config.weapons fired.weaponType).any fun definition =>
    definition.serverSpawnedProjectile

/-- The shots among the events whose weapons spawn a projectile. -/
def spawningShots (config : SimulationConfig) (events : EventList) : List WeaponFired :=
  (events.filterMap firedOf).filter (spawns config)

/-- The projectile starts at the place of the player that fired the shot. -/
structure FromShooter (sim : GameSimulation) (fired : WeaponFired) (spawned : ProjectileSpawned) :
    Prop where
  owner : spawned.ownerId = fired.entityId
  weapon : spawned.sourceWeapon = fired.weaponType
  place : ∃ entity row transform, sim.registry.get? entity = some row ∧
    row.identity = some { id := fired.entityId } ∧ row.weapon.isSome ∧
    row.transform = some transform ∧ spawned.x = transform.x ∧ spawned.y = transform.y

section Shots

variable {config : SimulationConfig} {timeMs : TimestampMs}

theorem find_weapon_type {type : WeaponType} {definition : WeaponDefinition}
    (found : findWeaponDefinition config.weapons type = some definition) :
    definition.type = type := by
  have passes := List.find?_some found
  exact of_decide_eq_true passes

/-- A request comes from a shot of its row. -/
structure Requested (row : Components) (fired : WeaponFired) (request : ProjectileRequest) :
    Prop where
  owner : request.ownerId = fired.entityId
  weapon : request.weapon.type = fired.weaponType
  named : row.identity = some { id := fired.entityId }
  armed : row.weapon.isSome
  placed : row.transform = some request.transform

/-- A row of the warmup stage fires at most once, and requests a projectile
exactly if the weapon of its shot spawns one. -/
theorem row_requests (server : config.mode = .serverAuthoritative) {row : Components}
    (viewed : inWarmupView row = true) :
    List.Forall₂ (Requested row) (spawningShots config (finishWarmup config timeMs row).2)
      (projectileRequest config timeMs row).toList := by
  simp only [inWarmupView, Bool.and_eq_true, Option.isSome_iff_exists] at viewed
  obtain ⟨⟨⟨⟨identity, named⟩, transform, placed⟩, aim, aims⟩, weapon, isWeapon⟩ := viewed
  have requested : projectileRequest config timeMs row =
      if warmupComplete timeMs row weapon then
        (findWeaponDefinition config.weapons weapon.type).bind fun definition =>
          if definition.serverSpawnedProjectile then
            some { ownerId := identity.id, transform := transform, aim := aim, weapon := definition }
          else none
      else none := by
    unfold projectileRequest
    rw [server, named, placed, aims, isWeapon]
    dsimp only
    cases findWeaponDefinition config.weapons weapon.type <;> rfl
  rw [requested, finish_warmup_cases config timeMs named isWeapon]
  dsimp only
  unfold firedEvents
  cases complete : warmupComplete timeMs row weapon with
  | false => exact List.Forall₂.nil
  | true =>
      rw [if_pos rfl, if_pos rfl, server]
      cases found : findWeaponDefinition config.weapons weapon.type with
      | none => exact List.Forall₂.nil
      | some definition =>
          have shots (fired : WeaponFired) (sameType : fired.weaponType = weapon.type) :
              spawningShots config [.weaponFired fired] =
                if definition.serverSpawnedProjectile then [fired] else [] := by
            cases creates : definition.serverSpawnedProjectile with
            | false => simp [spawningShots, firedOf, spawns, sameType, found, creates]
            | true => simp [spawningShots, firedOf, spawns, sameType, found, creates]
          dsimp only [Option.bind_some]
          rw [shots _ rfl]
          cases definition.serverSpawnedProjectile with
          | false => exact List.Forall₂.nil
          | true =>
              refine List.Forall₂.cons ?_ List.Forall₂.nil
              exact ⟨rfl, find_weapon_type found, named, by rw [isWeapon]; rfl, placed⟩

/-- Two lists that are related item by item through a third. -/
theorem forall_trans {First Second Third : Type} {left : First → Second → Prop}
    {right : Second → Third → Prop} {related : First → Third → Prop}
    (chained : ∀ {first second third}, left first second → right second third →
      related first third) {firsts : List First} {seconds : List Second} {thirds : List Third}
    (one : List.Forall₂ left firsts seconds) (two : List.Forall₂ right seconds thirds) :
    List.Forall₂ related firsts thirds := by
  induction one generalizing thirds with
  | nil =>
      cases two
      exact List.Forall₂.nil
  | cons first _ ih =>
      cases two with
      | cons second rest => exact List.Forall₂.cons (chained first second) (ih rest)

/-- The rows' shots and requests match, row after row. -/
theorem loop_requests (config : SimulationConfig) (timeMs : TimestampMs)
    (server : config.mode = .serverAuthoritative) (sim : GameSimulation) (entities : List Entity)
    (viewed : ∀ entity ∈ entities, ∃ row, sim.registry.get? entity = some row ∧
      inWarmupView row = true) :
    List.Forall₂ (fun fired request => ∃ entity row, sim.registry.get? entity = some row ∧
        Requested row fired request)
      (spawningShots config (entities.flatMap fun entity =>
        ((sim.registry.get? entity).map fun row => (finishWarmup config timeMs row).2).getD []))
      (entities.filterMap fun entity =>
        (sim.registry.get? entity).bind (projectileRequest config timeMs)) := by
  induction entities with
  | nil => exact List.Forall₂.nil
  | cons entity rest ih =>
      obtain ⟨row, present, passes⟩ := viewed entity List.mem_cons_self
      have later := ih fun other member => viewed other (List.mem_cons_of_mem entity member)
      have first := (@row_requests config timeMs server row passes).imp
        fun fired request requested =>
          (⟨entity, row, present, requested⟩ : ∃ entity row, sim.registry.get? entity = some row ∧
            Requested row fired request)
      have both := List.rel_append first later
      have shots : spawningShots config ((entity :: rest).flatMap fun entity =>
          ((sim.registry.get? entity).map fun row => (finishWarmup config timeMs row).2).getD []) =
          spawningShots config (finishWarmup config timeMs row).2 ++
            spawningShots config (rest.flatMap fun entity =>
              ((sim.registry.get? entity).map fun row =>
                (finishWarmup config timeMs row).2).getD []) := by
        simp [spawningShots, present]
      have requests : (entity :: rest).filterMap (fun entity =>
          (sim.registry.get? entity).bind (projectileRequest config timeMs)) =
          (projectileRequest config timeMs row).toList ++ rest.filterMap (fun entity =>
            (sim.registry.get? entity).bind (projectileRequest config timeMs)) := by
        rw [List.filterMap_cons, present, Option.bind_some]
        cases projectileRequest config timeMs row <;> rfl
      rw [shots, requests]
      exact both

/-- Every request is created, in order, at its place. -/
theorem create_all_spawned (requests : List ProjectileRequest) (sim : GameSimulation) :
    ∃ told : List ProjectileSpawned,
      Queued sim (requests.foldl createProjectile sim) (told.map .projectileSpawned) ∧
      List.Forall₂ (fun request spawned => spawned.ownerId = request.ownerId ∧
        spawned.sourceWeapon = request.weapon.type ∧ spawned.x = request.transform.x ∧
        spawned.y = request.transform.y) requests told := by
  induction requests generalizing sim with
  | nil => exact ⟨[], by simp [Queued], List.Forall₂.nil⟩
  | cons request rest ih =>
      obtain ⟨told, queued, created⟩ := ih (createProjectile sim request)
      have first : Queued sim (createProjectile sim request) [.projectileSpawned _] := rfl
      exact ⟨_ :: told, first.trans queued, List.Forall₂.cons ⟨rfl, rfl, rfl, rfl⟩ created⟩

/-- A row fires at most once, under its own id. -/
theorem row_fires {row : Components} {id : NetworkEntityId}
    (named : row.identity = some { id := id }) :
    (finishWarmup config timeMs row).2 = [] ∨
      ∃ fired, (finishWarmup config timeMs row).2 = [.weaponFired fired] ∧ fired.entityId = id := by
  cases isWeapon : row.weapon with
  | none =>
      left
      unfold finishWarmup
      rw [named, isWeapon]
  | some weapon =>
      rw [finish_warmup_cases config timeMs named isWeapon]
      dsimp only
      unfold firedEvents
      split
      · split
        · exact Or.inr ⟨_, rfl, rfl⟩
        · exact Or.inl rfl
      · exact Or.inl rfl

theorem loop_shooters (config : SimulationConfig) (timeMs : TimestampMs) (sim : GameSimulation)
    (named : ∀ entity row, sim.registry.get? entity = some row →
      row.identity = some { id := idOf entity }) (entities : List Entity)
    (present : ∀ entity ∈ entities, ∃ row, sim.registry.get? entity = some row) :
    ∃ shooters : List Entity, shooters.Sublist entities ∧
      ((entities.flatMap fun entity => ((sim.registry.get? entity).map fun row =>
        (finishWarmup config timeMs row).2).getD []).filterMap firedOf).map
          (fun fired => fired.entityId) = shooters.map idOf := by
  induction entities with
  | nil => exact ⟨[], List.Sublist.refl [], rfl⟩
  | cons entity rest ih =>
      obtain ⟨shooters, sublist, isLater⟩ :=
        ih fun other member => present other (List.mem_cons_of_mem entity member)
      obtain ⟨row, isRow⟩ := present entity List.mem_cons_self
      rw [List.flatMap_cons, isRow, Option.map_some, Option.getD_some, List.filterMap_append,
        List.map_append, isLater]
      rcases row_fires (named entity row isRow) with silent | ⟨fired, one, isOwn⟩
      · refine ⟨shooters, sublist.cons entity, ?_⟩
        rw [silent]
        rfl
      · refine ⟨entity :: shooters, sublist.cons_cons entity, ?_⟩
        rw [one, List.map_cons, ← isOwn]
        rfl

end Shots

/-- In the tick each shot of a weapon that spawns a projectile has one, and no
player fires twice. -/
structure SpawnLaw (order : LoopOrder) (sim : GameSimulation) : Prop where
  spawned : ∃ added, Queued sim (tickFixed order sim) added ∧
    List.Forall₂ (FromShooter (processInputs order (advanceClock sim)))
      (spawningShots sim.config added) (added.filterMap spawnedOf) ∧
    ((added.filterMap firedOf).map fun fired => fired.entityId).Nodup

section Tick

variable {config : SimulationConfig}

/-- The warmup stage queues the shots of its rows and then their projectiles. -/
theorem process_warmups_shots (server : config.mode = .serverAuthoritative) (order : LoopOrder)
    {sim : GameSimulation} (configured : sim.config = config)
    (room : sim.registry.created < 2 ^ 32 - 1)
    (named : ∀ entity row, sim.registry.get? entity = some row →
      row.identity = some { id := idOf entity }) :
    ∃ shots, Queued sim (processWeaponWarmups order sim) shots ∧
      List.Forall₂ (FromShooter sim) (spawningShots config shots) (shots.filterMap spawnedOf) ∧
      ((shots.filterMap firedOf).map fun fired => fired.entityId).Nodup := by
  have members := fun entity =>
    (sim.registry.mem_view order .weaponWarmups inWarmupView entity).mp
  have requested := loop_requests config sim.timeMs server sim
    (sim.registry.view order .weaponWarmups inWarmupView) members
  obtain ⟨shooters, sublist, isShooter⟩ := loop_shooters config sim.timeMs sim named
    (sim.registry.view order .weaponWarmups inWarmupView) fun entity member => by
      obtain ⟨row, present, _⟩ := members entity member
      exact ⟨row, present⟩
  have fired := for_each_queued (finishWarmup sim.config sim.timeMs) order .weaponWarmups
    inWarmupView sim
  obtain ⟨told, created, spawned⟩ := create_all_spawned
    ((sim.registry.view order .weaponWarmups inWarmupView).filterMap fun entity =>
      (sim.registry.get? entity).bind (projectileRequest sim.config sim.timeMs))
    (sim.forEachEntity order .weaponWarmups inWarmupView (finishWarmup sim.config sim.timeMs))
  refine ⟨_, fired.trans created, ?_⟩
  rw [configured] at spawned ⊢
  have distinct := sublist.nodup (sim.registry.nodup_view order .weaponWarmups inWarmupView)
  have below (entity : Entity) (member : entity ∈ shooters) : entity < 2 ^ 32 - 1 := by
    obtain ⟨row, present, _⟩ := members entity (sublist.subset member)
    exact Nat.lt_trans (Registry.get?_lt _ present) room
  have isLoopEvent : ∀ event ∈ (sim.registry.view order .weaponWarmups inWarmupView).flatMap
      (fun entity => ((sim.registry.get? entity).map fun row =>
        (finishWarmup config sim.timeMs row).2).getD []), spawnedOf event = none := by
    intro event member
    obtain ⟨entity, _, told⟩ := List.mem_flatMap.mp member
    cases present : sim.registry.get? entity with
    | none =>
        rw [present] at told
        cases told
    | some row =>
        rw [present] at told
        obtain ⟨_, _, rfl⟩ := finish_warmup_events config sim.timeMs row event told
        rfl
  generalize ((sim.registry.view order .weaponWarmups inWarmupView).flatMap fun entity =>
    ((sim.registry.get? entity).map fun row =>
      (finishWarmup config sim.timeMs row).2).getD []) = loop at requested isShooter isLoopEvent ⊢
  generalize ((sim.registry.view order .weaponWarmups inWarmupView).filterMap fun entity =>
    (sim.registry.get? entity).bind (projectileRequest config sim.timeMs)) = requests
    at requested spawned
  have noShot : (told.map DomainEvent.projectileSpawned).filterMap firedOf = [] := by
    simp [firedOf, List.filterMap_eq_nil_iff]
  have allSpawned : (told.map DomainEvent.projectileSpawned).filterMap spawnedOf = told := by
    simp [spawnedOf, Function.comp_def]
  have silentLoop : loop.filterMap spawnedOf = [] := List.filterMap_eq_nil_iff.mpr isLoopEvent
  constructor
  · rw [spawningShots, List.filterMap_append, noShot, List.append_nil, List.filterMap_append,
      silentLoop, List.nil_append, allSpawned]
    refine forall_trans ?_ requested spawned
    rintro shot request projectile ⟨entity, row, present, origin⟩ ⟨owner, weapon, x, y⟩
    exact ⟨owner.trans origin.owner, weapon.trans origin.weapon, entity, row, request.transform,
      present, origin.named, origin.armed, origin.placed, x, y⟩
  · rw [List.filterMap_append, noShot, List.append_nil, isShooter]
    refine distinct.map_on ?_
    intro first isFirst second isSecond same
    exact id_of_injective (below first isFirst) (below second isSecond) same

theorem tick_spawn_law (server : config.mode = .serverAuthoritative) (order : LoopOrder)
    {sim : GameSimulation} (configured : sim.config = config)
    (room : sim.registry.created < 2 ^ 32 - 1)
    (named : ∀ entity row, sim.registry.get? entity = some row →
      row.identity = some { id := idOf entity }) : SpawnLaw order sim := by
  obtain ⟨inputs, queuedInputs, areInputs⟩ := process_inputs_queues order (advanceClock sim)
  have tables := process_inputs_tables order (advanceClock sim)
  have movedNamed : ∀ entity row,
      (processInputs order (advanceClock sim)).registry.get? entity = some row →
      row.identity = some { id := idOf entity } := by
    intro entity row present
    rw [process_inputs_row] at present
    obtain ⟨before, found, rfl⟩ := Option.map_eq_some_iff.mp present
    rw [moved_row_identity]
    exact named entity before found
  obtain ⟨shots, queuedShots, spawned, once⟩ := process_warmups_shots server order
    (tables.config.trans configured) (tables.created ▸ room) movedNamed
  obtain ⟨hits, queuedHits, areHits⟩ := process_projectiles_queues order
    (processWeaponWarmups order (processInputs order (advanceClock sim)))
  obtain ⟨respawns, queuedRespawns, areRespawns⟩ := process_respawns_queues order
    (processProjectiles order (processWeaponWarmups order
      (processInputs order (advanceClock sim))))
  have whole : Queued sim (tickFixed order sim) (inputs ++ shots ++ hits ++ respawns) :=
    ((queuedInputs.trans queuedShots).trans queuedHits).trans queuedRespawns
  -- The other stages tell of no shot and no projectile.
  have others : ∀ event, isInputEvent event ∨ isHitEvent event ∨ isRespawnEvent event →
      firedOf event = none ∧ spawnedOf event = none := by
    rintro event ((⟨_, rfl⟩ | ⟨_, rfl⟩) | (⟨_, rfl⟩ | ⟨_, rfl⟩ | ⟨_, rfl⟩) | ⟨_, rfl⟩) <;>
      exact ⟨rfl, rfl⟩
  have only {Value : Type} {pick : DomainEvent → Option Value}
      (none : ∀ event, isInputEvent event ∨ isHitEvent event ∨ isRespawnEvent event →
        pick event = none) :
      (inputs ++ shots ++ hits ++ respawns).filterMap pick = shots.filterMap pick := by
    have noInput : inputs.filterMap pick = [] := List.filterMap_eq_nil_iff.mpr
      fun event member => none event (Or.inl (areInputs event member))
    have noHit : hits.filterMap pick = [] := List.filterMap_eq_nil_iff.mpr
      fun event member => none event (Or.inr (Or.inl (areHits event member)))
    have noRespawn : respawns.filterMap pick = [] := List.filterMap_eq_nil_iff.mpr
      fun event member => none event (Or.inr (Or.inr (areRespawns event member)))
    simp [noInput, noHit, noRespawn]
  have isFired := only fun event other => (others event other).1
  have isSpawned := only fun event other => (others event other).2
  refine ⟨_, whole, ?_, ?_⟩
  · rw [isSpawned, configured, spawningShots, isFired]
    exact spawned
  · rw [isFired]
    exact once

end Tick

/-! The statements. -/

/-- What the ledger and the ticks of a server say about its shots. -/
structure FireLaw (config : SimulationConfig) (books : Books) : Prop where
  inOrder : books.ledger.map Prod.snd = books.drained ++ books.sim.events
  /-- Each shot ends a warmup of its own, in the first tick that completes it. -/
  shots : ∀ earlier tick fired later,
    books.ledger = earlier ++ (tick, .weaponFired fired) :: later →
    ∃ before between warmup, Ends config earlier tick fired before between warmup
  /-- Two shots of a player are a warmup apart. -/
  apart : ∀ earlier firstTick first between secondTick second later,
    books.ledger = earlier ++ (firstTick, .weaponFired first) :: between ++
      (secondTick, .weaponFired second) :: later →
    first.entityId = second.entityId →
    ∃ definition, findWeaponDefinition config.weapons second.weaponType = some definition ∧
      (ClockRoom config books.ticks definition →
        first.firedAtMs.toNat + definition.warmupMs.toNat ≤ second.firedAtMs.toNat)
  /-- The next tick spawns a projectile for each shot that asks for one. -/
  spawned : ∀ order, SpawnLaw order books.sim

/-- Along every server run that allocates fewer than `2 ^ 32 - 1` ids the shots
keep the rate of their weapons. -/
theorem fire_rate_limited (config : SimulationConfig) (server : config.mode = .serverAuthoritative)
    (calls : List BooksCall)
    (unwrapped : allocations (booksRun config calls).sim < 2 ^ 32 - 1) :
    FireLaw config (booksRun config calls) := by
  obtain ⟨inOrder, accounts, _⟩ := (books_run_kempt server calls).balanced unwrapped
  generalize booksRun config calls = books at unwrapped inOrder accounts
  constructor
  · exact inOrder
  · intro earlier tick fired later split
    have sound := accounts.sound
    rw [split] at sound
    exact sound_shot sound
  · intro earlier firstTick first between secondTick second later split same
    have sound := accounts.sound
    have past := accounts.stamped (secondTick, .weaponFired second) (by rw [split]; simp)
    rw [split] at sound
    exact sound_apart past sound same
  · exact fun order => tick_spawn_law server order accounts.configured unwrapped accounts.named

/-- The fire button is pressed for two ticks. -/
def twoShots : List BooksCall :=
  [.server (.login { header := { clientId := 1 } }),
   .server (.input { header := { clientId := 1, sequence := 1 }, input := { fire := true } }),
   .server (.tick .stored),
   .server (.input { header := { clientId := 1, sequence := 2 }, input := { fire := true } }),
   .server (.tick .stored)]

theorem fire_rate_limited_two_shots :
    ((booksRun { weapons := [{ type := .bow, serverSpawnedProjectile := true }] }
        twoShots).ledger.filterMap fun entry => firedOf entry.2).length = 2 ∧
      FireLaw { weapons := [{ type := .bow, serverSpawnedProjectile := true }] }
        (booksRun { weapons := [{ type := .bow, serverSpawnedProjectile := true }] } twoShots) := by
  refine ⟨by decide +kernel, fire_rate_limited _ rfl twoShots ?_⟩
  have three : allocations (booksRun { weapons := [{ type := .bow, serverSpawnedProjectile := true }] }
      twoShots).sim = 3 := by decide +kernel
  rw [three]
  decide

/-- A bow whose warmup lasts almost as long as the clock can count. -/
def endlessBow : WeaponDefinition := { type := .bow, warmupMs := 18446744073709551600 }

def endlessConfig : SimulationConfig := { weapons := [endlessBow] }

/-- The sum of clock and warmup wraps, the bow fires in two ticks in a row. -/
theorem fire_rate_exceeded :
    endlessConfig.mode = .serverAuthoritative ∧
    ∃ earlier firstTick first between secondTick second later definition,
      (booksRun endlessConfig twoShots).ledger = earlier ++ (firstTick, .weaponFired first) ::
        between ++ (secondTick, .weaponFired second) :: later ∧
      first.entityId = second.entityId ∧
      findWeaponDefinition endlessConfig.weapons second.weaponType = some definition ∧
      ¬ first.firedAtMs.toNat + definition.warmupMs.toNat ≤ second.firedAtMs.toNat := by
  refine ⟨rfl, (booksRun endlessConfig twoShots).ledger.take 2, 1,
    { entityId := { value := 1 }, firedAtMs := 16, weaponType := .bow },
    ((booksRun endlessConfig twoShots).ledger.take 4).drop 3, 2,
    { entityId := { value := 1 }, firedAtMs := 32, weaponType := .bow }, [], endlessBow, ?_⟩
  decide +kernel

end Brawololo.WarmupBooks
