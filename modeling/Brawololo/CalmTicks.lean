import Brawololo.CombatTruth

/-!
Ticks in which no projectile ends: each flies on, and nothing is destroyed.
-/

namespace Brawololo.CalmTicks

open GameTypes EntityStore Simulation Simulation.GameSimulation SimulationStages CombatTruth

/-- Every projectile flies on in this tick: it stays in time and on the map, and
hits nobody, whichever of the others have already flown. -/
def Calm (sim : GameSimulation) : Prop :=
  ∀ entity row projectile transform, sim.registry.get? entity = some row →
    row.projectile = some projectile → (fly sim.config row).transform = some transform →
    projectileGone sim.config sim.timeMs projectile transform = false ∧
    ∀ target targetRow flown, sim.registry.get? target = some targetRow →
      hits projectile transform (flownRow sim.config flown target targetRow) = false

/-- The loop ends no projectile. -/
structure AllFlew (before : GameSimulation) (entities : List Entity)
    (after : GameSimulation × List Entity) : Prop where
  rows : ∀ entity, after.1.registry.get? entity =
    (before.registry.get? entity).map (flownRow before.config entities entity)
  spared : after.2 = []

theorem calm_loop (targets entities : List Entity) (distinct : entities.Nodup)
    {sim : GameSimulation} (calm : Calm sim) (viewed : AllViewed sim entities) :
    AllFlew sim entities (entities.foldl (processProjectile targets) (sim, [])) := by
  induction entities using List.reverseRecOn with
  | nil =>
      refine ⟨fun entity => ?_, rfl⟩
      dsimp only [List.foldl_nil]
      cases sim.registry.get? entity with
      | none => rfl
      | some row => simp [flownRow]
  | append_singleton earlier entity ih =>
      obtain ⟨distinctEarlier, _, apart⟩ := List.nodup_append.mp distinct
      have fresh : entity ∉ earlier :=
        fun member => apart entity member entity (List.mem_singleton.mpr rfl) rfl
      have before := ih distinctEarlier fun other member =>
        viewed other (List.mem_append_left _ member)
      have tables := projectile_loop_tables targets earlier (sim, [])
      rw [List.foldl_concat]
      generalize earlier.foldl (processProjectile targets) (sim, []) = state at before tables ⊢
      obtain ⟨between, listed⟩ := state
      obtain ⟨rows, rfl⟩ := before
      dsimp only at rows tables
      obtain ⟨row, present, passes⟩ := viewed entity (List.mem_append_right _
        (List.mem_singleton.mpr rfl))
      -- The projectile has not flown before its own turn.
      have unflown : between.registry.get? entity = some row := by
        rw [rows, present]
        simp [flownRow, fresh]
      have flew : AllFlew sim (earlier ++ [entity]) (flyEntity between entity, []) := by
        refine ⟨fun other => ?_, rfl⟩
        dsimp only
        rw [fly_entity_row, rows, tables.config, Option.map_map]
        congr 1
        funext found
        apply flown_append
        intro late early
        rw [List.mem_singleton.mp late] at early
        exact fresh early
      have turn := process_projectile_turn targets between [] entity
      generalize processProjectile targets (between, []) entity = result at turn ⊢
      cases turn with
      | skipped absent =>
          rw [absent row unflown] at passes
          cases passes
      | gone found projectile transform isRow carries flown leaves =>
          rw [unflown] at isRow
          cases isRow
          rw [tables.config] at flown leaves
          rw [tables.timeMs,
            (calm entity row projectile transform present carries flown).1] at leaves
          cases leaves
      | flew => exact flew
      | struck found identity projectile transform target targetRow isRow carries flown stays aimed
          isTarget hit =>
          rw [unflown] at isRow
          cases isRow
          rw [tables.config] at flown
          have flownTarget := flew.rows target
          rw [flyEntity, isTarget] at flownTarget
          obtain ⟨before, isBefore, same⟩ := Option.map_eq_some_iff.mp flownTarget.symm
          rw [← same, (calm entity row projectile transform present carries flown).2 target before _
            isBefore] at hit
          cases hit

/-- Where every projectile flies on, the stage flies them and ends none. -/
theorem process_projectiles_calm (order : LoopOrder) {sim : GameSimulation} (calm : Calm sim)
    (entity : Entity) : (processProjectiles order sim).registry.get? entity =
      (sim.registry.get? entity).map fun row =>
        if inProjectileView row then fly sim.config row else row := by
  have flew := calm_loop (sim.registry.view order .projectileTargets inTargetView) _
    (sim.registry.nodup_view order .projectiles inProjectileView) calm (view_all_viewed order sim)
  unfold processProjectiles
  dsimp only
  rw [flew.spared, List.foldl_nil, flew.rows]
  cases present : sim.registry.get? entity with
  | none => rfl
  | some row =>
      have viewed : entity ∈ sim.registry.view order .projectiles inProjectileView ↔
          inProjectileView row = true := by
        rw [Registry.mem_view, present]
        simp
      simp only [Option.map_some, flownRow, viewed]

end Brawololo.CalmTicks
