import Brawololo.ArrivalOrder

/-!
Many inputs of one client before a tick. The tick leaves of them what one input
would: the movement and the sequence number of the last, the last aim that is
not zero, and a shot if any of them shoots.
-/

namespace Brawololo.InputFlooding

open GameTypes EntityStore Simulation Simulation.GameSimulation SimulationStages Runs
open Interleavings EntityIdentity ArrivalOrder

/-! Merging inputs. -/

def aims (packet : ClientInputPacket) : Bool := packet.input.aimX ≠ 0 || packet.input.aimY ≠ 0

/-- The last aim that is not zero, or zero. -/
def lastAim (packets : List ClientInputPacket) : Int16 × Int16 :=
  match (packets.filter aims).getLast? with
  | some packet => (packet.input.aimX, packet.input.aimY)
  | none => (0, 0)

/-- The packets as one, under the header and with the movement of `last`. -/
def mergedUnder (last : ClientInputPacket) (packets : List ClientInputPacket) :
    ClientInputPacket where
  header := last.header
  input :=
    { moveX := last.input.moveX
      moveY := last.input.moveY
      aimX := (lastAim packets).1
      aimY := (lastAim packets).2
      fire := packets.any fun packet => packet.input.fire }

def merged (packets : List ClientInputPacket) (nonempty : packets ≠ []) : ClientInputPacket :=
  mergedUnder (packets.getLast nonempty) packets

/-- Two packets as one. -/
def mergeTwo (first second : ClientInputPacket) : ClientInputPacket where
  header := second.header
  input :=
    { moveX := second.input.moveX
      moveY := second.input.moveY
      aimX := if aims second then second.input.aimX else first.input.aimX
      aimY := if aims second then second.input.aimY else first.input.aimY
      fire := first.input.fire || second.input.fire }

theorem last_aim_concat (packets : List ClientInputPacket) (last : ClientInputPacket) :
    lastAim (packets ++ [last]) =
      if aims last then (last.input.aimX, last.input.aimY) else lastAim packets := by
  unfold lastAim
  rw [List.filter_append]
  cases isAimed : aims last with
  | true => simp [isAimed]
  | false => simp [isAimed]

theorem merged_concat (packets : List ClientInputPacket) (before last : ClientInputPacket) :
    mergedUnder last (packets ++ [last]) = mergeTwo (mergedUnder before packets) last := by
  unfold mergedUnder mergeTwo
  rw [last_aim_concat]
  cases aims last <;> simp

theorem last_aim_single (packet : ClientInputPacket) :
    lastAim [packet] = (packet.input.aimX, packet.input.aimY) := by
  cases isAimed : aims packet with
  | true => simp [lastAim, isAimed]
  | false =>
      have zero : packet.input.aimX = 0 ∧ packet.input.aimY = 0 := by
        simpa [aims] using isAimed
      simp [lastAim, isAimed, zero]

theorem merged_single (packet : ClientInputPacket) : mergedUnder packet [packet] = packet := by
  unfold mergedUnder
  rw [last_aim_single]
  simp

/-! What a tick still tells of an input once it is applied to a row. -/

/-- The row with the aim and the fire button of its intent taken away. Nothing
after the inputs reads them. -/
def forgetIntent (row : Components) : Components :=
  { row with
    inputIntent := row.inputIntent.map fun intent => { moveX := intent.moveX, moveY := intent.moveY } }

theorem start_warmup_take (config : SimulationConfig) (timeMs : TimestampMs) (input : InputFrame)
    (row : Components) :
    startWarmup config timeMs (takeIntent input row) =
      (takeIntent input (startWarmup config timeMs row).1, (startWarmup config timeMs row).2) := by
  cases isWeapon : row.weapon with
  | none => simp [startWarmup, takeIntent, isWeapon]
  | some weapon =>
      cases isIdentity : row.identity with
      | none => simp [startWarmup, takeIntent, isWeapon, isIdentity]
      | some identity =>
          cases found : findWeaponDefinition config.weapons weapon.type with
          | none => simp [startWarmup, takeIntent, isWeapon, isIdentity, found]
          | some definition =>
              by_cases idle : weapon.type = .none ∨ weapon.warming = true
              · simp [startWarmup, takeIntent, isWeapon, isIdentity, found, idle]
              · simp [startWarmup, takeIntent, isWeapon, isIdentity, found, idle]

/-- A warmup that was just started is not started again. -/
theorem start_warmup_twice (config : SimulationConfig) (timeMs : TimestampMs) (row : Components) :
    startWarmup config timeMs (startWarmup config timeMs row).1 =
      ((startWarmup config timeMs row).1, []) := by
  cases isWeapon : row.weapon with
  | none => simp [startWarmup, isWeapon]
  | some weapon =>
      cases isIdentity : row.identity with
      | none => simp [startWarmup, isWeapon, isIdentity]
      | some identity =>
          cases found : findWeaponDefinition config.weapons weapon.type with
          | none => simp [startWarmup, isWeapon, isIdentity, found]
          | some definition =>
              by_cases idle : weapon.type = .none ∨ weapon.warming = true
              · simp [startWarmup, isWeapon, isIdentity, found, idle]
              · simp [startWarmup, isWeapon, isIdentity, found, idle]

/-- The warmup an input starts, apart from its intent. -/
def pressFire (config : SimulationConfig) (timeMs : TimestampMs) (fire : Bool) (row : Components) :
    Components × EventList :=
  if fire then startWarmup config timeMs row else (row, [])

theorem apply_input_eq (config : SimulationConfig) (timeMs : TimestampMs)
    (packet : ClientInputPacket) (row : Components) :
    applyInputToEntity config timeMs packet row =
      if row.defeated then (row, [])
      else (takeIntent packet.input (pressFire config timeMs packet.input.fire row).1,
        (pressFire config timeMs packet.input.fire row).2) := by
  unfold applyInputToEntity pressFire
  rw [start_warmup_take]
  split
  · rfl
  · split <;> rfl

theorem press_fire_player (config : SimulationConfig) (timeMs : TimestampMs) (fire : Bool)
    (row : Components) : (pressFire config timeMs fire row).1.player = row.player := by
  unfold pressFire
  split
  · obtain ⟨weapon, changed⟩ := start_warmup_changes config timeMs row
    rw [changed]
  · rfl

theorem press_fire_take (config : SimulationConfig) (timeMs : TimestampMs) (fire : Bool)
    (input : InputFrame) (row : Components) :
    pressFire config timeMs fire (takeIntent input row) =
      (takeIntent input (pressFire config timeMs fire row).1,
        (pressFire config timeMs fire row).2) := by
  unfold pressFire
  cases fire with
  | true => exact start_warmup_take config timeMs input row
  | false => rfl

/-- Pressing the button twice is pressing it once. -/
theorem press_fire_or (config : SimulationConfig) (timeMs : TimestampMs) (first second : Bool)
    (row : Components) :
    pressFire config timeMs (first || second) row =
      ((pressFire config timeMs second (pressFire config timeMs first row).1).1,
        (pressFire config timeMs first row).2 ++
          (pressFire config timeMs second (pressFire config timeMs first row).1).2) := by
  unfold pressFire
  cases first with
  | true =>
      cases second with
      | true => simp [start_warmup_twice]
      | false => simp
  | false => cases second <;> simp

theorem take_two (first second : ClientInputPacket) (row : Components) :
    forgetIntent (takeIntent second.input (takeIntent first.input row)) =
      forgetIntent (takeIntent (mergeTwo first second).input row) := by
  unfold forgetIntent takeIntent mergeTwo
  cases isAimed : aims second with
  | true =>
      have nonzero : second.input.aimX ≠ 0 ∨ second.input.aimY ≠ 0 := by
        simpa [aims] using isAimed
      simp [intentOf, nonzero]
  | false =>
      have zero : second.input.aimX = 0 ∧ second.input.aimY = 0 := by
        simpa [aims] using isAimed
      simp [intentOf, zero]

/-- Two inputs applied to a row leave what the merged one leaves. -/
theorem apply_two (config : SimulationConfig) (timeMs : TimestampMs)
    (first second : ClientInputPacket) (row : Components) :
    let one := applyInputToEntity config timeMs first row
    let two := applyInputToEntity config timeMs second one.1
    let both := applyInputToEntity config timeMs (mergeTwo first second) row
    forgetIntent two.1 = forgetIntent both.1 ∧ one.2 ++ two.2 = both.2 := by
  dsimp only
  cases defeated : row.defeated with
  | true => simp [apply_input_eq, defeated]
  | false =>
      have alive : (takeIntent first.input
          (pressFire config timeMs first.input.fire row).1).defeated = false := by
        unfold Components.defeated at defeated ⊢
        change (pressFire config timeMs first.input.fire row).1.player.any _ = false
        rw [press_fire_player]
        exact defeated
      have pressed : pressFire config timeMs (mergeTwo first second).input.fire row = _ :=
        press_fire_or config timeMs first.input.fire second.input.fire row
      simp only [apply_input_eq, defeated, alive, Bool.false_eq_true, if_false, press_fire_take,
        pressed]
      exact ⟨take_two first second _, trivial⟩

section Forgetting

variable (config : SimulationConfig) (timeMs : TimestampMs) (row : Components)

theorem press_fire_forget (fire : Bool) :
    pressFire config timeMs fire (forgetIntent row) =
      (forgetIntent (pressFire config timeMs fire row).1,
        (pressFire config timeMs fire row).2) := by
  unfold pressFire
  cases fire with
  | false => rfl
  | true =>
      cases isWeapon : row.weapon with
      | none => simp [startWarmup, forgetIntent, isWeapon]
      | some weapon =>
          cases isIdentity : row.identity with
          | none => simp [startWarmup, forgetIntent, isWeapon, isIdentity]
          | some identity =>
              cases found : findWeaponDefinition config.weapons weapon.type with
              | none => simp [startWarmup, forgetIntent, isWeapon, isIdentity, found]
              | some definition =>
                  by_cases idle : weapon.type = .none ∨ weapon.warming = true
                  · simp [startWarmup, forgetIntent, isWeapon, isIdentity, found, idle]
                  · simp [startWarmup, forgetIntent, isWeapon, isIdentity, found, idle]

/-- An input is applied alike to rows that differ in what is forgotten. -/
theorem apply_forget (packet : ClientInputPacket) :
    forgetIntent (applyInputToEntity config timeMs packet (forgetIntent row)).1 =
        forgetIntent (applyInputToEntity config timeMs packet row).1 ∧
      (applyInputToEntity config timeMs packet (forgetIntent row)).2 =
        (applyInputToEntity config timeMs packet row).2 := by
  have sameDefeated : (forgetIntent row).defeated = row.defeated := rfl
  rw [apply_input_eq, apply_input_eq, sameDefeated, press_fire_forget]
  cases row.defeated with
  | true => exact ⟨by simp [forgetIntent, Function.comp_def], rfl⟩
  | false => exact ⟨rfl, rfl⟩

theorem integrate_forget :
    integrateMovement config (forgetIntent row) =
      (forgetIntent (integrateMovement config row).1, (integrateMovement config row).2) := by
  have steered : ∀ velocity, steer config (forgetIntent row).inputIntent velocity =
      steer config row.inputIntent velocity := by
    intro velocity
    unfold forgetIntent
    cases row.inputIntent <;> rfl
  have sameDefeated : (forgetIntent row).defeated = row.defeated := rfl
  unfold integrateMovement
  rw [sameDefeated]
  simp only [steered]
  cases isIdentity : row.identity with
  | none => simp [forgetIntent, isIdentity]
  | some identity =>
      cases isTransform : row.transform with
      | none => simp [forgetIntent, isIdentity, isTransform]
      | some transform =>
          cases isVelocity : row.velocity with
          | none => simp [forgetIntent, isIdentity, isTransform, isVelocity]
          | some velocity =>
              cases row.defeated <;> simp [forgetIntent, isIdentity, isTransform, isVelocity]

end Forgetting

/-! The same for a simulation. -/

/-- Simulations that differ at most in their queues and in forgotten intents. -/
structure Alike (one two : GameSimulation) : Prop where
  tables : SameTables one two
  events : two.events = one.events
  rows : ∀ entity, (two.registry.get? entity).map forgetIntent =
    (one.registry.get? entity).map forgetIntent

theorem Alike.refl (sim : GameSimulation) : Alike sim sim :=
  ⟨SameTables.refl sim, rfl, fun _ => rfl⟩

theorem Alike.trans {first second third : GameSimulation} (one : Alike first second)
    (two : Alike second third) : Alike first third :=
  ⟨one.tables.trans two.tables, two.events.trans one.events,
    fun entity => (two.rows entity).trans (one.rows entity)⟩

/-- Updates that agree on rows that differ in what is forgotten. -/
def Agree (first second : Components → Components × EventList) : Prop :=
  ∀ row other, forgetIntent other = forgetIntent row →
    forgetIntent (second other).1 = forgetIntent (first row).1 ∧ (second other).2 = (first row).2

theorem SameTables.symm {one two : GameSimulation} (tables : SameTables one two) :
    SameTables two one :=
  ⟨tables.config.symm, tables.tick.symm, tables.timeMs.symm, tables.nextNetworkId.symm,
    tables.playerByClient.symm, tables.entityByNetworkId.symm, tables.lastAcceptedSequence.symm,
    tables.created.symm⟩

theorem update_alike {first second : Components → Components × EventList}
    (agree : Agree first second) (entity : Entity) {one two : GameSimulation}
    (alike : Alike one two) :
    Alike (one.updateEntity first entity) (two.updateEntity second entity) := by
  have before := SameTables.symm (update_entity_tables first one entity)
  have after := update_entity_tables second two entity
  have same := alike.rows entity
  have firstQueued := update_entity_queued first one entity
  have secondQueued := update_entity_queued second two entity
  refine ⟨(before.trans alike.tables).trans after, ?_, ?_⟩
  · unfold Queued at firstQueued secondQueued
    rw [firstQueued, secondQueued, alike.events]
    cases isRow : one.registry.get? entity with
    | none =>
        rw [isRow, Option.map_none, Option.map_eq_none_iff] at same
        rw [same]
        rfl
    | some row =>
        rw [isRow, Option.map_some] at same
        obtain ⟨other, isOther, alikeRows⟩ := Option.map_eq_some_iff.mp same
        rw [isOther]
        exact congrArg (one.events ++ ·) (agree row other alikeRows).2
  · intro entity'
    rw [update_entity_row, update_entity_row]
    by_cases isEntity : entity' = entity
    · rw [if_pos isEntity, if_pos isEntity, isEntity]
      cases isRow : one.registry.get? entity with
      | none =>
          rw [isRow, Option.map_none, Option.map_eq_none_iff] at same
          rw [same]
          rfl
      | some row =>
          rw [isRow, Option.map_some] at same
          obtain ⟨other, isOther, alikeRows⟩ := Option.map_eq_some_iff.mp same
          rw [isOther]
          exact congrArg some (agree row other alikeRows).1
    · rw [if_neg isEntity, if_neg isEntity]
      exact alike.rows entity'

theorem apply_agrees (config : SimulationConfig) (timeMs : TimestampMs)
    (packet : ClientInputPacket) :
    Agree (applyInputToEntity config timeMs packet) (applyInputToEntity config timeMs packet) := by
  intro row other same
  have one := apply_forget config timeMs row packet
  have two := apply_forget config timeMs other packet
  rw [same] at two
  exact ⟨two.1.symm.trans one.1, two.2.symm.trans one.2⟩

theorem integrate_agrees (config : SimulationConfig) :
    Agree (integrateMovement config) (integrateMovement config) := by
  intro row other same
  have one := integrate_forget config row
  have two := integrate_forget config other
  rw [same, one] at two
  exact (Prod.mk.inj two).imp Eq.symm Eq.symm

theorem apply_pending_alike {one two : GameSimulation} (packet : ClientInputPacket)
    (alike : Alike one two) :
    Alike (applyPendingInput one packet) (applyPendingInput two packet) := by
  unfold applyPendingInput
  rw [alike.tables.inputTarget, alike.tables.config, alike.tables.timeMs]
  cases one.inputTarget packet.header.clientId with
  | none => exact alike
  | some entity => exact update_alike (apply_agrees _ _ packet) entity alike

/-- Two updates of an entity are one. -/
theorem update_twice (first second : Components → Components × EventList) (sim : GameSimulation)
    (entity : Entity) :
    (sim.updateEntity first entity).updateEntity second entity =
      sim.updateEntity (fun row => ((second (first row).1).1,
        (first row).2 ++ (second (first row).1).2)) entity := by
  cases present : sim.registry.get? entity with
  | none => rw [update_absent sim first present, update_absent sim second present,
      update_absent sim _ present]
  | some row =>
      have later : (sim.updateEntity first entity).registry.get? entity = some (first row).1 := by
        rw [update_entity_row, if_pos rfl, present]
        rfl
      rw [update_present _ second later, update_present sim first present,
        update_present sim _ present]
      have registry : (sim.registry.modify entity fun row => (first row).1).modify entity
          (fun row => (second row).1) =
          sim.registry.modify entity fun row => (second (first row).1).1 := by
        refine Registry.rows_ext (Eq.refl sim.registry.created) fun other => ?_
        simp only [Registry.get?_modify]
        by_cases same : other = entity
        · simp [same, Function.comp_def]
        · simp [same]
      simp only [registry, List.append_assoc]

/-- Two inputs of one client leave what the merged one leaves. -/
theorem apply_pending_two (sim : GameSimulation) (first second : ClientInputPacket)
    (own : sender first = sender second) :
    Alike (applyPendingInput (applyPendingInput sim first) second)
      (applyPendingInput sim (mergeTwo first second)) := by
  have tables := apply_pending_tables sim first
  have sameTarget : sim.inputTarget second.header.clientId =
      sim.inputTarget first.header.clientId := by
    unfold sender at own
    rw [own]
  rw [applyPendingInput.eq_def (applyPendingInput sim first), tables.inputTarget, tables.config,
    tables.timeMs]
  unfold applyPendingInput
  have mergedTarget : (mergeTwo first second).header.clientId = second.header.clientId := rfl
  rw [mergedTarget, sameTarget]
  cases sim.inputTarget first.header.clientId with
  | none => exact Alike.refl sim
  | some entity =>
      dsimp only
      rw [update_twice]
      apply update_alike _ entity (Alike.refl sim)
      intro row other same
      obtain ⟨rows, events⟩ := apply_two sim.config sim.timeMs first second row
      have applied := apply_agrees sim.config sim.timeMs (mergeTwo first second) row other same
      exact ⟨applied.1.trans rows.symm, applied.2.trans events.symm⟩

/-- A client's inputs, applied one after another, leave what the merged one leaves. -/
theorem apply_all_merged (sim : GameSimulation) (clientId : ClientId)
    (packets : List ClientInputPacket) (last : ClientInputPacket)
    (own : ∀ packet ∈ packets ++ [last], sender packet = clientId) :
    Alike ((packets ++ [last]).foldl applyPendingInput sim)
      (applyPendingInput sim (mergedUnder last (packets ++ [last]))) := by
  induction packets using List.reverseRecOn generalizing last with
  | nil =>
      rw [List.nil_append, merged_single]
      exact Alike.refl _
  | append_singleton packets before ih =>
      have ownBefore : ∀ packet ∈ packets ++ [before], sender packet = clientId :=
        fun packet member => own packet (List.mem_append_left _ member)
      have isOwn := ownBefore before (List.mem_append_right _ List.mem_cons_self)
      have lastOwn := own last (List.mem_append_right _ List.mem_cons_self)
      rw [List.foldl_append, List.foldl_cons, List.foldl_nil,
        merged_concat (packets ++ [before]) before last]
      exact (apply_pending_alike last (ih before ownBefore)).trans
        (apply_pending_two sim _ last (isOwn.trans lastOwn.symm))

/-! What follows the inputs. -/

theorem for_each_alike (order : LoopOrder) (config : SimulationConfig) {one two : GameSimulation}
    (alike : Alike one two) :
    Alike (one.forEachEntity order .integrateMovement (fun row => row.player.isSome)
        (integrateMovement config))
      (two.forEachEntity order .integrateMovement (fun row => row.player.isSome)
        (integrateMovement config)) := by
  have visited : two.registry.view order .integrateMovement (fun row => row.player.isSome) =
      one.registry.view order .integrateMovement (fun row => row.player.isSome) := by
    apply Registry.view_congr order .integrateMovement alike.tables.created
    intro entity
    have same := congrArg (fun row : Option Components => row.any fun row => row.player.isSome)
      (alike.rows entity)
    simp only [Option.any_map] at same
    exact same
  unfold forEachEntity
  rw [visited]
  exact run_respects (fun sim entity => sim.updateEntity (integrateMovement config) entity) Alike
    (fun _ _ entity alike => update_alike (integrate_agrees config) entity alike) alike _

/-- Clearing the intents takes the difference away. -/
theorem cleared_equal {one two : GameSimulation} (alike : Alike one two)
    (onePending : one.pendingInputs = []) (twoPending : two.pendingInputs = []) :
    { one with registry := one.registry.mapRows clearIntent } =
      { two with registry := two.registry.mapRows clearIntent } := by
  have registry : one.registry.mapRows clearIntent = two.registry.mapRows clearIntent := by
    refine Registry.rows_ext alike.tables.created.symm fun entity => ?_
    have same := congrArg (fun row : Option Components => row.map clearIntent) (alike.rows entity)
    have forgotten : clearIntent ∘ forgetIntent = clearIntent := rfl
    simp only [Option.map_map, forgotten] at same
    rw [Registry.get?_mapRows, Registry.get?_mapRows]
    exact same.symm
  obtain ⟨tables, events, rows⟩ := alike
  obtain ⟨config, tick, timeMs, nextId, players, entities, sequences, created⟩ := tables
  rw [registry, onePending, twoPending, config, tick, timeMs, nextId, players, entities, sequences,
    events]

theorem after_inputs_equal (order : LoopOrder) {one two : GameSimulation} (alike : Alike one two) :
    afterInputs order one = afterInputs order two := by
  have cleared : Alike { one with pendingInputs := [] } { two with pendingInputs := [] } :=
    ⟨alike.tables.rec fun config tick timeMs nextId players entities sequences created =>
      ⟨config, tick, timeMs, nextId, players, entities, sequences, created⟩,
      alike.events, alike.rows⟩
  have moved := for_each_alike order one.config cleared
  have same := cleared_equal moved (for_each_pending _ order _ _ _) (for_each_pending _ order _ _ _)
  unfold afterInputs
  dsimp only
  rw [alike.tables.config] at same ⊢
  exact congrArg (fun moved => processRespawns order (processProjectiles order
    (processWeaponWarmups order moved))) same

/-! Submitting the inputs. -/

def putPending (pending : List ClientInputPacket) (sim : GameSimulation) : GameSimulation :=
  { sim with pendingInputs := pending }

/-- Whether a packet is accepted does not depend on the queue. -/
theorem submit_logs (packet : ClientInputPacket) :
    AppendsToLog putPending fun sim => (submitInput sim packet).1 := by
  intro sim
  cases admitted : admits sim packet with
  | true =>
      refine ⟨{ sim with lastAcceptedSequence :=
        sim.lastAcceptedSequence.insert (sender packet) packet.header.sequence }, [packet], ?_⟩
      intro pending
      have same : admits (putPending pending sim) packet = true := admitted
      change (submitInput (putPending pending sim) packet).1 = _
      rw [submit_input_eq, if_pos same]
      rfl
  | false =>
      refine ⟨sim, [], fun pending => ?_⟩
      have same : admits (putPending pending sim) packet = false := admitted
      change (submitInput (putPending pending sim) packet).1 = _
      rw [submit_input_eq, same, List.append_nil]
      rfl

theorem submit_all_sim (sim : GameSimulation) (packets : List ClientInputPacket) :
    (submitAll sim packets).sim = run (fun sim packet => (submitInput sim packet).1) sim packets := by
  unfold submitAll
  generalize started : Submissions.mk sim [] = state
  have isSim : sim = state.sim := by rw [← started]
  rw [isSim]
  clear started isSim
  induction packets generalizing state with
  | nil => rfl
  | cons packet rest ih => exact ih (submitNext state packet)

theorem submit_all_concat (sim : GameSimulation) (packets : List ClientInputPacket)
    (last : ClientInputPacket) :
    submitAll sim (packets ++ [last]) = submitNext (submitAll sim packets) last :=
  run_append submitNext _ packets [last]

theorem submit_next_eq (state : Submissions) (packet : ClientInputPacket) :
    submitNext state packet =
      { sim := if admits state.sim packet then
          { state.sim with
            lastAcceptedSequence :=
              state.sim.lastAcceptedSequence.insert (sender packet) packet.header.sequence
            pendingInputs := state.sim.pendingInputs ++ [packet] }
          else state.sim
        answers := state.answers ++ [(packet, admits state.sim packet)] } := by
  unfold submitNext
  rw [submit_input_eq]
  cases admits state.sim packet <;> rfl

/-- All packets were accepted that arrived from the client. -/
def Accepted (sim : GameSimulation) (clientId : ClientId) (packets : List ClientInputPacket) :
    Prop :=
  ∀ answer ∈ own answered clientId (submitAll sim packets).answers, answer.2 = true

/-- A later number is newer than all that were older than an accepted one. -/
theorem admits_later (sim : GameSimulation) (before last : ClientInputPacket)
    (same : sender before = sender last) (admitted : admits sim before = true)
    (pending : List ClientInputPacket)
    (later : admits { sim with
      lastAcceptedSequence :=
        sim.lastAcceptedSequence.insert (sender before) before.header.sequence
      pendingInputs := pending } last = true) : admits sim last = true := by
  unfold admits at admitted later ⊢
  rw [same] at admitted later
  simp only [get_insert, if_true, Option.any_some, Bool.and_eq_true, Bool.not_eq_true',
    decide_eq_false_iff_not] at admitted later ⊢
  refine ⟨later.1, ?_⟩
  cases entry : sim.lastAcceptedSequence[sender last]? with
  | none => rfl
  | some accepted =>
      rw [entry, Option.any_some, decide_eq_false_iff_not] at admitted
      have step := later.2
      have earlier := admitted.2
      simp only [Option.any_some, decide_eq_false_iff_not]
      grind

/-- A client's accepted packets leave the number of the last and all of them queued. -/
theorem submit_all_accepted (sim : GameSimulation) (clientId : ClientId)
    (packets : List ClientInputPacket) (last : ClientInputPacket)
    (isOwn : ∀ packet ∈ packets ++ [last], sender packet = clientId)
    (accepted : Accepted sim clientId (packets ++ [last])) :
    admits sim last = true ∧
      (submitAll sim (packets ++ [last])).sim =
        { sim with
          lastAcceptedSequence := sim.lastAcceptedSequence.insert clientId last.header.sequence
          pendingInputs := sim.pendingInputs ++ (packets ++ [last]) } := by
  induction packets using List.reverseRecOn generalizing last with
  | nil =>
      have lastOwn : sender last = clientId := isOwn last List.mem_cons_self
      have one : submitAll sim [last] = submitNext { sim := sim } last := rfl
      rw [submit_next_eq] at one
      have admitted : admits sim last = true := by
        refine accepted (last, admits sim last) (List.mem_filter.mpr ⟨?_, decide_eq_true lastOwn⟩)
        rw [List.nil_append, one]
        exact List.mem_singleton_self _
      refine ⟨admitted, ?_⟩
      rw [List.nil_append, one]
      simp only [admitted, if_true, lastOwn]
  | append_singleton packets before ih =>
      have lastOwn : sender last = clientId :=
        isOwn last (List.mem_append_right _ List.mem_cons_self)
      rw [Accepted, submit_all_concat, submit_next_eq, own, List.filter_append] at accepted
      obtain ⟨admittedBefore, isSim⟩ := ih before
        (fun packet member => isOwn packet (List.mem_append_left _ member))
        (fun answer member => accepted answer (List.mem_append_left _ member))
      have admittedLast : admits (submitAll sim (packets ++ [before])).sim last = true :=
        accepted (last, _) (List.mem_append_right _
          (List.mem_filter.mpr ⟨List.mem_singleton_self _, decide_eq_true lastOwn⟩))
      have beforeOwn : sender before = clientId := isOwn before (by simp)
      constructor
      · rw [isSim, ← beforeOwn] at admittedLast
        exact admits_later sim before last (beforeOwn.trans lastOwn.symm) admittedBefore _
          admittedLast
      · rw [submit_all_concat, submit_next_eq, if_pos admittedLast, isSim]
        simp only [insert_insert, lastOwn, List.append_assoc]

/-! The tick after them. -/

/-- Queues that hold a client's adjacent inputs, or the merged one in their place,
end in one state. -/
theorem tick_merged_queues (order : LoopOrder) (sim : GameSimulation) (clientId : ClientId)
    (before packets later : List ClientInputPacket) (last : ClientInputPacket)
    (isOwn : ∀ packet ∈ packets ++ [last], sender packet = clientId) :
    tickFixed order (putPending (before ++ (packets ++ [last]) ++ later) sim) =
      tickFixed order
        (putPending (before ++ [mergedUnder last (packets ++ [last])] ++ later) sim) := by
  have clocks : ∀ first second : List ClientInputPacket,
      Alike (advanceClock (putPending first sim)) (advanceClock (putPending second sim)) :=
    fun _ _ => ⟨⟨rfl, rfl, rfl, rfl, rfl, rfl, rfl, rfl⟩, rfl, fun _ => rfl⟩
  have respects : ∀ one two packet, Alike one two →
      Alike (applyPendingInput one packet) (applyPendingInput two packet) :=
    fun _ _ packet alike => apply_pending_alike packet alike
  have apart : ∀ middle start, (before ++ middle ++ later).foldl applyPendingInput start =
      run applyPendingInput (run applyPendingInput (run applyPendingInput start before) middle)
        later := by
    intro middle start
    rw [← run_append, ← run_append, List.append_assoc]
    rfl
  rw [tick_after_inputs, tick_after_inputs]
  apply after_inputs_equal order
  change Alike ((before ++ (packets ++ [last]) ++ later).foldl applyPendingInput _)
    ((before ++ [mergedUnder last (packets ++ [last])] ++ later).foldl applyPendingInput _)
  rw [apart, apart]
  apply run_respects applyPendingInput Alike respects
  exact (apply_all_merged _ clientId packets last isOwn).trans (apply_pending_alike _
    (run_respects applyPendingInput Alike respects (clocks _ _) before))

/-- A client's accepted inputs and the merged one leave the same tick. -/
theorem tick_merged (order : LoopOrder) (sim : GameSimulation) (clientId : ClientId)
    (packets : List ClientInputPacket) (nonempty : packets ≠ [])
    (isOwn : ∀ packet ∈ packets, sender packet = clientId)
    (accepted : Accepted sim clientId packets) :
    (submitInput sim (merged packets nonempty)).2 = true ∧
      ∀ later, tickFixed order (submitAll sim (packets ++ later)).sim =
        tickFixed order (submitAll sim (merged packets nonempty :: later)).sim := by
  have split := List.dropLast_concat_getLast nonempty
  unfold merged
  generalize packets.getLast nonempty = last at split ⊢
  generalize packets.dropLast = early at split
  subst split
  obtain ⟨admitted, queued⟩ := submit_all_accepted sim clientId early last isOwn accepted
  have admittedMerged : admits sim (mergedUnder last (early ++ [last])) = true := admitted
  have lastOwn : sender (mergedUnder last (early ++ [last])) = clientId :=
    isOwn last (List.mem_append_right _ List.mem_cons_self)
  refine ⟨by rw [submit_input_eq, if_pos admittedMerged], fun later => ?_⟩
  obtain ⟨after, added, logs⟩ := log_run submit_logs later { sim with
    lastAcceptedSequence := sim.lastAcceptedSequence.insert clientId last.header.sequence }
  have flooded := logs (sim.pendingInputs ++ (early ++ [last]))
  have single := logs (sim.pendingInputs ++ [mergedUnder last (early ++ [last])])
  rw [submit_all_sim, submit_all_sim, run_append, run_cons, ← submit_all_sim sim, queued,
    submit_input_eq, if_pos admittedMerged, lastOwn]
  exact (congrArg (tickFixed order) flooded).trans
    ((tick_merged_queues order after clientId sim.pendingInputs early added last isOwn).trans
      (congrArg (tickFixed order) single).symm)

/-! Other clients' packets in between. -/

/-- The same packets, but the client's are merged into one. -/
structure Shortened (clientId : ClientId) (packets fewer : List ClientInputPacket)
    (nonempty : own sender clientId packets ≠ []) : Prop where
  one : own sender clientId fewer = [merged (own sender clientId packets) nonempty]
  others : ∀ other, other ≠ clientId → own sender other fewer = own sender other packets

/-- The same state and the same events, in some order. -/
def UpToOrder (first second : GameSimulation) : Prop :=
  ∃ events, second = { first with events := events } ∧ first.events.Perm events

theorem UpToOrder.trans {first second third : GameSimulation} (one : UpToOrder first second)
    (two : UpToOrder second third) : UpToOrder first third := by
  obtain ⟨_, rfl, isPerm⟩ := one
  obtain ⟨events, rfl, isLater⟩ := two
  exact ⟨events, rfl, isPerm.trans isLater⟩

theorem same_outcome_up_to_order {order : LoopOrder} {sim : GameSimulation}
    {first second : List ClientInputPacket} (same : SameOutcome order sim first second) :
    UpToOrder (tickFixed order (submitAll sim first).sim)
      (tickFixed order (submitAll sim second).sim) := by
  obtain ⟨events, state⟩ := same.state
  obtain ⟨firstWarmups, secondWarmups, later, isFirst, isSecond, isPerm, _⟩ := same.events
  refine ⟨events, state, ?_⟩
  have isEvents : events = sim.events ++ secondWarmups ++ later := by rw [← isSecond, state]
  rw [isEvents, isFirst]
  exact (isPerm.append_left _).append_right _

/-- The client's packets in front of all others. -/
def gathered (clientId : ClientId) (mine packets : List ClientInputPacket) :
    List ClientInputPacket :=
  mine ++ packets.filter fun packet => sender packet ≠ clientId

theorem own_gathered (clientId : ClientId) (mine packets : List ClientInputPacket)
    (isOwn : ∀ packet ∈ mine, sender packet = clientId) (owner : ClientId) :
    own sender owner (gathered clientId mine packets) =
      if owner = clientId then mine else own sender owner packets := by
  unfold gathered own
  rw [List.filter_append, List.filter_filter]
  by_cases isClient : owner = clientId
  · rw [if_pos isClient, isClient]
    have all : mine.filter (fun packet => sender packet = clientId) = mine :=
      List.filter_eq_self.mpr fun packet member => decide_eq_true (isOwn packet member)
    rw [all]
    simp
  · rw [if_neg isClient]
    have none : mine.filter (fun packet => sender packet = owner) = [] := by
      apply List.filter_eq_nil_iff.mpr
      intro packet member
      simp [isOwn packet member, Ne.symm isClient]
    rw [none, List.nil_append]
    apply List.filter_congr
    intro packet _
    grind

theorem answers_grow (sim : GameSimulation) (packets later : List ClientInputPacket) :
    (submitAll sim packets).answers <+: (submitAll sim (packets ++ later)).answers := by
  unfold submitAll
  rw [run_append]
  refine run_relates submitNext (fun first second => first.answers <+: second.answers)
    (fun state => List.prefix_refl state.answers) (fun one two => one.trans two) ?_ _ later
  intro state packet
  exact List.prefix_append state.answers _

theorem shortened_same (order : LoopOrder) (sim : GameSimulation) (separate : Separate sim)
    (clientId : ClientId) (packets fewer : List ClientInputPacket)
    (nonempty : own sender clientId packets ≠ [])
    (accepted : Accepted sim clientId packets)
    (shortened : Shortened clientId packets fewer nonempty) :
    UpToOrder (tickFixed order (submitAll sim packets).sim)
      (tickFixed order (submitAll sim fewer).sim) := by
  obtain ⟨one, others⟩ := shortened
  generalize isMine : own sender clientId packets = mine at nonempty one
  have mineOwn : ∀ packet ∈ mine, sender packet = clientId := by
    intro packet member
    rw [← isMine] at member
    exact of_decide_eq_true (List.mem_filter.mp member).2
  have mergedOwn : sender (merged mine nonempty) = clientId :=
    mineOwn (mine.getLast nonempty) (List.getLast_mem nonempty)
  -- The order between clients does not matter, so the client's own inputs can be gathered.
  have gather : SameOutcome order sim packets (gathered clientId mine packets) := by
    refine same_outcome order sim separate _ _ fun owner => ?_
    rw [own_gathered clientId mine packets mineOwn]
    split
    · next isClient => rw [isClient, isMine]
    · rfl
  have scatter : SameOutcome order sim
      (gathered clientId [merged mine nonempty] packets) fewer := by
    refine same_outcome order sim separate _ _ fun owner => ?_
    rw [own_gathered clientId _ packets (by simpa using mergedOwn)]
    split
    · next isClient => rw [isClient, one]
    · next isOther => rw [others owner isOther]
  have acceptedMine : Accepted sim clientId mine := by
    intro answer member
    apply accepted answer
    rw [gather.answers]
    exact List.mem_filter.mpr ⟨(answers_grow sim mine _).subset (List.mem_filter.mp member).1,
      (List.mem_filter.mp member).2⟩
  have merges := (tick_merged order sim clientId mine nonempty mineOwn acceptedMine).2
    (packets.filter fun packet => sender packet ≠ clientId)
  have gathers := same_outcome_up_to_order gather
  unfold gathered at gathers
  rw [merges] at gathers
  exact gathers.trans (same_outcome_up_to_order scatter)

/-- A client's inputs before a tick leave what the merged one leaves: exactly, where
they follow each other, and up to the order of events, where other clients' inputs
stand between them and no two clients lead to one entity. On a server no two do. -/
theorem flooding_gains_nothing :
    (∀ order sim clientId packets (nonempty : packets ≠ []),
      (∀ packet ∈ packets, sender packet = clientId) → Accepted sim clientId packets →
      (submitInput sim (merged packets nonempty)).2 = true ∧
        ∀ later, tickFixed order (submitAll sim (packets ++ later)).sim =
          tickFixed order (submitAll sim (merged packets nonempty :: later)).sim) ∧
    (∀ order sim clientId packets fewer (nonempty : own sender clientId packets ≠ []),
      Separate sim → Accepted sim clientId packets →
      Shortened clientId packets fewer nonempty →
      UpToOrder (tickFixed order (submitAll sim packets).sim)
        (tickFixed order (submitAll sim fewer).sim)) ∧
    (∀ config calls, config.mode = .serverAuthoritative →
      allocations (serverRun config calls) < 2 ^ 32 - 1 → Separate (serverRun config calls)) :=
  ⟨tick_merged,
   fun order sim clientId packets fewer nonempty separate =>
    shortened_same order sim separate clientId packets fewer nonempty,
   fun config calls server unwrapped =>
    identified_separate _ (server_run_identified config server calls unwrapped)⟩

def floodPacket (clientId : ClientId) (sequence : CommandSequence) (input : InputFrame) :
    ClientInputPacket :=
  { header := { clientId := clientId, sequence := sequence }, input := input }

/-- A client aims and then runs and shoots before one tick, with another client's
shot in between. -/
def flood : List ClientInputPacket :=
  [floodPacket 1 1 { moveX := 3, aimX := 7 }, floodPacket 2 1 { fire := true },
   floodPacket 1 2 { moveX := 9, aimX := 0, fire := true }]

/-- One input that does both. -/
def calm : List ClientInputPacket :=
  [floodPacket 2 1 { fire := true }, floodPacket 1 2 { moveX := 9, aimX := 7, fire := true }]

def twoPlayers : GameSimulation :=
  serverRun {} [.login { header := { clientId := 1 } }, .login { header := { clientId := 2 } }]

theorem flood_shortened : Shortened 1 flood calm (by decide) where
  one := by decide
  others := by
    intro other isOther
    by_cases isSecond : other = 2
    · rw [isSecond]
      decide
    · simp [own, flood, calm, floodPacket, sender, Ne.symm isOther, Ne.symm isSecond]

/-- A flood of two players, and of one client alone. -/
theorem flood_gains_nothing :
    UpToOrder (tickFixed .stored (submitAll twoPlayers flood).sim)
        (tickFixed .stored (submitAll twoPlayers calm).sim) ∧
      tickFixed .stored (submitAll twoPlayers (own sender 1 flood)).sim =
        tickFixed .stored (submitAll twoPlayers [merged (own sender 1 flood) (by decide)]).sim := by
  have separate : Separate twoPlayers := flooding_gains_nothing.2.2 {} _ rfl (by decide +kernel)
  constructor
  · exact flooding_gains_nothing.2.1 .stored _ 1 flood calm (by decide) separate
      (by unfold Accepted; decide +kernel) flood_shortened
  · have alone := flooding_gains_nothing.1 .stored twoPlayers 1 (own sender 1 flood) (by decide)
      (by decide) (by unfold Accepted; decide +kernel)
    exact alone.2 []

/-- One client aims, another that leads to the same entity aims and runs, and the
first runs. -/
def sharedFlood : List ClientInputPacket :=
  [floodPacket 1 1 { aimX := 1 }, floodPacket 2 1 { aimX := 2, moveX := -9 },
   floodPacket 1 2 { moveX := 9, aimX := 0 }]

/-- Wherever the merged input stands, it loses the other's aim or its own movement,
where two clients lead to one entity. -/
theorem shared_entity_tells_flood :
    ¬ (∀ order sim clientId packets (nonempty : own sender clientId packets ≠ []),
      Accepted sim clientId packets → ∃ fewer, Shortened clientId packets fewer nonempty ∧
        UpToOrder (tickFixed order (submitAll sim packets).sim)
          (tickFixed order (submitAll sim fewer).sim)) := by
  intro irrelevant
  obtain ⟨fewer, shortened, same⟩ := irrelevant .stored sharedEntity 1 sharedFlood (by decide)
    (by unfold Accepted; decide +kernel)
  let steered (packets : List ClientInputPacket) :=
    ((tickFixed .stored (submitAll sharedEntity packets).sim).registry.get? 0).bind fun row =>
      row.aim.bind fun aim => row.velocity.map fun velocity => (aim.x, velocity.vx)
  have tells : steered fewer = steered sharedFlood := by
    obtain ⟨events, same, _⟩ := same
    unfold steered
    rw [same]
  let mine := floodPacket 1 2 { moveX := 9, aimX := 1 }
  let other := floodPacket 2 1 { aimX := 2, moveX := -9 }
  have places : fewer = [mine, other] ∨ fewer = [other, mine] := by
    have swapped : Interleaved sender [mine, other] fewer := by
      refine interleaved_of_own _ _ fun owner => ?_
      by_cases isFirst : owner = 1
      · rw [isFirst, shortened.one]
        decide
      · rw [shortened.others owner isFirst]
        by_cases isSecond : owner = 2
        · rw [isSecond]
          decide
        · simp [own, sharedFlood, mine, other, floodPacket, sender, Ne.symm isFirst,
            Ne.symm isSecond]
    have isPerm := List.mem_permutations.mpr swapped.perm.symm
    simpa [List.permutations] using isPerm
  rcases places with rfl | rfl
  · exact absurd tells (by decide +kernel)
  · exact absurd tells (by decide +kernel)

end Brawololo.InputFlooding
