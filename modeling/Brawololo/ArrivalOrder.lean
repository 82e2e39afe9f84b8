import Brawololo.Interleavings
import Brawololo.EntityIdentity

/-!
The order in which the packets of different clients arrive before a tick. Each
client's packets meet only its own sequence number, and the tick applies them
to its own entity, so two orders that keep every client's own order end in one
state. Only the warmups the inputs start are queued in the order of arrival.
-/

namespace Brawololo.ArrivalOrder

open GameTypes EntityStore Simulation Simulation.GameSimulation SimulationStages Runs
open Interleavings EntityIdentity SimulationSnapshots

def sender (packet : ClientInputPacket) : ClientId := packet.header.clientId

/-- A simulation and what it has answered, with each answer its packet. -/
structure Submissions where
  sim : GameSimulation
  answers : List (ClientInputPacket × Bool) := []

def submitNext (state : Submissions) (packet : ClientInputPacket) : Submissions where
  sim := (submitInput state.sim packet).1
  answers := state.answers ++ [(packet, (submitInput state.sim packet).2)]

def submitAll (sim : GameSimulation) (packets : List ClientInputPacket) : Submissions :=
  run submitNext { sim := sim } packets

/-- The client an answer goes to. -/
def answered (answer : ClientInputPacket × Bool) : ClientId := sender answer.1

/-- No two clients have their inputs applied to one entity. -/
def Separate (sim : GameSimulation) : Prop :=
  ∀ left right entity, sim.inputTarget left = some entity → sim.inputTarget right = some entity →
    left = right

/-- Two orders of arrival get the same answers and end in the same state, up to
the order of the warmups their inputs start. -/
structure SameOutcome (order : LoopOrder) (sim : GameSimulation)
    (first second : List ClientInputPacket) : Prop where
  answers : ∀ clientId, own answered clientId (submitAll sim first).answers =
    own answered clientId (submitAll sim second).answers
  state : ∃ events, tickFixed order (submitAll sim second).sim =
    { tickFixed order (submitAll sim first).sim with events := events }
  events : ∃ firstWarmups secondWarmups later,
    (tickFixed order (submitAll sim first).sim).events = sim.events ++ firstWarmups ++ later ∧
    (tickFixed order (submitAll sim second).sim).events = sim.events ++ secondWarmups ++ later ∧
    firstWarmups.Perm secondWarmups ∧
    ∀ event ∈ firstWarmups, ∃ warmup, event = .weaponWarmupStarted warmup

/-! Submitting. -/

/-- The packet is of a player and newer than all that were accepted. -/
def admits (sim : GameSimulation) (packet : ClientInputPacket) : Bool :=
  sim.playerByClient[sender packet]?.isSome &&
    !sim.lastAcceptedSequence[sender packet]?.any (packet.header.sequence ≤ ·)

theorem submit_input_eq (sim : GameSimulation) (packet : ClientInputPacket) :
    submitInput sim packet =
      if admits sim packet then
        ({ sim with
           lastAcceptedSequence :=
             sim.lastAcceptedSequence.insert (sender packet) packet.header.sequence
           pendingInputs := sim.pendingInputs ++ [packet] }, true)
      else (sim, false) := by
  unfold submitInput admits sender
  dsimp only
  cases sim.playerByClient[packet.header.clientId]? with
  | none => simp
  | some _ =>
      cases newer : sim.lastAcceptedSequence[packet.header.clientId]?.any
          (packet.header.sequence ≤ ·) <;> simp

/-- An accepted packet says nothing about the next packet of another client. -/
theorem admits_insert (sim : GameSimulation) (left right : ClientInputPacket)
    (apart : sender left ≠ sender right) (pending : List ClientInputPacket) :
    admits { sim with
      lastAcceptedSequence :=
        sim.lastAcceptedSequence.insert (sender left) left.header.sequence
      pendingInputs := pending } right = admits sim right := by
  simp [admits, get_insert, apart]

/-- The two have answered alike, and their queues differ by the order of arrival. -/
structure SameSubmissions (first second : Submissions) : Prop where
  sim : second.sim = { first.sim with pendingInputs := second.sim.pendingInputs }
  pending : Interleaved sender first.sim.pendingInputs second.sim.pendingInputs
  answers : Interleaved answered first.answers second.answers

theorem SameSubmissions.refl (state : Submissions) : SameSubmissions state state :=
  ⟨rfl, .refl _, .refl _⟩

theorem SameSubmissions.trans {first second third : Submissions}
    (one : SameSubmissions first second) (two : SameSubmissions second third) :
    SameSubmissions first third := by
  refine ⟨?_, one.pending.trans two.pending, one.answers.trans two.answers⟩
  rw [two.sim, one.sim]

theorem submit_next_respects (first second : Submissions) (packet : ClientInputPacket)
    (alike : SameSubmissions first second) :
    SameSubmissions (submitNext first packet) (submitNext second packet) := by
  obtain ⟨sim, answers⟩ := first
  obtain ⟨other, otherAnswers⟩ := second
  obtain ⟨isOther, pending, told⟩ := alike
  dsimp only at isOther pending told
  have admitted : admits other packet = admits sim packet := by rw [isOther]; rfl
  unfold submitNext
  simp only [submit_input_eq, admitted]
  cases admits sim packet with
  | true => exact ⟨by rw [isOther]; rfl, pending.append_right [packet], told.append_right _⟩
  | false => exact ⟨isOther, pending, told.append_right _⟩

theorem submit_next_commutes (state : Submissions) (left right : ClientInputPacket)
    (apart : sender left ≠ sender right) :
    SameSubmissions (submitNext (submitNext state left) right)
      (submitNext (submitNext state right) left) := by
  obtain ⟨sim, answers⟩ := state
  have swapped (leftAnswer rightAnswer : Bool) :
      Interleaved answered (answers ++ [(left, leftAnswer)] ++ [(right, rightAnswer)])
        (answers ++ [(right, rightAnswer)] ++ [(left, leftAnswer)]) := by
    simp only [List.append_assoc]
    exact .append_left answers (.swap _ _ [] apart)
  unfold submitNext
  simp only [submit_input_eq]
  cases mine : admits sim left with
  | true =>
      cases yours : admits sim right with
      | true =>
          simp only [if_true, admits_insert sim left right apart,
            admits_insert sim right left (Ne.symm apart), mine, yours]
          refine ⟨?_, ?_, swapped true true⟩
          · simp only [insert_comm sim.lastAcceptedSequence apart]
          · simp only [List.append_assoc]
            exact .append_left sim.pendingInputs (.swap left right [] apart)
      | false =>
          simp only [if_true, Bool.false_eq_true, if_false, admits_insert sim left right apart,
            mine, yours]
          exact ⟨rfl, .refl _, swapped true false⟩
  | false =>
      cases yours : admits sim right with
      | true =>
          simp only [if_true, Bool.false_eq_true, if_false,
            admits_insert sim right left (Ne.symm apart), mine, yours]
          exact ⟨rfl, .refl _, swapped false true⟩
      | false =>
          simp only [Bool.false_eq_true, if_false, mine, yours]
          exact ⟨rfl, .refl _, swapped false false⟩

theorem submit_all_alike (sim : GameSimulation) {first second : List ClientInputPacket}
    (same : Interleaved sender first second) :
    SameSubmissions (submitAll sim first) (submitAll sim second) :=
  run_interleaved submitNext (fun _ => True) SameSubmissions (fun _ _ _ => trivial)
    SameSubmissions.refl SameSubmissions.trans submit_next_respects
    (fun state left right _ => submit_next_commutes state left right) same _ _ trivial
    (SameSubmissions.refl _)

/-! Applying the inputs. -/

/-- The same state, with the same events in some order and any pending inputs. -/
def SameBesidesQueues (first second : GameSimulation) : Prop :=
  ∃ events pending, second = { first with events := events, pendingInputs := pending } ∧
    first.events.Perm events

theorem SameBesidesQueues.refl (sim : GameSimulation) : SameBesidesQueues sim sim :=
  ⟨sim.events, sim.pendingInputs, rfl, .refl _⟩

theorem SameBesidesQueues.trans {first second third : GameSimulation}
    (one : SameBesidesQueues first second) (two : SameBesidesQueues second third) :
    SameBesidesQueues first third := by
  obtain ⟨_, _, rfl, isPerm⟩ := one
  obtain ⟨events, pending, rfl, isLater⟩ := two
  exact ⟨events, pending, rfl, isPerm.trans isLater⟩

section Updates

variable (sim : GameSimulation) (update : Components → Components × EventList)

theorem update_entity_respects (entity : Entity) {first second : GameSimulation}
    (alike : SameBesidesQueues first second) :
    SameBesidesQueues (first.updateEntity update entity) (second.updateEntity update entity) := by
  have rows : second.registry = first.registry := by
    obtain ⟨events, pending, rfl, _⟩ := alike
    rfl
  cases present : first.registry.get? entity with
  | none =>
      rw [update_absent first update present, update_absent second update (rows ▸ present)]
      exact alike
  | some row =>
      rw [update_present first update present, update_present second update (rows ▸ present)]
      obtain ⟨events, pending, rfl, isPerm⟩ := alike
      exact ⟨events ++ (update row).2, pending, rfl, isPerm.append_right _⟩

theorem update_entities_commute {left right : Entity} (apart : left ≠ right)
    (other : Components → Components × EventList) :
    SameBesidesQueues ((sim.updateEntity update left).updateEntity other right)
      ((sim.updateEntity other right).updateEntity update left) := by
  have rightKept := update_entity_row update sim left right
  have leftKept := update_entity_row other sim right left
  rw [if_neg (Ne.symm apart)] at rightKept
  rw [if_neg apart] at leftKept
  cases isLeft : sim.registry.get? left with
  | none =>
      rw [update_absent sim update isLeft, update_absent _ update (leftKept.trans isLeft)]
      exact SameBesidesQueues.refl _
  | some leftRow =>
      cases isRight : sim.registry.get? right with
      | none =>
          rw [update_absent sim other isRight, update_absent _ other (rightKept.trans isRight)]
          exact SameBesidesQueues.refl _
      | some rightRow =>
          rw [update_present _ other (rightKept.trans isRight),
            update_present _ update (leftKept.trans isLeft), update_present sim other isRight,
            update_present sim update isLeft]
          refine ⟨sim.events ++ (other rightRow).2 ++ (update leftRow).2, sim.pendingInputs, ?_, ?_⟩
          · simp only [Registry.modify_comm sim.registry apart]
          · simp only [List.append_assoc]
            exact List.Perm.append_left sim.events List.perm_append_comm

end Updates

theorem apply_pending_respects (first second : GameSimulation) (packet : ClientInputPacket)
    (alike : SameBesidesQueues first second) :
    SameBesidesQueues (applyPendingInput first packet) (applyPendingInput second packet) := by
  have target : second.inputTarget packet.header.clientId =
      first.inputTarget packet.header.clientId := by
    obtain ⟨events, pending, rfl, _⟩ := alike
    rfl
  have clock : second.config = first.config ∧ second.timeMs = first.timeMs := by
    obtain ⟨events, pending, rfl, _⟩ := alike
    exact ⟨rfl, rfl⟩
  unfold applyPendingInput
  rw [target, clock.1, clock.2]
  cases first.inputTarget packet.header.clientId with
  | none => exact alike
  | some entity => exact update_entity_respects _ entity alike

/-- Inputs of clients with different entities may be applied in either order. -/
theorem apply_pending_commutes (sim : GameSimulation) (left right : ClientInputPacket)
    (separate : Separate sim) (apart : sender left ≠ sender right) :
    SameBesidesQueues (applyPendingInput (applyPendingInput sim left) right)
      (applyPendingInput (applyPendingInput sim right) left) := by
  have leftTables := apply_pending_tables sim left
  have rightTables := apply_pending_tables sim right
  rw [applyPendingInput.eq_def (applyPendingInput sim left), leftTables.inputTarget,
    leftTables.config, leftTables.timeMs, applyPendingInput.eq_def (applyPendingInput sim right),
    rightTables.inputTarget, rightTables.config, rightTables.timeMs]
  unfold applyPendingInput
  cases isLeft : sim.inputTarget left.header.clientId with
  | none => exact SameBesidesQueues.refl _
  | some leftEntity =>
      cases isRight : sim.inputTarget right.header.clientId with
      | none => exact SameBesidesQueues.refl _
      | some rightEntity =>
          have entitiesApart : leftEntity ≠ rightEntity := by
            rintro rfl
            exact apart (separate _ _ _ isLeft isRight)
          exact update_entities_commute sim _ entitiesApart _

theorem separate_of_tables {before after : GameSimulation} (tables : SameTables before after)
    (separate : Separate before) : Separate after := by
  intro left right entity isLeft isRight
  rw [tables.inputTarget] at isLeft isRight
  exact separate left right entity isLeft isRight

/-- Queues in two orders of arrival are applied to the same end. -/
theorem apply_all_alike (sim other : GameSimulation) (separate : Separate sim)
    (alike : SameBesidesQueues sim other) {first second : List ClientInputPacket}
    (same : Interleaved sender first second) :
    SameBesidesQueues (first.foldl applyPendingInput sim) (second.foldl applyPendingInput other) :=
  run_interleaved applyPendingInput Separate SameBesidesQueues
    (fun sim packet => separate_of_tables (apply_pending_tables sim packet))
    SameBesidesQueues.refl SameBesidesQueues.trans apply_pending_respects apply_pending_commutes
    same sim other separate alike

theorem apply_all_queues (packets : List ClientInputPacket) (sim : GameSimulation) :
    QueuesOnly (fun event => ∃ warmup, event = .weaponWarmupStarted warmup) sim
      (packets.foldl applyPendingInput sim) := by
  apply Runs.run_relates _ (QueuesOnly _) QueuesOnly.refl QueuesOnly.trans
  intro sim packet
  unfold applyPendingInput
  split
  · exact QueuesOnly.refl sim
  · exact update_entity_queues _ _ sim _ fun row event queued =>
      apply_input_events _ _ packet row event queued

/-! The stages behind the inputs read nothing of the events. -/

def putEvents (events : EventList) (sim : GameSimulation) : GameSimulation :=
  { sim with events := events }

/-- The same beside the list of entities the loop over the projectiles fills. -/
def putLoopEvents (events : EventList) (state : GameSimulation × List Entity) :
    GameSimulation × List Entity :=
  (putEvents events state.1, state.2)

section Stages

variable (update : Components → Components × EventList) (entity : Entity)

theorem update_entity_logs : AppendsToLog putEvents fun sim => sim.updateEntity update entity := by
  intro sim
  cases present : sim.registry.get? entity with
  | none =>
      refine ⟨sim, [], fun events => ?_⟩
      rw [List.append_nil]
      exact update_absent (putEvents events sim) update present
  | some row =>
      refine ⟨{ sim with registry := sim.registry.modify entity fun row => (update row).1 },
        (update row).2, fun events => ?_⟩
      exact update_present (putEvents events sim) update present

theorem for_each_logs (order : LoopOrder) (site : LoopSite) (holds : Components → Bool) :
    AppendsToLog putEvents fun sim => sim.forEachEntity order site holds update :=
  fun sim => log_run (fun entity => update_entity_logs update entity)
    (sim.registry.view order site holds) sim

theorem create_projectile_logs (request : ProjectileRequest) :
    AppendsToLog putEvents fun sim => createProjectile sim request :=
  fun sim => ⟨createProjectile sim request,
    [.projectileSpawned { projectileId := sim.nextNetworkId, ownerId := request.ownerId,
                          x := request.transform.x, y := request.transform.y,
                          sourceWeapon := request.weapon.type }], fun _ => rfl⟩

theorem destroy_projectile_logs :
    AppendsToLog putEvents fun sim => destroyProjectile sim entity := by
  intro sim
  refine ⟨destroyProjectile sim entity, [], fun events => ?_⟩
  have sameRow : (putEvents events sim).registry.get? entity = sim.registry.get? entity := rfl
  rw [List.append_nil]
  unfold destroyProjectile
  dsimp only
  rw [sameRow]
  cases (sim.registry.get? entity).bind fun row => row.identity <;> rfl

/-- The turn of an entity that flies a projectile. -/
theorem process_projectile_eq (targets : List Entity) (sim : GameSimulation)
    (toDestroy : List Entity) {row : Components} {identity : NetworkIdentityComponent}
    {projectile : ProjectileComponent} {transform : TransformComponent}
    (present : sim.registry.get? entity = some row)
    (named : (fly sim.config row).identity = some identity)
    (carries : (fly sim.config row).projectile = some projectile)
    (placed : (fly sim.config row).transform = some transform) :
    processProjectile targets (sim, toDestroy) entity =
      (let moved := sim.updateEntity (fun row => (fly sim.config row, [])) entity
       if projectileGone sim.config sim.timeMs projectile transform then
         (moved, toDestroy ++ [entity])
       else
         match targets.find? fun target =>
             (moved.registry.get? target).any (hits projectile transform) with
         | none => (moved, toDestroy)
         | some target =>
             (moved.updateEntity
               (damagePlayer sim.config sim.timeMs identity.id projectile) target,
              toDestroy ++ [entity])) := by
  unfold processProjectile
  dsimp only
  rewrite [present]
  dsimp only
  rewrite [named, carries, placed]
  rfl

/-- A turn of the loop over the projectiles sees the rows of the state only. -/
theorem process_projectile_logs (targets : List Entity) :
    AppendsToLog putLoopEvents fun state => processProjectile targets state entity := by
  rintro ⟨sim, toDestroy⟩
  have skipped (skips : ∀ events, processProjectile targets (putEvents events sim, toDestroy)
      entity = (putEvents events sim, toDestroy)) :
      ∃ after added, ∀ events, processProjectile targets (putEvents events sim, toDestroy)
        entity = putLoopEvents (events ++ added) after :=
    ⟨(sim, toDestroy), [], fun events => by rw [skips, List.append_nil]; rfl⟩
  obtain ⟨moved, flight, flies⟩ :=
    update_entity_logs (fun row => (fly sim.config row, [])) entity sim
  -- The loop leaves an entity alone that is not a complete projectile.
  cases present : sim.registry.get? entity with
  | none => exact skipped fun events => by simp [processProjectile, putEvents, present]
  | some row =>
    cases named : (fly sim.config row).identity with
    | none => exact skipped fun events => by simp [processProjectile, putEvents, present, named]
    | some identity =>
      cases carries : (fly sim.config row).projectile with
      | none => exact skipped fun events => by simp [processProjectile, putEvents, present, carries]
      | some projectile =>
        cases placed : (fly sim.config row).transform with
        | none => exact skipped fun events => by simp [processProjectile, putEvents, present, placed]
        | some transform =>
          have turn (events : EventList) := process_projectile_eq entity targets
            (putEvents events sim) toDestroy present named carries placed
          have lifts (events : EventList) : (putEvents events sim).updateEntity
              (fun row => (fly (putEvents events sim).config row, [])) entity =
              putEvents (events ++ flight) moved := flies events
          simp only [lifts] at turn
          cases leaves : projectileGone sim.config sim.timeMs projectile transform with
          | true =>
              refine ⟨(moved, toDestroy ++ [entity]), flight, fun events => (turn events).trans ?_⟩
              simp only [putEvents, leaves, if_true]
              rfl
          | false =>
              cases struck : targets.find? fun target =>
                  (moved.registry.get? target).any (hits projectile transform) with
              | none =>
                  refine ⟨(moved, toDestroy), flight, fun events => (turn events).trans ?_⟩
                  simp only [putEvents, leaves, Bool.false_eq_true, if_false, struck]
                  rfl
              | some target =>
                  obtain ⟨damaged, hit, damages⟩ := update_entity_logs
                    (damagePlayer sim.config sim.timeMs identity.id projectile) target moved
                  refine ⟨(damaged, toDestroy ++ [entity]), flight ++ hit,
                    fun events => (turn events).trans ?_⟩
                  simp only [putEvents, leaves, Bool.false_eq_true, if_false, struck]
                  exact congrArg (·, toDestroy ++ [entity])
                    ((damages (events ++ flight)).trans (by rw [List.append_assoc]))

end Stages

theorem warmups_log (order : LoopOrder) :
    AppendsToLog putEvents fun sim => processWeaponWarmups order sim :=
  fun sim => (for_each_logs (finishWarmup sim.config sim.timeMs) order .weaponWarmups
    inWarmupView).comp (log_run create_projectile_logs
      ((sim.registry.view order .weaponWarmups inWarmupView).filterMap fun entity =>
        (sim.registry.get? entity).bind (projectileRequest sim.config sim.timeMs))) sim

theorem projectiles_log (order : LoopOrder) :
    AppendsToLog putEvents fun sim => processProjectiles order sim := by
  intro sim
  obtain ⟨⟨flown, toDestroy⟩, added, flies⟩ := log_run
    (fun entity => process_projectile_logs entity
      (sim.registry.view order .projectileTargets inTargetView))
    (sim.registry.view order .projectiles inProjectileView) (sim, [])
  obtain ⟨after, gone, destroys⟩ := log_run destroy_projectile_logs toDestroy flown
  refine ⟨after, added ++ gone, fun events => ?_⟩
  have rest := destroys (events ++ added)
  rw [List.append_assoc] at rest
  rw [← rest]
  exact congrArg (fun state : GameSimulation × List Entity =>
    state.2.foldl destroyProjectile state.1) (flies events)

theorem after_inputs_log (order : LoopOrder) :
    AppendsToLog putEvents fun sim => afterInputs order sim := by
  intro sim
  have moves := for_each_logs (integrateMovement sim.config) order .integrateMovement
    (fun row => row.player.isSome)
  have clears : AppendsToLog putEvents fun sim : GameSimulation =>
      { sim with registry := sim.registry.mapRows clearIntent } :=
    fun sim => ⟨{ sim with registry := sim.registry.mapRows clearIntent }, [], fun events => by
      rw [List.append_nil]; rfl⟩
  have respawns : AppendsToLog putEvents fun sim => processRespawns order sim :=
    fun sim => for_each_logs (respawnPlayer sim.config sim.timeMs) order .respawns inRespawnView sim
  exact ((((moves.comp clears).comp (warmups_log order)).comp (projectiles_log order)).comp
    respawns) { sim with pendingInputs := [] }

/-! Two orders of arrival. -/

/-- A tick ends alike for two queues that differ by the order of arrival. -/
theorem tick_alike (order : LoopOrder) (early : GameSimulation) (separate : Separate early)
    (queue : List ClientInputPacket) (same : Interleaved sender early.pendingInputs queue) :
    ∃ after firstWarmups secondWarmups later,
      tickFixed order early = putEvents (early.events ++ firstWarmups ++ later) after ∧
      tickFixed order { early with pendingInputs := queue } =
        putEvents (early.events ++ secondWarmups ++ later) after ∧
      firstWarmups.Perm secondWarmups ∧
      ∀ event ∈ firstWarmups, ∃ warmup, event = .weaponWarmupStarted warmup := by
  have clocks : SameBesidesQueues (advanceClock early)
      (advanceClock { early with pendingInputs := queue }) := ⟨early.events, queue, rfl, .refl _⟩
  have applied := apply_all_alike (advanceClock early) _ separate clocks same
  obtain ⟨firstWarmups, firstQueued, areWarmups⟩ :=
    apply_all_queues early.pendingInputs (advanceClock early)
  obtain ⟨secondWarmups, secondQueued, _⟩ :=
    apply_all_queues queue (advanceClock { early with pendingInputs := queue })
  have firstTick := tick_after_inputs order early
  have secondTick := tick_after_inputs order { early with pendingInputs := queue }
  dsimp only at secondTick
  generalize early.pendingInputs.foldl applyPendingInput (advanceClock early) = first at *
  generalize queue.foldl applyPendingInput
    (advanceClock { early with pendingInputs := queue }) = second at *
  obtain ⟨events, pending, rfl, isPerm⟩ := applied
  obtain ⟨after, later, logs⟩ := after_inputs_log order first
  have isFirst : first.events = early.events ++ firstWarmups := firstQueued
  have isSecond : events = early.events ++ secondWarmups := secondQueued
  refine ⟨after, firstWarmups, secondWarmups, later, ?_, ?_, ?_, areWarmups⟩
  · rw [firstTick, ← isFirst]
    exact logs first.events
  · rw [secondTick, ← isSecond]
    exact logs events
  · rw [isFirst, isSecond] at isPerm
    exact (List.perm_append_left_iff early.events).mp isPerm

/-- Submitting queues packets and queues no event. -/
theorem submit_all_keeps (sim : GameSimulation) (separate : Separate sim)
    (packets : List ClientInputPacket) :
    (submitAll sim packets).sim.events = sim.events ∧ Separate (submitAll sim packets).sim := by
  apply run_invariant submitNext
    fun state => state.sim.events = sim.events ∧ Separate state.sim
  · intro state packet kept
    unfold submitNext
    rw [submit_input_eq]
    cases admits state.sim packet with
    | true => exact kept
    | false => exact kept
  · exact ⟨rfl, separate⟩

theorem same_outcome (order : LoopOrder) (sim : GameSimulation) (separate : Separate sim)
    (first second : List ClientInputPacket)
    (same : ∀ clientId, own sender clientId first = own sender clientId second) :
    SameOutcome order sim first second := by
  have alike := submit_all_alike sim (interleaved_of_own first second same)
  obtain ⟨kept, keptSeparate⟩ := submit_all_keeps sim separate first
  obtain ⟨after, firstWarmups, secondWarmups, later, firstTick, secondTick, isPerm, areWarmups⟩ :=
    tick_alike order _ keptSeparate _ alike.pending
  rw [← alike.sim, kept] at secondTick
  rw [kept] at firstTick
  refine ⟨alike.answers.own, ⟨sim.events ++ secondWarmups ++ later, ?_⟩,
    firstWarmups, secondWarmups, later, ?_, ?_, isPerm, areWarmups⟩
  · rw [secondTick, firstTick]
    rfl
  · rw [firstTick]
    rfl
  · rw [secondTick]
    rfl

/-- On a server a client's inputs go to the entity that carries its player. -/
theorem identified_separate (sim : GameSimulation) (identified : Identified sim) :
    Separate sim := by
  have target : ∀ clientId entity, sim.inputTarget clientId = some entity →
      ∃ row player, sim.registry.get? entity = some row ∧ row.player = some player ∧
        player.clientId = clientId := by
    intro clientId entity leads
    obtain ⟨id, entry, lists⟩ := Option.bind_eq_some_iff.mp leads
    obtain ⟨placed, row, player, isId, present, plays, isClient, _⟩ :=
      identified.placed clientId id entry
    have listed := (identified.listed id placed).mpr ⟨isId, row, present⟩
    have sameEntity : placed = entity := Option.some.inj (listed.symm.trans lists)
    exact ⟨row, player, sameEntity ▸ present, plays, isClient⟩
  intro left right entity isLeft isRight
  obtain ⟨row, player, present, plays, isClient⟩ := target left entity isLeft
  obtain ⟨other, otherPlayer, found, otherPlays, isOther⟩ := target right entity isRight
  have sameRow : row = other := Option.some.inj (present.symm.trans found)
  subst sameRow
  have samePlayer : player = otherPlayer := Option.some.inj (plays.symm.trans otherPlays)
  rw [← isClient, ← isOther, samePlayer]

/-- Where no two clients lead to one entity, the order of arrival changes at most
the order of the warmups; on a server no two clients do. -/
theorem arrival_order_irrelevant :
    (∀ order sim first second, Separate sim →
      (∀ clientId, own sender clientId first = own sender clientId second) →
      SameOutcome order sim first second) ∧
    (∀ config calls, config.mode = .serverAuthoritative →
      allocations (serverRun config calls) < 2 ^ 32 - 1 → Separate (serverRun config calls)) :=
  ⟨fun order sim first second separate same => same_outcome order sim separate first second same,
   fun config calls server unwrapped =>
    identified_separate _ (server_run_identified config server calls unwrapped)⟩

def shotBy (clientId : ClientId) : ClientInputPacket :=
  { header := { clientId := clientId, sequence := 1 }, input := { fire := true } }

/-- Two players that shoot before one tick, in either order. -/
theorem two_shots_in_either_order :
    SameOutcome .stored
      (serverRun {} [.login { header := { clientId := 1 } }, .login { header := { clientId := 2 } }])
      [shotBy 1, shotBy 2] [shotBy 2, shotBy 1] := by
  have separate : Separate (serverRun {}
      [.login { header := { clientId := 1 } }, .login { header := { clientId := 2 } }]) :=
    arrival_order_irrelevant.2 {} _ rfl (by decide +kernel)
  have swapped : Interleaved sender [shotBy 1, shotBy 2] [shotBy 2, shotBy 1] :=
    .swap (shotBy 1) (shotBy 2) [] (by decide)
  exact arrival_order_irrelevant.1 .stored _ _ _ separate swapped.own

/-- A snapshot with one player entity. -/
def playerSnapshot (snapshotId : SnapshotId) (owner : ClientId) : SnapshotDTO :=
  { snapshotId := snapshotId
    entities := [{ movement := { entityId := { value := 1 } }
                   replication := { entityId := { value := 1 }, ownerClientId := owner } }] }

/-- A client's simulation after two snapshots that give one entity two owners. -/
def sharedEntity : GameSimulation :=
  applySnapshot .stored (applySnapshot .stored { config := { mode := .clientPrediction } }
    (playerSnapshot 1 1) 1) (playerSnapshot 2 2) 1

def aimBy (clientId : ClientId) (aimX : Int16) : ClientInputPacket :=
  { header := { clientId := clientId, sequence := 1 }, input := { aimX := aimX } }

/-- The aim that arrives last stays, where two clients lead to one entity. -/
theorem shared_entity_tells_order :
    ¬ (∀ order sim first second,
      (∀ clientId, own sender clientId first = own sender clientId second) →
      SameOutcome order sim first second) := by
  intro irrelevant
  have swapped : Interleaved sender [aimBy 1 1, aimBy 2 2] [aimBy 2 2, aimBy 1 1] :=
    .swap (aimBy 1 1) (aimBy 2 2) [] (by decide)
  obtain ⟨events, state⟩ := (irrelevant .stored sharedEntity _ _ swapped.own).state
  have aims := congrArg (fun sim : GameSimulation =>
    ((sim.registry.get? 0).bind fun row => row.aim).map fun aim => aim.x) state
  have firstAim : (((tickFixed .stored (submitAll sharedEntity
      [aimBy 1 1, aimBy 2 2]).sim).registry.get? 0).bind fun row => row.aim).map
      (fun aim => aim.x) = some 2 := by decide +kernel
  have secondAim : (((tickFixed .stored (submitAll sharedEntity
      [aimBy 2 2, aimBy 1 1]).sim).registry.get? 0).bind fun row => row.aim).map
      (fun aim => aim.x) = some 1 := by decide +kernel
  dsimp only at aims
  rw [firstAim, secondAim] at aims
  exact absurd aims (by decide)

end Brawololo.ArrivalOrder
