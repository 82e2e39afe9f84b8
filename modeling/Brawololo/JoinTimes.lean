import Brawololo.ClientViewFrames
import Brawololo.RenderBrackets
import Brawololo.SimulationStages

/-!
Two runs of one client against a server that had been running longer in the
second. Sampled at times that are later by as much, the presentations of both
are alike. The view samples both at the clock of the client's simulation, which
only its own ticks advance, so they are alike only where that makes no
difference.
-/

namespace Brawololo.JoinTimes

open GameTypes EntityStore Simulation SimulationStages Client RenderBrackets

/-! Two runs. -/

/-- The combat states, which hold times of the server, may differ. -/
structure SameEntity (first second : EntityStateDTO) : Prop where
  movement : second.movement = first.movement
  replication : second.replication = first.replication

structure LaterBy (D : Nat) (first second : SnapshotDTO) : Prop where
  snapshotId : second.snapshotId = first.snapshotId
  serverTimeMs : second.serverTimeMs.toNat = first.serverTimeMs.toNat + D
  entities : List.Forall₂ SameEntity first.entities second.entities

structure SampleLaterBy (D : Nat) (first second : TimeSyncSample) : Prop where
  clientSentAtMs : second.clientSentAtMs = first.clientSentAtMs
  serverReceivedAtMs : second.serverReceivedAtMs.toNat = first.serverReceivedAtMs.toNat + D
  clientReceivedAtMs : second.clientReceivedAtMs = first.clientReceivedAtMs

/-- The same call, with every time of the server later by `D`. -/
inductive CallLaterBy (D : Nat) : ClientCall → ClientCall → Prop where
  | connectLocal (localTimeMs : TimestampMs) :
      CallLaterBy D (.connectLocal localTimeMs) (.connectLocal localTimeMs)
  | queueInput (input : InputFrame) (localTimeMs : TimestampMs) :
      CallLaterBy D (.queueInput input localTimeMs) (.queueInput input localTimeMs)
  | tickSimulation (order : LoopOrder) :
      CallLaterBy D (.tickSimulation order) (.tickSimulation order)
  | applyServerSnapshot (order : LoopOrder) {first second : SnapshotDTO}
      (later : LaterBy D first second) :
      CallLaterBy D (.applyServerSnapshot order first) (.applyServerSnapshot order second)
  | recordTimeSyncSample {first second : TimeSyncSample} (later : SampleLaterBy D first second) :
      CallLaterBy D (.recordTimeSyncSample first) (.recordTimeSyncSample second)
  | drainEvents : CallLaterBy D .drainEvents .drainEvents

/-- The clock of a simulation is the time of its own ticks. -/
def clockStep (config : SimulationConfig) (timeMs : TimestampMs) : ClientCall → TimestampMs
  | .tickSimulation _ => timeMs + config.tickDurationMs
  | _ => timeMs

def clientClock (config : SimulationConfig) (calls : List ClientCall) : TimestampMs :=
  Runs.run (clockStep config) 0 calls

def snapshotOf : ClientCall → Option SnapshotDTO
  | .applyServerSnapshot _ snapshot => some snapshot
  | _ => none

/-! What is asked of their frames. -/

structure SamePlace (first second : InterpolatedEntityState) : Prop where
  entityId : second.entityId = first.entityId
  x : second.x = first.x
  y : second.y = first.y
  aimX : second.aimX = first.aimX
  aimY : second.aimY = first.aimY

structure Alike (first second : PresentationFrame) : Prop where
  fromSnapshotId : second.fromSnapshotId = first.fromSnapshotId
  toSnapshotId : second.toSnapshotId = first.toSnapshotId
  alphaPermille : second.alphaPermille = first.alphaPermille
  entities : List.Forall₂ SamePlace first.entities second.entities

/-- Both frames are past the start, with a render time above 0. -/
def Started (first second : PresentationFrame) : Prop :=
  0 < first.renderServerTimeMs ∧ 0 < second.renderServerTimeMs

def RendersLaterBy (D : Nat) (first second : PresentationFrame) : Prop :=
  second.renderServerTimeMs.toNat = first.renderServerTimeMs.toNat + D

/-! Sampling at times that are later by as much. -/

section Sampling

variable {D : Nat} {first second : SnapshotDTO}

structure FoundLaterBy (D : Nat) (first second : BufferedSnapshot) : Prop where
  place : second.place = first.place
  snapshot : LaterBy D first.snapshot second.snapshot

theorem passes_iff (later : LaterBy D first second) {time time' : TimestampMs}
    (timeLater : time'.toNat = time.toNat + D) :
    second.serverTimeMs ≤ time' ↔ first.serverTimeMs ≤ time := by
  have serverLater := later.serverTimeMs
  rw [UInt64.le_iff_toNat_le, UInt64.le_iff_toNat_le]
  omega

theorem scan_later {snapshots snapshots' : List SnapshotDTO}
    (related : List.Forall₂ (LaterBy D) snapshots snapshots') {time time' : TimestampMs}
    (timeLater : time'.toNat = time.toNat + D) (source source' : Option BufferedSnapshot)
    (sources : Option.Rel (FoundLaterBy D) source source') (place : Nat) :
    Option.Rel (FoundLaterBy D) (scan time source place snapshots).1
        (scan time' source' place snapshots').1 ∧
      Option.Rel (FoundLaterBy D) (scan time source place snapshots).2
        (scan time' source' place snapshots').2 := by
  induction related generalizing source source' place with
  | nil => exact ⟨sources, Option.Rel.none⟩
  | @cons first second _ _ later _ ih =>
      have passes := passes_iff later timeLater
      have here : FoundLaterBy D { place := place, snapshot := first }
          { place := place, snapshot := second } := ⟨rfl, later⟩
      rw [scan, scan]
      split
      · next inTime =>
          rw [if_pos (passes.mpr inTime)]
          exact ih _ _ (Option.Rel.some here) _
      · next tooLate =>
          rw [if_neg (mt passes.mp tooLate)]
          exact ⟨sources, Option.Rel.some here⟩

theorem get_later {found found' : Option BufferedSnapshot} {other other' : BufferedSnapshot}
    (related : Option.Rel (FoundLaterBy D) found found') (others : FoundLaterBy D other other') :
    FoundLaterBy D (found.getD other) (found'.getD other') := by
  cases related with
  | none => exact others
  | some related => exact related

theorem difference_later {early late early' late' : TimestampMs} (ordered : early ≤ late)
    (earlyLater : early'.toNat = early.toNat + D) (lateLater : late'.toNat = late.toNat + D) :
    late' - early' = late - early := by
  have order := UInt64.le_iff_toNat_le.mp ordered
  have ordered' : early' ≤ late' := UInt64.le_iff_toNat_le.mpr (by omega)
  apply UInt64.toNat_inj.mp
  rw [UInt64.toNat_sub_of_le _ _ ordered', UInt64.toNat_sub_of_le _ _ ordered]
  omega

theorem alpha_later {source source' target target' : SnapshotDTO}
    (sourceLater : LaterBy D source source') (targetLater : LaterBy D target target')
    {time time' : TimestampMs} (timeLater : time'.toNat = time.toNat + D)
    (ordered : source.serverTimeMs < target.serverTimeMs) :
    alphaBetween time' source' target' = alphaBetween time source target := by
  have before : source'.serverTimeMs < time' ↔ source.serverTimeMs < time := by
    have serverLater := sourceLater.serverTimeMs
    rw [UInt64.lt_iff_toNat_lt, UInt64.lt_iff_toNat_lt]
    omega
  have duration := difference_later (UInt64.le_of_lt ordered) sourceLater.serverTimeMs
    targetLater.serverTimeMs
  unfold alphaBetween
  rw [duration]
  split
  · next elapsed =>
      rw [if_pos (before.mp elapsed), difference_later (UInt64.le_of_lt (before.mp elapsed))
        sourceLater.serverTimeMs timeLater]
  · next notElapsed => rw [if_neg (mt before.mpr notElapsed)]

theorem find_same {entities entities' : List EntityStateDTO}
    (related : List.Forall₂ SameEntity entities entities') (entityId : NetworkEntityId) :
    Option.Rel SameEntity
      (entities.find? fun entity => entity.replication.entityId = entityId)
      (entities'.find? fun entity => entity.replication.entityId = entityId) := by
  induction related with
  | nil => exact Option.Rel.none
  | @cons entity entity' _ _ same _ ih =>
      rw [List.find?_cons, List.find?_cons, same.replication]
      cases decide (entity.replication.entityId = entityId) with
      | true => exact Option.Rel.some same
      | false => exact ih

theorem same_place {target target' : EntityStateDTO} (targets : SameEntity target target')
    {source source' : Option EntityStateDTO} (sources : Option.Rel SameEntity source source')
    (alphaPermille : UInt16) :
    SamePlace (toInterpolatedEntity target source alphaPermille)
      (toInterpolatedEntity target' source' alphaPermille) := by
  unfold toInterpolatedEntity
  rw [targets.movement, targets.replication]
  cases sources with
  | none =>
      cases target.combat <;> cases target'.combat <;> exact ⟨rfl, rfl, rfl, rfl, rfl⟩
  | some same =>
      dsimp only
      rw [same.movement]
      cases target.combat <;> cases target'.combat <;> exact ⟨rfl, rfl, rfl, rfl, rfl⟩

theorem frame_later {source source' target target' : BufferedSnapshot}
    (sources : FoundLaterBy D source source') (targets : FoundLaterBy D target target')
    {time time' : TimestampMs} (timeLater : time'.toNat = time.toNat + D) :
    Alike (frameOf time source target) (frameOf time' source' target') := by
  have ordered : source'.snapshot.serverTimeMs < target'.snapshot.serverTimeMs ↔
      source.snapshot.serverTimeMs < target.snapshot.serverTimeMs := by
    have sourceLater := sources.snapshot.serverTimeMs
    have targetLater := targets.snapshot.serverTimeMs
    rw [UInt64.lt_iff_toNat_lt, UInt64.lt_iff_toNat_lt]
    omega
  have alpha : (frameOf time' source' target').alphaPermille =
      (frameOf time source target).alphaPermille := by
    unfold frameOf
    dsimp only
    rw [sources.place, targets.place]
    simp only [ordered]
    split
    · next apart => exact alpha_later sources.snapshot targets.snapshot timeLater apart.2
    · rfl
  refine ⟨sources.snapshot.snapshotId, targets.snapshot.snapshotId, alpha, ?_⟩
  change List.Forall₂ SamePlace
    (target.snapshot.entities.map fun entity => toInterpolatedEntity entity
      (if source.place = target.place then none
        else findEntity source.snapshot entity.replication.entityId)
      (frameOf time source target).alphaPermille)
    (target'.snapshot.entities.map fun entity => toInterpolatedEntity entity
      (if source'.place = target'.place then none
        else findEntity source'.snapshot entity.replication.entityId)
      (frameOf time' source' target').alphaPermille)
  rw [alpha, sources.place, targets.place, List.forall₂_map_left_iff, List.forall₂_map_right_iff]
  refine targets.snapshot.entities.imp ?_
  intro entity entity' same
  apply same_place same
  rw [same.replication]
  split
  · exact Option.Rel.none
  · exact find_same sources.snapshot.entities entity.replication.entityId

/-- Sampled at a time later by as much, the presentation is alike and renders a
time later by as much. -/
theorem sample_later {interpolator interpolator' : PresentationInterpolator}
    (related : List.Forall₂ (LaterBy D) interpolator.snapshots interpolator'.snapshots)
    (now now' : TimestampMs)
    (timeLater : (renderTime interpolator'.config.interpolationDelayMs now').toNat =
      (renderTime interpolator.config.interpolationDelayMs now).toNat + D) :
    Alike (interpolator.sample now) (interpolator'.sample now') ∧
      (interpolator.snapshots ≠ [] →
        RendersLaterBy D (interpolator.sample now) (interpolator'.sample now')) := by
  obtain ⟨config, snapshots⟩ := interpolator
  obtain ⟨config', snapshots'⟩ := interpolator'
  dsimp only at related timeLater ⊢
  have scanned := scan_later related timeLater none none Option.Rel.none 0
  cases related with
  | nil => exact ⟨⟨rfl, rfl, rfl, List.Forall₂.nil⟩, fun nonempty => absurd rfl nonempty⟩
  | @cons first second _ _ later rest =>
      have front : FoundLaterBy D { place := 0, snapshot := first }
          { place := 0, snapshot := second } := ⟨rfl, later⟩
      have source := get_later scanned.1 front
      exact ⟨frame_later source (get_later scanned.2 source) timeLater, fun _ => timeLater⟩

end Sampling

/-! The runs. -/

theorem client_step_clock (runtime : ClientRuntime) (call : ClientCall) :
    (clientStep runtime call).simulation.config = runtime.simulation.config ∧
      (clientStep runtime call).simulation.timeMs =
        clockStep runtime.simulation.config runtime.simulation.timeMs call := by
  have kept {after : GameSimulation} (same : SameClock runtime.simulation after) :
      after.config = runtime.simulation.config ∧ after.timeMs = runtime.simulation.timeMs :=
    ⟨same.config, same.timeMs⟩
  cases call with
  | connectLocal localTimeMs => exact kept (submit_login_clock _ _)
  | queueInput input localTimeMs => exact kept (submit_input_clock _ _)
  | tickSimulation order => exact ⟨(tick_setup order _).1, tick_advances order _⟩
  | applyServerSnapshot order snapshot =>
      exact kept ((apply_snapshot_clock order _ snapshot _).trans (replay_clock _ _))
  | recordTimeSyncSample sample => exact kept (SameClock.refl _)
  | drainEvents => exact kept ⟨rfl, rfl⟩

theorem run_time (calls : List ClientCall) (runtime : ClientRuntime) :
    (Runs.run clientStep runtime calls).simulation.timeMs =
      Runs.run (clockStep runtime.simulation.config) runtime.simulation.timeMs calls := by
  induction calls generalizing runtime with
  | nil => rfl
  | cons call rest ih =>
      obtain ⟨config, timeMs⟩ := client_step_clock runtime call
      rw [Runs.run_cons, Runs.run_cons, ih, config, timeMs]

theorem client_clock (localClientId : ClientId) (config : SimulationConfig)
    (calls : List ClientCall) :
    (clientRun localClientId config calls).simulation.timeMs = clientClock config calls := by
  have steps : clockStep { config with mode := .clientPrediction } = clockStep config := by
    funext timeMs call
    cases call <;> rfl
  exact (run_time calls (.new localClientId config)).trans
    (congrArg (fun step => Runs.run step 0 calls) steps)

/-- The interpolator is pushed every snapshot that is applied. -/
theorem run_presentation (calls : List ClientCall) (runtime : ClientRuntime) :
    (Runs.run clientStep runtime calls).presentationInterpolator =
      (calls.filterMap snapshotOf).foldl PresentationInterpolator.pushSnapshot
        runtime.presentationInterpolator := by
  induction calls generalizing runtime with
  | nil => rfl
  | cons call rest ih =>
      rw [Runs.run_cons, ih]
      cases call <;> rfl

theorem client_presentation (localClientId : ClientId) (config : SimulationConfig)
    (calls : List ClientCall) :
    (clientRun localClientId config calls).presentationInterpolator =
      pushAll {} (calls.filterMap snapshotOf) :=
  run_presentation calls (.new localClientId config)

section Related

variable {D : Nat}

theorem clock_later {calls calls' : List ClientCall}
    (related : List.Forall₂ (CallLaterBy D) calls calls') (config : SimulationConfig)
    (timeMs : TimestampMs) :
    Runs.run (clockStep config) timeMs calls' = Runs.run (clockStep config) timeMs calls := by
  induction related generalizing timeMs with
  | nil => rfl
  | cons call _ ih =>
      rw [Runs.run_cons, Runs.run_cons, ← ih]
      cases call <;> rfl

theorem snapshots_later {calls calls' : List ClientCall}
    (related : List.Forall₂ (CallLaterBy D) calls calls') :
    List.Forall₂ (LaterBy D) (calls.filterMap snapshotOf) (calls'.filterMap snapshotOf) := by
  induction related with
  | nil => exact List.Forall₂.nil
  | cons call _ ih =>
      cases call with
      | connectLocal localTimeMs => exact ih
      | queueInput input localTimeMs => exact ih
      | tickSimulation order => exact ih
      | applyServerSnapshot order later => exact List.Forall₂.cons later ih
      | recordTimeSyncSample later => exact ih
      | drainEvents => exact ih

theorem pushed_later {interpolator interpolator' : PresentationInterpolator}
    (sameConfig : interpolator'.config = interpolator.config)
    (buffers : List.Forall₂ (LaterBy D) interpolator.snapshots interpolator'.snapshots)
    {arrivals arrivals' : List SnapshotDTO}
    (related : List.Forall₂ (LaterBy D) arrivals arrivals') :
    List.Forall₂ (LaterBy D)
      (arrivals.foldl PresentationInterpolator.pushSnapshot interpolator).snapshots
      (arrivals'.foldl PresentationInterpolator.pushSnapshot interpolator').snapshots := by
  induction related generalizing interpolator interpolator' with
  | nil => exact buffers
  | cons later _ ih =>
      apply ih
      · exact sameConfig
      · have longer := List.rel_append buffers (List.Forall₂.cons later List.Forall₂.nil)
        unfold PresentationInterpolator.pushSnapshot pushBounded
        dsimp only
        rw [sameConfig, ← longer.length_eq]
        exact List.forall₂_drop _ longer

end Related

theorem pushed_nonempty {arrivals : List SnapshotDTO} (nonempty : arrivals ≠ []) :
    (pushAll {} arrivals).snapshots ≠ [] := by
  rcases List.eq_nil_or_concat arrivals with rfl | ⟨earlier, last, rfl⟩
  · exact absurd rfl nonempty
  · rw [List.concat_eq_append]
    have bound : (pushAll {} earlier).config = {} := push_all_config {} earlier
    have member : last ∈ (pushAll {} (earlier ++ [last])).snapshots := by
      unfold pushAll at bound ⊢
      rw [List.foldl_concat]
      exact last_mem_pushBounded (by rw [bound]; decide) _ last
    exact List.ne_nil_of_mem member

/-! The frames of both runs. -/

/-- The frame of the view does not depend on how long the server had been running,
except that it renders a time later by as much. -/
def JoinIndependent (D : Nat) (first second : PresentationFrame) : Prop :=
  Started first second → RendersLaterBy D first second ∧ Alike first second

/-- The same, with what is shown compared from the start. -/
def JoinIndependentThroughout (D : Nat) (first second : PresentationFrame) : Prop :=
  Alike first second ∧ (Started first second → RendersLaterBy D first second)

/-- There is no difference in time, or nothing is rendered at a time above 0. -/
def NothingRendered (D : Nat) (config : SimulationConfig) (calls : List ClientCall) : Prop :=
  D = 0 ∨ clientClock config calls ≤ 100 ∨ calls.filterMap snapshotOf = []

theorem render_time_zero_iff (now : TimestampMs) : renderTime 100 now = 0 ↔ now ≤ 100 := by
  unfold renderTime
  split
  · next after =>
      have later := UInt64.lt_iff_toNat_lt.mp after
      rw [← UInt64.toNat_inj, UInt64.toNat_sub_of_le _ _ (UInt64.le_of_lt after),
        UInt64.le_iff_toNat_le, UInt64.toNat_zero]
      omega
  · next notAfter => exact iff_of_true rfl (UInt64.not_lt.mp notAfter)

section Frames

variable {D : Nat} {interpolator interpolator' : PresentationInterpolator} {now : TimestampMs}

/-- With one clock in both runs the render times are equal, so a difference in
server time shows as soon as anything is rendered. -/
theorem nothing_of_later (config : interpolator.config = {}) (config' : interpolator'.config = {})
    (related : List.Forall₂ (LaterBy D) interpolator.snapshots interpolator'.snapshots)
    (independent : Started (interpolator.sample now) (interpolator'.sample now) →
      RendersLaterBy D (interpolator.sample now) (interpolator'.sample now)) :
    D = 0 ∨ now ≤ 100 ∨ interpolator.snapshots = [] := by
  by_cases empty : interpolator.snapshots = []
  · exact Or.inr (Or.inr empty)
  · have nonempty' : interpolator'.snapshots ≠ [] := by
      intro empty'
      rw [empty', List.forall₂_nil_right_iff] at related
      exact empty related
    have renders := sample_render_time now empty
    have renders' := sample_render_time now nonempty'
    rw [config] at renders
    rw [config'] at renders'
    by_cases early : now ≤ 100
    · exact Or.inr (Or.inl early)
    · have positive : 0 < renderTime 100 now :=
        UInt64.pos_iff_ne_zero.mpr (mt (render_time_zero_iff now).mp early)
      have later := independent ⟨by rw [renders]; exact positive, by rw [renders']; exact positive⟩
      unfold RendersLaterBy at later
      rw [renders, renders'] at later
      exact Or.inl (by omega)

theorem alike_empty
    (related : List.Forall₂ (LaterBy D) interpolator.snapshots interpolator'.snapshots)
    (empty : interpolator.snapshots = []) :
    Alike (interpolator.sample now) (interpolator'.sample now) := by
  rw [empty, List.forall₂_nil_left_iff] at related
  rw [sample_empty empty, sample_empty related]
  exact ⟨rfl, rfl, rfl, List.Forall₂.nil⟩

/-- Before any snapshot both runs show the first one they have. -/
theorem alike_at_start (config : interpolator.config = {}) (config' : interpolator'.config = {})
    (related : List.Forall₂ (LaterBy D) interpolator.snapshots interpolator'.snapshots)
    (early : now ≤ 100) (positive : ∀ snapshot ∈ interpolator.snapshots, 0 < snapshot.serverTimeMs) :
    Alike (interpolator.sample now) (interpolator'.sample now) := by
  have atStart := (render_time_zero_iff now).mpr early
  cases buffer : interpolator.snapshots with
  | nil => exact alike_empty related buffer
  | cons front rest =>
      rw [buffer] at related positive
      obtain ⟨front', rest', later, _, buffer'⟩ := List.forall₂_cons_left_iff.mp related
      have frontLater := positive front List.mem_cons_self
      have serverLater := later.serverTimeMs
      have frontLater' : 0 < front'.serverTimeMs := by
        rw [UInt64.lt_iff_toNat_lt, UInt64.toNat_zero] at frontLater ⊢
        omega
      rw [sample_before buffer (by rw [config, atStart]; exact frontLater),
        sample_before buffer' (by rw [config', atStart]; exact frontLater')]
      refine ⟨later.snapshotId, later.snapshotId, rfl, ?_⟩
      unfold standing
      rw [List.forall₂_map_left_iff, List.forall₂_map_right_iff]
      exact later.entities.imp fun _ _ same => same_place same Option.Rel.none 0

theorem not_started_empty (empty : interpolator.snapshots = []) {second : PresentationFrame} :
    ¬ Started (interpolator.sample now) second := by
  rintro ⟨started, _⟩
  rw [sample_empty empty] at started
  exact absurd started (by decide)

theorem not_started_early (config : interpolator.config = {}) (early : now ≤ 100)
    {second : PresentationFrame} : ¬ Started (interpolator.sample now) second := by
  rintro ⟨started, _⟩
  by_cases empty : interpolator.snapshots = []
  · exact not_started_empty empty ⟨started, started⟩
  · rw [sample_render_time now empty, config, (render_time_zero_iff now).mpr early] at started
    exact absurd started (by decide)

end Frames

/-! The views. -/

section Views

variable {localClientId : ClientId} {config : SimulationConfig} {D : Nat}
  {calls calls' : List ClientCall}

/-- What the presentations of both runs are sampled from. -/
structure Sampled (D : Nat) (interpolator interpolator' : PresentationInterpolator) : Prop where
  config : interpolator.config = {}
  config' : interpolator'.config = {}
  buffers : List.Forall₂ (LaterBy D) interpolator.snapshots interpolator'.snapshots

theorem pushed_sampled (related : List.Forall₂ (CallLaterBy D) calls calls') :
    Sampled D (pushAll {} (calls.filterMap snapshotOf))
      (pushAll {} (calls'.filterMap snapshotOf)) where
  config := push_all_config {} _
  config' := push_all_config {} _
  buffers := pushed_later rfl List.Forall₂.nil (snapshots_later related)

/-- Both views sample at one clock. -/
theorem view_presentations (localClientId : ClientId) (config : SimulationConfig)
    {calls calls' : List ClientCall} (related : List.Forall₂ (CallLaterBy D) calls calls')
    (order order' : IterationOrder ViewLoop) (events events' : EventList)
    (stats stats' : ClientApplicationStats) :
    (buildClientViewFrame order (clientRun localClientId config calls) events
        stats).presentation =
      (pushAll {} (calls.filterMap snapshotOf)).sample (clientClock config calls) ∧
    (buildClientViewFrame order' (clientRun localClientId config calls') events'
        stats').presentation =
      (pushAll {} (calls'.filterMap snapshotOf)).sample (clientClock config calls) := by
  have sameClock : clientClock config calls' = clientClock config calls :=
    clock_later related config 0
  rw [view_presentation, view_presentation, client_clock, client_clock, client_presentation,
    client_presentation, sameClock]
  exact ⟨rfl, rfl⟩

theorem pushed_empty_iff (calls : List ClientCall) :
    (pushAll {} (calls.filterMap snapshotOf)).snapshots = [] ↔ calls.filterMap snapshotOf = [] :=
  ⟨not_imp_not.mp pushed_nonempty, fun none => by rw [none]; rfl⟩

theorem nothing_of_independent (related : List.Forall₂ (CallLaterBy D) calls calls')
    {order order' : IterationOrder ViewLoop} {events events' : EventList}
    {stats stats' : ClientApplicationStats}
    (independent : Started
        (buildClientViewFrame order (clientRun localClientId config calls) events
          stats).presentation
        (buildClientViewFrame order' (clientRun localClientId config calls') events'
          stats').presentation →
      RendersLaterBy D
        (buildClientViewFrame order (clientRun localClientId config calls) events
          stats).presentation
        (buildClientViewFrame order' (clientRun localClientId config calls') events'
          stats').presentation) : NothingRendered D config calls := by
  have sampled := pushed_sampled related
  obtain ⟨first, second⟩ := view_presentations localClientId config related order order' events
    events' stats stats'
  rw [first, second] at independent
  unfold NothingRendered
  rw [← pushed_empty_iff]
  exact nothing_of_later sampled.config sampled.config' sampled.buffers independent

end Views

/-- The presentation does not depend on when the client joined exactly when there
is no difference in time or nothing is rendered yet: when the client's own clock
is at most the interpolation delay, or no snapshot was applied. -/
theorem join_independent_iff (localClientId : ClientId) (config : SimulationConfig) (D : Nat)
    (calls calls' : List ClientCall) (related : List.Forall₂ (CallLaterBy D) calls calls')
    (order order' : IterationOrder ViewLoop) (events events' : EventList)
    (stats stats' : ClientApplicationStats) :
    let first := (buildClientViewFrame order (clientRun localClientId config calls) events
      stats).presentation
    let second := (buildClientViewFrame order' (clientRun localClientId config calls') events'
      stats').presentation
    (JoinIndependent D first second ↔ NothingRendered D config calls) ∧
    ((∀ snapshot ∈ calls.filterMap snapshotOf, 0 < snapshot.serverTimeMs) →
      (JoinIndependentThroughout D first second ↔ NothingRendered D config calls)) := by
  intro first second
  have toNothing : (Started first second → RendersLaterBy D first second) →
      NothingRendered D config calls := nothing_of_independent related
  have sampled := pushed_sampled related
  obtain ⟨isFirst, isSecond⟩ := view_presentations localClientId config related order order' events
    events' stats stats'
  -- Without a difference in time the two frames are sampled from the same.
  have alikeNow (none : D = 0) : Alike first second ∧
      (calls.filterMap snapshotOf ≠ [] → RendersLaterBy D first second) := by
    obtain ⟨alike, later⟩ := sample_later sampled.buffers (clientClock config calls)
      (clientClock config calls) (by rw [sampled.config, sampled.config', none]; rfl)
    rw [← isFirst, ← isSecond] at alike later
    exact ⟨alike, fun some => later (mt (pushed_empty_iff calls).mp some)⟩
  have resting (rests : clientClock config calls ≤ 100 ∨ calls.filterMap snapshotOf = []) :
      ¬ Started first second := by
    change ¬ Started (buildClientViewFrame _ _ _ _).presentation second
    rw [isFirst]
    rcases rests with early | empty
    · exact not_started_early sampled.config early
    · exact not_started_empty ((pushed_empty_iff calls).mpr empty)
  have startedLater (none : D = 0) (started : Started first second) :
      RendersLaterBy D first second := by
    by_cases empty : calls.filterMap snapshotOf = []
    · exact absurd started (resting (Or.inr empty))
    · exact (alikeNow none).2 empty
  constructor
  · constructor
    · exact fun independent => toNothing fun started => (independent started).1
    · rintro (none | rests) started
      · exact ⟨startedLater none started, (alikeNow none).1⟩
      · exact absurd started (resting rests)
  · intro positive
    constructor
    · exact fun independent => toNothing independent.2
    · rintro (none | rests)
      · exact ⟨(alikeNow none).1, startedLater none⟩
      · refine ⟨?_, fun started => absurd started (resting rests)⟩
        change Alike (buildClientViewFrame _ _ _ _).presentation
          (buildClientViewFrame _ _ _ _).presentation
        rw [isFirst, isSecond]
        rcases rests with early | empty
        · exact alike_at_start sampled.config sampled.config' sampled.buffers early
            fun snapshot member => positive snapshot ((retained_suffix {} _).subset member)
        · exact alike_empty sampled.buffers ((pushed_empty_iff calls).mpr empty)

/-! A client that joins late. -/

/-- A tick of the client and the snapshot that it applies then. -/
def turn (snapshot : SnapshotDTO) : List ClientCall :=
  [.tickSimulation .stored, .applyServerSnapshot .stored snapshot]

theorem turns_later {D : Nat} {snapshots snapshots' : List SnapshotDTO}
    (related : List.Forall₂ (LaterBy D) snapshots snapshots') :
    List.Forall₂ (CallLaterBy D) (snapshots.flatMap turn) (snapshots'.flatMap turn) := by
  induction related with
  | nil => exact List.Forall₂.nil
  | cons later _ ih =>
      exact List.Forall₂.cons (.tickSimulation .stored)
        (List.Forall₂.cons (.applyServerSnapshot .stored later) ih)

/-- Seven snapshots of a server that was at `startMs` when the client joined. -/
def sinceJoin (startMs : TimestampMs) : List SnapshotDTO :=
  [16, 32, 48, 64, 80, 96, 112].map fun elapsedMs => { serverTimeMs := startMs + elapsedMs }

theorem since_join_later : List.Forall₂ (LaterBy 1000) (sinceJoin 0) (sinceJoin 1000) := by
  unfold sinceJoin
  rw [List.forall₂_map_left_iff, List.forall₂_map_right_iff, List.forall₂_same]
  have later : ([16, 32, 48, 64, 80, 96, 112] : List TimestampMs).all
      (fun elapsedMs => decide (((1000 : TimestampMs) + elapsedMs).toNat =
        ((0 : TimestampMs) + elapsedMs).toNat + 1000)) = true := by
    decide
  intro elapsedMs member
  exact ⟨rfl, of_decide_eq_true (List.all_eq_true.mp later elapsedMs member), List.Forall₂.nil⟩

/-- After seven turns both runs render the time 12. -/
theorem join_dependent_late : ¬ ∀ (localClientId : ClientId) (config : SimulationConfig)
    (D : Nat) (calls calls' : List ClientCall), List.Forall₂ (CallLaterBy D) calls calls' →
    ∀ events stats, JoinIndependent D
      (buildClientViewFrame .stored (clientRun localClientId config calls) events
        stats).presentation
      (buildClientViewFrame .stored (clientRun localClientId config calls') events
        stats).presentation := by
  intro always
  have related := turns_later since_join_later
  have nothing := nothing_of_independent related fun started =>
    (always 1 {} 1000 _ _ related [] {} started).1
  rcases nothing with none | early | unapplied
  · cases none
  · exact absurd early (by decide)
  · exact absurd unapplied (by decide)

/-- The first three turns after the join. -/
def firstTurns (startMs : TimestampMs) : List ClientCall :=
  ((sinceJoin startMs).take 3).flatMap turn

/-- In its first 100 ms a client renders nothing, whenever it joined. -/
theorem join_independent_at_first :
    List.Forall₂ (CallLaterBy 1000) (firstTurns 0) (firstTurns 1000) ∧
    clientClock {} (firstTurns 0) = 48 ∧
    JoinIndependent 1000
      (buildClientViewFrame .stored (clientRun 1 {} (firstTurns 0)) [] {}).presentation
      (buildClientViewFrame .stored (clientRun 1 {} (firstTurns 1000)) [] {}).presentation ∧
    JoinIndependentThroughout 1000
      (buildClientViewFrame .stored (clientRun 1 {} (firstTurns 0)) [] {}).presentation
      (buildClientViewFrame .stored (clientRun 1 {} (firstTurns 1000)) [] {}).presentation := by
  have related : List.Forall₂ (CallLaterBy 1000) (firstTurns 0) (firstTurns 1000) :=
    turns_later (List.forall₂_take 3 since_join_later)
  have parts := join_independent_iff 1 {} 1000 _ _ related .stored .stored [] [] {} {}
  have early : NothingRendered 1000 {} (firstTurns 0) := Or.inr (Or.inl (by decide))
  have positive : ((firstTurns 0).filterMap snapshotOf).all
      (fun snapshot => decide (0 < snapshot.serverTimeMs)) = true := by decide
  refine ⟨related, by decide, parts.1.mpr early, (parts.2 ?_).mpr early⟩
  exact fun snapshot member => of_decide_eq_true (List.all_eq_true.mp positive snapshot member)

end Brawololo.JoinTimes
