import Brawololo.GameTypes
import Brawololo.EntityStore

/-!
The parts of replication that the server keeps apart from the simulation: the
planner that orders and cuts a snapshot, the cache of the snapshots a client
was sent, the comparison of a snapshot with its baseline, and the set of
entities a client is known to see.
-/

namespace Brawololo.Replication

open GameTypes EntityStore

/-! The planner. -/

structure ReplicationPlannerConfig where
  maxEntitiesPerSnapshot : Nat := 0
  prioritizeHigherFirst : Bool := true
  keepOwnerEntityFirst : Bool := true
  deriving DecidableEq

structure ReplicationPlannerStats where
  inputEntityCount : Nat := 0
  outputEntityCount : Nat := 0
  highPriorityCount : Nat := 0
  mediumPriorityCount : Nat := 0
  lowPriorityCount : Nat := 0
  droppedEntityCount : Nat := 0
  deriving DecidableEq

structure PlannedSnapshot where
  snapshot : SnapshotDTO := {}
  stats : ReplicationPlannerStats := {}
  deriving DecidableEq

def plannerRank : SnapshotPriority → UInt8
  | .high => 3
  | .medium => 2
  | .low => 1

def countPriority (stats : ReplicationPlannerStats) (priority : SnapshotPriority) :
    ReplicationPlannerStats :=
  match priority with
  | .high => { stats with highPriorityCount := stats.highPriorityCount + 1 }
  | .medium => { stats with mediumPriorityCount := stats.mediumPriorityCount + 1 }
  | .low => { stats with lowPriorityCount := stats.lowPriorityCount + 1 }

/-- The comparison of the stable sort: `left` goes strictly before `right`. -/
def sortsBefore (config : ReplicationPlannerConfig) (observerClientId : ClientId)
    (left right : EntityStateDTO) : Bool :=
  let leftOwned : Bool := left.replication.ownerClientId = observerClientId
  let rightOwned : Bool := right.replication.ownerClientId = observerClientId
  let leftRank := plannerRank left.replication.priority
  let rightRank := plannerRank right.replication.priority
  if config.keepOwnerEntityFirst && leftOwned != rightOwned then leftOwned
  else if leftRank ≠ rightRank then leftRank > rightRank
  else left.replication.entityId.value < right.replication.entityId.value

/-- An insertion sort is stable when it compares with "not after". -/
def stableSort {Item : Type} (before : Item → Item → Bool) (items : List Item) : List Item :=
  items.insertionSort fun left right => before right left = false

def ReplicationPlannerConfig.plan (config : ReplicationPlannerConfig) (snapshot : SnapshotDTO)
    (observerClientId : ClientId) : PlannedSnapshot :=
  let sorted :=
    if config.prioritizeHigherFirst then
      stableSort (sortsBefore config observerClientId) snapshot.entities
    else snapshot.entities
  let maxEntities := config.maxEntitiesPerSnapshot
  let kept := if 0 < maxEntities ∧ maxEntities < sorted.length then sorted.take maxEntities else sorted
  let stats : ReplicationPlannerStats :=
    { inputEntityCount := snapshot.entities.length
      outputEntityCount := kept.length
      droppedEntityCount := snapshot.entities.length - kept.length }
  { snapshot := { snapshot with entities := kept }
    stats := kept.foldl (fun stats entity => countPriority stats entity.replication.priority) stats }

/-! The baseline cache. -/

structure SnapshotBaselineCacheConfig where
  maxBaselinesPerClient : Nat := 32
  deriving DecidableEq

structure SnapshotBaselineDecision where
  requestedBaselineId : SnapshotId := 0
  effectiveBaselineId : SnapshotId := 0
  deliveryKind : SnapshotDeliveryKind := .full
  baselineAvailable : Bool := false
  deriving DecidableEq

structure SnapshotBaselineCache where
  config : SnapshotBaselineCacheConfig := {}
  baselinesByClient : UnorderedMap ClientId (List SnapshotDTO) := {}

namespace SnapshotBaselineCache

def baselines (cache : SnapshotBaselineCache) (clientId : ClientId) : List SnapshotDTO :=
  (cache.baselinesByClient[clientId]?).getD []

def store (cache : SnapshotBaselineCache) (clientId : ClientId) (snapshot : SnapshotDTO) :
    SnapshotBaselineCache :=
  { cache with
    baselinesByClient := cache.baselinesByClient.insert clientId
      (pushBounded cache.config.maxBaselinesPerClient (cache.baselines clientId) snapshot) }

def find (cache : SnapshotBaselineCache) (clientId : ClientId) (snapshotId : SnapshotId) :
    Option SnapshotDTO :=
  (cache.baselinesByClient[clientId]?).bind fun baselines =>
    baselines.find? fun snapshot => snapshot.snapshotId = snapshotId

def decide (cache : SnapshotBaselineCache) (clientId : ClientId)
    (requestedBaselineId : SnapshotId) : SnapshotBaselineDecision :=
  if requestedBaselineId = 0 then { requestedBaselineId }
  else
    match cache.find clientId requestedBaselineId with
    | none => { requestedBaselineId }
    | some _ =>
        { requestedBaselineId := requestedBaselineId
          effectiveBaselineId := requestedBaselineId
          deliveryKind := .deltaEligible
          baselineAvailable := true }

theorem find_some {cache : SnapshotBaselineCache} {clientId : ClientId} {snapshotId : SnapshotId}
    {snapshot : SnapshotDTO} (found : cache.find clientId snapshotId = some snapshot) :
    snapshot ∈ cache.baselines clientId ∧ snapshot.snapshotId = snapshotId := by
  obtain ⟨items, stored, isFirst⟩ := Option.bind_eq_some_iff.mp found
  have named := List.find?_some isFirst
  simp only [decide_eq_true_eq] at named
  refine ⟨?_, named⟩
  unfold baselines
  rw [stored]
  exact List.mem_of_find?_eq_some isFirst

theorem mem_store {cache : SnapshotBaselineCache} {clientId other : ClientId}
    {snapshot held : SnapshotDTO} (member : held ∈ (cache.store clientId snapshot).baselines other) :
    held ∈ cache.baselines other ∨ other = clientId ∧ held = snapshot := by
  unfold baselines store at member
  dsimp only at member
  rw [get_insert] at member
  by_cases same : clientId = other
  · subst same
    rw [if_pos rfl] at member
    rcases mem_pushBounded member with old | new
    · exact Or.inl old
    · exact Or.inr ⟨rfl, new⟩
  · rw [if_neg same] at member
    exact Or.inl member

/-- The decision names a baseline only when it is in the client's cache. -/
theorem decide_cases (cache : SnapshotBaselineCache) (clientId : ClientId)
    (requested : SnapshotId) :
    cache.decide clientId requested = { requestedBaselineId := requested } ∨
    requested ≠ 0 ∧ (∃ baseline, cache.find clientId requested = some baseline) ∧
      cache.decide clientId requested =
        { requestedBaselineId := requested, effectiveBaselineId := requested,
          deliveryKind := .deltaEligible, baselineAvailable := true } := by
  unfold decide
  by_cases zero : requested = 0
  · rw [if_pos zero]
    exact Or.inl rfl
  · rw [if_neg zero]
    cases found : cache.find clientId requested with
    | none => exact Or.inl rfl
    | some baseline => exact Or.inr ⟨zero, ⟨baseline, rfl⟩, rfl⟩

end SnapshotBaselineCache

/-! Comparing a snapshot with its baseline. -/

inductive SnapshotEntityDeltaKind where
  | added
  | changed
  | removed
  | unchanged
  deriving DecidableEq

structure SnapshotEntityDelta where
  entityId : NetworkEntityId := {}
  kind : SnapshotEntityDeltaKind := .unchanged
  deriving DecidableEq

structure SnapshotDeltaPlan where
  snapshotId : SnapshotId := 0
  baselineId : SnapshotId := 0
  baselineMatched : Bool := false
  entities : List SnapshotEntityDelta := []
  addedCount : Nat := 0
  changedCount : Nat := 0
  removedCount : Nat := 0
  unchangedCount : Nat := 0
  deriving DecidableEq

def equivalentMovement (left right : MovementStateDTO) : Bool :=
  left.entityId = right.entityId && left.x = right.x && left.y = right.y && left.vx = right.vx &&
    left.vy = right.vy && left.aimX = right.aimX && left.aimY = right.aimY

def equivalentCombat (left right : CombatStateDTO) : Bool :=
  left.entityId = right.entityId && left.health = right.health &&
    left.maxHealth = right.maxHealth && left.weaponType = right.weaponType &&
    left.weaponWarming = right.weaponWarming &&
    left.weaponWarmupCompletesAtMs = right.weaponWarmupCompletesAtMs &&
    left.defeated = right.defeated && left.respawnAtMs = right.respawnAtMs &&
    left.serverOwnedProjectile = right.serverOwnedProjectile &&
    left.projectileOwnerId = right.projectileOwnerId

def equivalentReplication (left right : ReplicationStateDTO) : Bool :=
  left.entityId = right.entityId && left.ownerClientId = right.ownerClientId &&
    left.kind = right.kind && left.priority = right.priority

def equivalentEntityState (left right : EntityStateDTO) : Bool :=
  equivalentMovement left.movement right.movement &&
    equivalentReplication left.replication right.replication &&
    match left.combat, right.combat with
    | none, none => true
    | some leftCombat, some rightCombat => equivalentCombat leftCombat rightCombat
    | _, _ => false

def findEntity (snapshot : SnapshotDTO) (entityId : NetworkEntityId) : Option EntityStateDTO :=
  snapshot.entities.find? fun entity => entity.replication.entityId = entityId

def countDelta (plan : SnapshotDeltaPlan) (delta : SnapshotEntityDelta) : SnapshotDeltaPlan :=
  let plan := { plan with entities := plan.entities ++ [delta] }
  match delta.kind with
  | .added => { plan with addedCount := plan.addedCount + 1 }
  | .changed => { plan with changedCount := plan.changedCount + 1 }
  | .removed => { plan with removedCount := plan.removedCount + 1 }
  | .unchanged => { plan with unchangedCount := plan.unchangedCount + 1 }

def deltaKind (baseline : SnapshotDTO) (current : EntityStateDTO) : SnapshotEntityDeltaKind :=
  match findEntity baseline current.replication.entityId with
  | none => .added
  | some held => if equivalentEntityState current held then .unchanged else .changed

def planSnapshotDelta (current baseline : SnapshotDTO) : SnapshotDeltaPlan :=
  let seen : List SnapshotEntityDelta := current.entities.map fun entity =>
    { entityId := entity.replication.entityId, kind := deltaKind baseline entity }
  let gone : List SnapshotEntityDelta := (baseline.entities.filter fun entity =>
    !(current.entities.any fun other =>
      other.replication.entityId = entity.replication.entityId)).map fun entity =>
    { entityId := entity.replication.entityId, kind := .removed }
  (seen ++ gone).foldl countDelta
    { snapshotId := current.snapshotId
      baselineId := current.baselineId
      baselineMatched := current.baselineId ≠ 0 && current.baselineId = baseline.snapshotId }

theorem equivalent_entity_state_iff (left right : EntityStateDTO) :
    equivalentEntityState left right = true ↔ left = right := by
  obtain ⟨leftMovement, leftCombat, leftReplication⟩ := left
  obtain ⟨rightMovement, rightCombat, rightReplication⟩ := right
  have movement : equivalentMovement leftMovement rightMovement = true ↔
      leftMovement = rightMovement := by
    cases leftMovement
    cases rightMovement
    simp [equivalentMovement, and_assoc]
  have replication : equivalentReplication leftReplication rightReplication = true ↔
      leftReplication = rightReplication := by
    cases leftReplication
    cases rightReplication
    simp [equivalentReplication, and_assoc]
  have combat (one two : CombatStateDTO) : equivalentCombat one two = true ↔ one = two := by
    cases one
    cases two
    simp [equivalentCombat, and_assoc]
  unfold equivalentEntityState
  cases leftCombat with
  | none => cases rightCombat <;> simp [movement, replication]
  | some one =>
      cases rightCombat with
      | none => simp
      | some two =>
          simp only [Bool.and_eq_true, movement, replication, combat, EntityStateDTO.mk.injEq,
            Option.some.injEq]
          tauto

/-- Whether the baseline matches is decided before any entity is compared. -/
theorem plan_matched (current baseline : SnapshotDTO) :
    (planSnapshotDelta current baseline).baselineMatched =
      (current.baselineId ≠ 0 && current.baselineId = baseline.snapshotId : Bool) := by
  unfold planSnapshotDelta
  dsimp only
  generalize (_ : List SnapshotEntityDelta) ++ _ = deltas
  generalize start : SnapshotDeltaPlan.mk _ _ _ _ _ _ _ _ = plan
  have kept : (deltas.foldl countDelta plan).baselineMatched = plan.baselineMatched := by
    clear start
    induction deltas generalizing plan with
    | nil => rfl
    | cons delta rest ih =>
        rw [List.foldl_cons, ih]
        unfold countDelta
        dsimp only
        cases delta.kind <;> rfl
  rw [kept, ← start]

/-! Interest. -/

structure InterestFrame where
  entered : List NetworkEntityId := []
  stayed : List NetworkEntityId := []
  exited : List NetworkEntityId := []
  deriving DecidableEq

structure InterestTracker where
  knownEntities : UnorderedMap NetworkEntityId Unit := {}

/-- The loop over the entities that were known visits them in the order of its
site. -/
def InterestTracker.update {Site : Type} (tracker : InterestTracker) (order : IterationOrder Site)
    (site : Site) (snapshot : SnapshotDTO) : InterestTracker × InterestFrame :=
  let ids := snapshot.entities.map fun entity => entity.replication.entityId
  let nextKnown : UnorderedMap NetworkEntityId Unit :=
    ids.foldl (fun known entityId => known.insert entityId ()) {}
  ({ knownEntities := nextKnown },
   { entered := ids.filter fun entityId => !tracker.knownEntities.contains entityId
     stayed := ids.filter fun entityId => tracker.knownEntities.contains entityId
     exited := (order.arrange site tracker.knownEntities.keys).filter fun entityId =>
       !nextKnown.contains entityId })

end Brawololo.Replication
