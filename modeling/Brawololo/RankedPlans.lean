import Brawololo.Replication
import Brawololo.RankedLists
import Mathlib.Data.Prod.Lex

/-!
What the replication planner keeps of a snapshot. Its comparison ranks the
entities by a key that tells distinct ids apart, so the plan depends on which
entities there are and not on their order.
-/

namespace Brawololo.RankedPlans

open GameTypes Replication RankedLists

/-! The ranking. -/

def placeOf : SnapshotPriority → Nat
  | .high => 0
  | .medium => 1
  | .low => 2

def ownFirst (config : ReplicationPlannerConfig) (observerClientId : ClientId)
    (entity : EntityStateDTO) : Nat :=
  if config.keepOwnerEntityFirst ∧ entity.replication.ownerClientId = observerClientId then 0 else 1

/-- The observer's own entities first, then the higher priority, then the lower id. -/
def standing (config : ReplicationPlannerConfig) (observerClientId : ClientId)
    (entity : EntityStateDTO) : Nat ×ₗ Nat ×ₗ Nat :=
  toLex (ownFirst config observerClientId entity,
    toLex (placeOf entity.replication.priority, entity.replication.entityId.value.toNat))

theorem rank_place (left right : SnapshotPriority) :
    (plannerRank left > plannerRank right ↔ placeOf left < placeOf right) ∧
      (plannerRank left = plannerRank right ↔ placeOf left = placeOf right) := by
  cases left <;> cases right <;> decide

/-- The comparison of the sort compares the standings. -/
theorem sorts_before_iff (config : ReplicationPlannerConfig) (observerClientId : ClientId)
    (left right : EntityStateDTO) :
    sortsBefore config observerClientId left right = true ↔
      standing config observerClientId left < standing config observerClientId right := by
  obtain ⟨later, equal⟩ := rank_place left.replication.priority right.replication.priority
  unfold standing sortsBefore ownFirst
  simp only [Prod.Lex.lt_iff, ofLex_toLex, ← UInt32.lt_iff_toNat_lt]
  by_cases byOwner : config.keepOwnerEntityFirst
  · by_cases leftOwned : left.replication.ownerClientId = observerClientId
    · by_cases rightOwned : right.replication.ownerClientId = observerClientId
      · by_cases same : plannerRank left.replication.priority = plannerRank right.replication.priority
        · simp [byOwner, leftOwned, rightOwned, same, equal.mp same]
        · simp [byOwner, leftOwned, rightOwned, same, mt equal.mpr same, later]
      · simp [byOwner, leftOwned, rightOwned]
    · by_cases rightOwned : right.replication.ownerClientId = observerClientId
      · simp [byOwner, leftOwned, rightOwned]
      · by_cases same : plannerRank left.replication.priority = plannerRank right.replication.priority
        · simp [byOwner, leftOwned, rightOwned, same, equal.mp same]
        · simp [byOwner, leftOwned, rightOwned, same, mt equal.mpr same, later]
  · by_cases same : plannerRank left.replication.priority = plannerRank right.replication.priority
    · simp [byOwner, same, equal.mp same]
    · simp [byOwner, same, mt equal.mpr same, later]

/-! The plan. -/

/-- How many entities of a snapshot are kept; a budget of 0 is none. -/
def quota (config : ReplicationPlannerConfig) (count : Nat) : Nat :=
  if config.maxEntitiesPerSnapshot = 0 then count else min count config.maxEntitiesPerSnapshot

def countOf (priority : SnapshotPriority) (entities : List EntityStateDTO) : Nat :=
  entities.countP fun entity => entity.replication.priority = priority

theorem count_priorities (entities : List EntityStateDTO) (stats : ReplicationPlannerStats) :
    entities.foldl (fun stats entity => countPriority stats entity.replication.priority) stats =
      { stats with
        highPriorityCount := stats.highPriorityCount + countOf .high entities
        mediumPriorityCount := stats.mediumPriorityCount + countOf .medium entities
        lowPriorityCount := stats.lowPriorityCount + countOf .low entities } := by
  induction entities generalizing stats with
  | nil => rfl
  | cons entity rest ih =>
      rw [List.foldl_cons, ih]
      unfold countOf countPriority
      cases priority : entity.replication.priority <;>
        simp [priority, Nat.add_assoc, Nat.add_comm 1]

theorem counts_sum (entities : List EntityStateDTO) :
    countOf .high entities + countOf .medium entities + countOf .low entities =
      entities.length := by
  induction entities with
  | nil => rfl
  | cons entity rest ih =>
      unfold countOf at ih ⊢
      cases priority : entity.replication.priority <;>
        simp [priority] <;> omega

/-- The ranked entities of a snapshot. -/
def rankedEntities (config : ReplicationPlannerConfig) (observerClientId : ClientId)
    (entities : List EntityStateDTO) : List EntityStateDTO :=
  stableSort (sortsBefore config observerClientId) entities

section Ranking

variable (config : ReplicationPlannerConfig) (observerClientId : ClientId)

theorem ranked_perm (entities : List EntityStateDTO) :
    (rankedEntities config observerClientId entities).Perm entities :=
  List.perm_insertionSort _ entities

theorem standings_distinct (entities : List EntityStateDTO)
    (distinct : (entities.map fun entity => entity.replication.entityId).Nodup) :
    (entities.map (standing config observerClientId)).Nodup := by
  have apart : ∀ left ∈ entities, ∀ right ∈ entities,
      standing config observerClientId left = standing config observerClientId right →
        left = right := by
    intro left isLeft right isRight same
    have sameId := congrArg (fun key => (ofLex (ofLex key).2).2) same
    apply List.inj_on_of_nodup_map distinct isLeft isRight
    exact congrArg NetworkEntityId.mk (UInt32.toNat_inj.mp sameId)
  exact (List.Nodup.of_map _ distinct).map_on apart

theorem ranked_entities (entities : List EntityStateDTO)
    (distinct : (entities.map fun entity => entity.replication.entityId).Nodup) :
    Ranked (standing config observerClientId) (rankedEntities config observerClientId entities) :=
  sorted_ranked _ (sorts_before_iff config observerClientId) entities
    (standings_distinct config observerClientId entities distinct)

/-- The kept entities are the first of the ranked ones, within the budget. -/
theorem plan_entities (prioritized : config.prioritizeHigherFirst = true) (snapshot : SnapshotDTO) :
    (config.plan snapshot observerClientId).snapshot.entities =
      (rankedEntities config observerClientId snapshot.entities).take
        (quota config snapshot.entities.length) := by
  have size := (ranked_perm config observerClientId snapshot.entities).length_eq
  unfold rankedEntities at size ⊢
  unfold ReplicationPlannerConfig.plan quota
  simp only [prioritized, if_true, size]
  by_cases unlimited : config.maxEntitiesPerSnapshot = 0
  · rw [if_neg (by omega), if_pos unlimited, List.take_of_length_le size.le]
  · rw [if_neg unlimited]
    by_cases cut : config.maxEntitiesPerSnapshot < snapshot.entities.length
    · rw [if_pos ⟨Nat.pos_of_ne_zero unlimited, cut⟩, Nat.min_eq_right cut.le]
    · rw [if_neg (fun both => cut both.2), Nat.min_eq_left (Nat.not_lt.mp cut),
        List.take_of_length_le size.le]

theorem planned_ext {one two : PlannedSnapshot} (snapshot : one.snapshot = two.snapshot)
    (stats : one.stats = two.stats) : one = two := by
  obtain ⟨_, _⟩ := one
  obtain ⟨_, _⟩ := two
  cases snapshot
  cases stats
  rfl

/-- The statistics of a plan. -/
theorem plan_stats (snapshot : SnapshotDTO) :
    let kept := (config.plan snapshot observerClientId).snapshot.entities
    (config.plan snapshot observerClientId).stats =
      { inputEntityCount := snapshot.entities.length
        outputEntityCount := kept.length
        highPriorityCount := countOf .high kept
        mediumPriorityCount := countOf .medium kept
        lowPriorityCount := countOf .low kept
        droppedEntityCount := snapshot.entities.length - kept.length } := by
  unfold ReplicationPlannerConfig.plan
  dsimp only
  rw [count_priorities]
  simp

end Ranking

/-- What a plan of a snapshot is, told by the ranking of its entities. -/
structure KeepsBest (config : ReplicationPlannerConfig) (snapshot : SnapshotDTO)
    (observerClientId : ClientId) (planned : PlannedSnapshot) : Prop where
  first : ∃ ranked, ranked.Perm snapshot.entities ∧
    Ranked (standing config observerClientId) ranked ∧
    planned.snapshot.entities = ranked.take (quota config snapshot.entities.length)
  anyOrder : ∀ entities, entities.Perm snapshot.entities →
    config.plan { snapshot with entities := entities } observerClientId = planned
  outranks : ∀ kept ∈ planned.snapshot.entities, ∀ dropped ∈ snapshot.entities,
    dropped ∉ planned.snapshot.entities →
      standing config observerClientId kept < standing config observerClientId dropped
  ownLast : config.keepOwnerEntityFirst = true → ∀ dropped ∈ snapshot.entities,
    dropped ∉ planned.snapshot.entities →
      dropped.replication.ownerClientId = observerClientId →
        ∀ kept ∈ planned.snapshot.entities, kept.replication.ownerClientId = observerClientId
  header : planned.snapshot = { snapshot with entities := planned.snapshot.entities }
  input : planned.stats.inputEntityCount = snapshot.entities.length
  output : planned.stats.outputEntityCount = planned.snapshot.entities.length
  balance : planned.stats.droppedEntityCount + planned.stats.outputEntityCount =
    planned.stats.inputEntityCount
  high : planned.stats.highPriorityCount = countOf .high planned.snapshot.entities
  medium : planned.stats.mediumPriorityCount = countOf .medium planned.snapshot.entities
  low : planned.stats.lowPriorityCount = countOf .low planned.snapshot.entities
  total : planned.stats.highPriorityCount + planned.stats.mediumPriorityCount +
    planned.stats.lowPriorityCount = planned.stats.outputEntityCount

/-- An entity of the observer outranks every entity of the others. -/
theorem own_outranks (config : ReplicationPlannerConfig) (observerClientId : ClientId)
    (byOwner : config.keepOwnerEntityFirst = true) {kept dropped : EntityStateDTO}
    (owned : dropped.replication.ownerClientId = observerClientId)
    (before : standing config observerClientId kept < standing config observerClientId dropped) :
    kept.replication.ownerClientId = observerClientId := by
  by_contra foreign
  unfold standing ownFirst at before
  rw [if_neg (fun both => foreign both.2), if_pos ⟨byOwner, owned⟩] at before
  rcases Prod.Lex.lt_iff.mp before with less | ⟨equal, _⟩
  · exact absurd less (Nat.not_lt_zero 1)
  · exact absurd equal Nat.one_ne_zero

/-- Nothing is cut, or the own entities are the last to be cut. -/
def ListsOwn (config : ReplicationPlannerConfig) : Prop :=
  config.maxEntitiesPerSnapshot = 0 ∨
    config.prioritizeHigherFirst = true ∧ config.keepOwnerEntityFirst = true

/-- The only entity of the observer stays in the plan. -/
theorem own_kept {config : ReplicationPlannerConfig} (lists : ListsOwn config)
    {snapshot : SnapshotDTO} {observerClientId : ClientId}
    (distinct : (snapshot.entities.map fun entity => entity.replication.entityId).Nodup)
    {own : EntityStateDTO} (member : own ∈ snapshot.entities)
    (owned : own.replication.ownerClientId = observerClientId)
    (only : ∀ other ∈ snapshot.entities,
      other.replication.ownerClientId = observerClientId → other = own) :
    own ∈ (config.plan snapshot observerClientId).snapshot.entities := by
  rcases lists with unlimited | ⟨prioritized, byOwner⟩
  · unfold ReplicationPlannerConfig.plan
    dsimp only
    rw [if_neg (by omega)]
    split
    · exact (List.perm_insertionSort _ _).mem_iff.mpr member
    · exact member
  · have ranked := ranked_entities config observerClientId snapshot.entities distinct
    have arranged := ranked_perm config observerClientId snapshot.entities
    rw [plan_entities config observerClientId prioritized]
    by_contra dropped
    -- A budget keeps at least one entity, and that one outranks what is dropped.
    have budget : 0 < quota config snapshot.entities.length := by
      have some := List.length_pos_of_mem member
      unfold quota
      split
      · exact some
      · omega
    obtain ⟨kept, isKept⟩ : ∃ kept, kept ∈ (rankedEntities config observerClientId
        snapshot.entities).take (quota config snapshot.entities.length) := by
      apply List.exists_mem_of_length_pos
      rw [List.length_take, arranged.length_eq]
      exact Nat.lt_min.mpr ⟨budget, List.length_pos_of_mem member⟩
    have before := kept_before_dropped ranked _ isKept (arranged.mem_iff.mpr member) dropped
    have isOwned := own_outranks config observerClientId byOwner owned before
    have isOwn := only kept (arranged.mem_iff.mp (List.mem_of_mem_take isKept)) isOwned
    exact dropped (isOwn ▸ isKept)

theorem planner_keeps_best (config : ReplicationPlannerConfig)
    (prioritized : config.prioritizeHigherFirst = true) (snapshot : SnapshotDTO)
    (observerClientId : ClientId)
    (distinct : (snapshot.entities.map fun entity => entity.replication.entityId).Nodup) :
    KeepsBest config snapshot observerClientId (config.plan snapshot observerClientId) := by
  have ranked := ranked_entities config observerClientId snapshot.entities distinct
  have arranged := ranked_perm config observerClientId snapshot.entities
  have entities := plan_entities config observerClientId prioritized snapshot
  have stats := plan_stats config observerClientId snapshot
  have outranks : ∀ kept ∈ (config.plan snapshot observerClientId).snapshot.entities,
      ∀ dropped ∈ snapshot.entities,
        dropped ∉ (config.plan snapshot observerClientId).snapshot.entities →
          standing config observerClientId kept < standing config observerClientId dropped := by
    rw [entities]
    intro kept isKept dropped member isDropped
    exact kept_before_dropped ranked _ isKept (arranged.mem_iff.mpr member) isDropped
  have fewer : (config.plan snapshot observerClientId).snapshot.entities.length ≤
      snapshot.entities.length := by
    rw [entities, List.length_take, arranged.length_eq]
    exact Nat.min_le_right _ _
  exact {
    first := ⟨_, arranged, ranked, entities⟩
    anyOrder := by
      intro other same
      -- A ranking without ties does not depend on the order it sorts.
      have otherDistinct : (other.map fun entity => entity.replication.entityId).Nodup :=
        (same.map _).nodup_iff.mpr distinct
      have otherRanked := ranked_entities config observerClientId other otherDistinct
      have sameRanking := ranked_unique otherRanked ranked
        ((ranked_perm config observerClientId other).trans (same.trans arranged.symm))
      have kept : (config.plan { snapshot with entities := other }
          observerClientId).snapshot.entities =
          (config.plan snapshot observerClientId).snapshot.entities := by
        rw [entities, plan_entities config observerClientId prioritized, sameRanking,
          same.length_eq]
      have sameSnapshot : (config.plan { snapshot with entities := other }
          observerClientId).snapshot = (config.plan snapshot observerClientId).snapshot :=
        congrArg (fun kept => { snapshot with entities := kept }) kept
      have sameStats : (config.plan { snapshot with entities := other }
          observerClientId).stats = (config.plan snapshot observerClientId).stats := by
        rw [stats, plan_stats, kept, same.length_eq]
      exact planned_ext sameSnapshot sameStats
    outranks := outranks
    ownLast := fun byOwner dropped member isDropped owned kept isKept =>
      own_outranks config observerClientId byOwner owned (outranks kept isKept dropped member isDropped)
    header := rfl
    input := by rw [stats]
    output := by rw [stats]
    balance := by
      rw [stats]
      exact Nat.sub_add_cancel fewer
    high := by rw [stats]
    medium := by rw [stats]
    low := by rw [stats]
    total := by
      rw [stats]
      exact counts_sum _ }

/-- Four entities, one of them owned by client 7. -/
def crowdedSnapshot : SnapshotDTO :=
  { snapshotId := 10
    baselineId := 9
    entities :=
      [ { replication := { entityId := { value := 5 }, priority := .medium } },
        { replication := { entityId := { value := 3 }, priority := .high } },
        { replication := { entityId := { value := 2 }, priority := .low } },
        { replication := { entityId := { value := 9 }, ownerClientId := 7, priority := .medium } } ] }

theorem planner_keeps_best_two :
    KeepsBest { maxEntitiesPerSnapshot := 2 } crowdedSnapshot 7
        (ReplicationPlannerConfig.plan { maxEntitiesPerSnapshot := 2 } crowdedSnapshot 7) ∧
      ((ReplicationPlannerConfig.plan { maxEntitiesPerSnapshot := 2 }
        crowdedSnapshot 7).snapshot.entities.map fun entity => entity.replication.entityId) = [{ value := 9 }, { value := 3 }] :=
  ⟨planner_keeps_best _ rfl crowdedSnapshot 7 (by decide), by decide⟩

end Brawololo.RankedPlans
