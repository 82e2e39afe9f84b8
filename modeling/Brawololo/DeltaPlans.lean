import Brawololo.Replication
import Brawololo.SnapshotCodec

/-!
What the delta plan of a snapshot says about it. Whoever holds the baseline and
the entities that were added or changed rebuilds the snapshot from the plan,
because an entity counts as unchanged only when every field of it is.
-/

namespace Brawololo.DeltaPlans

open GameTypes Replication SnapshotCodec

/-! Entities by their ids. -/

def idOf (entity : EntityStateDTO) : NetworkEntityId := entity.replication.entityId

def ids (snapshot : SnapshotDTO) : List NetworkEntityId := snapshot.entities.map idOf

theorem find_entity_none (snapshot : SnapshotDTO) (entityId : NetworkEntityId) :
    findEntity snapshot entityId = none ↔ entityId ∉ ids snapshot := by
  unfold findEntity ids idOf
  rw [List.find?_eq_none, List.mem_map]
  simp

theorem find_entity_some {snapshot : SnapshotDTO} {entityId : NetworkEntityId}
    {entity : EntityStateDTO} (found : findEntity snapshot entityId = some entity) :
    entity ∈ snapshot.entities ∧ idOf entity = entityId :=
  ⟨List.mem_of_find?_eq_some found, by simpa [idOf] using List.find?_some found⟩

/-- Distinct ids: an entity is found under its id. -/
theorem find_entity_self {snapshot : SnapshotDTO} (distinct : (ids snapshot).Nodup)
    {entity : EntityStateDTO} (member : entity ∈ snapshot.entities) :
    findEntity snapshot (idOf entity) = some entity := by
  cases found : findEntity snapshot (idOf entity) with
  | none =>
      exact absurd (List.mem_map_of_mem member) ((find_entity_none _ _).mp found)
  | some other =>
      obtain ⟨isOther, same⟩ := find_entity_some found
      rw [List.inj_on_of_nodup_map distinct isOther member same]

/-! The entries of a plan. -/

/-- The entries for the entities of the current snapshot. -/
def seenDeltas (current baseline : SnapshotDTO) : List SnapshotEntityDelta :=
  current.entities.map fun entity =>
    { entityId := idOf entity, kind := deltaKind baseline entity }

/-- The entries for the entities that only the baseline has. -/
def goneDeltas (current baseline : SnapshotDTO) : List SnapshotEntityDelta :=
  (baseline.entities.filter fun entity => idOf entity ∉ ids current).map fun entity =>
    { entityId := idOf entity, kind := .removed }

def ofKind (kind : SnapshotEntityDeltaKind) (deltas : List SnapshotEntityDelta) : Nat :=
  deltas.countP fun delta => delta.kind = kind

theorem kinds_sum (deltas : List SnapshotEntityDelta) :
    ofKind .added deltas + ofKind .changed deltas + ofKind .unchanged deltas +
      ofKind .removed deltas = deltas.length := by
  unfold ofKind
  induction deltas with
  | nil => rfl
  | cons delta rest ih =>
      cases kind : delta.kind <;> simp [kind] <;> omega

theorem count_deltas (deltas : List SnapshotEntityDelta) (plan : SnapshotDeltaPlan) :
    deltas.foldl countDelta plan =
      { plan with
        entities := plan.entities ++ deltas
        addedCount := plan.addedCount + ofKind .added deltas
        changedCount := plan.changedCount + ofKind .changed deltas
        removedCount := plan.removedCount + ofKind .removed deltas
        unchangedCount := plan.unchangedCount + ofKind .unchanged deltas } := by
  induction deltas generalizing plan with
  | nil => simp [ofKind]
  | cons delta rest ih =>
      rw [List.foldl_cons, ih]
      unfold ofKind countDelta
      cases kind : delta.kind <;> simp [kind, Nat.add_assoc, Nat.add_comm 1]

theorem plan_eq (current baseline : SnapshotDTO) :
    let deltas := seenDeltas current baseline ++ goneDeltas current baseline
    planSnapshotDelta current baseline =
      { snapshotId := current.snapshotId
        baselineId := current.baselineId
        baselineMatched := current.baselineId ≠ 0 && current.baselineId = baseline.snapshotId
        entities := deltas
        addedCount := ofKind .added deltas
        changedCount := ofKind .changed deltas
        removedCount := ofKind .removed deltas
        unchangedCount := ofKind .unchanged deltas } := by
  have gone : goneDeltas current baseline = (baseline.entities.filter fun entity =>
      !(current.entities.any fun other =>
        other.replication.entityId = entity.replication.entityId)).map fun entity =>
      { entityId := entity.replication.entityId, kind := .removed } := by
    unfold goneDeltas
    congr 1
    apply List.filter_congr
    intro entity _
    unfold ids idOf
    rw [Bool.eq_iff_iff]
    simp
  unfold planSnapshotDelta
  dsimp only
  rw [count_deltas, ← gone]
  simp [seenDeltas, idOf]

section Kinds

variable (current baseline : SnapshotDTO)

/-- An entity is not listed as removed, and it is listed as unchanged only when
the baseline has the same entity. -/
theorem delta_kind_cases (entity : EntityStateDTO) :
    deltaKind baseline entity = .added ∧ idOf entity ∉ ids baseline ∨
      idOf entity ∈ ids baseline ∧ (deltaKind baseline entity = .changed ∨
        deltaKind baseline entity = .unchanged ∧
          findEntity baseline (idOf entity) = some entity) := by
  unfold deltaKind
  cases found : findEntity baseline entity.replication.entityId with
  | none => exact Or.inl ⟨rfl, (find_entity_none _ _).mp found⟩
  | some held =>
      obtain ⟨member, same⟩ := find_entity_some found
      refine Or.inr ⟨List.mem_map.mpr ⟨held, member, same⟩, ?_⟩
      dsimp only
      by_cases equivalent : equivalentEntityState entity held = true
      · rw [if_pos equivalent]
        rw [(equivalent_entity_state_iff entity held).mp equivalent] at found ⊢
        exact Or.inr ⟨rfl, found⟩
      · rw [if_neg equivalent]
        exact Or.inl rfl

theorem seen_not_removed : ofKind .removed (seenDeltas current baseline) = 0 := by
  unfold ofKind seenDeltas
  rw [List.countP_map, List.countP_eq_zero]
  intro entity _ removed
  have isRemoved : deltaKind baseline entity = .removed := of_decide_eq_true removed
  rcases delta_kind_cases baseline entity with ⟨kind, _⟩ | ⟨_, kind | ⟨kind, _⟩⟩ <;>
    (rw [kind] at isRemoved; cases isRemoved)

/-- Every entity of the current snapshot is of one of the other three kinds. -/
theorem seen_counts :
    ofKind .added (seenDeltas current baseline) + ofKind .changed (seenDeltas current baseline) +
      ofKind .unchanged (seenDeltas current baseline) = current.entities.length := by
  have sum := kinds_sum (seenDeltas current baseline)
  have size : (seenDeltas current baseline).length = current.entities.length := List.length_map _
  rw [seen_not_removed, size] at sum
  exact sum

theorem gone_counts (kind : SnapshotEntityDeltaKind) :
    ofKind kind (goneDeltas current baseline) =
      if kind = .removed then (baseline.entities.countP fun entity => idOf entity ∉ ids current)
      else 0 := by
  unfold ofKind goneDeltas
  rw [List.countP_map, List.countP_eq_length_filter, List.countP_eq_length_filter]
  cases kind <;> simp [Function.comp_def]

/-- The added entities are those whose id the baseline does not have. -/
theorem added_count :
    ofKind .added (seenDeltas current baseline) =
      (ids current).countP fun entityId => entityId ∉ ids baseline := by
  unfold ofKind seenDeltas
  rw [List.countP_map]
  unfold ids
  rw [List.countP_map]
  apply List.countP_congr
  intro entity _
  simp only [Function.comp_apply, decide_eq_true_eq]
  rcases delta_kind_cases baseline entity with ⟨kind, absent⟩ | ⟨present, kind | ⟨kind, _⟩⟩
  · simpa [kind, ids] using absent
  · simpa [kind, ids] using present
  · simpa [kind, ids] using present

end Kinds

/-- Two lists without repetitions share as many items either way. -/
theorem shared_count {first second : List NetworkEntityId} (one : first.Nodup)
    (two : second.Nodup) :
    (first.countP fun entityId => entityId ∈ second) =
      second.countP fun entityId => entityId ∈ first := by
  rw [List.countP_eq_length_filter, List.countP_eq_length_filter]
  apply List.Perm.length_eq
  rw [List.perm_ext_iff_of_nodup (one.filter _) (two.filter _)]
  intro entityId
  simp [and_comm]

/-! Rebuilding. -/

/-- The entities that a holder of the baseline reads from the entries of a
plan, given those of the current snapshot that are not unchanged. -/
def rebuilt (current baseline : SnapshotDTO) (deltas : List SnapshotEntityDelta) :
    List EntityStateDTO :=
  deltas.filterMap fun delta =>
    match delta.kind with
    | .removed => none
    | .unchanged => findEntity baseline delta.entityId
    | .added | .changed => findEntity current delta.entityId

theorem rebuilt_seen (current baseline : SnapshotDTO) (distinct : (ids current).Nodup) :
    rebuilt current baseline (seenDeltas current baseline) = current.entities := by
  unfold rebuilt seenDeltas
  rw [List.filterMap_map]
  calc current.entities.filterMap _
      = current.entities.filterMap some := by
        apply List.filterMap_congr
        intro entity member
        have found := find_entity_self distinct member
        rcases delta_kind_cases baseline entity with ⟨kind, _⟩ | ⟨_, kind | ⟨kind, held⟩⟩
        · simpa [kind] using found
        · simpa [kind] using found
        · simpa [kind] using held
    _ = current.entities := List.filterMap_some

theorem rebuilt_gone (current baseline : SnapshotDTO) :
    rebuilt current baseline (goneDeltas current baseline) = [] := by
  unfold rebuilt goneDeltas
  rw [List.filterMap_map]
  exact List.filterMap_eq_nil_iff.mpr fun _ _ => rfl

/-- The plan is enough to rebuild the current snapshot, names what left it, and
counts its entries. -/
structure Sufficient (current baseline : SnapshotDTO) (plan : SnapshotDeltaPlan) : Prop where
  rebuilds : (rebuilt current baseline plan.entities).flatMap writeEntity =
    current.entities.flatMap writeEntity
  removed : ∀ delta ∈ plan.entities, delta.kind = .removed →
    delta.entityId ∈ ids baseline ∧ delta.entityId ∉ ids current
  removedOnce : ∀ entityId ∈ ids baseline, entityId ∉ ids current →
    plan.entities.count { entityId := entityId, kind := .removed } = 1
  currentCount : plan.addedCount + plan.changedCount + plan.unchangedCount = current.entities.length
  baselineCount :
    plan.removedCount + plan.changedCount + plan.unchangedCount = baseline.entities.length

theorem removed_entry {current baseline : SnapshotDTO} {delta : SnapshotEntityDelta}
    (member : delta ∈ seenDeltas current baseline ++ goneDeltas current baseline)
    (removed : delta.kind = .removed) :
    delta.entityId ∈ ids baseline ∧ delta.entityId ∉ ids current := by
  rcases List.mem_append.mp member with seen | gone
  · have noneRemoved := seen_not_removed current baseline
    unfold ofKind at noneRemoved
    rw [List.countP_eq_zero] at noneRemoved
    exact absurd (decide_eq_true removed) (noneRemoved delta seen)
  · obtain ⟨entity, isEntity, rfl⟩ := List.mem_map.mp gone
    obtain ⟨member, absent⟩ := List.mem_filter.mp isEntity
    exact ⟨List.mem_map_of_mem member, of_decide_eq_true absent⟩

/-- The removed entries repeat no id, because the baseline does not. -/
theorem gone_nodup (current baseline : SnapshotDTO) (distinct : (ids baseline).Nodup) :
    (goneDeltas current baseline).Nodup := by
  unfold goneDeltas
  have apart := distinct.sublist (List.filter_sublist.map idOf :
    ((baseline.entities.filter fun entity => idOf entity ∉ ids current).map idOf).Sublist _)
  apply List.Nodup.of_map SnapshotEntityDelta.entityId
  rw [List.map_map]
  exact apart

theorem of_kind_append (kind : SnapshotEntityDeltaKind) (first second : List SnapshotEntityDelta) :
    ofKind kind (first ++ second) = ofKind kind first + ofKind kind second :=
  List.countP_append

/-- A list splits into the items with a property and the others. -/
theorem count_split (list : List NetworkEntityId) (other : List NetworkEntityId) :
    list.length = (list.countP fun entityId => entityId ∈ other) +
      list.countP fun entityId => entityId ∉ other := by
  have split := List.length_eq_countP_add_countP (fun entityId => decide (entityId ∈ other)) (l := list)
  simpa using split

/-- The changed and the unchanged entities are those that the baseline has too. -/
theorem baseline_count (current baseline : SnapshotDTO) (currentDistinct : (ids current).Nodup)
    (baselineDistinct : (ids baseline).Nodup) :
    (baseline.entities.countP fun entity => idOf entity ∉ ids current) +
        ofKind .changed (seenDeltas current baseline) +
        ofKind .unchanged (seenDeltas current baseline) =
      baseline.entities.length := by
  have seen := seen_counts current baseline
  have added := added_count current baseline
  have shared := shared_count currentDistinct baselineDistinct
  have currentSplit := count_split (ids current) (ids baseline)
  have baselineSplit := count_split (ids baseline) (ids current)
  have gone : ((ids baseline).countP fun entityId => entityId ∉ ids current) =
      baseline.entities.countP fun entity => idOf entity ∉ ids current := List.countP_map
  have currentLength : (ids current).length = current.entities.length := List.length_map _
  have baselineLength : (ids baseline).length = baseline.entities.length := List.length_map _
  omega

theorem removed_once {current baseline : SnapshotDTO} (distinct : (ids baseline).Nodup)
    {entityId : NetworkEntityId} (held : entityId ∈ ids baseline) (absent : entityId ∉ ids current) :
    (seenDeltas current baseline ++ goneDeltas current baseline).count
      { entityId := entityId, kind := .removed } = 1 := by
  obtain ⟨entity, isEntity, rfl⟩ := List.mem_map.mp held
  have gone : { entityId := idOf entity, kind := .removed } ∈ goneDeltas current baseline :=
    List.mem_map.mpr ⟨entity, List.mem_filter.mpr ⟨isEntity, decide_eq_true absent⟩, rfl⟩
  have unseen : { entityId := idOf entity, kind := .removed } ∉ seenDeltas current baseline := by
    intro seen
    have noneRemoved := seen_not_removed current baseline
    unfold ofKind at noneRemoved
    exact absurd (decide_eq_true rfl) (List.countP_eq_zero.mp noneRemoved _ seen)
  rw [List.count_append, List.count_eq_zero_of_not_mem unseen,
    List.count_eq_one_of_mem (gone_nodup current baseline distinct) gone]

theorem delta_plan_sufficient (current baseline : SnapshotDTO)
    (currentDistinct : (ids current).Nodup) (baselineDistinct : (ids baseline).Nodup) :
    Sufficient current baseline (planSnapshotDelta current baseline) := by
  rw [plan_eq]
  constructor
  · dsimp only
    unfold rebuilt
    rw [List.filterMap_append]
    change (rebuilt current baseline (seenDeltas current baseline) ++
      rebuilt current baseline (goneDeltas current baseline)).flatMap writeEntity = _
    rw [rebuilt_seen current baseline currentDistinct, rebuilt_gone, List.append_nil]
  · exact fun delta member kind => removed_entry member kind
  · exact fun entityId held absent => removed_once baselineDistinct held absent
  · have seen := seen_counts current baseline
    simpa [of_kind_append, gone_counts] using seen
  · have counted := baseline_count current baseline currentDistinct baselineDistinct
    simpa [of_kind_append, gone_counts, seen_not_removed] using counted

/-- The entity with this id at this place. -/
def placedEntity (entityId : UInt32) (x : Fixed) : EntityStateDTO :=
  { movement := { entityId := { value := entityId }, x := x }
    combat := some { entityId := { value := entityId } }
    replication := { entityId := { value := entityId }, ownerClientId := entityId } }

/-- One entity stays, one moves, one leaves and one comes. -/
theorem delta_plan_sufficient_mixed :
    let baseline : SnapshotDTO :=
      { snapshotId := 10, entities := [placedEntity 1 0, placedEntity 2 0, placedEntity 3 0] }
    let current : SnapshotDTO :=
      { snapshotId := 11, baselineId := 10, deliveryKind := .deltaEligible,
        entities := [placedEntity 1 0, placedEntity 2 32000, placedEntity 4 0] }
    Sufficient current baseline (planSnapshotDelta current baseline) ∧
      (planSnapshotDelta current baseline).entities.map SnapshotEntityDelta.kind =
        [.unchanged, .changed, .added, .removed] :=
  ⟨delta_plan_sufficient _ _ (by decide) (by decide), by decide +kernel⟩

end Brawololo.DeltaPlans
