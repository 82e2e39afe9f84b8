import Brawololo.PresentationFrames
import Brawololo.TrappingArithmetic

/-!
How presented entities move. Between two snapshots an entity is shown at a
truncated share of the way from one to the other, in thousandths that are
truncated themselves. It starts where the first snapshot has it, only comes
closer to where the second has it, and is there at the second's time.
-/

namespace Brawololo.InterpolatedMotion

open GameTypes Client TrappingArithmetic

/-! Shares of a way, in the integers. -/

/-- `source` and `alpha` thousandths of the way to `target`. -/
def blend (source target : Int) (alpha : Nat) : Int :=
  source + ((target - source) * alpha).tdiv 1000

structure Between (source target value : Int) : Prop where
  least : min source target ≤ value
  most : value ≤ max source target

section Blending

variable (source target : Int) {alpha beta : Nat}

theorem blend_zero : blend source target 0 = source := by
  simp [blend]

theorem scaled_bounds (way : Int) (small : alpha ≤ 1000) :
    min 0 (way * 1000) ≤ way * alpha ∧ way * alpha ≤ max 0 (way * 1000) := by
  rcases Int.le_total 0 way with ahead | back
  · have product := Int.mul_nonneg ahead (Int.natCast_nonneg alpha)
    have limit : way * alpha ≤ way * 1000 := Int.mul_le_mul_of_nonneg_left (by omega) ahead
    omega
  · have product := Int.mul_nonpos_of_nonpos_of_nonneg back (Int.natCast_nonneg alpha)
    have limit : way * 1000 ≤ way * alpha := Int.mul_le_mul_of_nonpos_left back (by omega)
    omega

/-- The share has the sign of the way and is at most the way. -/
theorem share_bounds (way : Int) (small : alpha ≤ 1000) :
    min 0 way ≤ (way * alpha).tdiv 1000 ∧ (way * alpha).tdiv 1000 ≤ max 0 way := by
  have scaled := scaled_bounds way small
  exact tdiv_between (by decide) (by omega) (by omega)

theorem blend_between (small : alpha ≤ 1000) :
    Between source target (blend source target alpha) := by
  have bounds := share_bounds (target - source) small
  unfold blend
  constructor
  · omega
  · omega

/-- A larger share is closer to the target. -/
theorem blend_approaches (ordered : alpha ≤ beta) (small : beta ≤ 1000) :
    |target - blend source target beta| ≤ |target - blend source target alpha| := by
  have alphaBounds := share_bounds (target - source) (ordered.trans small)
  have betaBounds := share_bounds (target - source) small
  unfold blend
  rcases Int.le_total 0 (target - source) with ahead | back
  · have grows : ((target - source) * alpha).tdiv 1000 ≤ ((target - source) * beta).tdiv 1000 :=
      Int.tdiv_le_tdiv (by decide) (Int.mul_le_mul_of_nonneg_left (by omega) ahead)
    rw [abs_of_nonneg (by omega), abs_of_nonneg (by omega)]
    omega
  · have shrinks : ((target - source) * beta).tdiv 1000 ≤ ((target - source) * alpha).tdiv 1000 :=
      Int.tdiv_le_tdiv (by decide) (Int.mul_le_mul_of_nonpos_left back (by omega))
    rw [abs_of_nonpos (by omega), abs_of_nonpos (by omega)]
    omega

end Blending

/-! The arithmetic of the code. -/

/-- The numbers that `LerpFixed` and `LerpAim` cast at their end. -/
def wideFixed (source target : Fixed) (alphaPermille : UInt16) : Int64 :=
  source.toInt64 + (target.toInt64 - source.toInt64) * alphaPermille.toUInt64.toInt64 / 1000

def wideAim (source target : Int16) (alphaPermille : UInt16) : Int32 :=
  source.toInt32 + (target.toInt32 - source.toInt32) * alphaPermille.toUInt32.toInt32 / 1000

section Lerping

variable {alphaPermille : UInt16}

theorem alpha_toInt64 (alphaPermille : UInt16) :
    alphaPermille.toUInt64.toInt64.toInt = alphaPermille.toNat := by
  have limit := alphaPermille.toNat_lt
  have widened : alphaPermille.toUInt64.toNat = alphaPermille.toNat := UInt16.toNat_toUInt64 _
  rw [toInt64_eq (by omega), widened]

theorem alpha_toInt32 (alphaPermille : UInt16) :
    alphaPermille.toUInt32.toInt32.toInt = alphaPermille.toNat := by
  have limit := alphaPermille.toNat_lt
  have widened : alphaPermille.toUInt32.toNat = alphaPermille.toNat := UInt16.toNat_toUInt32 _
  have cast : alphaPermille.toUInt32.toInt32.toInt =
      (alphaPermille.toUInt32.toNat : Int).bmod (2 ^ 32) :=
    BitVec.toInt_eq_toNat_bmod alphaPermille.toUInt32.toBitVec
  rw [cast, widened]
  exact bmod32_eq ⟨by omega, by omega⟩

/-- No step of the 64-bit expression wraps. -/
theorem wide_fixed_eq (source target : Fixed) (small : alphaPermille.toNat ≤ 1000) :
    (wideFixed source target alphaPermille).toInt =
      blend source.toInt target.toInt alphaPermille.toNat := by
  have sourceMin := source.le_toInt
  have sourceMax := source.toInt_lt
  have targetMin := target.le_toInt
  have targetMax := target.toInt_lt
  have scaled := scaled_bounds (target.toInt - source.toInt) small
  have share := share_bounds (target.toInt - source.toInt) small
  have delta : (target.toInt64 - source.toInt64).toInt = target.toInt - source.toInt := by
    rw [Int64.toInt_sub, Int32.toInt_toInt64, Int32.toInt_toInt64]
    exact bmod64_eq ⟨by omega, by omega⟩
  have product : ((target.toInt64 - source.toInt64) * alphaPermille.toUInt64.toInt64).toInt =
      (target.toInt - source.toInt) * alphaPermille.toNat := by
    rw [Int64.toInt_mul, delta, alpha_toInt64]
    exact bmod64_eq ⟨by omega, by omega⟩
  have quotient : ((target.toInt64 - source.toInt64) * alphaPermille.toUInt64.toInt64 /
      1000).toInt = ((target.toInt - source.toInt) * alphaPermille.toNat).tdiv 1000 := by
    rw [Int64.toInt_div, product, show (1000 : Int64).toInt = 1000 by decide]
    exact bmod64_eq ⟨by omega, by omega⟩
  unfold wideFixed blend
  rw [Int64.toInt_add, quotient, Int32.toInt_toInt64]
  exact bmod64_eq ⟨by omega, by omega⟩

/-- No step of the 32-bit expression wraps. -/
theorem wide_aim_eq (source target : Int16) (small : alphaPermille.toNat ≤ 1000) :
    (wideAim source target alphaPermille).toInt =
      blend source.toInt target.toInt alphaPermille.toNat := by
  have sourceMin := source.le_toInt
  have sourceMax := source.toInt_lt
  have targetMin := target.le_toInt
  have targetMax := target.toInt_lt
  have scaled := scaled_bounds (target.toInt - source.toInt) small
  have share := share_bounds (target.toInt - source.toInt) small
  have delta : (target.toInt32 - source.toInt32).toInt = target.toInt - source.toInt := by
    rw [Int32.toInt_sub, Int16.toInt_toInt32, Int16.toInt_toInt32]
    exact bmod32_eq ⟨by omega, by omega⟩
  have product : ((target.toInt32 - source.toInt32) * alphaPermille.toUInt32.toInt32).toInt =
      (target.toInt - source.toInt) * alphaPermille.toNat := by
    rw [Int32.toInt_mul, delta, alpha_toInt32]
    exact bmod32_eq ⟨by omega, by omega⟩
  have quotient : ((target.toInt32 - source.toInt32) * alphaPermille.toUInt32.toInt32 /
      1000).toInt = ((target.toInt - source.toInt) * alphaPermille.toNat).tdiv 1000 := by
    rw [Int32.toInt_div, product, show (1000 : Int32).toInt = 1000 by decide]
    exact bmod32_eq ⟨by omega, by omega⟩
  unfold wideAim blend
  rw [Int32.toInt_add, quotient, Int16.toInt_toInt32]
  exact bmod32_eq ⟨by omega, by omega⟩

theorem lerp_fixed_eq (source target : Fixed) (small : alphaPermille.toNat ≤ 1000) :
    (lerpFixed source target alphaPermille).toInt =
      blend source.toInt target.toInt alphaPermille.toNat := by
  have sourceMin := source.le_toInt
  have sourceMax := source.toInt_lt
  have targetMin := target.le_toInt
  have targetMax := target.toInt_lt
  have between := blend_between source.toInt target.toInt small
  have least := between.least
  have most := between.most
  have wide := wide_fixed_eq source target small
  have narrowed : (wideFixed source target alphaPermille).toInt32.toInt =
      (wideFixed source target alphaPermille).toInt := by
    rw [Int64.toInt_toInt32, wide]
    exact bmod32_eq ⟨by omega, by omega⟩
  exact narrowed.trans wide

theorem lerp_aim_eq (source target : Int16) (small : alphaPermille.toNat ≤ 1000) :
    (lerpAim source target alphaPermille).toInt =
      blend source.toInt target.toInt alphaPermille.toNat := by
  have sourceMin := source.le_toInt
  have sourceMax := source.toInt_lt
  have targetMin := target.le_toInt
  have targetMax := target.toInt_lt
  have between := blend_between source.toInt target.toInt small
  have least := between.least
  have most := between.most
  have wide := wide_aim_eq source target small
  have narrowed : (wideAim source target alphaPermille).toInt16.toInt =
      (wideAim source target alphaPermille).toInt := by
    rw [Int32.toInt_toInt16, wide]
    exact Int.bmod_eq_of_le (by omega) (by omega)
  exact narrowed.trans wide

end Lerping

/-! The share of the way. -/

/-- The snapshots are in time order, and their times leave room for thousandths. -/
structure InOrder (source target : SnapshotDTO) : Prop where
  ordered : source.serverTimeMs < target.serverTimeMs
  small : target.serverTimeMs.toNat < 2 ^ 53

/-- The number that is cast to the share. -/
def wideAlpha (renderServerTimeMs : TimestampMs) (source target : SnapshotDTO) : Nat :=
  (renderServerTimeMs.toNat - source.serverTimeMs.toNat) * 1000 /
    (target.serverTimeMs.toNat - source.serverTimeMs.toNat)

section Alpha

variable {source target : SnapshotDTO} {time : TimestampMs}

theorem wide_alpha_small (inOrder : InOrder source target) (later : time < target.serverTimeMs) :
    wideAlpha time source target ≤ 1000 := by
  have ordered := UInt64.lt_iff_toNat_lt.mp inOrder.ordered
  have before := UInt64.lt_iff_toNat_lt.mp later
  unfold wideAlpha
  exact Nat.div_le_of_le_mul (Nat.mul_le_mul_right 1000 (by omega))

theorem alpha_eq (inOrder : InOrder source target) (reached : source.serverTimeMs ≤ time)
    (later : time < target.serverTimeMs) :
    (alphaBetween time source target).toNat = wideAlpha time source target := by
  have ordered := UInt64.lt_iff_toNat_lt.mp inOrder.ordered
  have before := UInt64.lt_iff_toNat_lt.mp later
  have small := inOrder.small
  have elapsed : (if source.serverTimeMs < time then time - source.serverTimeMs else 0).toNat =
      time.toNat - source.serverTimeMs.toNat := by
    split
    · exact UInt64.toNat_sub_of_le _ _ reached
    · next notBefore =>
        rw [UInt64.le_antisymm (UInt64.not_lt.mp notBefore) reached]
        simp
  have duration : (target.serverTimeMs - source.serverTimeMs).toNat =
      target.serverTimeMs.toNat - source.serverTimeMs.toNat :=
    UInt64.toNat_sub_of_le _ _ (UInt64.le_of_lt inOrder.ordered)
  have quotient : ((if source.serverTimeMs < time then time - source.serverTimeMs else 0) * 1000 /
      (target.serverTimeMs - source.serverTimeMs)).toNat = wideAlpha time source target := by
    rw [UInt64.toNat_div, UInt64.toNat_mul, elapsed, duration,
      show (1000 : UInt64).toNat = 1000 by decide, Nat.mod_eq_of_lt (by omega)]
    rfl
  have share := wide_alpha_small inOrder later
  unfold alphaBetween
  dsimp only
  rw [if_neg (UInt64.not_lt.mpr (UInt64.le_iff_toNat_le.mpr (by rw [quotient]; exact share))),
    UInt64.toNat_toUInt16, quotient]
  exact Nat.mod_eq_of_lt (by omega)

end Alpha

/-! What is shown of an entity. -/

inductive Coordinate where
  | x
  | y
  | aimX
  | aimY

def Coordinate.placed : Coordinate → EntityStateDTO → Int
  | .x, entity => entity.movement.x.toInt
  | .y, entity => entity.movement.y.toInt
  | .aimX, entity => entity.movement.aimX.toInt
  | .aimY, entity => entity.movement.aimY.toInt

def Coordinate.shown : Coordinate → InterpolatedEntityState → Int
  | .x, entity => entity.x.toInt
  | .y, entity => entity.y.toInt
  | .aimX, entity => entity.aimX.toInt
  | .aimY, entity => entity.aimY.toInt

/-- The entity with the id is among those shown, once. -/
structure Shows (entities : List InterpolatedEntityState) (entityId : NetworkEntityId)
    (shown : InterpolatedEntityState) : Prop where
  member : shown ∈ entities
  named : shown.entityId = entityId
  once : ∀ other ∈ entities, other.entityId = entityId → other = shown

def DistinctIds (snapshot : SnapshotDTO) : Prop :=
  (snapshot.entities.map fun entity => entity.replication.entityId).Nodup

theorem interpolated_id (target : EntityStateDTO) (source : Option EntityStateDTO)
    (alphaPermille : UInt16) :
    (toInterpolatedEntity target source alphaPermille).entityId = target.replication.entityId := by
  unfold toInterpolatedEntity
  cases source with
  | none => cases target.combat <;> rfl
  | some source => cases target.combat <;> rfl

theorem shown_standing (coordinate : Coordinate) (target : EntityStateDTO)
    (alphaPermille : UInt16) :
    coordinate.shown (toInterpolatedEntity target none alphaPermille) =
      coordinate.placed target := by
  unfold toInterpolatedEntity
  cases target.combat with
  | none => cases coordinate <;> rfl
  | some combat => cases coordinate <;> rfl

theorem shown_blended (coordinate : Coordinate) (target source : EntityStateDTO)
    {alphaPermille : UInt16} (small : alphaPermille.toNat ≤ 1000) :
    coordinate.shown (toInterpolatedEntity target (some source) alphaPermille) =
      blend (coordinate.placed source) (coordinate.placed target) alphaPermille.toNat := by
  have fixed := @lerp_fixed_eq alphaPermille
  have aim := @lerp_aim_eq alphaPermille
  unfold toInterpolatedEntity
  cases target.combat with
  | none =>
      cases coordinate with
      | x => exact fixed _ _ small
      | y => exact fixed _ _ small
      | aimX => exact aim _ _ small
      | aimY => exact aim _ _ small
  | some combat =>
      cases coordinate with
      | x => exact fixed _ _ small
      | y => exact fixed _ _ small
      | aimX => exact aim _ _ small
      | aimY => exact aim _ _ small

theorem find_entity_of_mem {snapshot : SnapshotDTO} (distinct : DistinctIds snapshot)
    {entity : EntityStateDTO} (member : entity ∈ snapshot.entities) :
    findEntity snapshot entity.replication.entityId = some entity := by
  cases found : findEntity snapshot entity.replication.entityId with
  | none =>
      have unfound := List.find?_eq_none.mp found entity member
      simp at unfound
  | some other =>
      have sameId : other.replication.entityId = entity.replication.entityId := by
        simpa using List.find?_some found
      rw [List.inj_on_of_nodup_map distinct (List.mem_of_find?_eq_some found) member sameId]

theorem shows_mapped {snapshot : SnapshotDTO} (distinct : DistinctIds snapshot)
    (show' : EntityStateDTO → InterpolatedEntityState)
    (keeps : ∀ entity, (show' entity).entityId = entity.replication.entityId)
    {entity : EntityStateDTO} (member : entity ∈ snapshot.entities) :
    Shows (snapshot.entities.map show') entity.replication.entityId (show' entity) := by
  refine ⟨List.mem_map_of_mem member, keeps entity, ?_⟩
  intro other otherMember sameId
  obtain ⟨source, sourceMember, rfl⟩ := List.mem_map.mp otherMember
  rw [keeps] at sameId
  rw [List.inj_on_of_nodup_map distinct sourceMember member sameId]

theorem Shows.unique {entities : List InterpolatedEntityState} {entityId : NetworkEntityId}
    {first second : InterpolatedEntityState} (isFirst : Shows entities entityId first)
    (isSecond : Shows entities entityId second) : first = second :=
  isSecond.once first isFirst.member isFirst.named

/-- Every entity of the snapshot is shown, in order, where the snapshot has it. -/
def Unchanged (snapshot : SnapshotDTO) (entities : List InterpolatedEntityState) : Prop :=
  List.Forall₂ (fun entity shown => shown.entityId = entity.replication.entityId ∧
    ∀ coordinate : Coordinate, coordinate.shown shown = coordinate.placed entity)
    snapshot.entities entities

theorem standing_unchanged (snapshot : SnapshotDTO) : Unchanged snapshot (standing snapshot) := by
  unfold Unchanged standing
  rw [List.forall₂_map_right_iff, List.forall₂_same]
  intro entity _
  exact ⟨interpolated_id entity none 0, fun coordinate => shown_standing coordinate entity 0⟩

/-! Motion between two snapshots. -/

/-- What is assumed of a buffer. -/
structure Buffered (snapshots : List SnapshotDTO) : Prop where
  ordered : snapshots.Pairwise fun first second => first.serverTimeMs < second.serverTimeMs
  small : ∀ snapshot ∈ snapshots, snapshot.serverTimeMs.toNat < 2 ^ 53
  distinct : ∀ snapshot ∈ snapshots, DistinctIds snapshot

/-- No cast to a narrower number on the way from `first` to `second` changes it. -/
structure NarrowsExactly (time : TimestampMs) (source target : SnapshotDTO)
    (first second : EntityStateDTO) : Prop where
  alpha : (alphaBetween time source target).toNat = wideAlpha time source target
  x : (lerpFixed first.movement.x second.movement.x (alphaBetween time source target)).toInt =
    (wideFixed first.movement.x second.movement.x (alphaBetween time source target)).toInt
  y : (lerpFixed first.movement.y second.movement.y (alphaBetween time source target)).toInt =
    (wideFixed first.movement.y second.movement.y (alphaBetween time source target)).toInt
  aimX : (lerpAim first.movement.aimX second.movement.aimX
      (alphaBetween time source target)).toInt =
    (wideAim first.movement.aimX second.movement.aimX (alphaBetween time source target)).toInt
  aimY : (lerpAim first.movement.aimY second.movement.aimY
      (alphaBetween time source target)).toInt =
    (wideAim first.movement.aimY second.movement.aimY (alphaBetween time source target)).toInt

/-- How `first` in `source` moves to `second` in the next snapshot, along one
coordinate, while the render time is between the times of the two. -/
structure Moves (interpolator : PresentationInterpolator) (source target : SnapshotDTO)
    (rest : List SnapshotDTO) (first second : EntityStateDTO) (coordinate : Coordinate) :
    Prop where
  between : ∀ now, source.serverTimeMs ≤ renderTime interpolator.config.interpolationDelayMs now →
    renderTime interpolator.config.interpolationDelayMs now < target.serverTimeMs →
    ∃ shown, Shows (interpolator.sample now).entities second.replication.entityId shown ∧
      Between (coordinate.placed first) (coordinate.placed second) (coordinate.shown shown)
  starts : ∀ now, renderTime interpolator.config.interpolationDelayMs now = source.serverTimeMs →
    ∃ shown, Shows (interpolator.sample now).entities second.replication.entityId shown ∧
      coordinate.shown shown = coordinate.placed first
  approaches : ∀ now now',
    source.serverTimeMs ≤ renderTime interpolator.config.interpolationDelayMs now →
    renderTime interpolator.config.interpolationDelayMs now ≤
      renderTime interpolator.config.interpolationDelayMs now' →
    renderTime interpolator.config.interpolationDelayMs now' < target.serverTimeMs →
    ∀ shown shown', Shows (interpolator.sample now).entities second.replication.entityId shown →
      Shows (interpolator.sample now').entities second.replication.entityId shown' →
      |coordinate.placed second - coordinate.shown shown'| ≤
        |coordinate.placed second - coordinate.shown shown|
  arrives : ∀ now, renderTime interpolator.config.interpolationDelayMs now = target.serverTimeMs →
    (∀ successor ∈ rest.head?, ∃ third ∈ successor.entities,
      third.replication.entityId = second.replication.entityId) →
    ∃ shown, Shows (interpolator.sample now).entities second.replication.entityId shown ∧
      coordinate.shown shown = coordinate.placed second

section Moving

variable {interpolator : PresentationInterpolator} {earlier rest : List SnapshotDTO}
  {source target : SnapshotDTO} {first second : EntityStateDTO}

/-- Consecutive snapshots are in time order, after all that are before them. -/
theorem consecutive (buffered : Buffered interpolator.snapshots)
    (split : interpolator.snapshots = earlier ++ source :: target :: rest) :
    InOrder source target ∧ DistinctIds source ∧ DistinctIds target ∧
      ∀ snapshot ∈ earlier, snapshot.serverTimeMs < source.serverTimeMs := by
  have ordered := buffered.ordered
  rw [split] at ordered
  obtain ⟨_, tail, across⟩ := List.pairwise_append.mp ordered
  have sourceMember : source ∈ interpolator.snapshots := by simp [split]
  have targetMember : target ∈ interpolator.snapshots := by simp [split]
  exact ⟨⟨List.rel_of_pairwise_cons tail List.mem_cons_self, buffered.small target targetMember⟩,
    buffered.distinct source sourceMember, buffered.distinct target targetMember,
    fun snapshot member => across snapshot member source List.mem_cons_self⟩

/-- The entity is shown at the share of its way. -/
theorem shown_on_the_way (buffered : Buffered interpolator.snapshots)
    (split : interpolator.snapshots = earlier ++ source :: target :: rest)
    (firstMember : first ∈ source.entities) (secondMember : second ∈ target.entities)
    (sameId : first.replication.entityId = second.replication.entityId) {now : TimestampMs}
    (reached : source.serverTimeMs ≤ renderTime interpolator.config.interpolationDelayMs now)
    (later : renderTime interpolator.config.interpolationDelayMs now < target.serverTimeMs) :
    ∃ shown, Shows (interpolator.sample now).entities second.replication.entityId shown ∧
      ∀ coordinate : Coordinate, coordinate.shown shown =
        blend (coordinate.placed first) (coordinate.placed second)
          (wideAlpha (renderTime interpolator.config.interpolationDelayMs now) source target) := by
  obtain ⟨inOrder, sourceDistinct, targetDistinct, before⟩ := consecutive buffered split
  have passed : ∀ snapshot ∈ earlier, snapshot.serverTimeMs ≤
      renderTime interpolator.config.interpolationDelayMs now :=
    fun snapshot member => UInt64.le_trans (UInt64.le_of_lt (before snapshot member)) reached
  have alpha := alpha_eq inOrder reached later
  have small := wide_alpha_small inOrder later
  rw [sample_between split passed reached later]
  dsimp only
  generalize alphaBetween (renderTime interpolator.config.interpolationDelayMs now) source target =
    alphaPermille at alpha ⊢
  refine ⟨_, shows_mapped targetDistinct _ (fun entity => interpolated_id entity _ alphaPermille)
    secondMember, ?_⟩
  intro coordinate
  rw [← sameId, find_entity_of_mem sourceDistinct firstMember,
    shown_blended coordinate second first (by omega), alpha]

theorem wide_alpha_at_start (source target : SnapshotDTO) :
    wideAlpha source.serverTimeMs source target = 0 := by
  simp [wideAlpha]

/-- From the time of the last snapshot on, the last one stands. -/
theorem last_unchanged {last : SnapshotDTO} (buffered : Buffered interpolator.snapshots)
    (split : interpolator.snapshots = earlier ++ [last]) {now : TimestampMs}
    (reached : last.serverTimeMs ≤ renderTime interpolator.config.interpolationDelayMs now) :
    (interpolator.sample now).entities = standing last := by
  have ordered := buffered.ordered
  rw [split] at ordered
  have before := (List.pairwise_append.mp ordered).2.2
  rw [sample_after split (fun snapshot member => UInt64.le_trans
    (UInt64.le_of_lt (before snapshot member last List.mem_cons_self)) reached) reached]

theorem narrows_exactly (buffered : Buffered interpolator.snapshots)
    (split : interpolator.snapshots = earlier ++ source :: target :: rest)
    (first second : EntityStateDTO) {time : TimestampMs} (reached : source.serverTimeMs ≤ time)
    (later : time < target.serverTimeMs) : NarrowsExactly time source target first second := by
  have inOrder := (consecutive buffered split).1
  have alpha := alpha_eq inOrder reached later
  have small : (alphaBetween time source target).toNat ≤ 1000 := by
    rw [alpha]
    exact wide_alpha_small inOrder later
  exact {
    alpha := alpha
    x := (lerp_fixed_eq _ _ small).trans (wide_fixed_eq _ _ small).symm
    y := (lerp_fixed_eq _ _ small).trans (wide_fixed_eq _ _ small).symm
    aimX := (lerp_aim_eq _ _ small).trans (wide_aim_eq _ _ small).symm
    aimY := (lerp_aim_eq _ _ small).trans (wide_aim_eq _ _ small).symm }

theorem moves (buffered : Buffered interpolator.snapshots)
    (split : interpolator.snapshots = earlier ++ source :: target :: rest)
    (firstMember : first ∈ source.entities) (secondMember : second ∈ target.entities)
    (sameId : first.replication.entityId = second.replication.entityId)
    (coordinate : Coordinate) :
    Moves interpolator source target rest first second coordinate := by
  obtain ⟨inOrder, _, targetDistinct, before⟩ := consecutive buffered split
  -- Between the two times this pair brackets the render time.
  have onTheWay {now : TimestampMs} := @shown_on_the_way interpolator earlier rest source target
    first second buffered split firstMember secondMember sameId now
  refine ⟨?_, ?_, ?_, ?_⟩
  · intro now reached later
    obtain ⟨shown, shows', placed⟩ := onTheWay reached later
    refine ⟨shown, shows', ?_⟩
    rw [placed coordinate]
    exact blend_between _ _ (wide_alpha_small inOrder later)
  · intro now atStart
    obtain ⟨shown, shows', placed⟩ := onTheWay (UInt64.le_of_eq atStart.symm)
      (by rw [atStart]; exact inOrder.ordered)
    refine ⟨shown, shows', ?_⟩
    rw [placed coordinate, atStart, wide_alpha_at_start, blend_zero]
  · intro now now' reached onward later shown shown' shows' shows''
    obtain ⟨same, isSame, placed⟩ := onTheWay reached (UInt64.lt_of_le_of_lt onward later)
    obtain ⟨same', isSame', placed'⟩ := onTheWay (UInt64.le_trans reached onward) later
    rw [shows'.unique isSame, shows''.unique isSame', placed coordinate, placed' coordinate]
    refine blend_approaches _ _ ?_ (wide_alpha_small inOrder later)
    have elapsed := UInt64.le_iff_toNat_le.mp onward
    unfold wideAlpha
    exact Nat.div_le_div_right (Nat.mul_le_mul_right 1000 (by omega))
  · -- At the end the next pair begins, if there is one.
    intro now atEnd succeeded
    cases rest with
    | nil =>
        have isLast : interpolator.snapshots = (earlier ++ [source]) ++ [target] := by
          rw [split, List.append_assoc]
          rfl
        have entities := last_unchanged buffered isLast (UInt64.le_of_eq atEnd.symm)
        rw [entities]
        exact ⟨_, shows_mapped targetDistinct _ (fun entity => interpolated_id entity none 0)
          secondMember, shown_standing coordinate second 0⟩
    | cons successor rest =>
        obtain ⟨third, thirdMember, thirdId⟩ := succeeded successor rfl
        have isNext : interpolator.snapshots =
            (earlier ++ [source]) ++ target :: successor :: rest := by
          rw [split, List.append_assoc]
          rfl
        obtain ⟨nextInOrder, _, _, _⟩ := consecutive buffered isNext
        obtain ⟨shown, shows', placed⟩ := shown_on_the_way buffered isNext secondMember
          thirdMember thirdId.symm (UInt64.le_of_eq atEnd.symm)
          (by rw [atEnd]; exact nextInOrder.ordered)
        rw [thirdId] at shows'
        refine ⟨shown, shows', ?_⟩
        rw [placed coordinate, atEnd, wide_alpha_at_start, blend_zero]

end Moving

/-- Motion is exact at the snapshots and monotone between them, and what is before
the first or after the last of them stands. -/
theorem interpolated_motion_exact (interpolator : PresentationInterpolator)
    (buffered : Buffered interpolator.snapshots) :
    (∀ earlier source target rest, interpolator.snapshots = earlier ++ source :: target :: rest →
      ∀ first ∈ source.entities, ∀ second ∈ target.entities,
      first.replication.entityId = second.replication.entityId →
      (∀ coordinate, Moves interpolator source target rest first second coordinate) ∧
      ∀ now, source.serverTimeMs ≤ renderTime interpolator.config.interpolationDelayMs now →
        renderTime interpolator.config.interpolationDelayMs now < target.serverTimeMs →
        NarrowsExactly (renderTime interpolator.config.interpolationDelayMs now) source target
          first second) ∧
    (∀ front ∈ interpolator.snapshots.head?, ∀ now,
      renderTime interpolator.config.interpolationDelayMs now < front.serverTimeMs →
      Unchanged front (interpolator.sample now).entities) ∧
    ∀ last ∈ interpolator.snapshots.getLast?, ∀ now,
      last.serverTimeMs ≤ renderTime interpolator.config.interpolationDelayMs now →
      Unchanged last (interpolator.sample now).entities := by
  refine ⟨?_, ?_, ?_⟩
  · intro earlier source target rest split first firstMember second secondMember sameId
    exact ⟨moves buffered split firstMember secondMember sameId,
      fun now reached later => narrows_exactly buffered split first second reached later⟩
  · intro front isFront now later
    obtain ⟨rest, split⟩ := List.head?_eq_some_iff.mp isFront
    rw [sample_before split later]
    exact standing_unchanged front
  · intro last isLast now reached
    obtain ⟨earlier, split⟩ := List.getLast?_eq_some_iff.mp isLast
    rw [last_unchanged buffered split reached]
    exact standing_unchanged last

/-- An entity moves left from 3 to -4 within seven milliseconds. -/
def leftwards : PresentationInterpolator where
  config := { interpolationDelayMs := 0 }
  snapshots :=
    [{ serverTimeMs := 10, entities := [{ movement := { x := 3 } }] },
     { serverTimeMs := 17, entities := [{ movement := { x := -4 } }] }]

theorem interpolated_motion_exact_leftwards :
    Buffered leftwards.snapshots ∧
    ∀ last ∈ leftwards.snapshots.getLast?, Unchanged last (leftwards.sample 20).entities :=
  have buffered : Buffered leftwards.snapshots :=
    { ordered := by simp [leftwards]
      small := by decide
      distinct := by
        intro snapshot member
        simp only [leftwards, List.mem_cons, List.not_mem_nil, or_false] at member
        rcases member with rfl | rfl
        · exact List.nodup_singleton _
        · exact List.nodup_singleton _ }
  ⟨buffered, fun last isLast => (interpolated_motion_exact leftwards buffered).2.2 last isLast 20
    (by cases isLast; decide)⟩

example : (leftwards.sample 13).entities.map (fun entity => entity.x) = [1] := by decide

end Brawololo.InterpolatedMotion
