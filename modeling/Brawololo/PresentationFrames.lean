import Brawololo.ClientRuntime

/-!
What a client presents. The interpolator scans its snapshots for two around the
render time and blends the entities of the later one from where the earlier one
has them. A snapshot found by the scan is known by its place in the buffer, as
the source compares the addresses of the two.
-/

namespace Brawololo.Client

open GameTypes

/-! Blending. -/

structure InterpolatedEntityState where
  entityId : NetworkEntityId := {}
  ownerClientId : ClientId := 0
  kind : ReplicatedEntityKind := .player
  priority : SnapshotPriority := .medium
  x : Fixed := 0
  y : Fixed := 0
  aimX : Int16 := 1000
  aimY : Int16 := 0
  health : Int32 := 100
  maxHealth : Int32 := 100
  weaponType : WeaponType := .none
  weaponWarming : Bool := false
  defeated : Bool := false
  serverOwnedProjectile : Bool := false
  deriving DecidableEq

structure PresentationFrame where
  renderServerTimeMs : TimestampMs := 0
  fromSnapshotId : SnapshotId := 0
  toSnapshotId : SnapshotId := 0
  alphaPermille : UInt16 := 0
  entities : List InterpolatedEntityState := []
  deriving DecidableEq

def findEntity (snapshot : SnapshotDTO) (entityId : NetworkEntityId) : Option EntityStateDTO :=
  snapshot.entities.find? fun entity => entity.replication.entityId = entityId

def lerpFixed (source target : Fixed) (alphaPermille : UInt16) : Fixed :=
  let delta := target.toInt64 - source.toInt64
  (source.toInt64 + delta * alphaPermille.toUInt64.toInt64 / 1000).toInt32

def lerpAim (source target : Int16) (alphaPermille : UInt16) : Int16 :=
  let delta := target.toInt32 - source.toInt32
  (source.toInt32 + delta * alphaPermille.toUInt32.toInt32 / 1000).toInt16

def toInterpolatedEntity (target : EntityStateDTO) (source : Option EntityStateDTO)
    (alphaPermille : UInt16) : InterpolatedEntityState :=
  let entity : InterpolatedEntityState :=
    { entityId := target.replication.entityId
      ownerClientId := target.replication.ownerClientId
      kind := target.replication.kind
      priority := target.replication.priority
      x := target.movement.x
      y := target.movement.y
      aimX := target.movement.aimX
      aimY := target.movement.aimY }
  let entity := match source with
    | none => entity
    | some source =>
        { entity with
          x := lerpFixed source.movement.x target.movement.x alphaPermille
          y := lerpFixed source.movement.y target.movement.y alphaPermille
          aimX := lerpAim source.movement.aimX target.movement.aimX alphaPermille
          aimY := lerpAim source.movement.aimY target.movement.aimY alphaPermille }
  match target.combat with
  | none => entity
  | some combat =>
      { entity with
        health := combat.health
        maxHealth := combat.maxHealth
        weaponType := combat.weaponType
        weaponWarming := combat.weaponWarming
        defeated := combat.defeated
        serverOwnedProjectile := combat.serverOwnedProjectile }

/-! Sampling. -/

structure BufferedSnapshot where
  place : Nat
  snapshot : SnapshotDTO

/-- The scan of `Sample` from a place on: the last snapshot up to the render time
before the first one after it, and that one. -/
def scan (renderServerTimeMs : TimestampMs) (source : Option BufferedSnapshot) (place : Nat) :
    List SnapshotDTO → Option BufferedSnapshot × Option BufferedSnapshot
  | [] => (source, none)
  | snapshot :: rest =>
      if snapshot.serverTimeMs ≤ renderServerTimeMs then
        scan renderServerTimeMs (some { place := place, snapshot := snapshot }) (place + 1) rest
      else (source, some { place := place, snapshot := snapshot })

def renderTime (interpolationDelayMs estimatedServerNowMs : TimestampMs) : TimestampMs :=
  if interpolationDelayMs < estimatedServerNowMs then estimatedServerNowMs - interpolationDelayMs
  else 0

def alphaBetween (renderServerTimeMs : TimestampMs) (source target : SnapshotDTO) : UInt16 :=
  let elapsedMs :=
    if source.serverTimeMs < renderServerTimeMs then renderServerTimeMs - source.serverTimeMs
    else 0
  let durationMs := target.serverTimeMs - source.serverTimeMs
  let permille := elapsedMs * 1000 / durationMs
  (if 1000 < permille then 1000 else permille).toUInt16

/-- The frame for the two snapshots that `Sample` settles on. -/
def frameOf (renderServerTimeMs : TimestampMs) (source target : BufferedSnapshot) :
    PresentationFrame :=
  let alphaPermille :=
    if target.place ≠ source.place ∧
        source.snapshot.serverTimeMs < target.snapshot.serverTimeMs then
      alphaBetween renderServerTimeMs source.snapshot target.snapshot
    else 0
  { renderServerTimeMs := renderServerTimeMs
    fromSnapshotId := source.snapshot.snapshotId
    toSnapshotId := target.snapshot.snapshotId
    alphaPermille := alphaPermille
    entities := target.snapshot.entities.map fun entity => toInterpolatedEntity entity
      (if source.place = target.place then none
        else findEntity source.snapshot entity.replication.entityId) alphaPermille }

def PresentationInterpolator.sample (interpolator : PresentationInterpolator)
    (estimatedServerNowMs : TimestampMs) : PresentationFrame :=
  match interpolator.snapshots with
  | [] => {}
  | front :: _ =>
      let renderServerTimeMs :=
        renderTime interpolator.config.interpolationDelayMs estimatedServerNowMs
      let scanned := scan renderServerTimeMs none 0 interpolator.snapshots
      let source := scanned.1.getD { place := 0, snapshot := front }
      let target := scanned.2.getD source
      frameOf renderServerTimeMs source target

/-! What the scan finds. -/

section Scanning

variable {renderServerTimeMs : TimestampMs}

theorem scan_passes (source : Option BufferedSnapshot) (place : Nat)
    {earlier : List SnapshotDTO} (passed : ∀ snapshot ∈ earlier,
      snapshot.serverTimeMs ≤ renderServerTimeMs) (last : SnapshotDTO)
    (lastPassed : last.serverTimeMs ≤ renderServerTimeMs) (rest : List SnapshotDTO) :
    scan renderServerTimeMs source place (earlier ++ last :: rest) =
      scan renderServerTimeMs (some { place := place + earlier.length, snapshot := last })
        (place + earlier.length + 1) rest := by
  induction earlier generalizing source place with
  | nil =>
      rw [List.nil_append, scan, if_pos lastPassed]
      rfl
  | cons snapshot earlier ih =>
      rw [List.cons_append, scan, if_pos (passed snapshot List.mem_cons_self),
        ih _ _ fun other member => passed other (List.mem_cons_of_mem snapshot member),
        List.length_cons, Nat.add_assoc place 1, Nat.add_comm 1]

theorem scan_stops (source : Option BufferedSnapshot) (place : Nat) {snapshot : SnapshotDTO}
    (later : renderServerTimeMs < snapshot.serverTimeMs) (rest : List SnapshotDTO) :
    scan renderServerTimeMs source place (snapshot :: rest) =
      (source, some { place := place, snapshot := snapshot }) := by
  rw [scan, if_neg (UInt64.not_le.mpr later)]

end Scanning

/-- The entities of a snapshot as it has them. -/
def standing (snapshot : SnapshotDTO) : List InterpolatedEntityState :=
  snapshot.entities.map fun entity => toInterpolatedEntity entity none 0

/-- The entities of the later snapshot, blended from the earlier one. -/
def blended (alphaPermille : UInt16) (source target : SnapshotDTO) :
    List InterpolatedEntityState :=
  target.entities.map fun entity => toInterpolatedEntity entity
    (findEntity source entity.replication.entityId) alphaPermille

/-- Where the render time falls in a buffer. -/
inductive Placed (renderServerTimeMs : TimestampMs) (snapshots : List SnapshotDTO) : Prop where
  | before (front : SnapshotDTO) (rest : List SnapshotDTO)
      (split : snapshots = front :: rest) (later : renderServerTimeMs < front.serverTimeMs)
  | between (earlier : List SnapshotDTO) (source target : SnapshotDTO) (rest : List SnapshotDTO)
      (split : snapshots = earlier ++ source :: target :: rest)
      (passed : ∀ snapshot ∈ earlier, snapshot.serverTimeMs ≤ renderServerTimeMs)
      (sourcePassed : source.serverTimeMs ≤ renderServerTimeMs)
      (later : renderServerTimeMs < target.serverTimeMs)
  | after (earlier : List SnapshotDTO) (last : SnapshotDTO) (split : snapshots = earlier ++ [last])
      (passed : ∀ snapshot ∈ earlier, snapshot.serverTimeMs ≤ renderServerTimeMs)
      (lastPassed : last.serverTimeMs ≤ renderServerTimeMs)

theorem Placed.cons {renderServerTimeMs : TimestampMs} {front : SnapshotDTO}
    (frontPassed : front.serverTimeMs ≤ renderServerTimeMs) {snapshots : List SnapshotDTO}
    (placed : Placed renderServerTimeMs snapshots) :
    Placed renderServerTimeMs (front :: snapshots) := by
  cases placed with
  | before next rest split later =>
      exact .between [] front next rest (by rw [split]; rfl) (by simp) frontPassed later
  | between earlier source target rest split passed sourcePassed later =>
      refine .between (front :: earlier) source target rest (by rw [split]; rfl) ?_
        sourcePassed later
      intro snapshot member
      rcases List.mem_cons.mp member with rfl | other
      · exact frontPassed
      · exact passed snapshot other
  | after earlier last split passed lastPassed =>
      refine .after (front :: earlier) last (by rw [split]; rfl) ?_ lastPassed
      intro snapshot member
      rcases List.mem_cons.mp member with rfl | other
      · exact frontPassed
      · exact passed snapshot other

theorem placed_of_nonempty (renderServerTimeMs : TimestampMs) {snapshots : List SnapshotDTO}
    (nonempty : snapshots ≠ []) : Placed renderServerTimeMs snapshots := by
  induction snapshots with
  | nil => exact absurd rfl nonempty
  | cons front rest ih =>
      by_cases frontPassed : front.serverTimeMs ≤ renderServerTimeMs
      · cases rest with
        | nil => exact .after [] front rfl (by simp) frontPassed
        | cons next later => exact (ih (List.cons_ne_nil next later)).cons frontPassed
      · exact .before front rest rfl (UInt64.not_le.mp frontPassed)

/-! The frames. -/

section Frames

variable {interpolator : PresentationInterpolator} {estimatedServerNowMs : TimestampMs}

theorem sample_empty (empty : interpolator.snapshots = []) :
    interpolator.sample estimatedServerNowMs = {} := by
  unfold PresentationInterpolator.sample
  rw [empty]

theorem frame_of_one (renderServerTimeMs : TimestampMs) (held : BufferedSnapshot) :
    frameOf renderServerTimeMs held held =
      { renderServerTimeMs := renderServerTimeMs
        fromSnapshotId := held.snapshot.snapshotId
        toSnapshotId := held.snapshot.snapshotId
        entities := standing held.snapshot } := by
  simp [frameOf, standing]

/-- Before the first snapshot the first one stands. -/
theorem sample_before {front : SnapshotDTO} {rest : List SnapshotDTO}
    (split : interpolator.snapshots = front :: rest)
    (later : renderTime interpolator.config.interpolationDelayMs estimatedServerNowMs <
      front.serverTimeMs) :
    interpolator.sample estimatedServerNowMs =
      { renderServerTimeMs := renderTime interpolator.config.interpolationDelayMs
          estimatedServerNowMs
        fromSnapshotId := front.snapshotId
        toSnapshotId := front.snapshotId
        entities := standing front } := by
  unfold PresentationInterpolator.sample
  rw [split]
  dsimp only
  rw [scan_stops none 0 later rest]
  exact frame_of_one _ { place := 0, snapshot := front }

theorem sample_scanned {source : BufferedSnapshot} {target : Option BufferedSnapshot}
    (scanned : scan (renderTime interpolator.config.interpolationDelayMs estimatedServerNowMs)
      none 0 interpolator.snapshots = (some source, target)) :
    interpolator.sample estimatedServerNowMs =
      frameOf (renderTime interpolator.config.interpolationDelayMs estimatedServerNowMs) source
        (target.getD source) := by
  unfold PresentationInterpolator.sample
  dsimp only
  rw [scanned]
  split
  · next empty =>
      rw [empty, scan] at scanned
      cases scanned
  · rfl

/-- Between two snapshots the later one is blended from the earlier one. -/
theorem sample_between {earlier : List SnapshotDTO} {source target : SnapshotDTO}
    {rest : List SnapshotDTO}
    (split : interpolator.snapshots = earlier ++ source :: target :: rest)
    (passed : ∀ snapshot ∈ earlier, snapshot.serverTimeMs ≤
      renderTime interpolator.config.interpolationDelayMs estimatedServerNowMs)
    (sourcePassed : source.serverTimeMs ≤
      renderTime interpolator.config.interpolationDelayMs estimatedServerNowMs)
    (later : renderTime interpolator.config.interpolationDelayMs estimatedServerNowMs <
      target.serverTimeMs) :
    let renderServerTimeMs := renderTime interpolator.config.interpolationDelayMs
      estimatedServerNowMs
    let alphaPermille := alphaBetween renderServerTimeMs source target
    interpolator.sample estimatedServerNowMs =
      { renderServerTimeMs := renderServerTimeMs
        fromSnapshotId := source.snapshotId
        toSnapshotId := target.snapshotId
        alphaPermille := alphaPermille
        entities := blended alphaPermille source target } := by
  intro renderServerTimeMs alphaPermille
  have scanned : scan renderServerTimeMs none 0 interpolator.snapshots =
      (some { place := earlier.length, snapshot := source },
        some { place := earlier.length + 1, snapshot := target }) := by
    rw [split, scan_passes none 0 passed source sourcePassed, scan_stops _ _ later, Nat.zero_add]
  have ordered : source.serverTimeMs < target.serverTimeMs :=
    UInt64.lt_of_le_of_lt sourcePassed later
  rw [sample_scanned scanned]
  simp [frameOf, blended, ordered, alphaPermille, renderServerTimeMs]

/-- After the last snapshot the last one stands. -/
theorem sample_after {earlier : List SnapshotDTO} {last : SnapshotDTO}
    (split : interpolator.snapshots = earlier ++ [last])
    (passed : ∀ snapshot ∈ earlier, snapshot.serverTimeMs ≤
      renderTime interpolator.config.interpolationDelayMs estimatedServerNowMs)
    (lastPassed : last.serverTimeMs ≤
      renderTime interpolator.config.interpolationDelayMs estimatedServerNowMs) :
    interpolator.sample estimatedServerNowMs =
      { renderServerTimeMs := renderTime interpolator.config.interpolationDelayMs
          estimatedServerNowMs
        fromSnapshotId := last.snapshotId
        toSnapshotId := last.snapshotId
        entities := standing last } := by
  have scanned : scan (renderTime interpolator.config.interpolationDelayMs estimatedServerNowMs)
      none 0 interpolator.snapshots =
        (some { place := earlier.length, snapshot := last }, none) := by
    rw [split, scan_passes none 0 passed last lastPassed, scan, Nat.zero_add]
  rw [sample_scanned scanned]
  exact frame_of_one _ _

end Frames

end Brawololo.Client
