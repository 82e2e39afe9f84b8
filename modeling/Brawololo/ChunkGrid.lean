import Brawololo.AreaOfInterest

/-!
The two ways to an area of interest. One lists the chunks around a centre,
clipped to the grid of the map by a division that rounds up; the other tests one
candidate by its distance alone. On the grid, which includes the chunks cut off
by the edge of the map, they agree.
-/

namespace Brawololo.ChunkGrid

open GameTypes AreaOfInterest

/-- The values of a loop variable that counts up to `last`, for at most `fuel`
turns. -/
def countUp (last : Int32) : Nat → Int32 → List Int32
  | 0, _ => []
  | fuel + 1, current =>
      if current ≤ last then current :: countUp last fuel (current + 1) else []

/-- There are not more values of the loop variable than that. -/
def kLoopTurns : Nat := 2 ^ 32

def chunksInAreaOfInterest (config : MapConfig) (center : ChunkCoord) : List ChunkCoord :=
  let maxChunkX := (config.widthTiles + config.chunkSizeTiles - 1) / config.chunkSizeTiles
  let maxChunkY := (config.heightTiles + config.chunkSizeTiles - 1) / config.chunkSizeTiles
  (countUp (center.y + config.interestRadiusChunks) kLoopTurns
      (center.y - config.interestRadiusChunks)).flatMap fun y =>
    (countUp (center.x + config.interestRadiusChunks) kLoopTurns
        (center.x - config.interestRadiusChunks)).filterMap fun x =>
      if 0 ≤ x ∧ 0 ≤ y ∧ x < maxChunkX ∧ y < maxChunkY then some { x := x, y := y } else none

/-! What is asked of a map. -/

/-- The sizes are positive, and no product or sum of them overflows. -/
structure WellSized (map : MapConfig) : Prop where
  tileSize : 0 < map.tileSizePixels.toInt
  chunkSize : 0 < map.chunkSizeTiles.toInt
  width : 0 < map.widthTiles.toInt
  height : 0 < map.heightTiles.toInt
  radius : 0 ≤ map.interestRadiusChunks.toInt
  chunkPixels : map.tileSizePixels.toInt * map.chunkSizeTiles.toInt < 2 ^ 31
  widthPixels : map.widthTiles.toInt * map.tileSizePixels.toInt < 2 ^ 31
  heightPixels : map.heightTiles.toInt * map.tileSizePixels.toInt < 2 ^ 31
  widthRounded : map.widthTiles.toInt + map.chunkSizeTiles.toInt < 2 ^ 31
  heightRounded : map.heightTiles.toInt + map.chunkSizeTiles.toInt < 2 ^ 31

/-- The first tile of the chunk is on the map; the last may be beyond its edge. -/
structure InGrid (map : MapConfig) (chunk : ChunkCoord) : Prop where
  left : 0 ≤ chunk.x.toInt
  right : chunk.x.toInt * map.chunkSizeTiles.toInt < map.widthTiles.toInt
  top : 0 ≤ chunk.y.toInt
  bottom : chunk.y.toInt * map.chunkSizeTiles.toInt < map.heightTiles.toInt

/-- The loop variables can step past the far side of the area. -/
structure LoopsFit (map : MapConfig) (center : ChunkCoord) : Prop where
  x : center.x.toInt + map.interestRadiusChunks.toInt + 1 < 2 ^ 31
  y : center.y.toInt + map.interestRadiusChunks.toInt + 1 < 2 ^ 31

/-! Positions. -/

theorem mul_to_int {left right : Int32} (leftPositive : 0 < left.toInt)
    (rightPositive : 0 < right.toInt) (fits : left.toInt * right.toInt < 2 ^ 31) :
    (left * right).toInt = left.toInt * right.toInt := by
  have positive := Int.mul_pos leftPositive rightPositive
  rw [Int32.toInt_mul]
  exact Int.bmod_eq_of_le (by omega) (by omega)

theorem clamp_le (value maxValue : Fixed) (extent : 0 ≤ maxValue.toInt) :
    (clampFixed value 0 maxValue).toInt ≤ maxValue.toInt := by
  unfold clampFixed
  split
  · exact extent
  · split
    · exact Int.le_refl _
    · next notAbove => exact Int32.le_iff_toInt_le.mp (Int32.not_lt.mp notAbove)

/-- Along one axis: the clamped position is in a chunk that starts on the map. -/
theorem position_in_grid {tileSize chunkSize tiles : Int32} (tilePositive : 0 < tileSize.toInt)
    (chunkPositive : 0 < chunkSize.toInt) (tilesPositive : 0 < tiles.toInt)
    (chunkPixels : tileSize.toInt * chunkSize.toInt < 2 ^ 31)
    (tilePixels : tiles.toInt * tileSize.toInt < 2 ^ 31) (position : Fixed) :
    let chunk := clampFixed (fixedToPixels position) 0 (tiles * tileSize - 1) /
      (tileSize * chunkSize)
    0 ≤ chunk.toInt ∧ chunk.toInt * chunkSize.toInt < tiles.toInt := by
  have size := mul_to_int tilePositive chunkPositive chunkPixels
  have sizePositive := Int.mul_pos tilePositive chunkPositive
  have pixelsPositive := Int.mul_pos tilesPositive tilePositive
  have edge := last_pixel_value pixelsPositive tilePixels
  have extent : 0 ≤ (tiles * tileSize - 1).toInt := by omega
  have atLeast := clamp_bounds (fixedToPixels position) _ extent
  have atMost := clamp_le (fixedToPixels position) _ extent
  rw [edge] at atMost
  generalize clampFixed (fixedToPixels position) 0 (tiles * tileSize - 1) = pixel at atLeast atMost
  have notMin : pixel ≠ Int32.minValue := by
    rintro rfl
    exact absurd atLeast (by decide)
  dsimp only
  rw [Int32.toInt_div_of_ne_left _ _ notMin, size, Int.tdiv_eq_ediv_of_nonneg atLeast]
  refine ⟨Int.ediv_nonneg atLeast sizePositive.le, ?_⟩
  -- The chunk starts at or before the pixel, which is before the edge.
  have starts := Int.ediv_mul_le pixel.toInt sizePositive.ne'
  apply lt_of_mul_lt_mul_right _ tilePositive.le
  calc pixel.toInt / (tileSize.toInt * chunkSize.toInt) * chunkSize.toInt * tileSize.toInt
      = pixel.toInt / (tileSize.toInt * chunkSize.toInt) *
          (tileSize.toInt * chunkSize.toInt) := by ring
    _ ≤ pixel.toInt := starts
    _ < tiles.toInt * tileSize.toInt := by omega

theorem chunk_for_position_in_grid {map : MapConfig} (sized : WellSized map) (x y : Fixed) :
    InGrid map (chunkForPosition map x y) := by
  have alongX := position_in_grid sized.tileSize sized.chunkSize sized.width sized.chunkPixels
    sized.widthPixels x
  have alongY := position_in_grid sized.tileSize sized.chunkSize sized.height sized.chunkPixels
    sized.heightPixels y
  exact ⟨alongX.1, alongX.2, alongY.1, alongY.2⟩

/-! Clipping. -/

/-- Below the quotient rounded up is to start before the edge. -/
theorem below_rounded_iff {chunkSize tiles : Int32} (chunkPositive : 0 < chunkSize.toInt)
    (tilesPositive : 0 < tiles.toInt) (rounded : tiles.toInt + chunkSize.toInt < 2 ^ 31)
    (chunk : Int32) : chunk < (tiles + chunkSize - 1) / chunkSize ↔
      chunk.toInt * chunkSize.toInt < tiles.toInt := by
  have sum : (tiles + chunkSize - 1).toInt = tiles.toInt + chunkSize.toInt - 1 := by
    have inner : (tiles + chunkSize).toInt = tiles.toInt + chunkSize.toInt := by
      rw [Int32.toInt_add]
      exact Int.bmod_eq_of_le (by omega) (by omega)
    rw [Int32.toInt_sub, inner, Int32.toInt_one]
    exact Int.bmod_eq_of_le (by omega) (by omega)
  have notMin : tiles + chunkSize - 1 ≠ Int32.minValue := by
    intro least
    rw [least] at sum
    have : Int32.minValue.toInt = -2 ^ 31 := by decide
    omega
  rw [Int32.lt_iff_toInt_lt, Int32.toInt_div_of_ne_left _ _ notMin, sum,
    Int.tdiv_eq_ediv_of_nonneg (by omega), Int.lt_iff_add_one_le,
    Int.le_ediv_iff_mul_le chunkPositive, Int.add_mul, Int.one_mul]
  omega

theorem clipped_iff {map : MapConfig} (sized : WellSized map) (x y : Int32) (chunk : ChunkCoord) :
    (if 0 ≤ x ∧ 0 ≤ y ∧
        x < (map.widthTiles + map.chunkSizeTiles - 1) / map.chunkSizeTiles ∧
        y < (map.heightTiles + map.chunkSizeTiles - 1) / map.chunkSizeTiles then
      some ({ x := x, y := y } : ChunkCoord) else none) = some chunk ↔
      InGrid map chunk ∧ chunk.x = x ∧ chunk.y = y := by
  rw [Option.ite_none_right_eq_some,
    below_rounded_iff sized.chunkSize sized.width sized.widthRounded,
    below_rounded_iff sized.chunkSize sized.height sized.heightRounded, Int32.le_iff_toInt_le,
    Int32.le_iff_toInt_le, Int32.toInt_zero]
  constructor
  · rintro ⟨⟨left, top, right, bottom⟩, listed⟩
    cases listed
    exact ⟨⟨left, right, top, bottom⟩, rfl, rfl⟩
  · rintro ⟨⟨left, right, top, bottom⟩, rfl, rfl⟩
    exact ⟨⟨left, top, right, bottom⟩, rfl⟩

/-! The loop variable. -/

theorem next_count {last current : Int32} (fits : last.toInt + 1 < 2 ^ 31)
    (goesOn : current.toInt ≤ last.toInt) : (current + 1).toInt = current.toInt + 1 := by
  have least := current.le_toInt
  rw [Int32.toInt_add, Int32.toInt_one]
  exact Int.bmod_eq_of_le (by omega) (by omega)

/-- A loop that has turns left and does not overflow takes every value up to the
last, each once. -/
theorem mem_count_up {last : Int32} (fits : last.toInt + 1 < 2 ^ 31) (fuel : Nat) :
    ∀ current : Int32, last.toInt - current.toInt < fuel → ∀ value : Int32,
      value ∈ countUp last fuel current ↔
        current.toInt ≤ value.toInt ∧ value.toInt ≤ last.toInt := by
  induction fuel with
  | zero =>
      intro current enough value
      simp only [countUp, List.not_mem_nil, false_iff, not_and, Int.not_le]
      omega
  | succ fuel ih =>
      intro current enough value
      rw [countUp]
      split
      · next goesOn =>
          rw [Int32.le_iff_toInt_le] at goesOn
          have next := next_count fits goesOn
          rw [List.mem_cons, ih (current + 1) (by omega), next, ← Int32.toInt_inj]
          omega
      · next stops =>
          rw [Int32.le_iff_toInt_le] at stops
          simp only [List.not_mem_nil, false_iff, not_and, Int.not_le]
          omega

theorem count_up_nodup {last : Int32} (fits : last.toInt + 1 < 2 ^ 31) (fuel : Nat) :
    ∀ current : Int32, last.toInt - current.toInt < fuel → (countUp last fuel current).Nodup := by
  induction fuel with
  | zero =>
      intro current _
      exact List.nodup_nil
  | succ fuel ih =>
      intro current enough
      rw [countUp]
      split
      · next goesOn =>
          rw [Int32.le_iff_toInt_le] at goesOn
          have next := next_count fits goesOn
          refine List.nodup_cons.mpr ⟨?_, ih (current + 1) (by omega)⟩
          rw [mem_count_up fits fuel (current + 1) (by omega), next]
          omega
      · exact List.nodup_nil

/-- The bounds of the loop around one coordinate of a chunk of the grid. -/
theorem around {center radius : Int32} (atLeast : 0 ≤ center.toInt) (radiusAtLeast : 0 ≤ radius.toInt)
    (fits : center.toInt + radius.toInt + 1 < 2 ^ 31) :
    (center - radius).toInt = center.toInt - radius.toInt ∧
      (center + radius).toInt = center.toInt + radius.toInt := by
  have radiusMax := radius.toInt_lt
  rw [Int32.toInt_sub, Int32.toInt_add]
  exact ⟨Int.bmod_eq_of_le (by omega) (by omega), Int.bmod_eq_of_le (by omega) (by omega)⟩

theorem mem_around {center radius : Int32} (atLeast : 0 ≤ center.toInt)
    (radiusAtLeast : 0 ≤ radius.toInt) (fits : center.toInt + radius.toInt + 1 < 2 ^ 31)
    (value : Int32) : value ∈ countUp (center + radius) kLoopTurns (center - radius) ↔
      |center.toInt - value.toInt| ≤ radius.toInt := by
  obtain ⟨first, last⟩ := around atLeast radiusAtLeast fits
  have radiusMax := radius.toInt_lt
  rw [mem_count_up (by omega) kLoopTurns _ (by rw [kLoopTurns]; omega), first, last, abs_le]
  omega

theorem around_nodup {center radius : Int32} (atLeast : 0 ≤ center.toInt)
    (radiusAtLeast : 0 ≤ radius.toInt) (fits : center.toInt + radius.toInt + 1 < 2 ^ 31) :
    (countUp (center + radius) kLoopTurns (center - radius)).Nodup := by
  obtain ⟨first, last⟩ := around atLeast radiusAtLeast fits
  have radiusMax := radius.toInt_lt
  exact count_up_nodup (by omega) kLoopTurns _ (by rw [kLoopTurns]; omega)

/-! The area. -/

section Area

variable {map : MapConfig} {center : ChunkCoord}

/-- The predicate is the distance along both axes between chunks of the grid. -/
theorem in_grid_near_iff {candidate : ChunkCoord} (inGrid : InGrid map center)
    (candidateInGrid : InGrid map candidate) :
    isChunkInAreaOfInterest map center candidate = true ↔ Near map center candidate := by
  have rightmost := center.x.toInt_lt
  have lowest := center.y.toInt_lt
  have candidateRight := candidate.x.toInt_lt
  have candidateLow := candidate.y.toInt_lt
  have left := inGrid.left
  have top := inGrid.top
  have candidateLeft := candidateInGrid.left
  have candidateTop := candidateInGrid.top
  unfold isChunkInAreaOfInterest
  dsimp only
  rw [Bool.and_eq_true, decide_eq_true_eq, decide_eq_true_eq, abs_difference_le_iff (by omega),
    abs_difference_le_iff (by omega)]
  exact ⟨fun near => ⟨near.1, near.2⟩, fun near => ⟨near.x, near.y⟩⟩

theorem mem_chunks_iff (sized : WellSized map) (inGrid : InGrid map center)
    (loopsFit : LoopsFit map center) (candidate : ChunkCoord) :
    candidate ∈ chunksInAreaOfInterest map center ↔
      InGrid map candidate ∧ Near map center candidate := by
  unfold chunksInAreaOfInterest
  simp only [List.mem_flatMap, List.mem_filterMap, clipped_iff sized,
    mem_around inGrid.top sized.radius loopsFit.y,
    mem_around inGrid.left sized.radius loopsFit.x]
  constructor
  · rintro ⟨y, nearY, x, nearX, onGrid, rfl, rfl⟩
    exact ⟨onGrid, ⟨nearX, nearY⟩⟩
  · rintro ⟨onGrid, near⟩
    exact ⟨candidate.y, near.y, candidate.x, near.x, onGrid, rfl, rfl⟩

/-- The coordinates of a chunk tell the turns of the loops that list it. -/
theorem chunks_nodup (sized : WellSized map) (inGrid : InGrid map center)
    (loopsFit : LoopsFit map center) : (chunksInAreaOfInterest map center).Nodup := by
  unfold chunksInAreaOfInterest
  refine List.nodup_flatMap.mpr ⟨?_, ?_⟩
  · intro y _
    refine (around_nodup inGrid.left sized.radius loopsFit.x).filterMap ?_
    intro x x' chunk listed listed'
    exact ((clipped_iff sized x y chunk).mp listed).2.1.symm.trans
      ((clipped_iff sized x' y chunk).mp listed').2.1
  · refine (around_nodup inGrid.top sized.radius loopsFit.y).imp ?_
    intro y y' differs chunk inRow inRow'
    obtain ⟨x, _, listed⟩ := List.mem_filterMap.mp inRow
    obtain ⟨x', _, listed'⟩ := List.mem_filterMap.mp inRow'
    exact differs (((clipped_iff sized x y chunk).mp listed).2.2.symm.trans
      ((clipped_iff sized x' y' chunk).mp listed').2.2)

end Area

/-- Positions fall in the grid, and around a chunk of the grid both ways find the
same chunks, each listed once. -/
theorem area_paths_agree (map : MapConfig) (sized : WellSized map) :
    (∀ x y : Fixed, InGrid map (chunkForPosition map x y)) ∧
    ∀ center, InGrid map center → LoopsFit map center →
      (chunksInAreaOfInterest map center).Nodup ∧
      ∀ candidate, candidate ∈ chunksInAreaOfInterest map center ↔
        InGrid map candidate ∧ isChunkInAreaOfInterest map center candidate = true := by
  refine ⟨chunk_for_position_in_grid sized, ?_⟩
  intro center inGrid loopsFit
  refine ⟨chunks_nodup sized inGrid loopsFit, ?_⟩
  intro candidate
  rw [mem_chunks_iff sized inGrid loopsFit]
  constructor
  · rintro ⟨onGrid, near⟩
    exact ⟨onGrid, (in_grid_near_iff inGrid onGrid).mpr near⟩
  · rintro ⟨onGrid, passes⟩
    exact ⟨onGrid, (in_grid_near_iff inGrid onGrid).mp passes⟩

/-- Ten tiles in chunks of eight: the second chunk of each row is cut off. -/
theorem area_paths_agree_cut_off :
    WellSized { widthTiles := 10, heightTiles := 10 } ∧
    (chunksInAreaOfInterest { widthTiles := 10, heightTiles := 10 } { x := 1, y := 1 }).Nodup :=
  have sized : WellSized { widthTiles := 10, heightTiles := 10 } := by
    constructor <;> decide
  ⟨sized, ((area_paths_agree _ sized).2 { x := 1, y := 1 } (by constructor <;> decide)
    (by constructor <;> decide)).1⟩

example : chunksInAreaOfInterest { widthTiles := 10, heightTiles := 10 } { x := 1, y := 1 } =
    [{ x := 0, y := 0 }, { x := 1, y := 0 }, { x := 0, y := 1 }, { x := 1, y := 1 }] := by
  decide +kernel

end Brawololo.ChunkGrid
