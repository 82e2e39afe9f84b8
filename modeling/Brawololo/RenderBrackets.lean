import Brawololo.PresentationFrames

/-!
The two snapshots of a frame. They should be the newest up to the render time
and the oldest after it. The scan of the buffer stops at the first snapshot
after the render time, so it finds them where the buffer has them next to each
other, with nothing later before them; a buffer in time order always does.
-/

namespace Brawololo.RenderBrackets

open GameTypes EntityStore Client

def pushAll (config : PresentationInterpolationConfig) (arrivals : List SnapshotDTO) :
    PresentationInterpolator :=
  arrivals.foldl PresentationInterpolator.pushSnapshot { config := config }

/-! What is asked of a frame. -/

structure NewestUpTo (buffer : List SnapshotDTO) (time : TimestampMs) (snapshot : SnapshotDTO) :
    Prop where
  member : snapshot ∈ buffer
  inTime : snapshot.serverTimeMs ≤ time
  newest : ∀ other ∈ buffer, other.serverTimeMs ≤ time →
    other.serverTimeMs ≤ snapshot.serverTimeMs

structure OldestAfter (buffer : List SnapshotDTO) (time : TimestampMs) (snapshot : SnapshotDTO) :
    Prop where
  member : snapshot ∈ buffer
  later : time < snapshot.serverTimeMs
  oldest : ∀ other ∈ buffer, time < other.serverTimeMs →
    snapshot.serverTimeMs ≤ other.serverTimeMs

/-- The snapshots that the frame names lie around its render time. -/
structure Brackets (buffer : List SnapshotDTO) (frame : PresentationFrame) : Prop where
  source : ∀ snapshot, NewestUpTo buffer frame.renderServerTimeMs snapshot →
    frame.fromSnapshotId = snapshot.snapshotId
  target : (∃ snapshot ∈ buffer, snapshot.serverTimeMs ≤ frame.renderServerTimeMs) →
    ∀ snapshot, OldestAfter buffer frame.renderServerTimeMs snapshot →
      frame.toSnapshotId = snapshot.snapshotId

/-- Every snapshot is after the time, or the newest up to it has only such before
it, and right after it nothing or the oldest after the time. -/
def ScanMeets (buffer : List SnapshotDTO) (time : TimestampMs) : Prop :=
  (∀ snapshot ∈ buffer, time < snapshot.serverTimeMs) ∨
    ∃ earlier source rest, buffer = earlier ++ source :: rest ∧
      (∀ snapshot ∈ earlier, snapshot.serverTimeMs ≤ time) ∧ NewestUpTo buffer time source ∧
      ∀ target ∈ rest.head?, OldestAfter buffer time target

/-! Buffers. -/

theorem push_all_config (config : PresentationInterpolationConfig) (arrivals : List SnapshotDTO) :
    (pushAll config arrivals).config = config :=
  Runs.run_invariant PresentationInterpolator.pushSnapshot
    (fun interpolator => interpolator.config = config) (fun _ _ same => same)
    { config := config } rfl arrivals

theorem retained_suffix (config : PresentationInterpolationConfig) (arrivals : List SnapshotDTO) :
    (pushAll config arrivals).snapshots <:+ arrivals :=
  push_all_suffix PresentationInterpolator.snapshots PresentationInterpolator.pushSnapshot
    (fun interpolator _ => ⟨interpolator.config.maxSnapshots, rfl⟩) rfl arrivals

section Buffers

variable {buffer : List SnapshotDTO} {time : TimestampMs}

theorem exists_newest {snapshot : SnapshotDTO} (member : snapshot ∈ buffer)
    (inTime : snapshot.serverTimeMs ≤ time) : ∃ newest, NewestUpTo buffer time newest := by
  obtain ⟨newest, isIn, most⟩ := Finset.exists_max_image
    (buffer.filter fun other => other.serverTimeMs ≤ time).toFinset
    (fun other => other.serverTimeMs.toNat)
    ⟨snapshot, by simp [member, inTime]⟩
  simp only [List.mem_toFinset, List.mem_filter, decide_eq_true_eq] at isIn most
  exact ⟨newest, isIn.1, isIn.2, fun other otherMember otherInTime =>
    UInt64.le_iff_toNat_le.mpr (most other ⟨otherMember, otherInTime⟩)⟩

theorem exists_oldest {snapshot : SnapshotDTO} (member : snapshot ∈ buffer)
    (later : time < snapshot.serverTimeMs) : ∃ oldest, OldestAfter buffer time oldest := by
  obtain ⟨oldest, isIn, least⟩ := Finset.exists_min_image
    (buffer.filter fun other => time < other.serverTimeMs).toFinset
    (fun other => other.serverTimeMs.toNat)
    ⟨snapshot, by simp [member, later]⟩
  simp only [List.mem_toFinset, List.mem_filter, decide_eq_true_eq] at isIn least
  exact ⟨oldest, isIn.1, isIn.2, fun other otherMember otherLater =>
    UInt64.le_iff_toNat_le.mpr (least other ⟨otherMember, otherLater⟩)⟩

theorem newest_unique (distinct : (buffer.map SnapshotDTO.serverTimeMs).Nodup)
    {first second : SnapshotDTO} (isFirst : NewestUpTo buffer time first)
    (isSecond : NewestUpTo buffer time second) : first = second :=
  List.inj_on_of_nodup_map distinct isFirst.member isSecond.member
    (UInt64.le_antisymm (isSecond.newest first isFirst.member isFirst.inTime)
      (isFirst.newest second isSecond.member isSecond.inTime))

theorem oldest_unique (distinct : (buffer.map SnapshotDTO.serverTimeMs).Nodup)
    {first second : SnapshotDTO} (isFirst : OldestAfter buffer time first)
    (isSecond : OldestAfter buffer time second) : first = second :=
  List.inj_on_of_nodup_map distinct isFirst.member isSecond.member
    (UInt64.le_antisymm (isFirst.oldest second isSecond.member isSecond.later)
      (isSecond.oldest first isFirst.member isFirst.later))

end Buffers

/-! Where the scan finds them. -/

section Frames

variable {interpolator : PresentationInterpolator} {estimatedServerNowMs : TimestampMs}

theorem sample_render_time (estimatedServerNowMs : TimestampMs) (nonempty : interpolator.snapshots ≠ []) :
    (interpolator.sample estimatedServerNowMs).renderServerTimeMs =
      renderTime interpolator.config.interpolationDelayMs estimatedServerNowMs := by
  cases placed_of_nonempty (renderTime interpolator.config.interpolationDelayMs
      estimatedServerNowMs) nonempty with
  | before front rest split later => rw [sample_before split later]
  | between earlier source target rest split passed sourcePassed later =>
      rw [sample_between split passed sourcePassed later]
  | after earlier last split passed lastPassed => rw [sample_after split passed lastPassed]

theorem brackets_of_scan (distinct : (interpolator.snapshots.map SnapshotDTO.serverTimeMs).Nodup)
    (meets : ScanMeets interpolator.snapshots
      (renderTime interpolator.config.interpolationDelayMs estimatedServerNowMs)) :
    Brackets interpolator.snapshots (interpolator.sample estimatedServerNowMs) := by
  by_cases empty : interpolator.snapshots = []
  · rw [empty]
    exact ⟨fun _ newest => absurd newest.member List.not_mem_nil,
      fun _ _ oldest => absurd oldest.member List.not_mem_nil⟩
  have rendered := sample_render_time estimatedServerNowMs empty
  rcases meets with allLater | ⟨earlier, source, rest, split, passed, newest, next⟩
  · refine ⟨?_, ?_⟩
    · intro snapshot upTo
      have inTime := upTo.inTime
      rw [rendered] at inTime
      exact absurd (allLater snapshot upTo.member) (UInt64.not_lt.mpr inTime)
    · rintro ⟨snapshot, member, inTime⟩
      rw [rendered] at inTime
      exact absurd (allLater snapshot member) (UInt64.not_lt.mpr inTime)
  · cases rest with
    | nil =>
        rw [sample_after split passed newest.inTime]
        refine ⟨fun snapshot upTo => ?_, fun _ snapshot after => ?_⟩
        · exact congrArg SnapshotDTO.snapshotId (newest_unique distinct newest upTo)
        · have member := after.member
          rw [split] at member
          rcases List.mem_append.mp member with before | isSource
          · exact absurd (passed snapshot before) (UInt64.not_le.mpr after.later)
          · rw [List.mem_singleton.mp isSource] at after
            exact absurd newest.inTime (UInt64.not_le.mpr after.later)
    | cons target rest =>
        have oldest := next target rfl
        rw [sample_between split passed newest.inTime oldest.later]
        refine ⟨fun snapshot upTo => ?_, fun _ snapshot after => ?_⟩
        · exact congrArg SnapshotDTO.snapshotId (newest_unique distinct newest upTo)
        · exact congrArg SnapshotDTO.snapshotId (oldest_unique distinct oldest after)

/-- With distinct ids a frame that names the right snapshots has found them. -/
theorem scan_of_brackets (distinctIds : (interpolator.snapshots.map SnapshotDTO.snapshotId).Nodup)
    (brackets : Brackets interpolator.snapshots (interpolator.sample estimatedServerNowMs)) :
    ScanMeets interpolator.snapshots
      (renderTime interpolator.config.interpolationDelayMs estimatedServerNowMs) := by
  by_cases empty : interpolator.snapshots = []
  · rw [empty]
    exact Or.inl fun _ member => absurd member List.not_mem_nil
  have same : ∀ first ∈ interpolator.snapshots, ∀ second ∈ interpolator.snapshots,
      first.snapshotId = second.snapshotId → first = second :=
    fun first firstMember second secondMember =>
      List.inj_on_of_nodup_map distinctIds firstMember secondMember
  cases placed_of_nonempty (renderTime interpolator.config.interpolationDelayMs
      estimatedServerNowMs) empty with
  | before front rest split later =>
      rw [sample_before split later] at brackets
      have frontMember : front ∈ interpolator.snapshots := by
        rw [split]
        exact List.mem_cons_self
      -- A snapshot in time would be named in place of the front one.
      refine Or.inl fun snapshot member => UInt64.not_le.mp fun inTime => ?_
      obtain ⟨newest, isNewest⟩ := exists_newest member inTime
      have isFront := same front frontMember newest isNewest.member
        (brackets.source newest isNewest)
      rw [isFront] at later
      exact absurd isNewest.inTime (UInt64.not_le.mpr later)
  | between earlier source target rest split passed sourcePassed later =>
      rw [sample_between split passed sourcePassed later] at brackets
      have sourceMember : source ∈ interpolator.snapshots := by simp [split]
      have targetMember : target ∈ interpolator.snapshots := by simp [split]
      obtain ⟨newest, isNewest⟩ := exists_newest sourceMember sourcePassed
      obtain ⟨oldest, isOldest⟩ := exists_oldest targetMember later
      have isSource := same source sourceMember newest isNewest.member
        (brackets.source newest isNewest)
      have isTarget := same target targetMember oldest isOldest.member
        (brackets.target ⟨source, sourceMember, sourcePassed⟩ oldest isOldest)
      subst isSource isTarget
      refine Or.inr ⟨earlier, source, target :: rest, split, passed, isNewest, ?_⟩
      intro head isHead
      cases isHead
      exact isOldest
  | after earlier last split passed lastPassed =>
      rw [sample_after split passed lastPassed] at brackets
      have lastMember : last ∈ interpolator.snapshots := by simp [split]
      obtain ⟨newest, isNewest⟩ := exists_newest lastMember lastPassed
      have isLast := same last lastMember newest isNewest.member
        (brackets.source newest isNewest)
      subst isLast
      refine Or.inr ⟨earlier, last, [], split, passed, isNewest, ?_⟩
      intro head isHead
      cases isHead

end Frames

/-- In a buffer in time order the scan meets them at every time. -/
theorem scan_of_ordered {buffer : List SnapshotDTO}
    (ordered : buffer.Pairwise fun first second => first.serverTimeMs < second.serverTimeMs)
    (time : TimestampMs) : ScanMeets buffer time := by
  by_cases empty : buffer = []
  · rw [empty]
    exact Or.inl fun _ member => absurd member List.not_mem_nil
  cases placed_of_nonempty time empty with
  | before front rest split later =>
      rw [split] at ordered ⊢
      refine Or.inl fun snapshot member => ?_
      rcases List.mem_cons.mp member with rfl | after
      · exact later
      · exact UInt64.lt_trans later (List.rel_of_pairwise_cons ordered after)
  | between earlier source target rest split passed sourcePassed later =>
      rw [split] at ordered ⊢
      obtain ⟨_, tail, across⟩ := List.pairwise_append.mp ordered
      have afterTarget : ∀ other ∈ target :: rest, target.serverTimeMs ≤ other.serverTimeMs := by
        intro other member
        rcases List.mem_cons.mp member with rfl | further
        · exact UInt64.le_refl _
        · exact UInt64.le_of_lt ((List.pairwise_cons.mp tail.of_cons).1 other further)
      refine Or.inr ⟨earlier, source, target :: rest, rfl, passed, ⟨by simp, sourcePassed, ?_⟩, ?_⟩
      · intro other member inTime
        rcases List.mem_append.mp member with before | onward
        · exact UInt64.le_of_lt (across other before source List.mem_cons_self)
        · rcases List.mem_cons.mp onward with rfl | further
          · exact UInt64.le_refl _
          · exact absurd (UInt64.le_trans (afterTarget other further) inTime)
              (UInt64.not_le.mpr later)
      · intro head isHead
        cases isHead
        refine ⟨by simp, later, ?_⟩
        intro other member otherLater
        rcases List.mem_append.mp member with before | onward
        · exact absurd (passed other before) (UInt64.not_le.mpr otherLater)
        · rcases List.mem_cons.mp onward with rfl | further
          · exact absurd sourcePassed (UInt64.not_le.mpr otherLater)
          · exact afterTarget other further
  | after earlier last split passed lastPassed =>
      rw [split] at ordered ⊢
      obtain ⟨_, _, across⟩ := List.pairwise_append.mp ordered
      refine Or.inr ⟨earlier, last, [], rfl, passed, ⟨by simp, lastPassed, ?_⟩, ?_⟩
      · intro other member _
        rcases List.mem_append.mp member with before | isLast
        · exact UInt64.le_of_lt (across other before last List.mem_cons_self)
        · rw [List.mem_singleton.mp isLast]
          exact UInt64.le_refl _
      · intro head isHead
        cases isHead

/-- A frame brackets its render time when the scan meets the two snapshots, with
distinct ids only then, and whenever the snapshots arrived in time order. -/
theorem render_brackets_iff (config : PresentationInterpolationConfig)
    (arrivals : List SnapshotDTO) (distinct : (arrivals.map SnapshotDTO.serverTimeMs).Nodup)
    (estimatedServerNowMs : TimestampMs) :
    let interpolator := pushAll config arrivals
    let time := renderTime config.interpolationDelayMs estimatedServerNowMs
    (ScanMeets interpolator.snapshots time →
      Brackets interpolator.snapshots (interpolator.sample estimatedServerNowMs)) ∧
    ((arrivals.map SnapshotDTO.snapshotId).Nodup →
      (Brackets interpolator.snapshots (interpolator.sample estimatedServerNowMs) ↔
        ScanMeets interpolator.snapshots time)) ∧
    ((arrivals.Pairwise fun first second => first.serverTimeMs < second.serverTimeMs) →
      ScanMeets interpolator.snapshots time) := by
  intro interpolator time
  have retained : interpolator.snapshots.Sublist arrivals :=
    (retained_suffix config arrivals).sublist
  have sameConfig : interpolator.config = config := push_all_config config arrivals
  have enough : ScanMeets interpolator.snapshots time →
      Brackets interpolator.snapshots (interpolator.sample estimatedServerNowMs) := by
    intro meets
    refine brackets_of_scan (distinct.sublist (retained.map _)) ?_
    rw [sameConfig]
    exact meets
  refine ⟨enough, ?_, ?_⟩
  · intro distinctIds
    refine ⟨fun brackets => ?_, enough⟩
    have meets := scan_of_brackets (distinctIds.sublist (retained.map _)) brackets
    rw [sameConfig] at meets
    exact meets
  · intro ordered
    exact scan_of_ordered (ordered.sublist retained) time

/-- The snapshot of time 150 arrives after the one of time 200. -/
def overtaken : List SnapshotDTO :=
  [{ snapshotId := 1, serverTimeMs := 100 }, { snapshotId := 3, serverTimeMs := 200 },
   { snapshotId := 2, serverTimeMs := 150 }]

/-- At 170 the frame is blended from the snapshot of time 100, not of time 150. -/
theorem render_brackets_overtaken : ¬ ∀ (config : PresentationInterpolationConfig)
    (arrivals : List SnapshotDTO), (arrivals.map SnapshotDTO.serverTimeMs).Nodup →
    ∀ estimatedServerNowMs, Brackets (pushAll config arrivals).snapshots
      ((pushAll config arrivals).sample estimatedServerNowMs) := by
  intro always
  have brackets := always {} overtaken (by decide) 270
  have named := brackets.source { snapshotId := 2, serverTimeMs := 150 }
    ⟨by decide, by decide, by decide⟩
  exact absurd named (by decide)

/-- One snapshot of a time before 170, and then one of a time after it. -/
def inTurn : List SnapshotDTO :=
  [{ snapshotId := 1, serverTimeMs := 100 }, { snapshotId := 2, serverTimeMs := 200 }]

theorem render_brackets_in_turn :
    (inTurn.map SnapshotDTO.serverTimeMs).Nodup ∧
    ((pushAll {} inTurn).sample 270).renderServerTimeMs = 170 ∧
    ((pushAll {} inTurn).sample 270).fromSnapshotId = 1 ∧
    ((pushAll {} inTurn).sample 270).toSnapshotId = 2 ∧
    Brackets (pushAll {} inTurn).snapshots ((pushAll {} inTurn).sample 270) := by
  have distinct : (inTurn.map SnapshotDTO.serverTimeMs).Nodup := by decide
  have parts := render_brackets_iff {} inTurn distinct 270
  exact ⟨distinct, by decide, by decide, by decide, parts.1 (parts.2.2 (by decide))⟩

end Brawololo.RenderBrackets
