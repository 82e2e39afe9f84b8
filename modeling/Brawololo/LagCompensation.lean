import Brawololo.LagHistory
import Brawololo.TrappingArithmetic

/-!
Queries for lag compensation. A query maps the timestamp of a client to server
time, rejects times ahead of the server or too far back, and answers the others
from the history. The timestamp comes from a packet: from `2 ^ 63` on it turns
negative when it is cast, and the limit on times ahead wraps as a sum of unsigned
numbers does.
-/

namespace Brawololo.LagCompensation

open GameTypes EntityStore Simulation Server LagHistory TrappingArithmetic

inductive LagCompensationRejectReason where
  | none
  | tooOld
  | fromFuture
  | historyUnavailable
  deriving DecidableEq

structure LagCompensationConfig where
  maxRewindMs : TimestampMs := 250
  futureToleranceMs : TimestampMs := 50

structure LagCompensationQuery where
  clientId : ClientId := 0
  sequence : CommandSequence := 0
  clientTimestampMs : TimestampMs := 0
  clientToServerOffsetMs : Int64 := 0
  serverNowMs : TimestampMs := 0

structure LagCompensationResult where
  accepted : Bool := false
  rejectReason : LagCompensationRejectReason := .historyUnavailable
  targetServerTimeMs : TimestampMs := 0
  historicalSnapshot : Option SnapshotDTO := none

def mapClientTimeToServerTime (query : LagCompensationQuery) : TimestampMs :=
  let mapped := query.clientTimestampMs.toInt64 + query.clientToServerOffsetMs
  if mapped ≤ 0 then 0 else mapped.toUInt64

/-- `LagCompensationService::Query`. -/
def query (config : LagCompensationConfig) (history : LagCompensationHistory)
    (query : LagCompensationQuery) : LagCompensationResult :=
  let result : LagCompensationResult :=
    { targetServerTimeMs := mapClientTimeToServerTime query }
  if query.serverNowMs + config.futureToleranceMs < result.targetServerTimeMs then
    { result with rejectReason := .fromFuture }
  else if result.targetServerTimeMs < query.serverNowMs ∧
      config.maxRewindMs < query.serverNowMs - result.targetServerTimeMs then
    { result with rejectReason := .tooOld }
  else
    let historicalSnapshot := history.closestAtOrBefore result.targetServerTimeMs
    match historicalSnapshot with
    | none => { result with rejectReason := .historyUnavailable }
    | some _ => { result with historicalSnapshot := historicalSnapshot, accepted := true,
                              rejectReason := .none }

/-- What the server runtime asks for a packet. -/
def packetQuery (runtime : ServerRuntime) (packet : ClientInputPacket)
    (clientToServerOffsetMs : Int64) : LagCompensationQuery :=
  { clientId := packet.header.clientId, sequence := packet.header.sequence
    clientTimestampMs := packet.header.clientTimestampMs
    clientToServerOffsetMs := clientToServerOffsetMs
    serverNowMs := runtime.simulation.timeMs }

def queryLagCompensation (runtime : ServerRuntime) (packet : ClientInputPacket)
    (clientToServerOffsetMs : Int64) : LagCompensationResult :=
  query {} runtime.history (packetQuery runtime packet clientToServerOffsetMs)

/-- The same where adding beyond the signed range leaves no defined result. -/
def definedQuery (config : LagCompensationConfig) (history : LagCompensationHistory)
    (asked : LagCompensationQuery) : Option LagCompensationResult :=
  (add64 asked.clientTimestampMs.toInt64 asked.clientToServerOffsetMs).map fun _ =>
    query config history asked

/-! What a query is for. -/

section Meaning

variable (config : LagCompensationConfig) (asked : LagCompensationQuery)

/-- The timestamp and the offset, added in the integers. -/
def exactSum : Int := asked.clientTimestampMs.toNat + asked.clientToServerOffsetMs.toInt

def exactTarget : Int := max 0 (exactSum asked)

def exactLimit : Int := asked.serverNowMs.toNat + config.futureToleranceMs.toNat

end Meaning

def Rejected (reason : LagCompensationRejectReason) (result : LagCompensationResult) : Prop :=
  result.accepted = false ∧ result.rejectReason = reason

/-- The snapshot is retained, and no retained one up to the time is newer. -/
structure NewestUpTo (retained : List SnapshotDTO) (time : Int) (snapshot : SnapshotDTO) :
    Prop where
  member : snapshot ∈ retained
  inTime : (snapshot.serverTimeMs.toNat : Int) ≤ time
  newest : ∀ other ∈ retained, (other.serverTimeMs.toNat : Int) ≤ time →
    other.serverTimeMs ≤ snapshot.serverTimeMs

structure Accepted (retained : List SnapshotDTO) (time : Int) (result : LagCompensationResult) :
    Prop where
  accepted : result.accepted = true
  rejectReason : result.rejectReason = .none
  snapshot : ∃ snapshot, result.historicalSnapshot = some snapshot ∧
    NewestUpTo retained time snapshot

/-- Some snapshot has a time up to this one. -/
def Reaches (snapshots : List SnapshotDTO) (time : Int) : Prop :=
  ∃ snapshot ∈ snapshots, (snapshot.serverTimeMs.toNat : Int) ≤ time

/-- The result for a target and a limit. `counted` are the snapshots whose absence
makes the history unavailable. -/
structure Decided (target limit now rewind : Int) (counted retained : List SnapshotDTO)
    (result : LagCompensationResult) : Prop where
  fromFuture : limit < target → Rejected .fromFuture result
  tooOld : target ≤ limit → target + rewind < now → Rejected .tooOld result
  unavailable : target ≤ limit → now ≤ target + rewind → ¬ Reaches counted target →
    Rejected .historyUnavailable result
  accepted : target ≤ limit → now ≤ target + rewind → Reaches counted target →
    Accepted retained target result

section Folding

variable (config : LagCompensationConfig) (asked : LagCompensationQuery)

/-- The result that exact arithmetic gives. -/
def Specified (counted retained : List SnapshotDTO) (result : LagCompensationResult) : Prop :=
  Decided (exactTarget asked) (exactLimit config asked) asked.serverNowMs.toNat
    config.maxRewindMs.toNat counted retained result

/-! When the code gives it. -/

/-- A sum from `2 ^ 63` on counts as one that is `2 ^ 64` less. -/
def foldedTarget : Int :=
  max 0 (if exactSum asked < 2 ^ 63 then exactSum asked else exactSum asked - 2 ^ 64)

/-- A limit from `2 ^ 64` on counts as one that is `2 ^ 64` less. -/
def foldedLimit : Int :=
  if exactLimit config asked < 2 ^ 64 then exactLimit config asked
  else exactLimit config asked - 2 ^ 64

end Folding

/-- The history answers for the folded target as for the exact one. -/
def SameAnswer (target folded : Int) (counted retained : List SnapshotDTO) : Prop :=
  ¬ Reaches counted target ∨ Reaches retained folded ∧ ∀ snapshot ∈ retained,
    (snapshot.serverTimeMs.toNat : Int) ≤ target → (snapshot.serverTimeMs.toNat : Int) ≤ folded

/-- Folding the target and the limit does not change the outcome. -/
structure FoldsAway (target folded limit foldedLimit now rewind : Int)
    (counted retained : List SnapshotDTO) : Prop where
  fromFuture : limit < target → foldedLimit < folded
  inTime : target ≤ limit → folded ≤ foldedLimit
  answered : target ≤ limit → now ≤ target + rewind →
    now ≤ folded + rewind ∧ SameAnswer target folded counted retained

/-- Where nothing folds, that is for sums below `2 ^ 63` and limits below `2 ^ 64`,
this asks only that a counted snapshot that answers the query be retained. -/
def ExactWhen (config : LagCompensationConfig) (asked : LagCompensationQuery)
    (counted retained : List SnapshotDTO) : Prop :=
  FoldsAway (exactTarget asked) (foldedTarget asked) (exactLimit config asked)
    (foldedLimit config asked) asked.serverNowMs.toNat config.maxRewindMs.toNat counted retained

/-! The arithmetic of the code. -/

theorem folded_le (asked : LagCompensationQuery) : foldedTarget asked ≤ exactTarget asked := by
  unfold foldedTarget exactTarget
  split
  · exact Int.le_refl _
  · omega

theorem mapped_target (asked : LagCompensationQuery) :
    ((mapClientTimeToServerTime asked).toNat : Int) = foldedTarget asked := by
  have timestampMax := asked.clientTimestampMs.toNat_lt
  have offsetMin := asked.clientToServerOffsetMs.le_toInt
  have offsetMax := asked.clientToServerOffsetMs.toInt_lt
  have sum : exactSum asked = asked.clientTimestampMs.toNat + asked.clientToServerOffsetMs.toInt :=
    rfl
  have mapped : (asked.clientTimestampMs.toInt64 + asked.clientToServerOffsetMs).toInt =
      if exactSum asked < 2 ^ 63 then exactSum asked else exactSum asked - 2 ^ 64 := by
    rw [Int64.toInt_add, toInt64_eq_bmod, Int.bmod_add_bmod, ← sum]
    split
    · exact bmod64_eq ⟨by omega, by omega⟩
    · rw [← Int.sub_bmod_right, Nat.cast_pow]
      exact bmod64_eq ⟨by omega, by omega⟩
  unfold mapClientTimeToServerTime foldedTarget
  dsimp only
  rw [← mapped]
  split
  · next notPositive =>
      rw [Int64.le_iff_toInt_le, Int64.toInt_zero] at notPositive
      rw [UInt64.toNat_zero]
      omega
  · next positive =>
      rw [Int64.le_iff_toInt_le, Int64.toInt_zero] at positive
      rw [Int64.toNat_toUInt64_of_le (Int64.le_iff_toInt_le.mpr (by rw [Int64.toInt_zero]; omega)),
        Int64.toNatClampNeg]
      omega

theorem limit_eq (config : LagCompensationConfig) (asked : LagCompensationQuery) :
    ((asked.serverNowMs + config.futureToleranceMs).toNat : Int) = foldedLimit config asked := by
  have nowMax := asked.serverNowMs.toNat_lt
  have toleranceMax := config.futureToleranceMs.toNat_lt
  unfold foldedLimit exactLimit
  rw [UInt64.toNat_add]
  split
  · omega
  · omega

/-! Answers of the code. -/

/-- In a history in time order the last snapshot up to a time is the newest. -/
theorem closest_cases {history : LagCompensationHistory}
    (ordered : history.snapshots.Pairwise fun first second =>
      first.serverTimeMs ≤ second.serverTimeMs) (time : TimestampMs) :
    (∃ snapshot, history.closestAtOrBefore time = some snapshot ∧
      NewestUpTo history.snapshots time.toNat snapshot) ∨
    history.closestAtOrBefore time = none ∧ ¬ Reaches history.snapshots time.toNat := by
  rcases latest_from_cases time none history.snapshots with
    ⟨snapshot, isFound, earlier, later, split, inTime, isLast⟩ | ⟨unfound, tooLate⟩
  · refine Or.inl ⟨snapshot, isFound, ?_, ?_, ?_⟩
    · rw [split]
      exact List.mem_append_right _ List.mem_cons_self
    · exact Int.ofNat_le.mpr (UInt64.le_iff_toNat_le.mp inTime)
    · intro other member otherInTime
      rw [split] at member ordered
      rcases List.mem_append.mp member with before | after
      · exact (List.pairwise_append.mp ordered).2.2 other before snapshot List.mem_cons_self
      · rcases List.mem_cons.mp after with rfl | isLater
        · exact UInt64.le_refl _
        · exact absurd (UInt64.le_iff_toNat_le.mpr (Int.ofNat_le.mp otherInTime))
            (isLast other isLater)
  · refine Or.inr ⟨unfound, ?_⟩
    rintro ⟨snapshot, member, inTime⟩
    exact tooLate snapshot member (UInt64.le_iff_toNat_le.mpr (Int.ofNat_le.mp inTime))

/-- The code decides by the folded numbers. -/
theorem query_decided (config : LagCompensationConfig) {history : LagCompensationHistory}
    (ordered : history.snapshots.Pairwise fun first second =>
      first.serverTimeMs ≤ second.serverTimeMs) (asked : LagCompensationQuery) :
    Decided (foldedTarget asked) (foldedLimit config asked) asked.serverNowMs.toNat
      config.maxRewindMs.toNat history.snapshots history.snapshots
      (query config history asked) := by
  rw [← mapped_target asked, ← limit_eq config asked]
  generalize target : mapClientTimeToServerTime asked = targetMs
  have future : asked.serverNowMs + config.futureToleranceMs < targetMs ↔
      ((asked.serverNowMs + config.futureToleranceMs).toNat : Int) < targetMs.toNat := by
    rw [UInt64.lt_iff_toNat_lt, Int.ofNat_lt]
  have old : (targetMs < asked.serverNowMs ∧ config.maxRewindMs < asked.serverNowMs - targetMs) ↔
      (targetMs.toNat : Int) + config.maxRewindMs.toNat < asked.serverNowMs.toNat := by
    constructor
    · rintro ⟨before, rewinds⟩
      rw [UInt64.lt_iff_toNat_lt, UInt64.toNat_sub_of_le _ _ (UInt64.le_of_lt before)] at rewinds
      omega
    · intro rewinds
      have before : targetMs < asked.serverNowMs := UInt64.lt_iff_toNat_lt.mpr (by omega)
      refine ⟨before, ?_⟩
      rw [UInt64.lt_iff_toNat_lt, UInt64.toNat_sub_of_le _ _ (UInt64.le_of_lt before)]
      omega
  unfold query
  dsimp only
  rw [target]
  -- The code checks the reasons in this order, on the folded numbers.
  by_cases ahead : asked.serverNowMs + config.futureToleranceMs < targetMs
  · rw [if_pos ahead]
    have ahead' := future.mp ahead
    exact ⟨fun _ => ⟨rfl, rfl⟩, by omega, by omega, by omega⟩
  · rw [if_neg ahead]
    have inTime := mt future.mpr ahead
    by_cases early : targetMs < asked.serverNowMs ∧
        config.maxRewindMs < asked.serverNowMs - targetMs
    · rw [if_pos early]
      have early' := old.mp early
      exact ⟨by omega, fun _ _ => ⟨rfl, rfl⟩, by omega, by omega⟩
    · rw [if_neg early]
      have recent := mt old.mpr early
      rcases closest_cases ordered targetMs with ⟨snapshot, found, newest⟩ | ⟨unfound, unreached⟩
      · rw [found]
        refine ⟨by omega, by omega, ?_, ?_⟩
        · intro _ _ unreached
          exact absurd ⟨snapshot, newest.member, newest.inTime⟩ unreached
        · intro _ _ _
          exact ⟨rfl, rfl, snapshot, rfl, newest⟩
      · rw [unfound]
        refine ⟨by omega, by omega, ?_, ?_⟩
        · intro _ _ _
          exact ⟨rfl, rfl⟩
        · intro _ _ reached
          exact absurd reached unreached

/-! Two decisions on one result. -/

section Comparing

variable {target folded limit foldedLimit now rewind : Int} {counted retained : List SnapshotDTO}
  {result : LagCompensationResult}

/-- A reason belongs to one outcome. -/
theorem Rejected.reason_unique {reason reason' : LagCompensationRejectReason}
    (rejected : Rejected reason result) (rejected' : Rejected reason' result) : reason = reason' :=
  rejected.2.symm.trans rejected'.2

theorem Rejected.not_accepted {reason : LagCompensationRejectReason} {time : Int}
    (rejected : Rejected reason result) (accepted : Accepted retained time result) : False := by
  have unaccepted := rejected.1
  rw [accepted.accepted] at unaccepted
  cases unaccepted

theorem Decided.cases (decided : Decided target limit now rewind counted retained result) :
    limit < target ∧ Rejected .fromFuture result ∨
    target ≤ limit ∧ target + rewind < now ∧ Rejected .tooOld result ∨
    target ≤ limit ∧ now ≤ target + rewind ∧ ¬ Reaches counted target ∧
      Rejected .historyUnavailable result ∨
    target ≤ limit ∧ now ≤ target + rewind ∧ Reaches counted target ∧
      Accepted retained target result := by
  by_cases ahead : limit < target
  · exact Or.inl ⟨ahead, decided.fromFuture ahead⟩
  · have inTime := Int.not_lt.mp ahead
    by_cases early : target + rewind < now
    · exact Or.inr (Or.inl ⟨inTime, early, decided.tooOld inTime early⟩)
    · have recent := Int.not_lt.mp early
      by_cases reached : Reaches counted target
      · exact Or.inr (Or.inr (Or.inr ⟨inTime, recent, reached,
          decided.accepted inTime recent reached⟩))
      · exact Or.inr (Or.inr (Or.inl ⟨inTime, recent, reached,
          decided.unavailable inTime recent reached⟩))

/-- One result for both targets, past the checks of the exact one, comes from the
same part of the history. -/
theorem answered_alike
    (exact' : Decided target limit now rewind counted retained result)
    (decided : Decided folded foldedLimit now rewind retained retained result)
    (inTime : target ≤ limit) (recent : now ≤ target + rewind) :
    now ≤ folded + rewind ∧ SameAnswer target folded counted retained := by
  by_cases reached : Reaches counted target
  · have accepted := exact'.accepted inTime recent reached
    rcases decided.cases with ⟨_, future⟩ | ⟨_, _, old⟩ | ⟨_, _, _, unavailable⟩ |
      ⟨_, foldedRecent, foldedReached, accepted'⟩
    · exact (future.not_accepted accepted).elim
    · exact (old.not_accepted accepted).elim
    · exact (unavailable.not_accepted accepted).elim
    · refine ⟨foldedRecent, Or.inr ⟨foldedReached, ?_⟩⟩
      -- Both name one snapshot, the newest up to either target.
      obtain ⟨snapshot, isSnapshot, newest⟩ := accepted.snapshot
      obtain ⟨snapshot', isSnapshot', newest'⟩ := accepted'.snapshot
      rw [isSnapshot] at isSnapshot'
      cases isSnapshot'
      intro other member atMost
      have older := UInt64.le_iff_toNat_le.mp (newest.newest other member atMost)
      exact (Int.ofNat_le.mpr older).trans newest'.inTime
  · have rejected := exact'.unavailable inTime recent reached
    rcases decided.cases with ⟨_, future⟩ | ⟨_, _, old⟩ | ⟨_, foldedRecent, _, _⟩ |
      ⟨_, foldedRecent, _, _⟩
    · cases rejected.reason_unique future
    · cases rejected.reason_unique old
    · exact ⟨foldedRecent, Or.inl reached⟩
    · exact ⟨foldedRecent, Or.inl reached⟩

/-- The result decided by folded numbers is the one decided by the exact ones
exactly when folding does not change the outcome. -/
theorem decided_iff (below : folded ≤ target) (within : retained ⊆ counted)
    (decided : Decided folded foldedLimit now rewind retained retained result) :
    Decided target limit now rewind counted retained result ↔
      FoldsAway target folded limit foldedLimit now rewind counted retained := by
  constructor
  · intro exact'
    refine ⟨?_, ?_, ?_⟩
    · -- A rejection has one reason, so the folded target is ahead too.
      intro ahead
      have rejected := exact'.fromFuture ahead
      rcases decided.cases with ⟨folds, _⟩ | ⟨_, _, old⟩ | ⟨_, _, _, unavailable⟩ |
        ⟨_, _, _, accepted⟩
      · exact folds
      · cases rejected.reason_unique old
      · cases rejected.reason_unique unavailable
      · exact (rejected.not_accepted accepted).elim
    · intro inTime
      by_contra ahead
      have rejected := decided.fromFuture (Int.not_le.mp ahead)
      rcases exact'.cases with ⟨future, _⟩ | ⟨_, _, old⟩ | ⟨_, _, _, unavailable⟩ |
        ⟨_, _, _, accepted⟩
      · exact absurd inTime (Int.not_le.mpr future)
      · cases rejected.reason_unique old
      · cases rejected.reason_unique unavailable
      · exact rejected.not_accepted accepted
    · intro inTime recent
      exact answered_alike exact' decided inTime recent
  · intro folds
    refine ⟨?_, ?_, ?_, ?_⟩
    · intro ahead
      exact decided.fromFuture (folds.fromFuture ahead)
    · intro inTime early
      exact decided.tooOld (folds.inTime inTime) (by omega)
    · intro inTime recent unreached
      refine decided.unavailable (folds.inTime inTime) (folds.answered inTime recent).1 ?_
      rintro ⟨snapshot, member, atMost⟩
      exact unreached ⟨snapshot, within member, atMost.trans below⟩
    · intro inTime recent reached
      obtain ⟨foldedRecent, unreached | ⟨foldedReached, same⟩⟩ := folds.answered inTime recent
      · exact absurd reached unreached
      · obtain ⟨accepted, reason, snapshot, isSnapshot, newest⟩ :=
          decided.accepted (folds.inTime inTime) foldedRecent foldedReached
        refine ⟨accepted, reason, snapshot, isSnapshot, newest.member,
          newest.inTime.trans below, ?_⟩
        intro other member atMost
        exact newest.newest other member (same other member atMost)

end Comparing

/-- The queries of the server runtime, whose history is in time order while its
clock does not wrap. -/
theorem server_query_iff (runtime : ServerRuntime) (packet : ClientInputPacket)
    (clientToServerOffsetMs : Int64)
    (ordered : runtime.history.snapshots.Pairwise fun first second =>
      first.serverTimeMs ≤ second.serverTimeMs) :
    Specified {} (packetQuery runtime packet clientToServerOffsetMs) runtime.history.snapshots
        runtime.history.snapshots (queryLagCompensation runtime packet clientToServerOffsetMs) ↔
      ExactWhen {} (packetQuery runtime packet clientToServerOffsetMs) runtime.history.snapshots
        runtime.history.snapshots :=
  decided_iff (folded_le _) (List.Subset.refl _) (query_decided {} ordered _)

/-! Recorded histories. -/

def recordAll (maxSnapshots : Nat) (recorded : List SnapshotDTO) : LagCompensationHistory :=
  recorded.foldl LagCompensationHistory.record { maxSnapshots := maxSnapshots }

/-- A history retains the end of what was recorded. -/
theorem recorded_suffix (maxSnapshots : Nat) (recorded : List SnapshotDTO) :
    (recordAll maxSnapshots recorded).snapshots <:+ recorded :=
  push_all_suffix LagCompensationHistory.snapshots LagCompensationHistory.record
    (fun history _ => ⟨history.maxSnapshots, rfl⟩) rfl recorded

/-- The query follows exact arithmetic exactly when folding does not change the
outcome, whether what is counted is all that was recorded or what is retained.
Where an overflowing sum has no defined value, the sum has to fit as well. -/
theorem lag_query_exact_iff (config : LagCompensationConfig) (maxSnapshots : Nat)
    (recorded : List SnapshotDTO) (asked : LagCompensationQuery)
    (ordered : recorded.Pairwise fun first second => first.serverTimeMs ≤ second.serverTimeMs) :
    let history := recordAll maxSnapshots recorded
    (∀ counted ∈ [recorded, history.snapshots],
      Specified config asked counted history.snapshots (query config history asked) ↔
        ExactWhen config asked counted history.snapshots) ∧
    ((∃ result, definedQuery config history asked = some result ∧
        Specified config asked recorded history.snapshots result) ↔
      Fits64 (asked.clientTimestampMs.toInt64.toInt + asked.clientToServerOffsetMs.toInt) ∧
        ExactWhen config asked recorded history.snapshots) := by
  intro history
  have suffix : history.snapshots <:+ recorded := recorded_suffix maxSnapshots recorded
  have decided := query_decided config (ordered.sublist suffix.sublist) asked
  have iff : ∀ counted, history.snapshots ⊆ counted →
      (Specified config asked counted history.snapshots (query config history asked) ↔
        ExactWhen config asked counted history.snapshots) :=
    fun counted within => decided_iff (folded_le asked) within decided
  refine ⟨?_, ?_⟩
  · intro counted member
    rcases List.mem_pair.mp member with rfl | rfl
    · exact iff _ suffix.subset
    · exact iff _ (List.Subset.refl _)
  · unfold definedQuery add64
    split
    · next fits =>
        rw [← iff recorded suffix.subset]
        constructor
        · rintro ⟨result, isResult, specified⟩
          cases isResult
          exact ⟨fits, specified⟩
        · rintro ⟨_, specified⟩
          exact ⟨_, rfl, specified⟩
    · next overflows => simp [overflows]

/-- A snapshot of time 96 is retained, and the server is at 112. -/
def shortly : List SnapshotDTO := [{ serverTimeMs := 96 }]

/-- The timestamp is the largest there is; with the offset it folds to 99. -/
def forged : LagCompensationQuery :=
  { clientTimestampMs := 18446744073709551615, clientToServerOffsetMs := 100, serverNowMs := 112 }

/-- The forged timestamp is answered from the history. -/
theorem lag_query_forged : ¬ ∀ (config : LagCompensationConfig) (maxSnapshots : Nat)
    (recorded : List SnapshotDTO) (asked : LagCompensationQuery),
    (recorded.Pairwise fun first second => first.serverTimeMs ≤ second.serverTimeMs) →
    Specified config asked recorded (recordAll maxSnapshots recorded).snapshots
      (query config (recordAll maxSnapshots recorded) asked) := by
  intro always
  have specified := always {} 128 shortly forged (List.pairwise_singleton _ _)
  have rejected := specified.fromFuture (by decide)
  exact absurd rejected.1 (by decide)

/-- Three snapshots were recorded, of which a history of two retains the last. -/
def threeTicks : List SnapshotDTO :=
  [{ snapshotId := 1, serverTimeMs := 80 }, { snapshotId := 2, serverTimeMs := 96 },
   { snapshotId := 3, serverTimeMs := 112 }]

/-- The client's clock is 10 ms behind; the query is for the time 100. -/
def honest : LagCompensationQuery :=
  { clientTimestampMs := 90, clientToServerOffsetMs := 10, serverNowMs := 112 }

/-- The honest query, between the two retained snapshots, is answered by the first. -/
theorem lag_query_exact_honest :
    (threeTicks.Pairwise fun first second => first.serverTimeMs ≤ second.serverTimeMs) ∧
    (query {} (recordAll 2 threeTicks) honest).historicalSnapshot =
      some { snapshotId := 2, serverTimeMs := 96 } ∧
    Specified {} honest threeTicks (recordAll 2 threeTicks).snapshots
      (query {} (recordAll 2 threeTicks) honest) := by
  have ordered : threeTicks.Pairwise fun first second =>
      first.serverTimeMs ≤ second.serverTimeMs := by decide
  refine ⟨ordered, by decide, ?_⟩
  have exact := (lag_query_exact_iff {} 2 threeTicks honest ordered).1 threeTicks (by simp)
  refine exact.mpr ⟨by decide, by decide, fun _ _ => ⟨by decide, Or.inr ⟨?_, ?_⟩⟩⟩
  · exact ⟨{ snapshotId := 2, serverTimeMs := 96 }, List.mem_cons_self, by decide⟩
  · decide

end Brawololo.LagCompensation
