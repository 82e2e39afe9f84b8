import Brawololo.HostBookkeeping
import Brawololo.Histories

/-!
Baselines of snapshots. A snapshot is full, or it names as its baseline the
highest snapshot its client has acknowledged, which was sent to this client
alone and is still in its cache with the content that was sent.
-/

namespace Brawololo.DeltaBaselines

open GameTypes Replication Server DeliveryBooks HostBookkeeping Histories

/-! The statement. -/

def numberedSnapshot : Happening → Option SnapshotId
  | .snapshotNumbered snapshotId => some snapshotId
  | _ => none

def handedSnapshot : Happening → Option SnapshotId
  | .handed _ (.snapshot planned _) _ => some planned.snapshotId
  | _ => none

def snapshotsBuilt (trace : Trace) : Nat := (trace.filterMap numberedSnapshot).length

/-- The client's accepted acknowledgements have this one as their highest. -/
structure HighestAcked (trace : Trace) (clientId : ClientId) (snapshotId : SnapshotId) : Prop where
  acked : Happening.snapshotAcked clientId snapshotId ∈ trace
  highest : ∀ other, Happening.snapshotAcked clientId other ∈ trace → other ≤ snapshotId

/-- The snapshot was accepted for the client, and none of its id was ever handed
over for another one or with another content. -/
structure SentOnlyTo (trace : Trace) (clientId : ClientId) (sent : SnapshotDTO) : Prop where
  accepted : ∃ baseline, Happening.handed clientId (.snapshot sent baseline) true ∈ trace
  alone : ∀ other snapshot baseline accepted,
    Happening.handed other (.snapshot snapshot baseline) accepted ∈ trace →
    snapshot.snapshotId = sent.snapshotId → other = clientId ∧ snapshot = sent

/-- The last argument is what the cache returned for the baseline id. -/
inductive SafeSnapshot (earlier : Trace) (clientId : ClientId) (planned : SnapshotDTO) :
    Option SnapshotDTO → Prop where
  | full (kind : planned.deliveryKind = .full) (zero : planned.baselineId = 0) :
      SafeSnapshot earlier clientId planned none
  | delta (sent : SnapshotDTO) (kind : planned.deliveryKind = .deltaEligible)
      (nonzero : planned.baselineId ≠ 0) (names : sent.snapshotId = planned.baselineId)
      (acked : HighestAcked earlier clientId planned.baselineId)
      (only : SentOnlyTo earlier clientId sent)
      (matched : (planSnapshotDelta planned sent).baselineMatched = true) :
      SafeSnapshot earlier clientId planned (some sent)

def SafeHanding (earlier : Trace) (happening : Happening) : Prop :=
  ∀ clientId planned baseline accepted,
    happening = .handed clientId (.snapshot planned baseline) accepted →
    SafeSnapshot earlier clientId planned baseline

/-! The invariant. -/

def idsUpTo (count : Nat) : List SnapshotId :=
  (List.range count).map fun index => UInt32.ofNat (index + 1)

theorem ids_distinct {count : Nat} (few : count < 2 ^ 32) : (idsUpTo count).Nodup := by
  apply List.Nodup.map_on
  · intro first isFirst second isSecond same
    have firstBelow := List.mem_range.mp isFirst
    have secondBelow := List.mem_range.mp isSecond
    have values := congrArg UInt32.toNat same
    simp only [UInt32.toNat_ofNat'] at values
    omega
  · exact List.nodup_range

/-- Of the ids handed over so far, each was numbered before, in this order. -/
def Ordered (trace : Trace) : Prop :=
  (trace.filterMap handedSnapshot).Sublist (trace.filterMap numberedSnapshot)

structure Acknowledged (trace : Trace) (clientId : ClientId) (account : Account) : Prop where
  named : account.acked ≠ 0 → Happening.snapshotAcked clientId account.acked ∈ trace
  highest : ∀ other, Happening.snapshotAcked clientId other ∈ trace → other ≤ account.acked

structure Baselined (books : Books) : Prop where
  numbers : ∃ count, books.trace.filterMap numberedSnapshot = idsUpTo count ∧
    books.nextSnapshotId = UInt32.ofNat (count + 1)
  orderedThen : EveryEvent
    (fun earlier happening => (numberedSnapshot happening).isSome → Ordered earlier) books.trace
  ordered : Ordered books.trace
  held : ∀ clientId, ∀ snapshot ∈ books.held clientId,
    ∃ baseline, Happening.handed clientId (.snapshot snapshot baseline) true ∈ books.trace
  acked : ∀ clientId account, books.accounts clientId = some account →
    Acknowledged books.trace clientId account
  enrolled : ∀ clientId snapshotId, Happening.snapshotAcked clientId snapshotId ∈ books.trace →
    (books.accounts clientId).isSome
  safe : snapshotsBuilt books.trace < 2 ^ 32 → EveryEvent SafeHanding books.trace

theorem baselined_start : Baselined {} where
  numbers := ⟨0, rfl, rfl⟩
  orderedThen := every_event_nil _
  ordered := List.Sublist.refl _
  held := by
    intro clientId snapshot member
    cases member
  acked := by
    intro clientId account has
    cases has
  enrolled := by
    intro clientId snapshotId member
    cases member
  safe := fun _ => every_event_nil _

/-- Happenings that are not about snapshots. -/
structure AboutEvents (happening : Happening) : Prop where
  numbers : numberedSnapshot happening = none
  hands : handedSnapshot happening = none
  acks : ∀ clientId snapshotId, happening ≠ .snapshotAcked clientId snapshotId

section Moving

variable {books : Books}

theorem safe_handing_of_none {earlier : Trace} {happening : Happening}
    (none : handedSnapshot happening = none) : SafeHanding earlier happening := by
  rintro clientId planned baseline accepted rfl
  cases none

theorem mem_concat_of_ne {trace : Trace} {last happening : Happening}
    (member : happening ∈ trace ++ [last]) (different : last ≠ happening) : happening ∈ trace := by
  rcases List.mem_append.mp member with old | new
  · exact old
  · exact absurd (List.mem_singleton.mp new).symm different

/-! What a happening that says nothing of them leaves as it was. -/

section Concat

variable {trace : Trace} {happening : Happening}

theorem numbers_concat (silent : numberedSnapshot happening = none) :
    (trace ++ [happening]).filterMap numberedSnapshot = trace.filterMap numberedSnapshot := by
  rw [List.filterMap_append, List.filterMap_cons, silent]
  exact List.append_nil _

theorem hands_concat (silent : handedSnapshot happening = none) :
    (trace ++ [happening]).filterMap handedSnapshot = trace.filterMap handedSnapshot := by
  rw [List.filterMap_append, List.filterMap_cons, silent]
  exact List.append_nil _

theorem few_built_before (few : snapshotsBuilt (trace ++ [happening]) < 2 ^ 32)
    (silent : numberedSnapshot happening = none) : snapshotsBuilt trace < 2 ^ 32 := by
  unfold snapshotsBuilt at few
  rw [numbers_concat silent] at few
  exact few

theorem ordered_concat (numbers : numberedSnapshot happening = none)
    (hands : handedSnapshot happening = none) (ordered : Ordered trace) :
    Ordered (trace ++ [happening]) := by
  unfold Ordered
  rw [numbers_concat numbers, hands_concat hands]
  exact ordered

theorem ordered_then_concat (silent : numberedSnapshot happening = none)
    (orderedThen : EveryEvent
      (fun earlier happening => (numberedSnapshot happening).isSome → Ordered earlier) trace) :
    EveryEvent (fun earlier happening => (numberedSnapshot happening).isSome → Ordered earlier)
      (trace ++ [happening]) := by
  refine (every_event_concat _ _ _).mpr ⟨orderedThen, ?_⟩
  rw [silent]
  intro isSome
  cases isSome

theorem Acknowledged.concat {clientId : ClientId} {account : Account}
    (acknowledged : Acknowledged trace clientId account)
    (noAck : ∀ snapshotId, happening ≠ .snapshotAcked clientId snapshotId) :
    Acknowledged (trace ++ [happening]) clientId account where
  named nonzero := List.mem_append_left _ (acknowledged.named nonzero)
  highest other member := acknowledged.highest other (mem_concat_of_ne member (noAck other))

end Concat

/-- Recording what is not about snapshots, while accounts keep what they have
acknowledged. -/
theorem baselined_record (baselined : Baselined books) (happening : Happening)
    (about : AboutEvents happening) {after : Books}
    (trace : after.trace = books.trace ++ [happening])
    (counter : after.nextSnapshotId = books.nextSnapshotId) (held : after.held = books.held)
    (accounts : ∀ clientId, (after.accounts clientId).map (fun account => account.acked) =
      (books.accounts clientId).map fun account => account.acked) : Baselined after := by
  constructor
  case numbers =>
    rw [trace, numbers_concat about.numbers, counter]
    exact baselined.numbers
  case orderedThen =>
    rw [trace]
    exact ordered_then_concat about.numbers baselined.orderedThen
  case ordered =>
    rw [trace]
    exact ordered_concat about.numbers about.hands baselined.ordered
  case held =>
    intro clientId snapshot member
    rw [held] at member
    obtain ⟨baseline, sent⟩ := baselined.held clientId snapshot member
    exact ⟨baseline, by rw [trace]; exact List.mem_append_left _ sent⟩
  case acked =>
    intro clientId account has
    have same := accounts clientId
    rw [has] at same
    obtain ⟨old, isOld, sameAcked⟩ := Option.map_eq_some_iff.mp same.symm
    obtain ⟨named, highest⟩ := (baselined.acked clientId old isOld).concat (about.acks clientId)
    rw [sameAcked] at named highest
    rw [trace]
    exact ⟨named, highest⟩
  case enrolled =>
    intro clientId snapshotId member
    rw [trace] at member
    have before := baselined.enrolled clientId snapshotId
      (mem_concat_of_ne member (about.acks clientId snapshotId))
    have same := congrArg Option.isSome (accounts clientId)
    rw [Option.isSome_map, Option.isSome_map] at same
    rw [same]
    exact before
  case safe =>
    intro few
    rw [trace] at few ⊢
    exact (every_event_concat _ _ _).mpr
      ⟨baselined.safe (few_built_before few about.numbers), safe_handing_of_none about.hands⟩

/-- A new account or a changed one that keeps what it acknowledged. -/
theorem set_account_acked (clientId : ClientId) {account next : Account}
    (has : books.accounts clientId = some account) (same : next.acked = account.acked)
    (other : ClientId) :
    ((books.setAccount clientId next).accounts other).map (fun account => account.acked) =
      (books.accounts other).map fun account => account.acked := by
  rw [Books.set_account_get]
  split
  · next isClient => rw [isClient, has, Option.map_some, Option.map_some, same]
  · rfl

theorem answered_acked (account : Account) (event : NetworkEvents.NetworkEventDTO)
    (nowMs : TimestampMs) (accepted : Bool) :
    (account.answered event nowMs accepted).acked = account.acked := by
  unfold Account.answered
  split
  · rfl
  · rfl

/-- One id that was handed over once: two handings of it are the same. -/
theorem handed_once (ordered : Ordered books.trace)
    (numbers : ∃ count, books.trace.filterMap numberedSnapshot = idsUpTo count ∧
      books.nextSnapshotId = UInt32.ofNat (count + 1))
    (few : snapshotsBuilt books.trace < 2 ^ 32) {first second : Happening} {id : SnapshotId}
    (isFirst : first ∈ books.trace) (isSecond : second ∈ books.trace)
    (handsFirst : handedSnapshot first = some id) (handsSecond : handedSnapshot second = some id) :
    first = second := by
  obtain ⟨count, isNumbers, _⟩ := numbers
  unfold snapshotsBuilt at few
  rw [isNumbers] at few
  have small : count < 2 ^ 32 := by simpa [idsUpTo] using few
  have distinct := ids_distinct small
  rw [← isNumbers] at distinct
  exact yields_once handedSnapshot (distinct.sublist ordered) isFirst isSecond handsFirst handsSecond

/-- A snapshot planned from good books is safe. -/
theorem planned_safe (baselined : Baselined books) (few : snapshotsBuilt books.trace < 2 ^ 32)
    {clientId : ClientId} {account : Account} (has : books.accounts clientId = some account)
    {planned : SnapshotDTO} {baseline : Option SnapshotDTO}
    (plan : Planned (books.held clientId) account.acked planned baseline) :
    SafeSnapshot books.trace clientId planned baseline := by
  cases plan with
  | full kind zero => exact SafeSnapshot.full kind zero
  | delta sent kind names nonzero isHeld isAcked =>
      obtain ⟨named, highest⟩ := baselined.acked clientId account has
      obtain ⟨itsBaseline, wasSent⟩ := baselined.held clientId sent isHeld
      have isBaseline : sent.snapshotId = planned.baselineId := isAcked.trans names.symm
      refine SafeSnapshot.delta sent kind (by rw [names]; exact nonzero) isBaseline ?_ ?_ ?_
      · rw [names]
        exact ⟨named nonzero, highest⟩
      · refine ⟨⟨itsBaseline, wasSent⟩, ?_⟩
        intro other snapshot otherBaseline accepted member sameId
        have same := handed_once baselined.ordered baselined.numbers few member wasSent
          (congrArg some sameId) rfl
        cases same
        exact ⟨rfl, rfl⟩
      · rw [plan_matched, isBaseline]
        simp [names, nonzero]

/-! One lemma for each move that is about snapshots. -/

theorem enrolled_baselined (baselined : Baselined books) (clientId : ClientId)
    (new : books.accounts clientId = none) : Baselined (books.setAccount clientId {}) := by
  obtain ⟨numbers, orderedThen, ordered, held, acked, enrolled, safe⟩ := baselined
  refine ⟨numbers, orderedThen, ordered, held, ?_, ?_, safe⟩
  · intro other account has
    rw [Books.set_account_get] at has
    split at has
    · next same =>
        cases has
        subst same
        -- A client that is new has acknowledged nothing.
        refine ⟨fun nonzero => absurd rfl nonzero, ?_⟩
        intro snapshotId member
        have known := enrolled _ snapshotId member
        rw [new] at known
        cases known
    · exact acked other account has
  · intro other snapshotId member
    rw [Books.set_account_get]
    split
    · rfl
    · exact enrolled other snapshotId member

theorem snapshot_numbered_baselined (baselined : Baselined books) :
    Baselined ({ books with nextSnapshotId := books.nextSnapshotId + 1 }.record
      (.snapshotNumbered books.nextSnapshotId)) := by
  obtain ⟨⟨count, numbers, counter⟩, orderedThen, ordered, held, acked, enrolled, safe⟩ := baselined
  have isNumbers : (books.trace ++ [Happening.snapshotNumbered books.nextSnapshotId]).filterMap
      numberedSnapshot = books.trace.filterMap numberedSnapshot ++ [books.nextSnapshotId] := by
    rw [List.filterMap_append]
    rfl
  refine ⟨⟨count + 1, ?_, ?_⟩, ?_, ?_, ?_, ?_, ?_, ?_⟩
  · refine isNumbers.trans ?_
    rw [numbers, counter]
    unfold idsUpTo
    rw [List.range_succ, List.map_append]
    rfl
  · dsimp only [Books.record]
    rw [counter, ← UInt32.ofNat_one, ← UInt32.ofNat_add]
  · exact (every_event_concat _ _ _).mpr ⟨orderedThen, fun _ => ordered⟩
  · unfold Ordered at ordered ⊢
    dsimp only [Books.record]
    rw [isNumbers, List.filterMap_append]
    exact ordered.append (List.nil_sublist _)
  · intro clientId snapshot member
    obtain ⟨baseline, sent⟩ := held clientId snapshot member
    exact ⟨baseline, List.mem_append_left _ sent⟩
  · exact fun clientId account has => (acked clientId account has).concat (by simp)
  · exact fun clientId snapshotId member =>
      enrolled clientId snapshotId (mem_concat_of_ne member (by simp))
  · intro few
    refine (every_event_concat _ _ _).mpr ⟨safe ?_, safe_handing_of_none rfl⟩
    unfold snapshotsBuilt at few ⊢
    dsimp only [Books.record] at few
    rw [isNumbers, List.length_append] at few
    omega

theorem snapshot_sent_baselined (baselined : Baselined books) {clientId : ClientId}
    {planned : SnapshotDTO} {baseline : Option SnapshotDTO} (accepted : Bool) {account : Account}
    {earlier : Trace} (has : books.accounts clientId = some account)
    (numbered : books.trace = earlier ++ [.snapshotNumbered planned.snapshotId])
    (plan : Planned (books.held clientId) account.acked planned baseline) :
    Baselined (books.record (.handed clientId (.snapshot planned baseline) accepted)) := by
  have safeNow := fun few => planned_safe baselined few has plan
  obtain ⟨numbers, orderedThen, ordered, held, acked, enrolled, safe⟩ := baselined
  have sameNumbers : (books.trace ++
      [Happening.handed clientId (.snapshot planned baseline) accepted]).filterMap
      numberedSnapshot = books.trace.filterMap numberedSnapshot := numbers_concat rfl
  refine ⟨?_, ordered_then_concat rfl orderedThen, ?_, ?_, ?_, ?_, ?_⟩
  · dsimp only [Books.record]
    rw [sameNumbers]
    exact numbers
  · -- The id was the last one numbered, and nothing was handed over since.
    have orderedEarlier := orderedThen earlier _ [] numbered rfl
    unfold Ordered at orderedEarlier ⊢
    dsimp only [Books.record]
    rw [sameNumbers, numbered, List.filterMap_append, List.filterMap_append,
      List.filterMap_append]
    refine List.Sublist.append ?_ (List.Sublist.refl _)
    exact (List.append_nil (earlier.filterMap handedSnapshot)).symm ▸ orderedEarlier
  · intro other snapshot member
    obtain ⟨itsBaseline, sent⟩ := held other snapshot member
    exact ⟨itsBaseline, List.mem_append_left _ sent⟩
  · exact fun other found isAccount => (acked other found isAccount).concat (by simp)
  · exact fun other snapshotId member =>
      enrolled other snapshotId (mem_concat_of_ne member (by simp))
  · intro few
    have fewBefore := few_built_before few rfl
    refine (every_event_concat _ _ _).mpr ⟨safe fewBefore, ?_⟩
    intro other snapshot itsBaseline answer same
    cases same
    exact safeNow fewBefore

theorem baseline_held_baselined (baselined : Baselined books) (clientId : ClientId)
    {planned : SnapshotDTO} {baseline : Option SnapshotDTO} {now : List SnapshotDTO}
    (sent : Happening.handed clientId (.snapshot planned baseline) true ∈ books.trace)
    (kept : ∀ snapshot ∈ now, snapshot ∈ books.held clientId ∨ snapshot = planned) :
    Baselined { books with held := Function.update books.held clientId now } := by
  obtain ⟨numbers, orderedThen, ordered, held, acked, enrolled, safe⟩ := baselined
  refine ⟨numbers, orderedThen, ordered, ?_, acked, enrolled, safe⟩
  intro other snapshot member
  dsimp only at member
  rw [Function.update_apply] at member
  split at member
  · next same =>
      subst same
      rcases kept snapshot member with old | rfl
      · exact held other snapshot old
      · exact ⟨baseline, sent⟩
  · exact held other snapshot member

theorem snapshot_acked_baselined (baselined : Baselined books) {clientId : ClientId}
    {snapshotId : SnapshotId} {account : Account} (has : books.accounts clientId = some account)
    (newer : account.acked < snapshotId) :
    Baselined ((books.setAccount clientId { account with acked := snapshotId }).record
      (.snapshotAcked clientId snapshotId)) := by
  obtain ⟨numbers, orderedThen, ordered, held, acked, enrolled, safe⟩ := baselined
  -- What was acknowledged by another client was so before.
  have ofOther {other : ClientId} (different : other ≠ clientId) (otherId : SnapshotId) :
      Happening.snapshotAcked clientId snapshotId ≠ .snapshotAcked other otherId := by
    intro same
    cases same
    exact different rfl
  refine ⟨?_, ordered_then_concat rfl orderedThen, ordered_concat rfl rfl ordered, ?_, ?_, ?_, ?_⟩
  · dsimp only [Books.record, Books.set_account_trace]
    rw [numbers_concat rfl]
    exact numbers
  · intro other snapshot member
    obtain ⟨itsBaseline, sent⟩ := held other snapshot member
    exact ⟨itsBaseline, List.mem_append_left _ sent⟩
  · intro other found isAccount
    rw [Books.record_accounts, Books.set_account_get] at isAccount
    split at isAccount
    · next same =>
        cases isAccount
        subst same
        refine ⟨fun _ => List.mem_append_right _ (List.mem_singleton.mpr rfl), ?_⟩
        intro otherId member
        rcases List.mem_append.mp member with old | new
        · exact UInt32.le_trans ((acked other account has).highest otherId old)
            (UInt32.le_of_lt newer)
        · cases List.mem_singleton.mp new
          exact UInt32.le_refl _
    · next different => exact (acked other found isAccount).concat (ofOther different)
  · intro other otherId member
    rw [Books.record_accounts, Books.set_account_get]
    split
    · rfl
    · next different => exact enrolled other otherId (mem_concat_of_ne member
        (ofOther different otherId))
  · intro few
    have fewBefore := few_built_before few rfl
    exact (every_event_concat _ _ _).mpr ⟨safe fewBefore, safe_handing_of_none rfl⟩

theorem move_baselined (maxSendCount : UInt32) (after : Books)
    (move : Move maxSendCount books after) (baselined : Baselined books) : Baselined after := by
  cases move with
  | eventNumbered =>
      exact baselined_record baselined _ ⟨rfl, rfl, by intros; simp⟩ rfl rfl rfl fun _ => rfl
  | timeSynced clientId response accepted =>
      exact baselined_record baselined _ ⟨rfl, rfl, by intros; simp⟩ rfl rfl rfl fun _ => rfl
  | eventSent clientId event nowMs accepted account has =>
      exact baselined_record baselined _ ⟨rfl, rfl, by intros; simp⟩ rfl rfl rfl
        (set_account_acked clientId has (answered_acked account event nowMs accepted))
  | eventResent clientId event nowMs accepted account entry has =>
      exact baselined_record baselined _ ⟨rfl, rfl, by intros; simp⟩ rfl rfl rfl
        (set_account_acked clientId has (answered_acked account event nowMs accepted))
  | eventAcked clientId eventId account entry has =>
      exact baselined_record baselined _ ⟨rfl, rfl, by intros; simp⟩ rfl rfl rfl
        (set_account_acked clientId has rfl)
  | enrolled clientId new => exact enrolled_baselined baselined clientId new
  | snapshotNumbered => exact snapshot_numbered_baselined baselined
  | snapshotSent clientId planned baseline accepted account earlier has numbered plan =>
      exact snapshot_sent_baselined baselined accepted has numbered plan
  | baselineHeld clientId planned baseline now sent kept =>
      exact baseline_held_baselined baselined clientId sent kept
  | snapshotAcked clientId snapshotId account has isHeld newer =>
      exact snapshot_acked_baselined baselined has newer

end Moving

/-- In every run of a host that builds fewer than `2 ^ 32` snapshots, every
snapshot handed to the transport is safe, whatever the transport answers. -/
theorem delta_baselines_safe (transport : Transport) (config : ServerNetworkHostConfig)
    (calls : List HostCall)
    (few : snapshotsBuilt (hostRun transport config calls).trace < 2 ^ 32)
    (earlier later : Trace) (clientId : ClientId) (planned : SnapshotDTO)
    (baseline : Option SnapshotDTO) (accepted : Bool)
    (handed : (hostRun transport config calls).trace =
      earlier ++ .handed clientId (.snapshot planned baseline) accepted :: later) :
    SafeSnapshot earlier clientId planned baseline := by
  have moves := (host_run_progress transport config calls).moves
  rw [new_books] at moves
  have baselined := moves_invariant Baselined
    (fun _ after move baselined => move_baselined _ after move baselined) moves baselined_start
  exact baselined.safe few earlier _ later handed clientId planned baseline accepted rfl

/-- Client 1 joins, is sent snapshot 1, acknowledges it and is sent snapshot 2. -/
def acknowledgedCalls : List HostCall :=
  [.pumpClientMessages
      [{ peerId := 1, channel := .loginSpawn, messageClass := .loginRequest,
         payload := Serialization.serializeLoginCommand { header := { clientId := 1 } } }],
   .tickAndSendSnapshots .stored .stored 16,
   .pumpClientMessages
      [{ peerId := 1, channel := .snapshots, messageClass := .snapshotAck, sequence := 1,
         payload := Serialization.serializeSnapshotAck { clientId := 1, snapshotId := 1 } }],
   .tickAndSendSnapshots .stored .stored 32]

def acknowledgedHost : ServerNetworkHost := hostRun (fun _ _ => true) {} acknowledgedCalls

theorem delta_baselines_safe_acknowledged :
    SafeSnapshot (acknowledgedHost.trace.take 8) 1
      ((acknowledgedHost.baselineCache.find 1 2).getD {})
      (acknowledgedHost.baselineCache.find 1 1) ∧
    (acknowledgedHost.baselineCache.find 1 1).isSome :=
  ⟨delta_baselines_safe (fun _ _ => true) {} acknowledgedCalls (by decide +kernel)
      (acknowledgedHost.trace.take 8) [] 1 _ _ true (by decide +kernel),
    by decide +kernel⟩

end Brawololo.DeltaBaselines
