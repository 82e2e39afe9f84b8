import Brawololo.HostTurns
import Brawololo.DeltaBaselines

/-!
Acknowledging the last snapshot. The host compares the id of an acknowledged
snapshot with the last id the client acknowledged, and the ids come from one
counter of 32 bits: an acknowledgement works, and turns the next snapshot into
a delta against it, exactly while its id is the larger one.
-/

namespace Brawololo.AckProgress

open GameTypes EntityStore NetworkProtocol Serialization Simulation Replication Server
open ServerNetworkHost HostTurns DeliveryBooks HostBookkeeping DeltaBaselines Histories

/-! The statement. -/

/-- The snapshot is the last one the client was sent, it is in the client's
cache, and it was not acknowledged since. -/
structure AckDue (host : ServerNetworkHost) (clientId : ClientId) (planned : SnapshotDTO) :
    Prop where
  last : ∃ earlier baseline later,
    host.trace = earlier ++ .handed clientId (.snapshot planned baseline) true :: later ∧
    later.filterMap (acceptedFor clientId) = [] ∧
    Happening.snapshotAcked clientId planned.snapshotId ∉ later
  cached : planned ∈ host.baselineCache.baselines clientId

/-- The payload is the client's acknowledgement of the snapshot. -/
def Acknowledges (envelope : NetworkEnvelope) (clientId : ClientId) (snapshotId : SnapshotId) :
    Prop :=
  ∃ ack, deserializeSnapshotAck envelope.payload = some ack ∧ ack.clientId = clientId ∧
    ack.snapshotId = snapshotId

/-- The first snapshot in this stretch that the client was sent. -/
def firstSent (clientId : ClientId) (trace : Trace) : Option SnapshotDTO :=
  (trace.filterMap (acceptedFor clientId)).head?

/-- A call that brings no message. -/
def NoMessage : HostCall → Prop
  | .pumpClientMessages _ => False
  | _ => True

def IsDeltaOf (snapshotId : SnapshotId) (snapshot : SnapshotDTO) : Prop :=
  snapshot.deliveryKind = .deltaEligible ∧ snapshot.baselineId = snapshotId

/-- The acknowledgement is accepted, and the next snapshot that is sent to the
client, before any message comes, is a delta against the acknowledged one. -/
structure AckWorks (transport : Transport) (host : ServerNetworkHost) (clientId : ClientId)
    (snapshotId : SnapshotId) (envelope : NetworkEnvelope) : Prop where
  accepted : (host.handleSnapshotAckEnvelope envelope).stats.snapshotAcksReceived =
    host.stats.snapshotAcksReceived + 1
  nextDelta : ∀ calls : List HostCall, (∀ call ∈ calls, NoMessage call) → ∀ next,
    firstSent clientId
        ((Runs.run (hostStep transport) (host.handleSnapshotAckEnvelope envelope) calls).trace.drop
          (host.handleSnapshotAckEnvelope envelope).trace.length) = some next →
      IsDeltaOf snapshotId next

/-! Accepting an acknowledgement. -/

/-- A cached snapshot is acknowledged if and only if its id is newer. -/
theorem ack_of_some (host : ServerNetworkHost) (envelope : NetworkEnvelope) {ack : SnapshotAckDTO}
    {state : ServerClientReplicationState}
    (isAck : deserializeSnapshotAck envelope.payload = some ack)
    (has : host.clientStateById[ack.clientId]? = some state)
    (found : (host.baselineCache.find ack.clientId ack.snapshotId).isNone = false) :
    host.handleSnapshotAckEnvelope envelope =
      if ack.snapshotId ≤ state.ackedSnapshot then host.rejectSnapshotAck
      else ((host.updateClient ack.clientId fun state =>
          (state.acknowledgeSnapshot ack.snapshotId).1).record
        (.snapshotAcked ack.clientId ack.snapshotId)).countStats fun stats =>
          { stats with snapshotAcksReceived := stats.snapshotAcksReceived + 1 } := by
  unfold handleSnapshotAckEnvelope
  rw [isAck]
  dsimp only
  rw [has]
  dsimp only
  rw [found]
  unfold ServerClientReplicationState.acknowledgeSnapshot
  by_cases stale : ack.snapshotId ≤ state.ackedSnapshot
  · simp [stale]
  · simp [stale]

theorem find_cached {cache : SnapshotBaselineCache} {clientId : ClientId} {held : SnapshotDTO}
    (member : held ∈ cache.baselines clientId) :
    (cache.find clientId held.snapshotId).isNone = false := by
  unfold SnapshotBaselineCache.baselines at member
  unfold SnapshotBaselineCache.find
  cases stored : cache.baselinesByClient[clientId]? with
  | none =>
      rw [stored] at member
      cases member
  | some items =>
      rw [stored] at member
      rw [Option.bind_some]
      apply Bool.eq_false_iff.mpr
      intro absent
      have missed := List.find?_eq_none.mp (Option.isNone_iff_eq_none.mp absent) held member
      simp at missed

/-! Until the next snapshot. -/

/-- The client's last acknowledged snapshot is this one, and it is in the cache. -/
structure Ready (host : ServerNetworkHost) (clientId : ClientId) (snapshotId : SnapshotId) :
    Prop where
  nonzero : snapshotId ≠ 0
  requested : host.requestedBaselineId clientId = snapshotId
  found : (host.baselineCache.find clientId snapshotId).isNone = false

theorem ready_planned (order : LoopOrder) {host : ServerNetworkHost} {clientId : ClientId}
    {snapshotId : SnapshotId} (ready : Ready host clientId snapshotId) :
    IsDeltaOf snapshotId (host.plannedSnapshot order clientId).snapshot := by
  obtain ⟨baseline, isFound⟩ := Option.ne_none_iff_exists'.mp
    (Option.isNone_eq_false_iff.mp ready.found |> Option.isSome_iff_ne_none.mp)
  have decided : host.baselineCache.decide clientId (host.requestedBaselineId clientId) =
      { requestedBaselineId := snapshotId, effectiveBaselineId := snapshotId,
        deliveryKind := .deltaEligible, baselineAvailable := true } := by
    rw [ready.requested]
    unfold SnapshotBaselineCache.decide
    rw [if_neg ready.nonzero, isFound]
  constructor
  · exact congrArg SnapshotBaselineDecision.deliveryKind decided
  · exact congrArg SnapshotBaselineDecision.effectiveBaselineId decided

/-- The host that has accepted an acknowledgement. -/
theorem accepted_ready (host : ServerNetworkHost) {clientId : ClientId} {snapshotId : SnapshotId}
    {state : ServerClientReplicationState} (has : host.clientStateById[clientId]? = some state)
    (newer : state.ackedSnapshot < snapshotId)
    (found : (host.baselineCache.find clientId snapshotId).isNone = false) :
    Ready (((host.updateClient clientId fun state =>
        (state.acknowledgeSnapshot snapshotId).1).record
      (.snapshotAcked clientId snapshotId)).countStats fun stats =>
        { stats with snapshotAcksReceived := stats.snapshotAcksReceived + 1 })
      clientId snapshotId := by
  constructor
  case nonzero =>
    rintro rfl
    exact absurd newer (UInt32.not_lt.mpr UInt32.zero_le)
  case requested =>
    unfold requestedBaselineId countStats record updateClient
    dsimp only
    rw [get_modify, if_pos rfl, has]
    unfold ServerClientReplicationState.acknowledgeSnapshot
    simp only [Option.map_some, Option.getD_some, if_neg (UInt32.not_le.mpr newer)]
  case found => exact found

/-- What a stretch of the run does for the client: it sends nothing and leaves
the client ready, or the first it sends is a delta. -/
def Serves (clientId : ClientId) (snapshotId : SnapshotId) (before after : ServerNetworkHost) :
    Prop :=
  ∃ added, after.trace = before.trace ++ added ∧
    (Ready before clientId snapshotId →
      added.filterMap (acceptedFor clientId) = [] ∧ Ready after clientId snapshotId ∨
      ∃ next, firstSent clientId added = some next ∧ IsDeltaOf snapshotId next)

theorem serves_refl (clientId : ClientId) (snapshotId : SnapshotId) (host : ServerNetworkHost) :
    Serves clientId snapshotId host host :=
  ⟨[], (List.append_nil _).symm, fun ready => Or.inl ⟨rfl, ready⟩⟩

theorem serves_trans {clientId : ClientId} {snapshotId : SnapshotId}
    {first second third : ServerNetworkHost} (left : Serves clientId snapshotId first second)
    (right : Serves clientId snapshotId second third) : Serves clientId snapshotId first third := by
  obtain ⟨one, recordedOne, servesOne⟩ := left
  obtain ⟨two, recordedTwo, servesTwo⟩ := right
  refine ⟨one ++ two, by rw [recordedTwo, recordedOne, List.append_assoc], ?_⟩
  intro ready
  unfold firstSent
  rw [List.filterMap_append]
  rcases servesOne ready with ⟨noneSent, stillReady⟩ | ⟨next, isNext, isDelta⟩
  · rw [noneSent, List.nil_append]
    exact servesTwo stillReady
  · refine Or.inr ⟨next, ?_, isDelta⟩
    unfold firstSent at isNext
    rw [List.head?_append, isNext]
    rfl

/-- What sends the client nothing and keeps its acknowledgement and its cache. -/
theorem serves_same {clientId : ClientId} {snapshotId : SnapshotId}
    {before after : ServerNetworkHost} {added : Trace}
    (recorded : after.trace = before.trace ++ added)
    (noneSent : added.filterMap (acceptedFor clientId) = [])
    (requested : after.requestedBaselineId clientId = before.requestedBaselineId clientId)
    (found : after.baselineCache.find clientId snapshotId =
      before.baselineCache.find clientId snapshotId) : Serves clientId snapshotId before after :=
  ⟨added, recorded, fun ready => Or.inl ⟨noneSent, ready.nonzero, requested.trans ready.requested,
    (congrArg Option.isNone found).trans ready.found⟩⟩

theorem requested_of_core (host : ServerNetworkHost) (clientId : ClientId) :
    host.requestedBaselineId clientId =
      ((coreFor host clientId).map fun state => state.ackedSnapshot).getD 0 := by
  unfold requestedBaselineId coreFor
  rw [Option.map_map]
  rfl

theorem serves_events {clientId : ClientId} {snapshotId : SnapshotId}
    {before after : ServerNetworkHost} {sent : Trace} (only : EventsOnly sent before after)
    (quiet : NoSnapshot sent) : Serves clientId snapshotId before after := by
  apply serves_same only.trace (quiet_accepted quiet clientId)
  · rw [requested_of_core, requested_of_core, only.states]
  · rw [only.baselines]

theorem requested_update (host : ServerNetworkHost) (clientId other : ClientId)
    (change : ServerClientReplicationState → ServerClientReplicationState)
    (same : ∀ state, (change state).ackedSnapshot = state.ackedSnapshot) :
    (host.updateClient clientId change).requestedBaselineId other =
      host.requestedBaselineId other := by
  unfold requestedBaselineId updateClient
  dsimp only
  rw [part_modify (fun state : ServerClientReplicationState => state.ackedSnapshot) _ _ _ _ same]

theorem requested_marked (host : ServerNetworkHost) (clientId other : ClientId)
    (nowMs : TimestampMs) :
    (host.markSnapshotSent clientId nowMs).requestedBaselineId other =
      host.requestedBaselineId other :=
  requested_update host clientId other _ fun _ => rfl

theorem find_store (cache : SnapshotBaselineCache) (clientId other : ClientId)
    (snapshot : SnapshotDTO) (snapshotId : SnapshotId) (different : clientId ≠ other) :
    (cache.store clientId snapshot).find other snapshotId = cache.find other snapshotId := by
  unfold SnapshotBaselineCache.store SnapshotBaselineCache.find
  dsimp only
  rw [get_insert, if_neg different]

/-- Following interest sends no snapshot and keeps acknowledgements and caches. -/
theorem follows_keeps {hostOrder : HostOrder} {clientId : ClientId} {planned : SnapshotDTO}
    {before after : ServerNetworkHost} (follows : Follows hostOrder clientId planned before after) :
    ∃ sent, NoSnapshot sent ∧ after.trace = before.trace ++ sent ∧
      (∀ other, after.requestedBaselineId other = before.requestedBaselineId other) ∧
      after.baselineCache = before.baselineCache := by
  cases follows with
  | unknown absent =>
      exact ⟨[], fun _ _ member => (by cases member), (List.append_nil _).symm, fun _ => rfl, rfl⟩
  | followed state tracker frame sent followed has updated only quiet told =>
      refine ⟨sent, quiet, only.trace, ?_, only.baselines⟩
      intro other
      have same : after.requestedBaselineId other =
          (before.updateClient clientId fun state =>
            { state with interest := tracker }).requestedBaselineId other := by
        rw [requested_of_core, requested_of_core]
        exact congrArg (fun core => (core.map fun state => state.ackedSnapshot).getD 0)
          (only.states other)
      exact same.trans (requested_update before clientId other _ fun _ => rfl)

section Serving

variable (transport : Transport) (clientId : ClientId) (snapshotId : SnapshotId)

/-- The turn of another client touches neither the acknowledgement nor the
cache; the turn of the client plans a delta. -/
theorem turn_serves (order : LoopOrder) (hostOrder : HostOrder) (nowMs : TimestampMs)
    (host : ServerNetworkHost) (other : ClientId) :
    Serves clientId snapshotId host (host.snapshotTurn transport order hostOrder nowMs other) := by
  have turned := snapshot_turn transport order hostOrder nowMs host other
  generalize host.snapshotTurn transport order hostOrder nowMs other = after at turned ⊢
  cases turned with
  | skipped notDue => exact serves_same (List.append_nil _).symm rfl rfl rfl
  | refused due answer =>
      refine serves_same (handed_over_trace _ _ _ _ _) ?_ rfl rfl
      exact handed_refused host other clientId _ _
  | sent due answer missed followed follows =>
      obtain ⟨sent, quiet, followedTrace, requested, cache⟩ := follows_keeps follows
      have recorded := followedTrace.trans ((congrArg (· ++ sent)
        (handed_over_trace host other _ _ true)).trans (List.append_assoc _ _ _))
      have accepted := handed_accepted host other clientId
        (host.plannedSnapshot order other).snapshot
        (host.deltaBaseline other (host.plannedSnapshot order other).snapshot)
      by_cases same : other = clientId
      · subst same
        rw [if_pos rfl] at accepted
        refine ⟨_, recorded, fun ready => Or.inr ⟨_, ?_, ready_planned order ready⟩⟩
        unfold firstSent
        rw [List.filterMap_append, accepted]
        rfl
      · rw [if_neg same] at accepted
        refine serves_same recorded ?_ ?_ ?_
        · rw [List.filterMap_append, accepted, quiet_accepted quiet, List.nil_append]
        · exact (requested_marked _ other clientId nowMs).trans (requested clientId)
        · have stored := find_store followed.baselineCache other clientId
            (host.plannedSnapshot order other).snapshot snapshotId same
          exact stored.trans (congrArg (fun cache => cache.find clientId snapshotId) cache)

theorem tick_serves (order : LoopOrder) (hostOrder : HostOrder) (nowMs : TimestampMs)
    (host : ServerNetworkHost) :
    Serves clientId snapshotId host
      (host.tickAndSendSnapshots transport order hostOrder nowMs) := by
  have ticked : Serves clientId snapshotId host
      { host with runtime := (host.runtime.tick order).drainEvents.1 } :=
    serves_same (List.append_nil _).symm rfl rfl rfl
  have turned := Runs.run_relates (snapshotTurn transport order hostOrder nowMs)
    (Serves clientId snapshotId) (serves_refl clientId snapshotId) serves_trans
    (fun host other => turn_serves transport clientId snapshotId order hostOrder nowMs host other)
    { host with runtime := (host.runtime.tick order).drainEvents.1 } host.clients
  obtain ⟨sent, broadcast, quiet⟩ := broadcast_no_snapshot transport
    (Runs.run (snapshotTurn transport order hostOrder nowMs)
      { host with runtime := (host.runtime.tick order).drainEvents.1 } host.clients)
    (host.runtime.tick order).drainEvents.2 nowMs
  obtain ⟨resent, resends, uninteresting⟩ := resend_only transport hostOrder _ nowMs
  have quietResent : NoSnapshot resent :=
    fun other happening member => (uninteresting happening member).2 other
  have served := serves_trans (serves_trans ticked turned)
    (serves_events (broadcast.trans resends) (no_snapshot_append quiet quietResent))
  obtain ⟨added, recorded, serves⟩ := served
  refine ⟨added, recorded, fun ready => (serves ready).imp_left ?_⟩
  rintro ⟨noneSent, stillReady⟩
  exact ⟨noneSent, stillReady.nonzero, stillReady.requested, stillReady.found⟩

theorem step_serves (host : ServerNetworkHost) (call : HostCall) (noMessage : NoMessage call) :
    Serves clientId snapshotId host (hostStep transport host call) := by
  cases call with
  | connectSimulationOnlyClient joining nowMs =>
      exact serves_same (List.append_nil _).symm rfl rfl rfl
  | pumpClientMessages polled => cases noMessage
  | tickAndSendSnapshots order hostOrder nowMs =>
      exact tick_serves transport clientId snapshotId order hostOrder nowMs host
  | drainEvents => exact serves_same (List.append_nil _).symm rfl rfl rfl
  | buildSnapshotFor =>
      have recorded : (hostStep transport host .buildSnapshotFor).trace =
          host.trace ++ [.snapshotNumbered host.runtime.nextSnapshotId] := rfl
      exact serves_same recorded rfl rfl rfl
  | changeRuntime runtime => exact serves_same (List.append_nil _).symm rfl rfl rfl

theorem run_serves (calls : List HostCall) (noMessage : ∀ call ∈ calls, NoMessage call)
    (host : ServerNetworkHost) :
    Serves clientId snapshotId host (Runs.run (hostStep transport) host calls) :=
  Runs.run_invariant_of_mem (hostStep transport) (Serves clientId snapshotId host) calls
    (fun call member between serves =>
      serves_trans serves (step_serves transport clientId snapshotId between call (noMessage call member)))
    host (serves_refl clientId snapshotId host)

end Serving

/-! Who is sent snapshots. -/

/-- Whoever was handed a snapshot has an account. -/
def Enrolled (books : Books) : Prop :=
  ∀ clientId planned baseline accepted,
    Happening.handed clientId (.snapshot planned baseline) accepted ∈ books.trace →
      (books.accounts clientId).isSome

/-- A move never closes an account. -/
theorem move_keeps_accounts {maxSendCount : UInt32} {before after : Books}
    (move : Move maxSendCount before after) (clientId : ClientId)
    (has : (before.accounts clientId).isSome) : (after.accounts clientId).isSome := by
  have kept (other : ClientId) (account : Account) :
      ((before.setAccount other account).accounts clientId).isSome := by
    rw [Books.set_account_get]
    split
    · rfl
    · exact has
  cases move with
  | enrolled other new => exact kept other {}
  | snapshotNumbered => exact has
  | snapshotSent => exact has
  | baselineHeld => exact has
  | snapshotAcked other snapshotId account => exact kept other _
  | eventNumbered => exact has
  | eventSent other event nowMs accepted account => exact kept other _
  | eventResent other event nowMs accepted account entry => exact kept other _
  | timeSynced => exact has
  | eventAcked other eventId account entry => exact kept other _

theorem move_enrolled (maxSendCount : UInt32) (before after : Books)
    (move : Move maxSendCount before after) (enrolled : Enrolled before) : Enrolled after := by
  intro clientId planned baseline accepted member
  have old (isOld : Happening.handed clientId (.snapshot planned baseline) accepted ∈
      before.trace) : (after.accounts clientId).isSome :=
    move_keeps_accounts move clientId (enrolled clientId planned baseline accepted isOld)
  have added {happening : Happening} (different : happening ≠
      .handed clientId (.snapshot planned baseline) accepted)
      (isIn : Happening.handed clientId (.snapshot planned baseline) accepted ∈
        before.trace ++ [happening]) : (after.accounts clientId).isSome :=
    old (mem_concat_of_ne isIn different)
  cases move with
  | enrolled => exact old member
  | snapshotNumbered => exact added (by simp) member
  | snapshotSent other sent sentBaseline answer account earlier has =>
      rcases List.mem_append.mp member with isOld | isNew
      · exact old isOld
      · cases List.mem_singleton.mp isNew
        exact Option.isSome_iff_exists.mpr ⟨account, has⟩
  | baselineHeld => exact old member
  | snapshotAcked => exact added (by simp) member
  | eventNumbered => exact added (by simp) member
  | eventSent => exact added (by simp) member
  | eventResent => exact added (by simp) member
  | timeSynced => exact added (by simp) member
  | eventAcked => exact added (by simp) member

theorem run_enrolled (transport : Transport) (config : ServerNetworkHostConfig)
    (calls : List HostCall) : Enrolled (booksOf (hostRun transport config calls)) := by
  have moves := (host_run_progress transport config calls).moves
  rw [new_books] at moves
  exact moves_invariant Enrolled (fun _ after move => move_enrolled _ _ after move) moves
    fun _ _ _ _ member => (by cases member)

theorem ack_works_iff (transport : Transport) (host : ServerNetworkHost) {clientId : ClientId}
    {planned : SnapshotDTO} {envelope : NetworkEnvelope}
    (cached : planned ∈ host.baselineCache.baselines clientId)
    (isSome : (host.clientStateById[clientId]?).isSome)
    (acknowledges : Acknowledges envelope clientId planned.snapshotId) :
    AckWorks transport host clientId planned.snapshotId envelope ↔
      host.requestedBaselineId clientId < planned.snapshotId := by
  obtain ⟨ack, isAck, rfl, isId⟩ := acknowledges
  obtain ⟨state, has⟩ := Option.isSome_iff_exists.mp isSome
  have requested := requested_of_state has
  have found := find_cached cached
  rw [← isId] at found ⊢
  have handled := ack_of_some host envelope isAck has found
  rw [requested]
  -- An acknowledgement at most as new as the last is refused, any other is served from then on.
  by_cases stale : ack.snapshotId ≤ state.ackedSnapshot
  · rw [if_pos stale] at handled
    refine iff_of_false ?_ (UInt32.not_lt.mpr stale)
    intro works
    have counted := works.accepted
    rw [handled] at counted
    exact absurd counted (Nat.ne_of_lt (Nat.lt_succ_self _))
  · rw [if_neg stale] at handled
    have newer := UInt32.not_le.mp stale
    have ready : Ready (host.handleSnapshotAckEnvelope envelope) ack.clientId ack.snapshotId := by
      rw [handled]
      exact accepted_ready host has newer found
    refine iff_of_true ⟨?_, ?_⟩ newer
    · rw [handled]
      rfl
    · intro later noMessage next isNext
      obtain ⟨added, recorded, serves⟩ := run_serves transport ack.clientId ack.snapshotId later
        noMessage (host.handleSnapshotAckEnvelope envelope)
      rw [recorded, List.drop_left] at isNext
      rcases serves ready with ⟨noneSent, _⟩ | ⟨first, isFirst, isDelta⟩
      · unfold firstSent at isNext
        rw [noneSent] at isNext
        cases isNext
      · rw [isFirst] at isNext
        cases isNext
        exact isDelta

/-- In every run of the host, of any length, the acknowledgement of the last
snapshot that a client was sent works if and only if the id of the snapshot is
greater than the last one the client acknowledged. -/
theorem last_ack_works_iff (transport : Transport) (config : ServerNetworkHostConfig)
    (calls : List HostCall) (clientId : ClientId) (planned : SnapshotDTO)
    (envelope : NetworkEnvelope)
    (due : AckDue (hostRun transport config calls) clientId planned)
    (acknowledges : Acknowledges envelope clientId planned.snapshotId) :
    AckWorks transport (hostRun transport config calls) clientId planned.snapshotId envelope ↔
      (hostRun transport config calls).requestedBaselineId clientId < planned.snapshotId := by
  obtain ⟨earlier, baseline, later, split, _⟩ := due.last
  have enrolled := run_enrolled transport config calls clientId planned baseline true (by
    change _ ∈ (hostRun transport config calls).trace
    rw [split]
    exact List.mem_append_right _ List.mem_cons_self)
  exact ack_works_iff transport _ due.cached ((Option.isSome_map ..).symm.trans enrolled)
    acknowledges

/-! Before the snapshot ids wrap. -/

/-- An acknowledgement is of a snapshot that the client was sent before. -/
def AckedAfterSent (earlier : Trace) (happening : Happening) : Prop :=
  ∀ clientId snapshotId, happening = .snapshotAcked clientId snapshotId →
    ∃ sent baseline, sent.snapshotId = snapshotId ∧
      Happening.handed clientId (.snapshot sent baseline) true ∈ earlier

theorem move_acked_after_sent (maxSendCount : UInt32) (before after : Books)
    (move : Move maxSendCount before after)
    (holds : Baselined before ∧ EveryEvent AckedAfterSent before.trace) :
    Baselined after ∧ EveryEvent AckedAfterSent after.trace := by
  refine ⟨move_baselined maxSendCount after move holds.1, ?_⟩
  have added {happening : Happening}
      (about : ∀ clientId snapshotId, happening ≠ .snapshotAcked clientId snapshotId) :
      EveryEvent AckedAfterSent (before.trace ++ [happening]) :=
    (every_event_concat _ _ _).mpr ⟨holds.2,
      fun clientId snapshotId same => absurd same (about clientId snapshotId)⟩
  cases move with
  | enrolled => exact holds.2
  | snapshotNumbered => exact added (by simp)
  | snapshotSent => exact added (by simp)
  | baselineHeld => exact holds.2
  | snapshotAcked clientId snapshotId account has isHeld newer =>
      refine (every_event_concat _ _ _).mpr ⟨holds.2, ?_⟩
      intro other otherId same
      cases same
      obtain ⟨snapshot, held, isId⟩ := isHeld
      obtain ⟨baseline, sent⟩ := holds.1.held clientId snapshot held
      exact ⟨snapshot, baseline, isId, sent⟩
  | eventNumbered => exact added (by simp)
  | eventSent => exact added (by simp)
  | eventResent => exact added (by simp)
  | timeSynced => exact added (by simp)
  | eventAcked => exact added (by simp)

theorem ids_increasing {count : Nat} (few : count < 2 ^ 32) :
    (idsUpTo count).Pairwise (· < ·) := by
  unfold idsUpTo
  rw [List.pairwise_map]
  refine List.pairwise_lt_range.imp_of_mem ?_
  intro first second isFirst isSecond below
  have secondBelow := List.mem_range.mp isSecond
  rw [UInt32.lt_iff_toNat_lt, UInt32.toNat_ofNat', UInt32.toNat_ofNat']
  omega

/-- Ids before the wrap are not 0. -/
theorem listed_positive {count : Nat} (few : count < 2 ^ 32) {snapshotId : SnapshotId}
    (listed : snapshotId ∈ idsUpTo count) : 0 < snapshotId := by
  obtain ⟨index, isIndex, isId⟩ := List.mem_map.mp listed
  have below := List.mem_range.mp isIndex
  rw [← isId, UInt32.lt_iff_toNat_lt, UInt32.toNat_ofNat', UInt32.toNat_zero]
  omega

/-- The baseline that is requested for a client was acknowledged by it. -/
theorem requested_acked {host : ServerNetworkHost} (baselined : Baselined (booksOf host))
    {clientId : ClientId} (nonzero : host.requestedBaselineId clientId ≠ 0) :
    Happening.snapshotAcked clientId (host.requestedBaselineId clientId) ∈ host.trace := by
  cases stored : host.clientStateById[clientId]? with
  | none =>
      unfold requestedBaselineId at nonzero
      rw [stored] at nonzero
      exact absurd rfl nonzero
  | some state =>
      rw [requested_of_state stored] at nonzero ⊢
      exact (baselined.acked clientId (accountOf state) (has_account stored)).named nonzero

/-- While the snapshot ids have not wrapped, the acknowledgement of the last
snapshot works. -/
theorem last_ack_newer_unwrapped (transport : Transport) (config : ServerNetworkHostConfig)
    (calls : List HostCall)
    (few : snapshotsBuilt (hostRun transport config calls).trace < 2 ^ 32)
    {clientId : ClientId} {planned : SnapshotDTO}
    (due : AckDue (hostRun transport config calls) clientId planned) :
    (hostRun transport config calls).requestedBaselineId clientId < planned.snapshotId := by
  have moves := (host_run_progress transport config calls).moves
  rw [new_books] at moves
  obtain ⟨baselined, acks⟩ := moves_invariant
    (fun books => Baselined books ∧ EveryEvent AckedAfterSent books.trace)
    (fun _ after move => move_acked_after_sent _ _ after move) moves
    ⟨baselined_start, every_event_nil _⟩
  generalize hostRun transport config calls = host at few due baselined acks ⊢
  have isTrace : (booksOf host).trace = host.trace := rfl
  rw [isTrace] at acks
  obtain ⟨count, numbers, _⟩ := baselined.numbers
  rw [isTrace] at numbers
  have small : count < 2 ^ 32 := by
    unfold snapshotsBuilt at few
    rw [numbers] at few
    simpa [idsUpTo] using few
  obtain ⟨earlier, baseline, later, split, noneLater, unacked⟩ := due.last
  have ordered : (host.trace.filterMap handedSnapshot).Sublist (idsUpTo count) :=
    numbers ▸ baselined.ordered
  have increasing := (ids_increasing small).sublist ordered
  have hands : handedSnapshot (.handed clientId (.snapshot planned baseline) true) =
      some planned.snapshotId := rfl
  rw [split, List.filterMap_append, List.filterMap_cons_some hands,
    List.pairwise_append] at increasing
  -- Ids grow along the record, so all that was sent before the last snapshot is older.
  have older (sent : SnapshotDTO) (its : Option SnapshotDTO)
      (member : Happening.handed clientId (.snapshot sent its) true ∈ earlier) :
      sent.snapshotId < planned.snapshotId :=
    increasing.2.2 sent.snapshotId (List.mem_filterMap.mpr ⟨_, member, rfl⟩) planned.snapshotId
      List.mem_cons_self
  by_cases zero : host.requestedBaselineId clientId = 0
  · have listed : planned.snapshotId ∈ idsUpTo count := by
      apply ordered.subset
      rw [split, List.filterMap_append, List.filterMap_cons_some hands]
      exact List.mem_append_right _ List.mem_cons_self
    rw [zero]
    exact listed_positive small listed
  · -- The acknowledged snapshot was sent before the last one, as that is not acknowledged.
    have named := requested_acked baselined zero
    rw [split] at named
    rcases List.mem_append.mp named with inEarlier | fromPlanned
    · obtain ⟨before, since, isSplit⟩ := List.append_of_mem inEarlier
      obtain ⟨sent, its, isId, member⟩ := acks before _
        (since ++ .handed clientId (.snapshot planned baseline) true :: later)
        (by rw [split, isSplit, List.append_assoc, List.cons_append]) clientId _ rfl
      rw [← isId]
      apply older sent its
      rw [isSplit]
      exact List.mem_append_left _ member
    · have inLater := (List.mem_cons.mp fromPlanned).resolve_left (by simp)
      obtain ⟨before, since, isSplit⟩ := List.append_of_mem inLater
      obtain ⟨sent, its, isId, member⟩ := acks
        (earlier ++ .handed clientId (.snapshot planned baseline) true :: before) _ since
        (by rw [split, isSplit, List.append_assoc, List.cons_append]) clientId _ rfl
      rcases List.mem_append.mp member with isOlder | rest
      · rw [← isId]
        exact older sent its isOlder
      · rcases List.mem_cons.mp rest with same | inBefore
        · -- The last snapshot itself is not acknowledged.
          cases same
          rw [← isId] at inLater
          exact absurd inLater unacked
        · -- Nothing is sent to the client after it.
          have isSent : acceptedFor clientId (.handed clientId (.snapshot sent its) true) =
              some sent := by
            unfold acceptedFor snapshotFor
            dsimp only
            rw [if_pos rfl]
            rfl
          have isNone := List.filterMap_eq_nil_iff.mp noneLater _
            (isSplit ▸ List.mem_append_left _ inBefore)
          rw [isSent] at isNone
          cases isNone

def ackEnvelope (snapshotId : SnapshotId) : NetworkEnvelope :=
  { peerId := 1, channel := .snapshots, messageClass := .snapshotAck, sequence := snapshotId,
    payload := serializeSnapshotAck { clientId := 1, snapshotId := snapshotId } }

theorem ack_envelope_acknowledges (snapshotId : SnapshotId) :
    Acknowledges (ackEnvelope snapshotId) 1 snapshotId :=
  ⟨{ clientId := 1, snapshotId := snapshotId }, deserialize_snapshot_ack _, rfl, rfl⟩

/-- Client 1 joins and is sent its first snapshot. -/
def firstCalls : List HostCall := [joinCall 1, .tickAndSendSnapshots .stored .stored 16]

def firstSnapshot : SnapshotDTO :=
  ((hostRun (fun _ _ => true) {} firstCalls).baselineCache.find 1 1).getD {}

theorem last_ack_works_first :
    AckWorks (fun _ _ => true) (hostRun (fun _ _ => true) {} firstCalls) 1
      firstSnapshot.snapshotId (ackEnvelope firstSnapshot.snapshotId) := by
  have due : AckDue (hostRun (fun _ _ => true) {} firstCalls) 1 firstSnapshot :=
    ⟨⟨(hostRun (fun _ _ => true) {} firstCalls).trace.take 1, none,
      (hostRun (fun _ _ => true) {} firstCalls).trace.drop 2, by decide +kernel⟩,
      by decide +kernel⟩
  exact (last_ack_works_iff (fun _ _ => true) {} firstCalls 1 firstSnapshot _ due
    (ack_envelope_acknowledges _)).mpr (by decide +kernel)

end Brawololo.AckProgress
