import Brawololo.HostSimulation

/-!
The interest events of a client. The host tells a client of every entity that
enters the snapshots it is sent and of every one that leaves them, so the
events of an entity alternate, and the entities that have entered and not left
are those of the last snapshot.
-/

namespace Brawololo.InterestAccounting

open GameTypes EntityStore NetworkEvents Simulation SimulationStages Replication EntityIdentity
open Server ServerNetworkHost HostTurns HostBookkeeping HostSimulation

/-! Entering and leaving. -/

section Changes

variable {Name : Type} [DecidableEq Name]

/-- The changes of one name, in order: true for entering, false for leaving. -/
def changesOf (name : Name) (changes : List (Name × Bool)) : List Bool :=
  changes.filterMap fun change => if change.1 = name then some change.2 else none

/-- Entering and leaving take turns, and the next to come is `expected`. -/
def Alternates : Bool → List Bool → Prop
  | _, [] => True
  | expected, change :: rest => change = expected ∧ Alternates (!expected) rest

/-- The last change was to enter. -/
def unmatched (changes : List Bool) : Bool := changes.getLast?.getD false

/-- The change that is told when a name was known or not, and is now or not. -/
def toggled (known listed : Bool) : List Bool := if known = listed then [] else [listed]

theorem changes_of_append (name : Name) (first second : List (Name × Bool)) :
    changesOf name (first ++ second) = changesOf name first ++ changesOf name second :=
  List.filterMap_append

theorem changes_of_map (name : Name) (names : List Name) (distinct : names.Nodup)
    (entering : Bool) :
    changesOf name (names.map fun other => (other, entering)) =
      if name ∈ names then [entering] else [] := by
  induction names with
  | nil => rfl
  | cons head rest ih =>
      obtain ⟨new, distinctRest⟩ := List.nodup_cons.mp distinct
      have later := ih distinctRest
      unfold changesOf at later ⊢
      rw [List.map_cons]
      by_cases same : head = name
      · subst same
        rw [if_neg new] at later
        simp [later]
      · simp [same, later, Ne.symm same]

theorem alternates_concat (expected : Bool) (changes : List Bool) (change : Bool)
    (alternates : Alternates expected changes)
    (turn : change = !(changes.getLast?.getD (!expected))) :
    Alternates expected (changes ++ [change]) := by
  induction changes generalizing expected with
  | nil => exact ⟨by simpa using turn, trivial⟩
  | cons head rest ih =>
      obtain ⟨isHead, later⟩ := alternates
      refine ⟨isHead, ih (!expected) later ?_⟩
      rw [turn, List.getLast?_cons, Option.getD_some, isHead, Bool.not_not]

/-- Telling only of what changes keeps the turns. -/
theorem alternates_toggled {changes : List Bool} {known : Bool} (listed : Bool)
    (alternates : Alternates true changes) (isKnown : unmatched changes = known) :
    Alternates true (changes ++ toggled known listed) ∧
      unmatched (changes ++ toggled known listed) = listed := by
  unfold toggled
  by_cases same : known = listed
  · rw [if_pos same, List.append_nil]
    exact ⟨alternates, isKnown.trans same⟩
  · rw [if_neg same]
    constructor
    · apply alternates_concat true changes listed alternates
      have last : changes.getLast?.getD false = known := isKnown
      rw [Bool.not_true, last]
      exact Bool.eq_not.mpr (Ne.symm same)
    · unfold unmatched
      rw [List.getLast?_concat, Option.getD_some]

end Changes

/-! A frame of the tracker. -/

def knows (tracker : InterestTracker) (entityId : NetworkEntityId) : Bool :=
  tracker.knownEntities.contains entityId

/-- `KnownEntityCount`. -/
def knownEntityCount (tracker : InterestTracker) : Nat := tracker.knownEntities.size

theorem insert_all_contains (ids : List NetworkEntityId) (known : UnorderedMap NetworkEntityId Unit)
    (entityId : NetworkEntityId) :
    (ids.foldl (fun known entityId => known.insert entityId ()) known).contains entityId = true ↔
      entityId ∈ ids ∨ known.contains entityId = true := by
  induction ids generalizing known with
  | nil => simp
  | cons head rest ih =>
      rw [List.foldl_cons, ih, Std.ExtTreeMap.contains_insert, List.mem_cons, Bool.or_eq_true,
        beq_iff_eq, Std.LawfulEqCmp.compare_eq_iff_eq]
      constructor
      · rintro (inRest | same | old)
        · exact Or.inl (Or.inr inRest)
        · exact Or.inl (Or.inl same.symm)
        · exact Or.inr old
      · rintro ((same | inRest) | old)
        · exact Or.inr (Or.inl same.symm)
        · exact Or.inl inRest
        · exact Or.inr (Or.inr old)

section Frames

variable {Site : Type} (tracker : InterestTracker) (order : IterationOrder Site) (site : Site)
variable (snapshot : SnapshotDTO)

/-- The tracker knows what the snapshot lists. -/
theorem update_knows (entityId : NetworkEntityId) :
    knows (tracker.update order site snapshot).1 entityId = true ↔
      entityId ∈ snapshotIds snapshot := by
  have filled := insert_all_contains (snapshotIds snapshot) {} entityId
  rw [Std.ExtTreeMap.contains_empty, or_iff_left Bool.false_ne_true] at filled
  exact filled

theorem mem_entered (entityId : NetworkEntityId) :
    entityId ∈ (tracker.update order site snapshot).2.entered ↔
      entityId ∈ snapshotIds snapshot ∧ knows tracker entityId = false := by
  unfold InterestTracker.update knows
  dsimp only
  rw [List.mem_filter, Bool.not_eq_true']
  rfl

theorem mem_exited (entityId : NetworkEntityId) :
    entityId ∈ (tracker.update order site snapshot).2.exited ↔
      knows tracker entityId = true ∧
        knows (tracker.update order site snapshot).1 entityId = false := by
  unfold InterestTracker.update knows
  dsimp only
  rw [List.mem_filter, order.mem_arrange, Std.ExtTreeMap.mem_keys, Bool.not_eq_true',
    Std.ExtTreeMap.contains_iff_mem]

/-- A frame tells of an entity if the snapshot changes whether it is known. -/
theorem frame_changes_of (distinct : (snapshotIds snapshot).Nodup) (entityId : NetworkEntityId) :
    changesOf entityId (frameChanges (tracker.update order site snapshot).2) =
      toggled (knows tracker entityId)
        (knows (tracker.update order site snapshot).1 entityId) := by
  have listed := update_knows tracker order site snapshot entityId
  have enteredDistinct : (tracker.update order site snapshot).2.entered.Nodup :=
    distinct.filter _
  have exitedDistinct : (tracker.update order site snapshot).2.exited.Nodup :=
    ((order.nodup_arrange site _).mpr Std.ExtTreeMap.nodup_keys).filter _
  have isEntered := mem_entered tracker order site snapshot entityId
  have isExited := mem_exited tracker order site snapshot entityId
  unfold frameChanges
  rw [changes_of_append, changes_of_map entityId _ enteredDistinct,
    changes_of_map entityId _ exitedDistinct]
  simp only [isEntered, isExited, ← listed]
  cases knows tracker entityId
  · cases knows (tracker.update order site snapshot).1 entityId
    · rfl
    · rfl
  · cases knows (tracker.update order site snapshot).1 entityId
    · rfl
    · rfl

theorem frame_lists_all :
    (tracker.update order site snapshot).2.entered.length +
      (tracker.update order site snapshot).2.stayed.length = (snapshotIds snapshot).length := by
  have split := List.length_eq_length_filter_add (l := snapshotIds snapshot) tracker.knownEntities.contains
  have stayed : (tracker.update order site snapshot).2.stayed =
      (snapshotIds snapshot).filter tracker.knownEntities.contains := rfl
  have entered : (tracker.update order site snapshot).2.entered =
      (snapshotIds snapshot).filter fun entityId => !tracker.knownEntities.contains entityId := rfl
  rw [stayed, entered, split]
  omega

/-- What enters and what leaves make up the difference in what is known. -/
theorem frame_balance (distinct : (snapshotIds snapshot).Nodup) :
    (tracker.update order site snapshot).2.entered.length + knownEntityCount tracker =
      (tracker.update order site snapshot).2.exited.length +
        knownEntityCount (tracker.update order site snapshot).1 := by
  have all := frame_lists_all tracker order site snapshot
  have listed (entityId : NetworkEntityId) :=
    update_knows tracker order site snapshot entityId
  have nowKnown : (tracker.update order site snapshot).1.knownEntities.keys.Perm
      (snapshotIds snapshot) := by
    rw [List.perm_ext_iff_of_nodup Std.ExtTreeMap.nodup_keys distinct]
    intro entityId
    rw [Std.ExtTreeMap.mem_keys, ← Std.ExtTreeMap.contains_iff_mem]
    exact listed entityId
  have after : knownEntityCount (tracker.update order site snapshot).1 =
      (snapshotIds snapshot).length := by
    rw [← nowKnown.length_eq, Std.ExtTreeMap.length_keys]
    rfl
  have arranged := order.arrange_perm site tracker.knownEntities.keys
  have stayed : ((order.arrange site tracker.knownEntities.keys).filter
      (knows (tracker.update order site snapshot).1)).Perm
      ((snapshotIds snapshot).filter tracker.knownEntities.contains) := by
    rw [List.perm_ext_iff_of_nodup
      (((order.nodup_arrange site _).mpr Std.ExtTreeMap.nodup_keys).filter _) (distinct.filter _)]
    intro entityId
    rw [List.mem_filter, List.mem_filter, order.mem_arrange, Std.ExtTreeMap.mem_keys, listed,
      ← Std.ExtTreeMap.contains_iff_mem, and_comm]
  have split := List.length_eq_length_filter_add (l := order.arrange site tracker.knownEntities.keys)
    (knows (tracker.update order site snapshot).1)
  have exited : (tracker.update order site snapshot).2.exited =
      (order.arrange site tracker.knownEntities.keys).filter
        fun entityId => !knows (tracker.update order site snapshot).1 entityId := rfl
  have kept : (tracker.update order site snapshot).2.stayed =
      (snapshotIds snapshot).filter tracker.knownEntities.contains := rfl
  rw [arranged.length_eq, Std.ExtTreeMap.length_keys, stayed.length_eq, ← exited, ← kept] at split
  have before : knownEntityCount tracker = tracker.knownEntities.size := rfl
  omega

end Frames

/-! The account of a client. -/

/-- The entities of the last snapshot that was sent to the client. -/
def lastListed (clientId : ClientId) (trace : Trace) : List NetworkEntityId :=
  ((trace.filterMap (acceptedFor clientId)).getLast?.map snapshotIds).getD []

/-- What the host knows the client to see. -/
def interestFor (host : ServerNetworkHost) (clientId : ClientId) : InterestTracker :=
  ((host.clientStateById[clientId]?).map fun state => state.interest).getD {}

def knownTotal (host : ServerNetworkHost) : Nat :=
  (host.clients.map fun clientId => knownEntityCount (interestFor host clientId)).sum

/-- No snapshot that was sent lists an entity twice. -/
def SentDistinct (trace : Trace) : Prop :=
  ∀ clientId, ∀ happening ∈ trace, ∀ snapshot, acceptedFor clientId happening = some snapshot →
    (snapshotIds snapshot).Nodup

/-- The events, the tracker and the last snapshot of a client agree. -/
structure Told (clientId : ClientId) (tracker : InterestTracker) (trace : Trace) : Prop where
  alternates : ∀ entityId, Alternates true (changesOf entityId (interestOf clientId trace))
  known : ∀ entityId,
    unmatched (changesOf entityId (interestOf clientId trace)) = knows tracker entityId
  listed : ∀ entityId, knows tracker entityId = true ↔ entityId ∈ lastListed clientId trace

/-- The statistics of interest agree with the snapshots and the trackers. -/
structure InterestAccount (host : ServerNetworkHost) : Prop where
  told : ∀ clientId, Told clientId (interestFor host clientId) host.trace
  shown : host.stats.interestEnterEvents + host.stats.interestStayEvents =
    host.stats.snapshotEntitiesSent
  balance : host.stats.interestEnterEvents = host.stats.interestExitEvents + knownTotal host

/-- Nothing in this stretch concerns the interest of a client. -/
def Uneventful (trace : Trace) : Prop :=
  ∀ clientId, ∀ happening ∈ trace,
    generatedFor clientId happening = none ∧ acceptedFor clientId happening = none

theorem uneventful_of_uninteresting {trace : Trace}
    (all : ∀ happening ∈ trace, Uninteresting happening) : Uneventful trace := by
  intro clientId happening member
  refine ⟨(all happening member).1 clientId, ?_⟩
  unfold acceptedFor
  rw [(all happening member).2 clientId]
  rfl

theorem uneventful_interest {trace : Trace} (uneventful : Uneventful trace)
    (clientId : ClientId) : interestOf clientId trace = [] :=
  List.filterMap_eq_nil_iff.mpr fun happening member => (uneventful clientId happening member).1

theorem uneventful_accepted {trace : Trace} (uneventful : Uneventful trace)
    (clientId : ClientId) : trace.filterMap (acceptedFor clientId) = [] :=
  List.filterMap_eq_nil_iff.mpr fun happening member => (uneventful clientId happening member).2

theorem told_append {clientId : ClientId} {tracker : InterestTracker} {trace added : Trace}
    (told : Told clientId tracker trace) (noInterest : interestOf clientId added = [])
    (noSnapshot : added.filterMap (acceptedFor clientId) = []) :
    Told clientId tracker (trace ++ added) := by
  have sameInterest : interestOf clientId (trace ++ added) = interestOf clientId trace := by
    rw [interest_of_append, noInterest, List.append_nil]
  have sameListed : lastListed clientId (trace ++ added) = lastListed clientId trace := by
    unfold lastListed
    rw [List.filterMap_append, noSnapshot, List.append_nil]
  constructor
  case alternates =>
    rw [sameInterest]
    exact told.alternates
  case known =>
    rw [sameInterest]
    exact told.known
  case listed =>
    rw [sameListed]
    exact told.listed

/-- A stretch in which a snapshot is sent to the client and the changes are told. -/
theorem told_sent {Site : Type} {clientId : ClientId} {tracker : InterestTracker}
    {trace added : Trace} (order : IterationOrder Site) (site : Site) (planned : SnapshotDTO)
    (told : Told clientId tracker trace) (distinct : (snapshotIds planned).Nodup)
    (interest : interestOf clientId added =
      frameChanges (tracker.update order site planned).2)
    (accepted : added.filterMap (acceptedFor clientId) = [planned]) :
    Told clientId (tracker.update order site planned).1 (trace ++ added) := by
  have toggles (entityId : NetworkEntityId) :=
    alternates_toggled (knows (tracker.update order site planned).1 entityId)
      (told.alternates entityId) (told.known entityId)
  have extended (entityId : NetworkEntityId) :
      changesOf entityId (interestOf clientId (trace ++ added)) =
        changesOf entityId (interestOf clientId trace) ++
          toggled (knows tracker entityId)
            (knows (tracker.update order site planned).1 entityId) := by
    rw [interest_of_append, changes_of_append, interest,
      frame_changes_of tracker order site planned distinct]
  have last : lastListed clientId (trace ++ added) = snapshotIds planned := by
    unfold lastListed
    rw [List.filterMap_append, accepted, List.getLast?_concat]
    rfl
  constructor
  case alternates =>
    intro entityId
    rw [extended]
    exact (toggles entityId).1
  case known =>
    intro entityId
    rw [extended]
    exact (toggles entityId).2
  case listed =>
    intro entityId
    rw [last]
    exact update_knows tracker order site planned entityId

/-- What changes neither the trackers nor the statistics keeps the account. -/
theorem account_same {before after : ServerNetworkHost} {added : Trace}
    (account : InterestAccount before) (recorded : after.trace = before.trace ++ added)
    (uneventful : Uneventful added)
    (interest : ∀ clientId, interestFor after clientId = interestFor before clientId)
    (total : knownTotal after = knownTotal before)
    (entered : after.stats.interestEnterEvents = before.stats.interestEnterEvents)
    (stayed : after.stats.interestStayEvents = before.stats.interestStayEvents)
    (exited : after.stats.interestExitEvents = before.stats.interestExitEvents)
    (sent : after.stats.snapshotEntitiesSent = before.stats.snapshotEntitiesSent) :
    InterestAccount after := by
  constructor
  case told =>
    intro clientId
    rw [recorded, interest]
    exact told_append (account.told clientId) (uneventful_interest uneventful clientId)
      (uneventful_accepted uneventful clientId)
  case shown =>
    rw [entered, stayed, sent]
    exact account.shown
  case balance =>
    rw [entered, exited, total]
    exact account.balance

theorem interest_of_core (host : ServerNetworkHost) (clientId : ClientId) :
    interestFor host clientId = ((coreFor host clientId).map fun state => state.interest).getD {} := by
  unfold interestFor coreFor
  rw [Option.map_map]
  rfl

theorem known_total_congr {before after : ServerNetworkHost}
    (clients : after.clients = before.clients)
    (interest : ∀ clientId, interestFor after clientId = interestFor before clientId) :
    knownTotal after = knownTotal before := by
  unfold knownTotal
  rw [clients]
  simp only [interest]

/-- Sending events that are not about interest keeps the account. -/
theorem account_events {before after : ServerNetworkHost} {sent : Trace}
    (account : InterestAccount before) (only : EventsOnly sent before after)
    (uneventful : Uneventful sent) : InterestAccount after := by
  have interest (clientId : ClientId) : interestFor after clientId = interestFor before clientId := by
    rw [interest_of_core, interest_of_core, only.states]
  obtain ⟨sentCount, resentCount, stats⟩ := only.stats
  apply account_same account only.trace uneventful interest
    (known_total_congr only.clients interest)
  all_goals rw [stats]

/-! A snapshot for a client. -/

theorem count_delta_plan_interest (planned : SnapshotDTO) (baseline : Option SnapshotDTO)
    (stats : ServerNetworkStats) :
    (countDeltaPlan planned baseline stats).interestEnterEvents = stats.interestEnterEvents ∧
    (countDeltaPlan planned baseline stats).interestStayEvents = stats.interestStayEvents ∧
    (countDeltaPlan planned baseline stats).interestExitEvents = stats.interestExitEvents ∧
    (countDeltaPlan planned baseline stats).snapshotEntitiesSent = stats.snapshotEntitiesSent := by
  unfold countDeltaPlan
  cases baseline with
  | none => exact ⟨rfl, rfl, rfl, rfl⟩
  | some baseline =>
      dsimp only
      split
      · exact ⟨rfl, rfl, rfl, rfl⟩
      · exact ⟨rfl, rfl, rfl, rfl⟩

/-- Counting priorities leaves the number of entities alone. -/
theorem count_priority_output (entities : List EntityStateDTO) (stats : ReplicationPlannerStats) :
    (entities.foldl (fun stats entity => countPriority stats entity.replication.priority)
      stats).outputEntityCount = stats.outputEntityCount := by
  induction entities generalizing stats with
  | nil => rfl
  | cons entity rest ih =>
      rw [List.foldl_cons, ih]
      unfold countPriority
      split
      · rfl
      · rfl
      · rfl

/-- The planner counts the entities that it keeps. -/
theorem plan_output_count (config : ReplicationPlannerConfig) (snapshot : SnapshotDTO)
    (clientId : ClientId) :
    (config.plan snapshot clientId).stats.outputEntityCount =
      (snapshotIds (config.plan snapshot clientId).snapshot).length := by
  unfold ReplicationPlannerConfig.plan snapshotIds
  dsimp only
  rw [count_priority_output, List.length_map]

/-- A sum in which one client's count is replaced. -/
theorem sum_replaced {clients : List ClientId} (distinct : clients.Nodup) {clientId : ClientId}
    (member : clientId ∈ clients) (before after : ClientId → Nat)
    (same : ∀ other, other ≠ clientId → after other = before other) :
    (clients.map after).sum + before clientId = (clients.map before).sum + after clientId := by
  have rest : (clients.erase clientId).map after = (clients.erase clientId).map before := by
    apply List.map_congr_left
    intro other isOther
    exact same other (distinct.mem_erase_iff.mp isOther).1
  have one := List.sum_map_erase after member
  have two := List.sum_map_erase before member
  rw [rest] at one
  omega

theorem handed_uneventful (host : ServerNetworkHost) (clientId : ClientId) (planned : SnapshotDTO)
    (baseline : Option SnapshotDTO) :
    Uneventful (handedTrace host clientId planned baseline false) := by
  intro other happening member
  rcases List.mem_pair.mp member with rfl | rfl
  · exact ⟨rfl, rfl⟩
  · refine ⟨rfl, ?_⟩
    unfold acceptedFor snapshotFor
    dsimp only
    split
    · rfl
    · rfl

theorem handed_interest (host : ServerNetworkHost) (clientId other : ClientId)
    (planned : SnapshotDTO) (baseline : Option SnapshotDTO) (accepted : Bool) :
    interestOf other (handedTrace host clientId planned baseline accepted) = [] := rfl

/-- Only the interest of the client that was sent a snapshot changes. -/
theorem interest_for_updated (host : ServerNetworkHost) (clientId other : ClientId)
    {state : ServerClientReplicationState} (has : host.clientStateById[clientId]? = some state)
    (tracker : InterestTracker) :
    interestFor (host.updateClient clientId fun state => { state with interest := tracker }) other =
      if clientId = other then tracker else interestFor host other := by
  unfold interestFor updateClient
  dsimp only
  rw [get_modify]
  by_cases same : clientId = other
  · subst same
    rw [if_pos rfl, if_pos rfl, has]
    rfl
  · rw [if_neg same, if_neg same]

theorem update_client_interest (host : ServerNetworkHost) (clientId other : ClientId)
    (change : ServerClientReplicationState → ServerClientReplicationState)
    (same : ∀ state, (change state).interest = state.interest) :
    interestFor (host.updateClient clientId change) other = interestFor host other := by
  unfold interestFor updateClient
  dsimp only
  rw [part_modify (fun state : ServerClientReplicationState => state.interest) _ _ _ _ same]

/-- Marking a snapshot as sent changes only the schedule. -/
theorem interest_for_marked (host : ServerNetworkHost) (clientId other : ClientId)
    (nowMs : TimestampMs) :
    interestFor (host.markSnapshotSent clientId nowMs) other = interestFor host other :=
  update_client_interest host clientId other _ fun _ => rfl

/-- After the events about it, a client is known to see what the tracker says. -/
theorem interest_for_followed {host followed : ServerNetworkHost} {clientId : ClientId}
    {state : ServerClientReplicationState} {tracker : InterestTracker} {sent : Trace}
    {count : ServerNetworkStats → ServerNetworkStats}
    (has : host.clientStateById[clientId]? = some state)
    (only : EventsOnly sent ((host.updateClient clientId fun state =>
      { state with interest := tracker }).countStats count) followed) (other : ClientId) :
    interestFor followed other = if clientId = other then tracker else interestFor host other := by
  rw [← interest_for_updated host clientId other has tracker, interest_of_core, interest_of_core]
  exact congrArg (fun core => (core.map fun state => state.interest).getD {}) (only.states other)

/-- What following the interest of one client adds to the counters. -/
structure FollowedCounts (host followed : ServerNetworkHost) (frame : InterestFrame) : Prop where
  entered : followed.stats.interestEnterEvents =
    host.stats.interestEnterEvents + frame.entered.length
  stayed : followed.stats.interestStayEvents =
    host.stats.interestStayEvents + frame.stayed.length
  exited : followed.stats.interestExitEvents =
    host.stats.interestExitEvents + frame.exited.length
  entities : followed.stats.snapshotEntitiesSent = host.stats.snapshotEntitiesSent

theorem followed_counts {host followed : ServerNetworkHost} {clientId : ClientId}
    {planned : SnapshotDTO} {baseline : Option SnapshotDTO} {tracker : InterestTracker}
    {frame : InterestFrame} {sent : Trace}
    (only : EventsOnly sent (((handedOver host clientId planned baseline true).updateClient clientId
      fun state => { state with interest := tracker }).countStats (countInterest frame)) followed) :
    FollowedCounts host followed frame := by
  obtain ⟨sentCount, resentCount, stats⟩ := only.stats
  obtain ⟨sameEntered, sameStayed, sameExited, sameSent⟩ :=
    count_delta_plan_interest planned baseline host.stats
  constructor
  · rw [stats, ← sameEntered]
    rfl
  · rw [stats, ← sameStayed]
    rfl
  · rw [stats, ← sameExited]
    rfl
  · rw [stats, ← sameSent]
    rfl

section Turns

variable (transport : Transport) (order : LoopOrder) (hostOrder : HostOrder) (nowMs : TimestampMs)

theorem sent_distinct_before {first second : Trace} (distinct : SentDistinct (first ++ second)) :
    SentDistinct first :=
  fun clientId happening member =>
    distinct clientId happening (List.mem_append_left second member)

/-- The sent snapshot and the events about it agree with what every client was told. -/
theorem followed_told {host : ServerNetworkHost} {clientId : ClientId} {planned : SnapshotDTO}
    {tracker : InterestTracker} {sent : Trace} (baseline : Option SnapshotDTO)
    (account : InterestAccount host) (distinct : (snapshotIds planned).Nodup)
    (isTracker : ((interestFor host clientId).update hostOrder (.exitedEntities clientId)
      planned).1 = tracker) (quiet : NoSnapshot sent)
    (told : ∀ other, interestOf other sent = if clientId = other then
      frameChanges ((interestFor host clientId).update hostOrder (.exitedEntities clientId)
        planned).2 else []) (other : ClientId) :
    Told other (if clientId = other then tracker else interestFor host other)
      (host.trace ++ (handedTrace host clientId planned baseline true ++ sent)) := by
  by_cases same : clientId = other
  · subst same
    rw [if_pos rfl, ← isTracker]
    refine told_sent hostOrder (.exitedEntities clientId) planned (account.told clientId) distinct
      ?_ ?_
    · rw [interest_of_append, handed_interest, told clientId, if_pos rfl, List.nil_append]
    · rw [List.filterMap_append, handed_accepted, if_pos rfl, quiet_accepted quiet clientId,
        List.append_nil]
  · rw [if_neg same]
    refine told_append (account.told other) ?_ ?_
    · rw [interest_of_append, handed_interest, told other, if_neg same, List.nil_append]
    · rw [List.filterMap_append, handed_accepted, if_neg same, quiet_accepted quiet other,
        List.nil_append]

theorem followed_account (host : ServerNetworkHost) (tidy : Tidy host) (clientId : ClientId)
    (member : clientId ∈ host.clients) (missed : Bool) (planned : PlannedSnapshot)
    (counted : planned.stats.outputEntityCount = (snapshotIds planned.snapshot).length)
    (baseline : Option SnapshotDTO) (followed : ServerNetworkHost)
    (follows : Follows hostOrder clientId planned.snapshot
      (handedOver host clientId planned.snapshot baseline true) followed) :
    ∃ added, (((followed.storeBaseline clientId planned.snapshot).countStats
        (countSnapshot planned missed)).markSnapshotSent clientId nowMs).trace =
          host.trace ++ added ∧
      (InterestAccount host → SentDistinct (host.trace ++ added) →
        InterestAccount (((followed.storeBaseline clientId planned.snapshot).countStats
          (countSnapshot planned missed)).markSnapshotSent clientId nowMs)) := by
  cases follows with
  | unknown absent =>
      -- A client in the list has a state.
      have enrolled := (tidy.enrolled clientId).mp member
      have noAccount : (booksOf host).accounts clientId = none := Option.map_eq_none_iff.mpr absent
      rw [noAccount] at enrolled
      cases enrolled
  | followed state tracker frame sent followed has updated only quiet told =>
      have tracked : interestFor host clientId = state.interest :=
        congrArg (fun found => (found.map fun state => state.interest).getD {}) has
      have isTracker : (state.interest.update hostOrder (.exitedEntities clientId)
          planned.snapshot).1 = tracker := congrArg Prod.fst updated
      have isFrame : (state.interest.update hostOrder (.exitedEntities clientId)
          planned.snapshot).2 = frame := congrArg Prod.snd updated
      have record : followed.trace =
          host.trace ++ (handedTrace host clientId planned.snapshot baseline true ++ sent) :=
        only.trace.trans ((congrArg (· ++ sent) (handed_over_trace host clientId _ _ true)).trans
          (List.append_assoc _ _ _))
      refine ⟨_, record, ?_⟩
      intro account distinct
      have distinctHere : (snapshotIds planned.snapshot).Nodup := by
        apply distinct clientId (.handed clientId (.snapshot planned.snapshot baseline) true)
        · apply List.mem_append_right
          apply List.mem_append_left
          exact List.mem_cons_of_mem _ List.mem_cons_self
        · unfold acceptedFor snapshotFor
          dsimp only
          rw [if_pos rfl]
          rfl
      have interest (other : ClientId) :
          interestFor (((followed.storeBaseline clientId planned.snapshot).countStats
            (countSnapshot planned missed)).markSnapshotSent clientId nowMs) other =
            if clientId = other then tracker else interestFor host other := by
        rw [interest_for_marked]
        exact interest_for_followed has only other
      obtain ⟨entered, stayed, exited, entities⟩ := followed_counts only
      have lists := frame_lists_all state.interest hostOrder (.exitedEntities clientId)
        planned.snapshot
      have balances := frame_balance state.interest hostOrder (.exitedEntities clientId)
        planned.snapshot distinctHere
      rw [isFrame] at lists
      rw [isFrame, isTracker] at balances
      have clients : followed.clients = host.clients := only.clients
      constructor
      case told =>
        intro other
        have now := followed_told hostOrder baseline account distinctHere
          (tracked ▸ isTracker) quiet (by rw [tracked, isFrame]; exact told) other
        rw [interest other]
        exact record ▸ now
      case shown =>
        have before := account.shown
        change followed.stats.interestEnterEvents + followed.stats.interestStayEvents =
          followed.stats.snapshotEntitiesSent + planned.stats.outputEntityCount
        omega
      case balance =>
        have before := account.balance
        have total := sum_replaced tidy.distinct member
          (fun other => knownEntityCount (interestFor host other))
          (fun other => knownEntityCount (interestFor
            (((followed.storeBaseline clientId planned.snapshot).countStats
              (countSnapshot planned missed)).markSnapshotSent clientId nowMs) other)) (by
            intro other different
            rw [interest other, if_neg (Ne.symm different)])
        rw [interest clientId, if_pos rfl, tracked] at total
        change followed.stats.interestEnterEvents = followed.stats.interestExitEvents +
          (followed.clients.map _).sum
        rw [clients]
        unfold knownTotal at before
        omega

/-- What has been sent so far, if it lists no entity twice, agrees with the account. -/
def Accounted (host : ServerNetworkHost) : Prop := SentDistinct host.trace → InterestAccount host

theorem accounted_step {before after : ServerNetworkHost} {added : Trace}
    (accounted : Accounted before) (recorded : after.trace = before.trace ++ added)
    (kept : InterestAccount before → SentDistinct (before.trace ++ added) →
      InterestAccount after) : Accounted after := by
  intro distinct
  rw [recorded] at distinct
  exact kept (accounted (sent_distinct_before distinct)) distinct

theorem turn_accounted (host : ServerNetworkHost) (tidy : Tidy host) (clientId : ClientId)
    (member : clientId ∈ host.clients) (accounted : Accounted host) :
    Accounted (host.snapshotTurn transport order hostOrder nowMs clientId) := by
  have turned := snapshot_turn transport order hostOrder nowMs host clientId
  generalize host.snapshotTurn transport order hostOrder nowMs clientId = after at turned ⊢
  cases turned with
  | skipped notDue =>
      refine accounted_step accounted (List.append_nil _).symm fun account _ => ?_
      exact ⟨account.told, account.shown, account.balance⟩
  | refused due =>
      refine accounted_step accounted (handed_over_trace _ _ _ _ _) fun account _ => ?_
      obtain ⟨entered, stayed, exited, sent⟩ := count_delta_plan_interest
        (host.plannedSnapshot order clientId).snapshot
        (host.deltaBaseline clientId (host.plannedSnapshot order clientId).snapshot) host.stats
      exact account_same account (handed_over_trace _ _ _ _ _) (handed_uneventful _ _ _ _)
        (fun _ => rfl) rfl entered stayed exited sent
  | sent due answer missed followed follows =>
      obtain ⟨added, recorded, kept⟩ := followed_account hostOrder nowMs host tidy clientId member
        missed (host.plannedSnapshot order clientId) (plan_output_count _ _ _) _ followed follows
      exact accounted_step accounted recorded kept

/-- The loop over the clients keeps the account. -/
theorem turns_accounted (clients : List ClientId) (host : ServerNetworkHost) (tidy : Tidy host)
    (members : ∀ clientId ∈ clients, clientId ∈ host.clients) (accounted : Accounted host) :
    Accounted (clients.foldl (snapshotTurn transport order hostOrder nowMs) host) := by
  induction clients generalizing host with
  | nil => exact accounted
  | cons clientId rest ih =>
      have member := members clientId List.mem_cons_self
      have advances := snapshot_turn_advances transport order hostOrder nowMs host tidy clientId
        member
      apply ih _ (advances.tidy tidy)
      · rw [advances.clients]
        exact fun other isIn => members other (List.mem_cons_of_mem clientId isIn)
      · exact turn_accounted transport order hostOrder nowMs host tidy clientId member accounted

end Turns

/-! A server simulation queues no interest events. -/

/-- No interest event waits to be drained. -/
def Silent (sim : GameSimulation) : Prop := ∀ event ∈ sim.events, ¬ isInterestEvent event

theorem silent_of_queues {before after : GameSimulation} (silent : Silent before)
    (queues : QueuesOnly (fun event => ¬ isInterestEvent event) before after) : Silent after := by
  obtain ⟨added, queued, all⟩ := queues
  intro event member
  rw [queued] at member
  rcases List.mem_append.mp member with old | new
  · exact silent event old
  · exact all event new

theorem tick_event_no_interest {event : DomainEvent} (ofTick : TickEvent event) :
    ¬ isInterestEvent event := by
  cases ofTick with
  | input told => rcases told with ⟨_, rfl⟩ | ⟨_, rfl⟩ <;> simp [isInterestEvent]
  | shot told => rcases told with ⟨_, rfl⟩ | ⟨_, rfl⟩ <;> simp [isInterestEvent]
  | hit told => rcases told with ⟨_, rfl⟩ | ⟨_, rfl⟩ | ⟨_, rfl⟩ <;> simp [isInterestEvent]
  | respawn told =>
      obtain ⟨_, rfl⟩ := told
      simp [isInterestEvent]

/-- Nothing that a tick does is told as a change of interest. -/
theorem tick_silent (order : LoopOrder) (sim : GameSimulation) :
    QueuesOnly (fun event => ¬ isInterestEvent event) sim (tickFixed order sim) :=
  QueuesOnly.mono (fun _ ofTick => tick_event_no_interest ofTick) (tick_queues order sim)

theorem submit_login_silent (sim : GameSimulation) (command : LoginCommand) (silent : Silent sim) :
    Silent (submitLogin sim command).1 := by
  rcases submit_login_cases sim command with same | ⟨_, _, joined⟩
  · rw [same]
    exact silent
  · rw [joined]
    apply silent_of_queues silent
    refine ⟨_, rfl, ?_⟩
    intro event member
    rw [List.mem_singleton.mp member]
    simp [isInterestEvent]

theorem submit_input_silent (sim : GameSimulation) (packet : ClientInputPacket)
    (silent : Silent sim) : Silent (submitInput sim packet).1 := by
  rcases submit_input_cases sim packet with ⟨same, _⟩ | ⟨_, _, accepted⟩
  · rw [same]
    exact silent
  · rw [accepted]
    exact silent

/-! The calls of the host. -/

section Calls

variable (transport : Transport)

/-- What holds of the host between its calls. -/
structure Watched (host : ServerNetworkHost) : Prop where
  tidy : Tidy host
  silent : Silent host.runtime.simulation
  accounted : Accounted host

theorem tick_watched (order : LoopOrder) (hostOrder : HostOrder) (host : ServerNetworkHost)
    (nowMs : TimestampMs) (watched : Watched host) :
    Watched (host.tickAndSendSnapshots transport order hostOrder nowMs) := by
  have progress := host_step_progress transport host watched.tidy
    (.tickAndSendSnapshots order hostOrder nowMs)
  have ticked : Silent (tickFixed order host.runtime.simulation) :=
    silent_of_queues watched.silent (tick_silent order _)
  have turned := turns_accounted transport order hostOrder nowMs host.clients
    { host with runtime := (host.runtime.tick order).drainEvents.1 }
    ((same_counter_advances host (host.runtime.tick order).drainEvents.1 rfl).tidy watched.tidy)
    (fun _ member => member) fun distinct => by
      have account := watched.accounted distinct
      exact ⟨account.told, account.shown, account.balance⟩
  obtain ⟨first, broadcast, noneFirst⟩ := broadcast_only transport
    (host.clients.foldl (snapshotTurn transport order hostOrder nowMs)
      { host with runtime := (host.runtime.tick order).drainEvents.1 })
    (host.runtime.tick order).drainEvents.2 ticked nowMs
  obtain ⟨second, resent, noneSecond⟩ := resend_only transport hostOrder
    ((host.clients.foldl (snapshotTurn transport order hostOrder nowMs)
      { host with runtime := (host.runtime.tick order).drainEvents.1 }).broadcastReliableEvents
        transport (host.runtime.tick order).drainEvents.2 nowMs) nowMs
  have events := broadcast.trans resent
  have uneventful : Uneventful (first ++ second) := by
    apply uneventful_of_uninteresting
    intro happening member
    rcases List.mem_append.mp member with inFirst | inSecond
    · exact noneFirst happening inFirst
    · exact noneSecond happening inSecond
  refine ⟨progress.tidy, ?_, ?_⟩
  · rw [tick_simulation]
    exact fun event member => by cases member
  · refine accounted_step turned events.trace fun account _ => ?_
    have sent := account_events account events uneventful
    exact ⟨sent.told, sent.shown, sent.balance⟩

/-- A new client sees nothing yet. -/
theorem register_interest (host : ServerNetworkHost) (tidy : Tidy host) (clientId : ClientId)
    (new : clientId ∉ host.clients) (other : ClientId) :
    interestFor (host.registerClient clientId) other = interestFor host other ∧
      (other = clientId → interestFor host other = {}) := by
  have noState : host.clientStateById[clientId]? = none := by
    apply Option.map_eq_none_iff.mp
    rw [← Option.not_isSome_iff_eq_none]
    exact mt (tidy.enrolled clientId).mpr new
  constructor
  · unfold interestFor registerClient
    dsimp only
    rw [Std.ExtTreeMap.getElem?_insertIfNew]
    split
    · next isNew =>
        rw [← Std.LawfulEqCmp.compare_eq_iff_eq.mp isNew.1, noState]
        rfl
    · rfl
  · rintro rfl
    unfold interestFor
    rw [noState]
    rfl

theorem register_account (host : ServerNetworkHost) (tidy : Tidy host) (clientId : ClientId)
    (new : clientId ∉ host.clients) (account : InterestAccount host) :
    InterestAccount (host.registerClient clientId) := by
  have interest (other : ClientId) := register_interest host tidy clientId new other
  have nothing : interestFor host clientId = {} := (interest clientId).2 rfl
  have recorded : (host.registerClient clientId).trace = host.trace ++ [] :=
    (List.append_nil _).symm
  apply account_same account recorded (fun _ _ member => (by cases member))
    (fun other => (interest other).1)
  · unfold knownTotal
    simp only [fun other => (interest other).1]
    change ((host.clients ++ [clientId]).map _).sum = _
    rw [List.map_append, List.sum_append, List.map_singleton, List.sum_singleton, nothing]
    rfl
  all_goals rfl

theorem settled_account {before after : ServerNetworkHost} {added : Trace}
    (account : InterestAccount before) (same : Settled before after)
    (recorded : after.trace = before.trace ++ added) (uneventful : Uneventful added) :
    InterestAccount after := by
  have interest (clientId : ClientId) : interestFor after clientId = interestFor before clientId := by
    unfold interestFor
    rw [same.states]
  exact account_same account recorded uneventful interest
    (known_total_congr same.clients interest) same.entered same.stayed same.exited same.sent

theorem acknowledge_interest (state : ServerClientReplicationState) (snapshotId : SnapshotId) :
    (state.acknowledgeSnapshot snapshotId).1.interest = state.interest := by
  unfold ServerClientReplicationState.acknowledgeSnapshot
  split
  · rfl
  · rfl

/-- Whatever a message is, it moves no interest. -/
theorem envelope_account (host : ServerNetworkHost) (tidy : Tidy host)
    (envelope : NetworkProtocol.NetworkEnvelope) (account : InterestAccount host) :
    InterestAccount (host.handleEnvelope transport envelope) := by
  have turned := envelope_turn transport host envelope
  generalize host.handleEnvelope transport envelope = after at turned ⊢
  have nothing : Uneventful [] := fun _ _ member => by cases member
  have one {happening : Happening} (generated : ∀ clientId, generatedFor clientId happening = none)
      (accepted : ∀ clientId, acceptedFor clientId happening = none) : Uneventful [happening] := by
    intro clientId other member
    rw [List.mem_singleton.mp member]
    exact ⟨generated clientId, accepted clientId⟩
  have updated (clientId : ClientId)
      (change : ServerClientReplicationState → ServerClientReplicationState)
      (kept : ∀ state, (change state).interest = state.interest) (other : ClientId) :=
    update_client_interest host clientId other change kept
  cases turned with
  | kept same trace =>
      exact settled_account account same (trace.trans (List.append_nil _).symm) nothing
  | @enrolled connected clientId same trace new =>
      have connectedTidy : Tidy connected := by
        have accounts : (booksOf connected).accounts = (booksOf host).accounts := by
          unfold booksOf
          rw [same.states]
        exact ⟨same.clients ▸ tidy.distinct, by rw [same.clients, accounts]; exact tidy.enrolled,
          by rw [accounts]; exact tidy.keyed⟩
      exact register_account _ connectedTidy clientId (same.clients ▸ new)
        (settled_account account same (trace.trans (List.append_nil _).symm) nothing)
  | snapshotAcked clientId snapshotId state has newer =>
      have interest := updated clientId _ fun state => acknowledge_interest state snapshotId
      exact account_same account rfl (one (fun _ => rfl) fun _ => rfl) interest
        (known_total_congr rfl interest) rfl rfl rfl rfl
  | eventAcked clientId eventId state has pending =>
      have interest := updated clientId
        (fun state => (state.acknowledgeReliableEvent eventId).1) fun _ => rfl
      exact account_same account rfl (one (fun _ => rfl) fun _ => rfl) interest
        (known_total_congr rfl interest) rfl rfl rfl rfl
  | answered clientId response accepted same trace =>
      exact settled_account account same trace (one (fun _ => rfl) fun _ => rfl)

theorem envelope_silent (host : ServerNetworkHost) (envelope : NetworkProtocol.NetworkEnvelope)
    (silent : Silent host.runtime.simulation) :
    Silent (host.handleEnvelope transport envelope).runtime.simulation := by
  unfold handleEnvelope
  split
  · exact silent
  · split
    · rcases login_simulation host envelope with same | ⟨joining, nowMs, connected⟩
      · exact same ▸ silent
      · exact connected ▸ submit_login_silent _ _ silent
    · rw [input_simulation]
      cases Serialization.deserializeClientInputPacket envelope.payload with
      | none => exact silent
      | some packet => exact submit_input_silent _ packet silent
    · rw [snapshot_ack_runtime]
      exact silent
    · rw [event_ack_runtime]
      exact silent
    · rw [time_sync_runtime]
      exact silent
    · exact silent

theorem envelope_watched (host : ServerNetworkHost) (envelope : NetworkProtocol.NetworkEnvelope)
    (watched : Watched host) : Watched (host.handleEnvelope transport envelope) := by
  obtain ⟨added, recorded, _⟩ := envelope_no_snapshot transport host envelope
  exact ⟨(envelope_progress transport host watched.tidy envelope).tidy,
    envelope_silent transport host envelope watched.silent,
    accounted_step watched.accounted recorded fun account _ =>
      envelope_account transport host watched.tidy envelope account⟩

/-- A runtime given through `Runtime()` brings no interest event with it. -/
def BringsNoInterest : HostCall → Prop
  | .changeRuntime runtime => Silent runtime.simulation
  | _ => True

theorem step_watched (host : ServerNetworkHost) (call : HostCall) (watched : Watched host)
    (silent : BringsNoInterest call) : Watched (hostStep transport host call) := by
  have progress := host_step_progress transport host watched.tidy call
  cases call with
  | connectSimulationOnlyClient clientId nowMs =>
      refine ⟨progress.tidy, submit_login_silent _ _ watched.silent, ?_⟩
      intro distinct
      have account := watched.accounted distinct
      exact ⟨account.told, account.shown, account.balance⟩
  | pumpClientMessages polled =>
      exact Runs.run_invariant (handleEnvelope transport) Watched
        (fun between envelope watched => envelope_watched transport between envelope watched)
        host watched polled
  | tickAndSendSnapshots order hostOrder nowMs =>
      exact tick_watched transport order hostOrder host nowMs watched
  | drainEvents =>
      refine ⟨progress.tidy, watched.silent, ?_⟩
      intro distinct
      have account := watched.accounted distinct
      exact ⟨account.told, account.shown, account.balance⟩
  | buildSnapshotFor =>
      refine ⟨progress.tidy, watched.silent, ?_⟩
      have recorded : (hostStep transport host .buildSnapshotFor).trace =
          host.trace ++ [.snapshotNumbered host.runtime.nextSnapshotId] := rfl
      refine accounted_step watched.accounted recorded fun account _ => ?_
      refine account_same account recorded ?_ (fun _ => rfl) rfl rfl rfl rfl rfl
      intro clientId happening member
      rw [List.mem_singleton.mp member]
      exact ⟨rfl, rfl⟩
  | changeRuntime runtime =>
      refine ⟨progress.tidy, silent, ?_⟩
      intro distinct
      have account := watched.accounted distinct
      exact ⟨account.told, account.shown, account.balance⟩

theorem new_watched (config : ServerNetworkHostConfig) : Watched (.new config) := by
  refine ⟨new_tidy config, fun _ member => (by cases member), fun _ => ⟨?_, rfl, rfl⟩⟩
  intro clientId
  refine ⟨fun _ => trivial, fun _ => rfl, ?_⟩
  intro entityId
  simp [knows, interestFor, ServerNetworkHost.new, lastListed]

theorem run_watched (config : ServerNetworkHostConfig) (calls : List HostCall)
    (silent : ∀ call ∈ calls, BringsNoInterest call) : Watched (hostRun transport config calls) :=
  Runs.run_invariant_of_mem (hostStep transport) Watched calls
    (fun call member host watched => step_watched transport host call watched (silent call member))
    _ (new_watched config)

end Calls

/-! Before the id counter wraps. -/

/-- The id counter has wrapped, or no entity was listed twice. -/
structure Unreused (host : ServerNetworkHost) : Prop where
  identified : WhileUnwrapped host.runtime.simulation
  distinct : allocations host.runtime.simulation < 2 ^ 32 - 1 → SentDistinct host.trace

theorem sent_distinct_append {first second : Trace} (left : SentDistinct first)
    (right : SentDistinct second) : SentDistinct (first ++ second) := by
  intro clientId happening member
  rcases List.mem_append.mp member with inFirst | inSecond
  · exact left clientId happening inFirst
  · exact right clientId happening inSecond

theorem sent_distinct_quiet {trace : Trace} (quiet : NoSnapshot trace) : SentDistinct trace := by
  intro clientId happening member snapshot accepted
  unfold acceptedFor at accepted
  rw [quiet clientId happening member] at accepted
  cases accepted

theorem step_unreused (transport : Transport) (host : ServerNetworkHost) (call : HostCall)
    (own : OwnCall call) (unreused : Unreused host) : Unreused (hostStep transport host call) := by
  have identified := host_step_identified transport host call own unreused.identified
  refine ⟨identified, ?_⟩
  intro unwrapped
  have before := unreused.distinct
    (Nat.lt_of_le_of_lt (host_step_aged transport host call own).created unwrapped)
  have quietly {added : Trace} (recorded : (hostStep transport host call).trace =
      host.trace ++ added) (quiet : NoSnapshot added) :
      SentDistinct (hostStep transport host call).trace := by
    rw [recorded]
    exact sent_distinct_append before (sent_distinct_quiet quiet)
  cases call with
  | connectSimulationOnlyClient clientId nowMs => exact before
  | pumpClientMessages polled =>
      obtain ⟨added, recorded, quiet⟩ := pump_no_snapshot transport polled host
      exact quietly recorded quiet
  | tickAndSendSnapshots order hostOrder nowMs =>
      obtain ⟨added, recorded, simulated, distinct⟩ := tick_hands transport order hostOrder nowMs
        (fun _ planned => (snapshotIds planned).Nodup) host (by
          intro clientId ticked _ same
          -- The ticked simulation is the one after the call.
          have isAfter := same.trans (tick_simulation transport order hostOrder host nowMs).symm
          apply planned_distinct
          · rw [isAfter]
            exact unwrapped
          · rw [isAfter]
            exact identified unwrapped)
      have recordedHere : (hostStep transport host
          (.tickAndSendSnapshots order hostOrder nowMs)).trace = host.trace ++ added := recorded
      rw [recordedHere]
      apply sent_distinct_append before
      intro clientId happening member snapshot accepted
      obtain ⟨sent, handed, isAccepted⟩ := Option.bind_eq_some_iff.mp accepted
      split at isAccepted
      · cases isAccepted
        exact distinct clientId happening member sent handed
      · cases isAccepted
  | drainEvents => exact before
  | buildSnapshotFor =>
      have recorded : (hostStep transport host .buildSnapshotFor).trace =
          host.trace ++ [.snapshotNumbered host.runtime.nextSnapshotId] := rfl
      refine quietly recorded ?_
      intro other happening member
      rw [List.mem_singleton.mp member]
      rfl
  | changeRuntime runtime => cases own

/-- Before the id counter wraps, no snapshot that is sent lists an entity twice. -/
theorem sent_distinct_unwrapped (transport : Transport) (config : ServerNetworkHostConfig)
    (calls : List HostCall) (own : ∀ call ∈ calls, OwnCall call)
    (unwrapped : allocations (hostRun transport config calls).runtime.simulation < 2 ^ 32 - 1) :
    SentDistinct (hostRun transport config calls).trace := by
  have start : Unreused (.new config) :=
    ⟨fun _ => identified_start _ rfl, fun _ _ _ member => (by cases member)⟩
  have unreused := Runs.run_invariant_of_mem (hostStep transport) Unreused calls
    (fun call member host unreused => step_unreused transport host call (own call member) unreused)
    _ start
  exact unreused.distinct unwrapped

/-- In every run of the host the interest events of a client alternate and leave
unmatched the entities of the last snapshot it was sent, and the statistics count
them, as long as no snapshot lists an entity twice. -/
theorem interest_reconstructs (transport : Transport) (config : ServerNetworkHostConfig)
    (calls : List HostCall) (silent : ∀ call ∈ calls, BringsNoInterest call)
    (distinct : SentDistinct (hostRun transport config calls).trace) :
    (∀ clientId entityId, Alternates true
      (changesOf entityId (interestOf clientId (hostRun transport config calls).trace))) ∧
    (∀ clientId entityId,
      unmatched (changesOf entityId
          (interestOf clientId (hostRun transport config calls).trace)) = true ↔
        entityId ∈ lastListed clientId (hostRun transport config calls).trace) ∧
    (hostRun transport config calls).stats.interestEnterEvents +
        (hostRun transport config calls).stats.interestStayEvents =
      (hostRun transport config calls).stats.snapshotEntitiesSent ∧
    (hostRun transport config calls).stats.interestEnterEvents =
      (hostRun transport config calls).stats.interestExitEvents +
        knownTotal (hostRun transport config calls) := by
  have account := (run_watched transport config calls silent).accounted distinct
  refine ⟨fun clientId => (account.told clientId).alternates, ?_, account.shown, account.balance⟩
  intro clientId entityId
  rw [(account.told clientId).known]
  exact (account.told clientId).listed entityId

/-- Client 2 joins after client 1 was sent a snapshot, and 1 is sent another. -/
def joinedCalls : List HostCall :=
  [joinCall 1, .tickAndSendSnapshots .stored .stored 16, joinCall 2,
   .tickAndSendSnapshots .stored .stored 32]

theorem interest_reconstructs_joined :
    (∀ clientId entityId, Alternates true (changesOf entityId
      (interestOf clientId (hostRun (fun _ _ => true) {} joinedCalls).trace))) ∧
    interestOf 1 (hostRun (fun _ _ => true) {} joinedCalls).trace =
      [({ value := 1 }, true), ({ value := 2 }, true)] := by
  have own : ∀ call ∈ joinedCalls, OwnCall call := by simp [joinedCalls, joinCall, OwnCall]
  have silent : ∀ call ∈ joinedCalls, BringsNoInterest call := by
    simp [joinedCalls, joinCall, BringsNoInterest]
  have unwrapped : allocations
      (hostRun (fun _ _ => true) {} joinedCalls).runtime.simulation < 2 ^ 32 - 1 := by
    decide +kernel
  exact ⟨(interest_reconstructs (fun _ _ => true) {} joinedCalls silent
    (sent_distinct_unwrapped (fun _ _ => true) {} joinedCalls own unwrapped)).1, by decide +kernel⟩

end Brawololo.InterestAccounting
