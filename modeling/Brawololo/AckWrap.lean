import Brawololo.AckProgress

/-!
The snapshot counter comes round. A host that serves one client numbers one
snapshot in every tick; when the client has acknowledged the snapshot with the
largest id, the next one has id 0, and its acknowledgement is refused.
-/

namespace Brawololo.AckWrap

open GameTypes EntityStore NetworkProtocol Serialization Simulation Replication Server
open ServerNetworkHost HostTurns AckProgress

/-! The run. -/

/-- The tick after `count` ticks at the interval of the schedule. -/
def tickAt (count : Nat) : HostCall :=
  .tickAndSendSnapshots .stored .stored (UInt64.ofNat (16 * (count + 1)))

def ticks : Nat → List HostCall
  | 0 => []
  | count + 1 => ticks count ++ [tickAt count]

/-- Client 1 joins, is sent a snapshot in every tick, acknowledges the last and
is sent one more. -/
def longCalls (count : Nat) : List HostCall :=
  joinCall 1 :: ticks count ++
    [.pumpClientMessages [ackEnvelope (UInt32.ofNat count)], tickAt count]

def takesAll : Transport := fun _ _ => true

/-! One tick. -/

/-- What a turn that sends client 1 a snapshot does. -/
structure Served (host : ServerNetworkHost) (core : ServerClientReplicationState)
    (nowMs : TimestampMs) (planned : SnapshotDTO) (later : Trace) (after : ServerNetworkHost) :
    Prop where
  config : after.config = host.config
  clients : after.clients = host.clients
  counter : after.runtime.nextSnapshotId = host.runtime.nextSnapshotId + 1
  cache : after.baselineCache = host.baselineCache.store 1 planned
  trace : ∃ earlier baseline, after.trace =
    earlier ++ .handed 1 (.snapshot planned baseline) true :: later
  quiet : NoSnapshot later
  unacked : ∀ snapshotId, Happening.snapshotAcked 1 snapshotId ∉ later
  core : ∃ now, coreFor after 1 = some now ∧ now.ackedSnapshot = core.ackedSnapshot ∧
    now.nextSnapshotSendAtMs = nowMs + host.config.snapshotSendIntervalMs

theorem core_marked (host : ServerNetworkHost) (nowMs : TimestampMs)
    {core : ServerClientReplicationState} (has : coreFor host 1 = some core) :
    coreFor (host.markSnapshotSent 1 nowMs) 1 = some { core with
      nextSnapshotSendAtMs := nowMs + host.config.snapshotSendIntervalMs } := by
  obtain ⟨state, isState, rfl⟩ := Option.map_eq_some_iff.mp has
  unfold coreFor markSnapshotSent updateClient
  dsimp only
  rw [get_modify, if_pos rfl, isState]
  rfl

theorem turn_served (order : LoopOrder) (hostOrder : HostOrder) (nowMs : TimestampMs)
    (host : ServerNetworkHost) {core : ServerClientReplicationState}
    (has : coreFor host 1 = some core) (isDue : core.nextSnapshotSendAtMs ≤ nowMs) :
    ∃ planned later, planned.snapshotId = host.runtime.nextSnapshotId ∧
      Served host core nowMs planned later
        (host.snapshotTurn takesAll order hostOrder nowMs 1) := by
  obtain ⟨state, isState, rfl⟩ := Option.map_eq_some_iff.mp has
  have turned := snapshot_turn takesAll order hostOrder nowMs host 1
  generalize host.snapshotTurn takesAll order hostOrder nowMs 1 = after at turned ⊢
  cases turned with
  | skipped notDue =>
      unfold shouldSendSnapshot at notDue
      rw [isState] at notDue
      exact absurd isDue (of_decide_eq_false notDue)
  -- this transport takes everything
  | refused due answer => cases answer
  | sent due answer missed followed follows =>
      refine ⟨(host.plannedSnapshot order 1).snapshot, ?_⟩
      cases follows with
      | unknown absent =>
          have hasNone : host.clientStateById[(1 : ClientId)]? = none := absent
          rw [isState] at hasNone
          cases hasNone
      | followed found tracker frame sent followed isFound updated only quiet told =>
          refine ⟨sent, rfl, ?_⟩
          have record := only.trace.trans ((congrArg (· ++ sent)
            (handed_over_trace host 1 _ _ true)).trans (List.append_assoc _ _ _))
          -- the interest events change only the tracker of the client
          have tracked : coreFor ((handedOver host 1 (host.plannedSnapshot order 1).snapshot
              (host.deltaBaseline 1 (host.plannedSnapshot order 1).snapshot) true).updateClient 1
                fun state => { state with interest := tracker }) 1 =
              some { coreOf state with interest := tracker } := by
            unfold coreFor updateClient
            dsimp only
            rw [get_modify, if_pos rfl]
            change ((host.clientStateById[(1 : ClientId)]?).map _).map _ = _
            rw [isState]
            rfl
          have kept := (only.states 1).trans tracked
          have marked := core_marked followed nowMs kept
          constructor
          case config => exact only.config
          case clients => exact only.clients
          case counter => exact congrArg ServerRuntime.nextSnapshotId only.runtime
          case cache =>
            exact congrArg (fun cache => cache.store 1 (host.plannedSnapshot order 1).snapshot)
              only.baselines
          case trace =>
            refine ⟨host.trace ++ [.snapshotNumbered host.runtime.nextSnapshotId],
              host.deltaBaseline 1 (host.plannedSnapshot order 1).snapshot, record.trans ?_⟩
            rw [List.append_assoc]
            rfl
          case quiet => exact quiet
          case unacked => exact fun snapshotId => only.unacked 1 snapshotId
          case core =>
            refine ⟨_, marked, rfl, ?_⟩
            change nowMs + followed.config.snapshotSendIntervalMs = _
            rw [only.config]
            rfl

/-- Sending events afterwards leaves it served. -/
theorem served_events {host middle after : ServerNetworkHost}
    {core : ServerClientReplicationState} {nowMs : TimestampMs} {planned : SnapshotDTO}
    {later sent : Trace} (served : Served host core nowMs planned later middle)
    (only : EventsOnly sent middle after) (quiet : NoSnapshot sent) :
    Served host core nowMs planned (later ++ sent) after := by
  constructor
  case config => exact only.config.trans served.config
  case clients => exact only.clients.trans served.clients
  case counter =>
    rw [only.runtime]
    exact served.counter
  case cache => exact only.baselines.trans served.cache
  case trace =>
    obtain ⟨earlier, baseline, recorded⟩ := served.trace
    refine ⟨earlier, baseline, ?_⟩
    rw [only.trace, recorded, List.append_assoc, List.cons_append]
  case quiet => exact no_snapshot_append served.quiet quiet
  case unacked =>
    intro snapshotId member
    rcases List.mem_append.mp member with inLater | inSent
    · exact served.unacked snapshotId inLater
    · exact only.unacked 1 snapshotId inSent
  case core =>
    rw [only.states]
    exact served.core

theorem tick_served (order : LoopOrder) (hostOrder : HostOrder) (nowMs : TimestampMs)
    (host : ServerNetworkHost) {core : ServerClientReplicationState} (alone : host.clients = [1])
    (has : coreFor host 1 = some core) (isDue : core.nextSnapshotSendAtMs ≤ nowMs) :
    ∃ planned later, planned.snapshotId = host.runtime.nextSnapshotId ∧
      Served host core nowMs planned later
        (host.tickAndSendSnapshots takesAll order hostOrder nowMs) := by
  obtain ⟨planned, later, isId, turned⟩ := turn_served order hostOrder nowMs
    { host with runtime := (host.runtime.tick order).drainEvents.1 } has isDue
  have oneTurn (start : ServerNetworkHost) :
      host.clients.foldl (snapshotTurn takesAll order hostOrder nowMs) start =
        start.snapshotTurn takesAll order hostOrder nowMs 1 := by
    rw [alone]
    rfl
  obtain ⟨sent, broadcast, quiet⟩ := broadcast_no_snapshot takesAll
    (host.clients.foldl (snapshotTurn takesAll order hostOrder nowMs)
      { host with runtime := (host.runtime.tick order).drainEvents.1 })
    (host.runtime.tick order).drainEvents.2 nowMs
  obtain ⟨resent, resends, uninteresting⟩ := resend_only takesAll hostOrder
    ((host.clients.foldl (snapshotTurn takesAll order hostOrder nowMs)
      { host with runtime := (host.runtime.tick order).drainEvents.1 }).broadcastReliableEvents
        takesAll (host.runtime.tick order).drainEvents.2 nowMs) nowMs
  have quietAll : NoSnapshot (sent ++ resent) := no_snapshot_append quiet
    fun other happening member => (uninteresting happening member).2 other
  have events := broadcast.trans resends
  rw [← oneTurn] at turned
  have served := served_events turned events quietAll
  exact ⟨planned, _, isId, served.config, served.clients, served.counter, served.cache,
    served.trace, served.quiet, served.unacked, served.core⟩

/-- The host after this many ticks, for client 1 alone. -/
structure Serving (host : ServerNetworkHost) (count : Nat) (acked : SnapshotId) : Prop where
  config : host.config = {}
  cacheConfig : host.baselineCache.config = {}
  alone : host.clients = [1]
  counter : host.runtime.nextSnapshotId = UInt32.ofNat (count + 1)
  core : ∃ core, coreFor host 1 = some core ∧ core.ackedSnapshot = acked ∧
    core.nextSnapshotSendAtMs ≤ UInt64.ofNat (16 * (count + 1))

theorem due_after (count : Nat) :
    UInt64.ofNat (16 * (count + 1)) + 16 = UInt64.ofNat (16 * (count + 1 + 1)) := by
  rw [Nat.mul_succ 16 (count + 1), UInt64.ofNat_add]
  rfl

theorem served_due {host after : ServerNetworkHost} {core : ServerClientReplicationState}
    {nowMs : TimestampMs} {planned : SnapshotDTO} {later : Trace}
    (served : Served host core nowMs planned later after)
    (holds : 0 < host.baselineCache.config.maxBaselinesPerClient) : AckDue after 1 planned := by
  obtain ⟨earlier, baseline, recorded⟩ := served.trace
  refine ⟨⟨earlier, baseline, later, recorded, quiet_accepted served.quiet 1,
    served.unacked planned.snapshotId⟩, ?_⟩
  rw [served.cache]
  unfold SnapshotBaselineCache.baselines SnapshotBaselineCache.store
  dsimp only
  rw [get_insert, if_pos rfl]
  exact last_mem_pushBounded holds _ planned

/-- A tick sends client 1 the snapshot of the next id. -/
theorem tick_serving {host : ServerNetworkHost} {count : Nat} {acked : SnapshotId}
    (serving : Serving host count acked) :
    Serving (hostStep takesAll host (tickAt count)) (count + 1) acked ∧
      ∃ planned, planned.snapshotId = UInt32.ofNat (count + 1) ∧
        AckDue (hostStep takesAll host (tickAt count)) 1 planned := by
  obtain ⟨core, has, isAcked, isDue⟩ := serving.core
  obtain ⟨planned, later, isId, served⟩ := tick_served .stored .stored
    (UInt64.ofNat (16 * (count + 1))) host serving.alone has isDue
  have holds : 0 < host.baselineCache.config.maxBaselinesPerClient := by
    rw [serving.cacheConfig]
    decide
  refine ⟨?_, planned, isId.trans serving.counter, served_due served holds⟩
  have counter := served.counter
  obtain ⟨now, hasNow, nowAcked, nowDue⟩ := served.core
  rw [serving.config] at nowDue
  constructor
  case config => exact served.config.trans serving.config
  case cacheConfig => exact (congrArg SnapshotBaselineCache.config served.cache).trans serving.cacheConfig
  case alone => exact served.clients.trans serving.alone
  case counter =>
    rw [serving.counter, ← UInt32.ofNat_one, ← UInt32.ofNat_add] at counter
    exact counter
  case core =>
    refine ⟨now, hasNow, nowAcked.trans isAcked, ?_⟩
    rw [nowDue]
    exact UInt64.le_of_eq (due_after count)

/-! The whole run. -/

theorem joined_serving : Serving (hostStep takesAll (.new {}) (joinCall 1)) 0 0 where
  config := rfl
  cacheConfig := rfl
  alone := rfl
  counter := rfl
  core := ⟨{ clientId := 1 }, rfl, rfl, UInt64.zero_le⟩

/-- While client 1 acknowledges nothing, every tick sends it the next id. -/
theorem ticks_serving (count : Nat) :
    Serving (hostRun takesAll {} (joinCall 1 :: ticks count)) count 0 ∧
      (count ≠ 0 → ∃ planned, planned.snapshotId = UInt32.ofNat count ∧
        AckDue (hostRun takesAll {} (joinCall 1 :: ticks count)) 1 planned) := by
  induction count with
  | zero => exact ⟨joined_serving, fun nonzero => absurd rfl nonzero⟩
  | succ count ih =>
      have split : hostRun takesAll {} (joinCall 1 :: ticks (count + 1)) =
          hostStep takesAll (hostRun takesAll {} (joinCall 1 :: ticks count)) (tickAt count) := by
        unfold hostRun
        rw [ticks, ← List.cons_append, Runs.run_append]
        rfl
      rw [split]
      obtain ⟨serving, due⟩ := tick_serving ih.1
      exact ⟨serving, fun _ => due⟩

theorem ack_envelope_ok (snapshotId : SnapshotId) : (ackEnvelope snapshotId).Ok := by
  rw [envelope_ok_iff]
  refine ⟨rfl, ?_, rfl⟩
  unfold ackEnvelope
  rw [snapshot_ack_length]
  decide

/-- Polling an acknowledgement is handling it. -/
theorem ack_pumped (host : ServerNetworkHost) {envelope : NetworkEnvelope} (isOk : envelope.Ok)
    (isAck : envelope.messageClass = .snapshotAck) :
    hostStep takesAll host (.pumpClientMessages [envelope]) =
      host.handleSnapshotAckEnvelope envelope := by
  have polled : hostStep takesAll host (.pumpClientMessages [envelope]) =
      host.handleEnvelope takesAll envelope := rfl
  rw [polled]
  unfold handleEnvelope
  rw [if_neg (not_not.mpr isOk), isAck]

/-- The client's newest snapshot is acknowledged. -/
theorem ack_serving {host : ServerNetworkHost} {count : Nat} {planned : SnapshotDTO}
    (serving : Serving host count 0) (cached : planned ∈ host.baselineCache.baselines 1)
    (positive : 0 < planned.snapshotId) :
    Serving (hostStep takesAll host (.pumpClientMessages [ackEnvelope planned.snapshotId]))
      count planned.snapshotId := by
  obtain ⟨core, has, isAcked, isDue⟩ := serving.core
  obtain ⟨state, isState, rfl⟩ := Option.map_eq_some_iff.mp has
  obtain ⟨ack, isAck, isClient, isId⟩ := ack_envelope_acknowledges planned.snapshotId
  have notAcked : state.ackedSnapshot = 0 := isAcked
  have found := find_cached cached
  rw [← isClient] at isState
  rw [← isClient, ← isId] at found
  have handled := ack_of_some host (ackEnvelope planned.snapshotId) isAck isState found
  rw [notAcked, isId, if_neg (UInt32.not_le.mpr positive)] at handled
  rw [ack_pumped host (ack_envelope_ok _) rfl, handled]
  rw [isClient] at isState ⊢
  constructor
  case config => exact serving.config
  case cacheConfig => exact serving.cacheConfig
  case alone => exact serving.alone
  case counter => exact serving.counter
  case core =>
    refine ⟨coreOf { state with ackedSnapshot := planned.snapshotId }, ?_, rfl, isDue⟩
    unfold coreFor countStats record updateClient
    dsimp only
    rw [get_modify, if_pos rfl, isState]
    unfold ServerClientReplicationState.acknowledgeSnapshot
    simp only [Option.map_some, notAcked, if_neg (UInt32.not_le.mpr positive)]

/-- The host that has numbered every id: its client has acknowledged the last. -/
theorem wrapped_fails {host : ServerNetworkHost} {count : Nat} {newest : SnapshotDTO}
    (wraps : UInt32.ofNat (count + 1) = 0) (serving : Serving host count newest.snapshotId) :
    ∃ planned, AckDue (hostStep takesAll host (tickAt count)) 1 planned ∧
      Acknowledges (ackEnvelope 0) 1 planned.snapshotId ∧
      ¬ AckWorks takesAll (hostStep takesAll host (tickAt count)) 1 planned.snapshotId
        (ackEnvelope 0) := by
  obtain ⟨serves, planned, isPlanned, due⟩ := tick_serving serving
  have isZero : planned.snapshotId = 0 := isPlanned.trans wraps
  have acknowledges : Acknowledges (ackEnvelope 0) 1 planned.snapshotId := by
    rw [isZero]
    exact ack_envelope_acknowledges 0
  obtain ⟨core, has, _⟩ := serves.core
  obtain ⟨state, isState, _⟩ := Option.map_eq_some_iff.mp has
  have known : ((hostStep takesAll host (tickAt count)).clientStateById[(1 : ClientId)]?).isSome :=
    Option.isSome_iff_exists.mpr ⟨state, isState⟩
  refine ⟨planned, due, acknowledges, ?_⟩
  rw [ack_works_iff takesAll _ due.cached known acknowledges, isZero]
  exact UInt32.not_lt.mpr UInt32.zero_le

theorem long_run_fails {count : Nat} (positive : 0 < UInt32.ofNat count)
    (wraps : UInt32.ofNat (count + 1) = 0) :
    ∃ planned, AckDue (hostRun takesAll {} (longCalls count)) 1 planned ∧
      Acknowledges (ackEnvelope 0) 1 planned.snapshotId ∧
      ¬ AckWorks takesAll (hostRun takesAll {} (longCalls count)) 1 planned.snapshotId
        (ackEnvelope 0) := by
  obtain ⟨serving, sent⟩ := ticks_serving count
  obtain ⟨newest, isNewest, due⟩ := sent (by
    rintro rfl
    exact absurd positive (by decide))
  rw [← isNewest] at positive
  have run : hostRun takesAll {} (longCalls count) = hostStep takesAll (hostStep takesAll
      (hostRun takesAll {} (joinCall 1 :: ticks count))
      (.pumpClientMessages [ackEnvelope newest.snapshotId])) (tickAt count) := by
    rw [isNewest]
    unfold hostRun longCalls
    rw [Runs.run_append, Runs.run_cons, Runs.run_cons, Runs.run_nil]
  rw [run]
  exact wrapped_fails wraps (ack_serving serving due.cached positive)

/-- After a run that has numbered every id, the acknowledgement of the last
snapshot is refused. -/
theorem last_ack_refused_after_wrap :
    ∃ planned, AckDue (hostRun takesAll {} (longCalls 4294967295)) 1 planned ∧
      Acknowledges (ackEnvelope 0) 1 planned.snapshotId ∧
      ¬ AckWorks takesAll (hostRun takesAll {} (longCalls 4294967295)) 1 planned.snapshotId
        (ackEnvelope 0) :=
  long_run_fails (by decide) (by decide)

end Brawololo.AckWrap
