import Brawololo.GameBooks

/-!
What the server of a game hands over for a client is what the client receives:
the snapshots and the events that the hub took, decoded as they were planned, in
order and once. What a client acknowledges it has applied, so the baseline of a
snapshot is one its client knows.
-/

namespace Brawololo.GameDelivery

open GameTypes EntityStore NetworkEvents NetworkProtocol Client Server
open LoopbackHub HostTransports HubTransports HostTurns HostBookkeeping DeliveryBooks
open DeltaBaselines InputAccounting NetworkedGames SessionExchanges ServerBooks GameBooks
open HubDeliveries

/-! What arrives. -/

/-- The snapshots that a client has applied. -/
def snapshotsApplied (game : NetworkedGame) (clientId : ClientId) : List SnapshotDTO :=
  (traceOf game clientId).filterMap appliedIn

/-- The snapshots that the hub holds for a client. -/
def snapshotsQueued (game : NetworkedGame) (clientId : ClientId) : List SnapshotDTO :=
  (queuedFor game.record.hub (.client clientId)).filterMap snapshotIn

/-- The snapshots that the server has sent to a client. -/
def snapshotsSent (game : NetworkedGame) (clientId : ClientId) : List SnapshotDTO :=
  game.serverHost.trace.filterMap (acceptedFor clientId)

def eventsSurfaced (game : NetworkedGame) (clientId : ClientId) : List NetworkEventDTO :=
  (traceOf game clientId).filterMap surfacedIn

def eventsQueued (game : NetworkedGame) (clientId : ClientId) : List NetworkEventDTO :=
  (queuedFor game.record.hub (.client clientId)).filterMap fun envelope =>
    (eventIn envelope).map Prod.fst

def eventsSent (game : NetworkedGame) (clientId : ClientId) : List NetworkEventDTO :=
  game.serverHost.trace.filterMap (eventFor clientId)

section Game

variable {config : ServerNetworkHostConfig} {game : NetworkedGame}

theorem snapshots_split (book : GameBook config game) (clientId : ClientId) :
    snapshotsSent game clientId =
      snapshotsApplied game clientId ++ snapshotsQueued game clientId := by
  obtain ⟨calls, host⟩ := book.host
  exact applied_sent host (book.clients clientId)

theorem events_split (book : GameBook config game) (clientId : ClientId) :
    eventsSent game clientId = eventsSurfaced game clientId ++ eventsQueued game clientId := by
  obtain ⟨calls, host⟩ := book.host
  have surfaced := (book.clients clientId).booked.surfaced
  unfold eventsSent eventsSurfaced eventsQueued
  rw [← taken_events host.truthful, host.taken clientId, List.filterMap_append]
  exact congrArg (· ++ _) surfaced.symm

/-! The ids of the snapshots. -/

theorem ids_increase {count : Nat} (few : count < 2 ^ 32) : (idsUpTo count).Pairwise (· < ·) := by
  unfold idsUpTo
  rw [List.pairwise_map]
  refine List.Pairwise.imp_of_mem ?_ List.pairwise_lt_range
  intro first second isFirst isSecond before
  have firstBelow := List.mem_range.mp isFirst
  have secondBelow := List.mem_range.mp isSecond
  rw [UInt32.lt_iff_toNat_lt, UInt32.toNat_ofNat', UInt32.toNat_ofNat']
  omega

theorem host_run_baselined (transport : Transport) (config : ServerNetworkHostConfig)
    (calls : List HostCall) : Baselined (booksOf (hostRun transport config calls)) := by
  have moves := (host_run_progress transport config calls).moves
  rw [new_books] at moves
  exact moves_invariant Baselined
    (fun _ after move baselined => move_baselined _ after move baselined) moves baselined_start

theorem game_baselined (book : GameBook config game) : Baselined (booksOf game.serverHost) := by
  obtain ⟨calls, host⟩ := book.host
  rw [host.ran]
  exact host_run_baselined hubAnswers config calls

theorem sent_ids_increase (book : GameBook config game)
    (few : snapshotsBuilt game.serverHost.trace < 2 ^ 32) (clientId : ClientId) :
    (snapshotsSent game clientId).Pairwise fun first second =>
      first.snapshotId < second.snapshotId := by
  have baselined := game_baselined book
  obtain ⟨count, isNumbers, _⟩ := baselined.numbers
  have numbers : game.serverHost.trace.filterMap numberedSnapshot = idsUpTo count := isNumbers
  have small : count < 2 ^ 32 := by
    unfold snapshotsBuilt at few
    rw [numbers] at few
    simpa [idsUpTo] using few
  have ordered : (game.serverHost.trace.filterMap handedSnapshot).Sublist
      (game.serverHost.trace.filterMap numberedSnapshot) := baselined.ordered
  rw [numbers] at ordered
  have within : ((snapshotsSent game clientId).map fun snapshot => snapshot.snapshotId).Sublist
      (game.serverHost.trace.filterMap handedSnapshot) := by
    unfold snapshotsSent
    rw [List.map_filterMap]
    apply filter_map_sublist
    intro happening snapshotId found
    obtain ⟨snapshot, accepted, named⟩ := Option.map_eq_some_iff.mp found
    obtain ⟨baseline, rfl⟩ := accepted_for accepted
    exact congrArg some named
  exact List.pairwise_map.mp ((ids_increase small).sublist (within.trans ordered))

theorem sent_acks_grow (book : GameBook config game) (clientId : ClientId) :
    (snapshotsSent game clientId).Pairwise fun first second =>
      first.ackedInputSequence ≤ second.ackedInputSequence := by
  obtain ⟨calls, host⟩ := book.host
  have growing := (host.account clientId).growing
  rw [account_run_host, ← host.ran] at growing
  exact List.pairwise_map.mp (growing.sublist (accepted_acks clientId game.serverHost.trace))

/-- Two snapshots of one id that were sent to a client are one. -/
theorem sent_once (book : GameBook config game)
    (few : snapshotsBuilt game.serverHost.trace < 2 ^ 32) {clientId : ClientId}
    {first second : SnapshotDTO} (isFirst : first ∈ snapshotsSent game clientId)
    (isSecond : second ∈ snapshotsSent game clientId)
    (same : first.snapshotId = second.snapshotId) : first = second := by
  have baselined := game_baselined book
  obtain ⟨firstHappening, firstMember, firstAccepted⟩ := List.mem_filterMap.mp isFirst
  obtain ⟨secondHappening, secondMember, secondAccepted⟩ := List.mem_filterMap.mp isSecond
  obtain ⟨_, rfl⟩ := accepted_for firstAccepted
  obtain ⟨_, rfl⟩ := accepted_for secondAccepted
  have one := handed_once baselined.ordered baselined.numbers few firstMember secondMember
    (congrArg some same) rfl
  cases one
  rfl

/-- An event that was handed over for the client, whatever the answer. -/
def handedEventFor (clientId : ClientId) : Happening → Option NetworkEventDTO
  | .handed receiver (.event event _) _ => if receiver = clientId then some event else none
  | _ => none

def eventsHanded (game : NetworkedGame) (clientId : ClientId) : List NetworkEventDTO :=
  game.serverHost.trace.filterMap (handedEventFor clientId)

/-- The hub takes every event for a client with an id. -/
theorem events_taken (book : GameBook config game) {clientId : ClientId}
    (addressed : clientId ≠ 0) : eventsHanded game clientId = eventsSent game clientId := by
  obtain ⟨calls, host⟩ := book.host
  apply List.filterMap_congr
  intro happening member
  cases happening with
  | handed receiver message accepted =>
      cases message with
      | event event isResend =>
          have answer := host.truthful receiver (.event event isResend) accepted member
          unfold handedEventFor eventFor
          by_cases mine : receiver = clientId
          · have valid := event_envelope_ok receiver event isResend
            have isTaken : accepted = true := by
              rw [answer]
              exact decide_eq_true ⟨valid, fun zero => addressed (mine.symm.trans zero)⟩
            rw [isTaken]
          · cases accepted <;> simp [mine]
      | snapshot planned baseline => cases accepted <;> rfl
      | timeSync response => cases accepted <;> rfl
  | snapshotNumbered snapshotId => rfl
  | eventNumbered eventId => rfl
  | snapshotAcked other snapshotId => rfl
  | eventAcked other eventId => rfl

end Game

/-! Results. -/

/-- In every run of a game a client applies the snapshots that the server has
sent to it, each once, in the order they were sent and as they were planned, and
those it has not applied wait for it. Their ids grow, and so do the inputs they
acknowledge. -/
theorem snapshots_arrive (config : ServerNetworkHostConfig) (calls : List GameCall)
    (clientId : ClientId) :
    snapshotsSent (gameRun config calls) clientId =
        snapshotsApplied (gameRun config calls) clientId ++
          snapshotsQueued (gameRun config calls) clientId ∧
      (snapshotsBuilt (gameRun config calls).serverHost.trace < 2 ^ 32 →
        (snapshotsSent (gameRun config calls) clientId).Pairwise fun first second =>
          first.snapshotId < second.snapshotId) ∧
      (snapshotsSent (gameRun config calls) clientId).Pairwise fun first second =>
        first.ackedInputSequence ≤ second.ackedInputSequence := by
  have book := game_run_book config calls
  exact ⟨snapshots_split book clientId, fun few => sent_ids_increase book few clientId,
    sent_acks_grow book clientId⟩

/-- A client joins, fires, and is sent two snapshots, of which it has polled one. -/
def tourCalls : List GameCall :=
  [.client 1 (.connect 0), .client 1 (.submitInput { fire := true } 0), .pumpClientMessages 8,
    .tickAndSendSnapshots .stored .stored 16, .client 1 (.tickFixed .stored { polls := 8 } 16),
    .pumpClientMessages 8, .tickAndSendSnapshots .stored .stored 32]

/-- Every event that the server hands over for a client, first or again, the
client surfaces in the order it was handed over, and those it has not surfaced
wait for it. -/
theorem events_arrive (config : ServerNetworkHostConfig) (calls : List GameCall)
    (clientId : ClientId) (addressed : clientId ≠ 0) :
    eventsHanded (gameRun config calls) clientId =
      eventsSurfaced (gameRun config calls) clientId ++
        eventsQueued (gameRun config calls) clientId := by
  have book := game_run_book config calls
  rw [events_taken book addressed]
  exact events_split book clientId

theorem events_arrive_tour :
    (eventsSurfaced (gameRun {} tourCalls) 1).length = 3 ∧
      eventsHanded (gameRun {} tourCalls) 1 =
        eventsSurfaced (gameRun {} tourCalls) 1 ++ eventsQueued (gameRun {} tourCalls) 1 :=
  ⟨by decide +kernel, events_arrive {} tourCalls 1 (by decide)⟩

/-- What the server has as acknowledged the client has applied or surfaced, and
the baseline of every delta-eligible snapshot is one that its client has applied
with the same content. -/
theorem baselines_applied (config : ServerNetworkHostConfig) (calls : List GameCall)
    (few : snapshotsBuilt (gameRun config calls).serverHost.trace < 2 ^ 32) (clientId : ClientId) :
    (∀ snapshotId, Happening.snapshotAcked clientId snapshotId ∈
        (gameRun config calls).serverHost.trace →
      ∃ snapshot ∈ snapshotsApplied (gameRun config calls) clientId,
        snapshot.snapshotId = snapshotId) ∧
    (∀ eventId, Happening.eventAcked clientId eventId ∈ (gameRun config calls).serverHost.trace →
      ∃ networkEvent ∈ eventsSurfaced (gameRun config calls) clientId,
        networkEvent.eventId = eventId) ∧
    ∀ planned baseline accepted, Happening.handed clientId (.snapshot planned baseline) accepted ∈
        (gameRun config calls).serverHost.trace →
      planned.deliveryKind = .deltaEligible →
      ∃ known ∈ snapshotsApplied (gameRun config calls) clientId,
        baseline = some known ∧ known.snapshotId = planned.baselineId := by
  have book := game_run_book config calls
  generalize gameRun config calls = game at book few ⊢
  have acked : ∀ snapshotId, Happening.snapshotAcked clientId snapshotId ∈
      game.serverHost.trace →
      ∃ snapshot ∈ snapshotsApplied game clientId, snapshot.snapshotId = snapshotId := by
    intro snapshotId member
    obtain ⟨snapshot, applied, named⟩ := book.acks.snapshots clientId snapshotId member
    exact ⟨snapshot, List.mem_filterMap.mpr ⟨_, applied, rfl⟩, named⟩
  refine ⟨acked, ?_, ?_⟩
  · intro eventId member
    obtain ⟨networkEvent, surfaced, named⟩ := book.acks.events clientId eventId member
    exact ⟨networkEvent, List.mem_filterMap.mpr ⟨_, surfaced, rfl⟩, named⟩
  · intro planned baseline accepted member kind
    obtain ⟨earlier, later, split⟩ := List.append_of_mem member
    have safe := (game_baselined book).safe few earlier _ later split clientId planned baseline
      accepted rfl
    cases safe with
    | full isFull zero =>
        rw [kind] at isFull
        cases isFull
    | delta sent isDelta nonzero names highest only matched =>
        have within : ∀ happening ∈ earlier, happening ∈ game.serverHost.trace := by
          intro happening inEarlier
          rw [split]
          exact List.mem_append_left _ inEarlier
        obtain ⟨known, isKnown, named⟩ := acked planned.baselineId (within _ highest.acked)
        obtain ⟨itsBaseline, wasSent⟩ := only.accepted
        have isSent : sent ∈ snapshotsSent game clientId := by
          refine List.mem_filterMap.mpr ⟨_, within _ wasSent, ?_⟩
          simp [acceptedFor, snapshotFor]
        have knownSent : known ∈ snapshotsSent game clientId := by
          rw [snapshots_split book clientId]
          exact List.mem_append_left _ isKnown
        have same : sent = known :=
          sent_once book few isSent knownSent (names.trans named.symm)
        exact ⟨known, isKnown, congrArg some same, named⟩

theorem baselines_applied_tour :
    Happening.snapshotAcked 1 1 ∈ (gameRun {} tourCalls).serverHost.trace ∧
      ∃ snapshot ∈ snapshotsApplied (gameRun {} tourCalls) 1, snapshot.snapshotId = 1 := by
  have acked : Happening.snapshotAcked 1 1 ∈ (gameRun {} tourCalls).serverHost.trace := by
    decide +kernel
  exact ⟨acked, (baselines_applied {} tourCalls (by decide +kernel) 1).1 1 acked⟩

end Brawololo.GameDelivery
