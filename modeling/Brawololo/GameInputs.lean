import Brawololo.GameDelivery

/-!
The inputs of a client from `SubmitInput` to the tick that consumes them. Over
the hub none is lost, repeated or overtaken by another, and an input that has
left the pending ones of its client has been consumed.
-/

namespace Brawololo.GameInputs

open GameTypes EntityStore NetworkProtocol Serialization Simulation Simulation.GameSimulation
open SimulationStages Client Server LoopbackHub HostTransports HubTransports HostTurns LoginOrder
open ClientBooks ApplicationBooks DeltaBaselines InputAccounting NetworkedGames
open SessionExchanges ServerBooks GameBooks GameDelivery

/-! Numbered inputs. -/

/-- The inputs are numbered upwards from one. -/
structure Numbered (inputs : List ClientInputPacket) : Prop where
  positive : ∀ packet ∈ inputs, 0 < packet.header.sequence
  increasing : inputs.Pairwise fun first second => first.header.sequence < second.header.sequence

theorem Numbered.sublist {inputs some : List ClientInputPacket} (numbered : Numbered inputs)
    (among : some.Sublist inputs) : Numbered some :=
  ⟨fun packet member => numbered.positive packet (among.subset member),
    numbered.increasing.sublist among⟩

theorem numbered_up_to {inputs : List ClientInputPacket}
    (sequences : inputs.map (fun packet => packet.header.sequence) = idsUpTo inputs.length)
    (few : inputs.length < 2 ^ 32) : Numbered inputs := by
  constructor
  · intro packet member
    have isId : packet.header.sequence ∈ idsUpTo inputs.length := by
      rw [← sequences]
      exact List.mem_map_of_mem member
    obtain ⟨index, isIndex, isSequence⟩ := List.mem_map.mp isId
    have below := List.mem_range.mp isIndex
    rw [← isSequence, UInt32.lt_iff_toNat_lt, UInt32.toNat_ofNat']
    simp only [UInt32.toNat_zero]
    omega
  · apply List.pairwise_map.mp
    rw [sequences]
    exact ids_increase few

/-- Numbered inputs are all fresh when they come in order. -/
theorem fresh_numbered {inputs : List ClientInputPacket} (numbered : Numbered inputs) :
    fresh inputs = inputs := by
  induction inputs using List.reverseRecOn with
  | nil => rfl
  | append_singleton inputs last ih =>
      have before := numbered.sublist (List.sublist_append_left inputs [last])
      have isFresh : IsFresh inputs last :=
        ⟨numbered.positive last (by simp), fun other member =>
          (List.pairwise_append.mp numbered.increasing).2.2 other member last (by simp)⟩
      rw [fresh_concat, if_pos isFresh, ih before]

/-- Of numbered inputs, those up to the last of the first ones are the first ones. -/
theorem numbered_split {first second : List ClientInputPacket}
    (numbered : Numbered (first ++ second)) {packet : ClientInputPacket}
    (member : packet ∈ first ++ second) (covered : packet.header.sequence ≤ lastSequence first) :
    packet ∈ first := by
  rcases List.mem_append.mp member with early | late
  · exact early
  · exfalso
    have positive := numbered.positive packet member
    unfold lastSequence at covered
    cases isLast : first.getLast? with
    | none =>
        rw [isLast] at covered
        exact absurd (UInt32.lt_of_lt_of_le positive covered) (UInt32.lt_irrefl 0)
    | some last =>
        rw [isLast] at covered
        have before := (List.pairwise_append.mp numbered.increasing).2.2 last
          (List.mem_of_getLast? isLast) packet late
        exact absurd (UInt32.lt_of_lt_of_le before covered) (UInt32.lt_irrefl _)

/-! The inputs of a game. -/

/-- The inputs of a client that the ticks of the server took. -/
def inputsConsumed (game : NetworkedGame) (clientId : ClientId) : List ClientInputPacket :=
  game.consumed.filter fun packet => packet.header.clientId = clientId

/-- The inputs that the simulation of the server has queued for its next tick. -/
def inputsAccepted (game : NetworkedGame) (clientId : ClientId) : List ClientInputPacket :=
  InputAccounting.pendingOf clientId game.serverHost.runtime.simulation

/-- The inputs that the hub holds for the server. -/
def inputsQueued (game : NetworkedGame) (clientId : ClientId) : List ClientInputPacket :=
  (queuedFrom game.record clientId).filterMap inputIn

/-- The inputs that the client itself still has as pending. -/
def inputsUnacked (game : NetworkedGame) (clientId : ClientId) : List ClientInputPacket :=
  (game.clients clientId).runtime.pendingInputs.unackedInputs

section Game

variable {config : ServerNetworkHostConfig} {game : NetworkedGame}

theorem sent_inputs_split (book : GameBook config game) (clientId : ClientId) :
    submittedAfterLogin game clientId =
      heardFrom game.record clientId ++ inputsQueued game clientId := by
  have client := book.clients clientId
  have sends : sendsOf game.record clientId = taken (sessionOf (game.clients clientId)).trace :=
    client.booked.sends
  rw [← client.sent]
  exact inputs_sent_split book.routed sends

theorem sent_inputs_numbered (book : GameBook config game) {clientId : ClientId}
    (few : (submittedBy game clientId).length < 2 ^ 32) :
    Numbered (submittedAfterLogin game clientId) := by
  have client := book.clients clientId
  exact (numbered_up_to client.runtime.numbered few).sublist client.among

/-- A client with a player has all its inputs where they belong. -/
theorem player_inputs (book : GameBook config game) {clientId : ClientId}
    (few : (submittedBy game clientId).length < 2 ^ 32)
    (isPlayer : clientId ∈ players game.serverHost) :
    submittedAfterLogin game clientId = inputsConsumed game clientId ++
      inputsAccepted game clientId ++ inputsQueued game clientId := by
  obtain ⟨calls, host⟩ := book.host
  have queued := (host.account clientId).queue.queued
  rw [host.consumed, host.pumped, if_pos isPlayer, account_run_host, ← host.ran] at queued
  have split := sent_inputs_split book clientId
  have heard : Numbered (heardFrom game.record clientId) := by
    refine (sent_inputs_numbered book few).sublist ?_
    rw [split]
    exact List.sublist_append_left _ _
  rw [fresh_numbered heard] at queued
  rw [split, queued]
  rfl

/-- A client without a player has no inputs in the simulation. -/
theorem stranger_inputs (book : GameBook config game) {clientId : ClientId}
    (noPlayer : clientId ∉ players game.serverHost) :
    inputsConsumed game clientId = [] ∧ inputsAccepted game clientId = [] := by
  obtain ⟨calls, host⟩ := book.host
  have queued := (host.account clientId).queue.queued
  rw [host.consumed, host.pumped, if_neg noPlayer, account_run_host, ← host.ran] at queued
  exact List.append_eq_nil_iff.mp queued.symm

/-- An input that an applied snapshot acknowledges has been consumed. -/
theorem acknowledged_consumed (book : GameBook config game) {clientId : ClientId}
    (few : (submittedBy game clientId).length < 2 ^ 32) {packet : ClientInputPacket}
    (sent : packet ∈ submittedAfterLogin game clientId) {snapshot : SnapshotDTO}
    (applied : snapshot ∈ snapshotsApplied game clientId)
    (acknowledges : packet.header.sequence ≤ snapshot.ackedInputSequence) :
    packet ∈ inputsConsumed game clientId := by
  obtain ⟨calls, host⟩ := book.host
  have wasSent : snapshot ∈ snapshotsSent game clientId := by
    rw [snapshots_split book clientId]
    exact List.mem_append_left _ applied
  have covered : packet.header.sequence ≤ lastSequence (inputsConsumed game clientId) :=
    UInt32.le_trans acknowledges (host.acked wasSent)
  have numbered := sent_inputs_numbered book few
  by_cases isPlayer : clientId ∈ players game.serverHost
  · rw [player_inputs book few isPlayer, List.append_assoc] at numbered sent
    exact numbered_split numbered sent covered
  · rw [(stranger_inputs book isPlayer).1] at covered
    exact absurd (UInt32.lt_of_lt_of_le (numbered.positive packet sent) covered)
      (UInt32.lt_irrefl 0)

/-- The host after a tick of the server. -/
theorem ticked_host (book : GameBook config game) (order : LoopOrder) (hostOrder : HostOrder)
    (nowMs : TimestampMs) :
    (gameStep game (.tickAndSendSnapshots order hostOrder nowMs)).serverHost =
      game.serverHost.tickAndSendSnapshots hubAnswers order hostOrder nowMs := by
  obtain ⟨calls, host⟩ := book.host
  have called : HostedCall game.hosted (.tickAndSendSnapshots order hostOrder nowMs)
      (game.hosted.call (hubTransport .server) (.tickAndSendSnapshots order hostOrder nowMs)) :=
    hosted_call host.serving _
  exact called.host

theorem ticked_simulation (book : GameBook config game) (order : LoopOrder)
    (hostOrder : HostOrder) (nowMs : TimestampMs) :
    (gameStep game (.tickAndSendSnapshots order hostOrder nowMs)).serverHost.runtime.simulation =
      tickedSimulation order game.serverHost := by
  rw [ticked_host book]
  exact tick_simulation hubAnswers order hostOrder game.serverHost nowMs

/-- A tick of the server takes inputs as consumed, applies each of them once and in
this order, and goes on from there. -/
def TickApplies (game : NetworkedGame) (order : LoopOrder) (hostOrder : HostOrder)
    (nowMs : TimestampMs) : Prop :=
  ∃ taken, (gameStep game (.tickAndSendSnapshots order hostOrder nowMs)).consumed =
      game.consumed ++ taken ∧
    (gameStep game (.tickAndSendSnapshots order hostOrder nowMs)).serverHost.runtime.simulation =
      (afterInputs order (taken.foldl applyPendingInput
        (advanceClock game.serverHost.runtime.simulation))).drainEvents.1

theorem ticked_applies (book : GameBook config game) (order : LoopOrder) (hostOrder : HostOrder)
    (nowMs : TimestampMs) : TickApplies game order hostOrder nowMs := by
  refine ⟨game.serverHost.runtime.simulation.pendingInputs, rfl, ?_⟩
  rw [ticked_simulation book, ← tick_after_inputs]
  rfl

end Game

/-! Results. -/

/-- In every run of a game the inputs that a client submits after its login are
lost nowhere on their way into the simulation of the server, nor repeated, nor
overtaken: those of a client with a player are consumed, accepted or queued, in
the order they were submitted. Of a client without a player none is accepted.
What a tick consumes it applies. -/
theorem inputs_arrive (config : ServerNetworkHostConfig) (calls : List GameCall)
    (clientId : ClientId)
    (few : (submittedBy (gameRun config calls) clientId).length < 2 ^ 32) :
    (clientId ∈ players (gameRun config calls).serverHost →
      submittedAfterLogin (gameRun config calls) clientId =
        inputsConsumed (gameRun config calls) clientId ++
          inputsAccepted (gameRun config calls) clientId ++
          inputsQueued (gameRun config calls) clientId) ∧
    (clientId ∉ players (gameRun config calls).serverHost →
      inputsConsumed (gameRun config calls) clientId = [] ∧
        inputsAccepted (gameRun config calls) clientId = []) ∧
    ∀ order hostOrder nowMs, TickApplies (gameRun config calls) order hostOrder nowMs := by
  have book := game_run_book config calls
  exact ⟨player_inputs book few, stranger_inputs book, ticked_applies book⟩

theorem inputs_arrive_tour :
    (submittedAfterLogin (gameRun {} tourCalls) 1).length = 1 ∧
      submittedAfterLogin (gameRun {} tourCalls) 1 =
        inputsConsumed (gameRun {} tourCalls) 1 ++ inputsAccepted (gameRun {} tourCalls) 1 ++
          inputsQueued (gameRun {} tourCalls) 1 := by
  have arrives := inputs_arrive {} tourCalls 1 (by decide +kernel)
  exact ⟨by decide +kernel, arrives.1 (by decide +kernel)⟩

/-- The pending inputs of a client are those it submitted that no snapshot it
has applied acknowledges, and what left them after it was sent has been consumed
by the server. -/
theorem pending_until_consumed (config : ServerNetworkHostConfig) (calls : List GameCall)
    (clientId : ClientId)
    (few : (submittedBy (gameRun config calls) clientId).length < 2 ^ 32) :
    inputsUnacked (gameRun config calls) clientId =
        (submittedBy (gameRun config calls) clientId).filter
          (unacknowledged (snapshotsApplied (gameRun config calls) clientId)) ∧
      ∀ packet ∈ submittedAfterLogin (gameRun config calls) clientId,
        packet ∉ inputsUnacked (gameRun config calls) clientId →
          packet ∈ inputsConsumed (gameRun config calls) clientId := by
  have book := game_run_book config calls
  generalize gameRun config calls = game at book few ⊢
  have client := book.clients clientId
  have pending : inputsUnacked game clientId =
      (submittedBy game clientId).filter (unacknowledged (snapshotsApplied game clientId)) :=
    client.runtime.pending few
  refine ⟨pending, ?_⟩
  intro packet sent left
  rw [pending, List.mem_filter, not_and] at left
  have acknowledged := left (client.among.subset sent)
  unfold unacknowledged at acknowledged
  simp only [List.all_eq_true, decide_eq_true_eq, not_forall, UInt32.not_lt] at acknowledged
  obtain ⟨snapshot, applied, acknowledges⟩ := acknowledged
  exact acknowledged_consumed book few sent applied acknowledges

theorem pending_until_consumed_tour :
    inputsUnacked (gameRun {} tourCalls) 1 = [] ∧
      ∀ packet ∈ submittedAfterLogin (gameRun {} tourCalls) 1,
        packet ∈ inputsConsumed (gameRun {} tourCalls) 1 := by
  have nonePending : inputsUnacked (gameRun {} tourCalls) 1 = [] := by decide +kernel
  refine ⟨nonePending, fun packet submitted => ?_⟩
  refine (pending_until_consumed {} tourCalls 1 (by decide +kernel)).2 packet submitted ?_
  rw [nonePending]
  exact List.not_mem_nil

end Brawololo.GameInputs
