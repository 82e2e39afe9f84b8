import Brawololo.HostTurns
import Brawololo.SimulationStages

/-!
The inputs of a client on the server. The host pumps them in any order, lost
and repeated; the simulation takes the ones that are newer than all before
them, and the next tick consumes what it has taken. The number in a snapshot is
that of the last input a tick has consumed.
-/

namespace Brawololo.InputAccounting

open GameTypes EntityStore NetworkProtocol Serialization Simulation SimulationStages
open SimulationSnapshots Server ServerNetworkHost HostTurns

/-! Which inputs count. -/

/-- The input is newer than 0 and than all inputs before it. -/
def IsFresh (earlier : List ClientInputPacket) (packet : ClientInputPacket) : Prop :=
  0 < packet.header.sequence ∧
    ∀ other ∈ earlier, other.header.sequence < packet.header.sequence

instance (earlier : List ClientInputPacket) (packet : ClientInputPacket) :
    Decidable (IsFresh earlier packet) :=
  inferInstanceAs (Decidable (_ ∧ _))

def freshAfter : List ClientInputPacket → List ClientInputPacket → List ClientInputPacket
  | _, [] => []
  | earlier, packet :: rest =>
      if IsFresh earlier packet then packet :: freshAfter (earlier ++ [packet]) rest
      else freshAfter (earlier ++ [packet]) rest

/-- The inputs that are fresh when they come, in order. -/
def fresh (pumped : List ClientInputPacket) : List ClientInputPacket := freshAfter [] pumped

/-- The sequence of the last input, 0 if there is none. -/
def lastSequence (inputs : List ClientInputPacket) : CommandSequence :=
  (inputs.getLast?.map fun packet => packet.header.sequence).getD 0

theorem fresh_after_concat (earlier pumped : List ClientInputPacket)
    (packet : ClientInputPacket) :
    freshAfter earlier (pumped ++ [packet]) = freshAfter earlier pumped ++
      if IsFresh (earlier ++ pumped) packet then [packet] else [] := by
  induction pumped generalizing earlier with
  | nil =>
      rw [List.nil_append, List.append_nil, freshAfter, freshAfter]
      split
      · rfl
      · rfl
  | cons head rest ih =>
      have regroup : earlier ++ [head] ++ rest = earlier ++ head :: rest := by simp
      rw [List.cons_append, freshAfter, freshAfter, ih, regroup]
      by_cases isFresh : IsFresh earlier head
      · rw [if_pos isFresh, if_pos isFresh, List.cons_append]
      · rw [if_neg isFresh, if_neg isFresh]

theorem fresh_concat (pumped : List ClientInputPacket) (packet : ClientInputPacket) :
    fresh (pumped ++ [packet]) = fresh pumped ++
      if IsFresh pumped packet then [packet] else [] :=
  fresh_after_concat [] pumped packet

theorem last_sequence_concat (inputs : List ClientInputPacket) (packet : ClientInputPacket) :
    lastSequence (inputs ++ [packet]) = packet.header.sequence := by
  unfold lastSequence
  rw [List.getLast?_concat]
  rfl

theorem is_fresh_concat (pumped : List ClientInputPacket) (last packet : ClientInputPacket) :
    IsFresh (pumped ++ [last]) packet ↔
      IsFresh pumped packet ∧ last.header.sequence < packet.header.sequence := by
  unfold IsFresh
  constructor
  · rintro ⟨positive, above⟩
    exact ⟨⟨positive, fun other member => above other (List.mem_append_left _ member)⟩,
      above last (List.mem_append_right _ List.mem_cons_self)⟩
  · rintro ⟨⟨positive, above⟩, aboveLast⟩
    refine ⟨positive, ?_⟩
    intro other member
    rcases List.mem_append.mp member with old | new
    · exact above other old
    · rw [List.mem_singleton.mp new]
      exact aboveLast

/-- The last fresh sequence is the greatest of all that came. -/
structure Greatest (pumped : List ClientInputPacket) : Prop where
  bounds : ∀ packet ∈ pumped, packet.header.sequence ≤ lastSequence (fresh pumped)
  fits : ∀ packet, IsFresh pumped packet ↔ lastSequence (fresh pumped) < packet.header.sequence
  increasing : (fresh pumped).Pairwise fun first second =>
    first.header.sequence < second.header.sequence
  reached : ∀ packet ∈ fresh pumped, packet.header.sequence ≤ lastSequence (fresh pumped)

theorem greatest (pumped : List ClientInputPacket) : Greatest pumped := by
  induction pumped using List.reverseRecOn with
  | nil =>
      refine ⟨by simp, ?_, List.Pairwise.nil, by simp [fresh, freshAfter]⟩
      intro packet
      simp [IsFresh, fresh, freshAfter, lastSequence]
  | append_singleton pumped last ih =>
      -- A fresh packet becomes the greatest, any other is not above the greatest.
      by_cases isFresh : IsFresh pumped last
      · have above := (ih.fits last).mp isFresh
        have taken : fresh (pumped ++ [last]) = fresh pumped ++ [last] := by
          rw [fresh_concat, if_pos isFresh]
        constructor
        case bounds =>
          intro packet member
          rw [taken, last_sequence_concat]
          rcases List.mem_append.mp member with old | new
          · exact UInt32.le_of_lt (UInt32.lt_of_le_of_lt (ih.bounds packet old) above)
          · rw [List.mem_singleton.mp new]
            exact UInt32.le_refl _
        case fits =>
          intro packet
          rw [taken, last_sequence_concat, is_fresh_concat, ih.fits]
          constructor
          · exact fun both => both.2
          · exact fun newer => ⟨UInt32.lt_trans above newer, newer⟩
        case increasing =>
          rw [taken]
          refine List.pairwise_append.mpr ⟨ih.increasing, List.pairwise_singleton _ _, ?_⟩
          intro packet member other isLast
          rw [List.mem_singleton.mp isLast]
          exact UInt32.lt_of_le_of_lt (ih.reached packet member) above
        case reached =>
          intro packet member
          rw [taken] at member ⊢
          rw [last_sequence_concat]
          rcases List.mem_append.mp member with old | new
          · exact UInt32.le_of_lt (UInt32.lt_of_le_of_lt (ih.reached packet old) above)
          · rw [List.mem_singleton.mp new]
            exact UInt32.le_refl _
      · have notAbove := mt (ih.fits last).mpr isFresh
        have left : fresh (pumped ++ [last]) = fresh pumped := by
          rw [fresh_concat, if_neg isFresh, List.append_nil]
        constructor
        case bounds =>
          intro packet member
          rw [left]
          rcases List.mem_append.mp member with old | new
          · exact ih.bounds packet old
          · rw [List.mem_singleton.mp new]
            exact UInt32.not_lt.mp notAbove
        case fits =>
          intro packet
          rw [left, is_fresh_concat, ih.fits]
          constructor
          · exact fun both => both.1
          · exact fun newer => ⟨newer, UInt32.lt_of_le_of_lt (UInt32.not_lt.mp notAbove) newer⟩
        case increasing =>
          rw [left]
          exact ih.increasing
        case reached =>
          rw [left]
          exact ih.reached

/-! The account of a client. -/

/-- The input of the client that an envelope brings once the client has a player. -/
def pumpedInput (clientId : ClientId) (host : ServerNetworkHost) (envelope : NetworkEnvelope) :
    List ClientInputPacket :=
  if envelope.Ok ∧ envelope.messageClass = .clientInput then
    (deserializeClientInputPacket envelope.payload).toList.filter fun packet =>
      packet.header.clientId = clientId ∧
        clientId ∈ host.runtime.simulation.playerByClient
  else []

def pumpedInputs (transport : Transport) (clientId : ClientId) :
    ServerNetworkHost → List NetworkEnvelope → List ClientInputPacket
  | _, [] => []
  | host, envelope :: rest =>
      pumpedInput clientId host envelope ++
        pumpedInputs transport clientId (host.handleEnvelope transport envelope) rest

/-- A host, and what its calls have done with the inputs of one client. -/
structure InputAccount where
  host : ServerNetworkHost
  /-- Pumped since the client has a player. -/
  pumped : List ClientInputPacket := []
  /-- Of these, the ones pumped before the last tick. -/
  ticked : List ClientInputPacket := []
  /-- Those that the ticks took from the queue, in the order they did. -/
  consumed : List ClientInputPacket := []

def accountStep (transport : Transport) (clientId : ClientId) (account : InputAccount)
    (call : HostCall) : InputAccount :=
  let next := { account with host := hostStep transport account.host call }
  match call with
  | .pumpClientMessages polled =>
      { next with
        pumped := account.pumped ++ pumpedInputs transport clientId account.host polled }
  | .tickAndSendSnapshots _ _ _ =>
      { next with
        ticked := account.pumped
        consumed := account.consumed ++
          account.host.runtime.simulation.pendingInputs.filter fun packet =>
            packet.header.clientId = clientId }
  | _ => next

def accountRun (transport : Transport) (config : ServerNetworkHostConfig) (clientId : ClientId)
    (calls : List HostCall) : InputAccount :=
  Runs.run (accountStep transport clientId) { host := .new config } calls

/-- What a caller does through `Runtime()` leaves the inputs of the client alone. -/
def LeavesInputs (clientId : ClientId) (account : InputAccount) : HostCall → Prop
  | .changeRuntime runtime =>
      (clientId ∈ runtime.simulation.playerByClient ↔
        clientId ∈ account.host.runtime.simulation.playerByClient) ∧
      runtime.simulation.lastAcceptedSequence[clientId]? =
        account.host.runtime.simulation.lastAcceptedSequence[clientId]? ∧
      (runtime.simulation.pendingInputs.filter fun packet => packet.header.clientId = clientId) =
        account.host.runtime.simulation.pendingInputs.filter fun packet =>
          packet.header.clientId = clientId
  | _ => True

/-- The acknowledged numbers of the snapshots handed over for the client. -/
def acksFor (clientId : ClientId) (trace : Trace) : List CommandSequence :=
  trace.filterMap fun happening =>
    (snapshotFor clientId happening).map fun sent => sent.1.ackedInputSequence

/-- The number tells of the accepted inputs exactly which were consumed, and it
is that of the last one. -/
structure Truthful (account : InputAccount) (acked : CommandSequence) : Prop where
  last : acked = lastSequence account.consumed
  processed : ∀ packet ∈ fresh account.pumped,
    packet.header.sequence ≤ acked ↔ packet ∈ account.consumed

/-! The queue of the simulation. -/

def pendingOf (clientId : ClientId) (sim : GameSimulation) : List ClientInputPacket :=
  sim.pendingInputs.filter fun packet => packet.header.clientId = clientId

/-- What the simulation has accepted of a client is what was fresh, and what it
still holds of that is queued behind what was consumed. -/
structure Queue (clientId : ClientId) (pumped consumed : List ClientInputPacket)
    (sim : GameSimulation) : Prop where
  out : clientId ∉ sim.playerByClient → pumped = []
  has : clientId ∈ sim.playerByClient → (sim.lastAcceptedSequence[clientId]?).isSome
  last : (sim.lastAcceptedSequence[clientId]?).getD 0 = lastSequence (fresh pumped)
  queued : fresh pumped = consumed ++ pendingOf clientId sim

section Queueing

variable {clientId : ClientId} {pumped consumed : List ClientInputPacket} {sim : GameSimulation}

theorem queue_congr {after : GameSimulation} (queue : Queue clientId pumped consumed sim)
    (players : clientId ∈ after.playerByClient ↔ clientId ∈ sim.playerByClient)
    (accepted : after.lastAcceptedSequence[clientId]? = sim.lastAcceptedSequence[clientId]?)
    (pending : pendingOf clientId after = pendingOf clientId sim) :
    Queue clientId pumped consumed after := by
  constructor
  case out => exact fun absent => queue.out (mt players.mpr absent)
  case has =>
    rw [accepted]
    exact fun present => queue.has (players.mp present)
  case last =>
    rw [accepted]
    exact queue.last
  case queued =>
    rw [pending]
    exact queue.queued

/-- Logging in starts the numbers of a client at 0. -/
theorem login_queue (queue : Queue clientId pumped consumed sim) (joining : ClientId)
    (clientTimestampMs : TimestampMs) :
    Queue clientId pumped consumed (submitLogin sim
      { header := { clientId := joining, sequence := 0,
                    clientTimestampMs := clientTimestampMs } }).1 := by
  rcases submit_login_cases sim
      { header := { clientId := joining, sequence := 0,
                    clientTimestampMs := clientTimestampMs } } with
    unchanged | ⟨isNew, _, joined⟩
  · rw [unchanged]
    exact queue
  · rw [joined]
    constructor
    case out =>
      intro absent
      apply queue.out
      intro present
      exact absent (Std.ExtTreeMap.mem_insert.mpr (Or.inr present))
    case has =>
      intro present
      dsimp only [createPlayer, GameSimulation.allocateNetworkId] at present ⊢
      rw [get_insert]
      by_cases same : joining = clientId
      · rw [if_pos same]
        rfl
      · rw [if_neg same]
        apply queue.has
        rw [Std.ExtTreeMap.mem_insert] at present
        exact present.resolve_left fun equal =>
          same (Std.LawfulEqCmp.compare_eq_iff_eq.mp equal)
    case last =>
      dsimp only [createPlayer, GameSimulation.allocateNetworkId]
      rw [get_insert]
      -- A new client has pumped nothing that its number could fall behind.
      by_cases same : joining = clientId
      · subst same
        rw [if_pos rfl, queue.out isNew]
        rfl
      · rw [if_neg same]
        exact queue.last
    case queued => exact queue.queued

/-- An input of the client itself is queued exactly when it is fresh. -/
theorem own_input_queue {packet : ClientInputPacket}
    (queue : Queue packet.header.clientId pumped consumed sim)
    (present : packet.header.clientId ∈ sim.playerByClient) :
    Queue packet.header.clientId (pumped ++ [packet]) consumed (submitInput sim packet).1 := by
  have fits := (greatest pumped).fits packet
  obtain ⟨held, isHeld⟩ := Option.isSome_iff_exists.mp (queue.has present)
  have isLast := queue.last
  rw [isHeld, Option.getD_some] at isLast
  rw [← isLast] at fits
  rcases submit_input_cases sim packet with ⟨same, stale⟩ | ⟨_, newer, accepted⟩
  · obtain ⟨last, isAccepted, notNewer⟩ := stale present
    rw [isHeld] at isAccepted
    cases isAccepted
    have left : fresh (pumped ++ [packet]) = fresh pumped := by
      rw [fresh_concat, if_neg (mt fits.mp (UInt32.not_lt.mpr notNewer)), List.append_nil]
    rw [same]
    refine ⟨fun absent => absurd present absent, queue.has, ?_, ?_⟩
    · rw [left]
      exact queue.last
    · rw [left]
      exact queue.queued
  · have taken : fresh (pumped ++ [packet]) = fresh pumped ++ [packet] := by
      rw [fresh_concat, if_pos (fits.mpr (newer held isHeld))]
    rw [accepted]
    refine ⟨fun absent => absurd present absent, ?_, ?_, ?_⟩
    · intro _
      dsimp only
      rw [get_insert, if_pos rfl]
      rfl
    · dsimp only
      rw [get_insert, if_pos rfl, taken, last_sequence_concat]
      rfl
    · unfold pendingOf
      dsimp only
      rw [taken, queue.queued, List.filter_append, List.append_assoc]
      simp [pendingOf]

theorem input_queue (queue : Queue clientId pumped consumed sim) (packet : ClientInputPacket) :
    Queue clientId
      (pumped ++ if packet.header.clientId = clientId ∧ clientId ∈ sim.playerByClient then [packet]
        else [])
      consumed (submitInput sim packet).1 := by
  by_cases mine : packet.header.clientId = clientId ∧ clientId ∈ sim.playerByClient
  · obtain ⟨isClient, present⟩ := mine
    subst isClient
    rw [if_pos ⟨rfl, present⟩]
    exact own_input_queue queue present
  · rw [if_neg mine, List.append_nil]
    rcases submit_input_cases sim packet with ⟨same, _⟩ | ⟨present, _, accepted⟩
    · rw [same]
      exact queue
    · have other : packet.header.clientId ≠ clientId := by
        rintro rfl
        exact mine ⟨rfl, present⟩
      rw [accepted]
      refine ⟨queue.out, ?_, ?_, ?_⟩
      · intro isIn
        dsimp only
        rw [get_insert, if_neg other]
        exact queue.has isIn
      · dsimp only
        rw [get_insert, if_neg other]
        exact queue.last
      · unfold pendingOf
        dsimp only
        rw [queue.queued, List.filter_append]
        simp [pendingOf, other]

/-- A tick takes the whole queue. -/
theorem tick_queue (order : LoopOrder) (queue : Queue clientId pumped consumed sim) :
    Queue clientId pumped (consumed ++ pendingOf clientId sim) (tickFixed order sim) := by
  obtain ⟨_, players, accepted⟩ := tick_setup order sim
  refine ⟨by rw [players]; exact queue.out, by rw [players, accepted]; exact queue.has,
    by rw [accepted]; exact queue.last, ?_⟩
  have empty : pendingOf clientId (tickFixed order sim) = [] := by
    unfold pendingOf
    rw [tick_pending]
    rfl
  rw [empty, List.append_nil, queue.queued]

end Queueing

/-! The calls of the host. -/

section Calls

variable (transport : Transport) {clientId : ClientId}
variable {pumped consumed : List ClientInputPacket}

/-- Whatever a message is, the queue of the client keeps its account. -/
theorem envelope_queue (host : ServerNetworkHost) (envelope : NetworkEnvelope)
    (queue : Queue clientId pumped consumed host.runtime.simulation) :
    Queue clientId (pumped ++ pumpedInput clientId host envelope) consumed
      (host.handleEnvelope transport envelope).runtime.simulation := by
  unfold handleEnvelope pumpedInput
  by_cases isOk : envelope.Ok
  · rw [if_neg (not_not.mpr isOk)]
    cases isClass : envelope.messageClass with
    | clientInput =>
        rw [if_pos ⟨isOk, rfl⟩]
        dsimp only
        rw [input_simulation]
        cases deserializeClientInputPacket envelope.payload with
        | none => simpa using queue
        | some packet =>
            have taken := input_queue queue packet
            rw [Option.toList_some, List.filter_singleton]
            simp only [Bool.decide_and, Option.map_some, Option.getD_some]
            by_cases mine : packet.header.clientId = clientId ∧
                clientId ∈ host.runtime.simulation.playerByClient
            · rw [if_pos mine] at taken
              simpa [mine] using taken
            · rw [if_neg mine] at taken
              rw [← Bool.decide_and, decide_eq_false mine]
              exact taken
    | loginRequest =>
        rw [if_neg (by simp), List.append_nil]
        rcases login_simulation host envelope with same | ⟨joining, nowMs, connected⟩
        · exact same ▸ queue
        · exact connected ▸ login_queue queue joining nowMs
    | snapshotAck =>
        rw [if_neg (by simp), List.append_nil]
        dsimp only
        rw [snapshot_ack_runtime]
        exact queue
    | networkEventAck =>
        rw [if_neg (by simp), List.append_nil]
        dsimp only
        rw [event_ack_runtime]
        exact queue
    | timeSyncRequest =>
        rw [if_neg (by simp), List.append_nil]
        dsimp only
        rw [time_sync_runtime]
        exact queue
    | _ =>
        rw [if_neg (by simp), List.append_nil]
        exact queue
  · rw [if_pos isOk, if_neg (fun both => isOk both.1), List.append_nil]
    exact queue

theorem pump_queue (polled : List NetworkEnvelope) (host : ServerNetworkHost)
    (queue : Queue clientId pumped consumed host.runtime.simulation) :
    Queue clientId (pumped ++ pumpedInputs transport clientId host polled) consumed
      (host.pumpClientMessages transport polled).runtime.simulation := by
  induction polled generalizing host pumped with
  | nil =>
      rw [pumpedInputs, List.append_nil]
      exact queue
  | cons envelope rest ih =>
      have later := ih _ (envelope_queue transport host envelope queue)
      rw [List.append_assoc] at later
      exact later

/-- The numbers in the record are those of consumed inputs, and they grow. -/
structure Account (clientId : ClientId) (account : InputAccount) : Prop where
  queue : Queue clientId account.pumped account.consumed account.host.runtime.simulation
  ticked : account.consumed = fresh account.ticked
  reached : ∀ acked ∈ acksFor clientId account.host.trace,
    acked ≤ lastSequence account.consumed
  growing : (acksFor clientId account.host.trace).Pairwise (· ≤ ·)

/-- The numbers that a call adds to the record. -/
def newAcks (clientId : ClientId) (account : InputAccount) (call : HostCall) :
    List CommandSequence :=
  acksFor clientId
    ((accountStep transport clientId account call).host.trace.drop account.host.trace.length)

theorem acks_for_append (first second : Trace) :
    acksFor clientId (first ++ second) = acksFor clientId first ++ acksFor clientId second :=
  List.filterMap_append

theorem acks_for_quiet {trace : Trace} (quiet : NoSnapshot trace) :
    acksFor clientId trace = [] := by
  apply List.filterMap_eq_nil_iff.mpr
  intro happening member
  rw [quiet clientId happening member]
  rfl

/-- A call that hands over no snapshot keeps the numbers. -/
theorem quiet_account {account after : InputAccount} {added : Trace}
    (holds : Account clientId account) (ticked : after.ticked = account.ticked)
    (consumed : after.consumed = account.consumed)
    (recorded : after.host.trace = account.host.trace ++ added) (quiet : NoSnapshot added)
    (queue : Queue clientId after.pumped account.consumed after.host.runtime.simulation) :
    Account clientId after := by
  have same : acksFor clientId after.host.trace = acksFor clientId account.host.trace := by
    rw [recorded, acks_for_append, acks_for_quiet quiet, List.append_nil]
  constructor
  case queue =>
    rw [consumed]
    exact queue
  case ticked =>
    rw [consumed, ticked]
    exact holds.ticked
  case reached =>
    rw [same, consumed]
    exact holds.reached
  case growing =>
    rw [same]
    exact holds.growing

/-- After a tick nothing of the client is queued any more. -/
theorem ticked_queue (order : LoopOrder) (host : ServerNetworkHost)
    (queue : Queue clientId pumped consumed host.runtime.simulation) :
    Queue clientId pumped (consumed ++ pendingOf clientId host.runtime.simulation)
      (tickedSimulation order host) ∧
    fresh pumped = consumed ++ pendingOf clientId host.runtime.simulation :=
  ⟨queue_congr (tick_queue order queue) Iff.rfl rfl rfl, queue.queued⟩

theorem last_sequence_mono {pumped : List ClientInputPacket}
    {first second : List ClientInputPacket} (whole : fresh pumped = first ++ second) :
    lastSequence first ≤ lastSequence (fresh pumped) := by
  unfold lastSequence
  cases isLast : first.getLast? with
  | none =>
      rw [Option.map_none, Option.getD_none]
      exact UInt32.zero_le
  | some packet =>
      apply (greatest pumped).reached packet
      rw [whole]
      exact List.mem_append_left _ (List.mem_of_getLast? isLast)

/-- A tick consumes what was fresh, and it is the last of that which the new
snapshots tell of. -/
theorem tick_account (order : LoopOrder) (hostOrder : HostOrder) (nowMs : TimestampMs)
    (account : InputAccount) (holds : Account clientId account) :
    Account clientId
        (accountStep transport clientId account (.tickAndSendSnapshots order hostOrder nowMs)) ∧
      ∀ acked ∈ newAcks transport clientId account (.tickAndSendSnapshots order hostOrder nowMs),
        Truthful
          (accountStep transport clientId account (.tickAndSendSnapshots order hostOrder nowMs))
          acked := by
  obtain ⟨queue, whole⟩ := ticked_queue order account.host holds.queue
  have isLast := queue.last
  obtain ⟨added, recorded, simulated, handed⟩ := tick_hands transport order hostOrder nowMs
    (fun other planned => other = clientId → planned.ackedInputSequence =
      lastSequence (fresh account.pumped)) account.host (by
        rintro other ticked _ same rfl
        rw [← isLast, ← same]
        rfl)
  have told : ∀ acked ∈ acksFor clientId added, acked = lastSequence (fresh account.pumped) := by
    intro acked member
    obtain ⟨happening, isIn, isAcked⟩ := List.mem_filterMap.mp member
    obtain ⟨sent, isSent, rfl⟩ := Option.map_eq_some_iff.mp isAcked
    exact handed clientId happening isIn sent isSent rfl
  have consumed : (accountStep transport clientId account
      (.tickAndSendSnapshots order hostOrder nowMs)).consumed = fresh account.pumped :=
    whole.symm
  have earlier : lastSequence account.consumed ≤ lastSequence (fresh account.pumped) :=
    last_sequence_mono whole
  have record : acksFor clientId (accountStep transport clientId account
      (.tickAndSendSnapshots order hostOrder nowMs)).host.trace =
      acksFor clientId account.host.trace ++ acksFor clientId added :=
    (congrArg (acksFor clientId) recorded).trans (acks_for_append _ _)
  have isNew : newAcks transport clientId account (.tickAndSendSnapshots order hostOrder nowMs) =
      acksFor clientId added :=
    congrArg (acksFor clientId) ((congrArg (List.drop account.host.trace.length) recorded).trans
      List.drop_left)
  refine ⟨⟨?_, consumed, ?_, ?_⟩, ?_⟩
  · rw [← simulated] at queue
    exact queue
  · intro acked member
    rw [consumed]
    rw [record] at member
    rcases List.mem_append.mp member with old | new
    · exact UInt32.le_trans (holds.reached acked old) earlier
    · exact UInt32.le_of_eq (told acked new)
  · rw [record]
    refine List.pairwise_append.mpr ⟨holds.growing, ?_, ?_⟩
    · exact List.pairwise_of_forall_mem_list fun first isFirst second isSecond =>
        UInt32.le_of_eq ((told first isFirst).trans (told second isSecond).symm)
    · intro first old second new
      rw [told second new]
      exact UInt32.le_trans (holds.reached first old) earlier
  · intro acked member
    rw [isNew] at member
    constructor
    case last =>
      rw [consumed]
      exact told acked member
    case processed =>
      intro packet isFresh
      rw [consumed, told acked member]
      exact ⟨fun _ => isFresh, fun _ => (greatest account.pumped).reached packet isFresh⟩

/-- Every call keeps the account, and the numbers it adds are truthful. -/
theorem step_account (account : InputAccount) (call : HostCall)
    (holds : Account clientId account) (leaves : LeavesInputs clientId account call) :
    Account clientId (accountStep transport clientId account call) ∧
      ∀ acked ∈ newAcks transport clientId account call,
        Truthful (accountStep transport clientId account call) acked := by
  have noAcks {added : Trace} (quiet : NoSnapshot added)
      (recorded : (accountStep transport clientId account call).host.trace =
        account.host.trace ++ added) :
      ∀ acked ∈ newAcks transport clientId account call,
        Truthful (accountStep transport clientId account call) acked := by
    intro acked member
    unfold newAcks at member
    rw [recorded, List.drop_left, acks_for_quiet quiet] at member
    cases member
  have nothing : NoSnapshot [] := fun _ _ member => by cases member
  cases call with
  | pumpClientMessages polled =>
      obtain ⟨added, recorded, quiet⟩ := pump_no_snapshot transport polled account.host
      exact ⟨quiet_account holds rfl rfl recorded quiet
        (pump_queue transport polled account.host holds.queue), noAcks quiet recorded⟩
  | tickAndSendSnapshots order hostOrder nowMs =>
      exact tick_account transport order hostOrder nowMs account holds
  | connectSimulationOnlyClient joining nowMs =>
      exact ⟨quiet_account holds rfl rfl (List.append_nil _).symm nothing
        (login_queue holds.queue joining nowMs), noAcks nothing (List.append_nil _).symm⟩
  | drainEvents =>
      exact ⟨quiet_account holds rfl rfl (List.append_nil _).symm nothing holds.queue,
        noAcks nothing (List.append_nil _).symm⟩
  | buildSnapshotFor =>
      have quiet : NoSnapshot [.snapshotNumbered account.host.runtime.nextSnapshotId] := by
        intro other happening member
        rw [List.mem_singleton.mp member]
        rfl
      exact ⟨quiet_account holds rfl rfl rfl quiet holds.queue, noAcks quiet rfl⟩
  | changeRuntime runtime =>
      obtain ⟨players, accepted, pending⟩ := leaves
      exact ⟨quiet_account holds rfl rfl (List.append_nil _).symm nothing
        (queue_congr holds.queue players accepted pending),
        noAcks nothing (List.append_nil _).symm⟩

theorem new_account (config : ServerNetworkHostConfig) :
    Account clientId { host := .new config } := by
  refine ⟨⟨fun _ => rfl, ?_, ?_, rfl⟩, rfl, by simp [acksFor, ServerNetworkHost.new],
    List.Pairwise.nil⟩
  · intro present
    exact absurd present Std.ExtTreeMap.not_mem_empty
  · rfl

theorem run_account (config : ServerNetworkHostConfig) (calls : List HostCall)
    (leaves : Runs.EveryStep (accountStep transport clientId) (LeavesInputs clientId)
      { host := .new config } calls) :
    Account clientId (accountRun transport config clientId calls) :=
  Runs.run_invariant_when (accountStep transport clientId) (Account clientId)
    (LeavesInputs clientId)
    (fun account call holds leaves => (step_account transport account call holds leaves).1)
    _ (new_account config) calls leaves

end Calls

/-! What a tick does with the inputs it consumes. -/

/-- The row after these inputs, each applied once and in this order, and its
movement. -/
def rowUnder (config : SimulationConfig) (timeMs : TimestampMs)
    (taken : List ClientInputPacket) (row : Components) : Components :=
  let applied := applyInputs config timeMs taken row
  clearIntent (if applied.player.isSome then (integrateMovement config applied).1 else applied)

/-- Of the queue that a tick of the host applies, the inputs of the client are
these. The tick goes on from the state in which the whole queue has been applied,
and the client's entity has taken these inputs and no others, unless another
client is entered for it too. -/
structure AppliesInputs (order : LoopOrder) (clientId : ClientId)
    (before after : ServerNetworkHost) (taken : List ClientInputPacket) : Prop where
  own : taken = pendingOf clientId before.runtime.simulation
  ticks : (before.runtime.tick order).simulation = afterInputs order
    (before.runtime.simulation.pendingInputs.foldl applyPendingInput
      (advanceClock before.runtime.simulation))
  simulation : after.runtime.simulation = (before.runtime.tick order).simulation.drainEvents.1
  player : ∀ entity row, before.runtime.simulation.inputTarget clientId = some entity →
    (∀ other, before.runtime.simulation.inputTarget other = some entity → other = clientId) →
    before.runtime.simulation.registry.get? entity = some row →
    (processInputs order (advanceClock before.runtime.simulation)).registry.get? entity =
      some (rowUnder before.runtime.simulation.config
        (advanceClock before.runtime.simulation).timeMs taken row)

/-- Only a tick consumes inputs, and it applies what it consumes. -/
def ConsumesByApplying (transport : Transport) (clientId : ClientId) (account : InputAccount)
    (call : HostCall) : Prop :=
  let after := accountStep transport clientId account call
  match call with
  | .tickAndSendSnapshots order _ _ => ∃ taken,
      after.consumed = account.consumed ++ taken ∧
        AppliesInputs order clientId account.host after.host taken
  | _ => after.consumed = account.consumed

theorem own_entity_row (order : LoopOrder) (sim : GameSimulation) {clientId : ClientId}
    {entity : Entity} {row : Components} (target : sim.inputTarget clientId = some entity)
    (only : ∀ other, sim.inputTarget other = some entity → other = clientId)
    (present : sim.registry.get? entity = some row) :
    (processInputs order (advanceClock sim)).registry.get? entity =
      some (rowUnder sim.config (advanceClock sim).timeMs (pendingOf clientId sim) row) := by
  -- What the queue has for the entity is what it has of the client.
  have inputs : inputsFor (advanceClock sim) entity = pendingOf clientId sim := by
    unfold inputsFor pendingOf
    apply List.filter_congr
    intro packet _
    rw [decide_eq_decide]
    constructor
    · exact only packet.header.clientId
    · rintro same
      rw [same]
      exact target
  have unmoved : (advanceClock sim).registry.get? entity = some row := present
  rw [process_inputs_row, unmoved, Option.map_some]
  unfold movedRow rowUnder
  rw [inputs]
  rfl

theorem consumes_by_applying (transport : Transport) (clientId : ClientId)
    (account : InputAccount) (call : HostCall) :
    ConsumesByApplying transport clientId account call := by
  cases call with
  | tickAndSendSnapshots order hostOrder nowMs =>
      exact ⟨_, rfl, rfl, tick_after_inputs order _,
        tick_simulation transport order hostOrder account.host nowMs,
        fun entity row target only present => own_entity_row order _ target only present⟩
  | pumpClientMessages polled => rfl
  | connectSimulationOnlyClient joining nowMs => rfl
  | drainEvents => rfl
  | buildSnapshotFor => rfl
  | changeRuntime runtime => rfl

/-- In every run of the host, the ticks consume the inputs of a client that are
fresh when they are pumped, once each and in order, by applying each of them once
and in this order, and every snapshot for the client acknowledges exactly what
has been consumed by then. -/
theorem inputs_accounted (transport : Transport) (config : ServerNetworkHostConfig)
    (clientId : ClientId) (calls : List HostCall)
    (leaves : Runs.EveryStep (accountStep transport clientId) (LeavesInputs clientId)
      { host := .new config } calls) :
    (accountRun transport config clientId calls).consumed =
        fresh (accountRun transport config clientId calls).ticked ∧
      fresh (accountRun transport config clientId calls).pumped =
        (accountRun transport config clientId calls).consumed ++
          pendingOf clientId (accountRun transport config clientId calls).host.runtime.simulation ∧
      Runs.EveryStep (accountStep transport clientId) (ConsumesByApplying transport clientId)
        { host := .new config } calls ∧
      Runs.EveryStep (accountStep transport clientId)
        (fun account call => ∀ acked ∈ newAcks transport clientId account call,
          Truthful (accountStep transport clientId account call) acked)
        { host := .new config } calls ∧
      (acksFor clientId (accountRun transport config clientId calls).host.trace).Pairwise
        (· ≤ ·) := by
  have holds := run_account transport config calls leaves
  refine ⟨holds.ticked, holds.queue.queued, ?_, ?_, holds.growing⟩
  · rw [Runs.every_step_iff_split]
    exact fun _ call _ _ => consumes_by_applying transport clientId _ call
  rw [Runs.every_step_iff_split] at leaves ⊢
  intro earlier call later split
  have leavesEarlier : Runs.EveryStep (accountStep transport clientId) (LeavesInputs clientId)
      { host := .new config } earlier := by
    rw [Runs.every_step_iff_split]
    intro first other second isSplit
    apply leaves first other (second ++ call :: later)
    rw [split, isSplit, List.append_assoc, List.cons_append]
  exact (step_account transport _ call (run_account transport config earlier leavesEarlier)
    (leaves earlier call later split)).2

/-- An input of client 1 as it is polled. -/
def polledInput (sequence : CommandSequence) : NetworkEnvelope :=
  { peerId := 1, channel := .movementInput, messageClass := .clientInput, sequence := sequence,
    payload := serializeClientInputPacket
      { header := { clientId := 1, sequence := sequence } } }

/-- Client 1 joins, and of its inputs the second comes before the first, and twice. -/
def shuffledCalls : List HostCall :=
  [.pumpClientMessages
      [{ peerId := 1, channel := .loginSpawn, messageClass := .loginRequest,
         payload := serializeLoginCommand { header := { clientId := 1 } } }],
   .pumpClientMessages [polledInput 2, polledInput 1, polledInput 2, polledInput 3],
   .tickAndSendSnapshots .stored .stored 16]

theorem inputs_accounted_shuffled :
    (accountRun (fun _ _ => true) {} 1 shuffledCalls).consumed =
        fresh (accountRun (fun _ _ => true) {} 1 shuffledCalls).ticked ∧
      acksFor 1 (accountRun (fun _ _ => true) {} 1 shuffledCalls).host.trace = [3] :=
  ⟨(inputs_accounted (fun _ _ => true) {} 1 shuffledCalls
      ⟨trivial, trivial, trivial, trivial⟩).1,
    by decide +kernel⟩

end Brawololo.InputAccounting
