import Brawololo.ClientProtocolPump
import Brawololo.Reconciliation

/-!
The order of snapshots on a client. The channel of the snapshots is declared to
be sequenced, but no code between the transport and the simulation compares
their ids. A session is therefore sequenced exactly when the deliveries are.
-/

namespace Brawololo.SnapshotSequencing

open GameTypes EntityStore Simulation SimulationStages SimulationSnapshots EntityIdentity Client
open Reconciliation

/-! The statement. -/

/-- The snapshot that a call delivers to the pump. -/
def delivered : SessionCall → Option SnapshotDTO
  | .poll _ polled => snapshotIn polled.envelope
  | _ => none

def deliveries (calls : List SessionCall) : List SnapshotDTO := calls.filterMap delivered

/-- The calls without the deliveries whose id does not exceed every id applied
before. -/
def sequenced (applied : List SnapshotId) : List SessionCall → List SessionCall
  | [] => []
  | call :: rest =>
      match delivered call with
      | none => call :: sequenced applied rest
      | some snapshot =>
          if applied.all fun id => id < snapshot.snapshotId then
            call :: sequenced (snapshot.snapshotId :: applied) rest
          else sequenced applied rest

/-- The session behaves as if its snapshots were sequenced, in every state that
it reaches. -/
structure Sequenced (localClientId : ClientId) (config : SimulationConfig)
    (calls : List SessionCall) : Prop where
  simulation : ∀ earlier later, calls = earlier ++ later →
    (sessionRun localClientId config earlier).runtime.simulation =
      (sessionRun localClientId config (sequenced [] earlier)).runtime.simulation
  snapshotIds : ∀ earlier call later, calls = earlier ++ call :: later →
    (sessionRun localClientId config earlier).stats.lastSnapshotId ≤
      (sessionRun localClientId config (earlier ++ [call])).stats.lastSnapshotId
  inputs : ∀ earlier call later, calls = earlier ++ call :: later →
    (sessionRun localClientId config earlier).stats.lastAckedInputSequence ≤
      (sessionRun localClientId config (earlier ++ [call])).stats.lastAckedInputSequence
  player : ∀ earlier call later snapshot, calls = earlier ++ call :: later →
    delivered call = some snapshot →
    (∃ newer ∈ deliveries earlier, snapshot.snapshotId ≤ newer.snapshotId) →
    clientMotion (sessionRun localClientId config (earlier ++ [call])).runtime.simulation
        localClientId =
      clientMotion (sessionRun localClientId config earlier).runtime.simulation localClientId

/-- The snapshot may follow another one. -/
def Follows (earlier later : SnapshotDTO) : Prop :=
  earlier.snapshotId < later.snapshotId ∧ earlier.ackedInputSequence ≤ later.ackedInputSequence

/-- Every snapshot is delivered after all the ones with smaller ids, once, and
none takes an acknowledged input back. -/
def DeliveredInOrder (calls : List SessionCall) : Prop := (deliveries calls).Pairwise Follows

/-! One call. -/

theorem receive_snapshot (localReceiveTimeMs : TimestampMs) (state : PumpState) (polled : Polled)
    {snapshot : SnapshotDTO} (isSnapshot : snapshotIn polled.envelope = some snapshot) :
    state.receive localReceiveTimeMs polled =
      state.receiveSnapshot localReceiveTimeMs polled.ackAccepted polled.order snapshot := by
  have itsClass : polled.envelope.messageClass = .snapshot := by
    unfold snapshotIn at isSnapshot
    split at isSnapshot
    · next valid => exact valid.2
    · cases isSnapshot
  have noTimeSync : timeSyncResponseIn polled.envelope = none := by
    simp [timeSyncResponseIn, itsClass]
  have noEvent : eventIn polled.envelope = none := by
    simp [eventIn, itsClass, isEventClass]
  unfold PumpState.receive
  rw [noTimeSync, noEvent, isSnapshot]

/-- A delivered snapshot is applied, whatever was applied before. -/
structure Applies (before : PumpState) (snapshot : SnapshotDTO) (after : PumpState) : Prop where
  snapshotId : after.stats.lastSnapshotId = snapshot.snapshotId
  input : after.stats.lastAckedInputSequence = snapshot.ackedInputSequence
  grows : before.runtime.simulation.events.length < after.runtime.simulation.events.length

theorem session_step_applies (state : PumpState) (call : SessionCall) {snapshot : SnapshotDTO}
    (isDelivered : delivered call = some snapshot) :
    Applies state snapshot (sessionStep state call) := by
  cases call with
  | runtime call => cases isDelivered
  | drainEvents => cases isDelivered
  | poll localReceiveTimeMs polled =>
      unfold sessionStep
      dsimp only
      rw [receive_snapshot localReceiveTimeMs state polled isDelivered]
      refine ⟨rfl, rfl, ?_⟩
      have applied := apply_snapshot_grows polled.order state.runtime.simulation snapshot
        state.runtime.localClientId
      obtain ⟨added, queued⟩ := replay_appends
        (applySnapshot polled.order state.runtime.simulation snapshot state.runtime.localClientId)
        (state.runtime.pendingInputs.acknowledgeThrough snapshot.ackedInputSequence).unackedInputs
      have grown := congrArg List.length queued
      rw [List.length_append] at grown
      exact Nat.lt_of_lt_of_le applied (grown ▸ Nat.le_add_right _ _)

theorem session_step_other (state : PumpState) (call : SessionCall)
    (isOther : delivered call = none) :
    (sessionStep state call).stats.lastSnapshotId = state.stats.lastSnapshotId ∧
    (sessionStep state call).stats.lastAckedInputSequence =
      state.stats.lastAckedInputSequence := by
  cases call with
  | runtime call => exact ⟨rfl, rfl⟩
  | drainEvents => exact ⟨rfl, rfl⟩
  | poll localReceiveTimeMs polled =>
      have noSnapshot : snapshotIn polled.envelope = none := isOther
      unfold sessionStep PumpState.receive
      dsimp only
      rw [noSnapshot]
      cases timeSyncResponseIn polled.envelope with
      | some response => exact ⟨rfl, rfl⟩
      | none =>
          cases eventIn polled.envelope with
          | none => exact ⟨rfl, rfl⟩
          | some event =>
              -- Accepting a spawn changes other statistics only.
              unfold PumpState.receiveEvent
              rw [apply_ite ClientSessionStats.lastSnapshotId,
                apply_ite ClientSessionStats.lastAckedInputSequence]
              exact ⟨ite_self _, ite_self _⟩

/-! Runs. -/

variable (localClientId : ClientId) (config : SimulationConfig)

theorem session_run_concat (calls : List SessionCall) (call : SessionCall) :
    sessionRun localClientId config (calls ++ [call]) =
      sessionStep (sessionRun localClientId config calls) call :=
  Runs.run_append sessionStep _ calls [call]

theorem deliveries_concat (calls : List SessionCall) (call : SessionCall) :
    deliveries (calls ++ [call]) = deliveries calls ++ (delivered call).toList := by
  unfold deliveries
  rw [List.filterMap_append]
  cases isDelivered : delivered call <;> simp [isDelivered]

/-- The statistics show the snapshot that was delivered last. -/
theorem session_run_last (calls : List SessionCall) :
    (sessionRun localClientId config calls).stats.lastSnapshotId =
      ((deliveries calls).getLast?.map fun snapshot => snapshot.snapshotId).getD 0 ∧
    (sessionRun localClientId config calls).stats.lastAckedInputSequence =
      ((deliveries calls).getLast?.map fun snapshot => snapshot.ackedInputSequence).getD 0 := by
  induction calls using List.reverseRecOn with
  | nil => exact ⟨rfl, rfl⟩
  | append_singleton calls call ih =>
      rw [session_run_concat, deliveries_concat]
      cases isDelivered : delivered call with
      | none =>
          obtain ⟨sameId, sameInput⟩ := session_step_other
            (sessionRun localClientId config calls) call isDelivered
          rw [sameId, sameInput]
          simpa using ih
      | some snapshot =>
          have applies := session_step_applies
            (sessionRun localClientId config calls) call isDelivered
          rw [applies.snapshotId, applies.input]
          simp

/-- The statistics follow the last delivery, so a delivery that may follow all
earlier ones never lets them decrease. -/
theorem session_step_increases (calls : List SessionCall) (call : SessionCall)
    (follows : ∀ earlier ∈ deliveries calls, ∀ later, delivered call = some later →
      Follows earlier later) :
    (sessionRun localClientId config calls).stats.lastSnapshotId ≤
      (sessionRun localClientId config (calls ++ [call])).stats.lastSnapshotId ∧
    (sessionRun localClientId config calls).stats.lastAckedInputSequence ≤
      (sessionRun localClientId config (calls ++ [call])).stats.lastAckedInputSequence := by
  rw [session_run_concat]
  cases isDelivered : delivered call with
  | none =>
      obtain ⟨sameId, sameInput⟩ := session_step_other
        (sessionRun localClientId config calls) call isDelivered
      rw [sameId, sameInput]
      exact ⟨UInt32.le_refl _, UInt32.le_refl _⟩
  | some snapshot =>
      have applies := session_step_applies
        (sessionRun localClientId config calls) call isDelivered
      obtain ⟨lastId, lastInput⟩ := session_run_last localClientId config calls
      rw [applies.snapshotId, applies.input, lastId, lastInput]
      cases isLast : (deliveries calls).getLast? with
      | none => exact ⟨UInt32.zero_le, UInt32.zero_le⟩
      | some last =>
          have newer := follows last (List.mem_of_getLast? isLast) snapshot isDelivered
          exact ⟨UInt32.le_of_lt newer.1, newer.2⟩

/-! The sequenced calls. -/

/-- Deliveries in order are all kept. -/
theorem sequenced_in_order (calls rest : List SessionCall) (applied : List SnapshotId)
    (inOrder : DeliveredInOrder calls)
    (above : ∀ id ∈ applied, ∀ snapshot ∈ deliveries calls, id < snapshot.snapshotId) :
    ∃ known, sequenced applied (calls ++ rest) = calls ++ sequenced known rest ∧
      (∀ id ∈ applied, id ∈ known) ∧
      ∀ snapshot ∈ deliveries calls, snapshot.snapshotId ∈ known := by
  induction calls generalizing applied with
  | nil =>
      exact ⟨applied, rfl, fun id member => member, fun snapshot member =>
        absurd member List.not_mem_nil⟩
  | cons call calls ih =>
      unfold DeliveredInOrder deliveries at inOrder
      unfold deliveries at above ⊢
      rw [List.filterMap_cons] at inOrder above ⊢
      rw [List.cons_append, sequenced]
      cases isDelivered : delivered call with
      | none =>
          rw [isDelivered] at inOrder above
          obtain ⟨known, kept, all⟩ := ih applied inOrder above
          exact ⟨known, congrArg (List.cons call) kept, all⟩
      | some snapshot =>
          rw [isDelivered] at inOrder above
          dsimp only at inOrder above ⊢
          obtain ⟨first, others⟩ := List.pairwise_cons.mp inOrder
          have fresh : (applied.all fun id => id < snapshot.snapshotId) = true :=
            List.all_eq_true.mpr fun id member =>
              decide_eq_true (above id member snapshot List.mem_cons_self)
          have aboveToo : ∀ id ∈ snapshot.snapshotId :: applied, ∀ later ∈ deliveries calls,
              id < later.snapshotId := by
            intro id member later isLater
            rcases List.mem_cons.mp member with rfl | old
            · exact (first later isLater).1
            · exact above id old later (List.mem_cons_of_mem _ isLater)
          obtain ⟨known, kept, old, new⟩ := ih (snapshot.snapshotId :: applied) others aboveToo
          rw [if_pos fresh]
          refine ⟨known, congrArg (List.cons call) kept, ?_, ?_⟩
          · exact fun id member => old id (List.mem_cons_of_mem _ member)
          · intro other member
            rcases List.mem_cons.mp member with rfl | later
            · exact old _ List.mem_cons_self
            · exact new other later

theorem sequenced_all (calls : List SessionCall) (inOrder : DeliveredInOrder calls) :
    sequenced [] calls = calls := by
  obtain ⟨known, kept, _⟩ := sequenced_in_order calls [] [] inOrder
    (fun id member => absurd member List.not_mem_nil)
  simpa [sequenced] using kept

/-- A delivery that is not newer than all before it is left out. -/
theorem sequenced_drops (calls : List SessionCall) (call : SessionCall)
    (inOrder : DeliveredInOrder calls) {snapshot older : SnapshotDTO}
    (isDelivered : delivered call = some snapshot) (isOlder : older ∈ deliveries calls)
    (stale : snapshot.snapshotId ≤ older.snapshotId) :
    sequenced [] (calls ++ [call]) = calls := by
  obtain ⟨known, kept, _, names⟩ := sequenced_in_order calls [call] [] inOrder
    (fun id member => absurd member List.not_mem_nil)
  have refused : ¬ (known.all fun id => id < snapshot.snapshotId) = true := fun newer =>
    absurd (of_decide_eq_true (List.all_eq_true.mp newer _ (names older isOlder)))
      (UInt32.not_lt.mpr stale)
  rw [kept, sequenced, isDelivered]
  dsimp only
  rw [if_neg refused, sequenced, List.append_nil]

/-! The condition. -/

theorem in_order_concat (calls : List SessionCall) (call : SessionCall) :
    DeliveredInOrder (calls ++ [call]) ↔ DeliveredInOrder calls ∧
      ∀ earlier ∈ deliveries calls, ∀ later, delivered call = some later →
        Follows earlier later := by
  unfold DeliveredInOrder
  rw [deliveries_concat, List.pairwise_append]
  cases delivered call <;> simp

theorem in_order_front {calls rest : List SessionCall} (inOrder : DeliveredInOrder (calls ++ rest)) :
    DeliveredInOrder calls := by
  unfold DeliveredInOrder deliveries at *
  rw [List.filterMap_append] at inOrder
  exact (List.pairwise_append.mp inOrder).1

/-- The last delivery has the newest acknowledgement of those in order. -/
theorem last_input_newest {calls : List SessionCall} (inOrder : DeliveredInOrder calls)
    {earlier : SnapshotDTO} (member : earlier ∈ deliveries calls) :
    earlier.ackedInputSequence ≤
      ((deliveries calls).getLast?.map fun snapshot => snapshot.ackedInputSequence).getD 0 := by
  unfold DeliveredInOrder at inOrder
  rcases List.eq_nil_or_concat (deliveries calls) with empty | ⟨rest, last, isConcat⟩
  · rw [empty] at member
    cases member
  · rw [isConcat, List.concat_eq_append] at inOrder member ⊢
    rw [List.getLast?_concat]
    rcases List.mem_append.mp member with old | new
    · exact ((List.pairwise_append.mp inOrder).2.2 earlier old last (List.mem_singleton.mpr rfl)).2
    · rw [List.mem_singleton.mp new]
      exact UInt32.le_refl _

theorem sequenced_of_in_order (calls : List SessionCall) (inOrder : DeliveredInOrder calls) :
    Sequenced localClientId config calls := by
  have follows (earlier : List SessionCall) (call : SessionCall) (later : List SessionCall)
      (split : calls = earlier ++ call :: later) :
      ∀ first ∈ deliveries earlier, ∀ second, delivered call = some second →
        Follows first second := by
    rw [split, ← List.singleton_append, ← List.append_assoc] at inOrder
    exact ((in_order_concat earlier call).mp (in_order_front inOrder)).2
  constructor
  · intro earlier later split
    rw [split] at inOrder
    rw [sequenced_all earlier (in_order_front inOrder)]
  · intro earlier call later split
    exact (session_step_increases localClientId config earlier call
      (follows earlier call later split)).1
  · intro earlier call later split
    exact (session_step_increases localClientId config earlier call
      (follows earlier call later split)).2
  · -- No delivery is stale.
    rintro earlier call later snapshot split isDelivered ⟨newer, member, stale⟩
    have fresh := (follows earlier call later split newer member snapshot isDelivered).1
    exact absurd fresh (UInt32.not_lt.mpr stale)

theorem sequenced_front {calls : List SessionCall} {call : SessionCall}
    (holds : Sequenced localClientId config (calls ++ [call])) :
    Sequenced localClientId config calls where
  simulation := by
    intro earlier later split
    exact holds.simulation earlier (later ++ [call]) (by rw [split, List.append_assoc])
  snapshotIds := by
    intro earlier other later split
    exact holds.snapshotIds earlier other (later ++ [call]) (by rw [split]; simp)
  inputs := by
    intro earlier other later split
    exact holds.inputs earlier other (later ++ [call]) (by rw [split]; simp)
  player := by
    intro earlier other later snapshot split
    exact holds.player earlier other (later ++ [call]) snapshot (by rw [split]; simp)

/-- A delivery that is not in order shows: it queues an event, although it
should not have been applied, or it takes an acknowledgement back. -/
theorem in_order_of_sequenced (calls : List SessionCall)
    (holds : Sequenced localClientId config calls) : DeliveredInOrder calls := by
  induction calls using List.reverseRecOn with
  | nil => exact List.Pairwise.nil
  | append_singleton calls call ih =>
      have inOrder := ih (sequenced_front localClientId config holds)
      rw [in_order_concat]
      refine ⟨inOrder, ?_⟩
      intro earlier member later isDelivered
      have applies := session_step_applies (sessionRun localClientId config calls) call isDelivered
      constructor
      · by_contra notNewer
        have stale := UInt32.not_lt.mp notNewer
        have same := holds.simulation (calls ++ [call]) [] (List.append_nil _).symm
        rw [sequenced_drops calls call inOrder isDelivered member stale,
          session_run_concat] at same
        have grows := applies.grows
        rw [same] at grows
        exact Nat.lt_irrefl _ grows
      · have kept := holds.inputs calls call [] rfl
        rw [session_run_concat, applies.input,
          (session_run_last localClientId config calls).2] at kept
        exact UInt32.le_trans (last_input_newest inOrder member) kept

/-- A session behaves as if its snapshots were sequenced exactly when they are
delivered in order. -/
theorem snapshots_sequenced (calls : List SessionCall) :
    Sequenced localClientId config calls ↔ DeliveredInOrder calls := by
  constructor
  · exact in_order_of_sequenced localClientId config calls
  · exact sequenced_of_in_order localClientId config calls

/-- What a server with client 1 sends before and after a tick in which the
client's player moves. -/
def sentSnapshot (snapshotId : SnapshotId) (calls : List ServerCall) : SessionCall :=
  let snapshot := buildSnapshot .stored (serverRun {} calls) 1 snapshotId 0
  .poll 0 { envelope := { channel := .snapshots, messageClass := .snapshot, sequence := snapshotId,
                          payload := SnapshotCodec.serializeSnapshot snapshot } }

def firstSnapshot : SessionCall := sentSnapshot 1 [.login { header := { clientId := 1 } }]

def secondSnapshot : SessionCall :=
  sentSnapshot 2 [.login { header := { clientId := 1 } }, .input (packetOf 1 { moveX := 1 }),
    .tick .stored]

/-- The network swaps the two snapshots: the player goes back to where it was
before the tick. -/
theorem snapshots_not_sequenced :
    ¬ Sequenced 1 {} [secondSnapshot, firstSnapshot] ∧
    clientMotion (sessionRun 1 {} [secondSnapshot]).runtime.simulation 1 =
      some (1408665, 1280000, 41600, 0) ∧
    clientMotion (sessionRun 1 {} [secondSnapshot, firstSnapshot]).runtime.simulation 1 =
      some (1408000, 1280000, 0, 0) := by
  refine ⟨?_, by decide +kernel, by decide +kernel⟩
  intro holds
  have kept := holds.snapshotIds [secondSnapshot] firstSnapshot [] rfl
  exact absurd kept (by decide +kernel)

end Brawololo.SnapshotSequencing
