import Brawololo.ReliableEvents

/-!
The resend schedule of reliable events, without the code that keeps it. A ledger
has the time of everything that happened and the events still to be
acknowledged; a turn is one thing a host may do to it at a time. What every turn
keeps bounds the sends of each event, spaces them and stops them.
-/

namespace Brawololo.ResendLedger

open GameTypes NetworkEvents Server ServerClientReplicationState
open DeliveryBooks ReliableEvents Histories

/-! Ledgers. -/

abbrev Log := List (TimestampMs × Happening)

@[ext] structure Ledger where
  log : Log := []
  pending : ClientId → NetworkEventId → Option PendingReliableEvent := fun _ _ => none

namespace Ledger

def trace (ledger : Ledger) : Trace := ledger.log.map Prod.snd

def write (ledger : Ledger) (nowMs : TimestampMs) (added : Trace) : Ledger :=
  { ledger with log := ledger.log ++ added.map fun happening => (nowMs, happening) }

def file (ledger : Ledger) (clientId : ClientId) (eventId : NetworkEventId)
    (entry : Option PendingReliableEvent) : Ledger :=
  { ledger with
    pending := fun other otherId =>
      if other = clientId ∧ otherId = eventId then entry else ledger.pending other otherId }

/-- An event was handed over; one that is taken is tracked. -/
def send (ledger : Ledger) (nowMs : TimestampMs) (clientId : ClientId) (event : NetworkEventDTO)
    (isResend accepted : Bool) : Ledger :=
  (if accepted then
    ledger.file clientId event.eventId
      (some (trackedEntry event nowMs ((ledger.pending clientId event.eventId).getD {})))
  else ledger).write nowMs [.handed clientId (.event event isResend) accepted]

def acknowledge (ledger : Ledger) (nowMs : TimestampMs) (clientId : ClientId)
    (eventId : NetworkEventId) : Ledger :=
  (ledger.file clientId eventId none).write nowMs [.eventAcked clientId eventId]

@[simp] theorem write_pending (ledger : Ledger) (nowMs : TimestampMs) (added : Trace) :
    (ledger.write nowMs added).pending = ledger.pending := rfl

@[simp] theorem file_log (ledger : Ledger) (clientId : ClientId) (eventId : NetworkEventId)
    (entry : Option PendingReliableEvent) :
    (ledger.file clientId eventId entry).log = ledger.log := rfl

@[simp] theorem write_log (ledger : Ledger) (nowMs : TimestampMs) (added : Trace) :
    (ledger.write nowMs added).log =
      ledger.log ++ added.map fun happening => (nowMs, happening) := rfl

@[simp] theorem write_trace (ledger : Ledger) (nowMs : TimestampMs) (added : Trace) :
    (ledger.write nowMs added).trace = ledger.trace ++ added := by
  simp [trace, List.map_map, Function.comp_def]

@[simp] theorem send_log (ledger : Ledger) (nowMs : TimestampMs) (clientId : ClientId)
    (event : NetworkEventDTO) (isResend accepted : Bool) :
    (ledger.send nowMs clientId event isResend accepted).log =
      ledger.log ++ [(nowMs, .handed clientId (.event event isResend) accepted)] := by
  cases accepted <;> rfl

@[simp] theorem send_trace (ledger : Ledger) (nowMs : TimestampMs) (clientId : ClientId)
    (event : NetworkEventDTO) (isResend accepted : Bool) :
    (ledger.send nowMs clientId event isResend accepted).trace =
      ledger.trace ++ [.handed clientId (.event event isResend) accepted] := by
  simp [trace]

@[simp] theorem acknowledge_trace (ledger : Ledger) (nowMs : TimestampMs) (clientId : ClientId)
    (eventId : NetworkEventId) :
    (ledger.acknowledge nowMs clientId eventId).trace =
      ledger.trace ++ [.eventAcked clientId eventId] := by
  simp [acknowledge, trace]

/-- What a send leaves pending. -/
theorem send_pending (ledger : Ledger) (nowMs : TimestampMs) (clientId : ClientId)
    (event : NetworkEventDTO) (isResend accepted : Bool) (other : ClientId)
    (eventId : NetworkEventId) :
    (ledger.send nowMs clientId event isResend accepted).pending other eventId =
      if accepted = true ∧ other = clientId ∧ eventId = event.eventId then
        some (trackedEntry event nowMs ((ledger.pending clientId event.eventId).getD {}))
      else ledger.pending other eventId := by
  cases accepted with
  | false => simp [send]
  | true => simp [send, file]

end Ledger

structure Policy where
  baseIntervalMs : TimestampMs
  maxSendCount : UInt32

/-- What a host may do at one time. An event is sent again when it is due. -/
inductive Turn (policy : Policy) (nowMs : TimestampMs) (before : Ledger) : Ledger → Prop
  | quiet (added : Trace) (silent : ∀ happening ∈ added, NotAboutEvents happening) :
      Turn policy nowMs before (before.write nowMs added)
  | sent (clientId : ClientId) (event : NetworkEventDTO) (isResend accepted : Bool)
      (again : isResend = true → ∃ entry, before.pending clientId event.eventId = some entry ∧
        entry.event = event ∧
        dueForResend nowMs policy.baseIntervalMs policy.maxSendCount entry = true) :
      Turn policy nowMs before (before.send nowMs clientId event isResend accepted)

def Turns (policy : Policy) (nowMs : TimestampMs) : Ledger → Ledger → Prop :=
  Relation.ReflTransGen (Turn policy nowMs)

/-! When an event was taken, and when it is due. -/

def takenAt (clientId : ClientId) (eventId : NetworkEventId) :
    TimestampMs × Happening → Option TimestampMs
  | (nowMs, .handed other (.event event _) true) =>
      if other = clientId ∧ event.eventId = eventId then some nowMs else none
  | _ => none

/-- The times of the successful sends of an event to a client, oldest first. -/
def sendTimes (clientId : ClientId) (eventId : NetworkEventId) (log : Log) : List TimestampMs :=
  log.filterMap (takenAt clientId eventId)

/-- The exponent after a number of sends, which the code counts in 32 bits. -/
def backoffShift (sent : Nat) : Nat := min (sent % 2 ^ 32 - 1) 4

/-- When an event is due that was sent a number of times, the last time at `lastMs`. -/
def dueMs (baseIntervalMs : TimestampMs) (sent : Nat) (lastMs : TimestampMs) : Nat :=
  lastMs.toNat + baseIntervalMs.toNat * 2 ^ backoffShift sent

theorem shift_of_count (entry : PendingReliableEvent) (sent : Nat)
    (counted : entry.sendCount = UInt32.ofNat sent) :
    (min (if 0 < entry.sendCount then entry.sendCount - 1 else 0) 4).toNat = backoffShift sent := by
  have count : entry.sendCount.toNat = sent % 2 ^ 32 := by
    rw [counted, UInt32.toNat_ofNat']
  have least (value : UInt32) : (min value 4).toNat = min value.toNat 4 := by
    have four : (4 : UInt32).toNat = 4 := rfl
    rw [UInt32.min_def]
    split
    · next le =>
        rw [UInt32.le_iff_toNat_le, four] at le
        exact (Nat.min_eq_left le).symm
    · next gt =>
        rw [UInt32.le_iff_toNat_le, four] at gt
        exact (Nat.min_eq_right (Nat.le_of_not_le gt)).symm
  rw [least, backoffShift, ← count]
  congr 1
  split
  · next positive =>
      apply UInt32.toNat_sub_of_le
      rw [UInt32.le_iff_toNat_le]
      exact UInt32.lt_iff_toNat_lt.mp positive
  · next zero =>
      have isZero : entry.sendCount.toNat = 0 :=
        Nat.le_zero.mp (UInt32.le_iff_toNat_le.mp (UInt32.not_lt.mp zero))
      rw [isZero]
      rfl

/-- The delay of the code, whose shift cannot overflow for a small base. -/
theorem resend_delay (baseIntervalMs : TimestampMs) (small : baseIntervalMs.toNat < 2 ^ 59)
    (entry : PendingReliableEvent) (sent : Nat)
    (counted : entry.sendCount = UInt32.ofNat sent) :
    (resendDelayMs baseIntervalMs entry).toNat = baseIntervalMs.toNat * 2 ^ backoffShift sent := by
  have shift := shift_of_count entry sent counted
  have few : backoffShift sent ≤ 4 := Nat.min_le_right _ _
  have delay : baseIntervalMs.toNat * 2 ^ backoffShift sent < 2 ^ 64 := by
    calc baseIntervalMs.toNat * 2 ^ backoffShift sent
      _ ≤ baseIntervalMs.toNat * 2 ^ 4 :=
          Nat.mul_le_mul_left _ (Nat.pow_le_pow_right (by decide) few)
      _ < 2 ^ 64 := by omega
  have inRange : backoffShift sent % 64 = backoffShift sent := Nat.mod_eq_of_lt (by omega)
  unfold resendDelayMs
  dsimp only
  rw [UInt64.toNat_shiftLeft, UInt32.toNat_toUInt64, shift, inRange, Nat.shiftLeft_eq,
    Nat.mod_eq_of_lt delay]

/-- An entry that the code finds due has reached its due time, if that fits. -/
theorem due_reached {baseIntervalMs nowMs : TimestampMs} {maxSendCount : UInt32}
    (small : baseIntervalMs.toNat < 2 ^ 59) {entry : PendingReliableEvent} {sent : Nat}
    (counted : entry.sendCount = UInt32.ofNat sent)
    (due : dueForResend nowMs baseIntervalMs maxSendCount entry = true)
    (fits : dueMs baseIntervalMs sent entry.lastSentAtMs < 2 ^ 64) :
    dueMs baseIntervalMs sent entry.lastSentAtMs ≤ nowMs.toNat := by
  have reached := of_decide_eq_true (Bool.and_eq_true_iff.mp due).2
  unfold dueMs at fits ⊢
  rwa [UInt64.le_iff_toNat_le, UInt64.toNat_add, resend_delay _ small entry sent counted,
    Nat.mod_eq_of_lt fits] at reached

/-- The code finds an entry due that is below its cap and has reached its time. -/
theorem reached_due {baseIntervalMs nowMs : TimestampMs} {maxSendCount : UInt32}
    (small : baseIntervalMs.toNat < 2 ^ 59) {entry : PendingReliableEvent} {sent : Nat}
    (counted : entry.sendCount = UInt32.ofNat sent) (below : belowCap maxSendCount entry = true)
    (reached : dueMs baseIntervalMs sent entry.lastSentAtMs ≤ nowMs.toNat) :
    dueForResend nowMs baseIntervalMs maxSendCount entry = true := by
  have fits := lt_of_le_of_lt reached nowMs.toNat_lt
  refine Bool.and_eq_true_iff.mpr ⟨below, decide_eq_true ?_⟩
  unfold dueMs at fits reached
  rwa [UInt64.le_iff_toNat_le, UInt64.toNat_add, resend_delay _ small entry sent counted,
    Nat.mod_eq_of_lt fits]

/-- Each send but the first waits until the event was due, if that time fits. -/
def Spaced (baseIntervalMs : TimestampMs) (times : List TimestampMs) : Prop :=
  ∀ sent earlier later, 1 ≤ sent → times[sent - 1]? = some earlier →
    times[sent]? = some later → dueMs baseIntervalMs sent earlier < 2 ^ 64 →
    dueMs baseIntervalMs sent earlier ≤ later.toNat

theorem spaced_concat {baseIntervalMs nowMs : TimestampMs} {times : List TimestampMs}
    (spaced : Spaced baseIntervalMs times)
    (last : ∀ lastMs, times.getLast? = some lastMs →
      dueMs baseIntervalMs times.length lastMs < 2 ^ 64 →
      dueMs baseIntervalMs times.length lastMs ≤ nowMs.toNat) :
    Spaced baseIntervalMs (times ++ [nowMs]) := by
  intro sent earlier later positive isEarlier isLater fits
  rcases Nat.lt_trichotomy sent times.length with inside | isLast | outside
  · rw [List.getElem?_append_left inside] at isLater
    rw [List.getElem?_append_left (by omega)] at isEarlier
    exact spaced sent earlier later positive isEarlier isLater fits
  · rw [isLast, List.getElem?_concat_length] at isLater
    cases isLater
    rw [List.getElem?_append_left (by omega), isLast, ← List.getLast?_eq_getElem?] at isEarlier
    rw [isLast] at fits ⊢
    exact last earlier isEarlier fits
  · rw [List.getElem?_eq_none (by simp; omega)] at isLater
    cases isLater

/-! What every turn keeps. -/

/-- No event is sent first under an id that was sent first to the client before. -/
def FirstOnce (earlier : Trace) (happening : Happening) : Prop :=
  ∀ clientId event accepted, happening = .handed clientId (.event event false) accepted →
    ∀ other answer, other.eventId = event.eventId →
      Happening.handed clientId (.event other false) answer ∉ earlier

/-- No event is handed to a client that acknowledged it. -/
def NeverAfterAck (earlier : Trace) (happening : Happening) : Prop :=
  ∀ clientId event isResend accepted,
    happening = .handed clientId (.event event isResend) accepted →
      Happening.eventAcked clientId event.eventId ∉ earlier

/-- What the ledger says about one event and one client. -/
structure Slot (policy : Policy) (ledger : Ledger) (clientId : ClientId)
    (eventId : NetworkEventId) : Prop where
  own : ∀ entry, ledger.pending clientId eventId = some entry → entry.event.eventId = eventId
  counted : ∀ entry, ledger.pending clientId eventId = some entry →
    entry.sendCount = UInt32.ofNat (sendTimes clientId eventId ledger.log).length ∧
      (sendTimes clientId eventId ledger.log).getLast? = some entry.lastSentAtMs
  begun : sendTimes clientId eventId ledger.log ≠ [] → ∃ event answer,
    Happening.handed clientId (.event event false) answer ∈ ledger.trace ∧
      event.eventId = eventId
  held : sendTimes clientId eventId ledger.log ≠ [] →
    Happening.eventAcked clientId eventId ∉ ledger.trace →
      (ledger.pending clientId eventId).isSome
  released : Happening.eventAcked clientId eventId ∈ ledger.trace →
    ledger.pending clientId eventId = none ∧ sendTimes clientId eventId ledger.log ≠ []
  capped : policy.maxSendCount ≠ 0 →
    (sendTimes clientId eventId ledger.log).length ≤ policy.maxSendCount.toNat
  spaced : Spaced policy.baseIntervalMs (sendTimes clientId eventId ledger.log)

/-- What was written is not about the event and the client. -/
structure Elsewhere (clientId : ClientId) (eventId : NetworkEventId) (added : Log) : Prop where
  untaken : sendTimes clientId eventId added = []
  unacked : Happening.eventAcked clientId eventId ∉ added.map Prod.snd

theorem slot_frame {policy : Policy} {before after : Ledger} {clientId : ClientId}
    {eventId : NetworkEventId} {added : Log} (log : after.log = before.log ++ added)
    (pending : after.pending clientId eventId = before.pending clientId eventId)
    (elsewhere : Elsewhere clientId eventId added) (slot : Slot policy before clientId eventId) :
    Slot policy after clientId eventId := by
  have times : sendTimes clientId eventId after.log = sendTimes clientId eventId before.log := by
    unfold sendTimes
    rw [log, List.filterMap_append]
    exact (congrArg _ elsewhere.untaken).trans (List.append_nil _)
  have trace : after.trace = before.trace ++ added.map Prod.snd := by
    unfold Ledger.trace
    rw [log, List.map_append]
  have acked : Happening.eventAcked clientId eventId ∈ after.trace ↔
      Happening.eventAcked clientId eventId ∈ before.trace := by
    rw [trace, List.mem_append]
    exact or_iff_left elsewhere.unacked
  constructor
  · rw [pending]
    exact slot.own
  · rw [pending, times]
    exact slot.counted
  · intro taken
    rw [times] at taken
    obtain ⟨event, answer, first, same⟩ := slot.begun taken
    exact ⟨event, answer, trace ▸ List.mem_append_left _ first, same⟩
  · rw [times, acked, pending]
    exact slot.held
  · rw [times, acked, pending]
    exact slot.released
  · rw [times]
    exact slot.capped
  · rw [times]
    exact slot.spaced

/-- Every slot is in order, and nothing was sent after its acknowledgement. -/
structure InOrder (policy : Policy) (ledger : Ledger) : Prop where
  slots : ∀ clientId eventId, Slot policy ledger clientId eventId
  silent : EveryEvent NeverAfterAck ledger.trace

theorem start_in_order (policy : Policy) : InOrder policy {} where
  slots := by
    intro clientId eventId
    refine ⟨by simp, by simp, by simp [sendTimes], by simp [sendTimes], ?_, by simp [sendTimes],
      ?_⟩
    · intro acked
      cases acked
    · intro sent earlier later _ isEarlier
      cases isEarlier
  silent := every_event_nil _

theorem quiet_elsewhere (clientId : ClientId) (eventId : NetworkEventId) (nowMs : TimestampMs)
    {added : Trace} (silent : ∀ happening ∈ added, NotAboutEvents happening) :
    Elsewhere clientId eventId (added.map fun happening => (nowMs, happening)) := by
  constructor
  · apply List.filterMap_eq_nil_iff.mpr
    intro stamped member
    obtain ⟨happening, isAdded, rfl⟩ := List.mem_map.mp member
    unfold takenAt
    split
    · next _ other event isResend same =>
        cases same
        exact absurd rfl ((silent _ isAdded).1 other event isResend true)
    · rfl
  · intro acked
    rw [List.map_map] at acked
    obtain ⟨happening, isAdded, same⟩ := List.mem_map.mp acked
    exact (silent happening isAdded).2 clientId eventId same

theorem quiet_never {trace added : Trace} (every : EveryEvent NeverAfterAck trace)
    (silent : ∀ happening ∈ added, NotAboutEvents happening) :
    EveryEvent NeverAfterAck (trace ++ added) :=
  every_event_append every fun happening member _ clientId event isResend accepted same =>
    absurd same ((silent happening member).1 clientId event isResend accepted)

section Sending

variable {policy : Policy} {nowMs : TimestampMs} {before : Ledger} {clientId : ClientId}
  {event : NetworkEventDTO} {isResend : Bool}

/-- What lets a host send an event: that it is its first send, or that it is due. -/
inductive Ready (policy : Policy) (nowMs : TimestampMs) (before : Ledger) (clientId : ClientId)
    (event : NetworkEventDTO) : Bool → Prop
  | first (absent : before.pending clientId event.eventId = none)
      (untaken : sendTimes clientId event.eventId before.log = [])
      (unacked : Happening.eventAcked clientId event.eventId ∉ before.trace) :
      Ready policy nowMs before clientId event false
  | again (entry : PendingReliableEvent)
      (pends : before.pending clientId event.eventId = some entry) (same : entry.event = event)
      (due : dueForResend nowMs policy.baseIntervalMs policy.maxSendCount entry = true)
      (taken : sendTimes clientId event.eventId before.log ≠ [])
      (unacked : Happening.eventAcked clientId event.eventId ∉ before.trace) :
      Ready policy nowMs before clientId event true

theorem sent_ready (slot : Slot policy before clientId event.eventId)
    (again : isResend = true → ∃ entry, before.pending clientId event.eventId = some entry ∧
      entry.event = event ∧
      dueForResend nowMs policy.baseIntervalMs policy.maxSendCount entry = true)
    (once : isResend = false → ∀ other answer, other.eventId = event.eventId →
      Happening.handed clientId (.event other false) answer ∉ before.trace) :
    Ready policy nowMs before clientId event isResend := by
  cases isResend with
  | false =>
      have untaken : sendTimes clientId event.eventId before.log = [] := by
        by_contra taken
        obtain ⟨other, answer, first, same⟩ := slot.begun taken
        exact once rfl other answer same first
      refine .first ?_ untaken fun acked => (slot.released acked).2 untaken
      cases pends : before.pending clientId event.eventId with
      | none => rfl
      | some entry =>
          have last := (slot.counted entry pends).2
          rw [untaken] at last
          cases last
  | true =>
      obtain ⟨entry, pends, same, due⟩ := again rfl
      refine .again entry pends same due ?_ ?_
      · intro untaken
        have last := (slot.counted entry pends).2
        rw [untaken] at last
        cases last
      · intro acked
        rw [(slot.released acked).1] at pends
        cases pends

theorem Ready.unacked (ready : Ready policy nowMs before clientId event isResend) :
    Happening.eventAcked clientId event.eventId ∉ before.trace := by
  cases ready with
  | first absent untaken unacked => exact unacked
  | again entry pends same due taken unacked => exact unacked

/-- The entry that a send tracks counts the sends so far. -/
theorem Ready.counted (ready : Ready policy nowMs before clientId event isResend)
    (slot : Slot policy before clientId event.eventId) :
    ((before.pending clientId event.eventId).getD {}).sendCount =
      UInt32.ofNat (sendTimes clientId event.eventId before.log).length := by
  cases ready with
  | first absent untaken unacked =>
      rw [absent, untaken]
      rfl
  | again entry pends same due taken unacked =>
      rw [pends]
      exact (slot.counted entry pends).1

theorem Ready.spaced (ready : Ready policy nowMs before clientId event isResend)
    (small : policy.baseIntervalMs.toNat < 2 ^ 59)
    (slot : Slot policy before clientId event.eventId) :
    Spaced policy.baseIntervalMs (sendTimes clientId event.eventId before.log ++ [nowMs]) := by
  refine spaced_concat slot.spaced fun lastMs isLast fits => ?_
  cases ready with
  | first absent untaken unacked =>
      rw [untaken] at isLast
      cases isLast
  | again entry pends same due taken unacked =>
      obtain ⟨counted, last⟩ := slot.counted entry pends
      rw [last] at isLast
      cases isLast
      exact due_reached small counted due fits

theorem Ready.capped (ready : Ready policy nowMs before clientId event isResend)
    (slot : Slot policy before clientId event.eventId) (isCap : policy.maxSendCount ≠ 0) :
    (sendTimes clientId event.eventId before.log).length + 1 ≤ policy.maxSendCount.toNat := by
  cases ready with
  | first absent untaken unacked =>
      rw [untaken]
      have positive := UInt32.lt_iff_toNat_lt.mp (UInt32.pos_iff_ne_zero.mpr isCap)
      exact positive
  | again entry pends same due taken unacked =>
      obtain ⟨counted, _⟩ := slot.counted entry pends
      have below := (Bool.and_eq_true_iff.mp due).1
      have less : entry.sendCount < policy.maxSendCount := by
        simpa [belowCap, isCap] using below
      -- Below the cap the count of the code has not wrapped.
      have bounded := slot.capped isCap
      have inRange := policy.maxSendCount.toNat_lt
      rw [UInt32.lt_iff_toNat_lt, counted, UInt32.toNat_ofNat', Nat.mod_eq_of_lt (by omega)] at less
      exact less

/-- A send that was taken leaves its slot in order. -/
theorem slot_taken (small : policy.baseIntervalMs.toNat < 2 ^ 59)
    (ready : Ready policy nowMs before clientId event isResend)
    (slot : Slot policy before clientId event.eventId) :
    Slot policy (before.send nowMs clientId event isResend true) clientId event.eventId := by
  have times : sendTimes clientId event.eventId
      (before.send nowMs clientId event isResend true).log =
      sendTimes clientId event.eventId before.log ++ [nowMs] := by
    simp [sendTimes, takenAt]
  have pending : (before.send nowMs clientId event isResend true).pending clientId event.eventId =
      some (trackedEntry event nowMs ((before.pending clientId event.eventId).getD {})) := by
    simp [Ledger.send_pending]
  have unacked : Happening.eventAcked clientId event.eventId ∉
      (before.send nowMs clientId event isResend true).trace := by
    rw [Ledger.send_trace, List.mem_append, List.mem_singleton]
    exact not_or.mpr ⟨ready.unacked, by simp⟩
  have counted := ready.counted slot
  constructor
  case own =>
    intro entry pends
    rw [pending] at pends
    cases pends
    rcases tracked_event event nowMs (before.pending clientId event.eventId) with
      new | ⟨old, isOld, keeps⟩
    · rw [new]
    · rw [keeps]
      exact slot.own old isOld
  case counted =>
    intro entry pends
    rw [pending] at pends
    cases pends
    rw [times, List.length_append, List.getLast?_concat]
    refine ⟨?_, rfl⟩
    rw [List.length_singleton, UInt32.ofNat_add, ← counted]
    unfold trackedEntry
    dsimp only
    split <;> rfl
  case begun =>
    intro _
    cases ready with
    | first absent untaken _ =>
        refine ⟨event, true, ?_, rfl⟩
        rw [Ledger.send_trace]
        exact List.mem_append_right _ List.mem_cons_self
    | again entry pends same due taken _ =>
        obtain ⟨other, answer, first, sameId⟩ := slot.begun taken
        refine ⟨other, answer, ?_, sameId⟩
        rw [Ledger.send_trace]
        exact List.mem_append_left _ first
  case held =>
    intro _ _
    rw [pending]
    rfl
  case released =>
    intro acked
    exact absurd acked unacked
  case capped =>
    intro isCap
    rw [times, List.length_append]
    exact ready.capped slot isCap
  case spaced =>
    rw [times]
    exact ready.spaced small slot

end Sending

theorem turn_in_order {policy : Policy} (small : policy.baseIntervalMs.toNat < 2 ^ 59)
    {nowMs : TimestampMs} {before after : Ledger} (turn : Turn policy nowMs before after)
    (once : EveryEvent FirstOnce after.trace) (inOrder : InOrder policy before) :
    InOrder policy after := by
  cases turn with
  | quiet added silent =>
      constructor
      · intro clientId eventId
        exact slot_frame rfl rfl (quiet_elsewhere clientId eventId nowMs silent)
          (inOrder.slots clientId eventId)
      · rw [Ledger.write_trace]
        exact quiet_never inOrder.silent silent
  | sent clientId event isResend accepted again =>
      rw [Ledger.send_trace, every_event_concat] at once
      have ready : Ready policy nowMs before clientId event isResend := by
        apply sent_ready (inOrder.slots clientId event.eventId) again
        rintro rfl
        exact once.2 clientId event accepted rfl
      constructor
      · intro other eventId
        by_cases mine : accepted = true ∧ other = clientId ∧ eventId = event.eventId
        · obtain ⟨rfl, rfl, rfl⟩ := mine
          exact slot_taken small ready (inOrder.slots _ _)
        · refine slot_frame (Ledger.send_log _ _ _ _ _ _) ?_ ?_ (inOrder.slots other eventId)
          · rw [Ledger.send_pending, if_neg mine]
          · constructor
            · cases accepted with
              | false => rfl
              | true =>
                  have apart : ¬(clientId = other ∧ event.eventId = eventId) :=
                    fun same => mine ⟨rfl, same.1.symm, same.2.symm⟩
                  simp [sendTimes, takenAt, apart]
            · simp
      · rw [Ledger.send_trace, every_event_concat]
        refine ⟨inOrder.silent, ?_⟩
        rintro _ _ _ _ same
        cases same
        exact ready.unacked

theorem turns_log {policy : Policy} {nowMs : TimestampMs} {before after : Ledger}
    (turns : Turns policy nowMs before after) :
    ∃ added, after.log = before.log ++ added := by
  induction turns with
  | refl => exact ⟨[], (List.append_nil _).symm⟩
  | tail _ turn ih =>
      obtain ⟨first, toMiddle⟩ := ih
      cases turn with
      | quiet added silent =>
          exact ⟨_, by rw [Ledger.write_log, toMiddle, List.append_assoc]⟩
      | sent clientId event isResend accepted again =>
          exact ⟨_, by rw [Ledger.send_log, toMiddle, List.append_assoc]⟩

theorem turns_in_order {policy : Policy} (small : policy.baseIntervalMs.toNat < 2 ^ 59)
    {nowMs : TimestampMs} {before after : Ledger} (turns : Turns policy nowMs before after)
    (once : EveryEvent FirstOnce after.trace) (inOrder : InOrder policy before) :
    InOrder policy after := by
  induction turns with
  | refl => exact inOrder
  | tail _ turn ih =>
      apply turn_in_order small turn once
      apply ih
      obtain ⟨added, grown⟩ := turns_log (.single turn)
      unfold Ledger.trace at once
      rw [grown, List.map_append] at once
      exact every_event_prefix once

/-- An accepted acknowledgement empties the slot of its event for good. -/
theorem acknowledge_in_order {policy : Policy} {nowMs : TimestampMs} {before : Ledger}
    {clientId : ClientId} {eventId : NetworkEventId} {entry : PendingReliableEvent}
    (pends : before.pending clientId eventId = some entry) (inOrder : InOrder policy before) :
    InOrder policy (before.acknowledge nowMs clientId eventId) := by
  constructor
  · intro other otherId
    by_cases mine : other = clientId ∧ otherId = eventId
    · obtain ⟨rfl, rfl⟩ := mine
      have slot := inOrder.slots other otherId
      have pending : (before.acknowledge nowMs other otherId).pending other otherId = none := by
        simp [Ledger.acknowledge, Ledger.file]
      have times : sendTimes other otherId (before.acknowledge nowMs other otherId).log =
          sendTimes other otherId before.log := by
        simp [sendTimes, Ledger.acknowledge, takenAt]
      have acked : Happening.eventAcked other otherId ∈
          (before.acknowledge nowMs other otherId).trace := by simp
      have taken : sendTimes other otherId before.log ≠ [] := by
        intro untaken
        have last := (slot.counted entry pends).2
        rw [untaken] at last
        cases last
      constructor
      case own =>
        simp [pending]
      case counted =>
        simp [pending]
      case begun =>
        intro _
        obtain ⟨event, answer, first, same⟩ := slot.begun taken
        refine ⟨event, answer, ?_, same⟩
        rw [Ledger.acknowledge_trace]
        exact List.mem_append_left _ first
      case held =>
        exact fun _ unacked => absurd acked unacked
      case released =>
        rw [times]
        exact fun _ => ⟨pending, taken⟩
      case capped =>
        rw [times]
        exact slot.capped
      case spaced =>
        rw [times]
        exact slot.spaced
    · have log : (before.acknowledge nowMs clientId eventId).log =
          before.log ++ [(nowMs, .eventAcked clientId eventId)] := rfl
      refine slot_frame log ?_ ?_ (inOrder.slots other otherId)
      · simp [Ledger.acknowledge, Ledger.file, mine]
      · constructor
        · rfl
        · intro acked
          cases List.mem_singleton.mp acked
          exact mine ⟨rfl, rfl⟩
  · rw [Ledger.acknowledge_trace, every_event_concat]
    refine ⟨inOrder.silent, ?_⟩
    intro _ _ _ _ same
    cases same

/-- Until it is sent again, an event stays pending as it is. -/
theorem turns_keep_pending {policy : Policy} (small : policy.baseIntervalMs.toNat < 2 ^ 59)
    {nowMs : TimestampMs} {before after : Ledger} (turns : Turns policy nowMs before after)
    (once : EveryEvent FirstOnce after.trace) (inOrder : InOrder policy before)
    {clientId : ClientId} {entry : PendingReliableEvent}
    (pends : before.pending clientId entry.event.eventId = some entry) :
    after.pending clientId entry.event.eventId = some entry ∨
      ∃ added accepted, after.log = before.log ++ added ∧
        (nowMs, Happening.handed clientId (.event entry.event true) accepted) ∈ added := by
  induction turns with
  | refl => exact Or.inl pends
  | @tail middle last earlier turn ih =>
      obtain ⟨grown, toLast⟩ := turns_log (.single turn)
      have onceMiddle : EveryEvent FirstOnce middle.trace := by
        unfold Ledger.trace at once
        rw [toLast, List.map_append] at once
        exact every_event_prefix once
      have middleInOrder := turns_in_order small earlier onceMiddle inOrder
      rcases ih onceMiddle with stays | ⟨added, accepted, toMiddle, sent⟩
      · cases turn with
        | quiet added silent => exact Or.inl stays
        | sent other event isResend accepted again =>
            rw [Ledger.send_pending]
            by_cases mine : accepted = true ∧ other = clientId ∧ event.eventId = entry.event.eventId
            · obtain ⟨rfl, rfl, sameId⟩ := mine
              rw [Ledger.send_trace, every_event_concat] at once
              -- The id was sent first before, so this is the resend of the entry.
              have ready : Ready policy nowMs middle other event isResend := by
                apply sent_ready (middleInOrder.slots other event.eventId) again
                rintro rfl
                exact once.2 other event true rfl
              right
              obtain ⟨toHere, isHere⟩ := turns_log earlier
              cases ready with
              | first absent untaken unacked =>
                  rw [sameId, stays] at absent
                  cases absent
              | again old isOld same due taken unacked =>
                  rw [sameId, stays] at isOld
                  cases isOld
                  refine ⟨toHere ++ [(nowMs, .handed other (.event event true) true)], true, ?_, ?_⟩
                  · rw [Ledger.send_log, isHere, List.append_assoc]
                  · rw [same]
                    exact List.mem_append_right _ List.mem_cons_self
            · rw [if_neg fun hit => mine ⟨hit.1, hit.2.1.symm, hit.2.2.symm⟩]
              exact Or.inl stays
      · right
        exact ⟨added ++ grown, accepted, by rw [toLast, toMiddle, List.append_assoc],
          List.mem_append_left _ sent⟩

end Brawololo.ResendLedger
