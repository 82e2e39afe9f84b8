import Brawololo.ClientProtocolPump
import Brawololo.TrappingArithmetic

/-!
How far the client's clock is off. A sample of an exchange places the server's
clock at the middle of the round trip, which is wrong by at most half of it. The
clock averages samples with integer division; the average stays between the
lowest and the highest of them.
-/

namespace Brawololo.ClockError

open GameTypes Client TrappingArithmetic

/-! Exchanges. -/

/-- One request and its answer, with the server's clock `d` ahead of the client's.
The times are those of the clocks of the two sides. -/
structure Exchange (d : Int) where
  clientSentAtMs : TimestampMs
  serverReceivedAtMs : TimestampMs
  clientReceivedAtMs : TimestampMs
  outboundMs : Nat
  inboundMs : Nat
  arrives : (serverReceivedAtMs.toNat : Int) = clientSentAtMs.toNat + d + outboundMs
  returns : clientReceivedAtMs.toNat = clientSentAtMs.toNat + outboundMs + inboundMs
  serverBelow : serverReceivedAtMs.toNat < 2 ^ 59
  clientBelow : clientReceivedAtMs.toNat < 2 ^ 59

namespace Exchange

variable {d : Int}

def sample (exchange : Exchange d) : TimeSyncSample :=
  { clientSentAtMs := exchange.clientSentAtMs
    serverReceivedAtMs := exchange.serverReceivedAtMs
    clientReceivedAtMs := exchange.clientReceivedAtMs }

/-- The answer that the server sends at once. -/
def response (clientId : ClientId) (sequence : CommandSequence) (exchange : Exchange d) :
    TimeSyncResponse :=
  { clientId := clientId, sequence := sequence
    clientSentAtMs := exchange.clientSentAtMs
    serverReceivedAtMs := exchange.serverReceivedAtMs
    serverSentAtMs := exchange.serverReceivedAtMs }

def rttMs (exchange : Exchange d) : Nat := exchange.outboundMs + exchange.inboundMs

/-- The offset that the exchange measures. -/
def offsetMs (exchange : Exchange d) : Int :=
  exchange.serverReceivedAtMs.toNat - (exchange.clientSentAtMs.toNat + exchange.rttMs / 2 : Nat)

/-- A measured offset is off by at most half the round trip, rounded up. -/
theorem offset_error (exchange : Exchange d) :
    |exchange.offsetMs - d| ≤ ((exchange.rttMs + 1) / 2 : Nat) := by
  have arrives := exchange.arrives
  rw [offsetMs, rttMs, arrives, abs_le]
  omega

theorem offset_small (exchange : Exchange d) :
    -2 ^ 59 < exchange.offsetMs ∧ exchange.offsetMs < 2 ^ 59 := by
  have returns := exchange.returns
  have serverBelow := exchange.serverBelow
  have clientBelow := exchange.clientBelow
  rw [offsetMs, rttMs]
  omega

theorem rtt_small (exchange : Exchange d) : exchange.rttMs < 2 ^ 59 := by
  have returns := exchange.returns
  have clientBelow := exchange.clientBelow
  rw [rttMs]
  omega

end Exchange

/-! One sample. -/

/-- The code's expressions for what a sample measures. -/
def measuredRtt (sample : TimeSyncSample) : TimestampMs :=
  if sample.clientSentAtMs ≤ sample.clientReceivedAtMs then
    sample.clientReceivedAtMs - sample.clientSentAtMs
  else 0

def measuredOffset (sample : TimeSyncSample) : Int64 :=
  sample.serverReceivedAtMs.toInt64 - (sample.clientSentAtMs + measuredRtt sample / 2).toInt64

section Measured

variable {d : Int} (exchange : Exchange d)

theorem measured_rtt_eq : (measuredRtt exchange.sample).toNat = exchange.rttMs := by
  have returns := exchange.returns
  have ordered : exchange.clientSentAtMs ≤ exchange.clientReceivedAtMs := by
    rw [UInt64.le_iff_toNat_le]
    omega
  unfold measuredRtt Exchange.sample Exchange.rttMs
  rw [if_pos ordered, UInt64.toNat_sub_of_le _ _ ordered]
  omega

theorem measured_offset_eq : (measuredOffset exchange.sample).toInt = exchange.offsetMs := by
  have returns := exchange.returns
  have serverBelow := exchange.serverBelow
  have clientBelow := exchange.clientBelow
  have small := exchange.offset_small
  have half : (measuredRtt exchange.sample / 2).toNat = exchange.rttMs / 2 := by
    rw [UInt64.toNat_div, measured_rtt_eq]
    rfl
  have rtt : exchange.rttMs = exchange.outboundMs + exchange.inboundMs := rfl
  have middle : (exchange.clientSentAtMs + measuredRtt exchange.sample / 2).toNat =
      exchange.clientSentAtMs.toNat + exchange.rttMs / 2 := by
    rw [UInt64.toNat_add, half]
    exact Nat.mod_eq_of_lt (by omega)
  have difference : exchange.offsetMs = (exchange.serverReceivedAtMs.toNat : Int) -
      (exchange.clientSentAtMs.toNat + exchange.rttMs / 2 : Nat) := rfl
  unfold measuredOffset
  rw [Int64.toInt_sub, show exchange.sample.serverReceivedAtMs = exchange.serverReceivedAtMs from rfl,
    show exchange.sample.clientSentAtMs = exchange.clientSentAtMs from rfl,
    toInt64_eq (by omega), toInt64_eq (by rw [middle]; omega), middle, ← difference]
  exact bmod64_eq ⟨by omega, by omega⟩

end Measured

/-! The averages. -/

theorem average_offset {old measured low high : Int} {oldMs measuredMs : Int64}
    (isOld : oldMs.toInt = old) (isMeasured : measuredMs.toInt = measured)
    (oldBetween : low ≤ old ∧ old ≤ high) (measuredBetween : low ≤ measured ∧ measured ≤ high)
    (small : -2 ^ 59 < low ∧ high < 2 ^ 59) :
    low ≤ ((oldMs * 7 + measuredMs) / 8).toInt ∧ ((oldMs * 7 + measuredMs) / 8).toInt ≤ high := by
  have scaled : (oldMs * 7).toInt = old * 7 := by
    rw [Int64.toInt_mul, isOld, show (7 : Int64).toInt = 7 by decide]
    exact bmod64_eq ⟨by omega, by omega⟩
  have sum : (oldMs * 7 + measuredMs).toInt = old * 7 + measured := by
    rw [Int64.toInt_add, scaled, isMeasured]
    exact bmod64_eq ⟨by omega, by omega⟩
  have between : low ≤ (old * 7 + measured).tdiv 8 ∧ (old * 7 + measured).tdiv 8 ≤ high :=
    tdiv_between (by decide) (by omega) (by omega)
  rw [Int64.toInt_div, sum, show (8 : Int64).toInt = 8 by decide,
    bmod64_eq ⟨by omega, by omega⟩]
  exact between

theorem average_rtt {low high : Nat} {oldMs measuredMs : TimestampMs}
    (oldBetween : low ≤ oldMs.toNat ∧ oldMs.toNat ≤ high)
    (measuredBetween : low ≤ measuredMs.toNat ∧ measuredMs.toNat ≤ high) (small : high < 2 ^ 59) :
    low ≤ ((oldMs * 7 + measuredMs) / 8).toNat ∧ ((oldMs * 7 + measuredMs) / 8).toNat ≤ high := by
  have scaled : (oldMs * 7).toNat = oldMs.toNat * 7 := by
    rw [UInt64.toNat_mul, show (7 : UInt64).toNat = 7 by decide]
    exact Nat.mod_eq_of_lt (by omega)
  have sum : (oldMs * 7 + measuredMs).toNat = oldMs.toNat * 7 + measuredMs.toNat := by
    rw [UInt64.toNat_add, scaled]
    exact Nat.mod_eq_of_lt (by omega)
  rw [UInt64.toNat_div, sum, show (8 : UInt64).toNat = 8 by decide]
  omega

theorem clamp_delay_bounds (delayMs : TimestampMs) :
    50 ≤ clampDelay delayMs ∧ clampDelay delayMs ≤ 250 := by
  unfold clampDelay
  split
  · decide
  · split
    · decide
    · next notBelow notAbove => exact ⟨UInt64.not_lt.mp notBelow, UInt64.not_lt.mp notAbove⟩

/-! All samples. -/

section Recorded

variable {d : Int}

def recordAll (exchanges : List (Exchange d)) : NetworkClock :=
  exchanges.foldl (fun clock exchange => clock.recordSample exchange.sample) {}

/-- The clock is between samples among those recorded. -/
structure InHull (exchanges : List (Exchange d)) (clock : NetworkClock) : Prop where
  hasSample : clock.hasSample = true
  offsetAbove : ∃ exchange ∈ exchanges, exchange.offsetMs ≤ clock.serverOffsetMs.toInt
  offsetBelow : ∃ exchange ∈ exchanges, clock.serverOffsetMs.toInt ≤ exchange.offsetMs
  rttAbove : ∃ exchange ∈ exchanges, exchange.rttMs ≤ clock.rttMs.toNat
  rttBelow : ∃ exchange ∈ exchanges, clock.rttMs.toNat ≤ exchange.rttMs
  delay : 50 ≤ clock.interpolationDelayMs ∧ clock.interpolationDelayMs ≤ 250

theorem first_in_hull (exchange : Exchange d) {clock : NetworkClock}
    (unset : clock.hasSample = false) :
    InHull [exchange] (clock.recordSample exchange.sample) := by
  have offset : (clock.recordSample exchange.sample).serverOffsetMs =
      measuredOffset exchange.sample := by
    simp [NetworkClock.recordSample, unset, measuredOffset, measuredRtt]
  have rtt : (clock.recordSample exchange.sample).rttMs = measuredRtt exchange.sample := by
    simp [NetworkClock.recordSample, unset, measuredRtt]
  have offsetEq := measured_offset_eq exchange
  have rttEq := measured_rtt_eq exchange
  refine ⟨rfl, ⟨exchange, List.mem_singleton.mpr rfl, ?_⟩,
    ⟨exchange, List.mem_singleton.mpr rfl, ?_⟩, ⟨exchange, List.mem_singleton.mpr rfl, ?_⟩,
    ⟨exchange, List.mem_singleton.mpr rfl, ?_⟩, clamp_delay_bounds _⟩
  · rw [offset, offsetEq]
  · rw [offset, offsetEq]
  · rw [rtt, rttEq]
  · rw [rtt, rttEq]

/-- Of a recorded sample and a new one, the one further out. -/
theorem outermost {further : Exchange d → Exchange d → Prop}
    (total : ∀ first second, further first second ∨ further second first)
    {exchanges : List (Exchange d)} {old : Exchange d} (member : old ∈ exchanges)
    (new : Exchange d) : ∃ exchange ∈ exchanges ++ [new], further exchange old ∧
      further exchange new := by
  rcases total old new with inside | outside
  · exact ⟨old, List.mem_append_left _ member, or_self_iff.mp (total old old), inside⟩
  · exact ⟨new, List.mem_append_right _ (List.mem_singleton.mpr rfl), outside,
      or_self_iff.mp (total new new)⟩

theorem next_in_hull {exchanges : List (Exchange d)} {clock : NetworkClock}
    (inHull : InHull exchanges clock) (exchange : Exchange d) :
    InHull (exchanges ++ [exchange]) (clock.recordSample exchange.sample) := by
  obtain ⟨hasSample, ⟨lowest, lowestMem, above⟩, ⟨highest, highestMem, below⟩,
    ⟨shortest, shortestMem, longer⟩, ⟨longest, longestMem, shorter⟩, _⟩ := inHull
  have offset : (clock.recordSample exchange.sample).serverOffsetMs =
      (clock.serverOffsetMs * 7 + measuredOffset exchange.sample) / 8 := by
    simp [NetworkClock.recordSample, hasSample, measuredOffset, measuredRtt]
  have rtt : (clock.recordSample exchange.sample).rttMs =
      (clock.rttMs * 7 + measuredRtt exchange.sample) / 8 := by
    simp [NetworkClock.recordSample, hasSample, measuredRtt]
  -- Each new bound is the old one or the new sample, whichever is further out.
  obtain ⟨low, lowMem, lowOld, lowNew⟩ :=
    outermost (fun first second => le_total first.offsetMs second.offsetMs) lowestMem exchange
  obtain ⟨high, highMem, highOld, highNew⟩ :=
    outermost (fun first second => le_total second.offsetMs first.offsetMs) highestMem exchange
  obtain ⟨short, shortMem, shortOld, shortNew⟩ :=
    outermost (fun first second => le_total first.rttMs second.rttMs) shortestMem exchange
  obtain ⟨long, longMem, longOld, longNew⟩ :=
    outermost (fun first second => le_total second.rttMs first.rttMs) longestMem exchange
  have offsetBetween := average_offset rfl (measured_offset_eq exchange)
    ⟨lowOld.trans above, below.trans highOld⟩ ⟨lowNew, highNew⟩
    ⟨low.offset_small.1, high.offset_small.2⟩
  rw [← measured_rtt_eq exchange] at shortNew longNew
  have rttBetween := average_rtt ⟨shortOld.trans longer, shorter.trans longOld⟩
    ⟨shortNew, longNew⟩ long.rtt_small
  rw [← offset] at offsetBetween
  rw [← rtt] at rttBetween
  exact ⟨rfl, ⟨low, lowMem, offsetBetween.1⟩, ⟨high, highMem, offsetBetween.2⟩,
    ⟨short, shortMem, rttBetween.1⟩, ⟨long, longMem, rttBetween.2⟩, clamp_delay_bounds _⟩

theorem recorded_in_hull (exchanges : List (Exchange d)) (nonempty : exchanges ≠ []) :
    InHull exchanges (recordAll exchanges) := by
  induction exchanges using List.reverseRecOn with
  | nil => exact absurd rfl nonempty
  | append_singleton earlier exchange ih =>
      unfold recordAll at ih ⊢
      rw [List.foldl_concat]
      cases earlier with
      | nil => exact first_in_hull exchange rfl
      | cons first rest => exact next_in_hull (ih (List.cons_ne_nil first rest)) exchange

/-! The bounds. -/

/-- The estimate is off by at most what one of the samples may be off by. -/
theorem InHull.offset_error {exchanges : List (Exchange d)} {clock : NetworkClock}
    (inHull : InHull exchanges clock) : ∃ exchange ∈ exchanges,
      |clock.serverOffsetMs.toInt - d| ≤ ((exchange.rttMs + 1) / 2 : Nat) := by
  obtain ⟨low, lowMem, above⟩ := inHull.offsetAbove
  obtain ⟨high, highMem, below⟩ := inHull.offsetBelow
  have lowError := abs_le.mp low.offset_error
  have highError := abs_le.mp high.offset_error
  rcases le_total d clock.serverOffsetMs.toInt with ahead | behind
  · exact ⟨high, highMem, abs_le.mpr ⟨by omega, by omega⟩⟩
  · exact ⟨low, lowMem, abs_le.mpr ⟨by omega, by omega⟩⟩

/-- What a pump that receives the answers in that order records. -/
theorem pump_records (clientId : ClientId) (sequence : CommandSequence)
    (exchanges : List (Exchange d)) (state : PumpState) :
    (exchanges.foldl (fun state exchange => state.receiveTimeSync exchange.clientReceivedAtMs
      (exchange.response clientId sequence)) state).runtime.clock =
      exchanges.foldl (fun clock exchange => clock.recordSample exchange.sample)
        state.runtime.clock := by
  induction exchanges generalizing state with
  | nil => rfl
  | cons exchange rest ih =>
      rw [List.foldl_cons, List.foldl_cons, ih]
      -- A receive time of 0 stands for none; only an exchange without delays has it.
      have received : (if exchange.clientReceivedAtMs ≠ 0 then exchange.clientReceivedAtMs
          else exchange.clientSentAtMs) = exchange.clientReceivedAtMs := by
        split
        · rfl
        · next zero =>
            have returns := exchange.returns
            rw [not_not.mp zero] at returns ⊢
            exact UInt64.toNat_inj.mp (by rw [UInt64.toNat_zero] at returns ⊢; omega)
      have sampled : (state.receiveTimeSync exchange.clientReceivedAtMs
          (exchange.response clientId sequence)).runtime.clock =
          state.runtime.clock.recordSample exchange.sample := by
        simp only [PumpState.receiveTimeSync, ClientRuntime.recordTimeSyncSample,
          Exchange.response, received, Exchange.sample]
      rw [sampled]

end Recorded

/-- After any samples, in any order, the clock is off by at most half the longest
round trip, and the averaged round trip is between the shortest and the longest. -/
theorem clock_error_bounded (d : Int) (exchanges : List (Exchange d)) (nonempty : exchanges ≠ []) :
    (∃ exchange ∈ exchanges, |(recordAll exchanges).serverOffsetMs.toInt - d| ≤
        ((exchange.rttMs + 1) / 2 : Nat)) ∧
    (∃ exchange ∈ exchanges, exchange.rttMs ≤ (recordAll exchanges).rttMs.toNat) ∧
    (∃ exchange ∈ exchanges, (recordAll exchanges).rttMs.toNat ≤ exchange.rttMs) ∧
    50 ≤ (recordAll exchanges).interpolationDelayMs ∧
    (recordAll exchanges).interpolationDelayMs ≤ 250 ∧
    ∀ clientId config sequence, (exchanges.foldl (fun state exchange => state.receiveTimeSync
      exchange.clientReceivedAtMs (exchange.response clientId sequence))
        (PumpState.new clientId config)).runtime.clock = recordAll exchanges := by
  have inHull := recorded_in_hull exchanges nonempty
  refine ⟨inHull.offset_error, inHull.rttAbove, inHull.rttBelow, inHull.delay.1, inHull.delay.2, ?_⟩
  intro clientId config sequence
  exact pump_records clientId sequence exchanges (PumpState.new clientId config)

/-- The server is 500 ms behind; the request takes 3 ms and the answer 80. -/
def slowAnswer : Exchange (-500) :=
  { clientSentAtMs := 1000, serverReceivedAtMs := 503, clientReceivedAtMs := 1083
    outboundMs := 3, inboundMs := 80
    arrives := by decide, returns := by decide, serverBelow := by decide
    clientBelow := by decide }

/-- A later exchange, in which it is the request that takes longer. -/
def slowRequest : Exchange (-500) :=
  { clientSentAtMs := 2000, serverReceivedAtMs := 1540, clientReceivedAtMs := 2045
    outboundMs := 40, inboundMs := 5
    arrives := by decide, returns := by decide, serverBelow := by decide
    clientBelow := by decide }

/-- The second sample is averaged in: neither the round trip nor the offset is that
of an exchange. -/
theorem clock_error_bounded_slow_answer :
    (recordAll [slowAnswer, slowRequest]).rttMs = 78 ∧
      (recordAll [slowAnswer, slowRequest]).serverOffsetMs = -531 ∧
      ∃ exchange ∈ [slowAnswer, slowRequest],
        |(recordAll [slowAnswer, slowRequest]).serverOffsetMs.toInt - (-500)| ≤
          ((exchange.rttMs + 1) / 2 : Nat) :=
  ⟨by decide, by decide,
    (clock_error_bounded (-500) [slowAnswer, slowRequest] (List.cons_ne_nil _ _)).1⟩

end Brawololo.ClockError
