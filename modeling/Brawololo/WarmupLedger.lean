import Brawololo.CombatLedger

/-!
The warmups in the ledger of a fight. A player's bow is idle or warms up since
a certain entry; a shot ends the warmup that is running in the first tick whose
time reaches its completion, and a death ends it too. From this alone two shots
of a player lie at least a warmup apart.
-/

namespace Brawololo.WarmupLedger

open GameTypes Simulation Histories CombatLedger

/-- A running warmup: the tick that started it and its event. -/
abbrev Warmup := Nat × WeaponWarmupStarted

/-- The event is about the bow of the player with this id. -/
def handles (id : NetworkEntityId) : DomainEvent → Bool
  | .weaponWarmupStarted event => event.entityId = id
  | .weaponFired event => event.entityId = id
  | .playerDied event => event.entityId = id
  | _ => false

def draw (id : NetworkEntityId) (warmup : Option Warmup) (entry : Entry) : Option Warmup :=
  if handles id entry.2 then
    match entry.2 with
    | .weaponWarmupStarted event => some (entry.1, event)
    | _ => none
  else warmup

/-- The warmup that runs for a player after the entries. -/
def warmupOf (id : NetworkEntityId) (ledger : Ledger) : Option Warmup :=
  ledger.foldl (draw id) none

/-- The tick is the first, from the start of the warmup on, whose time reaches
its completion. -/
structure Completes (config : SimulationConfig) (warmup : Warmup) (tick : Nat) : Prop where
  since : warmup.1 ≤ tick
  reached : warmup.2.completesAtMs ≤ tickTime config tick
  first : ∀ earlier, warmup.1 ≤ earlier → earlier < tick →
    tickTime config earlier < warmup.2.completesAtMs

/-- The start of a warmup as the weapon table has it. -/
structure StartsBy (config : SimulationConfig) (tick : Nat) (event : WeaponWarmupStarted)
    (definition : WeaponDefinition) : Prop where
  found : findWeaponDefinition config.weapons event.weaponType = some definition
  startedAt : event.startedAtMs = tickTime config tick
  completesAt : event.completesAtMs = tickTime config tick + definition.warmupMs

/-- What the entries before it say about an entry. -/
def Follows (config : SimulationConfig) (earlier : Ledger) (entry : Entry) : Prop :=
  (∀ other ∈ earlier, other.1 ≤ entry.1) ∧
  match entry.2 with
  | .weaponWarmupStarted event =>
      warmupOf event.entityId earlier = none ∧
        ∃ definition, StartsBy config entry.1 event definition
  | .weaponFired event =>
      event.firedAtMs = tickTime config entry.1 ∧
        ∃ warmup, warmupOf event.entityId earlier = some warmup ∧
          warmup.2.weaponType = event.weaponType ∧ Completes config warmup entry.1
  | _ => True

def Sound (config : SimulationConfig) (ledger : Ledger) : Prop := EveryEvent (Follows config) ledger

section Reading

variable {id : NetworkEntityId} {ledger : Ledger}

theorem draw_other (warmup : Option Warmup) {entry : Entry}
    (other : handles id entry.2 = false) : draw id warmup entry = warmup := by
  unfold draw
  rw [if_neg (by simp [other])]

theorem draw_all_other (warmup : Option Warmup) {added : Ledger}
    (others : ∀ entry ∈ added, handles id entry.2 = false) :
    added.foldl (draw id) warmup = warmup := by
  induction added generalizing warmup with
  | nil => rfl
  | cons entry rest ih =>
      rw [List.foldl_cons, draw_other warmup (others entry List.mem_cons_self)]
      exact ih warmup fun other member => others other (List.mem_cons_of_mem entry member)

theorem warmup_of_append (added : Ledger) :
    warmupOf id (ledger ++ added) = added.foldl (draw id) (warmupOf id ledger) :=
  List.foldl_append

theorem warmup_of_others {added : Ledger}
    (others : ∀ entry ∈ added, handles id entry.2 = false) :
    warmupOf id (ledger ++ added) = warmupOf id ledger := by
  rw [warmup_of_append, draw_all_other _ others]

theorem warmup_of_concat (entry : Entry) :
    warmupOf id (ledger ++ [entry]) = draw id (warmupOf id ledger) entry :=
  warmup_of_append [entry]

/-- What runs was started by an entry, and none about the player came after it. -/
theorem warmup_of_some {warmup : Warmup} (running : warmupOf id ledger = some warmup) :
    ∃ before between,
      ledger = before ++ (warmup.1, .weaponWarmupStarted warmup.2) :: between ∧
      warmup.2.entityId = id ∧ ∀ entry ∈ between, handles id entry.2 = false := by
  induction ledger using List.reverseRecOn with
  | nil => cases running
  | append_singleton ledger entry ih =>
      rw [warmup_of_concat] at running
      cases about : handles id entry.2 with
      | false =>
          rw [draw_other _ about] at running
          obtain ⟨before, between, isLedger, named, others⟩ := ih running
          refine ⟨before, between ++ [entry], by rw [isLedger]; simp, named, ?_⟩
          intro other member
          rcases List.mem_append.mp member with old | new
          · exact others other old
          · rw [List.mem_singleton.mp new]
            exact about
      | true =>
          obtain ⟨tick, event⟩ := entry
          unfold draw at running
          rw [if_pos about] at running
          cases event with
          | weaponWarmupStarted event =>
              cases running
              exact ⟨ledger, [], rfl, of_decide_eq_true about, by simp⟩
          | _ => cases running

end Reading

/-! Shots. -/

section Shots

variable {config : SimulationConfig} {earlier : Ledger} {tick : Nat} {fired : WeaponFired}

/-- The warmup that a shot ends: nothing of the player lies between them. -/
structure Ends (config : SimulationConfig) (earlier : Ledger) (tick : Nat) (fired : WeaponFired)
    (before between : Ledger) (warmup : Warmup) : Prop where
  split : earlier = before ++ (warmup.1, .weaponWarmupStarted warmup.2) :: between
  named : warmup.2.entityId = fired.entityId
  sameWeapon : warmup.2.weaponType = fired.weaponType
  alone : ∀ entry ∈ between, handles fired.entityId entry.2 = false
  firedAt : fired.firedAtMs = tickTime config tick
  starts : ∃ definition, StartsBy config warmup.1 warmup.2 definition
  completes : Completes config warmup tick

theorem sound_shot {later : Ledger}
    (sound : Sound config (earlier ++ (tick, .weaponFired fired) :: later)) :
    ∃ before between warmup, Ends config earlier tick fired before between warmup := by
  obtain ⟨_, firedAt, warmup, running, sameWeapon, completes⟩ := sound earlier _ later rfl
  obtain ⟨before, between, isEarlier, named, alone⟩ := warmup_of_some running
  obtain ⟨_, _, starts⟩ := sound before (warmup.1, .weaponWarmupStarted warmup.2)
    (between ++ (tick, .weaponFired fired) :: later) (by rw [isEarlier]; simp)
  exact ⟨before, between, warmup, isEarlier, named, sameWeapon, alone, firedAt, starts, completes⟩

end Shots

/-! The clock. -/

/-- The clock runs up to this tick, and on for a warmup of the weapon, without wrapping. -/
def ClockRoom (config : SimulationConfig) (ticks : Nat) (weapon : WeaponDefinition) : Prop :=
  ticks * config.tickDurationMs.toNat + weapon.warmupMs.toNat < 2 ^ 64

theorem tick_time_nat (config : SimulationConfig) (ticks : Nat)
    (room : ticks * config.tickDurationMs.toNat < 2 ^ 64) :
    (tickTime config ticks).toNat = ticks * config.tickDurationMs.toNat := by
  induction ticks with
  | zero => simp [tickTime]
  | succ ticks ih =>
      rw [Nat.succ_mul] at room ⊢
      rw [tickTime, UInt64.toNat_add, ih (Nat.lt_of_le_of_lt (Nat.le_add_right _ _) room),
        Nat.mod_eq_of_lt room]

/-- Two shots of one player are a warmup of its weapon apart. -/
theorem sound_apart {config : SimulationConfig} {ticks : Nat} {earlier between later : Ledger}
    {firstTick secondTick : Nat} {first second : WeaponFired}
    (past : secondTick ≤ ticks)
    (sound : Sound config (earlier ++ (firstTick, .weaponFired first) :: between ++
      (secondTick, .weaponFired second) :: later))
    (same : first.entityId = second.entityId) :
    ∃ definition, findWeaponDefinition config.weapons second.weaponType = some definition ∧
      (ClockRoom config ticks definition →
        first.firedAtMs.toNat + definition.warmupMs.toNat ≤ second.firedAtMs.toNat) := by
  obtain ⟨_, secondAt, warmup, running, sameWeapon, completes⟩ := sound
    (earlier ++ (firstTick, .weaponFired first) :: between) (secondTick, .weaponFired second) later
    (by simp)
  obtain ⟨_, firstAt, _⟩ := sound earlier (firstTick, .weaponFired first)
    (between ++ (secondTick, .weaponFired second) :: later) (by simp)
  -- The first shot leaves the bow idle, so the warmup of the second is younger.
  have idle : warmupOf second.entityId (earlier ++ [(firstTick, .weaponFired first)]) = none := by
    rw [warmup_of_concat]
    unfold draw
    rw [if_pos (by simp [handles, same])]
  have since : warmupOf second.entityId between = some warmup := by
    have regrouped : earlier ++ (firstTick, .weaponFired first) :: between =
        (earlier ++ [(firstTick, .weaponFired first)]) ++ between := by simp
    rw [regrouped, warmup_of_append, idle] at running
    exact running
  obtain ⟨before, after, isBetween, _, _⟩ := warmup_of_some since
  obtain ⟨stamps, _, definition, found, _, completesAt⟩ := sound
    (earlier ++ (firstTick, .weaponFired first) :: before)
    (warmup.1, .weaponWarmupStarted warmup.2)
    (after ++ (secondTick, .weaponFired second) :: later) (by rw [isBetween]; simp)
  have younger : firstTick ≤ warmup.1 := stamps (firstTick, .weaponFired first) (by simp)
  rw [sameWeapon] at found
  refine ⟨definition, found, fun inRoom => ?_⟩
  unfold ClockRoom at inRoom
  have order : firstTick * config.tickDurationMs.toNat ≤ warmup.1 * config.tickDurationMs.toNat :=
    Nat.mul_le_mul_right _ younger
  have toSecond : warmup.1 * config.tickDurationMs.toNat ≤ secondTick * config.tickDurationMs.toNat :=
    Nat.mul_le_mul_right _ completes.since
  have toLast : secondTick * config.tickDurationMs.toNat ≤ ticks * config.tickDurationMs.toNat :=
    Nat.mul_le_mul_right _ past
  have firstTime := tick_time_nat config firstTick (by omega)
  have startTime := tick_time_nat config warmup.1 (by omega)
  have due := UInt64.le_iff_toNat_le.mp completes.reached
  have sum : (tickTime config warmup.1 + definition.warmupMs).toNat =
      warmup.1 * config.tickDurationMs.toNat + definition.warmupMs.toNat := by
    rw [UInt64.toNat_add, startTime, Nat.mod_eq_of_lt (by omega)]
  rw [completesAt, sum] at due
  have firstAtNat : first.firedAtMs.toNat = firstTick * config.tickDurationMs.toNat := by
    rw [firstAt, firstTime]
  rw [secondAt, firstAtNat]
  omega

end Brawololo.WarmupLedger
