import Mathlib.Tactic

/-!
Loops that poll: `while (auto item = poll())` with a body that handles the
item. The fuel is a bound on the number of polls; with enough of it the loop
ends by a poll that finds nothing.
-/

namespace Brawololo.PollLoops

universe u v

variable {State : Type u} {Item : Type v}

def whileSome (poll : State → Option Item × State) (body : State → Item → State) :
    Nat → State → State
  | 0, state => state
  | fuel + 1, state =>
      match poll state with
      | (none, after) => after
      | (some item, after) => whileSome poll body fuel (body after item)

/-- What the loop polls, oldest first. -/
def polledItems (poll : State → Option Item × State) (body : State → Item → State) :
    Nat → State → List Item
  | 0, _ => []
  | fuel + 1, state =>
      match poll state with
      | (none, _) => []
      | (some item, after) => item :: polledItems poll body fuel (body after item)

variable {poll : State → Option Item × State} {body : State → Item → State}

theorem while_none {fuel : Nat} {state after : State} (stops : poll state = (none, after)) :
    whileSome poll body (fuel + 1) state = after := by
  rw [whileSome, stops]

theorem while_some {fuel : Nat} {state after : State} {item : Item}
    (found : poll state = (some item, after)) :
    whileSome poll body (fuel + 1) state = whileSome poll body fuel (body after item) := by
  rw [whileSome, found]

/-- With more fuel than there is to poll, the loop ends by a poll that finds
nothing. -/
theorem while_ended (queued : State → Nat)
    (shrinks : ∀ state item after, poll state = (some item, after) →
      queued (body after item) < queued state)
    (fuel : Nat) (state : State) (enough : queued state < fuel) :
    ∃ last, poll last = (none, whileSome poll body fuel state) := by
  induction fuel generalizing state with
  | zero => exact absurd enough (Nat.not_lt_zero _)
  | succ fuel ih =>
      cases polled : poll state with
      | mk found after =>
          cases found with
          | none => exact ⟨state, by rw [while_none polled, polled]⟩
          | some item =>
              have fewer := shrinks state item after polled
              rw [while_some polled]
              exact ih (body after item) (by omega)

/-- A loop over a queue that it alone takes from. `holds` says what is true
while these items are still to be polled. -/
theorem while_items (holds : List Item → State → Prop)
    (next : ∀ item rest state, holds (item :: rest) state →
      ∃ after, poll state = (some item, after) ∧ holds rest (body after item))
    (stop : ∀ state, holds [] state → ∃ after, poll state = (none, after) ∧ holds [] after)
    (items : List Item) (fuel : Nat) (state : State) (enough : items.length < fuel)
    (initially : holds items state) : holds [] (whileSome poll body fuel state) := by
  induction items generalizing fuel state with
  | nil =>
      obtain ⟨less, rfl⟩ := Nat.exists_eq_succ_of_ne_zero (Nat.ne_of_gt enough)
      obtain ⟨after, polled, ended⟩ := stop state initially
      rw [while_none polled]
      exact ended
  | cons item rest ih =>
      obtain ⟨less, rfl⟩ := Nat.exists_eq_succ_of_ne_zero (Nat.ne_of_gt (Nat.zero_lt_of_lt enough))
      obtain ⟨after, polled, still⟩ := next item rest state initially
      rw [while_some polled]
      exact ih less (body after item) (Nat.lt_of_succ_lt_succ enough) still

/-- What polls and handling keep, the loop keeps. -/
theorem while_kept (holds : State → Prop) (polls : ∀ state, holds state → holds (poll state).2)
    (handles : ∀ state item, holds state → holds (body state item)) (fuel : Nat) (state : State)
    (initially : holds state) : holds (whileSome poll body fuel state) := by
  induction fuel generalizing state with
  | zero => exact initially
  | succ fuel ih =>
      have after := polls state initially
      cases polled : poll state with
      | mk found next =>
          rw [polled] at after
          cases found with
          | none => rw [while_none polled]; exact after
          | some item => rw [while_some polled]; exact ih _ (handles next item after)

/-- What every turn of the loop keeps, and the poll that ends it, the loop keeps. -/
theorem while_invariant (holds : State → Prop)
    (stops : ∀ state after, poll state = (none, after) → holds state → holds after)
    (turns : ∀ state item after, poll state = (some item, after) → holds state →
      holds (body after item))
    (fuel : Nat) (state : State) (initially : holds state) :
    holds (whileSome poll body fuel state) := by
  induction fuel generalizing state with
  | zero => exact initially
  | succ fuel ih =>
      cases polled : poll state with
      | mk found after =>
          cases found with
          | none =>
              rw [while_none polled]
              exact stops state after polled initially
          | some item =>
              rw [while_some polled]
              exact ih _ (turns state item after polled initially)

/-- A loop whose polls and bodies are those of another, seen through `view`, ends
where the other does. -/
theorem while_viewed {Other : Type u} {poll' : Other → Option Item × Other}
    {body' : Other → Item → Other} (view : State → Other)
    (polls : ∀ state, poll' (view state) = ((poll state).1, view (poll state).2))
    (handles : ∀ state item, body' (view state) item = view (body state item)) (fuel : Nat)
    (state : State) :
    whileSome poll' body' fuel (view state) = view (whileSome poll body fuel state) := by
  induction fuel generalizing state with
  | zero => rfl
  | succ fuel ih =>
      have viewed := polls state
      cases polled : poll state with
      | mk found after =>
          rw [polled] at viewed
          cases found with
          | none => rw [while_none viewed, while_none polled]
          | some item => rw [while_some viewed, while_some polled, handles, ih]

end Brawololo.PollLoops
