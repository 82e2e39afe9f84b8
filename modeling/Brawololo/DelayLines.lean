import Brawololo.Runs

/-!
A line from a sender to a receiver. An item that is sent passes into the queue,
is delayed, or is dropped; the delayed items are released one by one behind the
queue. What the receiver takes is a merge of the items that passed and of those
that were released, each in the order of sending, and no item is lost or
doubled.
-/

namespace Brawololo.DelayLines

universe u

variable {Item : Type u}

/-! Merges. -/

/-- The whole list is made of the first and the second, each in its own order. -/
inductive Merged : List Item → List Item → List Item → Prop where
  | nil : Merged [] [] []
  | left {first second whole : List Item} (merged : Merged first second whole) (item : Item) :
      Merged (first ++ [item]) second (whole ++ [item])
  | right {first second whole : List Item} (merged : Merged first second whole) (item : Item) :
      Merged first (second ++ [item]) (whole ++ [item])

theorem Merged.perm {first second whole : List Item} (merged : Merged first second whole) :
    whole.Perm (first ++ second) := by
  induction merged with
  | nil => exact List.Perm.refl _
  | @left first second whole _ item ih =>
      calc (whole ++ [item]).Perm (first ++ second ++ [item]) := ih.append_right [item]
        _ = first ++ (second ++ [item]) := List.append_assoc _ _ _
        List.Perm _ (first ++ ([item] ++ second)) := List.perm_append_comm.append_left first
        _ = first ++ [item] ++ second := (List.append_assoc _ _ _).symm
  | @right first second whole _ item ih =>
      calc (whole ++ [item]).Perm (first ++ second ++ [item]) := ih.append_right [item]
        _ = first ++ (second ++ [item]) := List.append_assoc _ _ _

/-! Lines. -/

inductive Route where
  | passed
  | delayed
  | dropped
  deriving DecidableEq

/-- The items of a line that were sent along the route. -/
def along (route : Route) (sent : List (Route × Item)) : List Item :=
  sent.filterMap fun entry => if entry.1 = route then some entry.2 else none

@[simp] theorem along_nil (route : Route) : along route ([] : List (Route × Item)) = [] := rfl

@[simp] theorem along_concat (route : Route) (sent : List (Route × Item))
    (entry : Route × Item) :
    along route (sent ++ [entry]) =
      along route sent ++ if entry.1 = route then [entry.2] else [] := by
  unfold along
  rw [List.filterMap_append]
  by_cases taken : entry.1 = route
  · simp [taken]
  · simp [taken]

theorem routes_perm (sent : List (Route × Item)) :
    (sent.map Prod.snd).Perm (along .passed sent ++ along .delayed sent ++ along .dropped sent) := by
  induction sent using List.reverseRecOn with
  | nil => exact List.Perm.refl _
  | append_singleton sent entry ih =>
      obtain ⟨route, item⟩ := entry
      rw [List.map_append]
      refine (ih.append_right _).trans ?_
      -- the last item moves in front of the routes that are listed after its own
      cases route with
      | dropped => simp
      | delayed =>
          simp only [along_concat, reduceCtorEq, if_false, if_true, List.append_nil,
            List.append_assoc]
          exact (List.perm_append_comm.append_left _).append_left _
      | passed =>
          simp only [along_concat, reduceCtorEq, if_false, if_true, List.append_nil,
            List.append_assoc]
          refine List.Perm.append_left _ ?_
          rw [← List.append_assoc]
          exact List.perm_append_comm

structure Line (Item : Type u) where
  sent : List (Route × Item) := []
  queue : List Item := []
  delayed : List Item := []
  taken : List Item := []

inductive LineMove (Item : Type u) where
  | send (route : Route) (item : Item)
  | release
  | take

def lineStep (line : Line Item) : LineMove Item → Line Item
  | .send route item =>
      { line with
        sent := line.sent ++ [(route, item)]
        queue := line.queue ++ if route = .passed then [item] else []
        delayed := line.delayed ++ if route = .delayed then [item] else [] }
  | .release =>
      match line.delayed with
      | [] => line
      | item :: rest => { line with queue := line.queue ++ [item], delayed := rest }
  | .take =>
      match line.queue with
      | [] => line
      | item :: rest => { line with queue := rest, taken := line.taken ++ [item] }

/-- The items in the order in which they come or will come to the receiver, of
those that are not delayed any more. -/
def Ordered (line : Line Item) : Prop :=
  ∃ released, along .delayed line.sent = released ++ line.delayed ∧
    Merged (along .passed line.sent) released (line.taken ++ line.queue)

theorem ordered_empty : Ordered ({} : Line Item) := ⟨[], rfl, Merged.nil⟩

theorem line_step_ordered (line : Line Item) (move : LineMove Item) (ordered : Ordered line) :
    Ordered (lineStep line move) := by
  obtain ⟨released, delayed, merged⟩ := ordered
  cases move with
  | send route item =>
      refine ⟨released, ?_, ?_⟩
      · simp [lineStep, delayed]
      · cases route with
        | passed => simpa [lineStep] using merged.left item
        | delayed => simpa [lineStep] using merged
        | dropped => simpa [lineStep] using merged
  | release =>
      cases waiting : line.delayed with
      | nil =>
          unfold lineStep
          rw [waiting]
          exact ⟨released, delayed, merged⟩
      | cons item rest =>
          unfold lineStep
          rw [waiting]
          refine ⟨released ++ [item], ?_, ?_⟩
          · rw [delayed, waiting, List.append_assoc, List.singleton_append]
          · rw [← List.append_assoc]
            exact merged.right item
  | take =>
      cases queued : line.queue with
      | nil =>
          unfold lineStep
          rw [queued]
          exact ⟨released, delayed, merged⟩
      | cons item rest =>
          unfold lineStep
          rw [queued] at merged ⊢
          refine ⟨released, delayed, ?_⟩
          -- what is taken stays the front of the same merge
          rw [List.append_assoc, List.singleton_append]
          exact merged

theorem line_run_ordered (moves : List (LineMove Item)) :
    Ordered (Runs.run lineStep {} moves) :=
  Runs.run_invariant lineStep Ordered line_step_ordered _ ordered_empty moves

/-- What was sent was taken, is queued, is delayed, or was dropped. -/
theorem Ordered.conserved {line : Line Item} (ordered : Ordered line) :
    (line.sent.map Prod.snd).Perm
      (line.taken ++ line.queue ++ line.delayed ++ along .dropped line.sent) := by
  obtain ⟨released, delayed, merged⟩ := ordered
  refine (routes_perm line.sent).trans (List.Perm.append_right _ ?_)
  rw [delayed, ← List.append_assoc]
  exact merged.perm.symm.append_right _

end Brawololo.DelayLines
