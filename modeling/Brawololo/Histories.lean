import Mathlib.Tactic

/-!
Histories: lists of events, oldest first, that only grow. A fact about every
event at the time it happened is carried along by looking at the last event
only.
-/

namespace Brawololo.Histories

universe u v

variable {Event : Type u}

/-- `met` held of every event of the history and the events before it. -/
def EveryEvent (met : List Event → Event → Prop) (history : List Event) : Prop :=
  ∀ earlier event later, history = earlier ++ event :: later → met earlier event

/-- An event of an extended history is the last one or one of the history. -/
theorem split_concat {history earlier later : List Event} {last event : Event}
    (split : history ++ [last] = earlier ++ event :: later) :
    later = [] ∧ earlier = history ∧ event = last ∨
      ∃ rest, later = rest ++ [last] ∧ history = earlier ++ event :: rest := by
  rcases List.eq_nil_or_concat later with rfl | ⟨rest, other, rfl⟩
  · obtain ⟨sameHistory, sameLast⟩ := List.append_inj' split rfl
    cases sameLast
    exact Or.inl ⟨rfl, sameHistory.symm, rfl⟩
  · have regrouped : earlier ++ event :: (rest ++ [other]) =
        (earlier ++ event :: rest) ++ [other] := by simp
    rw [List.concat_eq_append, regrouped] at split
    obtain ⟨sameHistory, sameLast⟩ := List.append_inj' split rfl
    cases sameLast
    exact Or.inr ⟨rest, by rw [List.concat_eq_append], sameHistory⟩

theorem every_event_nil (met : List Event → Event → Prop) : EveryEvent met [] := by
  intro earlier event later split
  cases earlier <;> cases split

theorem every_event_concat (met : List Event → Event → Prop) (history : List Event)
    (last : Event) :
    EveryEvent met (history ++ [last]) ↔ EveryEvent met history ∧ met history last := by
  constructor
  · intro every
    refine ⟨?_, every history last [] rfl⟩
    intro earlier event later split
    refine every earlier event (later ++ [last]) ?_
    rw [split, List.append_assoc, List.cons_append]
  · rintro ⟨every, atLast⟩ earlier event later split
    rcases split_concat split with ⟨_, rfl, rfl⟩ | ⟨rest, _, split⟩
    · exact atLast
    · exact every earlier event rest split

theorem every_event_append {met : List Event → Event → Prop} {history added : List Event}
    (every : EveryEvent met history) (always : ∀ event ∈ added, ∀ earlier, met earlier event) :
    EveryEvent met (history ++ added) := by
  induction added using List.reverseRecOn with
  | nil => rwa [List.append_nil]
  | append_singleton added last ih =>
      rw [← List.append_assoc, every_event_concat]
      refine ⟨ih fun event member => always event (List.mem_append_left _ member), ?_⟩
      exact always last (List.mem_append_right _ List.mem_cons_self) _

/-- What held of every event of a history held of every event of its prefixes. -/
theorem every_event_prefix {met : List Event → Event → Prop} {history added : List Event}
    (every : EveryEvent met (history ++ added)) : EveryEvent met history := by
  induction added using List.reverseRecOn with
  | nil => rwa [List.append_nil] at every
  | append_singleton added last ih =>
      rw [← List.append_assoc, every_event_concat] at every
      exact ih every.1

/-- Two events that yield one value are the same event when no value is yielded
twice. -/
theorem yields_once {Value : Type v} (yields : Event → Option Value) {history : List Event}
    (once : (history.filterMap yields).Nodup) {first second : Event} {value : Value}
    (isFirst : first ∈ history) (isSecond : second ∈ history)
    (firstYields : yields first = some value) (secondYields : yields second = some value) :
    first = second := by
  induction history with
  | nil => cases isFirst
  | cons event rest ih =>
      have inRest : ∀ other ∈ rest, yields other = some value → value ∈ rest.filterMap yields :=
        fun other member its => List.mem_filterMap.mpr ⟨other, member, its⟩
      rw [List.filterMap_cons] at once
      cases yielded : yields event with
      | none =>
          rw [yielded] at once
          rcases List.mem_cons.mp isFirst with rfl | first'
          · rw [yielded] at firstYields
            cases firstYields
          · rcases List.mem_cons.mp isSecond with rfl | second'
            · rw [yielded] at secondYields
              cases secondYields
            · exact ih once first' second'
      | some found =>
          rw [yielded] at once
          obtain ⟨fresh, onceRest⟩ := List.nodup_cons.mp once
          rcases List.mem_cons.mp isFirst with rfl | first'
          · rw [yielded] at firstYields
            cases firstYields
            rcases List.mem_cons.mp isSecond with rfl | second'
            · rfl
            · exact absurd (inRest second second' secondYields) fresh
          · rcases List.mem_cons.mp isSecond with rfl | second'
            · rw [yielded] at secondYields
              cases secondYields
              exact absurd (inRest first first' firstYields) fresh
            · exact ih onceRest first' second'

/-- Something opened and nothing closed since. -/
def Since (opens closes : Event → Prop) (history : List Event) : Prop :=
  ∃ earlier event later, history = earlier ++ event :: later ∧ opens event ∧
    ∀ other ∈ later, ¬closes other

section Open

variable {opens closes : Event → Prop}

theorem not_since_nil : ¬Since opens closes [] := by
  rintro ⟨earlier, event, later, split, _⟩
  cases earlier <;> cases split

theorem since_concat (history : List Event) (last : Event) :
    Since opens closes (history ++ [last]) ↔
      opens last ∨ Since opens closes history ∧ ¬closes last := by
  constructor
  · rintro ⟨earlier, event, later, split, opened, unclosed⟩
    rcases split_concat split with ⟨_, _, rfl⟩ | ⟨rest, rfl, isHistory⟩
    · exact Or.inl opened
    · refine Or.inr ⟨⟨earlier, event, rest, isHistory, opened, ?_⟩, ?_⟩
      · exact fun other member => unclosed other (List.mem_append_left _ member)
      · exact unclosed last (List.mem_append_right _ (List.mem_singleton.mpr rfl))
  · rintro (opened | ⟨⟨earlier, event, later, rfl, opened, unclosed⟩, notLast⟩)
    · exact ⟨history, last, [], rfl, opened, by simp⟩
    · refine ⟨earlier, event, later ++ [last], by simp, opened, ?_⟩
      intro other member
      rcases List.mem_append.mp member with old | new
      · exact unclosed other old
      · rw [List.mem_singleton.mp new]
        exact notLast

/-- Events that neither open nor close leave it as it was. -/
theorem since_append (history added : List Event)
    (silent : ∀ event ∈ added, ¬opens event ∧ ¬closes event) :
    Since opens closes (history ++ added) ↔ Since opens closes history := by
  induction added using List.reverseRecOn with
  | nil => rw [List.append_nil]
  | append_singleton added last ih =>
      obtain ⟨notOpens, notCloses⟩ := silent last (List.mem_append_right _ List.mem_cons_self)
      rw [← List.append_assoc, since_concat,
        ih fun event member => silent event (List.mem_append_left _ member)]
      exact ⟨fun either => either.elim (fun opened => absurd opened notOpens) And.left,
        fun still => Or.inr ⟨still, notCloses⟩⟩

end Open

/-- A value that is yielded once splits its history in one way. -/
theorem split_once {Value : Type v} (yields : Event → Option Value)
    {earlier later otherEarlier otherLater : List Event} {event other : Event} {value : Value}
    (once : ((earlier ++ event :: later).filterMap yields).Nodup)
    (same : earlier ++ event :: later = otherEarlier ++ other :: otherLater)
    (eventYields : yields event = some value) (otherYields : yields other = some value) :
    earlier = otherEarlier ∧ later = otherLater := by
  induction earlier generalizing otherEarlier with
  | nil =>
      cases otherEarlier with
      | nil =>
          cases same
          exact ⟨rfl, rfl⟩
      | cons head rest =>
          cases same
          rw [List.nil_append, List.filterMap_cons_some eventYields, List.nodup_cons] at once
          have again : value ∈ (rest ++ other :: otherLater).filterMap yields :=
            List.mem_filterMap.mpr ⟨other, by simp, otherYields⟩
          exact absurd again once.1
  | cons head rest ih =>
      cases otherEarlier with
      | nil =>
          cases same
          rw [List.cons_append, List.filterMap_cons_some otherYields, List.nodup_cons] at once
          have again : value ∈ (rest ++ event :: later).filterMap yields :=
            List.mem_filterMap.mpr ⟨event, by simp, eventYields⟩
          exact absurd again once.1
      | cons otherHead otherRest =>
          obtain ⟨rfl, sameRest⟩ := List.cons.inj same
          have onceRest : ((rest ++ event :: later).filterMap yields).Nodup := by
            rw [List.cons_append, List.filterMap_cons] at once
            cases yielded : yields head with
            | none => rwa [yielded] at once
            | some found =>
                rw [yielded] at once
                exact once.of_cons
          obtain ⟨rfl, rfl⟩ := ih onceRest sameRest
          exact ⟨rfl, rfl⟩

end Brawololo.Histories
