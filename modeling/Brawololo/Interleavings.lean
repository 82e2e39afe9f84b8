import Brawololo.Runs

/-!
Interleavings of lists that belong to keys. Two lists with the same items for
each key, in the same order, differ by swaps of neighbours with different keys.
A run that does not tell such swaps apart ends alike for both.
-/

namespace Brawololo.Interleavings

open Runs

universe u v w

variable {Item : Type u} {Key : Type v} (key : Item → Key)

/-- One list becomes the other by swapping neighbours with different keys. -/
inductive Interleaved : List Item → List Item → Prop
  | refl (items : List Item) : Interleaved items items
  | cons (item : Item) {first second : List Item} (rest : Interleaved first second) :
      Interleaved (item :: first) (item :: second)
  | swap (left right : Item) (items : List Item) (apart : key left ≠ key right) :
      Interleaved (left :: right :: items) (right :: left :: items)
  | trans {first second third : List Item} (one : Interleaved first second)
      (two : Interleaved second third) : Interleaved first third

variable {key}

theorem Interleaved.append_right {first second : List Item} (same : Interleaved key first second)
    (items : List Item) : Interleaved key (first ++ items) (second ++ items) := by
  induction same with
  | refl first => exact .refl (first ++ items)
  | cons item _ ih => exact .cons item ih
  | swap left right rest apart => exact .swap left right (rest ++ items) apart
  | trans _ _ one two => exact one.trans two

theorem Interleaved.append_left (items : List Item) {first second : List Item}
    (same : Interleaved key first second) : Interleaved key (items ++ first) (items ++ second) := by
  induction items with
  | nil => exact same
  | cons item rest ih => exact .cons item ih

theorem Interleaved.perm {first second : List Item} (same : Interleaved key first second) :
    first.Perm second := by
  induction same with
  | refl items => exact .refl items
  | cons item _ ih => exact ih.cons item
  | swap left right items _ => exact .swap right left items
  | trans _ _ one two => exact one.trans two

/-- An item moves to the front past items of other keys. -/
theorem moves_to_front {item : Item} {before : List Item}
    (others : ∀ other ∈ before, key other ≠ key item) (after : List Item) :
    Interleaved key (item :: (before ++ after)) (before ++ item :: after) := by
  induction before with
  | nil => exact .refl (item :: after)
  | cons head rest ih =>
      have apart : key item ≠ key head := fun same => others head List.mem_cons_self same.symm
      have later := ih fun other member => others other (List.mem_cons_of_mem head member)
      exact .trans (.swap item head (rest ++ after) apart) (.cons head later)

section Filters

variable [DecidableEq Key]

/-- The items that belong to a key, in their order. -/
def own (key : Item → Key) (owner : Key) (items : List Item) : List Item :=
  items.filter fun item => key item = owner

theorem own_cons_same {item : Item} {owner : Key} (same : key item = owner) (items : List Item) :
    own key owner (item :: items) = item :: own key owner items := by
  simp [own, same]

theorem own_cons_other {item : Item} {owner : Key} (other : key item ≠ owner)
    (items : List Item) : own key owner (item :: items) = own key owner items := by
  simp [own, other]

theorem Interleaved.own {first second : List Item} (same : Interleaved key first second)
    (owner : Key) : own key owner first = own key owner second := by
  induction same with
  | refl items => rfl
  | cons item _ ih =>
      by_cases mine : key item = owner
      · rw [own_cons_same mine, own_cons_same mine, ih]
      · rw [own_cons_other mine, own_cons_other mine, ih]
  | swap left right items apart =>
      by_cases leftOwn : key left = owner
      · have rightOther : key right ≠ owner := fun rightOwn => apart (leftOwn.trans rightOwn.symm)
        rw [own_cons_same leftOwn, own_cons_other rightOther, own_cons_other rightOther,
          own_cons_same leftOwn]
      · by_cases rightOwn : key right = owner
        · rw [own_cons_other leftOwn, own_cons_same rightOwn, own_cons_same rightOwn,
            own_cons_other leftOwn]
        · rw [own_cons_other leftOwn, own_cons_other rightOwn, own_cons_other rightOwn,
            own_cons_other leftOwn]
  | trans _ _ one two => exact one.trans two

/-- The first item of a key stands behind items of other keys only. -/
theorem first_of_own {items rest : List Item} {item : Item} {owner : Key}
    (isFirst : own key owner items = item :: rest) :
    ∃ before after, items = before ++ item :: after ∧ key item = owner ∧
      (∀ other ∈ before, key other ≠ owner) ∧ own key owner after = rest := by
  induction items with
  | nil => cases isFirst
  | cons head items ih =>
      by_cases mine : key head = owner
      · rw [own_cons_same mine] at isFirst
        cases isFirst
        exact ⟨[], items, rfl, mine, by simp, rfl⟩
      · rw [own_cons_other mine] at isFirst
        obtain ⟨before, after, isItems, isOwn, others, isRest⟩ := ih isFirst
        refine ⟨head :: before, after, by rw [isItems]; rfl, isOwn, ?_, isRest⟩
        intro other member
        rcases List.mem_cons.mp member with rfl | later
        · exact mine
        · exact others other later

/-- Lists with the same items for every key are interleavings of each other. -/
theorem interleaved_of_own (first second : List Item)
    (same : ∀ owner, own key owner first = own key owner second) :
    Interleaved key first second := by
  induction first generalizing second with
  | nil =>
      cases second with
      | nil => exact .refl []
      | cons item rest =>
          have empty := same (key item)
          rw [own_cons_same rfl] at empty
          cases empty
  | cons item rest ih =>
      have isFirst := (same (key item)).symm
      rw [own_cons_same rfl] at isFirst
      obtain ⟨before, after, rfl, _, others, isRest⟩ := first_of_own isFirst
      refine .trans (.cons item (ih (before ++ after) fun owner => ?_)) (moves_to_front others after)
      have noneBefore : own key (key item) before = [] :=
        List.filter_eq_nil_iff.mpr fun other member => by simpa using others other member
      by_cases mine : key item = owner
      · subst mine
        rw [← isRest]
        simp only [own, List.filter_append] at noneBefore ⊢
        rw [noneBefore, List.nil_append]
      · have others := same owner
        rw [own_cons_other mine] at others
        rw [others]
        simp [own, List.filter_append, mine]

end Filters

/-- Runs over interleavings end in related states, where steps keep the relation
and two steps for different keys may be swapped. -/
theorem run_interleaved {State : Type w} (step : State → Item → State)
    (holds : State → Prop) (related : State → State → Prop)
    (kept : ∀ state item, holds state → holds (step state item))
    (reflexive : ∀ state, related state state)
    (chained : ∀ {first second third}, related first second → related second third →
      related first third)
    (respects : ∀ first second item, related first second →
      related (step first item) (step second item))
    (commutes : ∀ state left right, holds state → key left ≠ key right →
      related (step (step state left) right) (step (step state right) left))
    {first second : List Item} (same : Interleaved key first second) (start other : State)
    (initially : holds start) (alike : related start other) :
    related (run step start first) (run step other second) := by
  have runs (items : List Item) (one two : State) (related' : related one two) :
      related (run step one items) (run step two items) := by
    induction items generalizing one two with
    | nil => exact related'
    | cons item rest ih => exact ih _ _ (respects one two item related')
  have reordered : related (run step start first) (run step start second) := by
    clear alike
    induction same generalizing start with
    | refl items => exact reflexive _
    | cons item _ ih => exact ih (step start item) (kept start item initially)
    | swap left right items apart =>
        exact runs items _ _ (commutes start left right initially apart)
    | trans _ _ one two => exact chained (one start initially) (two start initially)
  exact chained reordered (runs second start other alike)

end Brawololo.Interleavings
