import Mathlib.Data.List.Sort
import Mathlib.Tactic

/-!
Lists ranked by a key: what sorting them gives, that their order is determined
by their items, and what a cut after the first items keeps.
-/

namespace Brawololo.RankedLists

universe u v

variable {Item : Type u} {Key : Type v} [LinearOrder Key] (key : Item → Key)

/-- Every item comes before the items with a greater key, and no key occurs twice. -/
def Ranked (items : List Item) : Prop := items.Pairwise fun left right => key left < key right

variable {key}

/-- A ranked list is determined by its items. -/
theorem ranked_unique {first second : List Item} (one : Ranked key first)
    (two : Ranked key second) (same : first.Perm second) : first = second :=
  same.eq_of_pairwise (fun _ _ _ _ before after => absurd before (not_lt_of_gt after)) one two

/-- Sorting by "not after" ranks a list of distinct keys. -/
theorem sorted_ranked (before : Item → Item → Bool)
    (agrees : ∀ left right, before left right = true ↔ key left < key right) (items : List Item)
    (distinct : (items.map key).Nodup) :
    Ranked key (items.insertionSort fun left right => before right left = false) := by
  let upTo : Item → Item → Prop := fun left right => before right left = false
  have upTo_iff (left right : Item) : upTo left right ↔ key left ≤ key right := by
    change before right left = false ↔ _
    rw [← Bool.not_eq_true, agrees, not_lt]
  have total : Std.Total upTo := ⟨fun left right => by
    rw [upTo_iff, upTo_iff]
    exact le_total _ _⟩
  have transitive : IsTrans Item upTo := ⟨fun first second third one two => by
    rw [upTo_iff] at one two ⊢
    exact one.trans two⟩
  have sorted := List.pairwise_insertionSort upTo items
  have apart : ((items.insertionSort upTo).map key).Nodup :=
    ((List.perm_insertionSort upTo items).map key).nodup_iff.mpr distinct
  have strict := sorted.and (List.pairwise_map.mp apart)
  exact strict.imp fun both => lt_of_le_of_ne ((upTo_iff _ _).mp both.1) both.2

/-- What a cut keeps comes before what it drops. -/
theorem kept_before_dropped {items : List Item} (ranked : Ranked key items) (count : Nat)
    {kept dropped : Item} (isKept : kept ∈ items.take count)
    (member : dropped ∈ items) (isDropped : dropped ∉ items.take count) :
    key kept < key dropped := by
  have whole := List.take_append_drop count items
  rw [← whole] at member ranked
  have late : dropped ∈ items.drop count :=
    (List.mem_append.mp member).resolve_left isDropped
  exact (List.pairwise_append.mp ranked).2.2 kept isKept dropped late

end Brawololo.RankedLists
