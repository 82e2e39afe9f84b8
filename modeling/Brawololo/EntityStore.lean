import Mathlib.Tactic

/-!
A store of entities with component rows, and the hash maps kept beside it.
Handles are counted up and never handed out twice, so a destroyed entity never
comes back. A loop over the store or over a hash map visits every item once,
in an order that is a parameter; no lemma depends on which order it is.
-/

namespace Brawololo.EntityStore

/-- A hash map. Its iteration order is not part of it. -/
abbrev UnorderedMap (Key Value : Type) [Ord Key] := Std.ExtTreeMap Key Value

section Maps

variable {Key Value : Type} [Ord Key] [Std.TransOrd Key] [Std.LawfulEqOrd Key]

theorem mem_keys_iff (table : UnorderedMap Key Value) (key : Key) :
    key ∈ table.keys ↔ ∃ value, table[key]? = some value := by
  rw [Std.ExtTreeMap.mem_keys, Std.ExtTreeMap.mem_iff_isSome_getElem?, Option.isSome_iff_exists]

/-- A list of distinct keys of a map is at most as long as the map. -/
theorem length_le_size (table : UnorderedMap Key Value) (keys : List Key)
    (distinct : keys.Nodup) (present : ∀ key ∈ keys, ∃ value, table[key]? = some value) :
    keys.length ≤ table.size := by
  have subset : keys ⊆ table.keys := by
    intro key member
    exact (mem_keys_iff table key).mpr (present key member)
  have bound := (List.subperm_of_subset distinct subset).length_le
  rwa [Std.ExtTreeMap.length_keys] at bound

/-- The loop that looks for an item and returns when it has found one. -/
theorem any_loop {Item : Type} (items : List Item) (holds : Item → Bool) :
    (Id.run (do
      for item in items do
        if holds item then return true
      return false)) = items.any holds := by
  induction items with
  | nil => rfl
  | cons item rest ih =>
      rw [List.any_cons, ← ih]
      cases isHeld : holds item <;> simp [isHeld]

theorem any_of_get (table : UnorderedMap Key Value) (holds : Key → Value → Bool) {key : Key}
    {value : Value} (stored : table[key]? = some value) (here : holds key value = true) :
    table.any holds = true := by
  have member : (key, value) ∈ table.toList := by simpa using stored
  obtain ⟨inner⟩ := table
  induction inner using Std.ExtDTreeMap.inductionOn with
  | mk tree =>
      change (key, value) ∈ Std.DTreeMap.Internal.Impl.Const.toList tree.inner at member
      change Std.DTreeMap.Internal.Impl.any tree.inner holds = true
      unfold Std.DTreeMap.Internal.Impl.any
      simp only [ForIn.forIn]
      rw [Std.DTreeMap.Internal.Impl.Const.forIn_eq_forIn_toList]
      refine (any_loop _ fun item : Key × Value => holds item.1 item.2).trans ?_
      exact List.any_eq_true.mpr ⟨_, member, here⟩

variable [DecidableEq Key]

theorem get_insert (table : UnorderedMap Key Value) (key other : Key) (value : Value) :
    (table.insert key value)[other]? = if key = other then some value else table[other]? := by
  simp [Std.ExtTreeMap.getElem?_insert]

theorem get_erase (table : UnorderedMap Key Value) (key other : Key) :
    (table.erase key)[other]? = if key = other then none else table[other]? := by
  simp [Std.ExtTreeMap.getElem?_erase]

theorem get_modify (table : UnorderedMap Key Value) (key other : Key) (change : Value → Value) :
    (table.modify key change)[other]? =
      if key = other then table[other]?.map change else table[other]? := by
  simp only [Std.ExtTreeMap.getElem?_modify, Std.LawfulEqCmp.compare_eq_iff_eq]
  by_cases same : key = other
  · subst same
    simp
  · simp [same]

/-- A part of the values that the change of one of them keeps. -/
theorem part_modify {Part : Type} (part : Value → Part) (table : UnorderedMap Key Value)
    (key other : Key) (change : Value → Value)
    (same : ∀ value, part (change value) = part value) :
    ((table.modify key change)[other]?).map part = (table[other]?).map part := by
  rw [get_modify]
  split
  · rw [Option.map_map]
    congr 1
    funext value
    exact same value
  · rfl

/-- Only the entry inserted last for a key stays. -/
theorem insert_insert (table : UnorderedMap Key Value) (key : Key) (first second : Value) :
    (table.insert key first).insert key second = table.insert key second := by
  apply Std.ExtTreeMap.ext_getElem?
  intro other
  simp only [get_insert]
  by_cases same : key = other
  · simp [same]
  · simp [same]

/-- Entries for two keys may be inserted in either order. -/
theorem insert_comm (table : UnorderedMap Key Value) {left right : Key} (apart : left ≠ right)
    (leftValue rightValue : Value) :
    (table.insert left leftValue).insert right rightValue =
      (table.insert right rightValue).insert left leftValue := by
  apply Std.ExtTreeMap.ext_getElem?
  intro key
  simp only [get_insert]
  by_cases isLeft : left = key
  · subst isLeft
    simp [Ne.symm apart]
  · simp [isLeft]

end Maps

/-- Appending to a deque that drops its oldest items above a bound. -/
def pushBounded {Item : Type} (bound : Nat) (items : List Item) (item : Item) : List Item :=
  (items ++ [item]).drop ((items ++ [item]).length - bound)

theorem mem_pushBounded {Item : Type} {bound : Nat} {items : List Item} {item other : Item}
    (member : other ∈ pushBounded bound items item) : other ∈ items ∨ other = item := by
  have kept := List.mem_of_mem_drop member
  rw [List.mem_append, List.mem_singleton] at kept
  exact kept

/-- A deque that holds anything holds the item that was appended last. -/
theorem last_mem_pushBounded {Item : Type} {bound : Nat} (positive : 0 < bound)
    (items : List Item) (item : Item) : item ∈ pushBounded bound items item := by
  have isLast : (items ++ [item]).drop ((items ++ [item]).length - bound) =
      items.drop ((items ++ [item]).length - bound) ++ [item] := by
    rw [List.drop_append_of_le_length]
    rw [List.length_append, List.length_singleton]
    omega
  unfold pushBounded
  rw [isLast]
  exact List.mem_append_right _ (List.mem_singleton.mpr rfl)

theorem pushed_suffix {Item : Type} (bound : Nat) (items : List Item) (item : Item) :
    ∃ dropped, items ++ [item] = dropped ++ pushBounded bound items item :=
  ⟨(items ++ [item]).take ((items ++ [item]).length - bound), (List.take_append_drop _ _).symm⟩

/-- What holds such a deque retains the end of what was pushed. -/
theorem push_all_suffix {Keeper Item : Type} (items : Keeper → List Item)
    (push : Keeper → Item → Keeper)
    (pushes : ∀ keeper item, ∃ bound, items (push keeper item) =
      pushBounded bound (items keeper) item)
    {start : Keeper} (empty : items start = []) (pushed : List Item) :
    items (pushed.foldl push start) <:+ pushed := by
  induction pushed using List.reverseRecOn with
  | nil =>
      rw [List.foldl_nil, empty]
  | append_singleton earlier item ih =>
      obtain ⟨dropped, split⟩ := ih
      obtain ⟨bound, isPushed⟩ := pushes (earlier.foldl push start) item
      obtain ⟨droppedNow, splitNow⟩ := pushed_suffix bound (items (earlier.foldl push start)) item
      refine ⟨dropped ++ droppedNow, ?_⟩
      rw [List.foldl_concat, isPushed, List.append_assoc, ← splitNow, ← List.append_assoc, split]

/-- How a loop at each site of the program orders the items it visits. -/
structure IterationOrder (Site : Type) where
  arrange : {Item : Type} → Site → List Item → List Item
  arrange_perm : ∀ {Item : Type} (site : Site) (items : List Item),
    (arrange site items).Perm items

namespace IterationOrder

variable {Site Item : Type}

/-- The order in which the items are stored. -/
def stored : IterationOrder Site where
  arrange := fun _ items => items
  arrange_perm := fun _ items => List.Perm.refl items

theorem mem_arrange (order : IterationOrder Site) (site : Site) (items : List Item)
    (item : Item) : item ∈ order.arrange site items ↔ item ∈ items :=
  (order.arrange_perm site items).mem_iff

theorem nodup_arrange (order : IterationOrder Site) (site : Site) (items : List Item) :
    (order.arrange site items).Nodup ↔ items.Nodup :=
  (order.arrange_perm site items).nodup_iff

end IterationOrder

abbrev Entity := Nat

theorem empty_handed_out {Row : Type} (entity : Entity) (row : Row)
    (present : ({} : UnorderedMap Entity Row)[entity]? = some row) : entity < 0 := by
  simp at present

/-- Every live handle is below `created`, the number of handles handed out. -/
structure Registry (Row : Type) where
  created : Nat := 0
  rows : UnorderedMap Entity Row := {}
  handedOut : ∀ entity row, rows[entity]? = some row → entity < created := by
    exact empty_handed_out

namespace Registry

variable {Row Site : Type}

def get? (registry : Registry Row) (entity : Entity) : Option Row := registry.rows[entity]?

def create (registry : Registry Row) (row : Row) : Registry Row where
  created := registry.created + 1
  rows := registry.rows.insert registry.created row
  handedOut := by
    intro entity found present
    rw [get_insert] at present
    by_cases same : registry.created = entity
    · omega
    · rw [if_neg same] at present
      have below := registry.handedOut entity found present
      omega

def modify (registry : Registry Row) (entity : Entity) (change : Row → Row) : Registry Row where
  created := registry.created
  rows := registry.rows.modify entity change
  handedOut := by
    intro other found present
    rw [get_modify] at present
    cases stored : registry.rows[other]? with
    | none => simp [stored] at present
    | some row => exact registry.handedOut other row stored

def destroy (registry : Registry Row) (entity : Entity) : Registry Row where
  created := registry.created
  rows := registry.rows.erase entity
  handedOut := by
    intro other found present
    rw [get_erase] at present
    by_cases same : entity = other
    · simp [same] at present
    · rw [if_neg same] at present
      exact registry.handedOut other found present

def mapRows (registry : Registry Row) (change : Row → Row) : Registry Row where
  created := registry.created
  rows := registry.rows.map fun _ row => change row
  handedOut := by
    intro entity found present
    rw [Std.ExtTreeMap.getElem?_map] at present
    cases stored : registry.rows[entity]? with
    | none => simp [stored] at present
    | some row => exact registry.handedOut entity row stored

/-- The live entities whose row passes `holds`, in the order of the loop. -/
def view (registry : Registry Row) (order : IterationOrder Site) (site : Site)
    (holds : Row → Bool) : List Entity :=
  order.arrange site
    ((List.range registry.created).filter fun entity => (registry.get? entity).any holds)

/-- The number of live entities whose row passes `holds`. -/
def count (registry : Registry Row) (holds : Row → Bool) : Nat :=
  ((List.range registry.created).filter fun entity => (registry.get? entity).any holds).length

theorem get?_lt (registry : Registry Row) {entity : Entity} {row : Row}
    (present : registry.get? entity = some row) : entity < registry.created :=
  registry.handedOut entity row present

@[simp] theorem get?_empty (entity : Entity) : ({} : Registry Row).get? entity = none := by
  simp [get?]

@[simp] theorem created_create (registry : Registry Row) (row : Row) :
    (registry.create row).created = registry.created + 1 := rfl

@[simp] theorem created_mapRows (registry : Registry Row) (change : Row → Row) :
    (registry.mapRows change).created = registry.created := rfl

theorem get?_create (registry : Registry Row) (row : Row) (entity : Entity) :
    (registry.create row).get? entity =
      if entity = registry.created then some row else registry.get? entity := by
  rw [get?, create, get_insert]
  by_cases same : registry.created = entity
  · simp [same]
  · rw [if_neg same, if_neg (Ne.symm same), get?]

theorem get?_modify (registry : Registry Row) (entity other : Entity) (change : Row → Row) :
    (registry.modify entity change).get? other =
      if other = entity then (registry.get? other).map change else registry.get? other := by
  rw [get?, modify, get_modify]
  by_cases same : entity = other
  · simp [same, get?]
  · rw [if_neg same, if_neg (Ne.symm same), get?]

theorem get?_destroy (registry : Registry Row) (entity other : Entity) :
    (registry.destroy entity).get? other =
      if other = entity then none else registry.get? other := by
  rw [get?, destroy, get_erase]
  by_cases same : entity = other
  · simp [same]
  · rw [if_neg same, if_neg (Ne.symm same), get?]

@[simp] theorem get?_mapRows (registry : Registry Row) (change : Row → Row) (entity : Entity) :
    (registry.mapRows change).get? entity = (registry.get? entity).map change := by
  rw [get?, mapRows, Std.ExtTreeMap.getElem?_map, get?]

theorem rows_ext {first second : Registry Row} (created : first.created = second.created)
    (rows : ∀ entity, first.get? entity = second.get? entity) : first = second := by
  obtain ⟨firstCreated, firstRows, _⟩ := first
  obtain ⟨secondCreated, secondRows, _⟩ := second
  have sameRows : firstRows = secondRows := Std.ExtTreeMap.ext_getElem? fun {entity} => rows entity
  subst created sameRows
  rfl

/-- Changes of two entities may be made in either order. -/
theorem modify_comm (registry : Registry Row) {left right : Entity} (apart : left ≠ right)
    (changeLeft changeRight : Row → Row) :
    (registry.modify left changeLeft).modify right changeRight =
      (registry.modify right changeRight).modify left changeLeft := by
  refine rows_ext (Eq.refl registry.created) fun entity => ?_
  simp only [get?_modify]
  by_cases isLeft : entity = left
  · simp [isLeft, apart]
  · simp [isLeft]

/-- The handle a creation will use is not live before it. -/
theorem get?_created (registry : Registry Row) : registry.get? registry.created = none := by
  cases present : registry.get? registry.created with
  | none => rfl
  | some row =>
      exact absurd (registry.get?_lt present) (Nat.lt_irrefl _)

theorem mem_view (registry : Registry Row) (order : IterationOrder Site) (site : Site)
    (holds : Row → Bool) (entity : Entity) :
    entity ∈ registry.view order site holds ↔
      ∃ row, registry.get? entity = some row ∧ holds row = true := by
  rw [view, order.mem_arrange, List.mem_filter, List.mem_range]
  constructor
  · rintro ⟨_, passes⟩
    exact (Option.any_eq_true _ _).mp passes
  · rintro ⟨row, present, passes⟩
    exact ⟨registry.get?_lt present, (Option.any_eq_true _ _).mpr ⟨row, present, passes⟩⟩

theorem nodup_view (registry : Registry Row) (order : IterationOrder Site) (site : Site)
    (holds : Row → Bool) : (registry.view order site holds).Nodup := by
  rw [view, order.nodup_arrange]
  exact List.nodup_range.filter _

/-- Registries that agree on which entities pass are visited alike. -/
theorem view_congr {first second : Registry Row} (order : IterationOrder Site) (site : Site)
    {holds : Row → Bool} (created : first.created = second.created)
    (passes : ∀ entity, (first.get? entity).any holds = (second.get? entity).any holds) :
    first.view order site holds = second.view order site holds := by
  simp only [view, created, passes]

end Registry

end Brawololo.EntityStore
