import Mathlib.Tactic

/-!
Signed machine arithmetic that traps. Each operation compares the mathematical
value of its result with the range of its type and has no result outside of it.
`Yields` joins the three readings of an expression: trapping, wrapping and in
the integers.
-/

namespace Brawololo.TrappingArithmetic

universe u v

def Fits32 (value : Int) : Prop := -2 ^ 31 ≤ value ∧ value < 2 ^ 31

def Fits64 (value : Int) : Prop := -2 ^ 63 ≤ value ∧ value < 2 ^ 63

instance (value : Int) : Decidable (Fits32 value) := inferInstanceAs (Decidable (_ ∧ _))
instance (value : Int) : Decidable (Fits64 value) := inferInstanceAs (Decidable (_ ∧ _))

/-! The operations. -/

def add32 (left right : Int32) : Option Int32 :=
  if Fits32 (left.toInt + right.toInt) then some (left + right) else none

def sub32 (left right : Int32) : Option Int32 :=
  if Fits32 (left.toInt - right.toInt) then some (left - right) else none

def mul32 (left right : Int32) : Option Int32 :=
  if Fits32 (left.toInt * right.toInt) then some (left * right) else none

def neg32 (value : Int32) : Option Int32 :=
  if Fits32 (-value.toInt) then some (-value) else none

def add64 (left right : Int64) : Option Int64 :=
  if Fits64 (left.toInt + right.toInt) then some (left + right) else none

def sub64 (left right : Int64) : Option Int64 :=
  if Fits64 (left.toInt - right.toInt) then some (left - right) else none

def mul64 (left right : Int64) : Option Int64 :=
  if Fits64 (left.toInt * right.toInt) then some (left * right) else none

def div64 (left right : Int64) : Option Int64 :=
  if right.toInt ≠ 0 ∧ Fits64 (left.toInt.tdiv right.toInt) then some (left / right) else none

/-- A conversion to 32 bits that keeps the value. -/
def narrow (value : Int64) : Option Int32 :=
  if Fits32 value.toInt then some value.toInt32 else none

/-- `left * right / divisor` in 64 bits, narrowed to 32. -/
def mulDiv32 (left right divisor : Int64) : Option Int32 := do
  let product ← mul64 left right
  let quotient ← div64 product divisor
  narrow quotient

/-! What they yield. -/

/-- The trapping expression has the result of the wrapping one, and that has the
value of the expression in the integers. -/
structure Yields {Word : Type} (toInt : Word → Int) (trapping : Option Word) (wrapping : Word)
    (value : Int) : Prop where
  safe : trapping = some wrapping
  exact : toInt wrapping = value

abbrev Yields32 := Yields Int32.toInt
abbrev Yields64 := Yields Int64.toInt

theorem bmod32_eq {value : Int} (fits : Fits32 value) : value.bmod (2 ^ 32) = value := by
  obtain ⟨low, high⟩ := fits
  exact Int.bmod_eq_of_le (by omega) (by omega)

theorem bmod64_eq {value : Int} (fits : Fits64 value) : value.bmod (2 ^ 64) = value := by
  obtain ⟨low, high⟩ := fits
  exact Int.bmod_eq_of_le (by omega) (by omega)

section Operations

variable (left right : Int32) {left' right' : Int64}

theorem add32_yields (fits : Fits32 (left.toInt + right.toInt)) :
    Yields32 (add32 left right) (left + right) (left.toInt + right.toInt) :=
  ⟨if_pos fits, by rw [Int32.toInt_add, bmod32_eq fits]⟩

theorem sub32_yields (fits : Fits32 (left.toInt - right.toInt)) :
    Yields32 (sub32 left right) (left - right) (left.toInt - right.toInt) :=
  ⟨if_pos fits, by rw [Int32.toInt_sub, bmod32_eq fits]⟩

theorem mul32_yields (fits : Fits32 (left.toInt * right.toInt)) :
    Yields32 (mul32 left right) (left * right) (left.toInt * right.toInt) :=
  ⟨if_pos fits, by rw [Int32.toInt_mul, bmod32_eq fits]⟩

theorem add64_yields (fits : Fits64 (left'.toInt + right'.toInt)) :
    Yields64 (add64 left' right') (left' + right') (left'.toInt + right'.toInt) :=
  ⟨if_pos fits, by rw [Int64.toInt_add, bmod64_eq fits]⟩

theorem sub64_yields (fits : Fits64 (left'.toInt - right'.toInt)) :
    Yields64 (sub64 left' right') (left' - right') (left'.toInt - right'.toInt) :=
  ⟨if_pos fits, by rw [Int64.toInt_sub, bmod64_eq fits]⟩

theorem mul64_yields (fits : Fits64 (left'.toInt * right'.toInt)) :
    Yields64 (mul64 left' right') (left' * right') (left'.toInt * right'.toInt) :=
  ⟨if_pos fits, by rw [Int64.toInt_mul, bmod64_eq fits]⟩

theorem div64_yields (nonzero : right'.toInt ≠ 0)
    (fits : Fits64 (left'.toInt.tdiv right'.toInt)) :
    Yields64 (div64 left' right') (left' / right') (left'.toInt.tdiv right'.toInt) :=
  ⟨if_pos ⟨nonzero, fits⟩, by rw [Int64.toInt_div, bmod64_eq fits]⟩

theorem narrow_yields (fits : Fits32 left'.toInt) :
    Yields32 (narrow left') left'.toInt32 left'.toInt :=
  ⟨if_pos fits, by rw [Int64.toInt_toInt32, bmod32_eq fits]⟩

theorem safe_bind {α β : Type} {trapping : Option α} {wrapping : α}
    (safe : trapping = some wrapping) (next : α → Option β) :
    (trapping >>= next) = next wrapping := by
  rw [safe]
  rfl

theorem mul_div32_yields {divisor : Int64} {first second third : Int}
    (isFirst : left'.toInt = first) (isSecond : right'.toInt = second)
    (isThird : divisor.toInt = third) (nonzero : third ≠ 0) (product : Fits64 (first * second))
    (quotient : Fits32 ((first * second).tdiv third)) :
    Yields32 (mulDiv32 left' right' divisor) (left' * right' / divisor).toInt32
      ((first * second).tdiv third) := by
  subst isFirst isSecond isThird
  have one := mul64_yields product
  rw [← one.exact] at quotient ⊢
  have wide : Fits64 ((left' * right').toInt.tdiv divisor.toInt) := by
    obtain ⟨low, high⟩ := quotient
    exact ⟨by omega, by omega⟩
  have two := div64_yields nonzero wide
  rw [← two.exact] at quotient ⊢
  have three := narrow_yields quotient
  refine ⟨?_, three.exact⟩
  unfold mulDiv32
  rw [safe_bind one.safe, safe_bind two.safe]
  exact three.safe

end Operations

/-- A truncated quotient lies between the quotients of bounds that the divisor
divides. -/
theorem tdiv_between {value divisor low high : Int} (positive : 0 < divisor)
    (above : low * divisor ≤ value) (below : value ≤ high * divisor) :
    low ≤ value.tdiv divisor ∧ value.tdiv divisor ≤ high := by
  have nonzero : divisor ≠ 0 := ne_of_gt positive
  constructor
  · have quotient := Int.tdiv_le_tdiv positive above
    rwa [Int.mul_tdiv_cancel _ nonzero] at quotient
  · have quotient := Int.tdiv_le_tdiv positive below
    rwa [Int.mul_tdiv_cancel _ nonzero] at quotient

/-! Unsigned numbers read as signed ones. -/

theorem toInt64_eq_bmod (value : UInt64) : value.toInt64.toInt = (value.toNat : Int).bmod (2 ^ 64) :=
  BitVec.toInt_eq_toNat_bmod value.toBitVec

theorem toInt64_eq {value : UInt64} (small : value.toNat < 2 ^ 63) :
    value.toInt64.toInt = value.toNat := by
  rw [toInt64_eq_bmod]
  exact bmod64_eq ⟨by omega, by omega⟩

/-! Loops. -/

/-- A trapping loop runs through where its steps do at every state of the
wrapping loop. -/
theorem foldlM_eq_some {State : Type u} {Item : Type v} (holds : State → Prop)
    (trapping : State → Item → Option State) (wrapping : State → Item → State)
    (items : List Item)
    (safe : ∀ item ∈ items, ∀ state, holds state → trapping state item = some (wrapping state item))
    (kept : ∀ item ∈ items, ∀ state, holds state → holds (wrapping state item))
    (start : State) (initially : holds start) :
    items.foldlM trapping start = some (items.foldl wrapping start) := by
  induction items generalizing start with
  | nil => rfl
  | cons item rest ih =>
      rw [List.foldlM_cons, safe item List.mem_cons_self start initially, List.foldl_cons]
      exact ih (fun other member => safe other (List.mem_cons_of_mem item member))
        (fun other member => kept other (List.mem_cons_of_mem item member))
        (wrapping start item) (kept item List.mem_cons_self start initially)

end Brawololo.TrappingArithmetic
