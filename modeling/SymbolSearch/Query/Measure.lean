set_option autoImplicit false

namespace SymbolSearch

class Measure (α : Type) where
  ofNat : Nat → α
  add : α → α → α
  mul : α → α → α
  div : α → α → α
  le : α → α → Bool
  lt : α → α → Bool
  order : α → α → Ordering

namespace Measure

variable {α : Type} [Measure α]

def sum (values : List α) : α :=
  values.foldl add (ofNat 0)

def isZero (value : α) : Bool :=
  le value (ofNat 0) && le (ofNat 0) value

end Measure

-- Binary64 values in the order of their bits: negative ones below positive ones, NaN outside the
-- infinities.
def bitRank (value : Float) : Int :=
  let bits := value.toBits.toNat
  if bits < Nat.pow 2 63 then bits else -1 - ((bits - Nat.pow 2 63 : Nat) : Int)

def nearestFloat (count : Nat) : Float :=
  if count < Nat.pow 2 53 then Float.ofNat count else Float.ofScientific count false 0

instance : Measure Float where
  ofNat := nearestFloat
  add := (· + ·)
  mul := (· * ·)
  div := (· / ·)
  le left right := decide (left ≤ right)
  lt left right := decide (left < right)
  order left right := compare (bitRank left) (bitRank right)

instance : Measure Rat where
  ofNat count := (count : Rat)
  add := (· + ·)
  mul := (· * ·)
  div := (· / ·)
  le left right := decide (left ≤ right)
  lt left right := decide (left < right)
  order left right := if left < right then .lt else if left = right then .eq else .gt

namespace Measure

variable (left right : Rat) (count : Nat)

@[simp] theorem ofNat_rat : ofNat count = (count : Rat) := rfl

@[simp] theorem add_rat : add left right = left + right := rfl

@[simp] theorem div_rat : div left right = left / right := rfl

@[simp] theorem le_rat : le left right = decide (left ≤ right) := rfl

@[simp] theorem lt_rat : lt left right = decide (left < right) := rfl

end Measure

end SymbolSearch
