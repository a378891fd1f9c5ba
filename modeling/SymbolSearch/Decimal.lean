set_option autoImplicit false

namespace SymbolSearch.Decimal

def twos (count : Nat) : Nat := Nat.pow 2 count

def tens (count : Nat) : Nat := Nat.pow 10 count

structure Binary where
  mantissa : Nat
  exponent : Int
  -- The gap to the next smaller value is half the gap to the next larger one.
  narrow : Bool

def Binary.ofBits (bits : UInt64) : Binary :=
  let field := ((bits >>> 52) &&& 0x7FF).toNat
  let fraction := (bits &&& 0xFFFFFFFFFFFFF).toNat
  if field = 0 then { mantissa := fraction, exponent := -1074, narrow := false }
  else
    { mantissa := twos 52 + fraction
      exponent := (field : Int) - 1075
      narrow := fraction = 0 && field > 1 }

structure Digits where
  digits : Nat
  exponent : Int
deriving DecidableEq, Repr

def compareScaled (digits : Nat) (ten : Int) (mantissa : Nat) (two : Int) : Ordering :=
  compare (digits * tens ten.toNat * twos (-two).toNat)
    (mantissa * twos two.toNat * tens (-ten).toNat)

-- A decimal lies among the reals that round to the value: between the midpoints to its neighbours,
-- which belong to it if the mantissa is even.
def Binary.readsBack (value : Binary) (decimal : Digits) : Bool :=
  let low := if value.narrow then 4 * value.mantissa - 1 else 4 * value.mantissa - 2
  let high := 4 * value.mantissa + 2
  let closed := value.mantissa % 2 = 0
  let below := compareScaled decimal.digits decimal.exponent low (value.exponent - 2)
  let above := compareScaled decimal.digits decimal.exponent high (value.exponent - 2)
  (below == .gt || (closed && below == .eq)) && (above == .lt || (closed && above == .eq))

def Binary.onGrid (value : Binary) (ten : Int) : Nat :=
  (value.mantissa * twos value.exponent.toNat * tens (-ten).toNat) /
    (twos (-value.exponent).toNat * tens ten.toNat)

def Binary.leadingFrom (value : Binary) : Nat → Int → Int
  | 0, ten => ten
  | fuel + 1, ten => if value.onGrid ten > 0 then ten else value.leadingFrom fuel (ten - 1)

def Binary.leading (value : Binary) : Int :=
  let bound := ((value.mantissa.log2 : Int) + value.exponent) * 3 / 10 + 2
  value.leadingFrom 100 bound

-- Of the two multiples of `10 ^ ten` around the value the one that reads back; of both the nearer,
-- of equally near ones the even one.
def Binary.grid? (value : Binary) (ten : Int) : Option Digits :=
  let down := value.onGrid ten
  let lower : Digits := { digits := down, exponent := ten }
  let upper : Digits := { digits := down + 1, exponent := ten }
  match value.readsBack lower, value.readsBack upper with
  | true, true =>
    match compareScaled (2 * down + 1) ten (2 * value.mantissa) value.exponent with
    | .lt => some upper
    | .gt => some lower
    | .eq => some (if down % 2 = 0 then lower else upper)
  | true, false => some lower
  | false, true => some upper
  | false, false => none

def Digits.trimmed : Nat → Digits → Digits
  | 0, decimal => decimal
  | fuel + 1, decimal =>
    if decimal.digits ≠ 0 && decimal.digits % 10 = 0 then
      trimmed fuel { digits := decimal.digits / 10, exponent := decimal.exponent + 1 }
    else decimal

def Binary.shortest (value : Binary) : Digits :=
  if value.mantissa = 0 then { digits := 0, exponent := 0 }
  else
    let top := value.leading
    -- Seventeen digits always suffice; the exact digits stand in where none was found.
    let found := (List.range 17).findSome? fun (count : Nat) => value.grid? (top - count)
    (found.getD
      { digits := value.mantissa * twos value.exponent.toNat * Nat.pow 5 (-value.exponent).toNat
        exponent := min value.exponent 0 }).trimmed 400

-- Of two nearest integers the even one.
def roundDiv (numerator denominator : Nat) : Nat :=
  let quotient := numerator / denominator
  match compare (2 * (numerator % denominator)) denominator with
  | .lt => quotient
  | .gt => quotient + 1
  | .eq => if quotient % 2 = 0 then quotient else quotient + 1

def Binary.fixed (value : Binary) (places : Nat) : String :=
  let units := roundDiv (value.mantissa * twos value.exponent.toNat * tens places)
    (twos (-value.exponent).toNat)
  let whole := toString (units / tens places)
  let part := toString (units % tens places)
  if places = 0 then whole
  else whole ++ "." ++ String.ofList (List.replicate (places - part.length) '0') ++ part

-- The sign stays where the number rounds to zero.
def fixed (places : Nat) (value : Float) : String :=
  if value.isNaN then "NaN"
  else
    let sign := if value.toBits >>> 63 = 1 then "-" else ""
    if value.isInf then sign ++ "inf"
    else sign ++ (Binary.ofBits value.toBits).fixed places

end SymbolSearch.Decimal
