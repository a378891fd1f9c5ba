import SymbolSearch.Json.Cursor
import SymbolSearch.Query.Measure

set_option autoImplicit false

namespace SymbolSearch.Json

-- Integers that fit 64 bits stay integers.
inductive Number where
  | natural (value : Nat)
  | negative (magnitude : Nat)
  | real (value : Float)

def Number.found : Number → Found
  | natural value => .integer value
  | negative magnitude => .integer (-(magnitude : Int))
  | real value => .real value

def wordLimit : Nat := Nat.pow 2 64

-- The value of the digits that fit 64 bits, and the power of ten it stands for.
structure Significand where
  digits : Nat
  exponent : Int

def digitOf? (c : Char) : Option Nat :=
  if c.isDigit then some (c.toNat - 48) else none

def skipDigits : List Char → Cursor → Cursor
  | [], cursor => cursor
  | c :: rest, cursor => if c.isDigit then skipDigits rest (cursor.pass c rest) else cursor

def overflows (digits digit : Nat) : Bool :=
  decide (wordLimit ≤ digits * 10 + digit)

def countDigits (significand : Significand) : List Char → Cursor → Significand × Cursor
  | [], cursor => (significand, cursor)
  | c :: rest, cursor =>
    if c.isDigit then
      countDigits { significand with exponent := significand.exponent + 1 } rest (cursor.pass c rest)
    else (significand, cursor)

def wholeDigits (digits : Nat) : List Char → Cursor → Significand × Bool × Cursor
  | [], cursor => ({ digits, exponent := 0 }, false, cursor)
  | c :: rest, cursor =>
    match digitOf? c with
    | none => ({ digits, exponent := 0 }, false, cursor)
    | some digit =>
      if overflows digits digit then
        let (significand, cursor) := countDigits { digits, exponent := 0 } (c :: rest) cursor
        (significand, true, cursor)
      else wholeDigits (digits * 10 + digit) rest (cursor.pass c rest)

def fractionDigits (significand : Significand) (any : Bool) :
    List Char → Cursor → Significand × Bool × Cursor
  | [], cursor => (significand, any, cursor)
  | c :: rest, cursor =>
    match digitOf? c with
    | none => (significand, any, cursor)
    | some digit =>
      if overflows significand.digits digit then
        (significand, true, skipDigits (c :: rest) cursor)
      else
        fractionDigits
          { digits := significand.digits * 10 + digit, exponent := significand.exponent - 1 } true
          rest (cursor.pass c rest)

def largestPower : Nat := 308

def powerOfTen (exponent : Nat) : Float :=
  Float.ofScientific 1 false exponent

-- In one step, or in several where the power itself would not be finite. Nothing if the result is
-- infinite.
def scaled? : Nat → Float → Int → Option Float
  | 0, value, _ => some value
  | fuel + 1, value, exponent =>
    if exponent.natAbs ≤ largestPower then
      if exponent ≥ 0 then
        let product := value * powerOfTen exponent.natAbs
        if product.isInf then none else some product
      else some (value / powerOfTen exponent.natAbs)
    else if value == 0 then some value
    else if exponent ≥ 0 then none
    else scaled? fuel (value / powerOfTen largestPower) (exponent + largestPower)

def realNumber (negative : Bool) (significand : Significand) : Reader Number := fun cursor =>
  match scaled? 8 (nearestFloat significand.digits) significand.exponent with
  | some value => .ok (.real (if negative then -value else value), cursor)
  | none => .error (cursor.fault .numberOutOfRange)

def exponentLimit : Nat := Nat.pow 2 31 - 1

def exponentDigits (value : Nat) : List Char → Cursor → Option Nat × Cursor
  | [], cursor => (some value, cursor)
  | c :: rest, cursor =>
    match digitOf? c with
    | none => (some value, cursor)
    | some digit =>
      if value * 10 + digit > exponentLimit then (none, cursor.pass c rest)
      else exponentDigits (value * 10 + digit) rest (cursor.pass c rest)

def exponentPart (negative : Bool) (significand : Significand) : Reader Number := fun cursor =>
  let (down, start) := match cursor.rest with
    | '+' :: _ => (false, cursor.next)
    | '-' :: _ => (true, cursor.next)
    | _ => (false, cursor)
  match start.rest with
  | [] => .error (start.fault .endOfValue)
  | c :: rest =>
    match digitOf? c with
    | none => .error (start.faultAhead .invalidNumber)
    | some digit =>
      match exponentDigits digit rest (start.pass c rest) with
      | (some exponent, stop) =>
        realNumber negative
          { significand with
            exponent := if down then significand.exponent - exponent
              else significand.exponent + exponent } stop
      -- Too large an exponent: zero stays zero, and a small value becomes zero.
      | (none, stop) =>
        if significand.digits ≠ 0 && !down then .error (stop.fault .numberOutOfRange)
        else .ok (.real (if negative then -0.0 else 0.0), skipDigits stop.rest stop)

def fractionPart (negative : Bool) (significand : Significand) : Reader Number := fun cursor =>
  match fractionDigits significand false cursor.rest cursor with
  | (_, false, stop) =>
    .error (stop.faultAhead (if stop.rest.isEmpty then .endOfValue else .invalidNumber))
  | (significand, true, stop) =>
    match stop.rest with
    | 'e' :: _ => exponentPart negative significand stop.next
    | 'E' :: _ => exponentPart negative significand stop.next
    | _ => realNumber negative significand stop

def behindWhole (negative : Bool) (significand : Significand) (long : Bool) : Reader Number :=
  fun cursor =>
    match cursor.rest with
    | '.' :: _ => fractionPart negative significand cursor.next
    | 'e' :: _ => exponentPart negative significand cursor.next
    | 'E' :: _ => exponentPart negative significand cursor.next
    | _ =>
      if long then realNumber negative significand cursor
      -- Zero with a sign and numbers below the 64-bit ones are no integers.
      else if !negative then .ok (.natural significand.digits, cursor)
      else if significand.digits = 0 || significand.digits > Nat.pow 2 63 then
        .ok (.real (-(nearestFloat significand.digits)), cursor)
      else .ok (.negative significand.digits, cursor)

def magnitude (negative : Bool) : Reader Number := fun cursor =>
  match cursor.rest with
  | [] => .error (cursor.fault .endOfValue)
  | '0' :: _ =>
    let stop := cursor.next
    if ((stop.rest.headD ' ').isDigit) then .error (stop.faultAhead .invalidNumber)
    else behindWhole negative { digits := 0, exponent := 0 } false stop
  | c :: rest =>
    match digitOf? c with
    | none => .error (cursor.faultAhead .invalidNumber)
    | some digit =>
      let (significand, long, stop) := wholeDigits digit rest (cursor.pass c rest)
      behindWhole negative significand long stop

def number : Reader Number := fun cursor =>
  match cursor.rest with
  | '-' :: _ => magnitude true cursor.next
  | _ => magnitude false cursor

def skipNumber (cursor : Cursor) : Except Fault Cursor :=
  let start := match cursor.rest with
    | '-' :: _ => cursor.next
    | _ => cursor
  match start.rest with
  | '0' :: _ =>
    let stop := start.next
    if (stop.rest.headD ' ').isDigit then .error (stop.faultAhead .invalidNumber)
    else behind stop
  | c :: rest =>
    if c.isDigit then behind (skipDigits rest (start.pass c rest))
    else .error (start.faultAhead .invalidNumber)
  | [] => .error (start.fault .invalidNumber)
where
  behind (cursor : Cursor) : Except Fault Cursor :=
    match cursor.rest with
    | '.' :: _ =>
      let start := cursor.next
      if (start.rest.headD ' ').isDigit then
        let stop := skipDigits start.rest start
        match stop.rest with
        | 'e' :: _ => exponent stop.next
        | 'E' :: _ => exponent stop.next
        | _ => .ok stop
      else .error (start.faultAhead .invalidNumber)
    | 'e' :: _ => exponent cursor.next
    | 'E' :: _ => exponent cursor.next
    | _ => .ok cursor
  exponent (cursor : Cursor) : Except Fault Cursor :=
    let start := match cursor.rest with
      | '+' :: _ => cursor.next
      | '-' :: _ => cursor.next
      | _ => cursor
    if (start.rest.headD ' ').isDigit then .ok (skipDigits start.rest start)
    else .error (start.faultAhead .invalidNumber)

end SymbolSearch.Json
