import SymbolSearch.Decimal

set_option autoImplicit false

namespace SymbolSearch

inductive Json where
  | null
  | bool (value : Bool)
  | natural (value : Nat)
  | real (value : Float)
  | text (value : String)
  | array (items : List Json)
  | object (members : List (String × Json))

namespace Json

def optional {α : Type} (write : α → Json) : Option α → Json
  | some value => write value
  | none => null

def hexDigit (value : Nat) : Char :=
  if value < 10 then Char.ofNat (48 + value) else Char.ofNat (87 + value)

def shortEscape? : Char → Option Char
  | '"' => some '"'
  | '\\' => some '\\'
  | '\x08' => some 'b'
  | '\x0c' => some 'f'
  | '\n' => some 'n'
  | '\r' => some 'r'
  | '\t' => some 't'
  | _ => none

def escapeChar (c : Char) : List Char :=
  match shortEscape? c with
  | some letter => ['\\', letter]
  | none =>
    if c.toNat < 0x20 then
      ['\\', 'u', '0', '0', hexDigit (c.toNat / 16), hexDigit (c.toNat % 16)]
    else [c]

def quoted (value : String) : String :=
  String.ofList ('"' :: value.toList.flatMap escapeChar ++ ['"'])

-- Powers of ten of the leading digit that are written without an exponent.
def plainFrom : Int := -5
def plainTo : Int := 15

def decimalText (decimal : Decimal.Digits) : String :=
  let digits := (toString decimal.digits).toList
  let count := digits.length
  let top := decimal.exponent + count - 1
  if decimal.digits = 0 then "0.0"
  else if plainFrom ≤ top && top ≤ plainTo then
    if decimal.exponent ≥ 0 then
      String.ofList (digits ++ List.replicate decimal.exponent.toNat '0') ++ ".0"
    else if top ≥ 0 then
      String.ofList (digits.take (top.toNat + 1) ++ '.' :: digits.drop (top.toNat + 1))
    else "0." ++ String.ofList (List.replicate ((-top).toNat - 1) '0' ++ digits)
  else
    let mantissa := match digits with
      | [digit] => [digit]
      | digit :: rest => digit :: '.' :: rest
      | [] => []
    String.ofList mantissa ++ (if top < 0 then "e-" else "e+") ++ toString top.natAbs

-- JSON has no text for NaN and the infinities.
def realText (value : Float) : String :=
  if value.isNaN || value.isInf then "null"
  else
    (if value.toBits >>> 63 = 1 then "-" else "") ++
      decimalText (Decimal.Binary.ofBits value.toBits).shortest

def indent (depth : Nat) : String :=
  "\n" ++ String.ofList (List.replicate (2 * depth) ' ')

mutual

def compact : Json → String
  | null => "null"
  | bool value => if value then "true" else "false"
  | natural value => toString value
  | real value => realText value
  | text value => quoted value
  | array items => "[" ++ compactItems items ++ "]"
  | object members => "\x7b" ++ compactMembers members ++ "\x7d"

def compactItems : List Json → String
  | [] => ""
  | [item] => compact item
  | item :: rest => compact item ++ "," ++ compactItems rest

def compactMembers : List (String × Json) → String
  | [] => ""
  | [(name, value)] => quoted name ++ ":" ++ compact value
  | (name, value) :: rest => quoted name ++ ":" ++ compact value ++ "," ++ compactMembers rest

end

mutual

def prettyAt (depth : Nat) : Json → String
  | array [] => "[]"
  | array items => "[" ++ prettyItems (depth + 1) items ++ indent depth ++ "]"
  | object [] => "\x7b\x7d"
  | object members => "\x7b" ++ prettyMembers (depth + 1) members ++ indent depth ++ "\x7d"
  | other => compact other

def prettyItems (depth : Nat) : List Json → String
  | [] => ""
  | [item] => indent depth ++ prettyAt depth item
  | item :: rest => indent depth ++ prettyAt depth item ++ "," ++ prettyItems depth rest

def prettyMembers (depth : Nat) : List (String × Json) → String
  | [] => ""
  | [(name, value)] => indent depth ++ quoted name ++ ": " ++ prettyAt depth value
  | (name, value) :: rest =>
    indent depth ++ quoted name ++ ": " ++ prettyAt depth value ++ "," ++ prettyMembers depth rest

end

def pretty (value : Json) : String :=
  prettyAt 0 value

end Json

end SymbolSearch
