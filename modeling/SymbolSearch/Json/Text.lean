import SymbolSearch.Json.Cursor

set_option autoImplicit false

namespace SymbolSearch.Json

def hexValue? (c : Char) : Option Nat :=
  if c.isDigit then some (c.toNat - 48)
  else if 'a' ≤ c && c ≤ 'f' then some (c.toNat - 87)
  else if 'A' ≤ c && c ≤ 'F' then some (c.toNat - 55)
  else none

def Cursor.toEnd (cursor : Cursor) : Cursor :=
  go cursor.rest cursor
where
  go : List Char → Cursor → Cursor
    | [], cursor => cursor
    | c :: rest, cursor => go rest (cursor.pass c rest)

def hexEscape : Reader Nat := fun cursor =>
  let refuse : Except Fault (Nat × Cursor) :=
    if (cursor.rest.foldl (fun total c => total + c.utf8Size) 0) < 4 then
      .error (cursor.toEnd.fault .endOfString)
    else .error (cursor.faultBytes .invalidEscape 4 cursor.rest)
  match cursor.rest with
  | a :: b :: c :: d :: rest =>
    match hexValue? a, hexValue? b, hexValue? c, hexValue? d with
    | some a, some b, some c, some d =>
      .ok (((a * 16 + b) * 16 + c) * 16 + d,
        { rest, line := cursor.line, column := cursor.column + 4 })
    | _, _, _, _ => refuse
  | _ => refuse

def isLeading (unit : Nat) : Bool :=
  0xD800 ≤ unit && unit ≤ 0xDBFF

def isTrailing (unit : Nat) : Bool :=
  0xDC00 ≤ unit && unit ≤ 0xDFFF

def unicodeEscape : Reader Char := fun cursor => do
  let (first, cursor) ← hexEscape cursor
  if isTrailing first then .error (cursor.fault .loneSurrogate)
  else if !isLeading first then .ok (Char.ofNat first, cursor)
  else
    match cursor.rest with
    | [] => .error (cursor.fault .endOfString)
    -- The trailing half must follow at once.
    | '\\' :: _ =>
      let cursor := cursor.next
      match cursor.rest with
      | [] => .error (cursor.fault .endOfString)
      | 'u' :: _ =>
        let (second, cursor) ← hexEscape cursor.next
        if isTrailing second then
          .ok (Char.ofNat (0x10000 + (first - 0xD800) * 0x400 + (second - 0xDC00)), cursor)
        else .error (cursor.fault .loneSurrogate)
      | _ => .error (cursor.faultAhead .endOfHexEscape)
    | _ => .error (cursor.faultAhead .endOfHexEscape)

def unescape? : Char → Option Char
  | '"' => some '"'
  | '\\' => some '\\'
  | '/' => some '/'
  | 'b' => some '\x08'
  | 'f' => some '\x0c'
  | 'n' => some '\n'
  | 'r' => some '\r'
  | 't' => some '\t'
  | _ => none

def escape : Reader Char := fun cursor =>
  match cursor.rest with
  | [] => .error (cursor.fault .endOfString)
  | 'u' :: _ => unicodeEscape cursor.next
  | c :: _ =>
    match unescape? c with
    | some meant => .ok (meant, cursor.next)
    | none => .error (cursor.faultAhead .invalidEscape)

def textFrom : Nat → List Char → Reader (List Char)
  | 0, _, cursor => .error (cursor.fault .endOfString)
  | fuel + 1, before, cursor =>
    match cursor.rest with
    | [] => .error (cursor.fault .endOfString)
    | '"' :: _ => .ok (before.reverse, cursor.next)
    | '\\' :: _ => do
      let (c, cursor) ← escape cursor.next
      textFrom fuel (c :: before) cursor
    | c :: rest =>
      if c.toNat < 0x20 then .error (cursor.faultAhead .controlCharacter)
      else textFrom fuel (c :: before) (cursor.pass c rest)

def textBody : Reader String := fun cursor => do
  let (chars, cursor) ← textFrom (cursor.rest.length + 1) [] cursor
  .ok (String.ofList chars, cursor)

def skipEscape (cursor : Cursor) : Except Fault Cursor :=
  match cursor.rest with
  | [] => .error (cursor.fault .endOfString)
  | 'u' :: _ => (hexEscape cursor.next).map (·.2)
  | c :: _ =>
    match unescape? c with
    | some _ => .ok cursor.next
    | none => .error (cursor.faultAhead .invalidEscape)

def skipTextFrom : Nat → Cursor → Except Fault Cursor
  | 0, cursor => .error (cursor.fault .endOfString)
  | fuel + 1, cursor =>
    match cursor.rest with
    | [] => .error (cursor.fault .endOfString)
    | '"' :: _ => .ok cursor.next
    | '\\' :: _ => do skipTextFrom fuel (← skipEscape cursor.next)
    | c :: rest =>
      if c.toNat < 0x20 then .error (cursor.fault .controlCharacter)
      else skipTextFrom fuel (cursor.pass c rest)

def skipText (cursor : Cursor) : Except Fault Cursor :=
  skipTextFrom (cursor.rest.length + 1) cursor

end SymbolSearch.Json
