import SymbolSearch.Json.Number
import SymbolSearch.Json.Text

set_option autoImplicit false

namespace SymbolSearch.Json.Reader

def letters : List Char → Cursor → Except Fault Cursor
  | [], cursor => .ok cursor
  | letter :: more, cursor =>
    match cursor.rest with
    | [] => .error (cursor.fault .endOfValue)
    | c :: rest =>
      if c = letter then letters more (cursor.pass c rest)
      else .error (cursor.faultAhead .expectedIdent)

def wrongType (expected : String) (cursor : Cursor) : Fault :=
  let at' (result : Except Fault (Found × Cursor)) : Fault :=
    match result with
    | .ok (found, stop) => stop.fault (.invalidType found expected)
    | .error fault => fault
  match cursor.rest with
  | 'n' :: _ => at' ((letters ['u', 'l', 'l'] cursor.next).map fun stop => (.null, stop))
  | 't' :: _ => at' ((letters ['r', 'u', 'e'] cursor.next).map fun stop => (.bool true, stop))
  | 'f' :: _ =>
    at' ((letters ['a', 'l', 's', 'e'] cursor.next).map fun stop => (.bool false, stop))
  | '"' :: _ => at' ((textBody cursor.next).map fun (value, stop) => (.text value, stop))
  | '[' :: _ => cursor.fault (.invalidType .sequence expected)
  | '{' :: _ => cursor.fault (.invalidType .map expected)
  | c :: _ =>
    if c = '-' || c.isDigit then
      at' ((number cursor).map fun (value, stop) => (value.found, stop))
    else cursor.faultAhead .expectedValue
  | [] => cursor.faultAhead .expectedValue

def value {α : Type} (read : Reader α) : Reader α := fun cursor =>
  let start := cursor.skipSpace
  if start.rest.isEmpty then .error (start.fault .endOfValue) else read start

def bool : Reader Bool := value fun cursor =>
  match cursor.rest with
  | 't' :: _ => (letters ['r', 'u', 'e'] cursor.next).map fun stop => (true, stop)
  | 'f' :: _ => (letters ['a', 'l', 's', 'e'] cursor.next).map fun stop => (false, stop)
  | _ => .error (wrongType "a boolean" cursor)

def text : Reader String := value fun cursor =>
  match cursor.rest with
  | '"' :: _ => textBody cursor.next
  | _ => .error (wrongType "a string" cursor)

def numeric {α : Type} (expected : String) (accept : Number → Except Cause α) : Reader α :=
  value fun cursor =>
    if (cursor.rest.headD ' ') = '-' || (cursor.rest.headD ' ').isDigit then
      match number cursor with
      | .ok (read, stop) =>
        match accept read with
        | .ok result => .ok (result, stop)
        | .error cause => .error (stop.fault cause)
      | .error fault => .error fault
    else .error (wrongType expected cursor)

def natural (expected : String) (limit : Nat) : Reader Nat :=
  numeric expected fun read =>
    match read with
    | .natural value =>
      if value < limit then .ok value else .error (.invalidValue read.found expected)
    | .negative _ => .error (.invalidValue read.found expected)
    | .real _ => .error (.invalidType read.found expected)

def real : Reader Float :=
  numeric "f64" fun read =>
    match read with
    | .natural value => .ok (nearestFloat value)
    | .negative magnitude => .ok (-(nearestFloat magnitude))
    | .real value => .ok value

def unit : Reader Unit := value fun cursor =>
  match cursor.rest with
  | 'n' :: _ => (letters ['u', 'l', 'l'] cursor.next).map fun stop => ((), stop)
  | _ => .error (wrongType "unit" cursor)

def nullable {α : Type} (read : Reader α) : Reader (Option α) := fun cursor =>
  let start := cursor.skipSpace
  match start.rest with
  | 'n' :: _ => (letters ['u', 'l', 'l'] start.next).map fun stop => (none, stop)
  | _ => (read cursor).map fun (found, stop) => (some found, stop)

def nextItem (first : Bool) (cursor : Cursor) : Except Fault (Option Cursor) :=
  let start := cursor.skipSpace
  match start.rest with
  | ']' :: _ => .ok none
  | ',' :: _ =>
    -- A comma in front of the first item is left to the reader of the item.
    if first then .ok (some start)
    else
      let behind := start.next.skipSpace
      match behind.rest with
      | ']' :: _ => .error (behind.faultAhead .trailingComma)
      | _ :: _ => .ok (some behind)
      | [] => .error (behind.fault .endOfValue)
  | _ :: _ => if first then .ok (some start) else .error (start.faultAhead .expectedListSeparator)
  | [] => .error (start.fault .endOfList)

def closeList (cursor : Cursor) : Except Fault Cursor :=
  let start := cursor.skipSpace
  match start.rest with
  | ']' :: _ => .ok start.next
  | ',' :: _ =>
    let behind := start.next.skipSpace
    match behind.rest with
    | ']' :: _ => .error (behind.faultAhead .trailingComma)
    | _ => .error (behind.faultAhead .trailingCharacters)
  | _ :: _ => .error (start.faultAhead .trailingCharacters)
  | [] => .error (start.fault .endOfList)

def items {α : Type} (read : Reader α) : Nat → Bool → List α → Reader (List α)
  | 0, _, _, cursor => .error (cursor.fault .endOfList)
  | fuel + 1, first, before, cursor => do
    match ← nextItem first cursor with
    | none => .ok (before.reverse, ← closeList cursor)
    | some start =>
      let (item, stop) ← read start
      items read fuel false (item :: before) stop

def list {α : Type} (read : Reader α) : Reader (List α) := value fun cursor =>
  match cursor.rest with
  | '[' :: rest => items read (rest.length + 1) true [] cursor.next
  | _ => .error (wrongType "a sequence" cursor)

def nextMember (first : Bool) (cursor : Cursor) : Except Fault (Option Cursor) :=
  let start := cursor.skipSpace
  match start.rest with
  | '}' :: _ => .ok none
  | [] => .error (start.fault .endOfObject)
  | c :: _ =>
    if first then
      if c = '"' then .ok (some start.next) else .error (start.faultAhead .keyMustBeText)
    else if c = ',' then
      let behind := start.next.skipSpace
      match behind.rest with
      | '"' :: _ => .ok (some behind.next)
      | '}' :: _ => .error (behind.faultAhead .trailingComma)
      | _ :: _ => .error (behind.faultAhead .keyMustBeText)
      | [] => .error (behind.fault .endOfValue)
    else .error (start.faultAhead .expectedObjectSeparator)

def colon (cursor : Cursor) : Except Fault Cursor :=
  let start := cursor.skipSpace
  match start.rest with
  | ':' :: _ => .ok start.next
  | _ :: _ => .error (start.faultAhead .expectedColon)
  | [] => .error (start.fault .endOfObject)

-- Behind the brace if that comes next.
def leaveObject (cursor : Cursor) : Cursor :=
  let start := cursor.skipSpace
  match start.rest with
  | '}' :: _ => start.next
  | _ => start

-- `opened` holds the brackets that are open around the value, innermost first.
def skipValueFrom : Nat → List Char → Cursor → Except Fault Cursor
  | 0, _, cursor => .error (cursor.fault .endOfValue)
  | fuel + 1, opened, cursor =>
    let start := cursor.skipSpace
    match start.rest with
    | [] => .error (start.fault .endOfValue)
    | 'n' :: _ => do skipRest fuel opened true (← letters ['u', 'l', 'l'] start.next)
    | 't' :: _ => do skipRest fuel opened true (← letters ['r', 'u', 'e'] start.next)
    | 'f' :: _ => do skipRest fuel opened true (← letters ['a', 'l', 's', 'e'] start.next)
    | '"' :: _ => do skipRest fuel opened true (← skipText start.next)
    | c :: _ =>
      if c = '[' || c = '{' then skipRest fuel (c :: opened) false start.next
      else if c = '-' || c.isDigit then do skipRest fuel opened true (← skipNumber start)
      else .error (start.faultAhead .expectedValue)
where
  skipRest (fuel : Nat) (opened : List Char) (behindValue : Bool) (cursor : Cursor) :
      Except Fault Cursor :=
    match fuel, opened with
    | _, [] => .ok cursor
    | 0, _ => .error (cursor.fault .endOfValue)
    | fuel + 1, bracket :: outer =>
      let start := cursor.skipSpace
      match start.rest with
      | [] => .error (start.fault (if bracket = '[' then .endOfList else .endOfObject))
      | c :: _ =>
        if c = ',' && behindValue then inside fuel (bracket :: outer) start.next
        else if c = (if bracket = '[' then ']' else '}') then skipRest fuel outer true start.next
        else if behindValue then
          .error (start.faultAhead
            (if bracket = '[' then .expectedListSeparator else .expectedObjectSeparator))
        else inside fuel (bracket :: outer) start
  inside (fuel : Nat) (opened : List Char) (cursor : Cursor) : Except Fault Cursor :=
    match fuel, opened with
    | 0, _ => .error (cursor.fault .endOfValue)
    | fuel + 1, '{' :: _ => do
      let start := cursor.skipSpace
      match start.rest with
      | '"' :: _ =>
        let behind := (← skipText start.next).skipSpace
        match behind.rest with
        | ':' :: _ => skipValueFrom fuel opened behind.next
        | _ :: _ => .error (behind.faultAhead .expectedColon)
        | [] => .error (behind.fault .endOfObject)
      | _ :: _ => .error (start.faultAhead .keyMustBeText)
      | [] => .error (start.fault .endOfObject)
    | fuel + 1, _ => skipValueFrom fuel opened cursor

def skipValue (cursor : Cursor) : Except Fault Cursor :=
  skipValueFrom (3 * cursor.rest.length + 3) [] cursor

structure Member (σ : Type) where
  name : String
  read : Reader (σ → σ)
  required : Bool

def Member.of {σ α : Type} (name : String) (read : Reader α) (store : α → σ → σ)
    (required : Bool := false) : Member σ :=
  { name, read := fun cursor => (read cursor).map fun (found, stop) => (store found, stop), required }

variable {σ : Type}

def membersFrom (members : List (Member σ)) : Nat → Bool → List String → σ → Reader σ
  | 0, _, _, _, cursor => .error (cursor.fault .endOfObject)
  | fuel + 1, first, seen, record, cursor => do
    match ← nextMember first cursor with
    | none =>
      match members.find? fun member => member.required && !seen.contains member.name with
      | some member => .error ((leaveObject cursor).fault (.missingField member.name))
      | none => .ok (record, leaveObject cursor)
    | some start =>
      let (name, stop) ← textBody start
      match members.find? fun member => member.name == name with
      | none =>
        membersFrom members fuel false seen record (← skipValue (← colon stop))
      | some member =>
        -- The fault stands where the object is left, not at the name.
        if seen.contains name then .error ((leaveObject stop).fault (.duplicateField name))
        else
          let (store, stop) ← member.read (← colon stop)
          membersFrom members fuel false (name :: seen) (store record) stop

def positional (expected : String) : List (Member σ) → Nat → σ → Reader σ
  | [], _, record, cursor => (closeList cursor).map fun stop => (record, stop)
  | member :: rest, count, record, cursor => do
    match ← nextItem (count == 0) cursor with
    | none =>
      if member.required then
        let stop ← closeList cursor
        .error (stop.fault (.invalidLength count expected))
      else positional expected rest count record cursor
    | some start =>
      let (store, stop) ← member.read start
      positional expected rest (count + 1) (store record) stop

def record (title : String) (members : List (Member σ)) (initial : σ) : Reader σ :=
  value fun cursor =>
    match cursor.rest with
    | '{' :: rest => membersFrom members (rest.length + 1) true [] initial cursor.next
    | '[' :: _ =>
      let expected := title ++ " with " ++ toString members.length ++
        (if members.length = 1 then " element" else " elements")
      positional expected members 0 initial cursor.next
    | _ => .error (wrongType title cursor)

def choice {α : Type} (variants : List (String × α)) : Reader α := value fun cursor =>
  let name : Reader α := value fun cursor =>
    match cursor.rest with
    | '"' :: _ => do
      let (name, stop) ← textBody cursor.next
      match variants.find? fun variant => variant.1 == name with
      | some variant => .ok (variant.2, stop)
      | none => .error (stop.fault (.unknownVariant name (variants.map (·.1))))
    | _ => .error (wrongType "variant identifier" cursor)
  match cursor.rest with
  | '"' :: _ => name cursor
  | '{' :: _ => do
    let (found, stop) ← name cursor.next
    let ((), stop) ← unit (← colon stop)
    let stop := stop.skipSpace
    match stop.rest with
    | '}' :: _ => .ok (found, stop.next)
    | _ :: _ => .error (stop.fault .expectedValue)
    | [] => .error (stop.fault .endOfObject)
  | _ => .error (cursor.faultAhead .expectedValue)

def ofText {α : Type} (read : Reader α) (text : String) : Except Fault α := do
  let (found, stop) ← read (Cursor.ofText text)
  let stop := stop.skipSpace
  if stop.rest.isEmpty then .ok found else .error (stop.faultAhead .trailingCharacters)

end SymbolSearch.Json.Reader
