import SymbolSearch.Json.Fault

set_option autoImplicit false

namespace SymbolSearch.Json

-- What follows, the line from one, and the bytes of the line before it.
structure Cursor where
  rest : List Char
  line : Nat
  column : Nat

namespace Cursor

def ofText (text : String) : Cursor :=
  { rest := text.toList, line := 1, column := 0 }

def pass (cursor : Cursor) (c : Char) (rest : List Char) : Cursor :=
  if c = '\n' then { rest, line := cursor.line + 1, column := 0 }
  else { rest, line := cursor.line, column := cursor.column + c.utf8Size }

def next (cursor : Cursor) : Cursor :=
  match cursor.rest with
  | [] => cursor
  | c :: rest => cursor.pass c rest

def isSpace (c : Char) : Bool :=
  c = ' ' || c = '\n' || c = '\t' || c = '\r'

def skipSpace (cursor : Cursor) : Cursor :=
  go cursor.rest cursor
where
  go : List Char → Cursor → Cursor
    | [], cursor => cursor
    | c :: rest, cursor => if isSpace c then go rest (cursor.pass c rest) else cursor

def fault (cursor : Cursor) (cause : Cause) : Fault :=
  { cause, line := cursor.line, column := cursor.column }

def faultAhead (cursor : Cursor) (cause : Cause) : Fault :=
  match cursor.rest with
  | [] => cursor.fault cause
  | '\n' :: _ => { cause, line := cursor.line + 1, column := 0 }
  | _ :: _ => { cause, line := cursor.line, column := cursor.column + 1 }

def faultBytes (cursor : Cursor) (cause : Cause) : Nat → List Char → Fault
  | count, c :: rest =>
    if count = 0 then cursor.fault cause
    else if count < c.utf8Size then { cause, line := cursor.line, column := cursor.column + count }
    else faultBytes (cursor.pass c rest) cause (count - c.utf8Size) rest
  | _, [] => cursor.fault cause

end Cursor

abbrev Reader (α : Type) : Type :=
  Cursor → Except Fault (α × Cursor)

end SymbolSearch.Json
