import SymbolSearch.Json.Value
import SymbolSearch.Text.Quote

set_option autoImplicit false

namespace SymbolSearch.Json

inductive Found where
  | bool (value : Bool)
  | integer (value : Int)
  | real (value : Float)
  | text (value : String)
  | null
  | sequence
  | map

namespace Found

def describe : Found → String
  | bool value => "boolean " ++ tick (if value then "true" else "false")
  | integer value => "integer " ++ tick (toString value)
  | real value => "floating point " ++ tick (realText value)
  | text value => "string " ++ Text.quote value
  | null => "null"
  | sequence => "sequence"
  | map => "map"
where
  tick (text : String) : String := "\x60" ++ text ++ "\x60"

end Found

inductive Cause where
  | endOfList
  | endOfObject
  | endOfString
  | endOfValue
  | expectedColon
  | expectedListSeparator
  | expectedObjectSeparator
  | expectedIdent
  | expectedValue
  | invalidEscape
  | invalidNumber
  | numberOutOfRange
  | controlCharacter
  | keyMustBeText
  | loneSurrogate
  | trailingComma
  | trailingCharacters
  | endOfHexEscape
  | invalidType (found : Found) (expected : String)
  | invalidValue (found : Found) (expected : String)
  | invalidLength (length : Nat) (expected : String)
  | unknownVariant (name : String) (known : List String)
  | missingField (name : String)
  | duplicateField (name : String)

namespace Cause

def quoteNames : List String → String
  | [] => ""
  | [name] => Found.describe.tick name
  | name :: rest => Found.describe.tick name ++ ", " ++ quoteNames rest

def oneOf : List String → String
  | [] => "there are no variants"
  | [name] => "expected " ++ Found.describe.tick name
  | [first, second] =>
    "expected " ++ Found.describe.tick first ++ " or " ++ Found.describe.tick second
  | names => "expected one of " ++ quoteNames names

def message : Cause → String
  | endOfList => "EOF while parsing a list"
  | endOfObject => "EOF while parsing an object"
  | endOfString => "EOF while parsing a string"
  | endOfValue => "EOF while parsing a value"
  | expectedColon => "expected \x60:\x60"
  | expectedListSeparator => "expected \x60,\x60 or \x60]\x60"
  | expectedObjectSeparator => "expected \x60,\x60 or \x60\x7d\x60"
  | expectedIdent => "expected ident"
  | expectedValue => "expected value"
  | invalidEscape => "invalid escape"
  | invalidNumber => "invalid number"
  | numberOutOfRange => "number out of range"
  | controlCharacter =>
    "control character (\\u0000-\\u001F) found while parsing a string"
  | keyMustBeText => "key must be a string"
  | loneSurrogate => "lone leading surrogate in hex escape"
  | trailingComma => "trailing comma"
  | trailingCharacters => "trailing characters"
  | endOfHexEscape => "unexpected end of hex escape"
  | invalidType found expected => "invalid type: " ++ found.describe ++ ", expected " ++ expected
  | invalidValue found expected => "invalid value: " ++ found.describe ++ ", expected " ++ expected
  | invalidLength length expected =>
    "invalid length " ++ toString length ++ ", expected " ++ expected
  | unknownVariant name known =>
    "unknown variant " ++ Found.describe.tick name ++ ", " ++ oneOf known
  | missingField name => "missing field " ++ Found.describe.tick name
  | duplicateField name => "duplicate field " ++ Found.describe.tick name

end Cause

structure Fault where
  cause : Cause
  line : Nat
  column : Nat

def Fault.message (fault : Fault) : String :=
  fault.cause.message ++ " at line " ++ toString fault.line ++ " column " ++ toString fault.column

end SymbolSearch.Json
