import SymbolSearch.Text.Basic

set_option autoImplicit false

namespace SymbolSearch.Jsonc

inductive CommentState where
  | code
  | string
  | escaped
  | lineComment
  | blockComment (star : Bool)
deriving DecidableEq, Repr

def withoutComments : CommentState → List Char → List Char
  | _, [] => []
  | .code, '/' :: '/' :: rest => withoutComments .lineComment rest
  | .code, '/' :: '*' :: rest => withoutComments (.blockComment false) rest
  | .code, c :: rest => c :: withoutComments (if c = '"' then .string else .code) rest
  | .escaped, c :: rest => c :: withoutComments .string rest
  | .string, c :: rest =>
    c :: withoutComments (if c = '\\' then .escaped else if c = '"' then .code else .string) rest
  -- The newline ends the comment and stays.
  | .lineComment, c :: rest =>
    if c = '\n' then c :: withoutComments .code rest else withoutComments .lineComment rest
  | .blockComment star, c :: rest =>
    if star && c = '/' then withoutComments .code rest
    else if c = '\n' then c :: withoutComments (.blockComment false) rest
    else withoutComments (.blockComment (c = '*')) rest

inductive CommaState where
  | code
  | string
  | escaped
deriving DecidableEq, Repr

def closesNext (text : List Char) : Bool :=
  match text.dropWhile Text.isBlank with
  | c :: _ => c = '}' || c = ']'
  | [] => false

def withoutTrailingCommas : CommaState → List Char → List Char
  | _, [] => []
  | .code, c :: rest =>
    if c = ',' && closesNext rest then withoutTrailingCommas .code rest
    else c :: withoutTrailingCommas (if c = '"' then .string else .code) rest
  | .escaped, c :: rest => c :: withoutTrailingCommas .string rest
  | .string, c :: rest =>
    c :: withoutTrailingCommas (if c = '\\' then .escaped else if c = '"' then .code else .string) rest

def strip (text : String) : String :=
  String.ofList (withoutTrailingCommas .code (withoutComments .code text.toList))

end SymbolSearch.Jsonc
