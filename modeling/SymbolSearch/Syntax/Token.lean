set_option autoImplicit false

namespace SymbolSearch.Syntax

inductive Leaf where
  | word
  | literal
  | sign
deriving DecidableEq, Repr

inductive Token where
  -- The row is counted from zero; `fresh` says that a newline stands before the token.
  | leaf (sort : Leaf) (text : String) (row : Nat) (fresh : Bool)
  -- The text of a group is kept for square brackets, which may be a name.
  | group (bracket : Char) (items : List Token) (text : String) (row : Nat) (fresh : Bool)
deriving Repr

namespace Token

def row : Token → Nat
  | leaf _ _ row _ => row
  | group _ _ _ row _ => row

def fresh : Token → Bool
  | leaf _ _ _ fresh => fresh
  | group _ _ _ _ fresh => fresh

def text : Token → String
  | leaf _ text _ _ => text
  | group _ _ text _ _ => text

def word? : Token → Option String
  | leaf .word text _ _ => some text
  | _ => none

def isWord (token : Token) (text : String) : Bool :=
  token.word? == some text

def isSign (token : Token) (text : String) : Bool :=
  match token with
  | leaf .sign own _ _ => own == text
  | _ => false

def isGroup (token : Token) (bracket : Char) : Bool :=
  match token with
  | group own _ _ _ _ => own == bracket
  | _ => false

def block? : Token → Option (List Token)
  | group '{' items _ _ _ => some items
  | _ => none

def isName : Token → Bool
  | leaf .sign _ _ _ => false
  | leaf _ _ _ _ => true
  | group bracket _ _ _ _ => bracket == '['

def lead : Token → Char
  | leaf _ text _ _ => text.toList.headD ' '
  | group bracket _ _ _ _ => bracket

def continuing : List Char :=
  ['`', ',', '.', ';', '*', '%', '>', '<', '=', '?', '^', '|', '&', '/', ':']

-- A fresh token that ends the complete statement before it: none that could carry it on. Round and
-- square brackets carry on an expression, but not a type.
def endsStatement (inType : Bool) (token : Token) : Bool :=
  token.fresh &&
    match token.lead with
    -- An increment starts a statement, an addition carries one on.
    | '+' => token.isSign "++"
    | '-' => token.isSign "--"
    | '!' => token.isSign "!"
    | 'i' => !(token.isWord "in" || token.isWord "instanceof")
    | '(' => inType
    | '[' => inType
    | c => !continuing.contains c

end Token

end SymbolSearch.Syntax
