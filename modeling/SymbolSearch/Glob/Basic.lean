set_option autoImplicit false

/-!
File name patterns. A pattern is a list of tokens; matching is by the bytes of a path, and `/` is
passed only by the tokens that are made for it, by classes and by itself.
-/

namespace SymbolSearch.Glob

inductive Token where
  | literal (char : Char)
  | anyByte
  | anyBytes
  -- Any folders in front: `**` and a slash at the start.
  | anyFoldersBefore
  -- Whatever lies below: a slash and `**` at the end.
  | anythingBelow
  -- A slash, or any folders between two slashes.
  | anyFoldersBetween
  | oneOf (negated : Bool) (ranges : List (Char × Char))
  | either (choices : List (List Token))
deriving Repr

def slash : UInt8 := 0x2F

def ends : List UInt8 → List (List UInt8)
  | [] => [[]]
  | byte :: rest => (byte :: rest) :: ends rest

def endsOfName : List UInt8 → List (List UInt8)
  | [] => [[]]
  | byte :: rest =>
    (byte :: rest) :: if byte = slash then [] else endsOfName rest

def afterSlashes : List UInt8 → List (List UInt8)
  | [] => []
  | byte :: rest => if byte = slash then rest :: afterSlashes rest else afterSlashes rest

def afterBytes : List UInt8 → List UInt8 → Option (List UInt8)
  | [], path => some path
  | _ :: _, [] => none
  | byte :: bytes, other :: path => if byte = other then afterBytes bytes path else none

def bytesOf (char : Char) : List UInt8 :=
  String.utf8EncodeChar char

-- A range of characters by bytes: the last byte of the first character and the first byte of the
-- last one bound it, and their other bytes stand for themselves.
def byteRanges (range : Char × Char) : List (UInt8 × UInt8) :=
  let single := fun (byte : UInt8) => (byte, byte)
  -- Characters of one byte have no other bytes.
  if range.1 = range.2 then (bytesOf range.1).map single
  else
    let low := bytesOf range.1
    let high := bytesOf range.2
    low.dropLast.map single ++ [(low.getLastD 0, high.headD 0)] ++ high.tail.map single

def inClass (negated : Bool) (ranges : List (Char × Char)) (byte : UInt8) : Bool :=
  negated != (ranges.flatMap byteRanges).any fun range => range.1 ≤ byte && byte ≤ range.2

mutual

def Token.isVoid : Token → Bool
  | .either choices => allVoid choices
  | _ => false

def isVoid : List Token → Bool
  | [] => true
  | token :: rest => token.isVoid && isVoid rest

def allVoid : List (List Token) → Bool
  | [] => true
  | choice :: rest => isVoid choice && allVoid rest

end

mutual

def Token.rests : Token → List UInt8 → List (List UInt8)
  | .literal char, path => (afterBytes (bytesOf char) path).toList
  | .anyByte, path =>
    match path with
    | [] => []
    | byte :: rest => if byte = slash then [] else [rest]
  | .anyBytes, path => endsOfName path
  | .anyFoldersBefore, path => path :: afterSlashes path
  | .anythingBelow, path =>
    match path with
    | [] => []
    | byte :: rest => if byte = slash then ends rest else []
  | .anyFoldersBetween, path =>
    match path with
    | [] => []
    | byte :: rest => if byte = slash then rest :: afterSlashes rest else []
  | .oneOf negated ranges, path =>
    match path with
    | [] => []
    | byte :: rest => if inClass negated ranges byte then [rest] else []
  | .either choices, path => if allVoid choices then [path] else restsOfChoices choices path

def rests : List Token → List UInt8 → List (List UInt8)
  | [], path => [path]
  | token :: tokens, path => ((token.rests path).eraseDups.flatMap (rests tokens)).eraseDups

def restsOfChoices : List (List Token) → List UInt8 → List (List UInt8)
  | [], _ => []
  | choice :: choices, path =>
    (if isVoid choice then [] else rests choice path) ++ restsOfChoices choices path

end

end SymbolSearch.Glob

namespace SymbolSearch

structure Glob where
  tokens : List Glob.Token
deriving Repr

def Glob.matchesBytes (glob : Glob) (path : List UInt8) : Bool :=
  match glob.tokens with
  | [.anyFoldersBefore] => true
  | tokens => (Glob.rests tokens path).contains []

def Glob.isMatch (glob : Glob) (path : String) : Bool :=
  glob.matchesBytes path.toUTF8.data.toList

end SymbolSearch
