set_option autoImplicit false

namespace SymbolSearch

-- A file path as it was spelled. Equality and order look at its components only.
structure Path where
  text : String
deriving Inhabited, Repr

namespace Path

inductive Component where
  | root
  | here
  | up
  | name (text : String)
deriving DecidableEq, Repr

def Component.rank : Component → Nat
  | root => 0
  | here => 1
  | up => 2
  | name _ => 3

def Component.compare : Component → Component → Ordering
  | name left, name right => Ord.compare left right
  | left, right => Ord.compare left.rank right.rank

def compareComponents : List Component → List Component → Ordering
  | [], [] => .eq
  | [], _ :: _ => .lt
  | _ :: _, [] => .gt
  | left :: lefts, right :: rights => (left.compare right).then (compareComponents lefts rights)

def piecesFrom (piece : List Char) : List Char → List (List Char)
  | [] => [piece.reverse]
  | '/' :: rest => piece.reverse :: piecesFrom [] rest
  | c :: rest => piecesFrom (c :: piece) rest

def head : List Char → List Char × List Char
  | '/' :: rest => (['/'], rest)
  | ['.'] => (['.'], [])
  | '.' :: '/' :: rest => (['.'], '/' :: rest)
  | text => ([], text)

def vanishes (piece : List Char) : Bool :=
  piece == [] || piece == ['.']

def Component.ofPiece (piece : List Char) : Component :=
  if piece = ['.', '.'] then .up else .name (String.ofList piece)

def components (path : Path) : List Component :=
  let (start, body) := head path.text.toList
  (match start with
    | ['/'] => [.root]
    | ['.'] => [.here]
    | _ => []) ++
    ((piecesFrom [] body).filter (fun piece => !vanishes piece)).map Component.ofPiece

def compare (left right : Path) : Ordering :=
  compareComponents left.components right.components

def same (left right : Path) : Bool :=
  left.components == right.components

theorem same_iff {left right : Path} : left.same right ↔ left.components = right.components := by
  simp [same]

def isAbsolute (path : Path) : Bool :=
  path.text.toList.head? == some '/'

def solidPieces (pieces : List (List Char)) : List (List Char) :=
  (pieces.reverse.dropWhile vanishes).reverse

def joinPieces : List (List Char) → List Char
  | [] => []
  | [piece] => piece
  | piece :: rest => piece ++ '/' :: joinPieces rest

def parent? (path : Path) : Option Path :=
  let (start, body) := head path.text.toList
  match solidPieces (piecesFrom [] body) with
  | [] => if start = ['.'] then some ⟨""⟩ else none
  | pieces => some ⟨String.ofList (start ++ joinPieces (solidPieces pieces.dropLast))⟩

def name? (path : Path) : Option String :=
  match path.components.getLast? with
  | some (.name text) => some text
  | _ => none

def baseName (path : Path) : String :=
  path.name?.getD path.text

-- What follows the last dot of the name; a name that only starts with a dot has no extension.
def extension? (path : Path) : Option String :=
  path.name?.bind fun name =>
    let reversed := name.toList.reverse
    match reversed.dropWhile (· ≠ '.') with
    | [] => none
    | [_] => none
    | _ => some (String.ofList (reversed.takeWhile (· ≠ '.')).reverse)

def join (base : Path) (below : Path) : Path :=
  if below.isAbsolute || base.text.isEmpty then below
  else if base.text.toList.getLast? = some '/' then ⟨base.text ++ below.text⟩
  else ⟨base.text ++ "/" ++ below.text⟩

def child (base : Path) (name : String) : Path :=
  base.join ⟨name⟩

end Path

end SymbolSearch
