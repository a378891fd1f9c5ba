import SymbolSearch.Path

set_option autoImplicit false

/-!
A tree of folders, files and symbolic links, and what a path leads to in it. A place is the list of
the names from the root of the tree to an entry; a path is followed to its place through links.
-/

namespace SymbolSearch

inductive Entry where
  | file (bytes : ByteArray)
  | link (target : Path)
  | folder (children : List (String × Entry))

inductive AccessFailure where
  | missing
  | exists
  | notFolder
  | isFolder
  | tooManyLinks
  | notText
deriving DecidableEq, Repr

def AccessFailure.message : AccessFailure → String
  | missing => "No such file or directory (os error 2)"
  | .exists => "File exists (os error 17)"
  | notFolder => "Not a directory (os error 20)"
  | isFolder => "Is a directory (os error 21)"
  | tooManyLinks => "Too many levels of symbolic links (os error 40)"
  | notText => "stream did not contain valid UTF-8"

abbrev Place := List String

namespace Entry

def isFolder : Entry → Bool
  | folder _ => true
  | _ => false

def child? (entry : Entry) (name : String) : Option Entry :=
  match entry with
  | folder children => children.lookup name
  | _ => none

def at? (entry : Entry) : Place → Option Entry
  | [] => some entry
  | name :: rest => (entry.child? name).bind fun child => child.at? rest

def setChild (name : String) (child : Entry) : List (String × Entry) → List (String × Entry)
  | [] => [(name, child)]
  | (other, entry) :: rest =>
    if other = name then (name, child) :: rest else (other, entry) :: setChild name child rest

def put (entry new : Entry) : Place → Entry
  | [] => new
  | name :: rest =>
    let children :=
      match entry with
      | folder children => children
      | _ => []
    folder (setChild name (((children.lookup name).getD (folder [])).put new rest) children)

end Entry

structure FileTree where
  root : Entry
  workingFolder : Place

namespace FileTree

def empty : FileTree :=
  { root := .folder [], workingFolder := [] }

def put (tree : FileTree) (place : Place) (entry : Entry) : FileTree :=
  { tree with root := tree.root.put entry place }

def isFolderAt (tree : FileTree) (place : Place) : Bool :=
  (tree.root.at? place).any Entry.isFolder

def pieces (path : Path) : List String :=
  (Path.piecesFrom [] path.text.toList).map String.ofList

-- Follows pieces from a place. At most `links` links are followed, and every piece must be reached
-- through a folder, also one that leads nowhere else.
def follow (tree : FileTree) (links : Nat) (place : Place) (rest : List String) :
    Except AccessFailure Place :=
  match rest with
  | [] => .ok place
  | piece :: rest =>
    if !tree.isFolderAt place then .error .notFolder
    else if piece = "" || piece = "." then tree.follow links place rest
    else if piece = ".." then tree.follow links place.dropLast rest
    else
      match tree.root.at? (place ++ [piece]) with
      | none => .error .missing
      -- A relative target starts from the folder of the link.
      | some (.link target) =>
        match links with
        | 0 => .error .tooManyLinks
        | links + 1 =>
          tree.follow links (if target.isAbsolute then [] else place) (pieces target ++ rest)
      | some _ => tree.follow links (place ++ [piece]) rest
termination_by (links, rest.length)

def linkLimit : Nat := 40

def placeOf (tree : FileTree) (path : Path) : Except AccessFailure Place :=
  if path.text.isEmpty then .error .missing
  else tree.follow linkLimit (if path.isAbsolute then [] else tree.workingFolder) (pieces path)

def entryOf (tree : FileTree) (path : Path) : Except AccessFailure Entry :=
  match tree.placeOf path with
  | .error failure => .error failure
  | .ok place =>
    match tree.root.at? place with
    | some entry => .ok entry
    | none => .error .missing

def isFolder (tree : FileTree) (path : Path) : Bool :=
  match tree.entryOf path with
  | .ok (.folder _) => true
  | _ => false

def isFile (tree : FileTree) (path : Path) : Bool :=
  match tree.entryOf path with
  | .ok (.file _) => true
  | _ => false

def contains (tree : FileTree) (path : Path) : Bool :=
  match tree.entryOf path with
  | .ok _ => true
  | .error _ => false

def readBytes (tree : FileTree) (path : Path) : Except AccessFailure ByteArray :=
  match tree.entryOf path with
  | .ok (.file bytes) => .ok bytes
  | .ok _ => .error .isFolder
  | .error failure => .error failure

def readText (tree : FileTree) (path : Path) : Except AccessFailure String :=
  match tree.readBytes path with
  | .error failure => .error failure
  | .ok bytes =>
    match String.fromUTF8? bytes with
    | some text => .ok text
    | none => .error .notText

def pathOf (place : Place) : Path :=
  ⟨"/" ++ "/".intercalate place⟩

def realPath (tree : FileTree) (path : Path) : Except AccessFailure Path :=
  (tree.placeOf path).map pathOf

def makeFolder (tree : FileTree) (path : Path) : Except AccessFailure FileTree :=
  match path.parent?, path.name? with
  | some parent, some name =>
    match tree.placeOf (if parent.text.isEmpty then ⟨"."⟩ else parent) with
    | .error failure => .error failure
    | .ok place =>
      if !tree.isFolderAt place then .error .notFolder
      else if (tree.root.at? (place ++ [name])).isSome then .error .exists
      else .ok (tree.put (place ++ [name]) (.folder []))
  | _, _ => .error .exists

def makeNested (tree : FileTree) : List Path → Except AccessFailure FileTree
  | [] => .ok tree
  | path :: outer =>
    match tree.makeFolder path with
    | .ok tree => .ok tree
    | .error .missing => do
      let tree ← tree.makeNested outer
      if tree.isFolder path then pure tree else tree.makeFolder path
    | .error failure => if tree.isFolder path then .ok tree else .error failure

-- `fuel` bounds their number.
def ancestors (fuel : Nat) (path : Path) : List Path :=
  match fuel, path.parent? with
  | _, none => []
  | 0, _ => []
  | fuel + 1, some parent => path :: if parent.text.isEmpty then [] else ancestors fuel parent

def makeFolders (tree : FileTree) (path : Path) : Except AccessFailure FileTree :=
  tree.makeNested (ancestors path.text.length path)

def openForAppending (tree : FileTree) (path : Path) : Except AccessFailure FileTree :=
  match tree.entryOf path with
  | .ok (.folder _) => .error .isFolder
  | .ok _ => .ok tree
  | .error .missing =>
    match path.parent?, path.name? with
    | some parent, some name => do
      let place ← tree.placeOf parent
      pure (tree.put (place ++ [name]) (.file .empty))
    | _, _ => .error .missing
  | .error failure => .error failure

end FileTree

end SymbolSearch
