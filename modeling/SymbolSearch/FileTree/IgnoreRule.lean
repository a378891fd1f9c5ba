import SymbolSearch.FileTree.Basic
import SymbolSearch.Glob.Reading
import SymbolSearch.Text.Basic
import SymbolSearch.Text.Lines

set_option autoImplicit false

/-!
The files of a folder that a walk visits. A file `.ignore` in a folder holds rules, one a line, for
what lies below: the last rule that matches decides, and rules of inner folders go before those of
outer ones. Hidden names are left out unless a rule keeps them.
-/

namespace SymbolSearch

structure IgnoreRule where
  glob : Glob
  keeps : Bool
  foldersOnly : Bool
deriving Repr

namespace IgnoreRule

def endsWith (text ending : List Char) : Bool :=
  ending.isSuffixOf text

def cutSlash (body : List Char) : Bool × List Char :=
  if endsWith body ['\\', '/'] then (true, body.dropLast.dropLast)
  else if endsWith body ['/'] then (true, body.dropLast)
  else (false, body)

-- A pattern without a slash is looked for at any depth, and one that ends in two stars matches what
-- is in a folder and not the folder itself.
def patternOf (anchored : Bool) (body : List Char) : List Char :=
  let floating := !anchored && !body.contains '/' && body != ['*', '*']
  let pattern := if floating then ['*', '*', '/'] ++ body else body
  if endsWith pattern ['/', '*', '*'] then pattern ++ ['/', '*'] else pattern

def unmark : List Char → Bool × Bool × List Char
  | '\\' :: '!' :: rest => (false, false, '!' :: rest)
  | '\\' :: '#' :: rest => (false, false, '#' :: rest)
  | '!' :: '/' :: rest => (true, true, rest)
  | '!' :: rest => (true, false, rest)
  | '/' :: rest => (false, true, rest)
  | text => (false, false, text)

def ofLine? (line : List Char) : Option IgnoreRule :=
  let line := if endsWith line ['\\', ' '] then line else Text.trimEnd line
  if line.isEmpty || line.head? = some '#' then none
  else
    let (keeps, anchored, body) := unmark line
    let (foldersOnly, body) := cutSlash body
    (Glob.ofText? (patternOf anchored body)).map fun glob => { glob, keeps, foldersOnly }

def dropMarks : List (List Char) → List (List Char)
  | [] => []
  | line :: rest => line.dropWhile (· = '\uFEFF') :: rest

def ofBytes (bytes : ByteArray) : List IgnoreRule :=
  let texts := ((Text.byteLinesFrom [] bytes.data.toList).map Text.ofBytes?).takeWhile Option.isSome
  (dropMarks (texts.filterMap id)).filterMap ofLine?

def verdict (rules : List IgnoreRule) (path : String) (isFolder : Bool) : Option Bool :=
  (rules.reverse.find? fun rule => rule.glob.isMatch path && (isFolder || !rule.foldersOnly)).map
    (·.keeps)

end IgnoreRule

namespace FileTree

structure RuleFile where
  place : Place
  rules : List IgnoreRule

def ruleFileAt (tree : FileTree) (place : Place) : RuleFile :=
  { place
    rules :=
      match tree.readBytes (pathOf (place ++ [".ignore"])) with
      | .ok bytes => IgnoreRule.ofBytes bytes
      | .error _ => [] }

def verdict (files : List RuleFile) (place : Place) (isFolder : Bool) : Option Bool :=
  files.findSome? fun file =>
    IgnoreRule.verdict file.rules ("/".intercalate (place.drop file.place.length)) isFolder

def isHidden (name : String) : Bool :=
  name.toList.head? = some '.'

def barred : List String :=
  [".git", "node_modules"]

def isVisited (files : List RuleFile) (place : Place) (name : String) (isFolder : Bool) : Bool :=
  (verdict files (place ++ [name]) isFolder).getD (!isHidden name) && !barred.contains name

mutual

def walkEntry (tree : FileTree) (files : List RuleFile) (place : Place) : Entry → List Place
  | .folder children => walkChildren tree (tree.ruleFileAt place :: files) place children
  | .file _ => [place]
  -- A link is listed; it is not followed into a folder.
  | .link _ => [place]

def walkChildren (tree : FileTree) (files : List RuleFile) (place : Place) :
    List (String × Entry) → List Place
  | [] => []
  | (name, entry) :: rest =>
    (if isVisited files place name entry.isFolder then
      walkEntry tree files (place ++ [name]) entry
    else []) ++ walkChildren tree files place rest

end

def outerPlaces (place : Place) : List Place :=
  ((List.range place.length).map fun length => place.take length).reverse

def walk (tree : FileTree) (place : Place) : List Place :=
  match tree.root.at? place with
  | some entry => tree.walkEntry ((outerPlaces place).map tree.ruleFileAt) place entry
  | none => []

end FileTree

end SymbolSearch
