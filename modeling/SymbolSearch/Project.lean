import SymbolSearch.FileTree.IgnoreRule
import SymbolSearch.Json.Reader
import SymbolSearch.Jsonc

set_option autoImplicit false

namespace SymbolSearch

inductive ProjectFailure where
  | missing (path : Path)
  | unreadable (path : Path) (failure : AccessFailure)
  | invalid (path : Path) (fault : Json.Fault)
  | badPattern (pattern : String) (fault : Glob.Fault)

namespace ProjectFailure

def reason? : ProjectFailure → Option String
  | missing _ => none
  | unreadable _ failure => some failure.message
  | invalid _ fault => some fault.message
  | badPattern _ fault => some fault.message

def message : ProjectFailure → String
  | missing path => "no tsconfig.json found at " ++ path.text
  | unreadable path failure => "failed to read " ++ path.text ++ ": " ++ failure.message
  | invalid path fault =>
    "invalid project configuration in " ++ path.text ++ ": " ++ fault.message
  | badPattern pattern fault =>
    "invalid glob pattern " ++ Text.quote pattern ++ ": " ++ fault.message

end ProjectFailure

structure ProjectText where
  files : Option (List String)
  included : Option (List String)
  excluded : Option (List String)
  allowsScripts : Bool
  outputFolder : Option String

namespace ProjectText

open Json.Reader

def patterns : Json.Reader (Option (List String)) :=
  nullable (list text)

def compilerReader : Json.Reader (Bool × Option String) :=
  record "struct RawCompilerOptions"
    [.of "allowJs" bool fun value options => (value, options.2),
      .of "outDir" (nullable text) fun value options => (options.1, value)]
    (false, none)

def reader : Json.Reader ProjectText :=
  record "struct RawConfig"
    [.of "files" patterns fun value config => { config with files := value },
      .of "include" patterns fun value config => { config with included := value },
      .of "exclude" patterns fun value config => { config with excluded := value },
      .of "compilerOptions" compilerReader fun value config =>
        { config with allowsScripts := value.1, outputFolder := value.2 }]
    { files := none, included := none, excluded := none, allowsScripts := false
      outputFolder := none }

end ProjectText

structure Project where
  folder : Path
  configPath : Path
  files : List String
  included : List String
  excluded : List String
  allowsScripts : Bool
deriving Repr

namespace Project

def defaultExcluded : List String :=
  ["node_modules", "bower_components", "jspm_packages"]

-- A list of files stands alone: without patterns of its own, such a project includes nothing else.
def ofConfig (configPath : Path) (config : ProjectText) : Project :=
  let files := config.files.getD []
  { folder := configPath.parent?.getD ⟨"."⟩
    configPath
    files
    included := config.included.getD (if files.isEmpty then ["**/*"] else [])
    excluded := config.excluded.getD defaultExcluded ++ config.outputFolder.toList
    allowsScripts := config.allowsScripts }

def configPathOf (tree : FileTree) (root : Path) : Path :=
  if tree.isFolder root then root.child "tsconfig.json" else root

def load (tree : FileTree) (root : Path) : Except ProjectFailure Project :=
  let path := configPathOf tree root
  if !tree.isFile path then .error (.missing path)
  else
    match tree.realPath path with
    | .error failure => .error (.unreadable path failure)
    | .ok path =>
      match tree.readText path with
      | .error failure => .error (.unreadable path failure)
      | .ok text =>
        match Json.Reader.ofText ProjectText.reader (Jsonc.strip text) with
        | .error fault => .error (.invalid path fault)
        | .ok config => .ok (ofConfig path config)

def typedExtensions : List String :=
  ["ts", "tsx", "mts", "cts"]

def scriptExtensions : List String :=
  ["js", "jsx", "mjs", "cjs"]

def isSourceFile (project : Project) (path : Path) : Bool :=
  match path.extension? with
  | none => false
  | some extension =>
    let folded := extension.toLower
    typedExtensions.contains folded || (project.allowsScripts && scriptExtensions.contains folded)

def trimHere : List Char → List Char
  | '.' :: '/' :: rest => trimHere rest
  | text => text

def trimSlashes (text : List Char) : List Char :=
  (text.reverse.dropWhile (· = '/')).reverse

def parsePattern (pattern : String) : Except ProjectFailure Glob :=
  match Glob.ofText pattern with
  | .ok glob => .ok glob
  | .error fault => .error (.badPattern pattern fault)

-- A pattern stands for what it matches and for all that lies below it.
def globsOf (pattern : String) : Except ProjectFailure (List Glob) :=
  let trimmed := String.ofList (trimSlashes (trimHere pattern.toList))
  if trimmed.isEmpty then .ok []
  else do
    -- A fault is reported of the first of the two that has one.
    let itself ← parsePattern trimmed
    let below ← parsePattern (trimmed ++ "/**")
    pure [itself, below]

def globsOfAll (patterns : List String) : Except ProjectFailure (List Glob) := do
  pure (← patterns.mapM globsOf).flatten

def listedFiles (project : Project) (isFile : Path → Bool) : List Path :=
  (project.files.map fun file =>
      project.folder.join ⟨String.ofList (trimHere file.toList)⟩).filter isFile

def selects (project : Project) (isIncluded isExcluded : String → Bool) (relative : String) : Bool :=
  project.isSourceFile (project.folder.child relative) && isIncluded relative &&
    !isExcluded relative

def dropRepeats (last : Path) : List Path → List Path
  | [] => []
  | path :: rest => if path.same last then dropRepeats last rest else path :: dropRepeats path rest

def distinct : List Path → List Path
  | [] => []
  | path :: rest => path :: dropRepeats path rest

def canonical (paths : List Path) : List Path :=
  distinct (paths.mergeSort fun left right => (left.compare right).isLE)

def sourceFiles (project : Project) (isFile : Path → Bool) (walked : List String) :
    Except ProjectFailure (List Path) := do
  let included ← globsOfAll project.included
  let excluded ← globsOfAll project.excluded
  let found :=
    if project.included.isEmpty then []
    else
      (walked.filter (project.selects (fun path => included.any (·.isMatch path))
        fun path => excluded.any (·.isMatch path))).map project.folder.child
  pure (canonical (project.listedFiles isFile ++ found))

def walk (project : Project) (tree : FileTree) : List String :=
  match tree.placeOf project.folder with
  | .error _ => []
  | .ok place =>
    ((tree.walk place).filter fun file => tree.isFile (FileTree.pathOf file)).map fun file =>
      "/".intercalate (file.drop place.length)

def sourceFilesIn (project : Project) (tree : FileTree) : Except ProjectFailure (List Path) :=
  project.sourceFiles tree.isFile (project.walk tree)

end Project

end SymbolSearch
