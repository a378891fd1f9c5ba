import SymbolSearch.FileTree.Basic
import SymbolSearch.Settings

set_option autoImplicit false

namespace SymbolSearch.Settings

def RootFailure.name : RootFailure → String
  | .abort => "abort"
  | .skip => "skip"

def toJson (settings : Settings) : Json :=
  let search := settings.search
  .object
    [("search", .object
      [("weights", .object
        [("name", .real search.weights.name),
          ("searchable_text", .real search.weights.searchable),
          ("description", .real search.weights.description),
          ("parent_name", .real search.weights.parentName)]),
        ("threshold", .real search.threshold),
        ("location", .natural search.location),
        ("distance", .natural search.distance),
        ("min_match_char_length", .natural search.minLength)]),
      ("session", .object
        [("normal_debounce_ms", .natural settings.session.normalDelay),
          ("ai_debounce_ms", .natural settings.session.aiDelay),
          ("max_results", .natural settings.session.maxResults)]),
      ("ai", .object
        [("base_url", .text settings.ranking.baseUrl),
          ("model", .text settings.ranking.model),
          ("api_key_env", .text settings.ranking.keyVariable),
          ("timeout_secs", .natural settings.ranking.timeoutSeconds),
          ("cache_capacity", Json.optional .natural settings.ranking.cacheCapacity)]),
      ("index", .object [("root_failure", .text (RootFailure.name settings.rootFailure))]),
      ("editor", .object [("command", .text settings.editorCommand)])]

def render (settings : Settings) : String :=
  settings.toJson.pretty

inductive FileFailure where
  | unreadable (path : Path) (failure : AccessFailure)
  | invalid (path : Path) (fault : Json.Fault)

def FileFailure.messages : FileFailure → List String
  | unreadable path failure => ["Failed to read config file " ++ path.text, failure.message]
  | invalid path fault => ["Failed to parse config file " ++ path.text, fault.message]

def ofFile (tree : FileTree) (path : Path) : Except FileFailure Settings :=
  if !tree.contains path then .ok default
  else
    match tree.readText path with
    | .error failure => .error (.unreadable path failure)
    | .ok text =>
      match ofText text with
      | .error fault => .error (.invalid path fault)
      | .ok settings => .ok settings

def report (settings : Settings) (tree : FileTree) (path : Path) : String :=
  let status := if tree.contains path then "" else " (not found, using defaults)"
  "Configuration\n=============\n\nConfig file:      " ++ path.text ++ status ++ "\n\n" ++
    settings.render ++ "\n"

end SymbolSearch.Settings
