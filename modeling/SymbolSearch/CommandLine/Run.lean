import SymbolSearch.CommandLine.Arguments
import SymbolSearch.Indexing
import SymbolSearch.Listing
import SymbolSearch.Ranking.Desk
import SymbolSearch.SettingsFile
import SymbolSearch.Statistics
import SymbolSearch.Text.Basic

set_option autoImplicit false

namespace SymbolSearch.CommandLine

structure Surroundings where
  tree : FileTree
  lookup : String → Option String
  service : Ranking.Service → Ranking.Request → Except Ranking.Failure (List String)

structure Report where
  code : Nat
  output : String
  complaints : String
deriving DecidableEq, Repr

namespace Report

def printed (output : String) : Report :=
  { code := 0, output, complaints := "" }

def usage : Report :=
  { code := 2, output := "", complaints := "" }

def numberedCause (cause : String) (place : Nat) : String :=
  "    " ++ toString place ++ ": " ++
    String.ofList (Text.replace ['\n'] "\n       ".toList cause.toList) ++ "\n"

def causes : List String → String
  | [] => ""
  | [cause] =>
    "\nCaused by:\n    " ++
      String.ofList (Text.replace ['\n'] "\n    ".toList cause.toList) ++ "\n"
  | many => "\nCaused by:\n" ++ String.join (many.zipIdx.map fun (cause, i) => numberedCause cause i)

def failed (messages : List String) : Report :=
  { code := 1
    output := ""
    complaints := "Error: " ++ messages.headD "" ++ "\n" ++ causes messages.tail }

end Report

abbrev Attempt (α : Type) : Type :=
  Except (List String) α

def programName : String := "symdex"

def needsFolder (invocation : Invocation) : Bool :=
  invocation.command = .search || invocation.config.isNone

namespace Surroundings

-- A relative folder counts for nothing.
def dataFolder? (surroundings : Surroundings) : Option Path :=
  let named := (surroundings.lookup "XDG_DATA_HOME").map Path.mk
  let home := (surroundings.lookup "HOME").map Path.mk
  (named.filter Path.isAbsolute).or
    ((home.filter fun path => !path.text.isEmpty).map fun path => path.child ".local/share")

def enterFolder (surroundings : Surroundings) : Attempt (Path × Surroundings) :=
  match surroundings.dataFolder? with
  | none => .error ["Could not determine app data directory"]
  | some folder =>
    let path := folder.child programName
    match surroundings.tree.makeFolders path with
    | .ok tree => .ok (path, { surroundings with tree })
    | .error failure => .error ["Failed to create " ++ path.text, failure.message]

def openLog (surroundings : Surroundings) : Attempt Surroundings := do
  let (folder, surroundings) ← surroundings.enterFolder
  let path := folder.child (programName ++ ".log")
  match surroundings.tree.openForAppending path with
  | .ok tree => pure { surroundings with tree }
  | .error failure => throw ["Failed to open log file " ++ path.text, failure.message]

def settingsPath (surroundings : Surroundings) (named : Option Path) :
    Attempt (Path × Surroundings) :=
  match named with
  | some path => .ok (path, surroundings)
  | none =>
    surroundings.enterFolder.map fun (folder, surroundings) =>
      (folder.child "config.json", surroundings)

def allowsColor (surroundings : Surroundings) : Bool :=
  (surroundings.lookup "TERM").any (· ≠ "dumb") && (surroundings.lookup "NO_COLOR").isNone

def showing (reason : String) : String :=
  reason ++ "; showing fuzzy results\n"

def answer (surroundings : Surroundings) (workspace : Workspace Float)
    (service : Option Ranking.Service) (query : Query) : List (SearchResult Float) × String :=
  let search := workspace.index.search
  let plain := search query.text query.limit
  if !query.ranked then (plain, "")
  else
    match service, workspace.rankingOff with
    | some service, _ =>
      let desk := (Ranking.Desk.empty none).ask search ⟨query.text, query.limit⟩
        (surroundings.service service)
      match desk.outcomeOf 0 with
      | some (.ok results) => (results, "")
      | some (.error failure) => (plain, showing ("AI ranking failed (" ++ failure.message ++ ")"))
      | none => (plain, "")
    | none, reason =>
      (plain, showing ("AI ranking unavailable (" ++ reason.getD "not configured" ++ ")"))

def listing (surroundings : Surroundings) (query : Query) (elements : List Element) : String :=
  match query.format with
  | .json => ExportedElement.document elements
  | .grouped =>
    let fragments := Listing.grouped elements
    if query.colored && surroundings.allowsColor then Listing.colouredText fragments
    else Listing.plainText fragments

def runQuery (surroundings : Surroundings) (workspace : Workspace Float)
    (service : Option Ranking.Service) (query : Query) : Report :=
  let (results, complaints) := surroundings.answer workspace service query
  { code := 0, output := surroundings.listing query (results.map (·.element)), complaints }

def attempt (surroundings : Surroundings) (invocation : Invocation) : Attempt Report := do
  let surroundings ←
    if invocation.command = .search then surroundings.openLog else pure surroundings
  let (path, surroundings) ← surroundings.settingsPath invocation.config
  let settings ← (Settings.ofFile surroundings.tree path).mapError Settings.FileFailure.messages
  let policy := if invocation.skipFailedRoots then .skip else settings.rootFailure
  let settings := { settings with rootFailure := policy }
  -- Settings are shown without any index.
  if invocation.command = .config then return .printed (settings.report surroundings.tree path)
  let indexed := Indexing.elementsIn surroundings.tree policy invocation.rootsOrHere
  let elements ← indexed.mapError fun failure =>
    "Failed to build index" :: failure.message :: failure.reasons
  let index := SearchIndex.ofElements elements settings.search
  let (workspace, service) :=
    Workspace.ofEnvironment index settings.ranking surroundings.lookup
  match invocation.command with
  | .query query => pure (surroundings.runQuery workspace service query)
  | .stats => pure (.printed (Statistics.ofElements elements).render)
  | _ =>
    throw ["Interactive search needs the \x60interactive\x60 feature; use \x60symdex query\x60"]

end Surroundings

def version : String := programName ++ " 0.1.0\n"

def help : String :=
  "Fuzzy symbol search over TypeScript projects\n\n" ++
  "Usage: symdex [OPTIONS] [search|query TEXT...|stats|config]\n"

def run (surroundings : Surroundings) (arguments : List String) : Report :=
  match read arguments with
  | .error .usage => .usage
  | .error .version => .printed version
  | .error .help => .printed help
  | .ok invocation =>
    match surroundings.attempt invocation with
    | .ok report => report
    | .error messages => .failed messages

end SymbolSearch.CommandLine
