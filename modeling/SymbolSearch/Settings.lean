import SymbolSearch.Json.Reader
import SymbolSearch.Query.Match

set_option autoImplicit false

namespace SymbolSearch

structure SessionSettings where
  normalDelay : Nat
  aiDelay : Nat
  maxResults : Nat
deriving DecidableEq, Repr

structure RankingSettings where
  baseUrl : String
  model : String
  keyVariable : String
  timeoutSeconds : Nat
  cacheCapacity : Option Nat
deriving DecidableEq, Repr

inductive RootFailure where
  | abort
  | skip
deriving DecidableEq, Repr

structure Settings where
  search : SearchSettings Float
  session : SessionSettings
  ranking : RankingSettings
  rootFailure : RootFailure
  editorCommand : String

def RankingSettings.capacity (settings : RankingSettings) : Option Nat :=
  settings.cacheCapacity.filter (· ≠ 0)

def FieldWeights.default {α : Type} [OfScientific α] : FieldWeights α :=
  { name := 0.4, searchable := 0.3, description := 0.2, parentName := 0.1 }

def SearchSettings.default {α : Type} [OfScientific α] : SearchSettings α :=
  { weights := .default, threshold := 0.8, location := 0, distance := 1000, minLength := 1 }

def SessionSettings.default : SessionSettings :=
  { normalDelay := 500, aiDelay := 1000, maxResults := 10 }

def RankingSettings.default : RankingSettings :=
  { baseUrl := "https://api.openai.com/v1"
    model := "gpt-4o-mini"
    keyVariable := "OPENAI_API_KEY"
    timeoutSeconds := 30
    cacheCapacity := none }

namespace Settings

def defaultEditor : String := "cursor -g \x7bpath\x7d:\x7bline\x7d"

def default : Settings :=
  { search := .default
    session := .default
    ranking := .default
    rootFailure := .abort
    editorCommand := defaultEditor }

open Json.Reader

def size : Json.Reader Nat :=
  natural "usize" Json.wordLimit

def duration : Json.Reader Nat :=
  natural "u64" Json.wordLimit

def weightsReader : Json.Reader (FieldWeights Float) :=
  record "struct FieldWeights"
    [.of "name" real fun value weights => { weights with name := value },
      .of "searchable_text" real fun value weights => { weights with searchable := value },
      .of "description" real fun value weights => { weights with description := value },
      .of "parent_name" real fun value weights => { weights with parentName := value }]
    .default

def searchReader : Json.Reader (SearchSettings Float) :=
  record "struct SearchConfig"
    [.of "weights" weightsReader fun value search => { search with weights := value },
      .of "threshold" real fun value search => { search with threshold := value },
      .of "location" size fun value search => { search with location := value },
      .of "distance" size fun value search => { search with distance := value },
      .of "min_match_char_length" size fun value search => { search with minLength := value }]
    .default

def sessionReader : Json.Reader SessionSettings :=
  record "struct SessionConfig"
    [.of "normal_debounce_ms" duration fun value session => { session with normalDelay := value },
      .of "ai_debounce_ms" duration fun value session => { session with aiDelay := value },
      .of "max_results" size fun value session => { session with maxResults := value }]
    .default

def rankingReader : Json.Reader RankingSettings :=
  record "struct AiConfig"
    [.of "base_url" text fun value ranking => { ranking with baseUrl := value },
      .of "model" text fun value ranking => { ranking with model := value },
      .of "api_key_env" text fun value ranking => { ranking with keyVariable := value },
      .of "timeout_secs" duration fun value ranking => { ranking with timeoutSeconds := value },
      .of "cache_capacity" (nullable size)
        fun value ranking => { ranking with cacheCapacity := value }]
    .default

def rootFailureReader : Json.Reader RootFailure :=
  choice [("abort", .abort), ("skip", .skip)]

def indexReader : Json.Reader RootFailure :=
  record "struct IndexConfig" [.of "root_failure" rootFailureReader fun value _ => value] .abort

def editorReader : Json.Reader String :=
  record "struct EditorConfig" [.of "command" text fun value _ => value] defaultEditor

def reader : Json.Reader Settings :=
  record "struct AppConfig"
    [.of "search" searchReader fun value settings => { settings with search := value },
      .of "session" sessionReader fun value settings => { settings with session := value },
      .of "ai" rankingReader fun value settings => { settings with ranking := value },
      .of "index" indexReader fun value settings => { settings with rootFailure := value },
      .of "editor" editorReader fun value settings => { settings with editorCommand := value }]
    default

def ofText (text : String) : Except Json.Fault Settings :=
  Json.Reader.ofText reader text

end Settings

end SymbolSearch
