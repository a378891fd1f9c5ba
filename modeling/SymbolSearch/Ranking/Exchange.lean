import SymbolSearch.Listing
import SymbolSearch.Settings
import SymbolSearch.Text.Basic

set_option autoImplicit false

namespace SymbolSearch.Ranking

inductive Failure where
  | http (reason : String)
  | status (code : Nat) (body : String)
  | decode (reason : String)
  | emptyResponse
  | missingKey (name : String)
  -- The outcome of a request that several callers waited for.
  | shared (inner : Failure)
deriving DecidableEq, Repr

namespace Failure

def rootCause : Failure → Failure
  | shared inner => inner.rootCause
  | other => other

def message : Failure → String
  | http reason => "request to ranking service failed: " ++ reason
  | status code body =>
    "ranking service returned HTTP " ++ toString code ++ ": " ++ body
  | decode reason => "could not decode ranking response: " ++ reason
  | emptyResponse => "ranking service returned no choices"
  | missingKey name => "environment variable " ++ name ++ " is not set"
  | shared inner => inner.message

end Failure

structure Request where
  query : String
  limit : Nat
  candidates : List ExportedElement
deriving DecidableEq, Repr

namespace Request

def instructions : String :=
  "You rank code elements by relevance to a developer's search query. " ++
  "Each candidate has an id, a name, a type, its owning scope, its file and a few lines of " ++
  "surrounding source. Return the ids of the most relevant candidates, best first, using " ++
  "exactly \x60limit\x60 ids taken from the candidate list."

def payload (request : Request) : Json :=
  .object
    [("query", .text request.query), ("limit", .natural request.limit),
      ("candidates", .array (request.candidates.map (·.toJson)))]

def message (role content : String) : Json :=
  .object [("role", .text role), ("content", .text content)]

def answerSchema (request : Request) : Json :=
  .object
    [("type", .text "object"),
      ("properties", .object
        [("ids", .object
          [("type", .text "array"),
            ("items", .object
              [("type", .text "string"),
                ("enum", .array (request.candidates.map fun candidate => .text candidate.id))])])]),
      ("required", .array [.text "ids"]),
      ("additionalProperties", .bool false)]

def body (model : String) (request : Request) : Json :=
  .object
    [("model", .text model),
      ("messages", .array
        [message "system" instructions, message "user" request.payload.compact]),
      ("response_format", .object
        [("type", .text "json_schema"),
          ("json_schema", .object
            [("name", .text "ranked_ids"), ("strict", .bool true),
              ("schema", request.answerSchema)])])]

open Json.Reader in
def reader : Json.Reader Request :=
  record "struct RankRequest"
    [.of "query" text (fun value request => { request with query := value }) true,
      .of "limit" (natural "usize" Json.wordLimit)
        (fun value request => { request with limit := value }) true,
      .of "candidates" (list ExportedElement.reader)
        (fun value request => { request with candidates := value }) true]
    { query := "", limit := 0, candidates := [] }

end Request

open Json.Reader

def messageReader : Json.Reader (Option String) :=
  record "struct ChatMessage" [.of "content" (nullable text) fun value _ => value] none

def choiceReader : Json.Reader (Option String) :=
  record "struct Choice" [.of "message" messageReader (fun value _ => value) true] none

def responseReader : Json.Reader (List (Option String)) :=
  record "struct ChatResponse" [.of "choices" (list choiceReader) fun value _ => value] []

def idsReader : Json.Reader (List String) :=
  record "struct RankedIds" [.of "ids" (list text) (fun value _ => value) true] []

def rankedIds (body : String) : Except Failure (List String) :=
  match ofText responseReader body with
  | .error fault => .error (.decode fault.message)
  | .ok contents =>
    match contents.head?.join with
    | none => .error .emptyResponse
    | some content =>
      match ofText idsReader content with
      | .error fault => .error (.decode fault.message)
      | .ok ids => .ok ids

structure Service where
  endpoint : String
  model : String
  key : String
  timeoutSeconds : Nat

namespace Service

def endpointOf (baseUrl : String) : String :=
  String.ofList ((baseUrl.toList.reverse.dropWhile (· = '/')).reverse) ++ "/chat/completions"

def ofKey (settings : RankingSettings) (key : String) : Service :=
  { endpoint := endpointOf settings.baseUrl
    model := settings.model
    key
    timeoutSeconds := settings.timeoutSeconds }

def ofEnvironment (settings : RankingSettings) (lookup : String → Option String) :
    Except Failure Service :=
  match (lookup settings.keyVariable).filter fun key => !(Text.trim key.toList).isEmpty with
  | some key => .ok (ofKey settings key)
  | none => .error (.missingKey settings.keyVariable)

def schemes : List (List Char) :=
  ["http://".toList, "https://".toList]

def hasAddress (service : Service) : Bool :=
  schemes.any fun scheme =>
    scheme.isPrefixOf service.endpoint.toList &&
      !((service.endpoint.toList.drop scheme.length).takeWhile (· ≠ '/')).isEmpty

def hasValidKey (service : Service) : Bool :=
  service.key.toList.all fun c => c = '\t' || (c.toNat ≥ 0x20 && c.toNat ≠ 0x7F)

def unreachable (service : Service) : Failure :=
  if service.hasAddress && service.hasValidKey then
    .http ("error sending request for url (" ++ service.endpoint ++ ")")
  else .http "builder error"

end Service

def lastWithId (candidates : List Element) (id : String) : Option Nat :=
  (candidates.zipIdx.reverse.find? fun candidate => candidate.1.id == id).map (·.2)

def namedPlaces (candidates : List Element) : List Nat → List String → List Nat
  | _, [] => []
  | taken, id :: rest =>
    match lastWithId candidates id with
    | none => namedPlaces candidates taken rest
    | some place =>
      if taken.contains place then namedPlaces candidates taken rest
      else place :: namedPlaces candidates (place :: taken) rest

def select {α : Type} (candidates : List (SearchResult α)) (ids : List String) (limit : Nat) :
    List (SearchResult α) :=
  ((namedPlaces (candidates.map (·.element)) [] ids).take limit).filterMap fun place =>
    candidates[place]?

end SymbolSearch.Ranking
