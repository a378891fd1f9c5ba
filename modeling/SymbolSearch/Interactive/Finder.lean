import SymbolSearch.Decimal
import SymbolSearch.Editor
import SymbolSearch.Indexing
import SymbolSearch.Interactive.Session
import SymbolSearch.Path
import SymbolSearch.Text.Lines

set_option autoImplicit false

namespace SymbolSearch

inductive Status where
  | indexed (count : Nat) (rankingOff : Option String)
  | ranking
  | found (count : Nat)
  | ranked (count : Nat)
  | rankingUnavailable (reason : String) (count : Nat)
  | rankingFailed (reason : String) (count : Nat)
  | opened (path : Path) (line : Nat)
  | notOpened (reason : String)
  | noEditor (reason : String)
deriving Repr

def Status.message (took : Nat) : Status → String
  | indexed count none => toString count ++ " elements indexed"
  | indexed count (some reason) =>
    toString count ++ " elements indexed (AI off: " ++ reason ++ ")"
  | ranking => "Ranking with AI..."
  | found count =>
    toString count ++ " matches (" ++ Decimal.fixed 1 (took.toFloat / 1000) ++ "ms)"
  | ranked count =>
    toString count ++ " AI-ranked matches (" ++ Decimal.fixed 1 (took.toFloat / 1000000) ++ "s)"
  | rankingUnavailable reason count =>
    "AI unavailable (" ++ reason ++ "); " ++ toString count ++ " fuzzy matches"
  | rankingFailed reason count =>
    "AI search failed (" ++ reason ++ "); " ++ toString count ++ " fuzzy matches"
  | opened path line => "Opened " ++ path.text ++ ":" ++ toString line
  | notOpened reason => "Could not open editor: " ++ reason
  | noEditor reason => "Editor not configured: " ++ reason

structure Completion (α : Type) where
  ticket : Ticket
  outcome : Except String (List (SearchResult α))

structure Finder (α : Type) where
  workspace : Workspace α
  maxResults : Nat
  editor : Except EditorFailure EditorCommand
  session : Session (SearchResult α)
  selected : Nat
  status : Status
  running : List Ticket
  completions : List (Completion α)

namespace Finder

variable {α : Type}

def idleStatus (workspace : Workspace α) : Status :=
  .indexed workspace.index.entries.length workspace.rankingOff

def start (workspace : Workspace α) (settings : Settings) : Finder α :=
  { workspace
    maxResults := settings.session.maxResults
    editor := EditorCommand.ofTemplate settings.editorCommand
    session := .start settings.session
    selected := 0
    status := idleStatus workspace
    running := []
    completions := [] }

def results (finder : Finder α) : List (SearchResult α) :=
  finder.session.results

def selected? (finder : Finder α) : Option (SearchResult α) :=
  finder.results[finder.selected]?

section Searching

variable [Measure α]

def search (finder : Finder α) (query : String) : List (SearchResult α) :=
  finder.workspace.index.search query finder.maxResults

def complete (finder : Finder α) (seq : Nat) (results : List (SearchResult α)) : Finder α :=
  match finder.session.complete seq results with
  | (true, session) => { finder with session, selected := 0 }
  | (false, session) => { finder with session }

def completeUnranked (finder : Finder α) (seq : Nat) (query : String) (status : Nat → Status) :
    Finder α :=
  let results := finder.search query
  { finder.complete seq results with status := status results.length }

def runSearch (finder : Finder α) (ticket : Ticket) : Finder α :=
  match ticket.mode, finder.workspace.rankingOff with
  | .normal, _ => finder.completeUnranked ticket.seq ticket.query .found
  | .ai, some reason =>
    finder.completeUnranked ticket.seq ticket.query (.rankingUnavailable reason)
  | .ai, none => { finder with status := .ranking, running := finder.running ++ [ticket] }

def apply (finder : Finder α) : Session.Action → Bool × Finder α
  | .idle => (true, finder)
  | .exit => (false, finder)
  | .cleared => (true, { finder with selected := 0, status := idleStatus finder.workspace })
  | .dispatch ticket => (true, finder.runSearch ticket)

def handle (finder : Finder α) (event : Session.Event) (now : Nat) : Bool × Finder α :=
  let (action, session) := finder.session.handle event now
  { finder with session }.apply action

def accept (finder : Finder α) (completion : Completion α) : Finder α :=
  let ticket := completion.ticket
  -- A later search or a blank input has made it stale.
  if ticket.seq ≠ finder.session.seq then finder
  else
    match completion.outcome with
    | .ok results =>
      { finder.complete ticket.seq results with status := .ranked results.length }
    | .error reason =>
      finder.completeUnranked ticket.seq ticket.query (.rankingFailed reason)

def acceptAll (finder : Finder α) : Finder α :=
  finder.completions.foldl accept { finder with completions := [] }

def tick (finder : Finder α) (now : Nat) : Finder α :=
  -- What is due is searched first, so that it can make an ended search stale.
  let (action, session) := finder.session.poll now
  ({ finder with session }.apply action).2.acceptAll

def finish (finder : Finder α) (ticket : Ticket)
    (outcome : Except String (List (SearchResult α))) : Finder α :=
  { finder with
    running := finder.running.erase ticket
    completions := finder.completions ++ [{ ticket, outcome }] }

end Searching

def pollTimeout (finder : Finder α) (longest now : Nat) : Nat :=
  match finder.session.timeUntilDue now with
  | some due => min due longest
  | none => longest

def selectNext (finder : Finder α) : Finder α :=
  if finder.results.isEmpty then finder
  else { finder with selected := min (finder.selected + 1) (finder.results.length - 1) }

def selectPrevious (finder : Finder α) : Finder α :=
  { finder with selected := finder.selected - 1 }

def previewRadius : Nat := 3

def preview (finder : Finder α) : List (Nat × String) :=
  match finder.selected? with
  | some result => Text.window result.element.content result.element.line previewRadius
  | none => []

def openSelected (finder : Finder α) (launch : String → List String → Option String) :
    Finder α :=
  match finder.selected? with
  | none => finder
  | some result =>
    let { path, line, .. } := result.element
    let status :=
      match finder.editor with
      | .error failure => .noEditor failure.message
      | .ok editor =>
        match launch editor.program (editor.arguments path line) with
        | none => .opened path (max line 1)
        | some reason => .notOpened ("Failed to launch " ++ editor.program ++ ": " ++ reason)
    { finder with status }

end Finder

end SymbolSearch
