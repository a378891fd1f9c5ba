import SymbolSearch.Proofs.Interactive.Tracking
import SymbolSearch.Proofs.Ranking.Steps

set_option autoImplicit false

/-!
A finder with the desk that its background searches call at. What the user does, the ticks and what
happens at the desk come in any order; whenever nothing is under way, the results are those of the
input and the mode.
-/

namespace SymbolSearch

open Ranking

namespace Front

structure Call where
  ticket : Ticket
  key : Key
  caller : Nat
deriving DecidableEq, Repr

inductive Event where
  | handle (event : Session.Event) (now : Nat)
  | tick (now : Nat)
  | collect
  | selectNext
  | selectPrevious
  | openSelected (launch : String → List String → Option String)
  | enter (ticket : Ticket)
  | desk (event : Desk.Event)
  | finish (call : Call)

end Front

structure Front (α : Type) where
  finder : Finder α
  desk : Desk α
  calls : List Front.Call

namespace Front

variable {α : Type}

def start (workspace : Workspace α) (settings : Settings) (desk : Desk α) : Front α :=
  { finder := .start workspace settings, desk, calls := [] }

def enter (front : Front α) (ticket : Ticket) : Front α :=
  if ticket ∈ front.finder.running ∧ ∀ call ∈ front.calls, call.ticket ≠ ticket then
    let key := { query := ticket.query, limit := front.finder.maxResults }
    { front with
      desk := front.desk.call key
      calls := front.calls ++ [{ ticket, key, caller := front.desk.callers.length }] }
  else front

def finish (front : Front α) (call : Call) : Front α :=
  match front.desk.outcomeOf call.caller with
  | some outcome =>
    if call ∈ front.calls ∧ call.ticket ∈ front.finder.running then
      { front with
        finder := front.finder.finish call.ticket (outcome.mapError Failure.message) }
    else front
  | none => front

variable [Measure α]

def step (front : Front α) : Event → Front α
  | .handle event now => { front with finder := (front.finder.handle event now).2 }
  | .tick now => { front with finder := front.finder.tick now }
  | .collect => { front with finder := front.finder.acceptAll }
  | .selectNext => { front with finder := front.finder.selectNext }
  | .selectPrevious => { front with finder := front.finder.selectPrevious }
  | .openSelected launch => { front with finder := front.finder.openSelected launch }
  | .enter ticket => front.enter ticket
  | .desk event =>
    { front with desk := front.desk.step front.finder.workspace.index.search event }
  | .finish call => front.finish call

def run (front : Front α) (events : List Event) : Front α :=
  events.foldl step front

-- Nothing waits to be searched for, and no background search is running or queued.
def IsQuiet (front : Front α) : Prop :=
  front.finder.session.hasPending = false ∧ front.finder.running = [] ∧
    front.finder.completions = []

instance (front : Front α) : Decidable front.IsQuiet :=
  decidable_of_iff
    (front.finder.session.hasPending = false ∧ front.finder.running.isEmpty = true ∧
      front.finder.completions.isEmpty = true)
    (by simp [IsQuiet])

def Answers (front : Front α) (ticket : Ticket)
    (outcome : Except String (List (SearchResult α))) : Prop :=
  ∃ call ∈ front.calls, call.ticket = ticket ∧
    ∃ returned, front.desk.outcomeOf call.caller = some returned ∧
      outcome = returned.mapError Failure.message

structure Tracks (scope : Workspace α × Nat) (front : Front α) : Prop where
  finder : front.finder.Tracks front.Answers
  finder_scope : front.finder.scope = scope
  call_key : ∀ call ∈ front.calls,
    call.key = { query := call.ticket.query, limit := scope.2 }
  one_call : ∀ first ∈ front.calls, ∀ second ∈ front.calls, first.ticket = second.ticket →
    first = second

variable {scope : Workspace α × Nat} {front : Front α}

theorem Tracks.start (workspace : Workspace α) (settings : Settings) (desk : Desk α) :
    (Front.start workspace settings desk).Tracks (workspace, settings.session.maxResults) where
  finder := .start workspace settings
  finder_scope := rfl
  call_key := by simp [Front.start]
  one_call := by simp [Front.start]

theorem Tracks.withFinder (tracks : front.Tracks scope) {finder : Finder α}
    (tracked : finder.Tracks front.Answers) (same : finder.scope = front.finder.scope) :
    { front with finder }.Tracks scope where
  finder := tracked
  finder_scope := same.trans tracks.finder_scope
  call_key := tracks.call_key
  one_call := tracks.one_call

theorem Tracks.enter (tracks : front.Tracks scope) (ticket : Ticket) :
    (front.enter ticket).Tracks scope := by
  unfold Front.enter
  split
  next new =>
    constructor
    · apply tracks.finder.mono
      rintro other outcome ⟨call, member, here, returned, answer, same⟩
      refine ⟨call, List.mem_append_left _ member, here, returned, ?_, same⟩
      exact Desk.outcomeOf_step front.finder.workspace.index.search answer (.call _)
    · exact tracks.finder_scope
    · intro call member
      rcases List.mem_append.mp member with before | last
      · exact tracks.call_key call before
      · rw [List.mem_singleton.mp last]
        rw [← tracks.finder_scope]
        rfl
    · intro first isFirst second isSecond same
      rcases List.mem_append.mp isFirst with before | last <;>
        rcases List.mem_append.mp isSecond with before' | last'
      · exact tracks.one_call first before second before' same
      · rw [List.mem_singleton.mp last'] at same
        exact absurd same (new.2 first before)
      · rw [List.mem_singleton.mp last] at same
        exact absurd same.symm (new.2 second before')
      · rw [List.mem_singleton.mp last, List.mem_singleton.mp last']
  next => exact tracks

theorem Tracks.desk (tracks : front.Tracks scope) (event : Desk.Event) :
    { front with
      desk := front.desk.step front.finder.workspace.index.search event }.Tracks scope where
  finder := by
    apply tracks.finder.mono
    rintro ticket outcome ⟨call, member, here, returned, answer, same⟩
    exact ⟨call, member, here, returned, Desk.outcomeOf_step _ answer event, same⟩
  finder_scope := tracks.finder_scope
  call_key := tracks.call_key
  one_call := tracks.one_call

theorem Tracks.finish (tracks : front.Tracks scope) (call : Call) :
    (front.finish call).Tracks scope := by
  unfold Front.finish
  split
  next outcome answer =>
    split
    next known =>
      refine tracks.withFinder (tracks.finder.finish known.2 ?_) rfl
      exact ⟨call, known.1, rfl, outcome, answer, rfl⟩
    next => exact tracks
  next => exact tracks

theorem Tracks.step (tracks : front.Tracks scope) (event : Event) :
    (front.step event).Tracks scope := by
  cases event with
  | handle event now =>
    exact tracks.withFinder (tracks.finder.handle event now) (Finder.handle_scope _ event now)
  | tick now =>
    exact tracks.withFinder (tracks.finder.tick now)
      (Finder.tick_scope _ now tracks.finder.waits)
  | collect => exact tracks.withFinder tracks.finder.acceptAll (Finder.acceptAll_scope _)
  | selectNext =>
    refine tracks.withFinder ?_ ?_ <;> simp only [Finder.selectNext] <;> split
    · exact tracks.finder
    · exact tracks.finder.look _ front.finder.status
    · rfl
    · rfl
  | selectPrevious => exact tracks.withFinder (tracks.finder.look _ front.finder.status) rfl
  | openSelected launch =>
    refine tracks.withFinder ?_ ?_ <;> simp only [Finder.openSelected] <;> split
    · exact tracks.finder
    · exact tracks.finder.look front.finder.selected _
    · rfl
    · rfl
  | enter ticket => exact tracks.enter ticket
  | desk event => exact tracks.desk event
  | finish call => exact tracks.finish call

theorem Tracks.run (tracks : front.Tracks scope) (events : List Event) :
    (front.run events).Tracks scope := by
  induction events generalizing front with
  | nil => exact tracks
  | cons event events ih => exact ih (tracks.step event)

/-- Whenever nothing is under way, the results are those of the input and the mode. With ranking,
the call of the last search has returned, and they are its ranking if it has one. -/
theorem run_quiet_results (workspace : Workspace α) (settings : Settings) (desk : Desk α)
    (events : List Event)
    (quiet : ((Front.start workspace settings desk).run events).IsQuiet) :
    let front := (Front.start workspace settings desk).run events
    let session := front.finder.session
    let search := workspace.index.search session.input settings.session.maxResults
    let blank := session.input.toList.all Text.isBlank
    (blank = true → session.results = []) ∧
    (blank = false →
      session.mode = .normal ∨ workspace.rankingOff ≠ none → session.results = search) ∧
    (blank = false → session.mode = .ai → workspace.rankingOff = none →
      ∃ call ∈ front.calls,
        call.ticket = { seq := session.seq, query := session.input, mode := .ai } ∧
        call.key = { query := session.input, limit := settings.session.maxResults } ∧
        (∀ other ∈ front.calls, other.ticket = call.ticket → other = call) ∧
        ∃ returned, front.desk.outcomeOf call.caller = some returned ∧
          session.results =
            match returned with
            | .ok ranked => ranked
            | .error _ => search) := by
  intro front session search blank
  have tracks : front.Tracks (workspace, settings.session.maxResults) :=
    (Tracks.start workspace settings desk).run events
  have sameWorkspace : front.finder.workspace = workspace :=
    congrArg Prod.fst tracks.finder_scope
  have sameSearch : front.finder.search session.input = search := by
    have sameLimit : front.finder.maxResults = settings.session.maxResults :=
      congrArg Prod.snd tracks.finder_scope
    simp only [Finder.search, sameWorkspace, sameLimit, search]
  obtain ⟨idle, noneRunning, noneEnded⟩ := quiet
  have shows : front.finder.Shows front.Answers := by
    apply tracks.finder.shown idle
    simp [Finder.live, front, noneRunning, noneEnded]
  refine ⟨shows.blank, ?_, ?_⟩
  · intro some unranked
    rw [← sameSearch]
    apply shows.unranked some
    rintro ⟨_, ai, on⟩
    rcases unranked with normal | off
    · rw [normal] at ai
      cases ai
    · exact off (sameWorkspace ▸ on)
  · intro some ai on
    have ranks : front.finder.Ranks := ⟨some, ai, sameWorkspace.symm ▸ on⟩
    obtain ⟨_, ⟨call, member, here, returned, answer, rfl⟩, results⟩ := shows.ranked ranks
    refine ⟨call, member, here, ?_, ?_, returned, answer, ?_⟩
    · rw [tracks.call_key call member, here]
      rfl
    · exact fun other isCall same => tracks.one_call other isCall call member same
    · rw [← sameSearch]
      cases returned with
      | ok _ => exact results
      | error _ => exact results

def noElements : SearchIndex Rat :=
  { entries := [], weights := ⟨0, 0, 0, 0⟩, matcher := fun _ _ => none }

def keptRanking : Ranked Rat :=
  [{ element := default, score := 0 }]

def keptDesk : Desk Rat :=
  { Desk.empty none with done := [({ query := "u", limit := 10 }, keptRanking)] }

def keptCall : Call :=
  { ticket := { seq := 1, query := "u", mode := .ai }
    key := { query := "u", limit := 10 }
    caller := 0 }

def keptEvents : List Event :=
  [.handle (.insert 'u') 0, .handle .toggleMode 100, .enter keptCall.ticket, .finish keptCall,
    .tick 200]

def keptRun : Front Rat :=
  (start (.withRanking noElements) .default keptDesk).run keptEvents

theorem run_quiet_results_kept : keptRun.IsQuiet ∧ keptRun.finder.results = keptRanking := by
  have quiet : keptRun.IsQuiet := by decide
  obtain ⟨_, _, ranked⟩ :=
    run_quiet_results (.withRanking noElements) .default keptDesk keptEvents quiet
  obtain ⟨call, member, _, _, _, returned, answer, results⟩ := ranked (by decide) (by decide) rfl
  have calls : keptRun.calls = [keptCall] := by decide
  have kept : keptRun.desk.outcomeOf 0 = some (.ok keptRanking) := rfl
  obtain rfl : call = keptCall := List.mem_singleton.mp (calls ▸ member)
  obtain rfl : Except.ok keptRanking = returned := Option.some.inj (kept.symm.trans answer)
  exact ⟨quiet, results⟩

end Front

end SymbolSearch
