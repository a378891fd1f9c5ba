import SymbolSearch.Proofs.Interactive.Loading

set_option autoImplicit false

namespace SymbolSearch

namespace Session

variable {ρ : Type} (session : Session ρ)

theorem dispatch_results (query : String) :
    (session.dispatch query).2.results =
      if (session.dispatch query).1 = .cleared then [] else session.results := by
  cases blank : isBlank query with
  | true => simp [dispatch_blank session blank]
  | false => simp [dispatch_query session blank]

theorem edit_results (input : String) (now : Nat) :
    (session.edit input now).results = session.results := by
  rcases session.edit_cases input now with same | same <;> rw [same]

theorem handle_results (event : Event) (now : Nat) :
    (session.handle event now).2.results =
      if (session.handle event now).1 = .cleared then [] else session.results := by
  cases event with
  | insert char =>
    simp only [handle]
    split
    · simp
    · simp [edit_results]
  | deleteBack => simp [handle, edit_results]
  | toggleMode => exact dispatch_results _ _
  | cancel => simp [handle]

theorem poll_results (now : Nat) :
    (session.poll now).2.results =
      if (session.poll now).1 = .cleared then [] else session.results := by
  rcases session.poll_cases now with same | ⟨value, due, _, same⟩ <;> rw [same]
  · simp
  · exact dispatch_results _ _

end Session

namespace Finder

variable {α : Type}

def shown (finder : Finder α) : List (SearchResult α) × Nat :=
  (finder.session.results, finder.selected)

def replacing (shown : List (SearchResult α) × Nat) :
    Option (List (SearchResult α)) → List (SearchResult α) × Nat
  | some results => (results, 0)
  | none => shown

def InRange (finder : Finder α) : Prop :=
  finder.selected < finder.results.length ∨ finder.results = [] ∧ finder.selected = 0

theorem InRange.of_replacing {finder after : Finder α} {placed : Option (List (SearchResult α))}
    (inRange : finder.InRange) (same : after.shown = replacing finder.shown placed) :
    after.InRange := by
  have results : after.results = (replacing finder.shown placed).1 := congrArg Prod.fst same
  have selected : after.selected = (replacing finder.shown placed).2 := congrArg Prod.snd same
  rw [InRange, results, selected]
  cases placed with
  | none => exact inRange
  | some placed =>
    cases placed with
    | nil => exact .inr ⟨rfl, rfl⟩
    | cons => exact .inl (Nat.zero_lt_succ _)

theorem InRange.selected?_eq_none {finder : Finder α} (inRange : finder.InRange) :
    finder.selected? = none ↔ finder.results = [] := by
  rw [selected?, List.getElem?_eq_none_iff, ← List.length_eq_zero_iff]
  rcases inRange with below | ⟨none, selected⟩
  · omega
  · simp [none, selected]

theorem InRange.selectNext {finder : Finder α} (inRange : finder.InRange) :
    finder.selectNext.InRange := by
  unfold Finder.selectNext
  split
  next => exact inRange
  next some =>
    have positive : 0 < finder.results.length := by simpa [List.length_pos_iff] using some
    exact .inl (show min _ _ < finder.results.length by omega)

theorem InRange.selectPrevious {finder : Finder α} (inRange : finder.InRange) :
    finder.selectPrevious.InRange := by
  rcases inRange with below | ⟨none, selected⟩
  · exact .inl (Nat.lt_of_le_of_lt (Nat.sub_le _ _) below)
  · exact .inr ⟨none, by simp [Finder.selectPrevious, selected]⟩

theorem selectNext_results (finder : Finder α) : finder.selectNext.results = finder.results := by
  unfold Finder.selectNext
  split <;> rfl

theorem openSelected_shown (finder : Finder α) (launch : String → List String → Option String) :
    (finder.openSelected launch).shown = finder.shown := by
  unfold openSelected
  split <;> rfl

variable [Measure α]

def placed? (finder : Finder α) : Session.Action → Option (List (SearchResult α))
  | .cleared => some []
  | .dispatch ticket =>
    if ticket.mode = .ai ∧ finder.workspace.rankingOff = none then none
    else some (finder.search ticket.query)
  | _ => none

-- The results that the end of a background search puts in place: none for a number that is not the
-- last one.
def endOf? (finder : Finder α) (completion : Completion α) : Option (List (SearchResult α)) :=
  if completion.ticket.seq = finder.session.seq then
    some (finder.resultsFor completion.ticket.query completion.outcome)
  else none

def ended? (finder : Finder α) : Option (List (SearchResult α)) :=
  finder.completions.reverse.findSome? finder.endOf?

omit [Measure α] in
theorem complete_shown (finder : Finder α) {seq : Nat} (results : List (SearchResult α))
    (last : seq = finder.session.seq) : (finder.complete seq results).shown = (results, 0) := by
  simp [complete, Session.complete, last, shown]

theorem completeUnranked_shown (finder : Finder α) {seq : Nat} (query : String)
    (status : Nat → Status) (last : seq = finder.session.seq) :
    (finder.completeUnranked seq query status).shown = (finder.search query, 0) :=
  finder.complete_shown (finder.search query) last

theorem runSearch_shown (finder : Finder α) {ticket : Ticket}
    (last : ticket.seq = finder.session.seq) :
    (finder.runSearch ticket).shown =
      replacing finder.shown (finder.placed? (.dispatch ticket)) := by
  unfold runSearch
  split
  next normal => simp [placed?, normal, replacing, completeUnranked_shown finder _ _ last]
  next off => simp [placed?, off, replacing, completeUnranked_shown finder _ _ last]
  next ai on => simp [placed?, ai, on, replacing, shown]

theorem apply_shown (finder : Finder α) {session : Session (SearchResult α)}
    {action : Session.Action}
    (results : session.results = if action = .cleared then [] else finder.session.results)
    (numbered : ∀ ticket, action = .dispatch ticket → ticket.seq = session.seq) :
    ({ finder with session }.apply action).2.shown =
      replacing finder.shown (finder.placed? action) := by
  cases action with
  | dispatch ticket =>
    have kept : { finder with session }.shown = finder.shown := by simpa [shown] using results
    have ran := runSearch_shown { finder with session } (numbered ticket rfl)
    rw [kept] at ran
    exact ran
  | cleared => simpa [apply, shown, placed?, replacing] using results
  | idle => simpa [apply, shown, placed?, replacing] using results
  | exit => simpa [apply, shown, placed?, replacing] using results

def searchDue (finder : Finder α) (now : Nat) : Finder α :=
  let (action, session) := finder.session.poll now
  ({ finder with session }.apply action).2

theorem handle_shown (finder : Finder α) (event : Session.Event) (now : Nat) :
    (finder.handle event now).2.shown =
      replacing finder.shown (finder.placed? (finder.session.handle event now).1) :=
  finder.apply_shown (finder.session.handle_results event now) fun _ => Session.handle_ticket

theorem searchDue_shown (finder : Finder α) (now : Nat) :
    (finder.searchDue now).shown =
      replacing finder.shown (finder.placed? (finder.session.poll now).1) :=
  finder.apply_shown (finder.session.poll_results now) fun _ => Session.poll_ticket

theorem accept_shown (finder : Finder α) (completion : Completion α) :
    (finder.accept completion).shown = replacing finder.shown (finder.endOf? completion) := by
  obtain ⟨ticket, outcome⟩ := completion
  by_cases last : ticket.seq = finder.session.seq
  · cases outcome with
    | ok ranked =>
      simpa [accept, endOf?, last, shown, replacing, resultsFor] using
        finder.complete_shown ranked last
    | error reason =>
      simpa [accept, endOf?, last, shown, replacing, resultsFor] using
        finder.completeUnranked_shown ticket.query (.rankingFailed reason) last
  · simp [accept, endOf?, last, replacing]

theorem accept_endOf? (finder : Finder α) (completion : Completion α) :
    (finder.accept completion).endOf? = finder.endOf? := by
  rcases accept_cases finder completion with ⟨_, same⟩ | ⟨_, _, _, same⟩ <;> rw [same]
  rfl

omit [Measure α] in
theorem replacing_or (shown : List (SearchResult α) × Nat)
    (first second : Option (List (SearchResult α))) :
    replacing (replacing shown first) second = replacing shown (second.or first) := by
  cases second <;> rfl

theorem acceptAll_shown (finder : Finder α) :
    finder.acceptAll.shown = replacing finder.shown finder.ended? := by
  have taken (completions : List (Completion α)) (finder : Finder α) :
      (completions.foldl accept finder).shown =
        replacing finder.shown (completions.reverse.findSome? finder.endOf?) := by
    induction completions generalizing finder with
    | nil => rfl
    | cons completion rest ih =>
      -- A later end that counts goes before this one.
      rw [List.foldl_cons, ih, accept_shown, accept_endOf?, replacing_or, List.reverse_cons,
        List.findSome?_append, List.findSome?_singleton]
  exact taken finder.completions { finder with completions := [] }

theorem tick_shown (finder : Finder α) (now : Nat) :
    (finder.tick now).shown =
      replacing finder.shown
        ((finder.searchDue now).ended?.or (finder.placed? (finder.session.poll now).1)) := by
  rw [← replacing_or, ← searchDue_shown]
  exact acceptAll_shown (finder.searchDue now)

end Finder

namespace Front

variable {α : Type} [Measure α]

def placed? (front : Front α) : Event → Option (List (SearchResult α))
  | .handle event now => front.finder.placed? (front.finder.session.handle event now).1
  | .tick now =>
    (front.finder.searchDue now).ended?.or (front.finder.placed? (front.finder.session.poll now).1)
  | .collect => front.finder.ended?
  | _ => none

theorem step_shown (front : Front α) (event : Event) :
    (front.placed? event = none ∧
      ((front.step event).finder = front.finder.selectNext ∨
        (front.step event).finder = front.finder.selectPrevious)) ∨
    (front.step event).finder.shown =
      Finder.replacing front.finder.shown (front.placed? event) := by
  cases event with
  | handle event now => exact .inr (front.finder.handle_shown event now)
  | tick now => exact .inr (front.finder.tick_shown now)
  | collect => exact .inr front.finder.acceptAll_shown
  | selectNext => exact .inl ⟨rfl, .inl rfl⟩
  | selectPrevious => exact .inl ⟨rfl, .inr rfl⟩
  | openSelected launch => exact .inr (front.finder.openSelected_shown launch)
  | enter ticket =>
    right
    simp only [step, enter]
    split <;> rfl
  | desk event => exact .inr rfl
  | finish call =>
    right
    simp only [step, finish]
    split
    · split <;> rfl
    · rfl

theorem step_placed {front : Front α} {event : Event} {results : List (SearchResult α)}
    (placed : front.placed? event = some results) :
    (front.step event).finder.results = results ∧ (front.step event).finder.selected = 0 := by
  rcases front.step_shown event with ⟨none, _⟩ | same
  · rw [none] at placed
    cases placed
  · rw [placed] at same
    exact Prod.mk.inj same

theorem step_kept {front : Front α} {event : Event} (none : front.placed? event = none) :
    (front.step event).finder.results = front.finder.results := by
  rcases front.step_shown event with ⟨_, same | same⟩ | same
  · rw [same]
    exact front.finder.selectNext_results
  · rw [same]
    rfl
  · rw [none] at same
    exact (Prod.mk.inj same).1

theorem step_inRange {front : Front α} (inRange : front.finder.InRange) (event : Event) :
    (front.step event).finder.InRange := by
  rcases front.step_shown event with ⟨_, same | same⟩ | same
  · exact same ▸ inRange.selectNext
  · exact same ▸ inRange.selectPrevious
  · exact inRange.of_replacing same

theorem run_inRange {front : Front α} (inRange : front.finder.InRange) (events : List Event) :
    (front.run events).finder.InRange := by
  induction events generalizing front with
  | nil => exact inRange
  | cons event events ih => exact ih (step_inRange inRange event)

/-- In every run the selection points at a result as long as there is one. Results that an event
puts in place, or their clearing, select the first one; other events leave the results alone. -/
theorem run_selection (workspace : Workspace α) (settings : Settings) (desk : Ranking.Desk α)
    (events : List Event) :
    let front := (Front.start workspace settings desk).run events
    let finder := front.finder
    (finder.selected < finder.results.length ∨ finder.results = [] ∧ finder.selected = 0) ∧
    (finder.selected? = none ↔ finder.results = []) ∧
    ∀ event,
      (∀ results, front.placed? event = some results →
        (front.step event).finder.results = results ∧ (front.step event).finder.selected = 0) ∧
      (front.placed? event = none → (front.step event).finder.results = finder.results) := by
  intro front finder
  have inRange : finder.InRange := run_inRange (.inr ⟨rfl, rfl⟩) events
  exact ⟨inRange, inRange.selected?_eq_none, fun event => ⟨fun _ => step_placed, step_kept⟩⟩

def pairDesk : Ranking.Desk Rat :=
  { Ranking.Desk.empty none with
    done :=
      [({ query := "u", limit := 10 },
        [{ element := default, score := 0 }, { element := default, score := 1 }])] }

def pairEvents : List Event :=
  keptEvents ++ [.selectNext, .handle .deleteBack 300]

def pairRun : Front Rat :=
  (start (.withRanking noElements) .default pairDesk).run pairEvents

theorem run_selection_pair :
    pairRun.finder.selected = 1 ∧ pairRun.finder.results.length = 2 ∧
      pairRun.placed? (.handle .toggleMode 400) = some [] ∧
      (pairRun.step (.handle .toggleMode 400)).finder.results = [] ∧
      (pairRun.step (.handle .toggleMode 400)).finder.selected = 0 ∧
      pairRun.placed? (.tick 400) = none ∧
      (pairRun.step (.tick 400)).finder.results = pairRun.finder.results := by
  obtain ⟨_, _, moved⟩ := run_selection (.withRanking noElements) .default pairDesk pairEvents
  have placed : pairRun.placed? (.handle .toggleMode 400) = some [] := rfl
  have none : pairRun.placed? (.tick 400) = none := rfl
  obtain ⟨results, selected⟩ := (moved (.handle .toggleMode 400)).1 [] placed
  exact ⟨rfl, rfl, placed, results, selected, none, (moved (.tick 400)).2 none⟩

end Front

end SymbolSearch
