import SymbolSearch.Interactive.Finder

set_option autoImplicit false

namespace SymbolSearch

namespace Session

variable {ρ : Type}

theorem edit_cases (session : Session ρ) (input : String) (now : Nat) :
    session.edit input now = session ∨
    session.edit input now =
      { session with input, debouncer := Debouncer.schedule input session.delay now } := by
  unfold edit
  split
  next => exact .inl rfl
  next => exact .inr rfl

theorem dispatch_blank (session : Session ρ) {query : String} (blank : isBlank query = true) :
    session.dispatch query =
      (.cleared, { session with seq := session.seq + 1, results := [], loading := false }) := by
  simp [dispatch, blank]

theorem dispatch_query (session : Session ρ) {query : String} (some : isBlank query = false) :
    session.dispatch query =
      (.dispatch { seq := session.seq + 1, query, mode := session.mode },
        { session with seq := session.seq + 1, loading := true }) := by
  simp [dispatch, some]

theorem poll_cases (session : Session ρ) (now : Nat) :
    session.poll now = (.idle, session) ∨
    ∃ value due, session.debouncer.pending = some (value, due) ∧
      session.poll now = { session with debouncer := .idle }.dispatch value := by
  unfold poll Debouncer.fire Debouncer.cancel
  by_cases ready : session.debouncer.isReady now = true
  · rcases waiting : session.debouncer.pending with _ | ⟨value, due⟩
    · simp [Debouncer.isReady, waiting] at ready
    · simp [ready]
  · simp [ready]

end Session

namespace Finder

variable {α : Type} [Measure α]

def searchInput (finder : Finder α) : Finder α :=
  let (action, session) := finder.session.dispatch finder.session.input
  ({ finder with session }.apply action).2

def resultsFor (finder : Finder α) (query : String) :
    Except String (List (SearchResult α)) → List (SearchResult α)
  | .ok ranked => ranked
  | .error _ => finder.search query

def current (finder : Finder α) : Ticket :=
  { seq := finder.session.seq, query := finder.session.input, mode := .ai }

def Ranks (finder : Finder α) : Prop :=
  Session.isBlank finder.session.input = false ∧ finder.session.mode = .ai ∧
    finder.workspace.rankingOff = none

theorem completeUnranked_eq (finder : Finder α) {seq : Nat} (query : String)
    (status : Nat → Status) (last : seq = finder.session.seq) :
    ∃ selected status', finder.completeUnranked seq query status =
      { finder with
        session := { finder.session with results := finder.search query, loading := false }
        selected
        status := status' } := by
  simp only [completeUnranked, complete, Session.complete, last, if_true]
  exact ⟨_, _, rfl⟩

theorem runSearch_cases (finder : Finder α) {ticket : Ticket}
    (last : ticket.seq = finder.session.seq) :
    ((ticket.mode = .ai ∧ finder.workspace.rankingOff = none) ∧
      ∃ status, finder.runSearch ticket =
        { finder with status, running := finder.running ++ [ticket] }) ∨
    (¬ (ticket.mode = .ai ∧ finder.workspace.rankingOff = none) ∧
      ∃ selected status, finder.runSearch ticket =
        { finder with
          session := { finder.session with results := finder.search ticket.query, loading := false }
          selected
          status }) := by
  unfold runSearch
  split
  next normal => exact .inr ⟨by simp [normal], completeUnranked_eq finder _ _ last⟩
  next off => exact .inr ⟨by simp [off], completeUnranked_eq finder _ _ last⟩
  next ai on => exact .inl ⟨⟨ai, on⟩, _, rfl⟩

theorem searchInput_cases (finder : Finder α) :
    (finder.Ranks ∧ ∃ status, finder.searchInput =
      { finder with
        session := { finder.session with seq := finder.session.seq + 1, loading := true }
        status
        running := finder.running ++ [{ finder.current with seq := finder.session.seq + 1 }] }) ∨
    (¬ finder.Ranks ∧ ∃ selected status, finder.searchInput =
      { finder with
        session :=
          { finder.session with
            seq := finder.session.seq + 1
            results :=
              if Session.isBlank finder.session.input then []
              else finder.search finder.session.input
            loading := false }
        selected
        status }) := by
  cases blank : Session.isBlank finder.session.input with
  | true =>
    refine .inr ⟨by simp [Ranks, blank], ?_⟩
    simp only [searchInput, finder.session.dispatch_blank blank, apply, if_true]
    exact ⟨_, _, rfl⟩
  | false =>
    simp only [searchInput, finder.session.dispatch_query blank, apply]
    have last : (Ticket.mk (finder.session.seq + 1) finder.session.input finder.session.mode).seq =
        { finder.session with seq := finder.session.seq + 1, loading := true }.seq := rfl
    rcases runSearch_cases
      { finder with
        session := { finder.session with seq := finder.session.seq + 1, loading := true } }
      last with
      ⟨⟨(ai : finder.session.mode = .ai), on⟩, status, same⟩ | ⟨off, selected, status, same⟩
    · refine .inl ⟨⟨blank, ai, on⟩, status, ?_⟩
      rw [same]
      simp only [current, ai]
    · refine .inr ⟨fun ranks => off ranks.2, selected, status, ?_⟩
      rw [same]
      rfl

theorem accept_cases (finder : Finder α) (completion : Completion α) :
    (completion.ticket.seq ≠ finder.session.seq ∧ finder.accept completion = finder) ∨
    (completion.ticket.seq = finder.session.seq ∧ ∃ selected status, finder.accept completion =
      { finder with
        session :=
          { finder.session with
            results := finder.resultsFor completion.ticket.query completion.outcome
            loading := false }
        selected
        status }) := by
  obtain ⟨ticket, outcome⟩ := completion
  by_cases last : ticket.seq = finder.session.seq
  · refine .inr ⟨last, ?_⟩
    cases outcome with
    | ok ranked =>
      simp only [accept, complete, Session.complete, last, ne_eq, not_true, if_true, if_false]
      exact ⟨_, _, rfl⟩
    | error reason =>
      obtain ⟨selected, status, same⟩ :=
        completeUnranked_eq finder ticket.query (.rankingFailed reason) last
      refine ⟨selected, status, ?_⟩
      simpa only [accept, resultsFor, last, ne_eq, not_true, if_false] using same
  · exact .inl ⟨last, by simp only [accept, if_pos last, ne_eq]⟩

theorem handle_cases (finder : Finder α) (event : Session.Event) (now : Nat) :
    (finder.handle event now).2 = finder ∨
    (∃ input, (finder.handle event now).2 =
      { finder with
        session :=
          { finder.session with
            input
            debouncer := Debouncer.schedule input finder.session.delay now } }) ∨
    (finder.handle event now).2 =
      { finder with
        session :=
          { finder.session with
            mode := finder.session.mode.toggled
            debouncer := .idle } }.searchInput := by
  have edited (input : String) : { finder with session := finder.session.edit input now } = finder ∨
      { finder with session := finder.session.edit input now } =
        { finder with
          session :=
            { finder.session with
              input
              debouncer := Debouncer.schedule input finder.session.delay now } } := by
    rcases finder.session.edit_cases input now with same | same
    · exact .inl (by rw [same])
    · exact .inr (by rw [same])
  cases event with
  | insert char =>
    simp only [handle, Session.handle]
    split
    · exact .inl rfl
    · exact (edited _).imp_right fun same => .inl ⟨_, same⟩
  | deleteBack => exact (edited _).imp_right fun same => .inl ⟨_, same⟩
  | toggleMode => exact .inr (.inr rfl)
  | cancel => exact .inl rfl

theorem tick_cases (finder : Finder α) (now : Nat)
    (waits : ∀ value due, finder.session.debouncer.pending = some (value, due) →
      value = finder.session.input) :
    finder.tick now = finder.acceptAll ∨
    finder.tick now =
      { finder with
        session := { finder.session with debouncer := .idle } }.searchInput.acceptAll := by
  rcases finder.session.poll_cases now with same | ⟨value, due, waiting, same⟩
  · exact .inl (by simp only [tick, same, apply])
  · obtain rfl := waits value due waiting
    exact .inr (by simp only [tick, same, searchInput])

def scope (finder : Finder α) : Workspace α × Nat :=
  (finder.workspace, finder.maxResults)

theorem searchInput_scope (finder : Finder α) : finder.searchInput.scope = finder.scope := by
  rcases searchInput_cases finder with ⟨_, _, same⟩ | ⟨_, _, _, same⟩ <;> rw [same] <;> rfl

theorem accept_scope (finder : Finder α) (completion : Completion α) :
    (finder.accept completion).scope = finder.scope := by
  rcases accept_cases finder completion with ⟨_, same⟩ | ⟨_, _, _, same⟩ <;> rw [same]
  rfl

theorem acceptAll_scope (finder : Finder α) : finder.acceptAll.scope = finder.scope := by
  have taken (completions : List (Completion α)) (finder : Finder α) :
      (completions.foldl accept finder).scope = finder.scope := by
    induction completions generalizing finder with
    | nil => rfl
    | cons completion rest ih => exact (ih _).trans (accept_scope finder completion)
  exact taken finder.completions { finder with completions := [] }

theorem handle_scope (finder : Finder α) (event : Session.Event) (now : Nat) :
    (finder.handle event now).2.scope = finder.scope := by
  rcases handle_cases finder event now with same | ⟨_, same⟩ | same <;> rw [same]
  · rfl
  · exact searchInput_scope _

theorem tick_scope (finder : Finder α) (now : Nat)
    (waits : ∀ value due, finder.session.debouncer.pending = some (value, due) →
      value = finder.session.input) : (finder.tick now).scope = finder.scope := by
  rcases tick_cases finder now waits with same | same <;> rw [same, acceptAll_scope]
  exact searchInput_scope _

end Finder

end SymbolSearch
