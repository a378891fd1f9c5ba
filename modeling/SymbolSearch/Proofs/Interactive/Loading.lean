import SymbolSearch.Proofs.Interactive.Quiescence

set_option autoImplicit false

namespace SymbolSearch

open Ranking

namespace Session

variable {ρ : Type} {session : Session ρ} {ticket : Ticket}

theorem dispatch_ticket {query : String} (asked : (session.dispatch query).1 = .dispatch ticket) :
    ticket.seq = (session.dispatch query).2.seq := by
  cases blank : isBlank query with
  | true =>
    rw [dispatch_blank session blank] at asked
    cases asked
  | false =>
    rw [dispatch_query session blank] at asked ⊢
    cases asked
    rfl

theorem handle_ticket {event : Event} {now : Nat}
    (asked : (session.handle event now).1 = .dispatch ticket) :
    ticket.seq = (session.handle event now).2.seq := by
  cases event with
  | insert char =>
    simp only [handle] at asked
    split at asked <;> cases asked
  | deleteBack => cases asked
  | toggleMode => exact dispatch_ticket asked
  | cancel => cases asked

theorem poll_ticket {now : Nat} (asked : (session.poll now).1 = .dispatch ticket) :
    ticket.seq = (session.poll now).2.seq := by
  rcases session.poll_cases now with same | ⟨value, due, _, same⟩
  · rw [same] at asked
    cases asked
  · rw [same] at asked ⊢
    exact dispatch_ticket asked

end Session

namespace Finder

variable {α : Type} {finder : Finder α}

-- The searches under a number that are running or whose end waits to be taken.
def liveUnder (finder : Finder α) (seq : Nat) : List Ticket :=
  finder.live.filter fun ticket => ticket.seq = seq

structure Loads (finder : Finder α) : Prop where
  ranked : ∀ ticket ∈ finder.live, ticket.mode = .ai ∧ finder.workspace.rankingOff = none
  counted : (finder.liveUnder finder.session.seq).length = if finder.session.loading then 1 else 0

theorem Loads.loading (loads : finder.Loads) :
    finder.session.loading = true ↔ ∃ ticket, finder.liveUnder finder.session.seq = [ticket] := by
  rw [← List.length_eq_one_iff, loads.counted]
  cases finder.session.loading <;> simp

theorem Loads.notLoading (loads : finder.Loads) :
    finder.session.loading = false ↔ finder.liveUnder finder.session.seq = [] := by
  rw [← List.length_eq_zero_iff, loads.counted]
  cases finder.session.loading <;> simp

theorem Loads.of_perm {after : Finder α} (loads : finder.Loads)
    (perm : after.live.Perm finder.live) (workspace : after.workspace = finder.workspace)
    (seq : after.session.seq = finder.session.seq)
    (loading : after.session.loading = finder.session.loading) : after.Loads where
  ranked := by
    intro ticket member
    rw [workspace]
    exact loads.ranked ticket (perm.mem_iff.mp member)
  counted := by
    rw [loading, seq, ← loads.counted]
    exact (perm.filter _).length_eq

theorem liveUnder_next (numbered : ∀ ticket ∈ finder.live, ticket.seq ≤ finder.session.seq) :
    finder.liveUnder (finder.session.seq + 1) = [] := by
  rw [liveUnder, List.filter_eq_nil_iff]
  intro ticket member
  have bound := numbered ticket member
  rw [decide_eq_true_eq]
  omega

theorem finish_live {ticket : Ticket} (running : ticket ∈ finder.running)
    (outcome : Except String (List (SearchResult α))) :
    (finder.finish ticket outcome).live.Perm finder.live := by
  have taken : (ticket :: finder.running.erase ticket).Perm finder.running :=
    (List.perm_cons_erase running).symm
  have moved := taken.append_right (finder.completions.map (·.ticket))
  simp only [live, Finder.finish, List.map_append, List.map_cons, List.map_nil]
  rw [← List.append_assoc]
  exact (List.perm_append_singleton ticket _).trans moved

theorem running_live (finder : Finder α) (ticket : Ticket) :
    { finder with running := finder.running ++ [ticket] }.live.Perm (ticket :: finder.live) := by
  simp only [live, List.append_assoc]
  exact List.perm_middle

theorem ended_live (finder : Finder α) (completion : Completion α)
    (rest : List (Completion α)) :
    { finder with completions := completion :: rest }.live.Perm
      (completion.ticket :: { finder with completions := rest }.live) :=
  List.perm_middle

theorem liveUnder_length_of_perm {after : Finder α} {ticket : Ticket}
    (perm : after.live.Perm (ticket :: finder.live)) (seq : Nat) :
    (after.liveUnder seq).length =
      (finder.liveUnder seq).length + if ticket.seq = seq then 1 else 0 := by
  rw [liveUnder, (perm.filter _).length_eq, ← List.countP_eq_length_filter, List.countP_cons,
    List.countP_eq_length_filter, liveUnder]
  simp only [decide_eq_true_eq]

theorem Loads.start (workspace : Workspace α) (settings : Settings) :
    (Finder.start workspace settings).Loads where
  ranked := by simp [Finder.start, live]
  counted := rfl

theorem Loads.finish (loads : finder.Loads) {ticket : Ticket} (running : ticket ∈ finder.running)
    (outcome : Except String (List (SearchResult α))) :
    (finder.finish ticket outcome).Loads :=
  loads.of_perm (finish_live running outcome) rfl rfl rfl

variable [Measure α]

theorem Loads.searchInput (loads : finder.Loads)
    (numbered : ∀ ticket ∈ finder.live, ticket.seq ≤ finder.session.seq) :
    finder.searchInput.Loads := by
  have free : (finder.liveUnder (finder.session.seq + 1)).length = 0 := by
    rw [liveUnder_next numbered, List.length_nil]
  rcases searchInput_cases finder with ⟨ranks, status, same⟩ | ⟨_, selected, status, same⟩
  · rw [same]
    constructor
    · intro ticket member
      rcases List.mem_cons.mp ((running_live finder _).mem_iff.mp member) with rfl | before
      · exact ⟨rfl, ranks.2.2⟩
      · exact loads.ranked ticket before
    · have counted := liveUnder_length_of_perm
        (running_live finder { finder.current with seq := finder.session.seq + 1 })
        (finder.session.seq + 1)
      rw [free, if_pos rfl] at counted
      exact counted
  · rw [same]
    exact ⟨loads.ranked, free⟩

theorem Loads.accept {completion : Completion α} {rest : List (Completion α)}
    (loads : { finder with completions := completion :: rest }.Loads) :
    ({ finder with completions := rest }.accept completion).Loads := by
  have ranked (ticket : Ticket) (member : ticket ∈ { finder with completions := rest }.live) :=
    loads.ranked ticket (mem_live_cons.mpr (.inr member))
  have counted : ({ finder with completions := rest }.liveUnder finder.session.seq).length +
      (if completion.ticket.seq = finder.session.seq then 1 else 0) =
        if finder.session.loading then 1 else 0 :=
    (liveUnder_length_of_perm (ended_live finder completion rest) _).symm.trans loads.counted
  rcases accept_cases { finder with completions := rest } completion with
    ⟨stale, same⟩ | ⟨last, selected, status, same⟩
  · rw [same]
    rw [if_neg stale, Nat.add_zero] at counted
    exact ⟨ranked, counted⟩
  · rw [same]
    rw [if_pos last] at counted
    have none : ({ finder with completions := rest }.liveUnder finder.session.seq).length = 0 := by
      split at counted <;> omega
    exact ⟨ranked, none⟩

theorem Loads.acceptAll (loads : finder.Loads) : finder.acceptAll.Loads :=
  acceptAll_induction (fun _ _ _ => Loads.accept) loads

theorem Loads.handle (loads : finder.Loads)
    (numbered : ∀ ticket ∈ finder.live, ticket.seq ≤ finder.session.seq) (event : Session.Event)
    (now : Nat) : (finder.handle event now).2.Loads := by
  rcases handle_cases finder event now with same | ⟨input, same⟩ | same <;> rw [same]
  · exact loads
  · exact loads.of_perm (.refl _) rfl rfl rfl
  · have toggled : { finder with
        session :=
          { finder.session with
            mode := finder.session.mode.toggled
            debouncer := .idle } }.Loads := loads.of_perm (.refl _) rfl rfl rfl
    exact toggled.searchInput numbered

theorem Loads.tick (loads : finder.Loads)
    (waits : ∀ value due, finder.session.debouncer.pending = some (value, due) →
      value = finder.session.input)
    (numbered : ∀ ticket ∈ finder.live, ticket.seq ≤ finder.session.seq) (now : Nat) :
    (finder.tick now).Loads := by
  rcases tick_cases finder now waits with same | same <;> rw [same]
  · exact loads.acceptAll
  · have idle : { finder with session := { finder.session with debouncer := .idle } }.Loads :=
      loads.of_perm (.refl _) rfl rfl rfl
    exact (idle.searchInput numbered).acceptAll

theorem runSearch_unranked {ticket : Ticket} (last : ticket.seq = finder.session.seq)
    (unranked : ticket.mode = .normal ∨ finder.workspace.rankingOff ≠ none) :
    (finder.runSearch ticket).session.loading = false := by
  rcases runSearch_cases finder last with ⟨⟨ai, on⟩, _⟩ | ⟨_, selected, status, same⟩
  · rcases unranked with normal | off
    · rw [normal] at ai
      cases ai
    · exact absurd on off
  · rw [same]

theorem acceptAll_notLoading (finder : Finder α) (done : finder.session.loading = false) :
    finder.acceptAll.session.loading = false := by
  refine acceptAll_induction (P := fun finder => finder.session.loading = false) ?_ done
  intro finder completion rest done
  rcases accept_cases { finder with completions := rest } completion with
    ⟨_, same⟩ | ⟨_, selected, status, same⟩ <;> rw [same]
  exact done

theorem acceptAll_completions (finder : Finder α) : finder.acceptAll.completions = [] := by
  have kept (completions : List (Completion α)) (finder : Finder α) :
      (completions.foldl accept finder).completions = finder.completions := by
    induction completions generalizing finder with
    | nil => rfl
    | cons completion rest ih => exact (ih _).trans (accept_completions finder completion)
  exact kept finder.completions { finder with completions := [] }

end Finder

namespace Session.Action

def ticket? : Session.Action → Option Ticket
  | .dispatch ticket => some ticket
  | _ => none

theorem ticket?_eq_some {action : Session.Action} {ticket : Ticket} :
    action.ticket? = some ticket ↔ action = .dispatch ticket := by
  cases action <;> simp [ticket?]

end Session.Action

namespace Front

variable {α : Type} [Measure α] {front : Front α}

def asked? (front : Front α) : Event → Option Ticket
  | .handle event now => (front.finder.session.handle event now).1.ticket?
  | .tick now => (front.finder.session.poll now).1.ticket?
  | _ => none

theorem step_unranked {event : Event} {ticket : Ticket} (asked : front.asked? event = some ticket)
    (unranked : ticket.mode = .normal ∨ front.finder.workspace.rankingOff ≠ none) :
    (front.step event).finder.session.loading = false := by
  cases event with
  | handle event now =>
    have dispatched := Session.Action.ticket?_eq_some.mp asked
    simp only [step, Finder.handle, dispatched, Finder.apply]
    exact Finder.runSearch_unranked (Session.handle_ticket dispatched) unranked
  | tick now =>
    have dispatched := Session.Action.ticket?_eq_some.mp asked
    simp only [step, Finder.tick, dispatched, Finder.apply]
    exact Finder.acceptAll_notLoading _
      (Finder.runSearch_unranked (Session.poll_ticket dispatched) unranked)
  | _ => cases asked

theorem loads_step {scope : Workspace α × Nat} (tracks : front.Tracks scope)
    (loads : front.finder.Loads) (event : Event) : (front.step event).finder.Loads := by
  have numbered := tracks.finder.numbered
  cases event with
  | handle event now => exact loads.handle numbered event now
  | tick now => exact loads.tick tracks.finder.waits numbered now
  | collect => exact loads.acceptAll
  | selectNext =>
    simp only [step, Finder.selectNext]
    split
    · exact loads
    · exact loads.of_perm (.refl _) rfl rfl rfl
  | selectPrevious => exact loads.of_perm (.refl _) rfl rfl rfl
  | openSelected launch =>
    simp only [step, Finder.openSelected]
    split
    · exact loads
    · exact loads.of_perm (.refl _) rfl rfl rfl
  | enter ticket =>
    simp only [step, enter]
    split <;> exact loads
  | desk event => exact loads
  | finish call =>
    simp only [step, finish]
    split
    next outcome _ =>
      split
      next known => exact loads.finish known.2 _
      next => exact loads
    next => exact loads

theorem loads_run {scope : Workspace α × Nat} (tracks : front.Tracks scope)
    (loads : front.finder.Loads) (events : List Event) : (front.run events).finder.Loads := by
  induction events generalizing front with
  | nil => exact loads
  | cons event events ih => exact ih (tracks.step event) (loads_step tracks loads event)

/-- The sign of loading is shown if and only if just one search under the last number is running or
waits to be taken, and that is one with ranking. A tick with no search left in the background takes
the sign away, and a search without ranking never leaves it. -/
theorem run_loading (workspace : Workspace α) (settings : Settings) (desk : Desk α)
    (events : List Event) :
    let front := (Front.start workspace settings desk).run events
    let session := front.finder.session
    (session.loading = true ↔ ∃ ticket, front.finder.liveUnder session.seq = [ticket]) ∧
    (session.loading = false ↔ front.finder.liveUnder session.seq = []) ∧
    (∀ ticket ∈ front.finder.live, ticket.mode = .ai ∧ workspace.rankingOff = none) ∧
    (∀ now, (front.step (.tick now)).finder.running = [] →
      (front.step (.tick now)).finder.session.loading = false) ∧
    ∀ event ticket, front.asked? event = some ticket →
      ticket.mode = .normal ∨ workspace.rankingOff ≠ none →
      (front.step event).finder.session.loading = false := by
  intro front session
  have start := Tracks.start workspace settings desk
  have tracks := start.run events
  have loads : front.finder.Loads := loads_run start (.start workspace settings) events
  have sameWorkspace : front.finder.workspace = workspace := congrArg Prod.fst tracks.finder_scope
  refine ⟨loads.loading, loads.notLoading, ?_, ?_, ?_⟩
  · rw [← sameWorkspace]
    exact loads.ranked
  · intro now noneRunning
    have ended : (front.step (.tick now)).finder.completions = [] :=
      Finder.acceptAll_completions _
    rw [(loads_step tracks loads (.tick now)).notLoading, Finder.liveUnder, Finder.live,
      noneRunning, ended]
    rfl
  · intro event ticket asked unranked
    rw [← sameWorkspace] at unranked
    exact step_unranked asked unranked

def endedEvents : List Event :=
  [.handle (.insert 'u') 0, .handle .toggleMode 100, .enter keptCall.ticket, .finish keptCall]

def endedRun : Front Rat :=
  (start (.withRanking noElements) .default keptDesk).run endedEvents

theorem run_loading_ended :
    endedRun.finder.session.loading = true ∧
      (∃ ticket, endedRun.finder.liveUnder endedRun.finder.session.seq = [ticket]) ∧
      (endedRun.step (.tick 200)).finder.running = [] ∧
      (endedRun.step (.tick 200)).finder.session.loading = false ∧
      endedRun.asked? (.handle .toggleMode 150) = some { seq := 2, query := "u", mode := .normal } ∧
      (endedRun.step (.handle .toggleMode 150)).finder.session.loading = false := by
  obtain ⟨loading, _, _, drained, unranked⟩ :=
    run_loading (.withRanking noElements) .default keptDesk endedEvents
  have isLoading : endedRun.finder.session.loading = true := by decide
  have noneRunning : (endedRun.step (.tick 200)).finder.running = [] := by decide
  have asked : endedRun.asked? (.handle .toggleMode 150) =
      some { seq := 2, query := "u", mode := .normal } := by decide
  have normal : (endedRun.step (.handle .toggleMode 150)).finder.session.loading = false :=
    unranked (.handle .toggleMode 150) _ asked (.inl rfl)
  exact ⟨isLoading, loading.mp isLoading, noneRunning, drained 200 noneRunning, asked, normal⟩

end Front

end SymbolSearch
