import SymbolSearch.Proofs.Interactive.FinderSteps

set_option autoImplicit false

namespace SymbolSearch.Finder

variable {α : Type}

def live (finder : Finder α) : List Ticket :=
  finder.running ++ finder.completions.map (·.ticket)

theorem mem_live_cons {finder : Finder α} {completion : Completion α}
    {rest : List (Completion α)} {ticket : Ticket} :
    ticket ∈ { finder with completions := completion :: rest }.live ↔
      ticket = completion.ticket ∨ ticket ∈ { finder with completions := rest }.live := by
  simp only [live, List.map_cons, List.mem_append, List.mem_cons]
  constructor
  · rintro (running | last | ended)
    · exact .inr (.inl running)
    · exact .inl last
    · exact .inr (.inr ended)
  · rintro (last | running | ended)
    · exact .inr (.inl last)
    · exact .inl running
    · exact .inr (.inr ended)

variable [Measure α]

structure Shows (answers : Ticket → Except String (List (SearchResult α)) → Prop)
    (finder : Finder α) : Prop where
  blank : Session.isBlank finder.session.input = true → finder.results = []
  unranked : Session.isBlank finder.session.input = false → ¬ finder.Ranks →
    finder.results = finder.search finder.session.input
  ranked : finder.Ranks → ∃ outcome, answers finder.current outcome ∧
    finder.results = finder.resultsFor finder.session.input outcome

structure Tracks (answers : Ticket → Except String (List (SearchResult α)) → Prop)
    (finder : Finder α) : Prop where
  waits : ∀ value due, finder.session.debouncer.pending = some (value, due) →
    value = finder.session.input
  numbered : ∀ ticket ∈ finder.live, ticket.seq ≤ finder.session.seq
  answered : ∀ completion ∈ finder.completions, answers completion.ticket completion.outcome
  last_current : finder.session.hasPending = false → ∀ ticket ∈ finder.live,
    ticket.seq = finder.session.seq → finder.Ranks ∧ ticket = finder.current
  shown : finder.session.hasPending = false →
    (∀ ticket ∈ finder.live, ticket.seq ≠ finder.session.seq) → finder.Shows answers

variable {answers more : Ticket → Except String (List (SearchResult α)) → Prop}
  {finder : Finder α}

theorem Tracks.mono (tracks : finder.Tracks answers)
    (weaker : ∀ ticket outcome, answers ticket outcome → more ticket outcome) :
    finder.Tracks more where
  waits := tracks.waits
  numbered := tracks.numbered
  answered := fun completion member => weaker _ _ (tracks.answered completion member)
  last_current := tracks.last_current
  shown := by
    intro idle none
    have shows := tracks.shown idle none
    refine ⟨shows.blank, shows.unranked, ?_⟩
    intro ranks
    obtain ⟨outcome, answer, same⟩ := shows.ranked ranks
    exact ⟨outcome, weaker _ _ answer, same⟩

theorem Tracks.look (tracks : finder.Tracks answers) (selected : Nat) (status : Status) :
    { finder with selected, status }.Tracks answers where
  waits := tracks.waits
  numbered := tracks.numbered
  answered := tracks.answered
  last_current := tracks.last_current
  shown := by
    intro idle none
    have shows := tracks.shown idle none
    exact ⟨shows.blank, shows.unranked, shows.ranked⟩

theorem Tracks.start (workspace : Workspace α) (settings : Settings) :
    (Finder.start workspace settings).Tracks answers where
  waits := by simp [Finder.start, Session.start, Debouncer.idle]
  numbered := by simp [Finder.start, live]
  answered := by simp [Finder.start]
  last_current := by simp [Finder.start, live]
  shown := by
    have blank : Session.isBlank (Finder.start workspace settings).session.input = true := rfl
    intro _ _
    refine ⟨fun _ => rfl, ?_, ?_⟩
    · simp [blank]
    · simp [Ranks, blank]

theorem Tracks.edit (tracks : finder.Tracks answers) (input : String) (delay now : Nat) :
    { finder with
      session :=
        { finder.session with
          input
          debouncer := Debouncer.schedule input delay now } }.Tracks answers where
  waits := by
    intro value due waiting
    exact (congrArg Prod.fst (Option.some.inj waiting)).symm
  numbered := tracks.numbered
  answered := tracks.answered
  last_current := by simp [Session.hasPending, Debouncer.hasPending, Debouncer.schedule]
  shown := by simp [Session.hasPending, Debouncer.hasPending, Debouncer.schedule]

theorem Tracks.searchInput (idle : finder.session.debouncer = .idle)
    (numbered : ∀ ticket ∈ finder.live, ticket.seq ≤ finder.session.seq)
    (answered : ∀ completion ∈ finder.completions, answers completion.ticket completion.outcome) :
    finder.searchInput.Tracks answers := by
  have waits (value : String) (due : Nat)
      (waiting : finder.session.debouncer.pending = some (value, due)) :
      value = finder.session.input := by
    simp [idle, Debouncer.idle] at waiting
  rcases searchInput_cases finder with
    ⟨ranks, status, same⟩ | ⟨unranked, selected, status, same⟩
  · rw [same]
    -- The new search is the only one with the new number.
    have member_live {ticket : Ticket} {last : Ticket}
        (member : ticket ∈ { finder with running := finder.running ++ [last] }.live) :
        ticket ∈ finder.live ∨ ticket = last := by
      simp only [live, List.mem_append, List.mem_singleton] at member ⊢
      rcases member with (running | same) | ended
      · exact .inl (.inl running)
      · exact .inr same
      · exact .inl (.inr ended)
    refine ⟨waits, ?_, answered, ?_, ?_⟩
    · intro ticket member
      rcases member_live member with before | rfl
      · exact Nat.le_succ_of_le (numbered ticket before)
      · exact Nat.le_refl _
    · intro _ ticket member last
      rcases member_live member with before | rfl
      · have bound := numbered ticket before
        have last : ticket.seq = finder.session.seq + 1 := last
        omega
      · exact ⟨ranks, rfl⟩
    · intro _ none
      exact absurd rfl (none { finder.current with seq := finder.session.seq + 1 } (by simp [live]))
  · rw [same]
    refine ⟨waits, ?_, answered, ?_, ?_⟩
    · exact fun ticket member => Nat.le_succ_of_le (numbered ticket member)
    · intro _ ticket member (last : ticket.seq = finder.session.seq + 1)
      have bound := numbered ticket member
      omega
    · intro _ _
      refine ⟨fun blank => ?_, fun some _ => ?_, fun ranks => absurd ranks unranked⟩
      · exact if_pos blank
      · exact if_neg (by simp [some])

theorem Tracks.finish (tracks : finder.Tracks answers) {ticket : Ticket}
    {outcome : Except String (List (SearchResult α))} (running : ticket ∈ finder.running)
    (answer : answers ticket outcome) : (finder.finish ticket outcome).Tracks answers := by
  have live_iff (other : Ticket) :
      other ∈ (finder.finish ticket outcome).live ↔ other ∈ finder.live := by
    simp only [live, Finder.finish, List.map_append, List.map_cons, List.map_nil, List.mem_append,
      List.mem_singleton]
    by_cases same : other = ticket
    · simp [same, running]
    · simp [same, List.mem_erase_of_ne same]
  refine ⟨tracks.waits, ?_, ?_, ?_, ?_⟩
  · intro other member
    exact tracks.numbered other ((live_iff other).mp member)
  · intro completion member
    rcases List.mem_append.mp member with before | last
    · exact tracks.answered completion before
    · rw [List.mem_singleton.mp last]
      exact answer
  · intro idle other member
    exact tracks.last_current idle other ((live_iff other).mp member)
  · intro idle none
    have shows := tracks.shown idle fun other member => none other ((live_iff other).mpr member)
    exact ⟨shows.blank, shows.unranked, shows.ranked⟩

theorem Tracks.accept {completion : Completion α} {rest : List (Completion α)}
    (tracks : { finder with completions := completion :: rest }.Tracks answers) :
    ({ finder with completions := rest }.accept completion).Tracks answers := by
  have older {ticket : Ticket} (member : ticket ∈ { finder with completions := rest }.live) :
      ticket ∈ { finder with completions := completion :: rest }.live :=
    mem_live_cons.mpr (.inr member)
  have numbered (ticket : Ticket) (member : ticket ∈ { finder with completions := rest }.live) :
      ticket.seq ≤ finder.session.seq := tracks.numbered ticket (older member)
  have answered (other : Completion α) (member : other ∈ rest) :
      answers other.ticket other.outcome :=
    tracks.answered other (List.mem_cons_of_mem _ member)
  rcases accept_cases { finder with completions := rest } completion with
    ⟨stale, same⟩ | ⟨last, selected, status, same⟩
  · rw [same]
    refine ⟨tracks.waits, numbered, answered, ?_, ?_⟩
    · intro idle ticket member
      exact tracks.last_current idle ticket (older member)
    · intro idle none
      have allStale (ticket : Ticket)
          (member : ticket ∈ { finder with completions := completion :: rest }.live) :
          ticket.seq ≠ finder.session.seq := by
        rcases mem_live_cons.mp member with rfl | member
        · exact stale
        · exact none ticket member
      have shows := tracks.shown idle allStale
      exact ⟨shows.blank, shows.unranked, shows.ranked⟩
  · rw [same]
    refine ⟨tracks.waits, numbered, answered, ?_, ?_⟩
    · intro idle ticket member
      exact tracks.last_current idle ticket (older member)
    · -- It has the last number, so it is the search with ranking for the input.
      intro idle _
      obtain ⟨ranks, current⟩ := tracks.last_current idle completion.ticket
        (mem_live_cons.mpr (.inl rfl)) last
      have answer := tracks.answered completion List.mem_cons_self
      rw [current] at answer ⊢
      refine ⟨?_, fun _ unranked => absurd ranks unranked, fun _ => ⟨_, answer, rfl⟩⟩
      intro blank
      have some : Session.isBlank finder.session.input = false := ranks.1
      rw [blank] at some
      cases some

theorem accept_with (finder : Finder α) (completion : Completion α) (rest : List (Completion α)) :
    { finder with completions := rest }.accept completion =
      { finder.accept completion with completions := rest } := by
  obtain ⟨ticket, outcome⟩ := completion
  by_cases last : ticket.seq = finder.session.seq
  · cases outcome <;>
      simp [Finder.accept, completeUnranked, complete, Session.complete, last, search]
  · simp [Finder.accept, last]

theorem accept_completions (finder : Finder α) (completion : Completion α) :
    (finder.accept completion).completions = finder.completions := by
  rcases accept_cases finder completion with ⟨_, same⟩ | ⟨_, _, _, same⟩ <;> rw [same]

theorem acceptAll_induction {P : Finder α → Prop}
    (step : ∀ (finder : Finder α) (completion : Completion α) (rest : List (Completion α)),
      P { finder with completions := completion :: rest } →
        P ({ finder with completions := rest }.accept completion))
    (start : P finder) : P finder.acceptAll := by
  have taken (rest : List (Completion α)) (finder : Finder α) (empty : finder.completions = [])
      (start : P { finder with completions := rest }) : P (rest.foldl Finder.accept finder) := by
    induction rest generalizing finder with
    | nil => rwa [← empty] at start
    | cons completion rest ih =>
      have next := step finder completion rest start
      rw [accept_with] at next
      exact ih _ ((accept_completions finder completion).trans empty) next
  exact taken finder.completions { finder with completions := [] } rfl start

theorem Tracks.acceptAll (tracks : finder.Tracks answers) : finder.acceptAll.Tracks answers :=
  acceptAll_induction (fun _ _ _ => Tracks.accept) tracks

theorem Tracks.handle (tracks : finder.Tracks answers) (event : Session.Event) (now : Nat) :
    (finder.handle event now).2.Tracks answers := by
  rcases handle_cases finder event now with same | ⟨input, same⟩ | same
  · rwa [same]
  · rw [same]
    exact tracks.edit input _ now
  · rw [same]
    exact .searchInput rfl tracks.numbered tracks.answered

theorem Tracks.tick (tracks : finder.Tracks answers) (now : Nat) :
    (finder.tick now).Tracks answers := by
  rcases tick_cases finder now tracks.waits with same | same
  · rw [same]
    exact tracks.acceptAll
  · rw [same]
    have searched :
        { finder with
          session := { finder.session with debouncer := .idle } }.searchInput.Tracks answers :=
      .searchInput rfl tracks.numbered tracks.answered
    exact searched.acceptAll

end SymbolSearch.Finder
