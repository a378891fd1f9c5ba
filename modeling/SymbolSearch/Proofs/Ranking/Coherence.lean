import SymbolSearch.Proofs.Ranking.Books
import SymbolSearch.Proofs.Ranking.Seating

set_option autoImplicit false

namespace SymbolSearch.Ranking.Desk

variable {α : Type}

structure Coherent (desk : Desk α) : Prop where
  books : desk.Books
  seating : desk.Seating

variable {desk : Desk α}

theorem Coherent.empty (capacity : Option Nat) : (Desk.empty capacity : Desk α).Coherent :=
  ⟨.empty capacity, .empty capacity⟩

theorem Coherent.call (coherent : desk.Coherent) (key : Key) : (desk.call key).Coherent := by
  obtain ⟨books, seating⟩ := coherent
  rcases call_cases desk key with
    ⟨ranked, hit, same⟩ | ⟨_, slot, pending, same⟩ | ⟨miss, absent, same⟩
  · rw [same]
    constructor
    · exact (books.hit (mem_of_lookup hit)).of_eq rfl rfl rfl
    · have seating : { desk with done := (key, ranked) :: forget key desk.done }.Seating :=
        seating.of_eq rfl rfl
      exact seating.addCaller trivial (by simp [Caller.holds]) (by simp)
  · rw [same]
    obtain ⟨outcome, here⟩ := books.pending_slot key slot (mem_of_lookup pending)
    exact ⟨books.join slot, seating.join (List.getElem?_eq_some_iff.mp here).1⟩
  · rw [same]
    have inside : desk.slots.length < (desk.openSlot key).slots.length := by
      simp [Desk.openSlot]
    exact ⟨(books.openSlot miss absent).join _, (seating.openSlot key).join inside⟩

theorem Coherent.finish (coherent : desk.Coherent) {caller slot : Nat} {state : Caller α}
    (here : desk.callers[caller]? = some state) (holds : state.holds slot = true)
    (outcome : Outcome α) : (desk.finish caller slot outcome).Coherent :=
  ⟨coherent.books.finish caller slot outcome, coherent.seating.finish here holds outcome⟩

theorem Coherent.start (coherent : desk.Coherent) (search : String → Nat → Ranked α)
    (caller : Nat) : (desk.start search caller).Coherent := by
  rcases start_cases search desk caller with
    same | ⟨slot, entry, here, found, ⟨_, same⟩ | ⟨_, same⟩⟩
  · rwa [same]
  · rw [same]
    exact coherent.finish here (by simp [Caller.holds]) _
  · rw [same]
    have placed : desk.Placed (.chosen slot) := coherent.seating.placed caller _ here
    exact ⟨coherent.books.of_eq rfl rfl rfl,
      coherent.seating.setCaller here placed (by simp [Caller.holds]) (by simp)⟩

theorem Coherent.reply (coherent : desk.Coherent) (caller : Nat)
    (answer : Except Failure (List String)) : (desk.reply caller answer).Coherent := by
  rcases reply_cases desk caller answer with ⟨same, _⟩ | ⟨slot, found, entry, here, _, same⟩
  · rwa [same]
  · rw [same]
    exact coherent.finish here (by simp [Caller.holds]) _

theorem Coherent.ready (coherent : desk.Coherent) {caller slot : Nat} {outcome : Outcome α}
    (ready : desk.ready? caller = some (slot, outcome)) :
    desk.outcomeAt slot = some outcome ∧ ∃ state, desk.callers[caller]? = some state ∧
      ∀ place, state.holds place = false := by
  rcases ready_cases ready with here | ⟨here, settled⟩
  · exact ⟨coherent.seating.placed caller _ here, _, here, by simp [Caller.holds]⟩
  · exact ⟨settled, _, here, by simp [Caller.holds]⟩

theorem Coherent.close (coherent : desk.Coherent) {slot : Nat} {outcome : Outcome α}
    (settled : desk.outcomeAt slot = some outcome) : (desk.close slot outcome).Coherent := by
  rcases close_cases desk slot outcome with ⟨same, _⟩ | ⟨entry, here, pending, same⟩
  · rwa [same]
  · rw [same]
    have known : entry.outcome.isSome := by
      obtain ⟨key, there⟩ := outcomeAt_eq_some.mp settled
      rw [here] at there
      cases there
      rfl
    exact ⟨coherent.books.closed outcome here known pending, coherent.seating.of_eq rfl rfl⟩

theorem Coherent.settle (coherent : desk.Coherent) (caller : Nat) :
    (desk.settle caller).Coherent := by
  rcases settle_cases desk caller with same | ⟨slot, outcome, ready, same⟩
  · rwa [same]
  · rw [same]
    obtain ⟨settled, state, here, holds⟩ := coherent.ready ready
    have closed := coherent.close settled
    rw [← close_callers desk slot outcome] at here
    refine ⟨closed.books.of_eq rfl rfl rfl, closed.seating.setCaller here trivial ?_ (by simp)⟩
    intro place
    rw [holds place]
    rfl

theorem Coherent.drop (coherent : desk.Coherent) (caller : Nat) :
    (desk.drop caller).Coherent := by
  rcases drop_cases desk caller with
    same | ⟨slot, here, same⟩ | ⟨slot, state, here, holds, same⟩
  · rwa [same]
  · rw [same]
    exact ⟨coherent.books.of_eq rfl rfl rfl,
      coherent.seating.setCaller here trivial (by simp [Caller.holds]) (by simp)⟩
  · rw [same]
    refine ⟨coherent.books.of_eq ?_ ?_ ?_, (coherent.seating.vacant here holds).handOver⟩ <;>
      rcases handOver_cases (desk.setCaller caller .dropped) slot with ⟨same, _⟩ | ⟨_, _, same⟩ <;>
      rw [same] <;> rfl

theorem Coherent.step (coherent : desk.Coherent) (search : String → Nat → Ranked α)
    (event : Event) : (desk.step search event).Coherent := by
  cases event with
  | call key => exact coherent.call key
  | start caller => exact coherent.start search caller
  | reply caller answer => exact coherent.reply caller answer
  | settle caller => exact coherent.settle caller
  | drop caller => exact coherent.drop caller

theorem Coherent.run (coherent : desk.Coherent) (search : String → Nat → Ranked α)
    (events : List Event) : (desk.run search events).Coherent := by
  induction events generalizing desk with
  | nil => exact coherent
  | cons event events ih => exact ih (coherent.step search event)

def IsAsking (desk : Desk α) (caller : Nat) (key : Key) : Prop :=
  ∃ slot found outcome, desk.callers[caller]? = some (.asking slot found) ∧
    desk.slots[slot]? = some { key, outcome }

structure SingleFlight (desk : Desk α) : Prop where
  one_request : ∀ first second key, desk.IsAsking first key → desk.IsAsking second key →
    first = second
  closed_settled : ∀ (slot : Nat) (entry : Slot α), desk.slots[slot]? = some entry →
    (entry.key, slot) ∉ desk.pending → ∃ outcome, entry.outcome = some outcome
  waiting_attended : ∀ caller slot : Nat, desk.callers[caller]? = some (.waiting slot) →
    desk.outcomeAt slot = none →
    ∃ other, other ≠ caller ∧ (desk.callers[other]? = some (.chosen slot) ∨
      ∃ found, desk.callers[other]? = some (.asking slot found))

theorem Coherent.isAsking_slot (coherent : desk.Coherent) {caller slot : Nat} {key : Key}
    {found : Ranked α} {outcome : Option (Outcome α)}
    (asking : desk.callers[caller]? = some (.asking slot found))
    (here : desk.slots[slot]? = some { key, outcome }) : (key, slot) ∈ desk.pending := by
  obtain ⟨other, unsettled⟩ := coherent.seating.placed caller _ asking
  rw [here] at unsettled
  cases unsettled
  exact coherent.books.open_pending key slot here

theorem Coherent.singleFlight (coherent : desk.Coherent) : desk.SingleFlight where
  one_request := by
    rintro first second key ⟨slot, found, outcome, asking, here⟩
      ⟨slot', found', outcome', asking', here'⟩
    have same : slot = slot' := coherent.books.pending_distinct.eq_of_mem
      (coherent.isAsking_slot asking here) (coherent.isAsking_slot asking' here')
    subst same
    exact coherent.seating.one_holder slot first second _ _ asking asking'
      (by simp [Caller.holds]) (by simp [Caller.holds])
  closed_settled := by
    rintro slot ⟨key, outcome⟩ here notPending
    cases outcome with
    | some outcome => exact ⟨outcome, rfl⟩
    | none => exact absurd (coherent.books.open_pending key slot here) notPending
  waiting_attended := by
    intro caller slot waits unsettled
    obtain ⟨other, state, here, holds⟩ :=
      (isHeld_iff desk slot).mp (coherent.seating.attended caller slot waits unsettled)
    refine ⟨other, ?_, ?_⟩
    · rintro rfl
      rw [waits] at here
      cases here
      simp [Caller.holds] at holds
    · rcases (Caller.holds_iff state slot).mp holds with rfl | ⟨found, rfl⟩
      · exact .inl here
      · exact .inr ⟨found, here⟩

/-- Any interleaving of any number of calls, with callers dropped at any time. -/
theorem run_single_flight (search : String → Nat → Ranked α) (capacity : Option Nat)
    (events : List Event) : ((Desk.empty capacity).run search events).SingleFlight :=
  ((Coherent.empty capacity).run search events).singleFlight

end SymbolSearch.Ranking.Desk
