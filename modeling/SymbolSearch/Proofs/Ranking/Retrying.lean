import SymbolSearch.Proofs.Ranking.Requests

set_option autoImplicit false

namespace SymbolSearch.Ranking.Desk

variable {α : Type} {search : String → Nat → Ranked α} {desk : Desk α}

theorem Coherent.settle_ready (coherent : desk.Coherent) {caller slot : Nat} {outcome : Outcome α}
    (ready : desk.ready? caller = some (slot, outcome)) :
    ∃ key, desk.slots[slot]? = some { key, outcome := some outcome } ∧
      ((desk.pending.lookup key = some slot ∧ desk.settle caller =
          (desk.closed key outcome).setCaller caller (.returned (share outcome))) ∨
        (desk.pending.lookup key ≠ some slot ∧
          desk.settle caller = desk.setCaller caller (.returned (share outcome)))) := by
  have change : Change (fun _ _ => []) desk (.settle caller) (desk.settle caller) :=
    coherent.change_settle caller
  generalize desk.settle caller = after at change
  cases change with
  | close ready' settled pending =>
    rw [ready] at ready'
    cases ready'
    exact ⟨_, settled, .inl ⟨pending, rfl⟩⟩
  | late ready' settled elsewhere =>
    rw [ready] at ready'
    cases ready'
    exact ⟨_, settled, .inr ⟨elsewhere, rfl⟩⟩
  | idle unable => simp [Unable, ready] at unable

theorem Coherent.settle_failed (coherent : desk.Coherent) {caller slot : Nat} {failure : Failure}
    (ready : desk.ready? caller = some (slot, .error failure)) :
    (desk.settle caller).done = desk.done ∧
      ∀ key, (key, slot) ∉ (desk.settle caller).pending := by
  obtain ⟨key, settled, known⟩ := coherent.settle_ready ready
  -- A slot is pending under its own key or under none.
  have own {other : Key} (listed : (other, slot) ∈ desk.pending) : other = key := by
    obtain ⟨_, here⟩ := coherent.books.pending_slot other slot listed
    rw [settled] at here
    cases here
    rfl
  rcases known with ⟨_, same⟩ | ⟨elsewhere, same⟩
  · rw [same]
    refine ⟨rfl, fun other listed => ?_⟩
    obtain ⟨before, differ⟩ := (mem_forget _).mp listed
    exact differ (own before)
  · rw [same]
    refine ⟨rfl, fun other listed => ?_⟩
    obtain rfl := own listed
    exact elsewhere (coherent.books.pending_distinct.lookup listed)

theorem Coherent.settle_late (coherent : desk.Coherent) {caller slot : Nat} {key : Key}
    {known : Option (Outcome α)} {outcome : Outcome α}
    (ready : desk.ready? caller = some (slot, outcome))
    (here : desk.slots[slot]? = some { key, outcome := known })
    (elsewhere : desk.pending.lookup key ≠ some slot) :
    desk.settle caller = desk.setCaller caller (.returned (share outcome)) := by
  obtain ⟨other, settled, ⟨pending, _⟩ | ⟨_, same⟩⟩ := coherent.settle_ready ready
  · rw [here] at settled
    cases settled
    exact absurd pending elsewhere
  · exact same

theorem Coherent.call_reopens (coherent : desk.Coherent) {key : Key}
    (miss : desk.done.lookup key = none) (absent : desk.pending.lookup key = none)
    (available : candidates search key ≠ []) :
    let called := desk.step search (.call key)
    called.pending.lookup key = some desk.slots.length ∧
    called.slots = desk.slots ++ [{ key, outcome := none }] ∧
    called.sent? search (.start desk.callers.length) =
      some { slot := desk.slots.length, request := requestOf key (candidates search key) } := by
  intro called
  have same : called = (desk.openSlot key).addCaller (.chosen desk.slots.length) := by
    have opened : called = (desk.openSlot key).join desk.slots.length := by
      simp [called, Desk.step, Desk.call, miss, absent]
    rw [opened, coherent.join_openSlot key]
  refine ⟨?_, ?_, ?_⟩
  · simp [same, Desk.addCaller, Desk.openSlot]
  · rw [same]
    rfl
  · refine sent?_of_ask ?_ ?_ available
    · rw [same]
      exact (getElem?_concat_iff ..).mpr (.inr ⟨rfl, rfl⟩)
    · rw [same]
      exact (openSlot_slot ..).mpr (.inr ⟨rfl, rfl⟩)

/-- In any state of any run: a failure that is settled leaves the rankings as they were and its slot
not pending, and the next call of the key that finds nothing makes a new request for a new slot. Who
settles a slot that is not pending any more returns, and nothing else changes. -/
theorem failure_forgotten (search : String → Nat → Ranked α) (capacity : Option Nat)
    (events : List Event) :
    let desk := (Desk.empty capacity).run search events
    (∀ caller key slot failure, (keysOf events)[caller]? = some key →
      desk.ready? caller = some (slot, .error failure) →
      let after := desk.step search (.settle caller)
      after.done = desk.done ∧ (∀ other, (other, slot) ∉ after.pending) ∧
      ∀ later,
        let last := after.run search later
        let called := last.step search (.call key)
        let fresh := last.slots.length
        let found := search key.query (min (3 * key.limit) (Nat.pow 2 64 - 1))
        last.done.lookup key = none → last.pending.lookup key = none →
        slot < fresh ∧ called.pending.lookup key = some fresh ∧
        called.slots = last.slots ++ [{ key, outcome := none }] ∧
        called.sent? search (.start last.callers.length) =
          some { slot := fresh,
                 request :=
                  { query := key.query
                    limit := key.limit
                    candidates := found.map fun result => .ofElement result.element } }) ∧
    (∀ caller key slot outcome, (keysOf events)[caller]? = some key →
      desk.ready? caller = some (slot, outcome) → desk.pending.lookup key ≠ some slot →
      let after := desk.step search (.settle caller)
      (∀ ranked, outcome = .ok ranked →
        after = { desk with callers := desk.callers.set caller (.returned (.ok ranked)) }) ∧
      (∀ failure, outcome = .error failure →
        after = { desk with
          callers := desk.callers.set caller (.returned (.error (.shared failure))) })) := by
  intro desk
  have coherent : desk.Coherent := (Coherent.empty capacity).run search events
  have recorded : Recorded search (keysOf events) _ desk :=
    (Recorded.empty capacity).run (.empty capacity) events
  have slotOf {caller slot : Nat} {key : Key} {outcome : Outcome α}
      (asked : (keysOf events)[caller]? = some key)
      (ready : desk.ready? caller = some (slot, outcome)) :
      desk.slots[slot]? = some { key, outcome := some outcome } := by
    obtain ⟨state, here, atSlot, _⟩ := ready_state ready
    obtain ⟨_, there⟩ := recorded.caller_key caller slot state key here atSlot asked
    obtain ⟨_, settled⟩ := outcomeAt_eq_some.mp (coherent.ready ready).1
    rw [there] at settled
    cases settled
    exact there
  constructor
  · intro caller key slot failure asked ready after
    obtain ⟨done, gone⟩ := coherent.settle_failed ready
    refine ⟨done, gone, ?_⟩
    intro later last called fresh found miss absent
    have failed := slotOf asked ready
    have available : candidates search key ≠ [] :=
      (run_requested search capacity events).failed_available failed
    have lastCoherent : last.Coherent := (coherent.step search _).run search later
    -- Slots are only added, so the one that failed is before the fresh one.
    have inside : slot < fresh := by
      obtain ⟨_, there, _⟩ := coherent.slot_becomes search (.settle caller :: later) failed
      exact (List.getElem?_eq_some_iff.mp there).1
    obtain ⟨pending, slots, sent⟩ := lastCoherent.call_reopens miss absent available
    rw [candidates_eq_search available] at sent
    exact ⟨inside, pending, slots, sent⟩
  · intro caller key slot outcome asked ready elsewhere after
    have settled : after = desk.setCaller caller (.returned (share outcome)) :=
      coherent.settle_late ready (slotOf asked ready) elsewhere
    constructor
    · rintro ranked rfl
      exact settled
    · rintro failure rfl
      exact settled

def failedAndLost : List Event :=
  [.call userKey, .call userKey, .start 0, .reply 0 (.error .emptyResponse), .settle 0,
    .call userKey, .start 2, .reply 2 (.ok ["a"]), .settle 2,
    .call authKey, .start 3, .reply 3 (.ok ["a"]), .settle 3,
    .call userKey, .start 4]

theorem failure_forgotten_late_caller :
    ((Desk.empty (some 1)).run oneCandidate failedAndLost).ready? 1 =
      some (0, .error .emptyResponse) ∧
    (((Desk.empty (some 1)).run oneCandidate failedAndLost).step oneCandidate (.settle 1)).pending =
      [(userKey, 3)] := by
  have ready : ((Desk.empty (some 1)).run oneCandidate failedAndLost).ready? 1 =
      some (0, .error .emptyResponse) := rfl
  have pending : ((Desk.empty (some 1)).run oneCandidate failedAndLost).pending =
      [(userKey, 3)] := rfl
  have asked : (keysOf failedAndLost)[1]? = some userKey := rfl
  obtain ⟨_, late⟩ := failure_forgotten oneCandidate (some 1) failedAndLost
  refine ⟨ready, ?_⟩
  rw [(late 1 userKey 0 _ asked ready (by rw [pending]; decide)).2 .emptyResponse rfl]
  exact pending

end SymbolSearch.Ranking.Desk
