import SymbolSearch.Proofs.Ranking.Attendance
import Mathlib.Data.List.Nodup

set_option autoImplicit false

namespace SymbolSearch.Ranking.Desk

variable {α : Type}

structure Sent where
  slot : Nat
  request : Request
deriving DecidableEq, Repr

def sent? (search : String → Nat → Ranked α) (desk : Desk α) : Event → Option Sent
  | .start caller =>
    match desk.callers[caller]?, (desk.start search caller).callers[caller]? with
    | some (.chosen slot), some (.asking _ found) =>
      desk.slots[slot]?.map fun entry => { slot, request := requestOf entry.key found }
    | _, _ => none
  | _ => none

def sent (search : String → Nat → Ranked α) (desk : Desk α) (events : List Event) : List Sent :=
  desk.noted (sent? search) search events

variable {search : String → Nat → Ranked α} {desk after : Desk α} {event : Event}
  {sent : List Sent}

theorem sent?_of_ask {caller slot : Nat} {key : Key}
    (chosen : desk.callers[caller]? = some (.chosen slot))
    (unsettled : desk.slots[slot]? = some { key, outcome := none })
    (available : candidates search key ≠ []) :
    desk.sent? search (.start caller) =
      some { slot, request := requestOf key (candidates search key) } := by
  simp [sent?, start_available chosen unsettled available, caller_set chosen, chosen, unsettled]

theorem Coherent.sent?_cases (coherent : desk.Coherent) {sent : Sent}
    (noted : desk.sent? search event = some sent) :
    ∃ caller slot key, event = .start caller ∧ desk.callers[caller]? = some (.chosen slot) ∧
      desk.slots[slot]? = some { key, outcome := none } ∧ candidates search key ≠ [] ∧
      sent = { slot, request := requestOf key (candidates search key) } := by
  cases event with
  | start caller =>
    have change : Change search desk (.start caller) (desk.start search caller) :=
      coherent.change_start caller
    simp only [sent?] at noted
    generalize desk.start search caller = after at noted change
    cases change with
    | @ask caller slot key chosen unsettled available =>
      simp only [caller_set chosen, chosen, unsettled, Option.map_some, Option.some.injEq] at noted
      exact ⟨caller, slot, key, rfl, chosen, unsettled, available, noted.symm⟩
    | spare chosen _ _ =>
      rw [chosen, caller_finish chosen] at noted
      cases noted
    | idle unable =>
      split at noted
      next slot _ _ chosen _ => exact absurd chosen (unable slot)
      next => cases noted
  | _ => simp [sent?] at noted

structure Requested (search : String → Nat → Ranked α) (sent : List Sent) (desk : Desk α) :
    Prop where
  sent_slot : ∀ asked ∈ sent, ∃ key outcome, desk.slots[asked.slot]? = some { key, outcome } ∧
    candidates search key ≠ [] ∧ asked.request = requestOf key (candidates search key)
  asking_sent : ∀ (caller slot : Nat) (found : Ranked α),
    desk.callers[caller]? = some (.asking slot found) → slot ∈ sent.map (·.slot)
  settled_sent : ∀ (key : Key) (slot : Nat) (outcome : Outcome α),
    desk.slots[slot]? = some { key, outcome := some outcome } →
    slot ∈ sent.map (·.slot) ∨ (candidates search key = [] ∧ outcome = .ok [])

theorem Requested.empty (capacity : Option Nat) :
    Requested search [] (Desk.empty capacity : Desk α) := by
  constructor <;> simp [Desk.empty]

theorem Requested.change (requested : Requested search sent desk) (coherent : desk.Coherent)
    (change : Change search desk event after) :
    Requested search (sent ++ (desk.sent? search event).toList) after where
  sent_slot := by
    intro asked member
    rcases List.mem_append.mp member with before | new
    · obtain ⟨key, outcome, here, rest⟩ := requested.sent_slot asked before
      obtain ⟨⟨_, later⟩, there, rfl, _⟩ := change.slot_becomes here
      exact ⟨_, later, there, rest⟩
    · obtain ⟨_, _, key, rfl, _, unsettled, available, rfl⟩ :=
        coherent.sent?_cases (Option.mem_toList.mp new)
      obtain ⟨⟨_, later⟩, there, rfl, _⟩ := change.slot_becomes unsettled
      exact ⟨_, later, there, available, rfl⟩
  asking_sent := by
    intro caller slot found there
    rw [List.map_append, List.mem_append]
    rcases change.asking_before there with before | ⟨rfl, chosen, key, unsettled, available⟩
    · exact .inl (requested.asking_sent caller slot found before)
    · simp [sent?_of_ask chosen unsettled available]
  settled_sent := by
    intro key slot outcome there
    rw [List.map_append, List.mem_append]
    rcases change.settled_before there with before | nothing | ⟨caller, found, asking⟩
    · exact (requested.settled_sent key slot outcome before).imp_left .inl
    · exact .inr nothing
    · exact .inl (.inl (requested.asking_sent caller slot found asking))

theorem run_requested (search : String → Nat → Ranked α) (capacity : Option Nat)
    (events : List Event) :
    Requested search ((Desk.empty capacity).sent search events)
      ((Desk.empty capacity).run search events) :=
  (Coherent.empty capacity).noted_run (Requested search) events
    (fun _ _ _ _ _ coherent change requested => requested.change coherent change)
    (Requested.empty capacity)

theorem Requested.failed_available (requested : Requested search sent desk) {slot : Nat} {key : Key}
    {failure : Failure}
    (failed : desk.slots[slot]? = some { key, outcome := some (.error failure) }) :
    candidates search key ≠ [] := by
  rcases requested.settled_sent key slot _ failed with member | ⟨_, same⟩
  · obtain ⟨asked, listed, rfl⟩ := List.mem_map.mp member
    obtain ⟨_, _, here, available, _⟩ := requested.sent_slot asked listed
    rw [failed] at here
    cases here
    exact available
  · cases same

structure SentOnce (sent : List Sent) (desk : Desk α) : Prop where
  nodup : (sent.map (·.slot)).Nodup
  chosen_unsent : ∀ caller slot : Nat, desk.callers[caller]? = some (.chosen slot) →
    slot ∉ sent.map (·.slot)

-- Without desertions a slot that is pending has a holder, so nobody joins it as one.
theorem Attending.not_chosen (attending : desk.Attending []) (books : desk.Books) {key : Key}
    {slot : Nat} (pending : (key, slot) ∈ desk.pending) : ¬ Joins desk slot (.chosen slot) := by
  intro joins
  cases joins with
  | chosen unsettled free =>
    obtain ⟨outcome, here⟩ := books.pending_slot key slot pending
    rw [outcomeAt, here] at unsettled
    obtain rfl : outcome = none := unsettled
    rcases attending.open_held key slot here with held | left
    · simp [free] at held
    · cases left

theorem SentOnce.unsent (once : SentOnce sent desk) (requested : Requested search sent desk)
    (coherent : desk.Coherent) (attending : desk.Attending [])
    (kept : ∀ caller, event ≠ .drop caller) (change : Change search desk event after)
    {caller slot : Nat} (there : after.callers[caller]? = some (.chosen slot)) :
    slot ∉ sent.map (·.slot) := by
  -- A slot that is new has no request, and one that is pending has a holder already.
  rcases change.chosen_before there with before | rfl | ⟨_, pending, joins⟩ | ⟨holder, drop⟩
  · exact once.chosen_unsent caller slot before
  · intro member
    obtain ⟨asked, listed, new⟩ := List.mem_map.mp member
    obtain ⟨_, _, here, _⟩ := requested.sent_slot asked listed
    simp [new] at here
  · exact absurd joins (attending.not_chosen coherent.books pending)
  · exact absurd drop (kept holder)

theorem SentOnce.change (once : SentOnce sent desk) (requested : Requested search sent desk)
    (coherent : desk.Coherent) (attending : desk.Attending [])
    (kept : ∀ caller, event ≠ .drop caller) (change : Change search desk event after) :
    SentOnce (sent ++ (desk.sent? search event).toList) after := by
  have before {caller slot : Nat} (there : after.callers[caller]? = some (.chosen slot)) :=
    once.unsent requested coherent attending kept change there
  rcases noted : desk.sent? search event with _ | asked
  · exact ⟨by simpa using once.nodup, fun caller slot there => by simpa using before there⟩
  · obtain ⟨caller, slot, key, rfl, chosen, unsettled, available, rfl⟩ := coherent.sent?_cases noted
    have fresh := once.chosen_unsent caller slot chosen
    rw [Option.toList_some]
    constructor
    · rw [List.map_append, List.map_singleton, ← List.concat_eq_append]
      exact once.nodup.concat fresh
    · intro other place there member
      rw [List.map_append, List.mem_append, List.map_singleton, List.mem_singleton] at member
      rcases member with old | rfl
      · exact before there old
      · -- The one that was chosen for this slot asks now, and it was the only one.
        cases change with
        | ask chosen' _ _ =>
          rcases (getElem?_set_iff ..).mp there with ⟨_, _, same⟩ | ⟨differ, there⟩
          · rw [chosen] at chosen'
            cases chosen'
            cases same
          · exact differ (coherent.seating.one_holder place other caller _ _ there chosen
              (by simp [Caller.holds]) (by simp [Caller.holds]))
        | spare chosen' unsettled' nothing =>
          rw [chosen] at chosen'
          cases chosen'
          rw [unsettled] at unsettled'
          cases unsettled'
          exact available nothing
        | idle unable => exact unable place chosen

theorem deserted?_of_kept (kept : ∀ caller, event ≠ .drop caller) :
    desk.deserted? event = none := by
  cases event with
  | drop caller => exact absurd rfl (kept caller)
  | _ => rfl

theorem run_sentOnce (search : String → Nat → Ranked α) (capacity : Option Nat)
    {events : List Event} (kept : ∀ caller, Event.drop caller ∉ events) :
    SentOnce ((Desk.empty capacity).sent search events)
        ((Desk.empty capacity).run search events) ∧
      ((Desk.empty capacity).run search events).Attending [] := by
  refine ((Coherent.empty capacity).noted_run
    (fun sent desk => Requested search sent desk ∧ SentOnce sent desk ∧ desk.Attending []) events ?_
    ⟨.empty capacity, ⟨by simp, by simp [Desk.empty]⟩, .empty capacity⟩).2
  rintro sent desk after event member coherent change ⟨requested, once, attending⟩
  have notDrop : ∀ caller, event ≠ .drop caller := by
    rintro caller rfl
    exact kept caller member
  refine ⟨requested.change coherent change,
    once.change requested coherent attending notDrop change, ?_⟩
  simpa [deserted?_of_kept notDrop] using attending.change coherent change

end SymbolSearch.Ranking.Desk
