import SymbolSearch.Proofs.Ranking.Requests

set_option autoImplicit false

namespace SymbolSearch.Ranking.Desk

variable {α : Type}

-- The slot that a new caller of a key gets; one that gets a ranking that is kept has none.
def seat (desk : Desk α) (key : Key) : Option Nat :=
  match desk.done.lookup key with
  | some _ => none
  | none => some ((desk.pending.lookup key).getD desk.slots.length)

def seat? (desk : Desk α) : Event → Option (Option Nat)
  | .call key => some (desk.seat key)
  | _ => none

def seats (search : String → Nat → Ranked α) (desk : Desk α) (events : List Event) :
    List (Option Nat) :=
  desk.noted seat? search events

variable {search : String → Nat → Ranked α} {desk after : Desk α} {event : Event}
  {sent : List Sent} {seats : List (Option Nat)}

theorem seat_of_hit {key : Key} {ranked : Ranked α} (found : desk.done.lookup key = some ranked) :
    desk.seat key = none := by
  simp [seat, found]

theorem seat_of_miss {key : Key} (miss : desk.done.lookup key = none) :
    desk.seat key = some ((desk.pending.lookup key).getD desk.slots.length) := by
  simp [seat, miss]

structure Seated (seats : List (Option Nat)) (desk : Desk α) : Prop where
  callers_length : desk.callers.length = seats.length
  at_seat : ∀ (caller slot : Nat) (state : Caller α), desk.callers[caller]? = some state →
    state.slot? = some slot → seats[caller]? = some (some slot)
  returned : ∀ (caller slot : Nat) (answer : Outcome α),
    desk.callers[caller]? = some (.returned answer) → seats[caller]? = some (some slot) →
    ∃ outcome, desk.outcomeAt slot = some outcome ∧ answer = share outcome

theorem Joins.slot?_eq {slot : Nat} {state : Caller α} (joins : Joins desk slot state) :
    state.slot? = some slot := by
  cases joins <;> rfl

theorem Change.slot_before (change : Change search desk event after) {caller slot : Nat}
    {state : Caller α} (there : after.callers[caller]? = some state)
    (atSlot : state.slot? = some slot) :
    (∃ before, desk.callers[caller]? = some before ∧ before.slot? = some slot) ∨
    (caller = desk.callers.length ∧ desk.seat? event = some (some slot)) := by
  rcases change.turned there with before | turns
  · exact .inl ⟨state, before, atSlot⟩
  · cases turns with
    | hit _ => cases atSlot
    | join miss pending joins =>
      rw [joins.slot?_eq] at atSlot
      cases atSlot
      exact .inr ⟨rfl, by simp [seat?, seat_of_miss miss, pending]⟩
    | openSlot miss absent =>
      cases atSlot
      exact .inr ⟨rfl, by simp [seat?, seat_of_miss miss, absent]⟩
    | ask chosen _ _ => exact .inl ⟨_, chosen, atSlot⟩
    | answer here holds => exact .inl ⟨_, here, Caller.slot?_of_holds holds ▸ atSlot⟩
    | settle _ => cases atSlot
    | drop _ => cases atSlot
    | handOver waits => exact .inl ⟨_, waits, atSlot⟩

theorem Change.returned_before (change : Change search desk event after) {caller : Nat}
    {answer : Outcome α} (there : after.callers[caller]? = some (.returned answer)) :
    desk.callers[caller]? = some (.returned answer) ∨
    (caller = desk.callers.length ∧ desk.seat? event = some none) ∨
    ∃ slot outcome, desk.ready? caller = some (slot, outcome) ∧ answer = share outcome := by
  rcases change.turned there with before | turns
  · exact .inl before
  · cases turns with
    | hit found => exact .inr (.inl ⟨rfl, by simp [seat?, seat_of_hit found]⟩)
    | join _ _ joins => cases joins
    | settle ready => exact .inr (.inr ⟨_, _, ready, rfl⟩)

theorem Change.callers_length (change : Change search desk event after) :
    after.callers.length = desk.callers.length + (desk.seat? event).toList.length := by
  cases change with
  | idle unable =>
    cases event with
    | call _ => exact unable.elim
    | _ => simp [seat?]
  | _ => simp [seat?, addCaller, setCaller, Desk.openSlot, finish, closed]

theorem Change.outcomeAt (change : Change search desk event after) {slot : Nat}
    {outcome : Outcome α} (settled : desk.outcomeAt slot = some outcome) :
    after.outcomeAt slot = some outcome := by
  obtain ⟨key, here⟩ := outcomeAt_eq_some.mp settled
  obtain ⟨⟨_, _⟩, there, rfl, becomes⟩ := change.slot_becomes here
  cases becomes outcome rfl
  exact outcomeAt_eq_some.mpr ⟨_, there⟩

theorem Seated.change (seated : desk.Seated seats) (coherent : desk.Coherent)
    (change : Change search desk event after) :
    after.Seated (seats ++ (desk.seat? event).toList) := by
  have length := seated.callers_length
  -- Who had a seat keeps it, for seats are added at the end.
  have keeps {caller : Nat} {seat : Option Nat} (here : seats[caller]? = some seat) :
      (seats ++ (desk.seat? event).toList)[caller]? = some seat := by
    rw [List.getElem?_append_left (List.getElem?_eq_some_iff.mp here).1, here]
  constructor
  · rw [change.callers_length, length, List.length_append]
  · intro caller slot state there atSlot
    rcases change.slot_before there atSlot with ⟨before, here, atSlot⟩ | ⟨rfl, seat⟩
    · exact keeps (seated.at_seat caller slot before here atSlot)
    · simp [length, seat]
  · intro caller slot answer there seat
    rcases change.returned_before there with before | ⟨rfl, unseated⟩ | ⟨place, outcome, ready, same⟩
    · have inside := (List.getElem?_eq_some_iff.mp before).1
      rw [List.getElem?_append_left (by omega)] at seat
      obtain ⟨outcome, settled, same⟩ := seated.returned caller slot answer before seat
      exact ⟨outcome, change.outcomeAt settled, same⟩
    · simp [length, unseated] at seat
    · obtain ⟨state, here, atPlace, _⟩ := ready_state ready
      rw [keeps (seated.at_seat caller place state here atPlace)] at seat
      cases seat
      exact ⟨outcome, change.outcomeAt (coherent.ready ready).1, same⟩

theorem Seated.empty (capacity : Option Nat) : (Desk.empty capacity : Desk α).Seated [] := by
  constructor <;> simp [Desk.empty]

theorem run_seated (search : String → Nat → Ranked α) (capacity : Option Nat)
    (events : List Event) :
    ((Desk.empty capacity).run search events).Seated
      ((Desk.empty capacity).seats search events) :=
  (Coherent.empty capacity).noted_run Seated events
    (fun _ _ _ _ _ coherent change seated => seated.change coherent change)
    (Seated.empty capacity)

def HasCandidates (search : String → Nat → Ranked α) (key : Key) : Prop :=
  key.limit ≠ 0 ∧ search key.query (min (3 * key.limit) (Nat.pow 2 64 - 1)) ≠ []

theorem hasCandidates_iff {key : Key} : HasCandidates search key ↔ candidates search key ≠ [] := by
  by_cases zero : key.limit = 0
  · simp [HasCandidates, candidates, zero]
  · rw [HasCandidates, and_iff_right zero, candidates, if_neg zero]
    rfl

theorem SentOnce.count_le (once : SentOnce sent desk) (slot : Nat) :
    (sent.map (·.slot)).count slot ≤ 1 :=
  List.nodup_iff_count_le_one.mp once.nodup slot

theorem SentOnce.count_settled (once : SentOnce sent desk) (requested : Requested search sent desk)
    {slot : Nat} {key : Key} {outcome : Outcome α}
    (settled : desk.slots[slot]? = some { key, outcome := some outcome }) :
    (HasCandidates search key → (sent.map (·.slot)).count slot = 1) ∧
      (¬ HasCandidates search key → (sent.map (·.slot)).count slot = 0) := by
  simp only [hasCandidates_iff]
  constructor
  · intro available
    rcases requested.settled_sent key slot outcome settled with member | ⟨nothing, _⟩
    · exact List.count_eq_one_of_mem once.nodup member
    · exact absurd nothing available
  · intro nothing
    rw [List.count_eq_zero]
    intro member
    obtain ⟨asked, listed, rfl⟩ := List.mem_map.mp member
    obtain ⟨_, _, here, available, _⟩ := requested.sent_slot asked listed
    rw [settled] at here
    cases here
    exact nothing available

theorem Requested.slot_key (requested : Requested search sent desk) {asked : Sent}
    (member : asked ∈ sent) :
    ∃ outcome, desk.slots[asked.slot]? = some { key := asked.request.key, outcome } := by
  obtain ⟨key, outcome, here, _, same⟩ := requested.sent_slot asked member
  have sameKey : asked.request.key = key := by
    rw [same]
    rfl
  exact ⟨outcome, sameKey ▸ here⟩

theorem Requested.mem_slots (requested : Requested search sent desk)
    (settled : ∀ (key : Key) (slot : Nat), desk.slots[slot]? ≠ some { key, outcome := none })
    {key : Key} (available : candidates search key ≠ []) (slot : Nat) :
    slot ∈ (sent.filter (·.request.key = key)).map (·.slot) ↔
      slot ∈ desk.slots.findIdxs (·.key = key) := by
  simp only [List.mem_map, List.mem_filter, decide_eq_true_eq,
    List.mem_findIdxs_iff_exists_getElem_pos]
  constructor
  · rintro ⟨asked, ⟨member, rfl⟩, rfl⟩
    obtain ⟨outcome, here⟩ := requested.slot_key member
    obtain ⟨inside, same⟩ := List.getElem?_eq_some_iff.mp here
    exact ⟨inside, congrArg Slot.key same⟩
  · rintro ⟨inside, rfl⟩
    have here := List.getElem?_eq_getElem inside
    rcases entry : desk.slots[slot] with ⟨key, _ | outcome⟩
    · exact absurd (here.trans (congrArg some entry)) (settled key slot)
    · rw [entry] at here available
      rcases requested.settled_sent key slot outcome here with member | ⟨nothing, _⟩
      · obtain ⟨asked, listed, rfl⟩ := List.mem_map.mp member
        obtain ⟨_, there⟩ := requested.slot_key listed
        rw [here] at there
        cases there
        exact ⟨asked, ⟨listed, rfl⟩, rfl⟩
      · exact absurd nothing available

theorem SentOnce.countP_eq (once : SentOnce sent desk) (requested : Requested search sent desk)
    (settled : ∀ (key : Key) (slot : Nat), desk.slots[slot]? ≠ some { key, outcome := none })
    {key : Key} (available : candidates search key ≠ []) :
    sent.countP (·.request.key = key) = desk.slots.countP (·.key = key) := by
  have perm : ((sent.filter (·.request.key = key)).map (·.slot)).Perm
      (desk.slots.findIdxs (·.key = key)) := by
    refine (List.perm_ext_iff_of_nodup ?_ List.nodup_findIdxs).mpr ?_
    · exact once.nodup.sublist (List.filter_sublist.map _)
    · exact requested.mem_slots settled available
  rw [List.countP_eq_length_filter, ← List.length_findIdxs, ← perm.length_eq, List.length_map]

theorem Coherent.open_before (coherent : desk.Coherent) (events : List Event) {slot : Nat} {key : Key}
    (inside : slot < desk.slots.length)
    (unsettled : (desk.run search events).slots[slot]? = some { key, outcome := none }) :
    desk.slots[slot]? = some { key, outcome := none } := by
  have here := List.getElem?_eq_getElem inside
  obtain ⟨later, there, sameKey, becomes⟩ := coherent.slot_becomes search events here
  rw [unsettled] at there
  cases there
  rcases entry : desk.slots[slot] with ⟨found, _ | outcome⟩
  · rw [here, entry]
    rw [entry] at sameKey
    cases sameKey
    rfl
  · rw [entry] at becomes
    cases becomes outcome rfl

theorem Coherent.sent_for_open (coherent : desk.Coherent) {events : List Event} {slot : Nat}
    {key : Key} (inside : slot < desk.slots.length)
    (unsettled : (desk.run search events).slots[slot]? = some { key, outcome := none })
    {asked : Sent} (member : asked ∈ desk.sent search events) (sameKey : asked.request.key = key) :
    asked.slot = slot := by
  obtain ⟨earlier, event, later, rfl, noted⟩ := mem_noted.mp member
  have between : (desk.run search earlier).Coherent := coherent.run search earlier
  obtain ⟨_, place, found, _, _, here, _, rfl⟩ := between.sent?_cases noted
  cases sameKey
  have stillInside : slot < (desk.run search earlier).slots.length := by
    obtain ⟨_, there, _⟩ := coherent.slot_becomes search earlier
      (List.getElem?_eq_getElem inside)
    exact (List.getElem?_eq_some_iff.mp there).1
  rw [run_append] at unsettled
  -- At the step of the request the slot was open already, and no key has two open slots.
  have open' := between.open_before (event :: later) stillInside unsettled
  exact between.books.pending_distinct.eq_of_mem (between.books.open_pending found place here)
    (between.books.open_pending found slot open')

/-- While nobody is dropped, in any interleaving: a slot has one request at most, and has had it when
it has its outcome; whoever returns from a slot has its outcome; when nobody is outstanding, a key
has had a request for each of its slots; and while a slot is open its key has no second one. -/
theorem callers_share_request (search : String → Nat → Ranked α) (capacity : Option Nat)
    (earlier later : List Event) (kept : ∀ caller, Event.drop caller ∉ earlier ++ later) :
    let start : Desk α := .empty capacity
    let desk := start.run search (earlier ++ later)
    let sent := start.sent search (earlier ++ later)
    let seats := start.seats search (earlier ++ later)
    let sentLater := (start.run search earlier).sent search later
    (∀ slot, (sent.map (·.slot)).count slot ≤ 1) ∧
    (∀ slot key outcome, desk.slots[slot]? = some { key, outcome := some outcome } →
      (HasCandidates search key → (sent.map (·.slot)).count slot = 1) ∧
      (¬ HasCandidates search key → (sent.map (·.slot)).count slot = 0)) ∧
    (∀ caller slot answer, seats[caller]? = some (some slot) →
      desk.outcomeOf caller = some answer →
      (∃ ranked, desk.outcomeAt slot = some (.ok ranked) ∧ answer = .ok ranked) ∨
      ∃ failure, desk.outcomeAt slot = some (.error failure) ∧
        answer = .error (.shared failure)) ∧
    ((∀ state ∈ desk.callers, state.slot? = none) → ∀ key, HasCandidates search key →
      sent.countP (·.request.key = key) = desk.slots.countP (·.key = key)) ∧
    (∀ slot key, slot < (start.run search earlier).slots.length →
      desk.slots[slot]? = some { key, outcome := none } →
      sentLater.countP (·.request.key = key) ≤ 1 ∧
      ∀ asked ∈ sentLater, asked.request.key = key → asked.slot = slot) := by
  intro start desk sent seats sentLater
  have requested : Requested search sent desk := run_requested search capacity _
  obtain ⟨once, attending⟩ : SentOnce sent desk ∧ desk.Attending [] :=
    run_sentOnce search capacity kept
  have seated : desk.Seated seats := run_seated search capacity _
  refine ⟨once.count_le, fun slot key outcome settled => once.count_settled requested settled,
    ?_, ?_, ?_⟩
  · intro caller slot answer seat returned
    obtain ⟨outcome, settled, rfl⟩ :=
      seated.returned caller slot answer (outcomeOf_eq_some.mp returned) seat
    cases outcome with
    | ok ranked => exact .inl ⟨ranked, settled, rfl⟩
    | error failure => exact .inr ⟨failure, settled, rfl⟩
  · intro quiet key available
    refine once.countP_eq requested ?_ (hasCandidates_iff.mp available)
    intro other slot unsettled
    rcases attending.open_held other slot unsettled with held | left
    · obtain ⟨holder, state, here, holds⟩ := (isHeld_iff desk slot).mp held
      have gone := quiet state (List.mem_of_getElem? here)
      rw [Caller.slot?_of_holds holds] at gone
      cases gone
    · cases left
  · intro slot key inside unsettled
    have between : (start.run search earlier).Coherent := (Coherent.empty capacity).run search earlier
    rw [show desk = (start.run search earlier).run search later from run_append ..] at unsettled
    have own : ∀ asked ∈ sentLater, asked.request.key = key → asked.slot = slot :=
      fun asked member => between.sent_for_open inside unsettled member
    refine ⟨?_, own⟩
    -- All of them are for this slot, and it has one request in the whole run.
    have all : sent = start.sent search earlier ++ sentLater := noted_append start earlier later
    calc sentLater.countP (·.request.key = key)
      _ ≤ sentLater.countP (·.slot == slot) := by
        refine List.countP_mono_left fun asked member same => ?_
        exact beq_iff_eq.mpr (own asked member (of_decide_eq_true same))
      _ ≤ sent.countP (·.slot == slot) := by
        rw [all]
        exact (List.sublist_append_right ..).countP_le
      _ = (sent.map (·.slot)).count slot := by rw [List.count, List.countP_map]; rfl
      _ ≤ 1 := once.count_le slot

def calledTogether : List Event :=
  [.call userKey, .start 0, .call userKey, .call authKey, .start 2]

def answeredInTurn : List Event :=
  [.reply 2 (.ok ["a"]), .settle 2, .reply 0 (.error .emptyResponse), .settle 1, .settle 0]

theorem callers_share_request_failure :
    (∀ caller, Event.drop caller ∉ calledTogether ++ answeredInTurn) ∧
    ((Desk.empty (some 1)).run oneCandidate (calledTogether ++ answeredInTurn)).outcomeAt 0 =
      some (.error .emptyResponse) ∧
    ((Desk.empty (some 1)).sent oneCandidate (calledTogether ++ answeredInTurn)).countP
      (·.request.key = userKey) = 1 := by
  have kept : ∀ caller, Event.drop caller ∉ calledTogether ++ answeredInTurn := by
    simp [calledTogether, answeredInTurn]
  obtain ⟨_, _, shared, quiet, _⟩ :=
    callers_share_request oneCandidate (some 1) calledTogether answeredInTurn kept
  refine ⟨kept, ?_, ?_⟩
  · have seat : ((Desk.empty (some 1)).seats oneCandidate
        (calledTogether ++ answeredInTurn))[1]? = some (some 0) := rfl
    have returned : ((Desk.empty (some 1)).run oneCandidate
        (calledTogether ++ answeredInTurn)).outcomeOf 1 =
          some (.error (.shared .emptyResponse)) := rfl
    rcases shared 1 0 _ seat returned with ⟨_, _, ⟨⟩⟩ | ⟨_, settled, ⟨⟩⟩
    exact settled
  · have gone : ((Desk.empty (some 1)).run oneCandidate
        (calledTogether ++ answeredInTurn)).callers.all (·.slot?.isNone) = true := rfl
    have none := fun state member =>
      Option.isNone_iff_eq_none.mp (List.all_eq_true.mp gone state member)
    rw [quiet none userKey ⟨by decide, by decide⟩]
    rfl

end SymbolSearch.Ranking.Desk
