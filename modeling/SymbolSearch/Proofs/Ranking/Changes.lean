import SymbolSearch.Proofs.Ranking.Record

set_option autoImplicit false

namespace SymbolSearch.Ranking.Desk

variable {α : Type}

def Unable (desk : Desk α) : Event → Prop
  | .call _ => False
  | .start caller => ∀ slot, desk.callers[caller]? ≠ some (.chosen slot)
  | .reply caller _ => ∀ slot found, desk.callers[caller]? ≠ some (.asking slot found)
  | .settle caller => desk.ready? caller = none
  | .drop caller => ∀ slot state, desk.callers[caller]? = some state →
      state ≠ .waiting slot ∧ state.holds slot = false

inductive Change (search : String → Nat → Ranked α) (desk : Desk α) : Event → Desk α → Prop where
  | hit {key : Key} {ranked : Ranked α} (found : desk.done.lookup key = some ranked) :
      Change search desk (.call key)
        ({ desk with done := (key, ranked) :: forget key desk.done }.addCaller
          (.returned (.ok ranked)))
  | join {key : Key} {slot : Nat} {state : Caller α} (miss : desk.done.lookup key = none)
      (pending : desk.pending.lookup key = some slot) (joins : Joins desk slot state) :
      Change search desk (.call key) (desk.addCaller state)
  | openSlot {key : Key} (miss : desk.done.lookup key = none)
      (absent : desk.pending.lookup key = none) :
      Change search desk (.call key) ((desk.openSlot key).addCaller (.chosen desk.slots.length))
  | ask {caller slot : Nat} {key : Key} (chosen : desk.callers[caller]? = some (.chosen slot))
      (unsettled : desk.slots[slot]? = some { key, outcome := none })
      (available : candidates search key ≠ []) :
      Change search desk (.start caller)
        (desk.setCaller caller (.asking slot (candidates search key)))
  | spare {caller slot : Nat} {key : Key} (chosen : desk.callers[caller]? = some (.chosen slot))
      (unsettled : desk.slots[slot]? = some { key, outcome := none })
      (nothing : candidates search key = []) :
      Change search desk (.start caller) (desk.finish caller slot (.ok []))
  | answer {caller slot : Nat} {key : Key} {found : Ranked α}
      {answer : Except Failure (List String)}
      (asking : desk.callers[caller]? = some (.asking slot found))
      (unsettled : desk.slots[slot]? = some { key, outcome := none }) :
      Change search desk (.reply caller answer)
        (desk.finish caller slot (answer.map fun ids => select found ids key.limit))
  | close {caller slot : Nat} {key : Key} {outcome : Outcome α}
      (ready : desk.ready? caller = some (slot, outcome))
      (settled : desk.slots[slot]? = some { key, outcome := some outcome })
      (pending : desk.pending.lookup key = some slot) :
      Change search desk (.settle caller)
        ((desk.closed key outcome).setCaller caller (.returned (share outcome)))
  | late {caller slot : Nat} {key : Key} {outcome : Outcome α}
      (ready : desk.ready? caller = some (slot, outcome))
      (settled : desk.slots[slot]? = some { key, outcome := some outcome })
      (elsewhere : desk.pending.lookup key ≠ some slot) :
      Change search desk (.settle caller) (desk.setCaller caller (.returned (share outcome)))
  | leave {caller slot : Nat} (waits : desk.callers[caller]? = some (.waiting slot)) :
      Change search desk (.drop caller) (desk.setCaller caller .dropped)
  | desert {caller slot : Nat} {state : Caller α} (here : desk.callers[caller]? = some state)
      (holds : state.holds slot = true)
      (nobody : ∀ other : Nat, desk.callers[other]? ≠ some (.waiting slot)) :
      Change search desk (.drop caller) (desk.setCaller caller .dropped)
  | handOver {caller next slot : Nat} {state : Caller α} (here : desk.callers[caller]? = some state)
      (holds : state.holds slot = true) (waits : desk.callers[next]? = some (.waiting slot)) :
      Change search desk (.drop caller)
        ((desk.setCaller caller .dropped).setCaller next (.chosen slot))
  | idle {event : Event} (unable : desk.Unable event) : Change search desk event desk

variable {search : String → Nat → Ranked α} {desk after : Desk α} {event : Event}

theorem Coherent.join_openSlot (coherent : desk.Coherent) (key : Key) :
    (desk.openSlot key).join desk.slots.length =
      (desk.openSlot key).addCaller (.chosen desk.slots.length) := by
  have unsettled : (desk.openSlot key).outcomeAt desk.slots.length = none := by
    simp [outcomeAt, openSlot]
  obtain ⟨state, joins, same⟩ := join_cases (desk.openSlot key) desk.slots.length
  rw [same]
  cases joins with
  | answered settled => simp [unsettled] at settled
  | waiting _ held =>
    -- Whoever holds a slot holds one that there is already.
    obtain ⟨holder, state, here, holds⟩ := (isHeld_iff _ _).mp held
    obtain ⟨_, there⟩ := (coherent.seating.placed holder state here).holds holds
    simp at there
  | chosen _ _ => rfl

theorem Coherent.change_call (coherent : desk.Coherent) (key : Key) :
    Change search desk (.call key) (desk.call key) := by
  rcases call_cases desk key with
    ⟨ranked, found, same⟩ | ⟨miss, slot, pending, same⟩ | ⟨miss, absent, same⟩
  · rw [same]
    exact .hit found
  · obtain ⟨state, joins, joined⟩ := join_cases desk slot
    rw [same, joined]
    exact .join miss pending joins
  · rw [same, coherent.join_openSlot key]
    exact .openSlot miss absent

theorem start_available {caller slot : Nat} {key : Key}
    (chosen : desk.callers[caller]? = some (.chosen slot))
    (unsettled : desk.slots[slot]? = some { key, outcome := none })
    (available : candidates search key ≠ []) :
    desk.start search caller = desk.setCaller caller (.asking slot (candidates search key)) := by
  obtain ⟨first, rest, found⟩ := List.exists_cons_of_ne_nil available
  simp [Desk.start, chosen, unsettled, found]

theorem Coherent.change_start (coherent : desk.Coherent) (caller : Nat) :
    Change search desk (.start caller) (desk.start search caller) := by
  by_cases able : ∃ slot, desk.callers[caller]? = some (.chosen slot)
  · obtain ⟨slot, chosen⟩ := able
    obtain ⟨key, unsettled⟩ := coherent.seating.placed caller _ chosen
    by_cases nothing : candidates search key = []
    · have same : desk.start search caller = desk.finish caller slot (.ok []) := by
        simp [Desk.start, chosen, unsettled, nothing]
      rw [same]
      exact .spare chosen unsettled nothing
    · rw [start_available chosen unsettled nothing]
      exact .ask chosen unsettled nothing
  · have same : desk.start search caller = desk := by
      rcases start_cases search desk caller with same | ⟨slot, _, chosen, _⟩
      · exact same
      · exact absurd ⟨slot, chosen⟩ able
    rw [same]
    exact .idle fun slot chosen => able ⟨slot, chosen⟩

theorem Coherent.change_reply (coherent : desk.Coherent) (caller : Nat)
    (answer : Except Failure (List String)) :
    Change search desk (.reply caller answer) (desk.reply caller answer) := by
  rcases reply_cases desk caller answer with
    ⟨same, nowhere⟩ | ⟨slot, found, entry, asking, here, same⟩
  · rw [same]
    refine .idle ?_
    intro slot found asking
    obtain ⟨key, unsettled⟩ := coherent.seating.placed caller _ asking
    exact nowhere slot found _ asking unsettled
  · obtain ⟨key, unsettled⟩ := coherent.seating.placed caller _ asking
    obtain rfl : entry = { key, outcome := none } := Option.some.inj (here.symm.trans unsettled)
    rw [same]
    exact .answer asking unsettled

theorem Coherent.change_settle (coherent : desk.Coherent) (caller : Nat) :
    Change search desk (.settle caller) (desk.settle caller) := by
  rcases ready : desk.ready? caller with _ | ⟨slot, outcome⟩
  · have same : desk.settle caller = desk := by simp [Desk.settle, ready]
    rw [same]
    exact .idle ready
  · have same : desk.settle caller =
        (desk.close slot outcome).setCaller caller (.returned (share outcome)) := by
      simp [Desk.settle, ready]
    obtain ⟨key, settled⟩ := outcomeAt_eq_some.mp (coherent.ready ready).1
    rw [same]
    rcases close_cases desk slot outcome with ⟨closed, elsewhere⟩ | ⟨entry, here, pending, closed⟩
    · rw [closed]
      exact .late ready settled (elsewhere _ settled)
    · obtain rfl : entry = { key, outcome := some outcome } :=
        Option.some.inj (here.symm.trans settled)
      rw [closed]
      exact .close ready settled pending

theorem drop_holder {caller slot : Nat} {state : Caller α}
    (here : desk.callers[caller]? = some state) (holds : state.holds slot = true) :
    desk.drop caller = (desk.setCaller caller .dropped).handOver slot := by
  rcases (Caller.holds_iff state slot).mp holds with rfl | ⟨found, rfl⟩ <;> simp [drop, here]

theorem waiting_setCaller {caller slot other : Nat} {state : Caller α}
    (here : desk.callers[caller]? = some state) (holds : state.holds slot = true) :
    (desk.setCaller caller .dropped).callers[other]? = some (.waiting slot) ↔
      desk.callers[other]? = some (.waiting slot) := by
  constructor
  · intro waits
    rcases (getElem?_set_iff ..).mp waits with ⟨_, _, same⟩ | ⟨_, waits⟩
    · cases same
    · exact waits
  · intro waits
    refine (getElem?_set_iff ..).mpr (.inr ⟨?_, waits⟩)
    rintro rfl
    rw [here] at waits
    cases waits
    simp [Caller.holds] at holds

theorem change_drop (search : String → Nat → Ranked α) (desk : Desk α) (caller : Nat) :
    Change search desk (.drop caller) (desk.drop caller) := by
  by_cases waits : ∃ slot, desk.callers[caller]? = some (.waiting slot)
  · obtain ⟨slot, waits⟩ := waits
    have same : desk.drop caller = desk.setCaller caller .dropped := by simp [drop, waits]
    rw [same]
    exact .leave waits
  by_cases holder : ∃ slot state, desk.callers[caller]? = some state ∧ state.holds slot = true
  · obtain ⟨slot, state, here, holds⟩ := holder
    rw [drop_holder here holds]
    rcases handOver_cases (desk.setCaller caller .dropped) slot with
      ⟨same, nobody⟩ | ⟨next, waits, same⟩
    · rw [same]
      exact .desert here holds fun other waits => nobody other ((waiting_setCaller here holds).mpr waits)
    · rw [same]
      exact .handOver here holds ((waiting_setCaller here holds).mp waits)
  · have same : desk.drop caller = desk := by
      rcases drop_cases desk caller with same | ⟨slot, here, _⟩ | ⟨slot, state, here, holds, _⟩
      · exact same
      · exact absurd ⟨slot, here⟩ waits
      · exact absurd ⟨slot, state, here, holds⟩ holder
    rw [same]
    refine .idle ?_
    intro slot state here
    constructor
    · rintro rfl
      exact waits ⟨slot, here⟩
    · exact Bool.eq_false_iff.mpr fun holds => holder ⟨slot, state, here, holds⟩

theorem Coherent.change (coherent : desk.Coherent) (event : Event) :
    Change search desk event (desk.step search event) := by
  cases event with
  | call key => exact coherent.change_call key
  | start caller => exact coherent.change_start caller
  | reply caller answer => exact coherent.change_reply caller answer
  | settle caller => exact coherent.change_settle caller
  | drop caller => exact change_drop search desk caller

def Slot.Becomes (before later : Slot α) : Prop :=
  later.key = before.key ∧ ∀ outcome, before.outcome = some outcome → later.outcome = some outcome

theorem Slot.Becomes.refl (entry : Slot α) : Slot.Becomes entry entry :=
  ⟨rfl, fun _ => id⟩

theorem finish_becomes {caller place slot : Nat} {key : Key} {outcome : Outcome α}
    {entry : Slot α} (unsettled : desk.slots[place]? = some { key, outcome := none })
    (here : desk.slots[slot]? = some entry) :
    ∃ later, (desk.finish caller place outcome).slots[slot]? = some later ∧
      Slot.Becomes entry later := by
  by_cases same : slot = place
  · subst same
    obtain rfl : entry = { key, outcome := none } := Option.some.inj (here.symm.trans unsettled)
    exact ⟨{ key, outcome := some outcome }, (finish_slot ..).mpr (.inl ⟨rfl, none, here, rfl⟩),
      rfl, by simp⟩
  · exact ⟨entry, (finish_slot ..).mpr (.inr ⟨same, here⟩), .refl entry⟩

theorem Change.slot_becomes (change : Change search desk event after) {slot : Nat}
    {entry : Slot α} (here : desk.slots[slot]? = some entry) :
    ∃ later, after.slots[slot]? = some later ∧ Slot.Becomes entry later := by
  cases change with
  | openSlot _ _ => exact ⟨entry, (openSlot_slot ..).mpr (.inl here), .refl entry⟩
  | spare _ unsettled _ => exact finish_becomes unsettled here
  | answer _ unsettled => exact finish_becomes unsettled here
  | _ => exact ⟨entry, here, .refl entry⟩

theorem Coherent.slot_becomes (coherent : desk.Coherent) (search : String → Nat → Ranked α)
    (events : List Event) {slot : Nat} {entry : Slot α} (here : desk.slots[slot]? = some entry) :
    ∃ later, (desk.run search events).slots[slot]? = some later ∧ Slot.Becomes entry later := by
  induction events generalizing desk entry with
  | nil => exact ⟨entry, here, .refl entry⟩
  | cons event events ih =>
    obtain ⟨next, there, key, outcome⟩ := (coherent.change event).slot_becomes here
    obtain ⟨later, found, laterKey, laterOutcome⟩ := ih (coherent.step search event) there
    exact ⟨later, found, laterKey.trans key,
      fun known settled => laterOutcome known (outcome known settled)⟩

theorem caller_set {caller : Nat} {before : Caller α} (here : desk.callers[caller]? = some before)
    (state : Caller α) : (desk.setCaller caller state).callers[caller]? = some state :=
  (getElem?_set_iff ..).mpr (.inl ⟨rfl, (List.getElem?_eq_some_iff.mp here).1, rfl⟩)

theorem caller_finish {caller place : Nat} {before : Caller α}
    (here : desk.callers[caller]? = some before) (outcome : Outcome α) :
    (desk.finish caller place outcome).callers[caller]? = some (.answered place outcome) :=
  caller_set here _

theorem caller_setCaller {caller other : Nat} {before found : Caller α}
    (here : desk.callers[caller]? = some before) (there : desk.callers[other]? = some found)
    (differ : found ≠ before) (state : Caller α) :
    (desk.setCaller caller state).callers[other]? = some found := by
  refine (getElem?_set_iff ..).mpr (.inr ⟨?_, there⟩)
  rintro rfl
  exact differ (Option.some.inj (there.symm.trans here))

theorem caller_addCaller {other : Nat} {found : Caller α}
    (there : desk.callers[other]? = some found) (state : Caller α) :
    (desk.addCaller state).callers[other]? = some found :=
  (getElem?_concat_iff ..).mpr (.inl there)

theorem isHeld_addCaller {slot : Nat} (held : desk.isHeld slot = true) (state : Caller α) :
    (desk.addCaller state).isHeld slot = true := by
  obtain ⟨holder, found, there, holds⟩ := (isHeld_iff desk slot).mp held
  exact (isHeld_iff ..).mpr ⟨holder, found, caller_addCaller there state, holds⟩

theorem isHeld_setCaller {caller slot : Nat} {before state : Caller α}
    (held : desk.isHeld slot = true) (here : desk.callers[caller]? = some before)
    (keeps : before.holds slot = true → state.holds slot = true) :
    (desk.setCaller caller state).isHeld slot = true := by
  obtain ⟨holder, found, there, holds⟩ := (isHeld_iff desk slot).mp held
  rw [isHeld_iff]
  by_cases same : holder = caller
  · subst same
    obtain rfl : found = before := Option.some.inj (there.symm.trans here)
    exact ⟨holder, state, caller_set here state, keeps holds⟩
  · exact ⟨holder, found, (getElem?_set_iff ..).mpr (.inr ⟨same, there⟩), holds⟩

inductive Turns (search : String → Nat → Ranked α) (desk : Desk α) :
    Event → Nat → Caller α → Prop where
  | hit {key : Key} {ranked : Ranked α} (found : desk.done.lookup key = some ranked) :
      Turns search desk (.call key) desk.callers.length (.returned (.ok ranked))
  | join {key : Key} {slot : Nat} {state : Caller α} (miss : desk.done.lookup key = none)
      (pending : desk.pending.lookup key = some slot) (joins : Joins desk slot state) :
      Turns search desk (.call key) desk.callers.length state
  | openSlot {key : Key} (miss : desk.done.lookup key = none)
      (absent : desk.pending.lookup key = none) :
      Turns search desk (.call key) desk.callers.length (.chosen desk.slots.length)
  | ask {caller slot : Nat} {key : Key} (chosen : desk.callers[caller]? = some (.chosen slot))
      (unsettled : desk.slots[slot]? = some { key, outcome := none })
      (available : candidates search key ≠ []) :
      Turns search desk (.start caller) caller (.asking slot (candidates search key))
  | answer {event : Event} {caller slot : Nat} {before : Caller α} {outcome : Outcome α}
      (here : desk.callers[caller]? = some before) (holds : before.holds slot = true) :
      Turns search desk event caller (.answered slot outcome)
  | settle {caller slot : Nat} {outcome : Outcome α}
      (ready : desk.ready? caller = some (slot, outcome)) :
      Turns search desk (.settle caller) caller (.returned (share outcome))
  | drop (caller : Nat) : Turns search desk (.drop caller) caller .dropped
  | handOver {holder next slot : Nat} (waits : desk.callers[next]? = some (.waiting slot)) :
      Turns search desk (.drop holder) next (.chosen slot)

theorem turned_addCaller {caller : Nat} {state found : Caller α}
    (there : (desk.addCaller state).callers[caller]? = some found)
    (turns : Turns search desk event desk.callers.length state) :
    desk.callers[caller]? = some found ∨ Turns search desk event caller found := by
  rcases (getElem?_concat_iff ..).mp there with there | ⟨rfl, rfl⟩
  · exact .inl there
  · exact .inr turns

theorem turned_setCaller {caller other : Nat} {state found : Caller α}
    (there : (desk.setCaller other state).callers[caller]? = some found)
    (turns : Turns search desk event other state) :
    desk.callers[caller]? = some found ∨ Turns search desk event caller found := by
  rcases (getElem?_set_iff ..).mp there with ⟨rfl, _, rfl⟩ | ⟨_, there⟩
  · exact .inr turns
  · exact .inl there

theorem Change.turned (change : Change search desk event after) {caller : Nat} {found : Caller α}
    (there : after.callers[caller]? = some found) :
    desk.callers[caller]? = some found ∨ Turns search desk event caller found := by
  cases change with
  | hit kept => exact turned_addCaller there (.hit kept)
  | join miss pending joins => exact turned_addCaller there (.join miss pending joins)
  | openSlot miss absent => exact turned_addCaller there (.openSlot miss absent)
  | ask chosen unsettled available =>
    exact turned_setCaller there (.ask chosen unsettled available)
  | spare chosen _ _ => exact turned_setCaller there (.answer chosen (by simp [Caller.holds]))
  | answer asking _ => exact turned_setCaller there (.answer asking (by simp [Caller.holds]))
  | close ready _ _ => exact turned_setCaller there (.settle ready)
  | late ready _ _ => exact turned_setCaller there (.settle ready)
  | leave _ => exact turned_setCaller there (.drop _)
  | desert _ _ _ => exact turned_setCaller there (.drop _)
  | handOver _ _ waits =>
    rcases (getElem?_set_iff ..).mp there with ⟨rfl, _, rfl⟩ | ⟨_, there⟩
    · exact .inr (.handOver waits)
    · exact turned_setCaller there (.drop _)
  | idle _ => exact .inl there

theorem Change.asking_before (change : Change search desk event after) {caller slot : Nat}
    {found : Ranked α} (there : after.callers[caller]? = some (.asking slot found)) :
    desk.callers[caller]? = some (.asking slot found) ∨
    (event = .start caller ∧ desk.callers[caller]? = some (.chosen slot) ∧
      ∃ key, desk.slots[slot]? = some { key, outcome := none } ∧ candidates search key ≠ []) := by
  rcases change.turned there with before | turns
  · exact .inl before
  · cases turns with
    | join _ _ joins => cases joins
    | ask chosen unsettled available => exact .inr ⟨rfl, chosen, _, unsettled, available⟩

theorem Change.chosen_before (change : Change search desk event after) {caller slot : Nat}
    (there : after.callers[caller]? = some (.chosen slot)) :
    desk.callers[caller]? = some (.chosen slot) ∨ slot = desk.slots.length ∨
    (∃ key, (key, slot) ∈ desk.pending ∧ Joins desk slot (.chosen slot)) ∨
    ∃ holder, event = .drop holder := by
  rcases change.turned there with before | turns
  · exact .inl before
  · cases turns with
    | join _ pending joins =>
      cases joins with
      | chosen unsettled free =>
        exact .inr (.inr (.inl ⟨_, mem_of_lookup pending, .chosen unsettled free⟩))
    | openSlot _ _ => exact .inr (.inl rfl)
    | handOver _ => exact .inr (.inr (.inr ⟨_, rfl⟩))

theorem finish_settled_before {caller place slot : Nat} {key known : Key}
    {outcome settled : Outcome α} (unsettled : desk.slots[place]? = some { key, outcome := none })
    (there : (desk.finish caller place outcome).slots[slot]? =
      some { key := known, outcome := some settled }) :
    desk.slots[slot]? = some { key := known, outcome := some settled } ∨
    (slot = place ∧ known = key ∧ settled = outcome) := by
  rcases (finish_slot ..).mp there with ⟨rfl, _, here, same⟩ | ⟨_, there⟩
  · rw [unsettled] at here
    cases here
    exact .inr ⟨rfl, rfl, Option.some.inj same⟩
  · exact .inl there

theorem Change.settled_before (change : Change search desk event after) {slot : Nat} {key : Key}
    {outcome : Outcome α} (there : after.slots[slot]? = some { key, outcome := some outcome }) :
    desk.slots[slot]? = some { key, outcome := some outcome } ∨
    (candidates search key = [] ∧ outcome = .ok []) ∨
    ∃ (caller : Nat) (found : Ranked α), desk.callers[caller]? = some (.asking slot found) := by
  cases change with
  | openSlot _ _ =>
    rcases (openSlot_slot ..).mp there with there | ⟨_, same⟩
    · exact .inl there
    · cases same
  | spare _ unsettled nothing =>
    rcases finish_settled_before unsettled there with there | ⟨_, rfl, rfl⟩
    · exact .inl there
    · exact .inr (.inl ⟨nothing, rfl⟩)
  | answer asking unsettled =>
    rcases finish_settled_before unsettled there with there | ⟨rfl, _, _⟩
    · exact .inl there
    · exact .inr (.inr ⟨_, _, asking⟩)
  | _ => exact .inl there

def noted {β : Type} (note : Desk α → Event → Option β) (search : String → Nat → Ranked α)
    (desk : Desk α) : List Event → List β
  | [] => []
  | event :: events => (note desk event).toList ++ (desk.step search event).noted note search events

section Notes

variable {β : Type} {note : Desk α → Event → Option β}

theorem run_cons (search : String → Nat → Ranked α) (desk : Desk α) (event : Event)
    (events : List Event) :
    desk.run search (event :: events) = (desk.step search event).run search events :=
  rfl

theorem noted_append (desk : Desk α) (events later : List Event) :
    desk.noted note search (events ++ later) =
      desk.noted note search events ++ (desk.run search events).noted note search later := by
  induction events generalizing desk with
  | nil => rfl
  | cons event events ih => simp [noted, run_cons, ih]

theorem mem_noted {desk : Desk α} {events : List Event} {item : β} :
    item ∈ desk.noted note search events ↔
      ∃ earlier event later, events = earlier ++ event :: later ∧
        note (desk.run search earlier) event = some item := by
  induction events generalizing desk with
  | nil => simp [noted]
  | cons event events ih =>
    simp only [noted, List.mem_append, Option.mem_toList, ih]
    constructor
    · rintro (first | ⟨earlier, other, later, rfl, there⟩)
      · exact ⟨[], event, events, rfl, first⟩
      · exact ⟨event :: earlier, other, later, rfl, there⟩
    · rintro ⟨earlier, other, later, split, there⟩
      cases earlier with
      | nil =>
        cases split
        exact .inl there
      | cons first earlier =>
        cases split
        exact .inr ⟨earlier, other, later, rfl, there⟩

-- What every change of a coherent desk keeps of a history of notes and a desk, a run keeps.
theorem Coherent.noted_run (Holds : List β → Desk α → Prop) (coherent : desk.Coherent)
    {history : List β} (events : List Event)
    (change : ∀ (history : List β) (desk after : Desk α) (event : Event), event ∈ events →
      desk.Coherent → Change search desk event after → Holds history desk →
      Holds (history ++ (note desk event).toList) after)
    (holds : Holds history desk) :
    Holds (history ++ desk.noted note search events) (desk.run search events) := by
  -- Notes are added at the end, so the induction is over any history before them.
  induction events generalizing desk history with
  | nil => simpa [noted, Desk.run] using holds
  | cons event events ih =>
    have next := change history desk _ event List.mem_cons_self coherent (coherent.change event) holds
    have rest := ih (coherent.step search event)
      (fun history desk after other member => change history desk after other
        (List.mem_cons_of_mem _ member)) next
    rwa [List.append_assoc] at rest

end Notes

end SymbolSearch.Ranking.Desk
