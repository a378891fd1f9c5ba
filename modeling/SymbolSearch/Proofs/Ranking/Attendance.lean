import SymbolSearch.Proofs.Ranking.Changes

set_option autoImplicit false

/-!
Who attends to the slots that are pending. A slot is deserted when the caller that holds it is
dropped and nobody waits there: it stays pending, though no request of it is under way and no caller
is there to make one. No other step leaves a pending slot without a caller.
-/

namespace SymbolSearch.Ranking

variable {α : Type}

def Caller.held? : Caller α → Option Nat
  | chosen slot => some slot
  | asking slot _ => some slot
  | _ => none

theorem Caller.held?_eq_some {state : Caller α} {slot : Nat} :
    state.held? = some slot ↔ state.holds slot = true := by
  cases state <;> simp [held?, holds]

theorem Caller.slot?_of_holds {state : Caller α} {slot : Nat} (holds : state.holds slot = true) :
    state.slot? = some slot := by
  cases state <;> simp_all [Caller.holds, slot?]

namespace Desk

-- The slot that a step deserts: its holder is dropped, and no caller waits to take its place.
def deserted? (desk : Desk α) : Event → Option Nat
  | .drop caller =>
    (desk.callers[caller]?.bind Caller.held?).filter fun slot =>
      !desk.callers.any (Caller.waitsAt slot)
  | _ => none

-- A pending slot with an outcome has a caller that is about to settle it, and one without has a
-- caller that holds it, unless it has been deserted.
structure Attending (deserted : List Nat) (desk : Desk α) : Prop where
  settled_answered : ∀ (key : Key) (slot : Nat) (outcome : Outcome α),
    (key, slot) ∈ desk.pending → desk.slots[slot]? = some { key, outcome := some outcome } →
    ∃ caller : Nat, desk.callers[caller]? = some (.answered slot outcome)
  open_held : ∀ (key : Key) (slot : Nat), desk.slots[slot]? = some { key, outcome := none } →
    desk.isHeld slot = true ∨ slot ∈ deserted

def Attended (keys : List Key) (desk : Desk α) : Prop :=
  ∀ key slot, (key, slot) ∈ desk.pending →
    ∃ (caller : Nat) (state : Caller α), keys[caller]? = some key ∧
      desk.callers[caller]? = some state ∧ state.slot? = some slot

variable {search : String → Nat → Ranked α} {desk after : Desk α} {event : Event}
  {deserted : List Nat}

theorem deserted?_eq_some {slot : Nat} :
    desk.deserted? event = some slot ↔
      ∃ (caller : Nat) (state : Caller α), event = .drop caller ∧
        desk.callers[caller]? = some state ∧ state.holds slot = true ∧
        ∀ other : Nat, desk.callers[other]? ≠ some (.waiting slot) := by
  have nobody : (!desk.callers.any (Caller.waitsAt slot)) = true ↔
      ∀ other : Nat, desk.callers[other]? ≠ some (.waiting slot) := by
    simp only [Bool.not_eq_true', List.any_eq_false, Caller.waitsAt_iff]
    constructor
    · intro absent other waits
      exact absent _ (List.mem_of_getElem? waits) rfl
    · intro absent state member same
      obtain ⟨other, there⟩ := List.mem_iff_getElem?.mp member
      exact absent other (same ▸ there)
  cases event with
  | drop caller =>
    simp only [deserted?, Option.filter_eq_some_iff, Option.bind_eq_some_iff,
      Caller.held?_eq_some, nobody, Event.drop.injEq]
    constructor
    · intro ⟨⟨state, here, holds⟩, absent⟩
      exact ⟨caller, state, rfl, here, holds, absent⟩
    · intro ⟨_, state, same, here, holds, absent⟩
      exact ⟨⟨state, same ▸ here, holds⟩, absent⟩
  | _ => simp [deserted?]

theorem Attending.mono (attending : desk.Attending deserted) (more : List Nat) :
    desk.Attending (deserted ++ more) where
  settled_answered := attending.settled_answered
  open_held := fun key slot unsettled =>
    (attending.open_held key slot unsettled).imp_right (List.mem_append_left more)

theorem Attending.addCaller (attending : desk.Attending deserted) (state : Caller α) :
    (desk.addCaller state).Attending deserted where
  settled_answered := by
    intro key slot outcome pending settled
    obtain ⟨caller, there⟩ := attending.settled_answered key slot outcome pending settled
    exact ⟨caller, caller_addCaller there state⟩
  open_held := by
    intro key slot unsettled
    exact (attending.open_held key slot unsettled).imp_left fun held => isHeld_addCaller held state

theorem Attending.openSlot (attending : desk.Attending deserted) (key : Key) :
    ((desk.openSlot key).addCaller (.chosen desk.slots.length)).Attending deserted where
  settled_answered := by
    intro other slot outcome pending settled
    rcases (openSlot_slot ..).mp settled with settled | ⟨_, same⟩
    · rcases List.mem_cons.mp pending with same | pending
      · cases same
        simp at settled
      · obtain ⟨caller, there⟩ := attending.settled_answered other slot outcome pending settled
        exact ⟨caller, (getElem?_concat_iff ..).mpr (.inl there)⟩
    · cases same
  open_held := by
    intro other slot unsettled
    rcases (openSlot_slot ..).mp unsettled with unsettled | ⟨rfl, _⟩
    · exact (attending.open_held other slot unsettled).imp_left fun held =>
        isHeld_addCaller held _
    · left
      rw [isHeld_iff]
      exact ⟨desk.callers.length, _, (getElem?_concat_iff ..).mpr (.inr ⟨rfl, rfl⟩),
        by simp [Caller.holds]⟩

theorem Attending.setCaller (attending : desk.Attending deserted) {caller : Nat}
    {before state : Caller α} (here : desk.callers[caller]? = some before)
    (notSettling : ∀ key slot outcome, (key, slot) ∈ desk.pending →
      desk.slots[slot]? = some { key, outcome := some outcome } → before ≠ .answered slot outcome)
    (keeps : ∀ slot, before.holds slot = true → state.holds slot = true ∨ slot ∈ deserted) :
    (desk.setCaller caller state).Attending deserted where
  settled_answered := by
    intro key slot outcome pending settled
    obtain ⟨other, there⟩ := attending.settled_answered key slot outcome pending settled
    have differ := (notSettling key slot outcome pending settled).symm
    exact ⟨other, caller_setCaller here there differ state⟩
  open_held := by
    intro key slot unsettled
    rcases attending.open_held key slot unsettled with held | left
    · by_cases lost : before.holds slot = true
      · exact (keeps slot lost).imp_left fun holds => isHeld_setCaller held here fun _ => holds
      · exact .inl (isHeld_setCaller held here fun holds => absurd holds lost)
    · exact .inr left

theorem Attending.finish (attending : desk.Attending deserted) {caller place : Nat} {key : Key}
    {before : Caller α} (here : desk.callers[caller]? = some before)
    (holds : before.holds place = true)
    (unsettled : desk.slots[place]? = some { key, outcome := none }) (outcome : Outcome α) :
    (desk.finish caller place outcome).Attending deserted where
  settled_answered := by
    intro other slot known pending settled
    rcases (finish_slot ..).mp settled with ⟨rfl, _, _, same⟩ | ⟨_, settled⟩
    · cases same
      exact ⟨caller, caller_set here _⟩
    · obtain ⟨answered, there⟩ := attending.settled_answered other slot known pending settled
      have differ : Caller.answered slot known ≠ before := by
        rintro rfl
        simp [Caller.holds] at holds
      exact ⟨answered, caller_setCaller here there differ _⟩
  open_held := by
    intro other slot open'
    rcases (finish_slot ..).mp open' with ⟨_, _, _, same⟩ | ⟨notPlace, open'⟩
    · cases same
    · -- The caller lets go of the slot that it has finished, and of no other.
      refine (attending.open_held other slot open').imp_left fun held => ?_
      refine isHeld_setCaller held here fun holdsSlot => ?_
      exact absurd (Caller.holds_unique holdsSlot holds) notPlace

theorem Attending.closed (attending : desk.Attending deserted) (key : Key) (outcome : Outcome α) :
    (desk.closed key outcome).Attending deserted where
  settled_answered := fun other slot known pending =>
    attending.settled_answered other slot known ((mem_forget _).mp pending).1
  open_held := attending.open_held

theorem Attending.retaken {slot : Nat} (attending : desk.Attending (deserted ++ [slot]))
    (held : desk.isHeld slot = true) : desk.Attending deserted where
  settled_answered := attending.settled_answered
  open_held := by
    intro key other unsettled
    rcases attending.open_held key other unsettled with held | left
    · exact .inl held
    · rcases List.mem_append.mp left with left | last
      · exact .inr left
      · rw [List.mem_singleton.mp last]
        exact .inl held

theorem Attending.vacated (attending : desk.Attending deserted) {caller slot : Nat}
    {before : Caller α} (here : desk.callers[caller]? = some before)
    (holds : before.holds slot = true) :
    (desk.setCaller caller .dropped).Attending (deserted ++ [slot]) := by
  refine (attending.mono [slot]).setCaller here ?_ ?_
  · rintro _ _ _ _ _ rfl
    simp [Caller.holds] at holds
  · intro other holdsOther
    simp [Caller.holds_unique holdsOther holds]

theorem Attending.settled (attending : desk.Attending deserted) {caller slot : Nat} {key : Key}
    {outcome : Outcome α} (ready : desk.ready? caller = some (slot, outcome))
    (settled : desk.slots[slot]? = some { key, outcome := some outcome })
    (gone : (key, slot) ∉ desk.pending) :
    (desk.setCaller caller (.returned (share outcome))).Attending deserted := by
  obtain ⟨before, here, atSlot, free⟩ := ready_state ready
  refine attending.setCaller here ?_ (by simp [free])
  -- The only slot that the caller can settle is not pending.
  rintro other place known pending there rfl
  obtain rfl : place = slot := Option.some.inj atSlot
  rw [settled] at there
  cases there
  exact gone pending

theorem Attending.change (attending : desk.Attending deserted) (coherent : desk.Coherent)
    (change : Change search desk event after) :
    after.Attending (deserted ++ (desk.deserted? event).toList) := by
  cases change with
  | @hit key ranked _ =>
    have used : { desk with done := (key, ranked) :: forget key desk.done }.Attending deserted :=
      ⟨attending.settled_answered, attending.open_held⟩
    exact (used.addCaller _).mono _
  | join _ _ _ => exact (attending.addCaller _).mono _
  | openSlot _ _ => exact (attending.openSlot _).mono _
  | ask chosen _ _ =>
    refine (attending.setCaller chosen (by simp) ?_).mono _
    exact fun slot holds => .inl (by simpa [Caller.holds] using holds)
  | spare chosen unsettled _ =>
    exact (attending.finish chosen (by simp [Caller.holds]) unsettled _).mono _
  | answer asking unsettled =>
    exact (attending.finish asking (by simp [Caller.holds]) unsettled _).mono _
  | @close _ slot key outcome ready settled _ =>
    have gone : (key, slot) ∉ (desk.closed key outcome).pending :=
      fun listed => ((mem_forget _).mp listed).2 rfl
    exact ((attending.closed key outcome).settled ready settled gone).mono _
  | late ready settled elsewhere =>
    have gone := fun listed => elsewhere (coherent.books.pending_distinct.lookup listed)
    exact (attending.settled ready settled gone).mono _
  | leave waits => exact (attending.setCaller waits (by simp) (by simp [Caller.holds])).mono _
  | desert here holds nobody =>
    have left : desk.deserted? (.drop _) = some _ :=
      deserted?_eq_some.mpr ⟨_, _, rfl, here, holds, nobody⟩
    rw [left]
    exact attending.vacated here holds
  | @handOver caller next slot state here holds waits =>
    have differ : Caller.waiting slot ≠ state := by
      rintro rfl
      simp [Caller.holds] at holds
    have waits := caller_setCaller here waits differ .dropped
    have handed : ((desk.setCaller caller .dropped).setCaller next (.chosen slot)).Attending
        (deserted ++ [slot]) :=
      (attending.vacated here holds).setCaller waits (by simp) (by simp [Caller.holds])
    refine (handed.retaken ?_).mono _
    exact (isHeld_iff ..).mpr ⟨next, _, caller_set waits _, by simp [Caller.holds]⟩
  | idle _ => exact attending.mono _

theorem Attending.empty (capacity : Option Nat) : (Desk.empty capacity : Desk α).Attending [] := by
  constructor <;> simp [Desk.empty]

theorem run_attending (search : String → Nat → Ranked α) (capacity : Option Nat)
    (events : List Event) :
    ((Desk.empty capacity).run search events).Attending
      ((Desk.empty capacity).noted deserted? search events) :=
  (Coherent.empty capacity).noted_run Attending events
    (fun _ _ _ _ _ coherent change attending => attending.change coherent change)
    (Attending.empty capacity)

theorem Recorded.caller_asked {keys : List Key} {successes : List Success}
    (recorded : Recorded search keys successes desk) {caller slot : Nat} {state : Caller α}
    {key : Key} {outcome : Option (Outcome α)} (here : desk.callers[caller]? = some state)
    (slotHere : state.slot? = some slot) (there : desk.slots[slot]? = some { key, outcome }) :
    keys[caller]? = some key := by
  have inside : caller < keys.length := by
    rw [← recorded.callers_length]
    exact (List.getElem?_eq_some_iff.mp here).1
  have asked := List.getElem?_eq_getElem inside
  obtain ⟨_, atKey⟩ := recorded.caller_key caller slot state _ here slotHere asked
  rw [there] at atKey
  cases atKey
  exact asked

theorem Attending.attended {keys : List Key} {successes : List Success}
    (attending : desk.Attending deserted) (coherent : desk.Coherent)
    (recorded : Recorded search keys successes desk) {key : Key} {slot : Nat}
    (pending : (key, slot) ∈ desk.pending) :
    (∃ (caller : Nat) (state : Caller α), keys[caller]? = some key ∧
      desk.callers[caller]? = some state ∧ state.slot? = some slot) ∨
    (slot ∈ deserted ∧ desk.outcomeAt slot = none) := by
  obtain ⟨outcome, there⟩ := coherent.books.pending_slot key slot pending
  cases outcome with
  | some outcome =>
    obtain ⟨caller, answered⟩ := attending.settled_answered key slot outcome pending there
    exact .inl ⟨caller, _, recorded.caller_asked answered rfl there, answered, rfl⟩
  | none =>
    rcases attending.open_held key slot there with held | left
    · obtain ⟨holder, state, here, holds⟩ := (isHeld_iff desk slot).mp held
      have atSlot := Caller.slot?_of_holds holds
      exact .inl ⟨holder, state, recorded.caller_asked here atSlot there, here, atSlot⟩
    · exact .inr ⟨left, by simp [outcomeAt, there]⟩

theorem Coherent.unattended (coherent : desk.Coherent) (search : String → Nat → Ranked α)
    {slot : Nat} (left : desk.deserted? event = some slot) :
    ∃ key, (key, slot) ∈ (desk.step search event).pending ∧
      ∀ (caller : Nat) (state : Caller α),
        (desk.step search event).callers[caller]? = some state → state.slot? ≠ some slot := by
  obtain ⟨holder, before, rfl, here, holds, nobody⟩ := deserted?_eq_some.mp left
  obtain ⟨key, unsettled⟩ := (coherent.seating.placed holder before here).holds holds
  have same : desk.step search (.drop holder) = desk.setCaller holder .dropped := by
    rcases handOver_cases (desk.setCaller holder .dropped) slot with
      ⟨same, _⟩ | ⟨next, waits, _⟩
    · exact (drop_holder here holds).trans same
    · exact absurd ((waiting_setCaller here holds).mp waits) (nobody next)
  rw [same]
  refine ⟨key, coherent.books.open_pending key slot unsettled, ?_⟩
  intro caller state there atSlot
  rcases (getElem?_set_iff ..).mp there with ⟨_, _, rfl⟩ | ⟨other, there⟩
  · cases atSlot
  have placed := coherent.seating.placed caller state there
  cases state with
  | waiting _ =>
    cases atSlot
    exact nobody caller there
  | chosen _ =>
    cases atSlot
    exact other (coherent.seating.one_holder slot caller holder _ _ there here
      (by simp [Caller.holds]) holds)
  | asking _ _ =>
    cases atSlot
    exact other (coherent.seating.one_holder slot caller holder _ _ there here
      (by simp [Caller.holds]) holds)
  | answered _ outcome =>
    cases atSlot
    simp [Placed, outcomeAt, unsettled] at placed
  | returned _ => cases atSlot
  | dropped => cases atSlot

/-- Every pending key has a call outstanding in all states of a run exactly if no step of the run
deserts a slot. What else is pending is a deserted slot without outcome. -/
theorem pending_attended_iff_no_desertion (search : String → Nat → Ranked α)
    (capacity : Option Nat) (events : List Event) :
    let start : Desk α := .empty capacity
    let desk := start.run search events
    let deserted := start.noted deserted? search events
    ((∀ earlier, earlier <+: events → (start.run search earlier).Attended (keysOf earlier)) ↔
      deserted = []) ∧
    (∀ key slot, (key, slot) ∈ desk.pending →
      (∃ (caller : Nat) (state : Caller α), (keysOf events)[caller]? = some key ∧
        desk.callers[caller]? = some state ∧ state.slot? = some slot) ∨
      (slot ∈ deserted ∧ desk.outcomeAt slot = none)) ∧
    (deserted = [] → (∀ state ∈ desk.callers, state.slot? = none) → desk.pending = []) := by
  intro start desk deserted
  have attended (earlier : List Event) {key : Key} {slot : Nat}
      (pending : (key, slot) ∈ (start.run search earlier).pending) :=
    (run_attending search capacity earlier).attended ((Coherent.empty capacity).run search earlier)
      ((Recorded.empty capacity).run (.empty capacity) earlier) pending
  refine ⟨⟨?_, ?_⟩, fun key slot pending => attended events pending, ?_⟩
  · intro always
    rw [List.eq_nil_iff_forall_not_mem]
    intro slot member
    obtain ⟨earlier, event, later, rfl, left⟩ := mem_noted.mp member
    have coherent := (Coherent.empty capacity).run search earlier
    obtain ⟨key, pending, nobody⟩ := coherent.unattended search left
    have next : start.run search (earlier ++ [event]) =
        (start.run search earlier).step search event :=
      run_append search start earlier [event]
    rw [← next] at pending nobody
    obtain ⟨caller, state, _, here, atSlot⟩ := always (earlier ++ [event]) (by simp) key slot pending
    exact nobody caller state here atSlot
  · intro none earlier before key slot pending
    obtain ⟨later, rfl⟩ := before
    have noneBefore : start.noted deserted? search earlier = [] := by
      have all := none
      simp only [deserted, noted_append, List.append_eq_nil_iff] at all
      exact all.1
    rcases attended earlier pending with present | ⟨left, _⟩
    · exact present
    · rw [noneBefore] at left
      cases left
  · intro none quiet
    rw [List.eq_nil_iff_forall_not_mem]
    rintro ⟨key, slot⟩ pending
    rcases attended events pending with ⟨caller, state, _, here, atSlot⟩ | ⟨left, _⟩
    · rw [quiet state (List.mem_of_getElem? here)] at atSlot
      cases atSlot
    · rw [show start.noted deserted? search events = [] from none] at left
      cases left

def userKey : Key :=
  { query := "user", limit := 2 }

def authKey : Key :=
  { query := "auth", limit := 2 }

def oneCandidate : String → Nat → Ranked Nat :=
  fun _ _ => [{ element := { (default : Element) with id := "a", name := "user" }, score := 0 }]

/-- The only caller of a key is dropped while its request is under way. -/
theorem dropped_alone_leaves_key_pending :
    let desk := (Desk.empty none).run oneCandidate [.call userKey, .start 0, .drop 0]
    desk.pending = [(userKey, 0)] ∧ ∀ state ∈ desk.callers, state.slot? = none := by
  intro desk
  have callers : desk.callers = [.dropped] := rfl
  refine ⟨rfl, ?_⟩
  rw [callers]
  intro state member
  rw [List.mem_singleton.mp member]
  rfl

end Desk

end SymbolSearch.Ranking
