import SymbolSearch.Proofs.Ranking.Steps

set_option autoImplicit false

namespace SymbolSearch.Ranking.Desk

variable {α : Type}

def Placed (desk : Desk α) : Caller α → Prop
  | .waiting slot => slot < desk.slots.length
  | .chosen slot => ∃ key, desk.slots[slot]? = some { key, outcome := none }
  | .asking slot _ => ∃ key, desk.slots[slot]? = some { key, outcome := none }
  | .answered slot outcome => desk.outcomeAt slot = some outcome
  | .returned _ => True
  | .dropped => True

def OneHolder (desk : Desk α) : Prop :=
  ∀ (slot first second : Nat) (state state' : Caller α),
    desk.callers[first]? = some state → desk.callers[second]? = some state' →
    state.holds slot = true → state'.holds slot = true → first = second

-- The callers of a desk: a slot is held by one of them at most, and by one if others wait.
structure Seating (desk : Desk α) : Prop where
  placed : ∀ (caller : Nat) (state : Caller α), desk.callers[caller]? = some state →
    desk.Placed state
  one_holder : desk.OneHolder
  attended : ∀ caller slot : Nat, desk.callers[caller]? = some (.waiting slot) →
    desk.outcomeAt slot = none → desk.isHeld slot = true

variable {desk : Desk α}

theorem Placed.holds {state : Caller α} {slot : Nat} (placed : desk.Placed state)
    (holds : state.holds slot = true) :
    ∃ key, desk.slots[slot]? = some { key, outcome := none } := by
  rcases (Caller.holds_iff state slot).mp holds with rfl | ⟨found, rfl⟩
  · exact placed
  · exact placed

theorem Seating.of_eq {other : Desk α} (seating : desk.Seating)
    (callers : other.callers = desk.callers) (slots : other.slots = desk.slots) :
    other.Seating := by
  obtain ⟨_, _, _, otherSlots, otherCallers⟩ := other
  subst callers slots
  exact ⟨seating.placed, seating.one_holder, seating.attended⟩

theorem Seating.empty (capacity : Option Nat) : (Desk.empty capacity : Desk α).Seating := by
  constructor <;> simp [Desk.empty, OneHolder]

theorem Seating.openSlot (seating : desk.Seating) (key : Key) : (desk.openSlot key).Seating := by
  have kept {slot : Nat} {entry : Slot α} (here : desk.slots[slot]? = some entry) :
      (desk.openSlot key).slots[slot]? = some entry :=
    (openSlot_slot ..).mpr (.inl here)
  constructor
  · intro caller state here
    have placed := seating.placed caller state here
    cases state with
    | waiting slot => exact Nat.lt_of_lt_of_le placed (by simp [Desk.openSlot])
    | chosen slot => exact placed.imp fun _ => kept
    | asking slot _ => exact placed.imp fun _ => kept
    | answered slot outcome =>
      obtain ⟨found, settled⟩ := outcomeAt_eq_some.mp placed
      exact outcomeAt_eq_some.mpr ⟨found, kept settled⟩
    | returned _ => trivial
    | dropped => trivial
  · exact seating.one_holder
  · intro caller slot here unsettled
    apply seating.attended caller slot here
    have inside : slot < desk.slots.length := seating.placed caller _ here
    have same : (desk.openSlot key).slots[slot]? = desk.slots[slot]? :=
      List.getElem?_append_left inside
    rw [outcomeAt, same] at unsettled
    exact unsettled

theorem Seating.addCaller (seating : desk.Seating) {state : Caller α} (placed : desk.Placed state)
    (free : ∀ slot, state.holds slot = true → desk.isHeld slot = false)
    (attended : ∀ slot, state = .waiting slot → desk.outcomeAt slot = none →
      desk.isHeld slot = true) : (desk.addCaller state).Seating := by
  have unheld {caller slot : Nat} {other : Caller α} (here : desk.callers[caller]? = some other)
      (holds : other.holds slot = true) : state.holds slot = false := by
    have held := (isHeld_iff desk slot).mpr ⟨caller, other, here, holds⟩
    cases holdsToo : state.holds slot with
    | false => rfl
    | true => simp [free slot holdsToo] at held
  have stillHeld {slot : Nat} (held : desk.isHeld slot = true) :
      (desk.addCaller state).isHeld slot = true := by
    simp only [isHeld, Desk.addCaller, List.any_append] at held ⊢
    simp [held]
  constructor
  · intro caller other here
    rcases (getElem?_concat_iff ..).mp here with here | ⟨_, rfl⟩
    · exact seating.placed caller other here
    · exact placed
  · intro slot first second other other' here here' holds holds'
    rcases (getElem?_concat_iff ..).mp here with before | ⟨atEnd, rfl⟩ <;>
      rcases (getElem?_concat_iff ..).mp here' with before' | ⟨atEnd', rfl⟩
    · exact seating.one_holder slot first second other other' before before' holds holds'
    · simp [unheld before holds] at holds'
    · simp [unheld before' holds'] at holds
    · exact atEnd.trans atEnd'.symm
  · intro caller slot here unsettled
    rcases (getElem?_concat_iff ..).mp here with here | ⟨_, same⟩
    · exact stillHeld (seating.attended caller slot here unsettled)
    · exact stillHeld (attended slot same.symm unsettled)

theorem Seating.join (seating : desk.Seating) {slot : Nat} (inside : slot < desk.slots.length) :
    (desk.join slot).Seating := by
  obtain ⟨state, joins, same⟩ := join_cases desk slot
  rw [same]
  cases joins with
  | answered settled =>
    exact seating.addCaller settled (by simp [Caller.holds]) (by simp)
  | waiting unsettled held =>
    refine seating.addCaller inside (by simp [Caller.holds]) ?_
    rintro other same _
    cases same
    exact held
  | chosen unsettled free =>
    refine seating.addCaller ((outcomeAt_eq_none inside).mp unsettled) ?_ (by simp)
    intro other holds
    have same : slot = other := by simpa [Caller.holds] using holds
    exact same ▸ free

theorem Seating.setCaller (seating : desk.Seating) {caller : Nat} {before state : Caller α}
    (here : desk.callers[caller]? = some before) (placed : desk.Placed state)
    (sameHold : ∀ slot, state.holds slot = before.holds slot)
    (notWaiting : ∀ slot, state ≠ .waiting slot) : (desk.setCaller caller state).Seating := by
  constructor
  · intro other found there
    rcases (getElem?_set_iff ..).mp there with ⟨_, _, rfl⟩ | ⟨_, there⟩
    · exact placed
    · exact seating.placed other found there
  · -- Whoever holds a slot now held it before.
    have heldBefore {other slot : Nat} {found : Caller α}
        (there : (desk.setCaller caller state).callers[other]? = some found)
        (holds : found.holds slot = true) :
        ∃ held, desk.callers[other]? = some held ∧ held.holds slot = true := by
      rcases (getElem?_set_iff ..).mp there with ⟨rfl, _, rfl⟩ | ⟨_, there⟩
      · exact ⟨before, here, (sameHold slot) ▸ holds⟩
      · exact ⟨found, there, holds⟩
    intro slot first second found found' there there' holds holds'
    obtain ⟨held, there, holds⟩ := heldBefore there holds
    obtain ⟨held', there', holds'⟩ := heldBefore there' holds'
    exact seating.one_holder slot first second held held' there there' holds holds'
  · intro other slot there unsettled
    rcases (getElem?_set_iff ..).mp there with ⟨_, _, same⟩ | ⟨_, there⟩
    · exact absurd same.symm (notWaiting slot)
    · obtain ⟨holder, found, held, holds⟩ :=
        (isHeld_iff desk slot).mp (seating.attended other slot there unsettled)
      rw [isHeld_iff]
      by_cases same : holder = caller
      · subst same
        rw [here] at held
        cases held
        have inside := (List.getElem?_eq_some_iff.mp here).1
        exact ⟨holder, state, (getElem?_set_iff ..).mpr (.inl ⟨rfl, inside, rfl⟩),
          (sameHold slot).trans holds⟩
      · exact ⟨holder, found, (getElem?_set_iff ..).mpr (.inr ⟨same, held⟩), holds⟩

theorem Seating.finish (seating : desk.Seating) {caller place : Nat} {before : Caller α}
    (here : desk.callers[caller]? = some before) (holds : before.holds place = true)
    (outcome : Outcome α) : (desk.finish caller place outcome).Seating := by
  have placeOpen : ∃ key, desk.slots[place]? = some { key, outcome := none } :=
    (seating.placed caller before here).holds holds
  have outcomeHere : (desk.finish caller place outcome).outcomeAt place = some outcome := by
    obtain ⟨key, unsettled⟩ := placeOpen
    exact finish_outcomeAt unsettled caller outcome
  -- The slot that gets its outcome is held by this caller alone, so the others keep theirs.
  have stillOpen {other slot : Nat} {state : Caller α} (notCaller : other ≠ caller)
      (there : desk.callers[other]? = some state) (holdsSlot : state.holds slot = true) :
      ∃ key, (desk.finish caller place outcome).slots[slot]? = some { key, outcome := none } := by
    have notPlace : slot ≠ place := by
      rintro rfl
      exact notCaller (seating.one_holder slot other caller state before there here holdsSlot holds)
    rw [finish_slot_other desk caller outcome notPlace]
    exact (seating.placed other state there).holds holdsSlot
  constructor
  · intro other state there
    rcases (getElem?_set_iff ..).mp there with ⟨_, _, rfl⟩ | ⟨notCaller, there⟩
    · exact outcomeHere
    · have placed := seating.placed other state there
      cases state with
      | waiting slot => simpa [Placed, Desk.finish] using placed
      | chosen slot => exact stillOpen notCaller there (by simp [Caller.holds])
      | asking slot _ => exact stillOpen notCaller there (by simp [Caller.holds])
      | answered slot known =>
        have notPlace : slot ≠ place := by
          rintro rfl
          obtain ⟨key, unsettled⟩ := placeOpen
          obtain ⟨_, settled⟩ := outcomeAt_eq_some.mp placed
          rw [unsettled] at settled
          cases settled
        exact (finish_outcomeAt_other desk caller outcome notPlace).trans placed
      | returned _ => trivial
      | dropped => trivial
  · intro slot first second found found' there there' holdsSlot holdsSlot'
    rcases (getElem?_set_iff ..).mp there with ⟨_, _, rfl⟩ | ⟨_, there⟩
    · simp [Caller.holds] at holdsSlot
    rcases (getElem?_set_iff ..).mp there' with ⟨_, _, rfl⟩ | ⟨_, there'⟩
    · simp [Caller.holds] at holdsSlot'
    exact seating.one_holder slot first second found found' there there' holdsSlot holdsSlot'
  · intro other slot there unsettled
    have notPlace : slot ≠ place := by
      rintro rfl
      rw [outcomeHere] at unsettled
      cases unsettled
    rcases (getElem?_set_iff ..).mp there with ⟨_, _, same⟩ | ⟨_, there⟩
    · cases same
    rw [finish_outcomeAt_other desk caller outcome notPlace] at unsettled
    obtain ⟨holder, found, held, holdsSlot⟩ :=
      (isHeld_iff desk slot).mp (seating.attended other slot there unsettled)
    have notCaller : holder ≠ caller := by
      rintro rfl
      rw [here] at held
      cases held
      exact notPlace (Caller.holds_unique holdsSlot holds)
    exact (isHeld_iff _ slot).mpr
      ⟨holder, found, (getElem?_set_iff ..).mpr (.inr ⟨notCaller, held⟩), holdsSlot⟩

-- The holder of a slot without outcome has gone, and nobody has taken its place yet.
structure Vacant (desk : Desk α) (slot : Nat) : Prop where
  placed : ∀ (caller : Nat) (state : Caller α), desk.callers[caller]? = some state →
    desk.Placed state
  one_holder : desk.OneHolder
  attended : ∀ caller other : Nat, other ≠ slot → desk.callers[caller]? = some (.waiting other) →
    desk.outcomeAt other = none → desk.isHeld other = true
  free : ∀ (caller : Nat) (state : Caller α), desk.callers[caller]? = some state →
    state.holds slot = false
  unsettled : ∃ key, desk.slots[slot]? = some { key, outcome := none }

theorem Seating.vacant (seating : desk.Seating) {caller slot : Nat} {before : Caller α}
    (here : desk.callers[caller]? = some before) (holds : before.holds slot = true) :
    (desk.setCaller caller .dropped).Vacant slot where
  placed := by
    intro other state there
    rcases (getElem?_set_iff ..).mp there with ⟨_, _, rfl⟩ | ⟨_, there⟩
    · trivial
    · exact seating.placed other state there
  one_holder := by
    intro place first second state state' there there' holdsPlace holdsPlace'
    rcases (getElem?_set_iff ..).mp there with ⟨_, _, rfl⟩ | ⟨_, there⟩
    · simp [Caller.holds] at holdsPlace
    rcases (getElem?_set_iff ..).mp there' with ⟨_, _, rfl⟩ | ⟨_, there'⟩
    · simp [Caller.holds] at holdsPlace'
    exact seating.one_holder place first second state state' there there' holdsPlace holdsPlace'
  attended := by
    intro other place notSlot there unsettled
    rcases (getElem?_set_iff ..).mp there with ⟨_, _, same⟩ | ⟨_, there⟩
    · cases same
    obtain ⟨holder, state, held, holdsPlace⟩ :=
      (isHeld_iff desk place).mp (seating.attended other place there unsettled)
    have notCaller : holder ≠ caller := by
      rintro rfl
      rw [here] at held
      cases held
      exact notSlot (Caller.holds_unique holdsPlace holds)
    exact (isHeld_iff _ place).mpr
      ⟨holder, state, (getElem?_set_iff ..).mpr (.inr ⟨notCaller, held⟩), holdsPlace⟩
  free := by
    intro other state there
    rcases (getElem?_set_iff ..).mp there with ⟨_, _, rfl⟩ | ⟨notCaller, there⟩
    · rfl
    · cases holdsToo : state.holds slot with
      | false => rfl
      | true =>
        exact absurd (seating.one_holder slot other caller state before there here holdsToo holds)
          notCaller
  unsettled := (seating.placed caller before here).holds holds

theorem Vacant.handOver {slot : Nat} (vacant : desk.Vacant slot) :
    (desk.handOver slot).Seating := by
  rcases handOver_cases desk slot with ⟨same, nobody⟩ | ⟨next, waits, same⟩
  · rw [same]
    refine ⟨vacant.placed, vacant.one_holder, ?_⟩
    intro caller other here unsettled
    have notSlot : other ≠ slot := by
      rintro rfl
      exact nobody caller here
    exact vacant.attended caller other notSlot here unsettled
  · rw [same]
    have inside : next < desk.callers.length := (List.getElem?_eq_some_iff.mp waits).1
    constructor
    · intro caller state here
      rcases (getElem?_set_iff ..).mp here with ⟨_, _, rfl⟩ | ⟨_, here⟩
      · exact vacant.unsettled
      · exact vacant.placed caller state here
    · intro place first second state state' here here' holds holds'
      rcases (getElem?_set_iff ..).mp here with ⟨atNext, _, rfl⟩ | ⟨_, before⟩ <;>
        rcases (getElem?_set_iff ..).mp here' with ⟨atNext', _, rfl⟩ | ⟨_, before'⟩
      · exact atNext.trans atNext'.symm
      · have same : slot = place := by simpa [Caller.holds] using holds
        simp [← same, vacant.free second state' before'] at holds'
      · have same : slot = place := by simpa [Caller.holds] using holds'
        simp [← same, vacant.free first state before] at holds
      · exact vacant.one_holder place first second state state' before before' holds holds'
    · intro caller other here unsettled
      rcases (getElem?_set_iff ..).mp here with ⟨_, _, same⟩ | ⟨_, here⟩
      · cases same
      rw [isHeld_iff]
      by_cases atSlot : other = slot
      · subst atSlot
        exact ⟨next, .chosen other, (getElem?_set_iff ..).mpr (.inl ⟨rfl, inside, rfl⟩),
          by simp [Caller.holds]⟩
      · obtain ⟨holder, state, held, holds⟩ :=
          (isHeld_iff desk other).mp (vacant.attended caller other atSlot here unsettled)
        have notNext : holder ≠ next := by
          rintro rfl
          rw [waits] at held
          cases held
          simp [Caller.holds] at holds
        exact ⟨holder, state, (getElem?_set_iff ..).mpr (.inr ⟨notNext, held⟩), holds⟩

end SymbolSearch.Ranking.Desk
