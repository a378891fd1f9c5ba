import SymbolSearch.Proofs.Ranking.Entries

set_option autoImplicit false

namespace SymbolSearch.Ranking

variable {α : Type}

namespace Caller

theorem holds_unique {state : Caller α} {slot other : Nat} (first : state.holds slot = true)
    (second : state.holds other = true) : slot = other := by
  cases state <;> simp_all [holds]

theorem holds_iff (state : Caller α) (slot : Nat) :
    state.holds slot = true ↔ state = .chosen slot ∨ ∃ found, state = .asking slot found := by
  cases state <;> simp [holds]

theorem waitsAt_iff (state : Caller α) (slot : Nat) :
    state.waitsAt slot = true ↔ state = .waiting slot := by
  cases state <;> simp [waitsAt]

end Caller

namespace Desk

theorem getElem?_concat_iff {β : Type} (items : List β) (item found : β) (index : Nat) :
    (items ++ [item])[index]? = some found ↔
      items[index]? = some found ∨ index = items.length ∧ found = item := by
  rcases Nat.lt_trichotomy index items.length with before | rfl | behind
  · have other : index ≠ items.length := by omega
    simp [List.getElem?_append_left before, other]
  · simp [eq_comm]
  · have other : index ≠ items.length := by omega
    have outside : (items ++ [item]).length ≤ index := by
      simp only [List.length_append, List.length_singleton]
      omega
    rw [List.getElem?_eq_none outside, List.getElem?_eq_none (by omega : items.length ≤ index)]
    simp [other]

theorem getElem?_set_iff {β : Type} (items : List β) (item found : β) (index place : Nat) :
    (items.set place item)[index]? = some found ↔
      (index = place ∧ place < items.length ∧ found = item) ∨
        (index ≠ place ∧ items[index]? = some found) := by
  rw [List.getElem?_set]
  by_cases same : place = index
  · subst same
    by_cases inside : place < items.length <;> simp [inside, eq_comm]
  · simp [same, Ne.symm same]

variable {desk : Desk α}

theorem outcomeAt_eq_some {slot : Nat} {outcome : Outcome α} :
    desk.outcomeAt slot = some outcome ↔
      ∃ key, desk.slots[slot]? = some { key, outcome := some outcome } := by
  simp only [outcomeAt, Option.bind_eq_some_iff]
  constructor
  · rintro ⟨⟨key, _⟩, here, rfl⟩
    exact ⟨key, here⟩
  · rintro ⟨key, here⟩
    exact ⟨_, here, rfl⟩

theorem outcomeAt_eq_none {slot : Nat} (inside : slot < desk.slots.length) :
    desk.outcomeAt slot = none ↔ ∃ key, desk.slots[slot]? = some { key, outcome := none } := by
  simp only [outcomeAt, List.getElem?_eq_getElem inside, Option.bind_some, Option.some.injEq]
  rcases desk.slots[slot] with ⟨key, outcome⟩
  simp

theorem isHeld_iff (desk : Desk α) (slot : Nat) :
    desk.isHeld slot = true ↔
      ∃ (holder : Nat) (state : Caller α),
        desk.callers[holder]? = some state ∧ state.holds slot = true := by
  simp only [isHeld, List.any_eq_true, List.mem_iff_getElem?]
  constructor
  · rintro ⟨state, ⟨holder, here⟩, holds⟩
    exact ⟨holder, state, here, holds⟩
  · rintro ⟨holder, state, here, holds⟩
    exact ⟨state, ⟨holder, here⟩, holds⟩

theorem openSlot_slot (desk : Desk α) (key : Key) (slot : Nat) (entry : Slot α) :
    (desk.openSlot key).slots[slot]? = some entry ↔
      desk.slots[slot]? = some entry ∨
        slot = desk.slots.length ∧ entry = { key, outcome := none } :=
  getElem?_concat_iff _ _ _ _

theorem finish_slot (desk : Desk α) (caller place slot : Nat) (outcome : Outcome α)
    (entry : Slot α) :
    (desk.finish caller place outcome).slots[slot]? = some entry ↔
      (slot = place ∧ ∃ settled, desk.slots[slot]? = some { key := entry.key, outcome := settled } ∧
          entry.outcome = some outcome) ∨
        (slot ≠ place ∧ desk.slots[slot]? = some entry) := by
  obtain ⟨key, result⟩ := entry
  simp only [finish, List.getElem?_modify]
  by_cases same : place = slot
  · subst same
    rcases here : desk.slots[place]? with _ | ⟨found, settled⟩
    · simp
    · simp [eq_comm]
  · have other : slot ≠ place := Ne.symm same
    simp [same, other]

theorem finish_slot_other (desk : Desk α) (caller : Nat) (outcome : Outcome α) {place slot : Nat}
    (other : slot ≠ place) :
    (desk.finish caller place outcome).slots[slot]? = desk.slots[slot]? := by
  simp [finish, Ne.symm other]

theorem finish_outcomeAt_other (desk : Desk α) (caller : Nat) (outcome : Outcome α)
    {place slot : Nat} (other : slot ≠ place) :
    (desk.finish caller place outcome).outcomeAt slot = desk.outcomeAt slot := by
  rw [outcomeAt, finish_slot_other desk caller outcome other, outcomeAt]

theorem finish_outcomeAt {place : Nat} {entry : Slot α} (here : desk.slots[place]? = some entry)
    (caller : Nat) (outcome : Outcome α) :
    (desk.finish caller place outcome).outcomeAt place = some outcome :=
  outcomeAt_eq_some.mpr
    ⟨entry.key, (finish_slot ..).mpr (.inl ⟨rfl, entry.outcome, here, rfl⟩)⟩

inductive Joins (desk : Desk α) (slot : Nat) : Caller α → Prop where
  | answered {outcome : Outcome α} (settled : desk.outcomeAt slot = some outcome) :
      Joins desk slot (.answered slot outcome)
  | waiting (unsettled : desk.outcomeAt slot = none) (held : desk.isHeld slot = true) :
      Joins desk slot (.waiting slot)
  | chosen (unsettled : desk.outcomeAt slot = none) (free : desk.isHeld slot = false) :
      Joins desk slot (.chosen slot)

theorem join_cases (desk : Desk α) (slot : Nat) :
    ∃ state, Joins desk slot state ∧ desk.join slot = desk.addCaller state := by
  unfold join
  split
  next outcome settled => exact ⟨_, .answered settled, rfl⟩
  next unsettled =>
    split
    next held => exact ⟨_, .waiting unsettled held, rfl⟩
    next free => exact ⟨_, .chosen unsettled (Bool.eq_false_iff.mpr free), rfl⟩

theorem call_cases (desk : Desk α) (key : Key) :
    (∃ ranked, desk.done.lookup key = some ranked ∧
      desk.call key =
        { desk with done := (key, ranked) :: forget key desk.done }.addCaller
          (.returned (.ok ranked))) ∨
    (desk.done.lookup key = none ∧ ∃ slot, desk.pending.lookup key = some slot ∧
      desk.call key = desk.join slot) ∨
    (desk.done.lookup key = none ∧ desk.pending.lookup key = none ∧
      desk.call key = (desk.openSlot key).join desk.slots.length) := by
  unfold call
  split
  next ranked hit => exact .inl ⟨ranked, hit, rfl⟩
  next miss =>
    split
    next slot pending => exact .inr (.inl ⟨miss, slot, pending, rfl⟩)
    next absent => exact .inr (.inr ⟨miss, absent, rfl⟩)

theorem start_cases (search : String → Nat → Ranked α) (desk : Desk α) (caller : Nat) :
    desk.start search caller = desk ∨
    ∃ slot entry, desk.callers[caller]? = some (.chosen slot) ∧ desk.slots[slot]? = some entry ∧
      ((candidates search entry.key = [] ∧
          desk.start search caller = desk.finish caller slot (.ok [])) ∨
        (candidates search entry.key ≠ [] ∧
          desk.start search caller =
            desk.setCaller caller (.asking slot (candidates search entry.key)))) := by
  unfold Desk.start
  split
  next slot here =>
    split
    next => exact .inl rfl
    next entry found =>
      refine .inr ⟨slot, entry, here, found, ?_⟩
      split
      next none => exact .inl ⟨none, rfl⟩
      next some => exact .inr ⟨some, rfl⟩
  next => exact .inl rfl

theorem reply_cases (desk : Desk α) (caller : Nat) (answer : Except Failure (List String)) :
    (desk.reply caller answer = desk ∧ ∀ slot found entry,
      desk.callers[caller]? = some (.asking slot found) → desk.slots[slot]? ≠ some entry) ∨
    ∃ slot found entry, desk.callers[caller]? = some (.asking slot found) ∧
      desk.slots[slot]? = some entry ∧
      desk.reply caller answer =
        desk.finish caller slot (answer.map fun ids => select found ids entry.key.limit) := by
  unfold reply
  split
  next slot found asking =>
    split
    next missing =>
      refine .inl ⟨rfl, ?_⟩
      intro other found' entry asking'
      rw [asking] at asking'
      cases asking'
      simp [missing]
    next entry here => exact .inr ⟨slot, found, entry, asking, here, rfl⟩
  next idle =>
    refine .inl ⟨rfl, ?_⟩
    intro slot found entry asking
    exact absurd asking (idle slot found)

theorem ready_cases {caller slot : Nat} {outcome : Outcome α}
    (ready : desk.ready? caller = some (slot, outcome)) :
    desk.callers[caller]? = some (.answered slot outcome) ∨
      (desk.callers[caller]? = some (.waiting slot) ∧ desk.outcomeAt slot = some outcome) := by
  unfold ready? at ready
  split at ready
  next here =>
    cases ready
    exact .inl here
  next slot here =>
    obtain ⟨_, settled, same⟩ := Option.map_eq_some_iff.mp ready
    cases same
    exact .inr ⟨here, settled⟩
  next => cases ready

theorem settle_cases (desk : Desk α) (caller : Nat) :
    desk.settle caller = desk ∨
    ∃ slot outcome, desk.ready? caller = some (slot, outcome) ∧
      desk.settle caller =
        (desk.close slot outcome).setCaller caller (.returned (share outcome)) := by
  unfold settle
  split
  next slot outcome ready => exact .inr ⟨slot, outcome, ready, rfl⟩
  next => exact .inl rfl

def closed (desk : Desk α) (key : Key) (outcome : Outcome α) : Desk α :=
  { desk with
    pending := forget key desk.pending
    done :=
      match outcome with
      | .ok ranked => desk.keep key ranked
      | .error _ => desk.done }

theorem close_cases (desk : Desk α) (slot : Nat) (outcome : Outcome α) :
    (desk.close slot outcome = desk ∧ ∀ entry, desk.slots[slot]? = some entry →
      desk.pending.lookup entry.key ≠ some slot) ∨
    ∃ entry, desk.slots[slot]? = some entry ∧ desk.pending.lookup entry.key = some slot ∧
      desk.close slot outcome = desk.closed entry.key outcome := by
  unfold close
  split
  next missing => exact .inl ⟨rfl, by simp [missing]⟩
  next entry here =>
    split
    next pending => exact .inr ⟨entry, here, pending, rfl⟩
    next elsewhere =>
      refine .inl ⟨rfl, ?_⟩
      intro other here'
      rw [here] at here'
      cases here'
      exact elsewhere

theorem close_callers (desk : Desk α) (slot : Nat) (outcome : Outcome α) :
    (desk.close slot outcome).callers = desk.callers := by
  rcases close_cases desk slot outcome with ⟨same, _⟩ | ⟨entry, _, _, same⟩ <;> rw [same]
  rfl

theorem handOver_cases (desk : Desk α) (slot : Nat) :
    (desk.handOver slot = desk ∧ ∀ caller : Nat, desk.callers[caller]? ≠ some (.waiting slot)) ∨
    ∃ next, desk.callers[next]? = some (.waiting slot) ∧
      desk.handOver slot = desk.setCaller next (.chosen slot) := by
  unfold handOver
  split
  next next first =>
    obtain ⟨inside, waits, _⟩ := List.findIdx?_eq_some_iff_getElem.mp first
    refine .inr ⟨next, ?_, rfl⟩
    rw [List.getElem?_eq_getElem inside, (Caller.waitsAt_iff _ _).mp waits]
  next none =>
    refine .inl ⟨rfl, ?_⟩
    intro caller here
    have idle := List.findIdx?_eq_none_iff.mp none _ (List.mem_of_getElem? here)
    simp [Caller.waitsAt] at idle

theorem drop_cases (desk : Desk α) (caller : Nat) :
    desk.drop caller = desk ∨
    (∃ slot, desk.callers[caller]? = some (.waiting slot) ∧
      desk.drop caller = desk.setCaller caller .dropped) ∨
    ∃ slot state, desk.callers[caller]? = some state ∧ state.holds slot = true ∧
      desk.drop caller = (desk.setCaller caller .dropped).handOver slot := by
  unfold drop
  split
  next slot here => exact .inr (.inl ⟨slot, here, rfl⟩)
  next slot here => exact .inr (.inr ⟨slot, _, here, by simp [Caller.holds], rfl⟩)
  next slot found here => exact .inr (.inr ⟨slot, _, here, by simp [Caller.holds], rfl⟩)
  next => exact .inl rfl

theorem outcomeOf_eq_some {caller : Nat} {outcome : Outcome α} :
    desk.outcomeOf caller = some outcome ↔ desk.callers[caller]? = some (.returned outcome) := by
  unfold outcomeOf
  split
  next other here => simp [here]
  next absent =>
    have none : desk.callers[caller]? ≠ some (.returned outcome) := absent outcome
    simp [none]

theorem outcomeOf_setCaller {caller other : Nat} {before : Caller α} {outcome : Outcome α}
    (returned : desk.outcomeOf other = some outcome) (here : desk.callers[caller]? = some before)
    (busy : ∀ known, before ≠ .returned known) (state : Caller α) :
    (desk.setCaller caller state).outcomeOf other = some outcome := by
  rw [outcomeOf_eq_some] at returned ⊢
  refine (getElem?_set_iff ..).mpr (.inr ⟨?_, returned⟩)
  rintro rfl
  rw [here] at returned
  cases returned
  exact busy outcome rfl

theorem outcomeOf_addCaller {other : Nat} {outcome : Outcome α}
    (returned : desk.outcomeOf other = some outcome) (state : Caller α) :
    (desk.addCaller state).outcomeOf other = some outcome := by
  rw [outcomeOf_eq_some] at returned ⊢
  exact (getElem?_concat_iff ..).mpr (.inl returned)

theorem outcomeOf_eq_of_callers {after : Desk α} (same : after.callers = desk.callers)
    (caller : Nat) : after.outcomeOf caller = desk.outcomeOf caller := by
  simp only [outcomeOf, same]

theorem outcomeOf_step (search : String → Nat → Ranked α) {other : Nat} {outcome : Outcome α}
    (returned : desk.outcomeOf other = some outcome) (event : Event) :
    (desk.step search event).outcomeOf other = some outcome := by
  cases event with
  | call key =>
    have join {desk : Desk α} (returned : desk.outcomeOf other = some outcome) (slot : Nat) :
        (desk.join slot).outcomeOf other = some outcome := by
      obtain ⟨state, _, same⟩ := join_cases desk slot
      rw [same]
      exact outcomeOf_addCaller returned state
    simp only [step]
    rcases call_cases desk key with ⟨ranked, _, same⟩ | ⟨_, slot, _, same⟩ | ⟨_, _, same⟩
    · rw [same]
      exact outcomeOf_addCaller returned _
    · rw [same]
      exact join returned slot
    · rw [same]
      have opened : (desk.openSlot key).outcomeOf other = some outcome := returned
      exact join opened _
  | start caller =>
    simp only [step]
    rcases start_cases search desk caller with
      same | ⟨slot, entry, here, _, ⟨_, same⟩ | ⟨_, same⟩⟩
    · rwa [same]
    · rw [same]
      exact outcomeOf_setCaller returned here (by simp) _
    · rw [same]
      exact outcomeOf_setCaller returned here (by simp) _
  | reply caller answer =>
    simp only [step]
    rcases reply_cases desk caller answer with ⟨same, _⟩ | ⟨slot, found, entry, here, _, same⟩
    · rwa [same]
    · rw [same]
      exact outcomeOf_setCaller returned here (by simp) _
  | settle caller =>
    simp only [step]
    rcases settle_cases desk caller with same | ⟨slot, known, ready, same⟩
    · rwa [same]
    · rw [same]
      have callers := close_callers desk slot known
      rw [← outcomeOf_eq_of_callers callers] at returned
      rcases ready_cases ready with here | ⟨here, _⟩ <;> rw [← callers] at here <;>
        exact outcomeOf_setCaller returned here (by simp) _
  | drop caller =>
    simp only [step]
    rcases drop_cases desk caller with
      same | ⟨slot, here, same⟩ | ⟨slot, state, here, holds, same⟩
    · rwa [same]
    · rw [same]
      exact outcomeOf_setCaller returned here (by simp) _
    · rw [same]
      have dropped : (desk.setCaller caller .dropped).outcomeOf other = some outcome := by
        refine outcomeOf_setCaller returned here ?_ _
        rintro known rfl
        simp [Caller.holds] at holds
      rcases handOver_cases (desk.setCaller caller .dropped) slot with
        ⟨same, _⟩ | ⟨next, waits, same⟩
      · rwa [same]
      · rw [same]
        exact outcomeOf_setCaller dropped waits (by simp) _

end Desk

end SymbolSearch.Ranking
